import Barrage.Text.Blank
import Barrage.Text.Decimal
import Barrage.Disk
import Barrage.Toml.Decode

/-! Settings: defaults, what a document says over them, and what the environment says over that. -/

namespace Barrage

structure Settings where
  /-- The address that the server listens on. -/
  bind : String
  scriptsDirectory : String
  resultsDirectory : String
  /-- After how many days results are removed, if ever. -/
  retentionDays : Option UInt64
  /-- The longest time that a request may take, in seconds. -/
  timeoutSeconds : UInt64
  deriving DecidableEq, Repr

inductive SettingsFault where
  | unreadable (path : String) (cause : DiskFault)
  /-- The document is none. -/
  | malformed
  /-- A value of the document does not fit; the text shows where. -/
  | misfit (text : String)
  | invalid (reason : String)
  deriving DecidableEq, Repr

def SettingsFault.message : SettingsFault → String
  | .unreadable path cause => "Failed to read config file '" ++ path ++ "': " ++ cause.message
  | .malformed => "Failed to parse config: TOML parse error"
  | .misfit text => "Failed to parse config: " ++ text
  | .invalid reason => "Invalid config: " ++ reason

namespace Settings

def default : Settings where
  bind := "127.0.0.1:8080"
  scriptsDirectory := "./scripts"
  resultsDirectory := "./scripts/results"
  retentionDays := none
  timeoutSeconds := 30

instance : Inhabited Settings := ⟨default⟩

open Toml in
def groups : List (Setting Settings) := [
  ⟨"server", takeGroup "struct ServerConfig" [
    .of "bind" (textOf "a string") fun s v => { s with bind := v }]⟩,
  ⟨"storage", takeGroup "struct StorageConfig" [
    .of "scripts_dir" (textOf "path string") fun s v => { s with scriptsDirectory := v },
    .of "results_dir" (textOf "path string") fun s v => { s with resultsDirectory := v },
    .of "retention_days" wordOf fun s v => { s with retentionDays := some v }]⟩,
  ⟨"engine", takeGroup "struct EngineConfig" [
    .of "request_timeout_secs" wordOf fun s v => { s with timeoutSeconds := v }]⟩]

/-- The settings of a document. A number that is too great for a word counts as malformed where some
other value does not fit. -/
def ofDocument (text : String) : Except SettingsFault Settings :=
  match Toml.read? text.toList with
  | none => .error .malformed
  | some entries =>
    match Toml.takeEntries groups default entries with
    | .ok s => .ok s
    | .error f =>
      if Toml.entriesFit entries then .error (.misfit (f.message text.toList))
      else .error .malformed

/-- The variables of an environment, by name; only texts count. -/
abbrev Environment := List (String × String)

def valueOf? (env : Environment) (name : String) : Option String :=
  (env.find? (·.1 == name)).map (·.2)

def variableNames : List String := ["LOADRIG_BIND", "LOADRIG_SCRIPTS_DIR", "LOADRIG_RESULTS_DIR",
  "LOADRIG_RETENTION_DAYS", "LOADRIG_REQUEST_TIMEOUT_SECS"]

/-- The settings with what an environment says over them; a number that cannot be read says nothing. -/
def override (env : Environment) (s : Settings) : Settings where
  bind := (valueOf? env "LOADRIG_BIND").getD s.bind
  scriptsDirectory := (valueOf? env "LOADRIG_SCRIPTS_DIR").getD s.scriptsDirectory
  resultsDirectory := (valueOf? env "LOADRIG_RESULTS_DIR").getD s.resultsDirectory
  retentionDays := ((valueOf? env "LOADRIG_RETENTION_DAYS").bind Decimal.word64?).or s.retentionDays
  timeoutSeconds :=
    ((valueOf? env "LOADRIG_REQUEST_TIMEOUT_SECS").bind Decimal.word64?).getD s.timeoutSeconds

def check (s : Settings) : Except SettingsFault Unit :=
  if s.timeoutSeconds = 0 then
    .error (.invalid "engine.request_timeout_secs must be greater than 0")
  else if Text.isBlankText s.bind then .error (.invalid "server.bind must not be empty")
  else .ok ()

def daySeconds (days : UInt64) : UInt64 := UInt64.ofNat (min (days.toNat * 86400) (UInt64.size - 1))

def retentionSeconds (s : Settings) : Option UInt64 := s.retentionDays.map daySeconds

def usualPath : String := "loadrig.toml"

def ofFile (d : Disk) (path : String) : Except SettingsFault Settings :=
  match d.readText path with
  | .ok text => ofDocument text
  | .error cause => .error (.unreadable path cause)

/-- The settings in force: of a document, the environment over it, and checked as a whole. -/
def load (d : Disk) (path : Option String) (env : Environment) : Except SettingsFault Settings := do
  let s ← match path with
    | some path => ofFile d path
    | none => if d.isFile usualPath then ofFile d usualPath else .ok default
  let s := override env s
  s.check
  .ok s

end Settings
end Barrage
