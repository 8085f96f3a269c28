import Barrage.Command.Arguments
import Barrage.Plan
import Barrage.Text.Decimal

/-! Orders that a command line can give.
Options for the settings may stand before the verb or after it. -/

namespace Barrage.Command

inductive Order where
  /-- Run a script from a file and show a summary; `keep` says whether the result is stored, and
  `plain` that no colours are wanted. -/
  | run (script : String) (users : UInt32) (seconds : UInt64) (kind : TestKind) (keep plain : Bool)
  | serve (bind : Option String)
  | history (scriptId : Option String) (asDocument : Bool)
  | k6 (script : String) (users : UInt32) (seconds : UInt64)
  | cleanup (days : UInt64)
  deriving DecidableEq, Repr

def Order.script? : Order → Option String
  | .run script .. => some script
  | .k6 script .. => some script
  | _ => none

structure Invocation where
  config : Option String
  order : Order
  deriving DecidableEq, Repr

def isPath (s : String) : Bool := !s.isEmpty

def users? (s : String) : Option UInt32 :=
  match s.toList with
  | '-' :: ds => if ds ≠ [] ∧ ds.all (· = '0') then some 0 else none
  | _ => Decimal.word32? s

def kind? (s : String) : Option TestKind := (TestKind.ofText s).toOption

def flag (long about : String) : Opt := ⟨long, none, .flag, about⟩

def path (long about : String) : Opt := ⟨long, none, .value isPath, about⟩

def text (long about : String) : Opt := ⟨long, none, .value fun _ => true, about⟩

def word (long about : String) : Opt :=
  ⟨long, none, .value fun s => (Decimal.word64? s).isSome, about⟩

def scriptFile : Opt := path "script" "Script JSON file"

def users : Opt :=
  ⟨"vus", none, .value fun s => (users? s).isSome, "Number of virtual users [default: 10]"⟩

def duration : Opt := word "duration" "Test duration in seconds [default: 30]"

def kind : Opt :=
  ⟨"type", none, .value fun s => (kind? s).isSome,
    "Test type label: smoke, load, stress or spike [default: load]"⟩

def shared : List Opt :=
  [path "config" "Path to config file (default: ./loadrig.toml if present)",
    ⟨"verbose", some 'v', .flag, "Enable debug logging"⟩,
    ⟨"help", some 'h', .stop .help, "Print help"⟩]

def leading : List Opt :=
  shared ++ [⟨"version", some 'V', .stop .version, "Print version"⟩]

namespace Given

def users (g : Given) : UInt32 := ((g.value? "vus").bind users?).getD 10

def seconds (g : Given) : UInt64 := ((g.value? "duration").bind Decimal.word64?).getD 30

def kind (g : Given) : TestKind := ((g.value? "type").bind kind?).getD .load

end Given

structure Verb where
  name : String
  about : String
  options : List Opt
  /-- The order of the options given, if none is missing. -/
  order? : Given → Option Order

def verbs : List Verb := [
  { name := "run"
    about := "Run a load test from a script file"
    options := [scriptFile, users, duration, kind, flag "no-save" "Do not store the result",
      flag "no-color" "Disable colored output"]
    order? := fun g => (g.value? "script").map fun script =>
      .run script g.users g.seconds g.kind (!g.has "no-save") (g.has "no-color") },
  { name := "serve"
    about := "Start the HTTP API"
    options := [text "bind" "Listen address (overrides config)"]
    order? := fun g => some (.serve (g.value? "bind")) },
  { name := "history"
    about := "List stored results, newest first"
    options := [text "script-id" "Only show results of this script",
      flag "json" "Print JSON instead of a table"]
    order? := fun g => some (.history (g.value? "script-id") (g.has "json")) },
  { name := "k6"
    about := "Print a k6 script equivalent to a script file"
    options := [scriptFile, users, duration]
    order? := fun g => (g.value? "script").map fun script => .k6 script g.users g.seconds },
  { name := "cleanup"
    about := "Delete stored results older than the given age"
    options := [word "older-than-days" "Age threshold in days"]
    order? := fun g => ((g.value? "older-than-days").bind Decimal.word64?).map .cleanup }]

def verb? (name : String) : Option Verb := verbs.find? (·.name == name)

def isTopic : List String → Bool
  | [] => true
  | [name] => name == "help" || (verb? name).isSome
  | _ => false

def chooseConfig (before after : Given) (inherited : Option String) : Except Stop (Option String) :=
  match before.value? "config", after.value? "config", inherited with
  | some _, some path, _ => .ok (some path)
  | _, _, some "" => .error .usage
  | none, some path, _ => .ok (some path)
  | some path, none, _ => .ok (some path)
  | none, none, inherited => .ok inherited

/-- The order that arguments give; `inherited` is the document of settings that the environment
names. -/
def Invocation.ofArguments (inherited : Option String) (args : List String) :
    Except Stop Invocation := do
  match ← readOptions leading [] args with
  | (_, none) => .error .usage
  | (before, some (name, rest)) =>
    if name = "help" then .error (if isTopic rest then .help else .usage)
    else match verb? name with
      | none => .error .usage
      | some v =>
        match ← readOptions (shared ++ v.options) [] rest with
        | (_, some _) => .error .usage
        | (after, none) =>
          let config ← chooseConfig before after inherited
          match v.order? after with
          | some order => .ok ⟨config, order⟩
          | none => .error .usage

end Barrage.Command
