import Mathlib.Logic.Function.Basic
import Barrage.Proofs.Encodings
import Barrage.Proofs.SettingsDocuments

/-! Settings in layers.
The environment lies over a document and the document over the defaults. Every setting has the value
of the topmost layer that says something of it, and the check is made of what comes out of that. A
variable that holds no text, or no number where one is due, says nothing. -/

namespace Barrage

namespace Toml

def Value.text? : Value → Option String
  | .string s => some s
  | _ => none

def Value.word? : Value → Option UInt64
  | .integer n => if 0 ≤ n ∧ n < UInt64.size then some (UInt64.ofNat n.toNat) else none
  | _ => none

theorem textOf_eq_ok_iff {expected : String} {v : Span × Value} {s : String} :
    textOf expected v = .ok s ↔ v.2.text? = some s := by
  obtain ⟨span, v⟩ := v
  cases v <;> simp [textOf, Value.text?]

theorem wordOf_eq_ok_iff {v : Span × Value} {n : UInt64} :
    wordOf v = .ok n ↔ v.2.word? = some n := by
  obtain ⟨span, v⟩ := v
  cases v with
  | integer n =>
    simp only [wordOf, Value.word?]
    by_cases natural : 0 ≤ n
    · rw [if_neg (Int.not_lt.2 natural)]
      by_cases word : n < UInt64.size
      · rw [if_pos word, if_pos ⟨natural, word⟩, Except.ok.injEq, Option.some.injEq]
      · rw [if_neg word, if_neg fun fits => word fits.2]
        simp
    · rw [if_pos (Int.not_le.1 natural), if_neg fun fits => natural fits.1]
      simp
  | _ => simp [wordOf, Value.word?]

end Toml

namespace Settings
open Toml

attribute [ext] Settings

structure Layer where
  bind : Option String
  scriptsDirectory : Option String
  resultsDirectory : Option String
  retentionDays : Option UInt64
  timeoutSeconds : Option UInt64

namespace Layer

/-- The settings with what a layer says over them. -/
def above (l : Layer) (s : Settings) : Settings where
  bind := l.bind.getD s.bind
  scriptsDirectory := l.scriptsDirectory.getD s.scriptsDirectory
  resultsDirectory := l.resultsDirectory.getD s.resultsDirectory
  retentionDays := l.retentionDays.or s.retentionDays
  timeoutSeconds := l.timeoutSeconds.getD s.timeoutSeconds

theorem above_above_self (l : Layer) (s : Settings) : l.above (l.above s) = l.above s := by
  obtain ⟨bind, scripts, results, days, timeout⟩ := l
  cases bind <;> cases scripts <;> cases results <;> cases days <;> cases timeout <;> rfl

end Layer

def Layer.ofVariables (text? : String → Option String) : Layer where
  bind := text? "LOADRIG_BIND"
  scriptsDirectory := text? "LOADRIG_SCRIPTS_DIR"
  resultsDirectory := text? "LOADRIG_RESULTS_DIR"
  retentionDays := (text? "LOADRIG_RETENTION_DAYS").bind Decimal.word64?
  timeoutSeconds := (text? "LOADRIG_REQUEST_TIMEOUT_SECS").bind Decimal.word64?

theorem override_eq_above (env : Environment) (s : Settings) :
    override env s = (Layer.ofVariables (valueOf? env)).above s := rfl

theorem override_override (env : Environment) (s : Settings) :
    override env (override env s) = override env s := by
  rw [override_eq_above, override_eq_above]
  exact Layer.above_above_self _ s

section
variable {held : String → Option (List UInt8)} {name : String}

def textUnder? (held : String → Option (List UInt8)) (name : String) : Option String :=
  (held name).bind Symbol.textOfBytes?

/-- The environment that is read on a system that holds bytes under names: the variables of the
settings, and others before them. -/
def environmentOf (others : List String) (held : String → Option (List UInt8)) : Environment :=
  (others ++ variableNames).filterMap fun name => (textUnder? held name).map (name, ·)

theorem valueOf?_filterMap {text? : String → Option String} {names : List String}
    (listed : name ∈ names) :
    valueOf? (names.filterMap fun n => (text? n).map (n, ·)) name = text? name := by
  induction names with
  | nil => cases listed
  | cons first rest ih =>
    rw [List.filterMap_cons]
    by_cases same : first = name
    · subst same
      cases here : text? first with
      | some text => simp [valueOf?]
      | none =>
        -- No later variable of that name holds anything either.
        refine Option.map_eq_none_iff.2 (List.find?_eq_none.2 fun v member => ?_)
        obtain ⟨n, -, there⟩ := List.mem_filterMap.1 member
        obtain ⟨text, holds, rfl⟩ := Option.map_eq_some_iff.1 there
        intro found
        have same : n = first := eq_of_beq found
        rw [same, here] at holds
        cases holds
    · have later := ih (List.mem_of_ne_of_mem (Ne.symm same) listed)
      cases text? first with
      | none => exact later
      | some text => simpa [valueOf?, same] using later

theorem ofVariables_environmentOf (others : List String) (held : String → Option (List UInt8)) :
    Layer.ofVariables (valueOf? (environmentOf others held)) =
      Layer.ofVariables (textUnder? held) := by
  have same {name : String} (listed : name ∈ variableNames) :
      valueOf? (environmentOf others held) name = textUnder? held name :=
    valueOf?_filterMap (List.mem_append_right _ listed)
  simp only [Layer.ofVariables]
  rw [same (by decide), same (by decide), same (by decide), same (by decide), same (by decide)]

def numberVariables : List String := ["LOADRIG_RETENTION_DAYS", "LOADRIG_REQUEST_TIMEOUT_SECS"]

/-- A variable says nothing: it holds no text, or no number where one is due. -/
def Silent (held : String → Option (List UInt8)) (name : String) : Prop :=
  ∀ text, textUnder? held name = some text →
    name ∈ numberVariables ∧ Decimal.word64? text = none

theorem textUnder?_update (name : String) (bytes : Option (List UInt8)) (other : String) :
    textUnder? (Function.update held name bytes) other =
      if other = name then bytes.bind Symbol.textOfBytes? else textUnder? held other := by
  rw [textUnder?, Function.update_apply]
  split <;> rfl

theorem Silent.text (silent : Silent held name) {other : String} (text : other ∉ numberVariables) :
    textUnder? (Function.update held name none) other = textUnder? held other := by
  rw [textUnder?_update]
  split
  · next same =>
    subst same
    exact (Option.eq_none_iff_forall_ne_some.2 fun t there => text (silent t there).1).symm
  · rfl

theorem Silent.number (silent : Silent held name) (other : String) :
    (textUnder? (Function.update held name none) other).bind Decimal.word64? =
      (textUnder? held other).bind Decimal.word64? := by
  rw [textUnder?_update]
  split
  · next same =>
    subst same
    exact (Option.bind_eq_none_iff.2 fun t there => (silent t there).2).symm
  · rfl

theorem Silent.ofVariables (silent : Silent held name) :
    Layer.ofVariables (textUnder? (Function.update held name none)) =
      Layer.ofVariables (textUnder? held) := by
  simp only [Layer.ofVariables]
  rw [silent.text (by decide), silent.text (by decide), silent.text (by decide), silent.number,
    silent.number]

theorem ofVariables_update_timeout {text : String} :
    Layer.ofVariables (textUnder? (Function.update held "LOADRIG_REQUEST_TIMEOUT_SECS"
        (some (Percent.utf8 text.toList)))) =
      { Layer.ofVariables (textUnder? held) with timeoutSeconds := Decimal.word64? text } := by
  simp [Layer.ofVariables, textUnder?_update, Symbol.textOfBytes?_utf8]

theorem ofVariables_update_bind {text : String} :
    Layer.ofVariables (textUnder? (Function.update held "LOADRIG_BIND"
        (some (Percent.utf8 text.toList)))) =
      { Layer.ofVariables (textUnder? held) with bind := some text } := by
  simp [Layer.ofVariables, textUnder?_update, Symbol.textOfBytes?_utf8]

end

def namesIn (group : String) : List String :=
  if group = "server" then ["bind"]
  else if group = "storage" then ["scripts_dir", "results_dir", "retention_days"]
  else ["request_timeout_secs"]

def saidText? (entries : Entries) (group name : String) : Option String :=
  ((said entries group (namesIn group) name).filterMap (·.2.text?)).getLast?

def saidWord? (entries : Entries) (group name : String) : Option UInt64 :=
  ((said entries group (namesIn group) name).filterMap (·.2.word?)).getLast?

def Layer.ofDocument (entries : Entries) : Layer where
  bind := saidText? entries "server" "bind"
  scriptsDirectory := saidText? entries "storage" "scripts_dir"
  resultsDirectory := saidText? entries "storage" "results_dir"
  retentionDays := saidWord? entries "storage" "retention_days"
  timeoutSeconds := saidWord? entries "engine" "request_timeout_secs"

/-! Each setting is under one name of one group, and nothing else changes it. -/

theorem owns_bind : Owns groups "server" (·.bind) fun b v =>
    (named "bind" (v.2.entriesFor (namesIn "server"))).foldl (fun b w => w.2.text?.getD b) b :=
  .here rfl (Setting.group_acts
    (.here rfl (Setting.of_acts fun _ _ _ => textOf_eq_ok_iff.1) (by simp)))
    (by simp)

theorem owns_scriptsDirectory : Owns groups "storage" (·.scriptsDirectory) fun b v =>
    (named "scripts_dir" (v.2.entriesFor (namesIn "storage"))).foldl
      (fun b w => w.2.text?.getD b) b :=
  .later (by simp) (by simp) (.here rfl (Setting.group_acts
    (.here rfl (Setting.of_acts fun _ _ _ => textOf_eq_ok_iff.1) (by simp)))
    (by simp))

theorem owns_resultsDirectory : Owns groups "storage" (·.resultsDirectory) fun b v =>
    (named "results_dir" (v.2.entriesFor (namesIn "storage"))).foldl
      (fun b w => w.2.text?.getD b) b :=
  .later (by simp) (by simp) (.here rfl (Setting.group_acts
    (.later (by simp) (by simp)
      (.here rfl (Setting.of_acts fun _ _ _ => textOf_eq_ok_iff.1) (by simp))))
    (by simp))

theorem owns_retentionDays : Owns groups "storage" (·.retentionDays) fun b v =>
    (named "retention_days" (v.2.entriesFor (namesIn "storage"))).foldl
      (fun b w => (w.2.word?.map some).getD b) b :=
  .later (by simp) (by simp) (.here rfl (Setting.group_acts
    (.later (by simp) (by simp) (.later (by simp) (by simp)
      (.here rfl (Setting.of_acts fun _ _ _ read =>
        congrArg (Option.map some) (wordOf_eq_ok_iff.1 read)) (by simp)))))
    (by simp))

theorem owns_timeoutSeconds : Owns groups "engine" (·.timeoutSeconds) fun b v =>
    (named "request_timeout_secs" (v.2.entriesFor (namesIn "engine"))).foldl
      (fun b w => w.2.word?.getD b) b :=
  .later (by simp) (by simp) (.later (by simp) (by simp) (.here rfl (Setting.group_acts
    (.here rfl (Setting.of_acts fun _ _ _ => wordOf_eq_ok_iff.1) (by simp)))
    (by simp)))

theorem getLast?_filterMap_map_some {α γ : Type} (f : α → Option γ) (l : List α) (b : Option γ) :
    (l.filterMap fun a => (f a).map some).getLast?.getD b = (l.filterMap f).getLast?.or b := by
  rw [← List.map_filterMap, List.getLast?_map]
  cases (l.filterMap f).getLast? <;> rfl

theorem eq_above_of_taken {s after : Settings} {entries : Entries}
    (taken : takeEntries groups s entries = .ok after) :
    after = (Layer.ofDocument entries).above s := by
  have bind := part_of_said owns_bind taken
  have scripts := part_of_said owns_scriptsDirectory taken
  have results := part_of_said owns_resultsDirectory taken
  have days := part_of_said owns_retentionDays taken
  have timeout := part_of_said owns_timeoutSeconds taken
  rw [getLast?_filterMap_map_some] at days
  exact Settings.ext bind scripts results days timeout

def valueFits (name : String) (v : Span × Value) : Bool :=
  if name ∈ ["retention_days", "request_timeout_secs"] then v.2.word?.isSome else v.2.text?.isSome

def GroupFits (group : String) (v : Span × Value) : Prop :=
  v.2.isGroup = true ∧ ∀ name ∈ namesIn group, ∀ w ∈ named name (v.2.entriesFor (namesIn group)),
    valueFits name w = true

instance (group : String) (v : Span × Value) : Decidable (GroupFits group v) :=
  inferInstanceAs (Decidable (_ ∧ ∀ _ ∈ _, ∀ _ ∈ _, _))

def Fits (entries : Entries) : Prop :=
  ∀ group ∈ ["server", "storage", "engine"], ∀ v ∈ named group entries, GroupFits group v

instance (entries : Entries) : Decidable (Fits entries) :=
  inferInstanceAs (Decidable (∀ _ ∈ _, ∀ _ ∈ _, _))

theorem takeIf_groups : TakeIf groups GroupFits := by
  simp only [TakeIf, groups, List.forall_mem_cons]
  refine ⟨exists_takeGroup_iff ?_, exists_takeGroup_iff ?_, exists_takeGroup_iff ?_,
    List.forall_mem_nil _⟩
  all_goals simp [TakeIf, valueFits, textOf_eq_ok_iff, wordOf_eq_ok_iff, Option.isSome_iff_exists]

theorem exists_taken_iff {s : Settings} {entries : Entries} :
    (∃ after, takeEntries groups s entries = .ok after) ↔ Fits entries :=
  exists_takeEntries_iff takeIf_groups s entries

def Sound (s : Settings) : Prop := s.timeoutSeconds ≠ 0 ∧ Text.isBlankText s.bind = false

theorem check_eq_ok_iff {s : Settings} : s.check = .ok () ↔ Sound s := by
  rw [check, Sound]
  split
  · next none => simp [none]
  · next some =>
    rw [and_iff_right some]
    cases Text.isBlankText s.bind <;> simp

/-- The entries of the document that settings are read from: the named one, or the usual one where
it is there, or none. -/
inductive InForce (d : Disk) : Option String → Entries → Prop where
  | named {path text : String} {entries : Entries} : d.readText path = .ok text →
      Toml.read? text.toList = some entries → InForce d (some path) entries
  | usual {text : String} {entries : Entries} : d.isFile usualPath = true →
      d.readText usualPath = .ok text → Toml.read? text.toList = some entries →
      InForce d none entries
  | missing : d.isFile usualPath = false → InForce d none []

theorem ofFile_eq_ok_iff {d : Disk} {path text : String} {entries : Entries} {s : Settings}
    (read : d.readText path = .ok text) (parsed : Toml.read? text.toList = some entries) :
    ofFile d path = .ok s ↔ takeEntries groups default entries = .ok s := by
  simp only [ofFile, read, ofDocument, parsed]
  split
  · next file taken => rw [taken, Except.ok.injEq, Except.ok.injEq]
  · next fault refused =>
    rw [refused]
    split <;> simp

/-- The settings before the environment is asked. -/
def written (d : Disk) : Option String → Except SettingsFault Settings
  | some path => ofFile d path
  | none => if d.isFile usualPath then ofFile d usualPath else .ok default

theorem InForce.written_eq_ok_iff {d : Disk} {path : Option String} {entries : Entries}
    (h : InForce d path entries) {s : Settings} :
    written d path = .ok s ↔ takeEntries groups default entries = .ok s := by
  cases h with
  | named read parsed => exact ofFile_eq_ok_iff read parsed
  | usual there read parsed =>
    rw [written, if_pos there]
    exact ofFile_eq_ok_iff read parsed
  | missing missing =>
    rw [written, if_neg (by simp [missing]), takeEntries, List.mergeSort_nil, List.foldlM_nil]
    exact iff_of_eq ((Except.ok.injEq ..).trans (Except.ok.injEq ..).symm)

theorem load_eq (d : Disk) (path : Option String) (env : Environment) :
    load d path env = written d path >>= fun file =>
      (override env file).check >>= fun _ => .ok (override env file) := by
  cases path with
  | some path => rfl
  | none =>
    rw [load, written]
    split <;> rfl

theorem load_eq_ok_iff {d : Disk} {path : Option String} {env : Environment} {s : Settings} :
    load d path env = .ok s ↔
      ∃ file, written d path = .ok file ∧ s = override env file ∧ Sound s := by
  simp only [load_eq, ← check_eq_ok_iff]
  constructor
  · intro loaded
    obtain ⟨file, there, checked⟩ := bind_eq_ok loaded
    obtain ⟨_, accepted, same⟩ := bind_eq_ok checked
    cases same
    exact ⟨file, there, rfl, accepted⟩
  · rintro ⟨file, there, rfl, accepted⟩
    rw [there, ok_bind, accepted, ok_bind]

/-- What variables and a document give together: of each setting the value in the topmost layer that
says something of it, and the usual one where none does. -/
def layered (held : String → Option (List UInt8)) (entries : Entries) : Settings :=
  (Layer.ofVariables (textUnder? held)).above ((Layer.ofDocument entries).above default)

section
variable {d : Disk} {path : Option String} {entries : Entries} {others : List String}
  {held : String → Option (List UInt8)}

theorem InForce.load_eq_ok_iff (h : InForce d path entries) {s : Settings} :
    load d path (environmentOf others held) = .ok s ↔
      Fits entries ∧ s = layered held entries ∧ Sound s := by
  simp only [Settings.load_eq_ok_iff, ← @exists_taken_iff default, h.written_eq_ok_iff,
    override_eq_above, ofVariables_environmentOf]
  constructor
  · rintro ⟨file, taken, same, sound⟩
    rw [eq_above_of_taken taken] at same
    exact ⟨⟨file, taken⟩, same, sound⟩
  · rintro ⟨⟨file, taken⟩, same, sound⟩
    rw [eq_above_of_taken taken] at taken
    exact ⟨_, taken, same, sound⟩

end

/-- The environment lies over the document in force, and the document over the usual settings. The
settings can be loaded exactly when the document's values are of the right kinds and what comes out
on top is sound; then they are that. A variable that says nothing may as well not be there; one that
says something stands in for whatever the document says, sound or not; and saying it twice is saying
it once. -/
theorem settings_in_layers {d : Disk} {path : Option String} {entries : Entries}
    (inForce : InForce d path entries) (others : List String)
    (held : String → Option (List UInt8)) :
    (∀ s, load d path (environmentOf others held) = .ok s ↔
      Fits entries ∧ s = layered held entries ∧ s.timeoutSeconds ≠ 0 ∧
        Text.isBlankText s.bind = false) ∧
    (∀ name, Silent held name →
      load d path (environmentOf others (Function.update held name none)) =
        load d path (environmentOf others held)) ∧
    (∀ text seconds, Decimal.word64? text = some seconds → seconds ≠ 0 → Fits entries →
      Text.isBlankText (layered held entries).bind = false →
      load d path (environmentOf others (Function.update held "LOADRIG_REQUEST_TIMEOUT_SECS"
        (some (Percent.utf8 text.toList)))) =
          .ok { layered held entries with timeoutSeconds := seconds }) ∧
    (∀ address, Text.isBlankText address = false → Fits entries →
      (layered held entries).timeoutSeconds ≠ 0 →
      load d path (environmentOf others (Function.update held "LOADRIG_BIND"
        (some (Percent.utf8 address.toList)))) =
          .ok { layered held entries with bind := address }) ∧
    ∀ env s, override env (override env s) = override env s := by
  refine ⟨fun s => inForce.load_eq_ok_iff, fun name silent => ?_,
    fun text seconds number some fit sound => ?_, fun address sound fit some => ?_,
    override_override⟩
  · rw [load_eq, load_eq]
    simp only [override_eq_above, ofVariables_environmentOf, silent.ofVariables]
  · refine inForce.load_eq_ok_iff.2 ⟨fit, ?_, some, sound⟩
    rw [layered, layered, ofVariables_update_timeout, number]
    rfl
  · refine inForce.load_eq_ok_iff.2 ⟨fit, ?_, some, sound⟩
    rw [layered, layered, ofVariables_update_bind]
    rfl

/-- A document that asks for no time at all, which the environment repairs. -/
theorem settings_in_layers_repaired :
    let text := "[storage]\nretention_days = 7\n\n[engine]\nrequest_timeout_secs = 0\n"
    let d : Disk := .steady
      [([.text "loadrig.toml"], .file ⟨.text text, none, true, true, true⟩)] []
    let repairing := Function.update (fun _ => none) "LOADRIG_REQUEST_TIMEOUT_SECS"
      (some (Percent.utf8 "5".toList))
    (∃ entries, InForce d none entries ∧ Fits entries) ∧
      (∀ s, load d none (environmentOf [] fun _ => none) ≠ .ok s) ∧
      load d none (environmentOf [] repairing) =
        .ok { default with retentionDays := some 7, timeoutSeconds := 5 } := by
  intro text d repairing
  let entries := (read? text.toList).getD []
  have parsed : (read? text.toList).isSome = true := by decide
  have inForce : InForce d none entries :=
    .usual (by decide) (by rfl)
      ((Option.some_get parsed).symm.trans (congrArg some (Option.get_eq_getD ..)))
  have fit : Fits entries := by decide
  have top : layered (fun _ => none) entries =
      { default with retentionDays := some 7, timeoutSeconds := 0 } := by decide
  obtain ⟨loads, -, repair, -⟩ := settings_in_layers inForce [] fun _ => none
  refine ⟨⟨entries, inForce, fit⟩, fun s loaded => ?_, ?_⟩
  · obtain ⟨-, same, some, -⟩ := (loads s).1 loaded
    rw [same, top] at some
    exact some rfl
  · rw [repair "5" 5 (by decide) (by decide) fit (by rw [top]; decide), top]

end Settings
end Barrage
