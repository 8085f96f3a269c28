import Barrage.Document.Plan
import Barrage.Document.Script
import Barrage.Proofs.Bindings
import Barrage.Proofs.Reading

/-! Scripts and plans come back from their documents.
What a document leaves out, a set of headers or a body, is what its reader fills in, and a body that
is there is never taken for a missing one. Headers may be listed in any order. -/

namespace Barrage
open Json

namespace Step

def valueWith (header : List (String × String)) (s : Step) : Value :=
  .object <|
    [("type", .string s.protocol.name), ("method", .string s.method), ("url", .string s.url)] ++
    (if header.isEmpty then [] else [("header", .object (header.map fun e => (e.1, .string e.2)))]) ++
    (match s.body with
      | some b => [("body", .string b)]
      | none => [])

/-- A value is a document of a step, whatever the order of its headers. -/
def WrittenAs (s : Step) (v : Value) : Prop :=
  ∃ header : List (String × String), header.Perm s.header.entries ∧ v = s.valueWith header

theorem writtenAs_toValue (s : Step) : s.WrittenAs s.toValue := ⟨s.header.entries, .refl _, rfl⟩

theorem fills_start (l : Layout) (s : Step) :
    record.Fills l {}
      [("type", .string s.protocol.name), ("method", .string s.method), ("url", .string s.url)]
      { protocol := some s.protocol, method := some s.method, url := some s.url } := by
  have protocol : Protocol.named? s.protocol.name = some s.protocol := by
    cases s.protocol
    rfl
  exact .cons rfl rfl (.field (.variant protocol) _) <|
    .cons rfl rfl (.field (.string s.method) _) <|
    .cons rfl rfl (.field (.string s.url) _) <| .nil _

theorem fills_header (l : Layout) {header : List (String × String)} {headers : Dict String}
    (order : header.Perm headers.entries) {d : Draft} (unset : d.header = none) :
    record.Fills l d [("header", .object (header.map fun e => (e.1, .string e.2)))]
      { d with header := some headers } := by
  have reads : Reads (readMap readString) l (.object (header.map fun e => (e.1, .string e.2)))
      headers := by
    rw [← Dict.ofList_of_perm order]
    exact .map <| List.forall₂_map_left_iff.2 <|
      List.forall₂_same.2 fun e _ => ⟨rfl, .string e.2⟩
  exact .cons rfl (congrArg Option.isSome unset) (.field reads d) (.nil _)

theorem fills_body (l : Layout) (body : Option String) {d : Draft} (unset : d.body = none) :
    record.Fills l d
      (match body with
        | some b => [("body", .string b)]
        | none => [])
      { d with body := body.map some } := by
  cases body with
  | none =>
    rw [Option.map_none, ← unset]
    exact .nil d
  | some b =>
    exact .cons rfl (congrArg Option.isSome unset) (.field (.some_string b) d) (.nil _)

theorem WrittenAs.reads {s : Step} {v : Value} (h : s.WrittenAs v) (l : Layout) :
    Reads record.read l v s := by
  obtain ⟨header, order, rfl⟩ := h
  have start := fills_start l s
  obtain ⟨⟨⟩, method, url, ⟨entries, ascending⟩, body⟩ := s
  cases header with
  | nil =>
    obtain rfl : entries = [] := order.nil_eq.symm
    have built := Reads.record (start.append (fills_body l body rfl)) rfl
    cases body <;> exact built
  | cons e header =>
    have headed := start.append (fills_header l order rfl)
    have built := Reads.record (headed.append (fills_body l body rfl)) rfl
    cases body <;> exact built

end Step

namespace Script

/-- A value is a document of a script: its steps in order, each with its headers in any order. -/
def WrittenAs (s : Script) (v : Value) : Prop :=
  ∃ steps, List.Forall₂ Step.WrittenAs s.steps steps ∧
    v = .object [("id", .string s.id), ("steps", .array steps)]

theorem writtenAs_toValue (s : Script) : s.WrittenAs s.toValue :=
  ⟨s.steps.map Step.toValue,
    List.forall₂_map_right_iff.2 (List.forall₂_same.2 fun step _ => step.writtenAs_toValue), rfl⟩

theorem WrittenAs.reads {s : Script} {v : Value} (h : s.WrittenAs v) (l : Layout) :
    Reads record.read l v s := by
  obtain ⟨steps, written, rfl⟩ := h
  have items : List.Forall₂ (Reads Step.record.read l) steps s.steps :=
    written.flip.imp fun _ _ step => Step.WrittenAs.reads step l
  have fills : record.Fills l {} [("id", .string s.id), ("steps", .array steps)]
      { id := some s.id, steps := some s.steps } :=
    .cons rfl rfl (.field (.string s.id) _) <| .cons rfl rfl (.field (.list items) _) <| .nil _
  exact .record fills rfl

end Script

theorem Plan.reads_toValue (p : Plan) (l : Layout) : Reads record.read l p.toValue p := by
  have fills : record.Fills l {}
      [("scriptId", .string p.scriptId), ("type", .string p.kind.name),
        ("vus", .natural p.users.toNat), ("duration", .natural p.seconds.toNat)]
      { scriptId := some p.scriptId, kind := some p.kind, users := some p.users,
        seconds := some p.seconds } :=
    .cons rfl rfl (.field (.string p.scriptId) _) <|
    .cons rfl rfl (.field (.variant (TestKind.named?_name p.kind)) _) <|
    .cons rfl rfl (.field (.word32 p.users) _) <|
    .cons rfl rfl (.field (.word64 p.seconds) _) <| .nil _
  exact .record fills rfl

/-- Scripts and plans are read from their own texts in both layouts, and scripts from the texts that
list headers in any other order as well. -/
theorem readText_text :
    (∀ s : Script, Script.ofText s.toValue.compact = .ok s ∧
      Script.ofText s.toValue.pretty = .ok s) ∧
    (∀ p : Plan, readText Plan.record.read p.toValue.compact = .ok p ∧
      readText Plan.record.read p.toValue.pretty = .ok p) ∧
    ∀ (l : Layout) (s : Script) (v : Value), s.WrittenAs v → Script.ofText (v.text l) = .ok s := by
  have script (l : Layout) (s : Script) (v : Value) (written : s.WrittenAs v) :
      Script.ofText (v.text l) = .ok s := (written.reads l).text
  have plan (l : Layout) (p : Plan) : readText Plan.record.read (p.toValue.text l) = .ok p :=
    (p.reads_toValue l).text
  exact ⟨fun s => ⟨script .compact s _ s.writtenAs_toValue, script .pretty s _ s.writtenAs_toValue⟩,
    fun p => ⟨plan .compact p, plan .pretty p⟩, script⟩

/-- Two headers in descending order, a body that is there and empty, and characters to escape. -/
theorem readText_text_reordered :
    let headers : Dict String := ⟨[("a", "1"), ("b", "\"")], by decide⟩
    let step : Step := ⟨.http, "PO\\ST", "http://h/\x01é", headers, some ""⟩
    let v := Value.object [("id", .string "s\n"),
      ("steps", .array [step.valueWith [("b", "\""), ("a", "1")], (Step.get "").toValue])]
    Script.WrittenAs ⟨"s\n", [step, Step.get ""]⟩ v ∧
      Script.ofText v.pretty = .ok ⟨"s\n", [step, Step.get ""]⟩ := by
  intro headers step v
  have written : Script.WrittenAs ⟨"s\n", [step, Step.get ""]⟩ v :=
    ⟨_, .cons ⟨_, .swap _ _ _, rfl⟩ (.cons (Step.get "").writtenAs_toValue .nil), rfl⟩
  exact ⟨written, readText_text.2.2 .pretty _ v written⟩

end Barrage
