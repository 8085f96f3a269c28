import Barrage.Load.Network
import Barrage.Proofs.Bindings
import Barrage.Proofs.Calls
import Barrage.Proofs.Exports
import Barrage.Proofs.Trimming

/-! The requests that calls make.
Which argument of a call is the body and which carries the parameters depends on its function. Read
that way, a call asks for the URL of its step, and mostly with its method, body and headers. The
exceptions are told exactly: a method that goes to `request` keeps its blanks, and the functions
that are written without a body give none, one of which takes what follows the URL for a body. -/

namespace Barrage

namespace Text

theorem toUpper_toLower (c : Char) : c.toLower.toUpper = c.toUpper := by
  by_cases capital : c.val ≥ 'A'.val ∧ c.val ≤ 'Z'.val
  · have letters : ∀ n < 26, (Char.ofNat (65 + n)).toLower.toUpper =
        (Char.ofNat (65 + n)).toUpper := by decide
    have bounds : 65 ≤ c.toNat ∧ c.toNat ≤ 90 := capital
    have letter := letters (c.toNat - 65) (by omega)
    rwa [Nat.add_sub_cancel' bounds.1, Char.ofNat_toNat] at letter
  · exact congrArg Char.toUpper (dif_neg capital)

theorem upper_lower (s : String) : upper (lower s) = upper s := by
  refine String.toList_inj.1 ?_
  simp only [toList_upper, toList_lower, List.map_map, Function.comp_def, toUpper_toLower]

theorem upper_trim_eq_iff (s : String) : upper (trim s) = upper s ↔ trim s = s := by
  refine ⟨fun same => ?_, congrArg upper⟩
  have lengths := congrArg (fun t => t.toList.length) same
  simp only [toList_upper, toList_trim, List.length_map] at lengths
  refine String.toList_inj.1 ?_
  rw [toList_trim, trimChars_eq_of_length lengths]

end Text

namespace K6

/-- What an argument is for. -/
inductive Role where
  | method
  | url
  | body
  | parameters
  deriving DecidableEq

def roles (function : String) : List Role :=
  if function ∈ ["get", "head"] then [.url, .parameters]
  else if function ∈ ["options", "post", "put", "patch", "del"] then [.url, .body, .parameters]
  else if function = "request" then [.method, .url, .body, .parameters]
  else []

def methodOf? (function : String) : Option String :=
  [("get", "GET"), ("head", "HEAD"), ("options", "OPTIONS"), ("post", "POST"), ("put", "PUT"),
    ("patch", "PATCH"), ("del", "DELETE")].lookup function

def Expression.text? : Expression → Option String
  | .string s => some s
  | _ => none

/-- The properties that an object has of its own. One that is named `__proto__` sets the prototype
instead. -/
def Expression.properties : Expression → Dict Expression
  | .object properties => .ofList (properties.filter (·.1 ≠ "__proto__"))
  | _ => {}

namespace Reading

def argument? (c : Reading) (r : Role) : Option Expression :=
  ((roles c.function).zip c.arguments).lookup r

def method? (c : Reading) : Option String :=
  (methodOf? c.function).or ((c.argument? .method).bind Expression.text?)

def url? (c : Reading) : Option String := (c.argument? .url).bind Expression.text?

def body? (c : Reading) : Option Expression :=
  match c.argument? .body with
  | some .null => none
  | body => body

def headers? (c : Reading) : Option (Dict Expression) :=
  ((c.argument? .parameters).bind fun p => p.properties.get? "headers").map Expression.properties

/-- The body of a step, if it has one, is sent. -/
def PassesBody (c : Reading) (s : Step) : Prop :=
  ∀ b, s.body = some b → c.body? = some (.string b)

def PassesHeaders (c : Reading) (s : Step) : Prop :=
  s.header.isEmpty = false → c.headers? = some (s.header.map .string)

end Reading

def verb (s : Step) : String := Text.lower (Text.trim s.method)

theorem upper_verb (s : Step) : Text.upper (verb s) = Request.methodOf s := Text.upper_lower _

theorem readCall_call (s : Step) : readCall (call s).text = some (call s).reading := by
  refine readCall_text ?_
  have bodiless : ∀ m ∈ bodilessMethods, m.toList.all isNameChar = true := by decide
  have withBody : ∀ m ∈ bodyMethods.map functionName, m.toList.all isNameChar = true := by decide
  obtain h | h | h := call_function s
  · exact bodiless _ h
  · exact withBody _ h
  · rw [h]
    decide

theorem call_of_bodiless {s : Step} (h : verb s ∈ bodilessMethods) :
    call s = ⟨verb s,
      if s.header.isEmpty then [.literal s.url] else [.literal s.url, .headers s.header]⟩ := by
  unfold call
  exact if_pos h

theorem call_of_withBody {s : Step} (h : verb s ∈ bodyMethods) :
    call s = ⟨functionName (verb s),
      if !s.header.isEmpty then [.literal s.url, bodyArgument s, .headers s.header]
      else if s.body.isSome then [.literal s.url, bodyArgument s]
      else [.literal s.url]⟩ := by
  have apart : ∀ m ∈ bodyMethods, m ∉ bodilessMethods := by decide
  unfold call
  exact (if_neg (apart _ h)).trans (if_pos h)

theorem call_of_other {s : Step} (bodiless : verb s ∉ bodilessMethods)
    (withBody : verb s ∉ bodyMethods) :
    call s = ⟨"request", [.literal (Text.upper s.method), .literal s.url, bodyArgument s,
      if s.header.isEmpty then .noParameters else .headers s.header]⟩ := by
  unfold call
  exact (if_neg bodiless).trans (if_neg withBody)

@[elab_as_elim]
theorem call_cases {motive : Call → Prop} (s : Step)
    (bodiless : verb s ∈ bodilessMethods → motive ⟨verb s,
      if s.header.isEmpty then [.literal s.url] else [.literal s.url, .headers s.header]⟩)
    (withBody : verb s ∈ bodyMethods → motive ⟨functionName (verb s),
      if !s.header.isEmpty then [.literal s.url, bodyArgument s, .headers s.header]
      else if s.body.isSome then [.literal s.url, bodyArgument s]
      else [.literal s.url]⟩)
    (other : verb s ∉ bodilessMethods → verb s ∉ bodyMethods →
      motive ⟨"request", [.literal (Text.upper s.method), .literal s.url, bodyArgument s,
        if s.header.isEmpty then .noParameters else .headers s.header]⟩) :
    motive (call s) := by
  by_cases less : verb s ∈ bodilessMethods
  · rw [call_of_bodiless less]
    exact bodiless less
  by_cases body : verb s ∈ bodyMethods
  · rw [call_of_withBody body]
    exact withBody body
  · rw [call_of_other less body]
    exact other less body

def isKnown (s : Step) : Bool := verb s ∈ bodilessMethods ++ bodyMethods

theorem isKnown_iff (s : Step) :
    isKnown s = true ↔ verb s ∈ bodilessMethods ∨ verb s ∈ bodyMethods := by
  simp [isKnown]

theorem isKnown_eq_false_iff (s : Step) :
    isKnown s = false ↔ verb s ∉ bodilessMethods ∧ verb s ∉ bodyMethods := by
  simp [isKnown]

theorem method?_call (s : Step) :
    (call s).reading.method? =
      some (if isKnown s then Request.methodOf s else Text.upper s.method) := by
  have bodiless : ∀ m ∈ bodilessMethods, methodOf? m = some (Text.upper m) := by decide
  have withBody : ∀ m ∈ bodyMethods, methodOf? (functionName m) = some (Text.upper m) := by decide
  rw [← upper_verb]
  refine call_cases s (fun less => ?_) (fun body => ?_) (fun less body => ?_)
  · have known : isKnown s = true := (isKnown_iff s).2 (.inl less)
    rw [known, Reading.method?, Call.reading, bodiless _ less]
    rfl
  · have known : isKnown s = true := (isKnown_iff s).2 (.inr body)
    rw [known, Reading.method?, Call.reading, withBody _ body]
    rfl
  · have unknown : isKnown s = false := (isKnown_eq_false_iff s).2 ⟨less, body⟩
    rw [unknown]
    rfl

theorem roles_of_withBody :
    ∀ m ∈ bodyMethods, roles (functionName m) = [.url, .body, .parameters] := by decide

theorem roles_of_bodiless : ∀ m ∈ bodilessMethods,
    roles m = if m = "options" then [.url, .body, .parameters] else [.url, .parameters] := by decide

theorem url?_call (s : Step) : (call s).reading.url? = some s.url := by
  refine call_cases s (fun less => ?_) (fun body => ?_) (fun _ _ => rfl)
  · have order := roles_of_bodiless _ less
    simp only [Reading.url?, Reading.argument?, Call.reading, order]
    split <;> split <;> rfl
  · have order := roles_of_withBody _ body
    simp only [Reading.url?, Reading.argument?, Call.reading, order]
    split
    · rfl
    split <;> rfl

theorem body?_call_of_bodiless {s : Step} (h : verb s ∈ bodilessMethods) :
    (call s).reading.body? =
      if verb s = "options" ∧ s.header.isEmpty = false then
        some (Argument.headers s.header).expression
      else none := by
  have order := roles_of_bodiless _ h
  rw [call_of_bodiless h]
  simp only [Reading.body?, Reading.argument?, Call.reading, order]
  by_cases options : verb s = "options"
  · cases empty : s.header.isEmpty <;> simp [options] <;> rfl
  · cases empty : s.header.isEmpty <;> simp [options] <;> rfl

theorem body?_call {s : Step} (h : verb s ∉ bodilessMethods) :
    (call s).reading.body? = s.body.map .string := by
  by_cases body : verb s ∈ bodyMethods
  · have order := roles_of_withBody _ body
    rw [call_of_withBody body]
    simp only [Reading.body?, Reading.argument?, Call.reading, order, bodyArgument]
    cases s.body <;> cases s.header.isEmpty <;> rfl
  · rw [call_of_other h body]
    simp only [Reading.body?, Reading.argument?, Call.reading, bodyArgument]
    cases s.body <;> rfl

theorem properties_headersObject (h : Dict String) :
    (headersObject h).properties = h.map .string ↔ h.get? "__proto__" = none := by
  rw [headersObject, Expression.properties]
  constructor
  · intro same
    have absent := congrArg (fun d => d.get? "__proto__") same
    rw [Dict.get?_map] at absent
    cases there : h.get? "__proto__" with
    | none => rfl
    | some v =>
      rw [there] at absent
      have bound := Dict.mem_of_get?_ofList absent
      simp at bound
  · intro absent
    have kept : (h.entries.map fun e => (e.1, Expression.string e.2)).filter (·.1 ≠ "__proto__") =
        (h.map .string).entries := by
      refine List.filter_eq_self.2 fun e member => ?_
      obtain ⟨f, bound, rfl⟩ := List.mem_map.1 member
      have other : f.1 ≠ "__proto__" := by
        intro same
        have found := (h.get?_eq_some_iff).2 bound
        rw [same, absent] at found
        cases found
      simpa using other
    rw [kept]
    exact Dict.ofList_of_perm (.refl _)

theorem headers?_call {s : Step} (h : verb s ≠ "options") (some : s.header.isEmpty = false) :
    (call s).reading.headers? = .some (headersObject s.header).properties := by
  refine call_cases s (fun less => ?_) (fun body => ?_) (fun _ _ => ?_)
  · have order := roles_of_bodiless _ less
    rw [if_neg h] at order
    simp only [Reading.headers?, Reading.argument?, Call.reading, order, some]
    rfl
  · have order := roles_of_withBody _ body
    simp only [Reading.headers?, Reading.argument?, Call.reading, order, some]
    rfl
  · simp only [Reading.headers?, Reading.argument?, Call.reading, some]
    rfl

theorem headers?_call_of_options {s : Step} (h : verb s = "options") :
    (call s).reading.headers? = none := by
  have less : verb s ∈ bodilessMethods := by simp [h, bodilessMethods]
  have order := roles_of_bodiless _ less
  rw [if_pos h] at order
  rw [call_of_bodiless less]
  simp only [Reading.headers?, Reading.argument?, Call.reading, order]
  cases s.header.isEmpty <;> rfl

theorem passesBody_call_iff (s : Step) :
    (call s).reading.PassesBody s ↔ s.body = none ∨ verb s ∉ bodilessMethods := by
  constructor
  · intro passed
    by_cases less : verb s ∈ bodilessMethods
    · refine .inl (Option.eq_none_iff_forall_ne_some.2 fun b given => ?_)
      have body := passed b given
      rw [body?_call_of_bodiless less] at body
      split at body <;> cases body
    · exact .inr less
  · rintro (none | withBody) b given
    · rw [none] at given
      cases given
    · rw [body?_call withBody, given]
      rfl

theorem passesHeaders_call_iff (s : Step) :
    (call s).reading.PassesHeaders s ↔
      s.header.isEmpty = true ∨ (verb s ≠ "options" ∧ s.header.get? "__proto__" = none) := by
  cases empty : s.header.isEmpty with
  | true => exact iff_of_true (fun some => absurd empty (by simp [some])) (.inl rfl)
  | false =>
    have passes : (call s).reading.PassesHeaders s ↔
        (call s).reading.headers? = some (s.header.map .string) := forall_prop_of_true empty
    rw [passes]
    by_cases options : verb s = "options"
    · simp [headers?_call_of_options options, options]
    · simp [headers?_call options empty, properties_headersObject, options]

/-- Headers of a call of `options` are taken for its body. -/
theorem body?_call_of_options {s : Step} (options : verb s = "options")
    (some : s.header.isEmpty = false) :
    (call s).reading.body? = .some (.object [("headers", headersObject s.header)]) := by
  have less : verb s ∈ bodilessMethods := by simp [options, bodilessMethods]
  rw [body?_call_of_bodiless less, if_pos ⟨options, some⟩]
  rfl

/-- A call asks with the method that its step is sent with, exactly if that has a function of its
own or has no blanks around it. -/
theorem exported_method_iff (s : Step) :
    ∃ c, readCall (call s).text = some c ∧
      c.method? = some (if isKnown s then Request.methodOf s else Text.upper s.method) ∧
      (c.method? = some (Request.methodOf s) ↔ isKnown s = true ∨ Text.trim s.method = s.method) ∧
      ∀ r, Request.ofStep s = .ok r → r.method = Request.methodOf s := by
  refine ⟨_, readCall_call s, method?_call s, ?_, fun r made => ?_⟩
  · rw [method?_call]
    cases known : isKnown s with
    | true => simp
    | false =>
      have blanks := Text.upper_trim_eq_iff s.method
      simpa [Request.methodOf, eq_comm] using blanks
  · rw [Request.ofStep] at made
    split at made
    · cases made
    split at made
    · cases made
    split at made
    · rw [← Except.ok.inj made]
    · cases made

/-- The engine trims a method that the call keeps the blanks of. -/
theorem exported_method_with_blanks :
    let s : Step := ⟨.http, " PURGE ", "http://[::1]/", {}, none⟩
    Text.trim s.method ≠ "" ∧ ∃ r c, Request.ofStep s = .ok r ∧ r.method = "PURGE" ∧
      readCall (call s).text = some c ∧ c.method? = some " PURGE " ∧
      c.method? ≠ some r.method := by
  intro s
  have sent : (Request.ofStep s).toOption.map Request.method = some "PURGE" := by decide +kernel
  obtain ⟨r, made, method⟩ := Option.map_eq_some_iff.1 sent
  have unknown : isKnown s = false := by decide +kernel
  have upper : Text.upper s.method = " PURGE " := by decide +kernel
  have asked : (call s).reading.method? = some " PURGE " := by
    rw [method?_call, unknown, if_neg Bool.false_ne_true, upper]
  refine ⟨by decide, r, _, eq_ok_of_toOption made, method, readCall_call s, asked, ?_⟩
  rw [asked, method]
  decide

/-- A call asks for the URL of its step. It passes a body exactly if its function is written with
one, and headers exactly if its function is another than `options`, which takes them for the body,
and no header is named as prototypes are. -/
theorem exported_body_and_headers_iff (s : Step) :
    ∃ c, readCall (call s).text = some c ∧ c.url? = some s.url ∧
      (c.PassesBody s ↔ s.body = none ∨ verb s ∉ bodilessMethods) ∧
      (c.PassesHeaders s ↔
        s.header.isEmpty = true ∨ (verb s ≠ "options" ∧ s.header.get? "__proto__" = none)) ∧
      (verb s = "options" → s.header.isEmpty = false →
        c.headers? = none ∧ c.body? = some (.object [("headers", headersObject s.header)])) :=
  ⟨_, readCall_call s, url?_call s, passesBody_call_iff s, passesHeaders_call_iff s,
    fun options some => ⟨headers?_call_of_options options, body?_call_of_options options some⟩⟩

/-- The headers of an order to `options` are sent as its body, in place of its own; a body of an
order to `get` is left out. -/
theorem exported_options_without_headers :
    let header : Dict String := ⟨[("A", "1")], List.pairwise_singleton _ _⟩
    let s : Step := ⟨.http, "OPTIONS", "http://h/", header, some "b"⟩
    let t : Step := ⟨.http, "GET", "http://h/", {}, some "b"⟩
    (∃ c, readCall (call s).text = some c ∧
      c.body? = some (.object [("headers", .object [("A", .string "1")])]) ∧ c.headers? = none ∧
      ¬ c.PassesBody s ∧ ¬ c.PassesHeaders s) ∧
    ∃ c, readCall (call t).text = some c ∧ c.body? = none ∧ ¬ c.PassesBody t := by
  intro header s t
  have options : verb s = "options" := by decide +kernel
  have get : verb t = "get" := by decide +kernel
  have less : verb s ∈ bodilessMethods := by simp [options, bodilessMethods]
  have alsoLess : verb t ∈ bodilessMethods := by simp [get, bodilessMethods]
  refine ⟨⟨_, readCall_call s, body?_call_of_options options rfl, headers?_call_of_options options,
    ?_, ?_⟩, _, readCall_call t, ?_, ?_⟩
  · simp [passesBody_call_iff, less, s]
  · rw [passesHeaders_call_iff]
    rintro (none | ⟨other, -⟩)
    · cases none
    · exact other options
  · rw [body?_call_of_bodiless alsoLess, if_neg (by simp [get])]
  · simp [passesBody_call_iff, alsoLess, t]

end K6
end Barrage
