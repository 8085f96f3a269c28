import Barrage.Proofs.Ties
import Barrage.Proofs.Tokens
import Barrage.Settings

/-! What a settings document says.
A document is taken entry by entry into the settings, each known key changing one of them. Seen from
one setting, only the entries under its own key in its own group matter: it has the value that they
give it, and what it was before if there are none, whatever else the document holds. -/

namespace Barrage.Toml
variable {σ β : Type} {name : String} {part : σ → β} {change : β → Span × Value → β}
  {known : List (Setting σ)}

def named (name : String) (entries : Entries) : List (Span × Value) :=
  (entries.filter (·.1 = name)).map (·.2)

def Setting.Acts (k : Setting σ) (part : σ → β) (change : β → Span × Value → β) : Prop :=
  ∀ s v after, k.put s v = .ok after → part after = change (part s) v

@[simp] def Elsewhere (known : List (Setting σ)) (name : String) (part : σ → β) : Prop :=
  ∀ k ∈ known, k.name ≠ name ∧ k.Acts part fun b _ => b

structure Owns (known : List (Setting σ)) (name : String) (part : σ → β)
    (change : β → Span × Value → β) : Prop where
  there : ∃ k ∈ known, k.name = name
  acts : ∀ k ∈ known, k.Acts part (if k.name = name then change else fun b _ => b)

theorem Owns.here {k : Setting σ} (own : k.name = name) (acts : k.Acts part change)
    (others : Elsewhere known name part) : Owns (k :: known) name part change where
  there := ⟨k, List.mem_cons_self, own⟩
  acts := List.forall_mem_cons.2 ⟨by rwa [if_pos own], fun j member => by
    rw [if_neg (others j member).1]
    exact (others j member).2⟩

theorem Owns.later {k : Setting σ} (other : k.name ≠ name) (acts : k.Acts part fun b _ => b)
    (h : Owns known name part change) : Owns (k :: known) name part change where
  there := by
    obtain ⟨j, member, own⟩ := h.there
    exact ⟨j, List.mem_cons_of_mem _ member, own⟩
  acts := List.forall_mem_cons.2 ⟨by rwa [if_neg other], h.acts⟩

theorem part_foldlM {α ε : Type} {f : σ → α → Except ε σ} {change : β → α → β}
    {l : List α} (acts : ∀ a ∈ l, ∀ s after, f s a = .ok after → part after = change (part s) a)
    {s after : σ} (h : l.foldlM f s = .ok after) : part after = l.foldl change (part s) := by
  induction l generalizing s with
  | nil =>
    cases h
    rfl
  | cons a rest ih =>
    rw [List.foldlM_cons] at h
    obtain ⟨next, first, later⟩ := bind_eq_ok h
    rw [ih (fun b member => acts b (List.mem_cons_of_mem _ member)) later,
      acts a List.mem_cons_self s next first, List.foldl_cons]

theorem part_foldlM_elsewhere {α ε : Type} {f : σ → α → Except ε σ} {l : List α}
    (keeps : ∀ a ∈ l, ∀ s after, f s a = .ok after → part after = part s) {s after : σ}
    (h : l.foldlM f s = .ok after) : part after = part s :=
  (@part_foldlM _ _ part _ _ _ (fun b _ => b) l keeps s after h).trans (List.foldl_fixed _)

theorem foldl_named (b : β) (entries : Entries) :
    (named name entries).foldl change b =
      entries.foldl (fun b e => if e.1 = name then change b e.2 else b) b := by
  rw [named, List.foldl_map, List.foldl_filter]
  simp only [decide_eq_true_eq]

theorem named_mergeSort (entries : Entries) :
    named name (entries.mergeSort fun a b => decide (a.1 ≤ b.1)) = named name entries := by
  rw [named, named]
  congr 1
  refine filter_mergeSort (fun a b c h g => ?_) (fun a b => ?_) (fun a b here there => ?_) entries
  · exact decide_eq_true (String.le_trans (of_decide_eq_true h) (of_decide_eq_true g))
  · simpa using String.le_total a.1 b.1
  · rw [of_decide_eq_true here, of_decide_eq_true there]
    exact decide_eq_true (String.le_refl name)

theorem part_takeEntries (h : Owns known name part change) {s after : σ} {entries : Entries}
    (taken : takeEntries known s entries = .ok after) :
    part after = (named name entries).foldl change (part s) := by
  rw [← named_mergeSort, foldl_named]
  refine part_foldlM (fun e _ s next put => ?_) taken
  split at put
  · next k found =>
    have same : k.name = e.1 := by simpa using List.find?_some found
    have acts := h.acts k (List.mem_of_find?_eq_some found)
    rw [same] at acts
    rw [acts s e.2 next put]
    split <;> rfl
  · next unknown =>
    cases put
    obtain ⟨k, member, rfl⟩ := h.there
    have other := List.find?_eq_none.1 unknown k member
    rw [if_neg fun same => other (by simp [same])]

theorem part_takeItems (h : Owns known name part change) {s after : σ}
    {items : List (Span × Value)} (taken : takeItems known s items = .ok after) :
    part after = (named name ((known.map (·.name)).zip items)).foldl change (part s) := by
  rw [foldl_named, List.zip_map_left, List.foldl_map]
  refine part_foldlM (fun e member s next put => ?_) taken
  rw [h.acts e.1 (List.of_mem_zip member).1 s e.2 next put, Prod.map_fst, Prod.map_snd, id]
  split <;> rfl

/-- The entries of a group: those of a table, or of an array of values for the names in their
order. -/
def Value.entriesFor (names : List String) : Value → Entries
  | .table _ entries => entries
  | .array _ items => names.zip items
  | _ => []

section
variable {group expected : String}

theorem Setting.group_acts (h : Owns known name part change) :
    (Setting.mk group (takeGroup expected known)).Acts part fun b v =>
      (named name (v.2.entriesFor (known.map (·.name)))).foldl change b := by
  rintro s ⟨span, v⟩ after taken
  cases v with
  | table origin entries => exact part_takeEntries h taken
  | array tables items => exact part_takeItems h taken
  | dateTime =>
    cases taken
    rfl
  | string | integer | real | boolean => cases taken

@[simp] theorem Setting.group_acts_elsewhere (h : ∀ k ∈ known, k.Acts part fun b _ => b) :
    (Setting.mk group (takeGroup expected known)).Acts part fun b _ => b := by
  rintro s ⟨span, v⟩ after taken
  cases v with
  | table origin entries =>
    refine part_foldlM_elsewhere (fun e _ s next put => ?_) taken
    split at put
    · next k found => exact h k (List.mem_of_find?_eq_some found) s e.2 next put
    · cases put
      rfl
  | array tables items =>
    exact part_foldlM_elsewhere
      (fun e member s next => h e.1 (List.of_mem_zip member).1 s e.2 next) taken
  | dateTime =>
    cases taken
    rfl
  | string | integer | real | boolean => cases taken

end

section
variable {α : Type} {read : Span × Value → Except Fault α} {put : σ → α → σ}

@[simp] theorem Setting.of_name : (Setting.of name read put).name = name := rfl

theorem Setting.eq_of_put {s after : σ} {v : Span × Value}
    (taken : (Setting.of name read put).put s v = .ok after) :
    ∃ a, read v = .ok a ∧ after = put s a := by
  replace taken : (read v).map (put s) = .ok after := taken
  cases value : read v with
  | error fault =>
    rw [value] at taken
    cases taken
  | ok a =>
    rw [value] at taken
    cases taken
    exact ⟨a, rfl, rfl⟩

theorem Setting.of_acts {value? : Span × Value → Option β}
    (gives : ∀ s v a, read v = .ok a → value? v = some (part (put s a))) :
    (Setting.of name read put).Acts part fun b v => (value? v).getD b := by
  intro s v after taken
  obtain ⟨a, value, rfl⟩ := Setting.eq_of_put taken
  dsimp only
  rw [gives s v a value, Option.getD_some]

@[simp] theorem Setting.of_acts_elsewhere (keeps : ∀ s a, part (put s a) = part s) :
    (Setting.of name read put).Acts part fun b _ => b := by
  intro s v after taken
  obtain ⟨a, -, rfl⟩ := Setting.eq_of_put taken
  exact keeps s a

end

theorem foldl_getD {α : Type} (f : α → Option β) (l : List α) (b : β) :
    l.foldl (fun b a => (f a).getD b) b = (l.filterMap f).getLast?.getD b := by
  induction l generalizing b with
  | nil => rfl
  | cons a rest ih =>
    rw [List.foldl_cons, ih, List.filterMap_cons]
    cases f a with
    | none => rfl
    | some c => rw [List.getLast?_cons, Option.getD_some, Option.getD_some]

/-- Whether some settings take a value is decided by their name and the value. -/
def TakeIf (known : List (Setting σ)) (fits : String → Span × Value → Prop) : Prop :=
  ∀ k ∈ known, ∀ s v, (∃ after, k.put s v = .ok after) ↔ fits k.name v

theorem exists_foldlM_iff {α ε : Type} {f : σ → α → Except ε σ} {fits : α → Prop} {l : List α}
    (takes : ∀ a ∈ l, ∀ s, (∃ after, f s a = .ok after) ↔ fits a) (s : σ) :
    (∃ after, l.foldlM f s = .ok after) ↔ ∀ a ∈ l, fits a := by
  induction l generalizing s with
  | nil => exact iff_of_true ⟨s, rfl⟩ (List.forall_mem_nil _)
  | cons a rest ih =>
    have first := takes a List.mem_cons_self s
    have later := ih fun b member => takes b (List.mem_cons_of_mem _ member)
    rw [List.foldlM_cons, List.forall_mem_cons, ← first]
    constructor
    · rintro ⟨after, taken⟩
      obtain ⟨next, put, taken⟩ := bind_eq_ok taken
      exact ⟨⟨next, put⟩, (later next).1 ⟨after, taken⟩⟩
    · rintro ⟨⟨next, put⟩, fit⟩
      rw [put, ok_bind]
      exact (later next).2 fit

section
variable {fits : String → Span × Value → Prop}

theorem forall_named_iff {names : List String} {entries : Entries} :
    (∀ name ∈ names, ∀ v ∈ named name entries, fits name v) ↔
      ∀ e ∈ entries, e.1 ∈ names → fits e.1 e.2 := by
  simp only [named, List.mem_map, List.mem_filter, decide_eq_true_eq]
  constructor
  · exact fun all e member known => all e.1 known e.2 ⟨e, ⟨member, rfl⟩, rfl⟩
  · rintro all name known v ⟨e, ⟨member, rfl⟩, rfl⟩
    exact all e member known

@[simp] theorem Setting.exists_put_of_iff {α : Type} {read : Span × Value → Except Fault α}
    {put : σ → α → σ} {s : σ} {v : Span × Value} :
    (∃ after, (Setting.of name read put).put s v = .ok after) ↔ ∃ a, read v = .ok a := by
  constructor
  · rintro ⟨after, taken⟩
    obtain ⟨a, value, -⟩ := Setting.eq_of_put taken
    exact ⟨a, value⟩
  · rintro ⟨a, value⟩
    refine ⟨put s a, ?_⟩
    change (read v).map (put s) = .ok (put s a)
    rw [value]
    rfl

theorem exists_takeEntries_iff (h : TakeIf known fits) (s : σ) (entries : Entries) :
    (∃ after, takeEntries known s entries = .ok after) ↔
      ∀ name ∈ known.map (·.name), ∀ v ∈ named name entries, fits name v := by
  simp only [← named_mergeSort entries]
  rw [forall_named_iff]
  refine exists_foldlM_iff (fun e _ s => ?_) s
  split
  · next k found =>
    have member := List.mem_of_find?_eq_some found
    have same : k.name = e.1 := by simpa using List.find?_some found
    rw [h k member, same]
    exact (imp_iff_right (List.mem_map.2 ⟨k, member, same⟩)).symm
  · next unknown =>
    refine iff_of_true ⟨s, rfl⟩ fun listed => ?_
    obtain ⟨k, member, same⟩ := List.mem_map.1 listed
    exact absurd (by simp [same]) (List.find?_eq_none.1 unknown k member)

theorem exists_takeItems_iff (h : TakeIf known fits) (s : σ) (items : List (Span × Value)) :
    (∃ after, takeItems known s items = .ok after) ↔
      ∀ name ∈ known.map (·.name), ∀ v ∈ named name ((known.map (·.name)).zip items),
        fits name v := by
  rw [forall_named_iff, List.zip_map_left, List.forall_mem_map]
  refine exists_foldlM_iff (fun e member s => ?_) s
  have inside := (List.of_mem_zip member).1
  rw [h e.1 inside]
  exact (imp_iff_right (List.mem_map_of_mem inside)).symm

def Value.isGroup : Value → Bool
  | .table _ _ | .array _ _ | .dateTime => true
  | _ => false

theorem exists_takeGroup_iff (h : TakeIf known fits) {expected : String} (s : σ)
    (v : Span × Value) : (∃ after, takeGroup expected known s v = .ok after) ↔
      v.2.isGroup = true ∧ ∀ name ∈ known.map (·.name),
        ∀ w ∈ named name (v.2.entriesFor (known.map (·.name))), fits name w := by
  obtain ⟨span, v⟩ := v
  cases v with
  | table origin entries =>
    exact (exists_takeEntries_iff h s entries).trans (and_iff_right rfl).symm
  | array tables items => exact (exists_takeItems_iff h s items).trans (and_iff_right rfl).symm
  | dateTime => exact iff_of_true ⟨s, rfl⟩ ⟨rfl, fun _ _ _ member => by cases member⟩
  | string | integer | real | boolean =>
    refine iff_of_false ?_ fun group => by cases group.1
    rintro ⟨after, taken⟩
    cases taken

end

/-- What a document says of a setting in a group that has the names given, in the order of saying
it; in a document that has been read, no name stands twice. -/
def said (entries : Entries) (group : String) (names : List String) (name : String) :
    List (Span × Value) :=
  (named group entries).flatMap fun v => named name (v.2.entriesFor names)

theorem part_of_said {groups : List (Setting σ)} {group : String} {names : List String}
    {read : Span × Value → Option β}
    (h : Owns groups group part fun b v =>
      (named name (v.2.entriesFor names)).foldl (fun b v => (read v).getD b) b)
    {s after : σ} {entries : Entries} (taken : takeEntries groups s entries = .ok after) :
    part after = ((said entries group names name).filterMap read).getLast?.getD (part s) := by
  rw [part_takeEntries h taken, ← foldl_getD, said, List.foldl_flatMap]

end Barrage.Toml
