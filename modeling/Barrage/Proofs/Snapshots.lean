import Mathlib.Data.Fin.Tuple.Basic
import Mathlib.Data.List.GetD
import Barrage.Load.Aggregators
import Barrage.Proofs.Recording

/-! What a snapshot of shared metrics holds.
A handle stands for the aggregator that it was cloned from, however many clones lie between. After
every sequence of operations its snapshot is that of the samples recorded through the handles of
the same origin, in the order of recording. -/

namespace Barrage

structure Metrics.Tally (m : Metrics) (samples : List Sample) : Prop where
  total : m.total = samples.length
  success : m.success = samples.countP (·.outcome.isOk)
  failure : m.failure = samples.countP (!·.outcome.isOk)
  latencies : m.latencies = samples.map (·.millis)
  categories : ∀ c, m.categories.get? c =
    if samples.countP (·.outcome.failsAs c) = 0 then none
    else some (samples.countP (·.outcome.failsAs c))

theorem Metrics.tally_recordAll (samples : List Sample) :
    (empty.recordAll samples).Tally samples where
  total := (total_recordAll empty samples).trans (Nat.zero_add _)
  success := (success_recordAll empty samples).trans (Nat.zero_add _)
  failure := (failure_recordAll empty samples).trans (Nat.zero_add _)
  latencies := latencies_recordAll empty samples
  categories := fun c => by
    rw [get?_categories_recordAll]
    exact if_congr Iff.rfl rfl (congrArg some (Nat.zero_add _))

namespace Aggregators

/-- An operation on aggregators to which `n` handles lead, and then `m`. A new handle is the
last. -/
inductive Operation : Nat → Nat → Type
  | fresh {n : Nat} : Operation n (n + 1)
  | clone {n : Nat} (h : Fin n) : Operation n (n + 1)
  | record {n : Nat} (h : Fin n) (s : Sample) : Operation n n
  /-- Records a sample whose time was taken as a span. -/
  | recordTimed {n : Nat} (h : Fin n) (d : Duration) (o : Outcome) : Operation n n
  | hold {n : Nat} (h : Fin n) : Operation n n

namespace Operation
variable {n m : Nat}

def perform : Operation n m → Aggregators → Aggregators
  | fresh, a => a.fresh
  | clone h, a => a.clone h
  | record h s, a => a.record h s
  | recordTimed h d o, a => a.record h ⟨d.millis, o⟩
  | hold h, a => a.hold h

def recorded? : Operation n m → Option (Fin n × Sample)
  | record h s => some (h, s)
  | recordTimed h d o => some (h, ⟨d.millis, o⟩)
  | fresh | clone _ | hold _ => none

/-- The origin of each handle, when those of the former handles are known. -/
def origins : {n m : Nat} → Operation n m → (Fin n → Nat) → Fin m → Nat
  | n, _, fresh, before => Fin.snoc before n
  | _, _, clone h, before => Fin.snoc before (before h)
  | _, _, record _ _, before => before
  | _, _, recordTimed _ _ _, before => before
  | _, _, hold _, before => before

end Operation

inductive Trace : Nat → Type
  | start : Trace 1
  | step {n m : Nat} (t : Trace n) (o : Operation n m) : Trace m

namespace Trace
variable {n m k : Nat}

def state : {n : Nat} → Trace n → Aggregators
  | _, start => initial
  | _, step t o => o.perform t.state

/-- The handle of which a handle is a clone, and which is none itself. -/
def origin : {n : Nat} → Trace n → Fin n → Nat
  | _, start => fun _ => 0
  | _, step t o => o.origins t.origin

def records : {n : Nat} → Trace n → Nat → List Sample
  | _, start, _ => []
  | _, step t o, r =>
    match o.recorded? with
    | some (h, s) => if t.origin h = r then t.records r ++ [s] else t.records r
    | none => t.records r

inductive Later (t : Trace n) : {m : Nat} → Trace m → Prop
  | here : Later t t
  | step {m k : Nat} {u : Trace m} (h : Later t u) (o : Operation m k) : Later t (u.step o)

end Trace

section
variable {a : Aggregators} {g h : Nat}

theorem cell_clone (within : h < a.handles.length) : (a.clone g).cell h = a.cell h :=
  List.getD_append _ _ _ _ within

theorem length_cells_fresh : a.fresh.cells.length = a.cells.length + 1 :=
  List.length_append

theorem cell_clone_length : (a.clone g).cell a.handles.length = a.cell g := by
  simp [cell, clone]

theorem cell_fresh (within : h < a.handles.length) : a.fresh.cell h = a.cell h :=
  List.getD_append _ _ _ _ within

theorem cell_fresh_length : a.fresh.cell a.handles.length = a.cells.length := by
  simp [cell, fresh]

theorem snapshot_clone (within : h < a.handles.length) : (a.clone g).snapshot h = a.snapshot h := by
  rw [snapshot, cell_clone within]
  rfl

theorem snapshot_clone_length : (a.clone g).snapshot a.handles.length = a.snapshot g := by
  rw [snapshot, cell_clone_length]
  rfl

theorem snapshot_fresh (within : h < a.handles.length) (bound : a.cell h < a.cells.length) :
    a.fresh.snapshot h = a.snapshot h := by
  rw [snapshot, cell_fresh within]
  exact List.getD_append _ _ _ _ bound

theorem snapshot_fresh_length : a.fresh.snapshot a.handles.length = .empty := by
  rw [snapshot, cell_fresh_length]
  simp [fresh]

theorem snapshot_record (s : Sample) (bound : a.cell h < a.cells.length) :
    (a.record g s).snapshot h =
      if a.cell g = a.cell h then (a.snapshot h).record s else a.snapshot h := by
  have cells : (a.record g s).snapshot h =
      (a.cells.modify (a.cell g) (·.record s)).getD (a.cell h) .empty := rfl
  rw [cells, List.getD_eq_getElem?_getD, List.getElem?_modify, snapshot,
    List.getD_eq_getElem?_getD, List.getElem?_eq_getElem bound]
  split <;> rfl

end

namespace Trace
variable {n m : Nat} {t : Trace n}

structure Sound (t : Trace n) : Prop where
  handles : t.state.handles.length = n
  bound : ∀ h : Fin n, t.state.cell h < t.state.cells.length
  shared : ∀ g h : Fin n, t.state.cell g = t.state.cell h ↔ t.origin g = t.origin h
  origins : ∀ h : Fin n, t.origin h < n
  records : ∀ r, n ≤ r → t.records r = []
  snapshot : ∀ h : Fin n, t.state.snapshot h = Metrics.empty.recordAll (t.records (t.origin h))

theorem sound_start : start.Sound where
  handles := rfl
  bound := by decide
  shared := by decide
  origins := by decide
  records := fun _ _ => rfl
  snapshot := by
    intro h
    obtain rfl := Subsingleton.elim h 0
    rfl

theorem origin_fresh_last (t : Trace n) : (t.step .fresh).origin (Fin.last n) = n :=
  Fin.snoc_last (α := fun _ => Nat) n t.origin

theorem origin_fresh_castSucc (t : Trace n) (h : Fin n) :
    (t.step .fresh).origin h.castSucc = t.origin h :=
  Fin.snoc_castSucc (α := fun _ => Nat) n t.origin h

theorem origin_clone_last (t : Trace n) (g : Fin n) :
    (t.step (.clone g)).origin (Fin.last n) = t.origin g :=
  Fin.snoc_last (α := fun _ => Nat) (t.origin g) t.origin

theorem origin_clone_castSucc (t : Trace n) (g h : Fin n) :
    (t.step (.clone g)).origin h.castSucc = t.origin h :=
  Fin.snoc_castSucc (α := fun _ => Nat) (t.origin g) t.origin h

structure Adds (t : Trace n) (o : Operation n (n + 1)) : Prop where
  handles : (t.step o).state.handles.length = n + 1
  cells : t.state.cells.length ≤ (t.step o).state.cells.length
  records : (t.step o).records = t.records
  cell : ∀ i : Fin n, (t.step o).state.cell i.castSucc = t.state.cell i
  origin : ∀ i : Fin n, (t.step o).origin i.castSucc = t.origin i
  snapshot : ∀ i : Fin n, (t.step o).state.snapshot i.castSucc = t.state.snapshot i
  bound_last : (t.step o).state.cell (Fin.last n) < (t.step o).state.cells.length
  origin_last : (t.step o).origin (Fin.last n) ≤ n
  shared_last : ∀ i : Fin n, (t.step o).state.cell (Fin.last n) = t.state.cell i ↔
    (t.step o).origin (Fin.last n) = t.origin i
  snapshot_last : (t.step o).state.snapshot (Fin.last n) =
    Metrics.empty.recordAll (t.records ((t.step o).origin (Fin.last n)))

theorem Sound.adds (h : t.Sound) {o : Operation n (n + 1)} (added : Adds t o) :
    (t.step o).Sound := by
  constructor
  case handles => exact added.handles
  case bound =>
    refine Fin.lastCases added.bound_last fun i => ?_
    rw [added.cell]
    exact (h.bound i).trans_le added.cells
  case shared =>
    refine Fin.lastCases ?_ fun i => ?_ <;> refine Fin.lastCases ?_ fun j => ?_
    · simp
    · rw [added.cell, added.origin]
      exact added.shared_last j
    · rw [added.cell, added.origin, eq_comm, added.shared_last, eq_comm]
    · rw [added.cell, added.cell, added.origin, added.origin]
      exact h.shared i j
  case origins =>
    refine Fin.lastCases (Nat.lt_succ_of_le added.origin_last) fun i => ?_
    rw [added.origin]
    exact (h.origins i).trans n.lt_succ_self
  case records =>
    rw [added.records]
    exact fun r beyond => h.records r (n.le_succ.trans beyond)
  case snapshot =>
    rw [added.records]
    refine Fin.lastCases added.snapshot_last fun i => ?_
    rw [added.snapshot, added.origin]
    exact h.snapshot i

theorem Sound.fresh (h : t.Sound) : (t.step .fresh).Sound := by
  have within (i : Fin n) : (i.castSucc : Nat) < t.state.handles.length := by simp [h.handles]
  have last : ((Fin.last n : Fin (n + 1)) : Nat) = t.state.handles.length := h.handles.symm
  have cell_last : (t.step .fresh).state.cell (Fin.last n) = t.state.cells.length := by
    rw [last]
    exact cell_fresh_length
  have origin_last := origin_fresh_last t
  have cells : (t.step .fresh).state.cells.length = t.state.cells.length + 1 := length_cells_fresh
  refine h.adds ⟨?_, ?_, rfl, ?_, origin_fresh_castSucc t, ?_, ?_, origin_last.le, ?_, ?_⟩
  · simpa [state, Operation.perform, Aggregators.fresh] using h.handles
  · exact cells ▸ Nat.le_succ _
  · exact fun i => cell_fresh (within i)
  · exact fun i => snapshot_fresh (within i) (h.bound i)
  · rw [cell_last, cells]
    exact Nat.lt_succ_self _
  · intro i
    rw [cell_last, origin_last]
    exact iff_of_false (h.bound i).ne' (h.origins i).ne'
  · rw [origin_last, h.records n le_rfl, last]
    exact snapshot_fresh_length

theorem Sound.clone (h : t.Sound) (g : Fin n) : (t.step (.clone g)).Sound := by
  have within (i : Fin n) : (i.castSucc : Nat) < t.state.handles.length := by simp [h.handles]
  have last : ((Fin.last n : Fin (n + 1)) : Nat) = t.state.handles.length := h.handles.symm
  have cell_last : (t.step (.clone g)).state.cell (Fin.last n) = t.state.cell g := by
    rw [last]
    exact cell_clone_length
  have origin_last := origin_clone_last t g
  refine h.adds ⟨?_, le_rfl, rfl, ?_, origin_clone_castSucc t g, ?_, ?_, ?_, ?_, ?_⟩
  · simpa [state, Operation.perform, Aggregators.clone] using h.handles
  · exact fun i => cell_clone (within i)
  · exact fun i => snapshot_clone (within i)
  · rw [cell_last]
    exact h.bound g
  · rw [origin_last]
    exact (h.origins g).le
  · intro i
    rw [cell_last, origin_last]
    exact h.shared g i
  · rw [origin_last, last]
    exact snapshot_clone_length.trans (h.snapshot g)

theorem Sound.record (h : t.Sound) (g : Fin n) (s : Sample) : (t.step (.record g s)).Sound := by
  have records (r : Nat) : (t.step (.record g s)).records r =
      if t.origin g = r then t.records r ++ [s] else t.records r := rfl
  refine ⟨h.handles, fun i => ?_, h.shared, h.origins, fun r bound => ?_, fun i => ?_⟩
  · exact (h.bound i).trans_eq (List.length_modify ..).symm
  · rw [records, if_neg ((h.origins g).trans_le bound).ne, h.records r bound]
  · have origin : (t.step (.record g s)).origin i = t.origin i := rfl
    have step := snapshot_record (g := g) s (h.bound i)
    rw [h.snapshot i] at step
    rw [origin, records]
    refine step.trans ?_
    by_cases same : t.origin g = t.origin i
    · rw [if_pos same, if_pos ((h.shared g i).2 same), Metrics.recordAll_concat]
    · rw [if_neg same, if_neg (mt (h.shared g i).1 same)]

theorem Sound.hold (h : t.Sound) (g : Fin n) : (t.step (.hold g)).Sound :=
  ⟨h.handles, h.bound, h.shared, h.origins, h.records, h.snapshot⟩

theorem Sound.step (h : t.Sound) (o : Operation n m) : (t.step o).Sound := by
  cases o with
  | fresh => exact h.fresh
  | clone g => exact h.clone g
  | record g s => exact h.record g s
  | recordTimed g d o =>
    -- A timed sample is recorded as one of whole milliseconds.
    have same := h.record g ⟨d.millis, o⟩
    exact ⟨same.handles, same.bound, same.shared, same.origins, same.records, same.snapshot⟩
  | hold g => exact h.hold g

theorem sound (t : Trace n) : t.Sound := by
  induction t with
  | start => exact sound_start
  | step t o ih => exact ih.step o

theorem kept_step (t : Trace n) (o : Operation n m) : t.state.kept <+: (t.step o).state.kept := by
  cases o with
  | hold h => exact List.prefix_append _ _
  | _ => exact List.prefix_rfl

theorem Later.kept {u : Trace m} (h : Later t u) : t.state.kept <+: u.state.kept := by
  induction h with
  | here => exact List.prefix_rfl
  | step _ o ih => exact ih.trans (kept_step _ o)

theorem Sound.snapshot_of_apart (h : t.Sound) {i : Fin n} {o : Operation n m}
    (apart : ∀ g s, o.recorded? = some (g, s) → t.origin g ≠ t.origin i) :
    (o.perform t.state).snapshot i = t.state.snapshot i := by
  have within : (i : Nat) < t.state.handles.length := h.handles.symm ▸ i.isLt
  have recorded (g : Fin n) (s : Sample) (apart : t.origin g ≠ t.origin i) :
      (t.state.record g s).snapshot i = t.state.snapshot i := by
    rw [snapshot_record s (h.bound i), if_neg (mt (h.shared g i).1 apart)]
  cases o with
  | fresh => exact snapshot_fresh within (h.bound i)
  | clone => exact snapshot_clone within
  | record g s => exact recorded g s (apart g s rfl)
  | recordTimed g d o => exact recorded g ⟨d.millis, o⟩ (apart g _ rfl)
  | hold => rfl

/-- After every sequence of operations the snapshot through a handle is that of all samples
recorded through handles of the same origin. Recording through any other handle leaves it alone,
and once it is held nothing changes it. -/
theorem snapshot_of_trace (t : Trace n) (h : Fin n) :
    (t.state.snapshot h).Tally (t.records (t.origin h)) ∧
    (∀ (m : Nat) (o : Operation n m),
      (∀ g s, o.recorded? = some (g, s) → t.origin g ≠ t.origin h) →
        (t.step o).state.snapshot h = t.state.snapshot h) ∧
    (∀ (m : Nat) (u : Trace m), Later (t.step (.hold h)) u →
      u.state.kept[t.state.kept.length]? = some (t.state.snapshot h)) := by
  refine ⟨?_, fun m o apart => t.sound.snapshot_of_apart apart, fun m u later => ?_⟩
  · rw [t.sound.snapshot h]
    exact Metrics.tally_recordAll _
  · obtain ⟨rest, kept⟩ := later.kept
    have held : (t.step (.hold h)).state.kept = t.state.kept ++ [t.state.snapshot h] := rfl
    rw [← kept, held]
    simp

example :
    let t := ((start.step .fresh).step (.clone 0)).step (.record 2 ⟨5, .ok ()⟩)
    t.state.snapshot 0 = ⟨1, 1, 0, [5], {}⟩ ∧ t.state.snapshot 1 = .empty := by decide

end Trace
end Aggregators
end Barrage
