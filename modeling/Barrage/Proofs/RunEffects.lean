import Barrage.Command.Perform
import Barrage.Proofs.Confinement
import Barrage.Proofs.ScriptDocuments

/-! What the order to run a script does to the disk.
The disk stays as it is as long as the script is not fit to run or nothing is to be kept. A result
that is kept comes to one file, in a directory that is made as far as it is missing. A failure in
that is told without making the order a failure, and leaves a part of that file at most. -/

namespace Barrage

namespace Disk

def stops : Path → List (List Char) → List Path
  | _, [] => []
  | here, c :: rest =>
    if c = ['.', '.'] then stops here.dropLast rest
    else
      let next := here ++ [.text (String.ofList c)]
      next :: stops next rest

/-- The paths that a text leads through. -/
def way (d : Disk) (s : String) : List Path := stops (d.origin s.toList) (components s.toList)

/-- Nothing is new on a later disk but directories at some places where nothing was. -/
structure MadeAt (places : List Path) (d e : Disk) : Prop where
  home : e.home = d.home
  made : ∀ q, e.node? q = d.node? q ∨
    q ∈ places ∧ d.node? q = none ∧ e.node? q = some .directory

namespace MadeAt
variable {places : List Path} {d e : Disk} {p : Path}

theorem refl (places : List Path) (d : Disk) : MadeAt places d d := ⟨rfl, fun _ => .inl rfl⟩

theorem later (h : MadeAt places d e) : MadeAt (p :: places) d e where
  home := h.home
  made q := (h.made q).imp_right fun new => ⟨List.mem_cons_of_mem _ new.1, new.2⟩

theorem first (missing : d.node? p = none) (h : MadeAt places (d.put p .directory) e) :
    MadeAt (p :: places) d e where
  home := h.home
  made q := by
    by_cases same : q = p
    · subst same
      have below : q ≠ [] := by
        rintro rfl
        cases missing
      have there := d.node?_put_self below .directory
      rcases h.made q with kept | ⟨-, gone, -⟩
      · exact .inr ⟨List.mem_cons_self, missing, kept.trans there⟩
      · rw [there] at gone
        cases gone
    · have kept := h.made q
      rw [d.node?_put_ne same] at kept
      exact kept.imp_right fun new => ⟨List.mem_cons_of_mem _ new.1, new.2⟩

end MadeAt

section
variable {d : Disk} {now : Int} {directory name : String} {p : Path} {c : Content}

end

end Disk

namespace ResultStore
variable {d e : Disk} {directory : String} {now : Int} {r : RunResult}

/-- The file of a result has some content, and is found under the joined text; all else is as it
was, but for directories on the way there that were missing. -/
structure Filed (d e : Disk) (directory : String) (r : RunResult) (p : Path) (c : Content) :
    Prop where
  home : e.home = d.home
  there : e.directory directory = .ok p
  leads : e.resolve (joinPath directory (fileName r)) = .ok (p ++ [fileOf r])
  file : ∃ f, e.node? (p ++ [fileOf r]) = some (.file f) ∧ f.content = c ∧
    (f.readable = true ↔ d.Readable (p ++ [fileOf r]))
  others : ∀ q, q ≠ p ++ [fileOf r] → e.node? q = d.node? q ∨
    q ∈ d.way directory ∧ d.node? q = none ∧ e.node? q = some .directory

/-- A result is not in the directory: all is as it was, but for directories on the way there, or the
result was cut off, and its file has the beginning. -/
inductive Leaves (d e : Disk) (directory : String) (r : RunResult) : Prop where
  | nothing : d.MadeAt (d.way directory) e → Leaves d e directory r
  | part {p : Path} {n : Nat} : Filed d e directory r p (.beginning n r.toValue.pretty) →
      Leaves d e directory r

section
variable {made : Disk} (h : d.MadeAt (d.way directory) made)
include h

end

end ResultStore

namespace Command
open ResultStore
variable {d : Disk} {directory : String} {now : Int} {r : RunResult}

section
variable {path : String} {users : UInt32} {seconds : UInt64} {kind : TestKind}

variable {s : Surroundings} {settings : Settings} {keepsResult plain : Bool}

end

end Command
end Barrage
