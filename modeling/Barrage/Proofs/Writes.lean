import Barrage.Proofs.Directories

/-! What writing a file comes to.
A write that nothing speaks against puts its text into one file, and who may use a file that was
there stays as it was. One that fails leaves everything as it was, unless the system cut it off:
then the beginning of the text is in the file, and what the file held before is gone. -/

namespace Barrage.Disk

structure Accepts (d : Disk) (p : Path) : Prop where
  free : d.node? p ≠ some .directory
  writable : (d.fileAt p).writable = true
  steady : d.outage p = none

def Readable (d : Disk) (p : Path) : Prop := (d.fileAt p).readable = true

instance (d : Disk) (p : Path) : Decidable (d.Readable p) :=
  inferInstanceAs (Decidable ((d.fileAt p).readable = true))

section
variable {d e : Disk} {now : Int} {p q : Path} {c : Content} {directory text : String}

theorem fileAt_of_file {f : File} (h : d.node? p = some (.file f)) : d.fileAt p = f := by
  rw [fileAt, h]

theorem fileAt_of_none (h : d.node? p = none) : d.fileAt p = .new := by
  rw [fileAt, h]

theorem node?_fill_self (below : p ≠ []) :
    (d.fill now p c).node? p = some (.file ((d.fileAt p).holding now c)) :=
  d.node?_put_self below _

theorem node?_fill_ne (other : q ≠ p) : (d.fill now p c).node? q = d.node? q :=
  d.node?_put_ne other _

theorem fileAt_congr (h : e.node? p = d.node? p) : e.fileAt p = d.fileAt p := by
  rw [fileAt, fileAt, h]

theorem readable_of_none (h : d.node? p = none) : d.Readable p := by
  rw [Readable, fileAt_of_none h]
  rfl

theorem readable_fill (below : p ≠ []) : (d.fill now p c).Readable q ↔ d.Readable q := by
  by_cases same : q = p
  · rw [Readable, same, fileAt_of_file (node?_fill_self below)]
    rfl
  · rw [Readable, fileAt_congr (node?_fill_ne same), Readable]

theorem Accepts.of_none (absent : d.node? p = none) (steady : d.outage p = none) :
    d.Accepts p where
  free := by simp [absent]
  writable := by
    rw [fileAt_of_none absent]
    rfl
  steady := steady

theorem Accepts.fill (below : p ≠ []) (h : d.Accepts q) : (d.fill now p c).Accepts q := by
  by_cases same : q = p
  · subst same
    refine ⟨by simp [node?_fill_self below], ?_, h.steady⟩
    rw [fileAt_of_file (node?_fill_self below)]
    exact h.writable
  · have kept : (d.fill now p c).node? q = d.node? q := node?_fill_ne same
    exact ⟨kept ▸ h.free, fileAt_congr kept ▸ h.writable, h.steady⟩

theorem writeAt_of_accepts (h : d.Accepts p) :
    d.writeAt now p text = (.ok (), d.fill now p (.text text)) := by
  simp [writeAt, h.free, h.writable, h.steady]

theorem accepts_of_writeAt (h : d.writeAt now p text = (.ok (), e)) :
    d.Accepts p ∧ e = d.fill now p (.text text) := by
  rw [writeAt] at h
  split at h
  · cases h
  · next free =>
    split at h
    · cases h
    · next writable =>
      split at h
      · next steady =>
        cases h
        exact ⟨⟨free, by simpa using writable, steady⟩, rfl⟩
      · cases h
      · cases h

theorem Reaches.writeIn (h : d.Reaches directory p) (now : Int) (name text : String) :
    d.writeIn now directory name text =
      if FileName.longest < name.utf8ByteSize then (.error .nameTooLong, d)
      else d.writeAt now (p ++ [.text name]) text := by
  simp only [Disk.writeIn, h.directory]

/-- A write breaks off when the file for it is open. -/
structure CutOff (d : Disk) (directory name : String) (p : Path) (bytes : Nat) (cause : DiskFault) :
    Prop where
  there : d.directory directory = .ok p
  short : ¬ FileName.longest < name.utf8ByteSize
  free : d.node? (p ++ [.text name]) ≠ some .directory
  outage : d.outage (p ++ [.text name]) = some (.cutOff bytes cause)

/-- What a write into a directory can come to. -/
inductive Wrote (d : Disk) (now : Int) (directory name text : String) :
    Except DiskFault Unit × Disk → Prop
  | whole {p : Path} (there : d.directory directory = .ok p)
      (short : ¬ FileName.longest < name.utf8ByteSize) (accepts : d.Accepts (p ++ [.text name])) :
      Wrote d now directory name text (.ok (), d.fill now (p ++ [.text name]) (.text text))
  | nothing (cause : DiskFault) : Wrote d now directory name text (.error cause, d)
  | part {p : Path} {n : Nat} {cause : DiskFault} (cut : d.CutOff directory name p n cause) :
      Wrote d now directory name text
        (.error cause, d.fill now (p ++ [.text name]) (.beginning n text))

theorem wrote_writeIn (d : Disk) (now : Int) (directory name text : String) :
    Wrote d now directory name text (d.writeIn now directory name text) := by
  rw [Disk.writeIn]
  split
  · exact .nothing _
  next p there =>
    split
    · exact .nothing _
    next short =>
      rw [writeAt]
      split
      · exact .nothing _
      next free =>
        split
        · exact .nothing _
        next writable =>
          split
          · next steady => exact .whole there short ⟨free, by simpa using writable, steady⟩
          · exact .nothing _
          · next outage => exact .part ⟨there, short, free, outage⟩

end
end Barrage.Disk
