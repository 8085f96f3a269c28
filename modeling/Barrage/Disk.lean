import Barrage.Text.Ascii
import Barrage.Text.Symbol

/-! A file system as a value: directories and files under the paths that lead to them.
A path is the list of names from the root; relative texts start at the working directory. Every
operation says which single path it changes, and fails as the directories and files in its way
require, or as the system has it. -/

namespace Barrage

inductive FileName where
  | text (s : String)
  | bytes (b : List UInt8)
  deriving DecidableEq, Repr

inductive Content where
  | text (s : String)
  /-- Bytes that are no text. -/
  | bytes (b : List UInt8)
  deriving DecidableEq, Repr

abbrev Path := List FileName

structure File where
  content : Content
  /-- Nanoseconds since 1970 at the last change, if they can be known. -/
  modified : Option Int
  readable : Bool
  writable : Bool
  removable : Bool
  deriving DecidableEq, Repr

/-- What a path leads to. There are no links of their own: a link to a file counts as that file, and
no two paths share one. -/
inductive Node where
  | directory
  | file (f : File)
  deriving DecidableEq, Repr

inductive DiskFault where
  | notFound
  | denied
  | exists
  | notDirectory
  | isDirectory
  | nameTooLong
  /-- A name with a character that ends texts of the system. -/
  | zeroInName
  /-- The content is no text. -/
  | notText
  /-- Whatever else the system complains of, in its own words. -/
  | other (complaint : String)
  deriving DecidableEq, Repr

def DiskFault.message : DiskFault → String
  | .notFound => "No such file or directory (os error 2)"
  | .denied => "Permission denied (os error 13)"
  | .exists => "File exists (os error 17)"
  | .notDirectory => "Not a directory (os error 20)"
  | .isDirectory => "Is a directory (os error 21)"
  | .nameTooLong => "File name too long (os error 36)"
  | .zeroInName => "file name contained an unexpected NUL byte"
  | .notText => "stream did not contain valid UTF-8"
  | .other complaint => complaint

/-- How a write fails that nothing on the disk speaks against: before the file is opened, or when
some bytes of the text are in it. -/
inductive Outage where
  | refused (cause : DiskFault)
  | cutOff (bytes : Nat) (cause : DiskFault)
  deriving DecidableEq, Repr

structure Disk where
  /-- The nodes below the root, with one entry for a path. -/
  nodes : List (Path × Node)
  /-- The working directory. -/
  home : Path
  /-- What becomes of writes to a path that the system fails. -/
  outage : Path → Option Outage

namespace FileName

def size : FileName → Nat
  | .text s => s.utf8ByteSize
  | .bytes b => b.length

def longest : Nat := 255

def shown : FileName → String
  | .text s => s
  | .bytes b => String.ofList (Symbol.replaceBroken [] 0 b)

def text? : FileName → Option String
  | .text s => some s
  | .bytes _ => none

def ofBytes (b : List UInt8) : FileName :=
  match Symbol.textOfBytes? b with
  | some s => .text s
  | none => .bytes b

end FileName

def Content.ofBytes (b : List UInt8) : Content :=
  match Symbol.textOfBytes? b with
  | some s => .text s
  | none => .bytes b

def File.new : File := ⟨.text "", none, true, true, true⟩

def File.holding (f : File) (now : Int) (c : Content) : File :=
  { f with content := c, modified := some now }

/-- The first bytes of a text, without the last one in any case. -/
def Content.beginning (n : Nat) (text : String) : Content :=
  .ofBytes (text.toUTF8.toList.dropLast.take n)

def joinPath (directory name : String) : String :=
  if directory.isEmpty || directory.toList.getLast? = some '/' then directory ++ name
  else directory ++ "/" ++ name

namespace Disk

def steady (nodes : List (Path × Node)) (home : Path) : Disk := ⟨nodes, home, fun _ => none⟩

def find (p : Path) : List (Path × Node) → Option Node
  | [] => none
  | (q, n) :: rest => if q = p then some n else find p rest

/-- What a path leads to; the root is a directory. -/
def node? (d : Disk) (p : Path) : Option Node :=
  if p = [] then some .directory else find p d.nodes

def isDirectory (d : Disk) (p : Path) : Bool := d.node? p = some .directory

def put (d : Disk) (p : Path) (n : Node) : Disk :=
  { d with nodes := d.nodes.filter (fun e => e.1 ≠ p) ++ [(p, n)] }

def erase (d : Disk) (p : Path) : Disk := { d with nodes := d.nodes.filter fun e => e.1 ≠ p }

def eraseAll (d : Disk) (p : Path) : Disk :=
  { d with nodes := d.nodes.filter fun e => !p.isPrefixOf e.1 }

def children (d : Disk) (p : Path) : List FileName :=
  d.nodes.filterMap fun e => if e.1.dropLast = p ∧ e.1 ≠ [] then e.1.getLast? else none

def components (s : List Char) : List (List Char) :=
  (Text.splitAt '/' s).filter fun c => c ≠ [] ∧ c ≠ ['.']

def origin (d : Disk) (s : List Char) : Path := if s.head? = some '/' then [] else d.home

def endsInDirectory (s : List Char) : Bool :=
  match s.reverse with
  | '/' :: _ => true
  | '.' :: '/' :: _ => true
  | _ => false

def follow (d : Disk) (wantsDirectory : Bool) : Path → List (List Char) → Except DiskFault Path
  | here, [] => .ok here
  | here, c :: rest =>
    if c = ['.', '.'] then follow d wantsDirectory here.dropLast rest
    else
      let name := FileName.text (String.ofList c)
      let next := here ++ [name]
      if FileName.longest < name.size then .error .nameTooLong
      else if rest = [] ∧ !wantsDirectory then .ok next
      else match d.node? next with
        | some .directory => follow d wantsDirectory next rest
        | some (.file _) => .error .notDirectory
        | none => .error .notFound

def resolve (d : Disk) (s : String) : Except DiskFault Path :=
  let cs := s.toList
  if cs = [] then .error .notFound
  else if cs.contains '\x00' then .error .zeroInName
  else follow d (endsInDirectory cs) (d.origin cs) (components cs)

def lookup (d : Disk) (s : String) : Except DiskFault Node := do
  let p ← d.resolve s
  match d.node? p with
  | some n => .ok n
  | none => .error .notFound

def «exists» (d : Disk) (s : String) : Bool :=
  match d.lookup s with
  | .ok _ => true
  | .error _ => false

def isFile (d : Disk) (s : String) : Bool :=
  match d.lookup s with
  | .ok (.file _) => true
  | _ => false

def Node.text : Node → Except DiskFault String
  | .directory => .error .isDirectory
  | .file f =>
    if !f.readable then .error .denied
    else match f.content with
      | .text s => .ok s
      | .bytes _ => .error .notText

def readText (d : Disk) (s : String) : Except DiskFault String := do Node.text (← d.lookup s)

/-- The directory that a text leads to when names are appended to it; the empty text is the working
directory then. -/
def directory (d : Disk) (s : String) : Except DiskFault Path := do
  let p ← if s.isEmpty then .ok d.home else d.resolve s
  match d.node? p with
  | some .directory => .ok p
  | some (.file _) => .error .notDirectory
  | none => .error .notFound

def list (d : Disk) (s : String) : Except DiskFault (Path × List FileName) := do
  let p ← d.resolve s
  match d.node? p with
  | some .directory => .ok (p, d.children p)
  | some (.file _) => .error .notDirectory
  | none => .error .notFound

def makeAlong (d : Disk) : Path → List (List Char) → Except DiskFault Unit × Disk
  | _, [] => (.ok (), d)
  | here, c :: rest =>
    if c = ['.', '.'] then makeAlong d here.dropLast rest
    else
      let name := FileName.text (String.ofList c)
      let next := here ++ [name]
      if FileName.longest < name.size then (.error .nameTooLong, d)
      else match d.node? next with
        | some .directory => makeAlong d next rest
        | some (.file _) => (.error (if rest = [] then .exists else .notDirectory), d)
        | none => makeAlong (d.put next .directory) next rest

def makeDirectories (d : Disk) (s : String) : Except DiskFault Unit × Disk :=
  let cs := s.toList
  if cs.contains '\x00' then (.error .zeroInName, d)
  else makeAlong d (if cs = [] then d.home else d.origin cs) (components cs)

def fileAt (d : Disk) (p : Path) : File :=
  match d.node? p with
  | some (.file f) => f
  | _ => .new

def fill (d : Disk) (now : Int) (p : Path) (c : Content) : Disk :=
  d.put p (.file ((d.fileAt p).holding now c))

/-- Write a text to a path. What a file held there is gone as soon as it is opened, and a write that
is cut off leaves the beginning of the text. -/
def writeAt (d : Disk) (now : Int) (p : Path) (text : String) : Except DiskFault Unit × Disk :=
  if d.node? p = some .directory then (.error .isDirectory, d)
  else if !(d.fileAt p).writable then (.error .denied, d)
  else match d.outage p with
    | none => (.ok (), d.fill now p (.text text))
    | some (.refused cause) => (.error cause, d)
    | some (.cutOff n cause) => (.error cause, d.fill now p (.beginning n text))

def writeIn (d : Disk) (now : Int) (directory name text : String) : Except DiskFault Unit × Disk :=
  match d.directory directory with
  | .error cause => (.error cause, d)
  | .ok p =>
    if FileName.longest < name.utf8ByteSize then (.error .nameTooLong, d)
    else d.writeAt now (p ++ [.text name]) text

@[simp] theorem node?_root (d : Disk) : d.node? [] = some .directory := rfl

theorem find_append (p : Path) (l m : List (Path × Node)) :
    find p (l ++ m) = (find p l).or (find p m) := by
  induction l with
  | nil => rfl
  | cons head rest ih =>
    obtain ⟨q, n⟩ := head
    by_cases h : q = p <;> simp [find, h, ih]

theorem find_filter_ne {p q : Path} (h : q ≠ p) (l : List (Path × Node)) :
    find q (l.filter fun e => e.1 ≠ p) = find q l := by
  induction l with
  | nil => rfl
  | cons head rest ih =>
    obtain ⟨r, n⟩ := head
    by_cases hp : r = p
    · subst hp
      simpa [find, h.symm] using ih
    · by_cases hq : r = q
      · simp [find, hq, h]
      · simpa [hp, find, hq] using ih

theorem find_filter_self (p : Path) (l : List (Path × Node)) :
    find p (l.filter fun e => e.1 ≠ p) = none := by
  induction l with
  | nil => rfl
  | cons head rest ih =>
    obtain ⟨r, n⟩ := head
    by_cases hp : r = p
    · simpa [hp] using ih
    · simpa [hp, find] using ih

theorem node?_put_self (d : Disk) {p : Path} (h : p ≠ []) (n : Node) :
    (d.put p n).node? p = some n := by
  rw [node?, if_neg h, put, find_append, find_filter_self]
  simp [find]

theorem node?_put_ne (d : Disk) {p q : Path} (h : q ≠ p) (n : Node) :
    (d.put p n).node? q = d.node? q := by
  by_cases hq : q = []
  · simp [hq]
  · rw [node?, if_neg hq, node?, if_neg hq, put, find_append, find_filter_ne h]
    simp [find, h.symm]

theorem node?_erase_self (d : Disk) {p : Path} (h : p ≠ []) : (d.erase p).node? p = none := by
  rw [node?, if_neg h, erase, find_filter_self]

theorem node?_erase_ne (d : Disk) {p q : Path} (h : q ≠ p) :
    (d.erase p).node? q = d.node? q := by
  by_cases hq : q = []
  · simp [hq]
  · rw [node?, if_neg hq, node?, if_neg hq, erase, find_filter_ne h]

end Disk
end Barrage
