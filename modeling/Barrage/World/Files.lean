import Barrage.Disk

/-! The file system, as far as it is looked at, and changes to it. -/

namespace Barrage.World

def pathText (p : Path) : String := "/" ++ Text.join "/" (p.map FileName.shown)

def nanosOf (t : IO.FS.SystemTime) : Int := t.sec * 1000000000 + t.nsec.toNat

def readNode (p : Path) : IO (Option Node) := do
  let file := (← IO.currentDir) / pathText p
  let some found ← (some <$> file.metadata) <|> pure none | return none
  match found.type with
  | .dir => return some .directory
  | .file =>
    let modified := some (nanosOf found.modified)
    let bytes ← (some <$> IO.FS.readBinFile file) <|> pure none
    match bytes with
    | some bytes => return some (.file ⟨.ofBytes bytes.toList, modified, true, true, true⟩)
    | none => return some (.file ⟨.text "", modified, false, true, true⟩)
  | _ => return none

def lookAt (d : Disk) (p : Path) : IO (Disk × Bool) := do
  match ← readNode p with
  | some n => return (d.put p n, n = .directory)
  | none => return (d.erase p, p = [])

/-- The disk with what is in a directory, and nothing else in it. -/
def lookInside (d : Disk) (p : Path) : IO Disk := do
  let mut disk := (d.children p).foldl (fun d name => d.erase (p ++ [name])) d
  for entry in ← ((← IO.currentDir) / pathText p).readDir do
    disk := (← lookAt disk (p ++ [.text entry.fileName])).1
  return disk

def lookAlong (d : Disk) (p : Path) : List (List Char) → IO Disk
  | [] => lookInside d p
  | c :: rest => do
    let next := if c = ['.', '.'] then p.dropLast else p ++ [.text (String.ofList c)]
    let (d, isDirectory) ← lookAt d next
    if isDirectory then lookAlong d next rest else return d

def look (d : Disk) (text : String) : IO Disk := do
  let cs := text.toList
  if cs.contains '\x00' then return d
  lookAlong d (d.origin cs) (Disk.components cs)

def start : IO Disk := do
  let home := Disk.components (← IO.currentDir).toString.toList
  let home : Path := home.map fun c => .text (String.ofList c)
  let mut disk := Disk.steady [] home
  for n in [:home.length] do
    disk := disk.put (home.take (n + 1)) .directory
  return disk

/-- Make the file system what the disk has become. -/
def commit (before after : Disk) : IO Unit := do
  for (p, n) in after.nodes do
    if before.node? p ≠ some n then
      match n with
      | .directory => IO.FS.createDirAll (pathText p)
      | .file f =>
        match f.content with
        | .text s => IO.FS.writeFile (pathText p) s
        | .bytes b => IO.FS.writeBinFile (pathText p) ⟨b.toArray⟩
  for (p, _) in before.nodes do
    if (after.node? p).isNone then IO.FS.removeFile (pathText p)

end Barrage.World
