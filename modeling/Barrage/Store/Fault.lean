import Barrage.Disk

/-! Failures of stores that keep their records on a disk. -/

namespace Barrage

structure StoreFault where
  /-- The path as the store was told it. -/
  path : String
  cause : DiskFault
  deriving DecidableEq, Repr

def StoreFault.message (f : StoreFault) : String :=
  "Failed to access '" ++ f.path ++ "': " ++ f.cause.message

def StoreFault.of (path : String) : Except DiskFault α → Except StoreFault α :=
  Except.mapError fun cause => ⟨path, cause⟩

/-- What a store has come to with an operation, whether that did its work or not. -/
structure Saved (Store : Type) where
  outcome : Except StoreFault Unit
  store : Store
  disk : Disk

/-- The characters of an identifier that may stand in file names; any other becomes a low line. -/
def fileStem (id : String) : List Char :=
  id.toList.map fun c => if c.isAlphanum || c == '-' || c == '_' then c else '_'

end Barrage
