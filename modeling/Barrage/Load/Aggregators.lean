import Barrage.Load.Metrics

/-! Handles to shared metrics.
Several handles may lead to one aggregator; what is recorded through any of them is seen through
all. A snapshot is a value and never changes. -/

namespace Barrage

structure Aggregators where
  /-- The state of each aggregator. -/
  cells : List Metrics
  /-- For each handle, the aggregator that it leads to. -/
  handles : List Nat
  /-- The snapshots that were taken and held, the earliest first. -/
  kept : List Metrics

namespace Aggregators

def initial : Aggregators := ⟨[.empty], [0], []⟩

def cell (a : Aggregators) (handle : Nat) : Nat := a.handles.getD handle 0

def snapshot (a : Aggregators) (handle : Nat) : Metrics := a.cells.getD (a.cell handle) .empty

def record (a : Aggregators) (handle : Nat) (s : Sample) : Aggregators :=
  { a with cells := a.cells.modify (a.cell handle) (·.record s) }

def clone (a : Aggregators) (handle : Nat) : Aggregators :=
  { a with handles := a.handles ++ [a.cell handle] }

def fresh (a : Aggregators) : Aggregators :=
  { a with cells := a.cells ++ [.empty], handles := a.handles ++ [a.cells.length] }

def hold (a : Aggregators) (handle : Nat) : Aggregators :=
  { a with kept := a.kept ++ [a.snapshot handle] }

def held (a : Aggregators) : Option Metrics := a.kept.getLast?

end Aggregators
end Barrage
