import Barrage.Store.Fault

/-! Failures as a terminal shows them: what failed, and below it what that was caused by. -/

namespace Barrage.Command

structure Complaint where
  message : String
  /-- The nearest cause first. -/
  causes : List String
  deriving DecidableEq, Repr

namespace Complaint

def indent (mark : String) (s : String) : String :=
  let blanks := String.ofList (List.replicate mark.length ' ')
  mark ++ Text.join ("\n" ++ blanks) ((Text.splitAt '\n' s.toList).map String.ofList)

def mark (n : Nat) : String :=
  let digits := toString n
  String.ofList (List.replicate (5 - digits.length) ' ') ++ digits ++ ": "

def causeLines : List String → List String
  | [] => []
  | [cause] => ["", "Caused by:", indent "    " cause]
  | causes => "" :: "Caused by:" :: causes.mapIdx fun n cause => indent (mark n) cause

def text (c : Complaint) : String :=
  Text.join "\n" (("Error: " ++ c.message) :: causeLines c.causes) ++ "\n"

def ofStore (doing : String) (f : StoreFault) : Complaint :=
  ⟨doing, [f.message, f.cause.message]⟩

def ofFault (f : StoreFault) : Complaint := ⟨f.message, [f.cause.message]⟩

end Complaint
end Barrage.Command
