import Barrage.Script
import Barrage.Text.Blank

/-! What a script must have before it is run: steps, each with a URL and a method. -/

namespace Barrage

inductive ScriptFault where
  | scriptNotFound (id : String)
  | noSteps
  /-- Steps are counted from one. -/
  | emptyUrl (step : Nat)
  | emptyMethod (step : Nat)
  deriving DecidableEq, Repr

namespace ScriptFault

def message : ScriptFault → String
  | .scriptNotFound id => "script not found: " ++ id
  | .noSteps => "script has no steps"
  | .emptyUrl k => "step " ++ toString k ++ ": url is empty"
  | .emptyMethod k => "step " ++ toString k ++ ": method is empty"

end ScriptFault

def Step.isComplete (s : Step) : Bool :=
  !(Text.trim s.url).isEmpty && !(Text.trim s.method).isEmpty

def checkSteps (k : Nat) : List Step → Except ScriptFault Unit
  | [] => .ok ()
  | s :: rest =>
    if (Text.trim s.url).isEmpty then .error (.emptyUrl k)
    else if (Text.trim s.method).isEmpty then .error (.emptyMethod k)
    else checkSteps (k + 1) rest

def Script.check (s : Script) : Except ScriptFault Unit :=
  if s.steps.isEmpty then .error .noSteps else checkSteps 1 s.steps

def checkFound (id : String) (found : Option Script) : Except ScriptFault Script :=
  match found with
  | none => .error (.scriptNotFound id)
  | some s => s.check.map fun _ => s

end Barrage
