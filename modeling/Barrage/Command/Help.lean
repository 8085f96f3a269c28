import Barrage.Command.Order
import Barrage.Program

/-! What is said when arguments ask for no order: the version, or how to give orders. -/

namespace Barrage.Command

def toColumn (column : Nat) (s : String) : String :=
  s ++ String.ofList (List.replicate (column - s.length) ' ')

def Opt.line (o : Opt) : String :=
  let letter := match o.short with
    | some c => "-" ++ String.ofList [c] ++ ", "
    | none => "    "
  let value := match o.meaning with
    | .value _ => " <" ++ (Text.upper o.long).replace "-" "_" ++ ">"
    | _ => ""
  "  " ++ toColumn 40 (letter ++ "--" ++ o.long ++ value) ++ o.about

def Verb.lines (v : Verb) : List String :=
  ("  " ++ toColumn 40 v.name ++ v.about) :: v.options.map fun o => "  " ++ o.line

def usageLine : String := "Usage: " ++ Program.name ++ " [OPTIONS] <COMMAND>"

def helpLines : List String :=
  ["Run recorded HTTP scripts under load", "", usageLine, "", "Commands:"] ++
    verbs.flatMap Verb.lines ++ ["", "Options:"] ++ leading.map Opt.line

def Stop.out : Stop → String
  | .usage => ""
  | .help => Text.join "\n" helpLines ++ "\n"
  | .version => Program.name ++ " " ++ Program.version ++ "\n"

def Stop.err : Stop → String
  | .usage => "error: the arguments do not give an order\n\n" ++ usageLine ++ "\n"
  | _ => ""

end Barrage.Command
