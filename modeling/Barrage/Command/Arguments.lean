import Barrage.Text.Ascii

/-! Arguments of a command: options, with or without a value, up to the first plain word.
An option is given at most once. Reading goes from left to right and stops at the first argument
that does not fit, or that asks for something else than an order. -/

namespace Barrage.Command

inductive Stop where
  | usage
  | help
  | version
  deriving DecidableEq, Repr

inductive Meaning where
  | flag
  /-- A value follows, which has to satisfy the predicate. -/
  | value (fits : String → Bool)
  | stop (s : Stop)

structure Opt where
  /-- The name after two dashes. -/
  long : String
  /-- The letter after a single dash, if there is one. -/
  short : Option Char
  meaning : Meaning
  /-- What it is for, in a line. -/
  about : String

abbrev Given := List (String × String)

namespace Given

def has (g : Given) (name : String) : Bool := g.any (·.1 == name)

def value? (g : Given) (name : String) : Option String := (g.find? (·.1 == name)).map (·.2)

def add (g : Given) (name value : String) : Except Stop Given :=
  if g.has name then .error .usage else .ok (g ++ [(name, value)])

def addFitting (g : Given) (name : String) (fits : String → Bool) (value : String) :
    Except Stop Given :=
  if fits value then g.add name value else .error .usage

def addBare (g : Given) (o : Opt) : Except Stop Given :=
  match o.meaning with
  | .flag => g.add o.long ""
  | .value _ => .error .usage
  | .stop s => .error s

end Given

def splitValue (cs : List Char) : List Char × Option (List Char) :=
  let name := cs.takeWhile (· ≠ '=')
  match cs.drop name.length with
  | _ :: value => (name, some value)
  | [] => (name, none)

/-- Whether an argument can only be an option; a single dash is a plain word. -/
def isOption (arg : String) : Bool :=
  match arg.toList with
  | '-' :: _ :: _ => true
  | _ => false

def readLetters (known : List Opt) : Given → List Char → Except Stop Given
  | g, [] => .ok g
  | g, c :: rest => do
    match known.find? (·.short == some c) with
    | none => .error .usage
    | some o => readLetters known (← g.addBare o) rest

def readOptions (known : List Opt) : Given → List String →
    Except Stop (Given × Option (String × List String))
  | g, [] => .ok (g, none)
  | g, arg :: rest =>
    match arg.toList with
    | '-' :: '-' :: [] => if rest = [] then .ok (g, none) else .error .usage
    | '-' :: '-' :: cs =>
      let (name, attached) := splitValue cs
      match known.find? (·.long == String.ofList name) with
      | none => .error .usage
      | some o =>
        match o.meaning, attached, rest with
        | .value fits, some v, rest => do
          readOptions known (← g.addFitting o.long fits (String.ofList v)) rest
        | .value fits, none, v :: rest => do
          if isOption v then .error .usage
          else readOptions known (← g.addFitting o.long fits v) rest
        | .value _, none, [] => .error .usage
        | _, some _, _ => .error .usage
        | _, none, rest => do readOptions known (← g.addBare o) rest
    | '-' :: c :: cs => do readOptions known (← readLetters known g (c :: cs)) rest
    | _ => .ok (g, some (arg, rest))

end Barrage.Command
