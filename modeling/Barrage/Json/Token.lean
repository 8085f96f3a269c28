import Barrage.Json.Fault
import Barrage.Text.Ascii

/-! The smallest parts of a document: blanks, words, strings and numbers.
A reader takes what it reads from the front of the symbols and returns the rest. -/

namespace Barrage.Json

abbrev Reader (α : Type) := List Symbol → Except Fault (α × List Symbol)

def isBlank : Symbol → Bool
  | .char c => c = ' ' || c = '\t' || c = '\n' || c = '\r'
  | .stray _ => false

def skipBlanks (s : List Symbol) : List Symbol := s.dropWhile isBlank

def readWord : List Char → List Symbol → Except Fault (List Symbol)
  | [], s => .ok s
  | _ :: _, [] => .error (.here .endInValue [])
  | c :: word, a :: rest =>
    if a = .char c then readWord word rest else .error (.next .expectedWord (a :: rest))

def hexCode (s : List Symbol) : Except Fault Nat :=
  match s with
  | .char a :: .char b :: .char c :: .char d :: _ =>
    match Text.hexValue? a, Text.hexValue? b, Text.hexValue? c, Text.hexValue? d with
    | some a, some b, some c, some d => .ok (((a * 16 + b) * 16 + c) * 16 + d)
    | _, _, _, _ => .error ⟨.invalidEscape, s, 4, []⟩
  | _ =>
    if Symbol.bytes s < 4 then .error (.here .endInString [])
    else .error ⟨.invalidEscape, s, 4, []⟩

def isHighSurrogate (n : Nat) : Bool := 0xD800 ≤ n && n ≤ 0xDBFF

def isLowSurrogate (n : Nat) : Bool := 0xDC00 ≤ n && n ≤ 0xDFFF

def secondHalf (high : Nat) (s : List Symbol) : Except Fault Char :=
  match s with
  | [] => .error (.here .endInString [])
  | .char '\\' :: [] => .error (.here .endInString [])
  | .char '\\' :: .char 'u' :: rest => do
    let low ← hexCode rest
    if isLowSurrogate low then
      .ok (Char.ofNat ((high - 0xD800) * 1024 + (low - 0xDC00) + 0x10000))
    else .error (.here .loneSurrogate (rest.drop 4))
  | .char '\\' :: rest => .error (.next .missingSurrogate rest)
  | s => .error (.next .missingSurrogate s)

def unescape (s : List Symbol) : Except Fault (Char × Nat) :=
  match s with
  | [] => .error (.here .endInString [])
  | .char '"' :: _ => .ok ('"', 1)
  | .char '\\' :: _ => .ok ('\\', 1)
  | .char '/' :: _ => .ok ('/', 1)
  | .char 'b' :: _ => .ok ('\x08', 1)
  | .char 'f' :: _ => .ok ('\x0C', 1)
  | .char 'n' :: _ => .ok ('\n', 1)
  | .char 'r' :: _ => .ok ('\r', 1)
  | .char 't' :: _ => .ok ('\t', 1)
  | .char 'u' :: rest => do
    let n ← hexCode rest
    if isLowSurrogate n then .error (.here .loneSurrogate (rest.drop 4))
    else if isHighSurrogate n then
      let c ← secondHalf n (rest.drop 4)
      .ok (c, 11)
    else .ok (Char.ofNat n, 5)
  | s => .error (.next .invalidEscape s)

/-- The characters up to the closing quotation mark, after those of `acc`; `skip` symbols belong to
an escape that is already read. Whether all bytes made up characters is only asked at the end. -/
def readChars (sound : Bool) (acc : List Char) :
    Nat → List Symbol → Except Fault (String × List Symbol)
  | _, [] => .error (.here .endInString [])
  | skip + 1, _ :: rest => readChars sound acc skip rest
  | 0, .stray _ :: rest => readChars false acc 0 rest
  | 0, .char c :: rest =>
    if c = '"' then
      if sound then .ok (String.ofList acc.reverse, rest) else .error (.here .brokenCharacter rest)
    else if c = '\\' then
      match unescape rest with
      | .ok (d, skip) => readChars sound (d :: acc) skip rest
      | .error f => .error f
    else if c.toNat < 0x20 then .error (.here .controlCharacter rest)
    else readChars sound (c :: acc) 0 rest

def restOfString (s : List Symbol) : Except Fault (String × List Symbol) := readChars true [] 0 s

/-- A number as its writing gives it: a word, a negative number of 64 bits, or any other. -/
inductive Numeral where
  | natural (n : UInt64)
  | negative (magnitude : Nat)
  | real (x : Binary64)
  deriving DecidableEq, Repr

def Numeral.found : Numeral → Found
  | .natural n => .integer n.toNat
  | .negative m => .integer (-(m : Int))
  | .real x => .real x

def Numeral.toReal : Numeral → Binary64
  | .natural n => .ofNat n.toNat
  | .negative m => .ofFraction true m 1
  | .real x => x

def digit? : Symbol → Option Nat
  | .char c => if c.isDigit then some (c.toNat - 48) else none
  | .stray _ => none

def startsWithDigit : List Symbol → Bool
  | a :: _ => (digit? a).isSome
  | [] => false

def skipDigits (s : List Symbol) : List Symbol := s.dropWhile fun a => (digit? a).isSome

/-- Further digits of a number, as long as it stays a word: the number, how many digits were taken,
and the rest, which begins with a digit if the next one was too many. -/
def takeDigits (bound acc count : Nat) : List Symbol → Nat × Nat × List Symbol
  | [] => (acc, count, [])
  | a :: rest =>
    match digit? a with
    | some d =>
      if acc * 10 + d < bound then takeDigits bound (acc * 10 + d) (count + 1) rest
      else (acc, count, a :: rest)
    | none => (acc, count, a :: rest)

def tenTo (n : Nat) : Binary64 := .ofNat (Decimal.tenTo n)

/-- Multiply by a power of ten, by the greatest one that there is and over again if it must be;
none when the number grows beyond all bounds. -/
def scaled : Nat → Binary64 → Int → Option Binary64
  | 0, x, _ => some x
  | fuel + 1, x, e =>
    if e.natAbs ≤ 308 then
      if 0 ≤ e then
        match x * tenTo e.natAbs with
        | .infinite _ => none
        | y => some y
      else some (x / tenTo e.natAbs)
    else if x = .zero then some x
    else if 0 ≤ e then none
    else scaled fuel (x / tenTo 308) (e + 308)

def decimal (negative : Bool) (significand : Nat) (exponent : Int) (rest : List Symbol) :
    Except Fault (Numeral × List Symbol) :=
  match scaled 8 (.ofNat significand) exponent with
  | some x => .ok (.real (x.withSign negative), rest)
  | none => .error (.here .numberOutOfRange rest)

def exponentBound : Nat := 2147483648

def holdExponent (e : Int) : Int := max (-2147483648) (min 2147483647 e)

def exponentSign (s : List Symbol) : Bool × List Symbol :=
  match s with
  | .char '+' :: rest => (true, rest)
  | .char '-' :: rest => (false, rest)
  | s => (true, s)

def readPower (negative : Bool) (significand : Nat) (start : Int) (up : Bool) (s : List Symbol) :
    Except Fault (Numeral × List Symbol) :=
  match s with
  | [] => .error (.here .endInValue [])
  | a :: rest =>
    match digit? a with
    | none => .error (.next .invalidNumber (a :: rest))
    | some d =>
      let (e, _, rest) := takeDigits exponentBound d 1 rest
      if startsWithDigit rest then
        if significand ≠ 0 ∧ up then .error (.here .numberOutOfRange (rest.drop 1))
        else .ok (.real (Binary64.zero.withSign negative), skipDigits rest)
      else decimal negative significand (holdExponent (if up then start + e else start - e)) rest

def readExponent (negative : Bool) (significand : Nat) (start : Int) (s : List Symbol) :
    Except Fault (Numeral × List Symbol) :=
  let (up, s) := exponentSign s
  readPower negative significand start up s

def readScale (negative : Bool) (significand : Nat) (exponent : Int) (s : List Symbol) :
    Except Fault (Numeral × List Symbol) :=
  match s with
  | .char 'e' :: rest | .char 'E' :: rest => readExponent negative significand exponent rest
  | s => decimal negative significand exponent s

def readFraction (negative : Bool) (significand : Nat) (exponent : Int) (s : List Symbol) :
    Except Fault (Numeral × List Symbol) :=
  let (n, count, rest) := takeDigits UInt64.size significand 0 s
  if startsWithDigit rest then readScale negative n (exponent - count) (skipDigits rest)
  else if count = 0 then
    match rest with
    | [] => .error (.here .endInValue [])
    | _ => .error (.next .invalidNumber rest)
  else readScale negative n (exponent - count) rest

def readWhole (negative : Bool) (n : Nat) (s : List Symbol) : Except Fault (Numeral × List Symbol) :=
  match s with
  | .char '.' :: rest => readFraction negative n 0 rest
  | .char 'e' :: rest | .char 'E' :: rest => readExponent negative n 0 rest
  | s =>
    if negative then
      if n = 0 ∨ 9223372036854775808 < n then .ok (.real ((Binary64.ofNat n).withSign true), s)
      else .ok (.negative n, s)
    else .ok (.natural (UInt64.ofNat n), s)

def readLong (negative : Bool) (n : Nat) (s : List Symbol) : Except Fault (Numeral × List Symbol) :=
  let rest := skipDigits s
  let exponent : Int := (s.length - rest.length : Nat)
  match rest with
  | .char '.' :: rest => readFraction negative n exponent rest
  | rest => readScale negative n exponent rest

def readNumeral (negative : Bool) (s : List Symbol) : Except Fault (Numeral × List Symbol) :=
  match s with
  | [] => .error (.here .endInValue [])
  | a :: rest =>
    match digit? a with
    | none => .error (.next .invalidNumber (a :: rest))
    | some 0 =>
      if startsWithDigit rest then .error (.next .invalidNumber rest) else readWhole negative 0 rest
    | some d =>
      let (n, _, rest) := takeDigits UInt64.size d 1 rest
      if startsWithDigit rest then readLong negative n rest else readWhole negative n rest

end Barrage.Json
