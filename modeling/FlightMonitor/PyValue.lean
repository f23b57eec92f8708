import Mathlib.Data.Rat.Defs
import Mathlib.Algebra.Order.Ring.Unbundled.Rat
import FlightMonitor.Dict

/-! JSON values as `json.loads` returns them, and the conversions to float. A finite
float stands for its exact value: rounding to 53 bits is left out, the range is not. -/
namespace PyValue

inductive PyFloat where
  | finite (value : Rat)
  | posInf
  | negInf
  | nan
  deriving DecidableEq, Repr

namespace PyFloat
def zero : PyFloat := .finite 0

def lt : PyFloat → PyFloat → Bool
  | .finite a,.finite b => decide (a < b)
  | .negInf,.finite _ | .negInf,.posInf | .finite _,.posInf => true
  | _,_ => false

-- `max(a, b)` and `min(a, b)` keep the first argument unless the second is beyond it.
def max (a b : PyFloat) : PyFloat := if lt a b then b else a
def min (a b : PyFloat) : PyFloat := if lt b a then b else a

def add : PyFloat → PyFloat → PyFloat
  | .nan,_ | _,.nan => .nan
  | .posInf,.negInf | .negInf,.posInf => .nan
  | .posInf,_ | _,.posInf => .posInf
  | .negInf,_ | _,.negInf => .negInf
  | .finite a,.finite b => .finite (a + b)

-- From here on an integer rounds past the largest finite float.
def limit : Int := 2^1024 - 2^970
end PyFloat

def Numeric (x : PyFloat) : Prop := ∃ q, x = .finite q

inductive Json where
  | null
  | bool (value : Bool)
  | int (value : Int)
  | float (value : PyFloat)
  | str (text : String)
  | arr (items : List Json)
  | obj (members : List (String × Json))

namespace Json
def member (members : List (String × Json)) (key : String) (default : Json) : Json :=
  (Dict.lookup key members).getD default

def truthy : Json → Bool
  | .null => false
  | .bool b => b
  | .int n => n != 0
  | .float x => x != .finite 0
  | .str s => s != ""
  | .arr xs => !xs.isEmpty
  | .obj ms => !ms.isEmpty

def dictOrEmpty : Json → List (String × Json)
  | .obj members => members
  | _ => []

def isNull : Json → Bool
  | .null => true
  | _ => false
end Json

inductive PyError where
  | valueError (text : String)
  | typeError
  | attributeError
  | overflowError
  | runtimeError (text : String)
  deriving DecidableEq, Repr

theorem bindOk {ε α β : Type} {x : Except ε α} {f : α → Except ε β} {b : β}
    (done : (x >>= f) = .ok b) : ∃ a, x = .ok a ∧ f a = .ok b := by
  cases x with
  | error e => cases done
  | ok a => exact ⟨a,rfl,done⟩

/-! `float(text)`: the decimal digits and the white space of Unicode count as those of ASCII; then
surrounding white space, single underscores between digits, a sign, and a decimal number, `inf`,
`infinity` or `nan` in any case. -/

def isSpace (c : Char) : Bool :=
  let n := c.toNat
  (9 ≤ n && n ≤ 13) || (28 ≤ n && n ≤ 32) || n == 0x85 || n == 0xa0 || n == 0x1680 ||
    (0x2000 ≤ n && n ≤ 0x200a) || n == 0x2028 || n == 0x2029 || n == 0x202f || n == 0x205f ||
    n == 0x3000

def stripBy (blank : Char → Bool) (text : List Char) : List Char :=
  ((text.dropWhile blank).reverse.dropWhile blank).reverse

def strip (text : List Char) : List Char := stripBy isSpace text

-- The zero of each run of decimal digits in Unicode 15.0, the version of Python 3.12.
def zeroDigits : List Nat :=
  [0x30,0x660,0x6f0,0x7c0,0x966,0x9e6,0xa66,0xae6,0xb66,0xbe6,0xc66,0xce6,0xd66,0xde6,0xe50,0xed0,
    0xf20,0x1040,0x1090,0x17e0,0x1810,0x1946,0x19d0,0x1a80,0x1a90,0x1b50,0x1bb0,0x1c40,0x1c50,
    0xa620,0xa8d0,0xa900,0xa9d0,0xa9f0,0xaa50,0xabf0,0xff10,0x104a0,0x10d30,0x11066,0x110f0,
    0x11136,0x111d0,0x112f0,0x11450,0x114d0,0x11650,0x116c0,0x11730,0x118e0,0x11950,0x11c50,
    0x11d50,0x11da0,0x11f50,0x16a60,0x16ac0,0x16b50,0x1d7ce,0x1d7d8,0x1d7e2,0x1d7ec,0x1d7f6,
    0x1e140,0x1e2f0,0x1e4f0,0x1e950,0x1fbf0]

def decimalDigit (c : Char) : Option Nat :=
  (zeroDigits.find? (fun first => first ≤ c.toNat && c.toNat < first + 10)).map (c.toNat - ·)

def toAscii (c : Char) : Char :=
  if c.toNat < 127 then c
  else if isSpace c then ' '
  else
    match decimalDigit c with
    | some d => Char.ofNat (48 + d)
    | none => '?'

-- `float` skips less than `str.strip` does: the separators U+001C to U+001F stay.
def asciiSpace (c : Char) : Bool := c == ' ' || (9 ≤ c.toNat && c.toNat ≤ 13)

def dropUnderscores : Bool → List Char → Option (List Char)
  | _,[] => some []
  | afterDigit,'_' :: rest =>
    if afterDigit ∧ (rest.head?.map Char.isDigit).getD false then dropUnderscores false rest else none
  | _,c :: rest => (dropUnderscores c.isDigit rest).map (c :: ·)

def digitsValue (text : List Char) : Nat := text.foldl (fun n c => n * 10 + (c.toNat - 48)) 0

def signed : List Char → Bool × List Char
  | '-' :: rest => (true,rest)
  | '+' :: rest => (false,rest)
  | text => (false,text)

def exponentValue : List Char → Option Int
  | [] => some 0
  | c :: rest =>
    let (negative,digits) := signed rest
    if c.toLower = 'e' ∧ digits ≠ [] ∧ digits.all Char.isDigit then
      some (if negative then -(digitsValue digits : Int) else digitsValue digits)
    else none

def scaled (mantissa : Nat) (exponent : Int) : Rat :=
  if 0 ≤ exponent then (mantissa : Rat) * 10^exponent.toNat else mantissa / 10^(-exponent).toNat

def decimalValue (text : List Char) : Option Rat := do
  let whole := text.takeWhile Char.isDigit
  let rest := text.dropWhile Char.isDigit
  let (fraction,rest) := match rest with
    | '.' :: rest => (rest.takeWhile Char.isDigit,rest.dropWhile Char.isDigit)
    | rest => ([],rest)
  let exponent ← exponentValue rest
  if whole = [] ∧ fraction = [] then none
  else some (scaled (digitsValue (whole ++ fraction)) (exponent - fraction.length))

def floatOfText (text : String) : Option PyFloat := do
  let plain ← dropUnderscores false (stripBy asciiSpace (text.toList.map toAscii))
  let (negative,body) := signed plain
  let word := body.map Char.toLower
  if word = "inf".toList ∨ word = "infinity".toList then some (if negative then .negInf else .posInf)
  else if word = "nan".toList then some .nan
  else do
    let value ← decimalValue body
    if (PyFloat.limit : Rat) ≤ value then some (if negative then .negInf else .posInf)
    else some (.finite (if negative then -value else value))

def toFloat : Json → Except PyError PyFloat
  | .bool b => .ok (.finite (if b then 1 else 0))
  | .int n => if n.natAbs < PyFloat.limit then .ok (.finite n) else .error .overflowError
  | .float x => .ok x
  | .str text => match floatOfText text with
    | some x => .ok x
    | none => .error (.valueError "could not convert string to float")
  | .null | .arr _ | .obj _ => .error .typeError

end PyValue
