import Forager.Document.Json

/-!
# Plain scalars

What a scalar stands for that is written without quotes. Often the reader knows what it wants and
asks for just that: a natural number, a decimal, a truth value. Otherwise the scalar has a meaning
of its own, `meaning?`: the first of null, truth value, integer, decimal and text that fits.

An integer is decimal, or has a base in front: `0x`, `0o` or `0b`. In decimal it has no superfluous
leading zero; digits with one are still read as a decimal by those who want a decimal, but mean a
text. A number that is too large for double precision is no decimal.
-/
namespace Forager.Plain

/-! ## Integers -/

/-- The value of a digit in the given base. -/
def digit? (base : Nat) (c : Char) : Option Nat :=
  match Json.hexDigit? c with
  | some d => if d < base then some d else none
  | none => none

/-- The number of one digit or more. -/
def digits? (base : Nat) (s : List Char) : Option Nat :=
  if s.isEmpty then none
  else (s.mapM (digit? base)).map fun ds => ds.foldl (fun n d => base * n + d) 0

/-- Whether these are digits of which the first is a zero that does not count. -/
def hasExtraZero : List Char → Bool
  | '0' :: d :: r => (d :: r).all Char.isDigit
  | _ => false

/-- The number of digits without a sign. -/
def magnitude? : List Char → Option Nat
  | '0' :: 'x' :: r => digits? 16 r
  | '0' :: 'o' :: r => digits? 8 r
  | '0' :: 'b' :: r => digits? 2 r
  | s => if hasExtraZero s then none else digits? 10 s

/-- The natural number of a scalar. -/
def natural? (s : String) : Option Nat :=
  match s.toList with
  | '+' :: r => magnitude? r
  | r => magnitude? r

/-- The magnitude of a number with a minus sign. -/
def negative? (s : String) : Option Nat :=
  match s.toList with
  | '-' :: r => magnitude? r
  | _ => none

def integer? (s : String) : Option Int :=
  match natural? s with
  | some n => some n
  | none => (negative? s).map fun n => -(n : Int)

/-! ## Decimals -/

/-- The sign at the front: whether it is a minus, and what follows. -/
def takeSign : List Char → Bool × List Char
  | '-' :: r => (true, r)
  | '+' :: r => (false, r)
  | r => (false, r)

/-- Digits after a decimal point, if there is one. There may be none. -/
def takeFraction : List Char → List Char × List Char
  | '.' :: r => Json.takeDigits r
  | r => ([], r)

/-- The number of digits with a fraction and an exponent, each of which may be missing. -/
def finite? (s : List Char) : Option Numeral :=
  let (negative, s) := takeSign s
  let (whole, s) := Json.takeDigits s
  let (fraction, s) := takeFraction s
  match Json.exponentPart s with
  | some (exponent, []) =>
    let d : Decimal := ⟨Json.digitsValue (whole ++ fraction), exponent.getD 0 - fraction.length⟩
    if (whole ++ fraction).isEmpty || !(Numeral.double negative d).isFinite then none
    else some (.decimal negative d)
  | _ => none

/-- The decimal of a scalar. An integer will do. -/
def decimal? (s : String) : Option Numeral :=
  match s with
  | ".inf" | ".Inf" | ".INF" | "+.inf" | "+.Inf" | "+.INF" => some (.infinite false)
  | "-.inf" | "-.Inf" | "-.INF" => some (.infinite true)
  | ".nan" | ".NaN" | ".NAN" => some .nan
  | s => finite? s.toList

/-! ## Meanings -/

def isNull (s : String) : Bool := s == "null" || s == "Null" || s == "NULL" || s == "~"

def bool? (s : String) : Option Bool :=
  match s with
  | "true" | "True" | "TRUE" => some true
  | "false" | "False" | "FALSE" => some false
  | _ => none

/-- What a scalar means that is no integer. -/
def decimalOrText (s : String) : Document :=
  if hasExtraZero (takeSign s.toList).2 then .text s
  else
    match decimal? s with
    | some n => .number n
    | none => .text s

/-- The document of an integer, if it is in the range of 64-bit words. An integer beyond that is
refused if it would fit 128 bits, and is a decimal otherwise. -/
def integerMeaning? (s : String) (n : Int) : Option Document :=
  if Json.fitsWord n then some (.number (.integer n))
  else if -0x80000000000000000000000000000000 ≤ n ∧ n < 0x100000000000000000000000000000000 then none
  else some (decimalOrText s)

/-- What a scalar means, `none` for integers that are refused. -/
def meaning? (s : String) : Option Document :=
  if isNull s then some .null
  else
    match bool? s, integer? s with
    | some b, _ => some (.bool b)
    | none, some n => integerMeaning? s n
    | none, none => some (decimalOrText s)

end Forager.Plain
