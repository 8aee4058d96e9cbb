import Forager.Decimal.Layout

/-!
# Documents

A document is data as a file holds it: records, lists, texts, numbers, truth values and `null`.
Numbers keep the form they were written in, because an integer and a decimal are different
things to a reader. A format that does not tell texts from numbers leaves it to the reader what a
`plain` scalar stands for. `blank` stands where a value could be and nothing was written.

A record may repeat a field; readers decide whether that matters.
-/
namespace Forager

/-- A written number. -/
inductive Numeral where
  | integer (n : Int)
  | decimal (negative : Bool) (d : Decimal)
  | infinite (negative : Bool)
  | nan
  deriving DecidableEq, Repr

namespace Numeral

/-- The double-precision number nearest to `± digits * 10 ^ exponent`. Its range ends far inside
`10 ^ ±400`. -/
def double (negative : Bool) (d : Decimal) : Float :=
  let magnitude := d.leading
  let x :=
    if d.digits = 0 ∨ magnitude < -400 then 0
    else if 400 < magnitude then Float.ofBits 0x7ff0000000000000
    else Float.ofScientific d.digits (d.exponent < 0) d.exponent.natAbs
  if negative then -x else x

/-- The single-precision number a numeral stands for. Integers are rounded once; decimals are
read in double precision first. -/
def toSingle : Numeral → Float32
  | .integer n => Single.ofInt n
  | .decimal negative d => Single.ofDouble (double negative d)
  | .infinite negative => .ofBits (if negative then 0xff800000 else 0x7f800000)
  | .nan => .ofBits 0x7fc00000

/-- The shortest numeral of a single-precision number. -/
def ofSingle (x : Float32) : Numeral :=
  match Single.decode x with
  | .nan => .nan
  | .infinite negative => .infinite negative
  | .finite negative m q => .decimal negative (Decimal.shortest Decimal.data.tie m q)

end Numeral

inductive Document where
  | blank
  | null
  | bool (b : Bool)
  | number (n : Numeral)
  | text (s : String)
  /-- A scalar that may be a text, a number or anything else, whichever is wanted. -/
  | plain (s : String)
  | list (items : List Document)
  | record (fields : List (String × Document))
  /-- A record whose field names are documents too. -/
  | mapping (entries : List (Document × Document))
  /-- Something is written here that is well formed and yet stands for nothing. -/
  | illegible
  deriving Inhabited

namespace Document

def nat (n : Nat) : Document := .number (.integer n)

def option : Option Document → Document
  | none => .null
  | some d => d

/-- The values of the fields of a given name. -/
def fieldValues (name : String) (fields : List (String × Document)) : List Document :=
  (fields.filter (·.1 == name)).map (·.2)

end Document
end Forager
