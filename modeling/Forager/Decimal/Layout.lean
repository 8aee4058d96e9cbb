import Forager.Decimal.Shortest

/-!
# Layouts of decimal text

A `Layout` says how the shortest decimal of a number is written: for which magnitudes
positionally, what marks a whole number, how an exponent is signed. Three layouts are in use:
`structural` text, `running` text and stored `data`. `fixed` writes a number with one decimal
place instead, rounded from its exact value, a half to the even neighbour.
-/
namespace Forager.Decimal

structure Layout where
  /-- Whether a number whose leading digit stands for `10 ^ n` is written positionally. -/
  positional : Int → Bool
  wholeMark : String
  plus : String
  tie : Tie

/-- Positional from `0.0001` up to ten quadrillions, with a decimal point in any case. -/
def structural : Layout :=
  { positional := fun n => -4 ≤ n && n < 16, wholeMark := ".0", plus := "", tie := .up }

/-- Always positional, whole numbers without a point. -/
def running : Layout := { positional := fun _ => true, wholeMark := "", plus := "", tie := .up }

/-- Positional from a millionth up to ten trillions; exponents are signed. -/
def data : Layout :=
  { positional := fun n => -6 ≤ n && n < 13, wholeMark := ".0", plus := "+", tie := .even }

def digitText (n : Nat) : List Char := Nat.toDigits 10 n

def zeros (n : Nat) : List Char := List.replicate n '0'

/-- Positional text of `digits * 10 ^ exponent`. -/
def positionalText (wholeMark : String) (d : Decimal) : String :=
  let ds := digitText d.digits
  if 0 ≤ d.exponent then String.ofList (ds ++ zeros d.exponent.toNat) ++ wholeMark
  else
    let places := (-d.exponent).toNat
    let padded := zeros (places + 1 - ds.length) ++ ds
    String.ofList (padded.take (padded.length - places)) ++ "." ++
      String.ofList (padded.drop (padded.length - places))

/-- The exponent of the leading digit. -/
def leading (d : Decimal) : Int := d.exponent + ((digitText d.digits).length - 1 : Nat)

/-- Text with one digit before the point and an exponent. -/
def exponentText (plus : String) (d : Decimal) : String :=
  let ds := digitText d.digits
  let point := if ds.length ≤ 1 then "" else "."
  let e := d.leading
  String.ofList (ds.take 1) ++ point ++ String.ofList (ds.drop 1) ++ "e" ++
    (if 0 ≤ e then plus else "-") ++ toString e.natAbs

/-- The text of a decimal that is not negative. -/
def Layout.decimal (l : Layout) (d : Decimal) : String :=
  if d.digits = 0 || l.positional d.leading then positionalText l.wholeMark d
  else exponentText l.plus d

def signText (negative : Bool) : String := if negative then "-" else ""

/-- The text of a number. -/
def Layout.text (l : Layout) (x : Float32) : String :=
  match Single.decode x with
  | .nan => "NaN"
  | .infinite negative => signText negative ++ "inf"
  | .finite negative m q => signText negative ++ l.decimal (shortest l.tie m q)

/-! ## Fixed places -/

/-- `n / d` rounded to a whole number, a half to the even neighbour. -/
def roundHalfEven (n d : Nat) : Nat :=
  let k := n / d
  match compare (2 * (n % d)) d with
  | .lt => k
  | .gt => k + 1
  | .eq => k + k % 2

/-- The text of a number with one decimal place. -/
def fixed (x : Float32) : String :=
  match Single.decode x with
  | .nan => "NaN"
  | .infinite negative => signText negative ++ "inf"
  | .finite negative m q =>
    let tenths := roundHalfEven (10 * m * Nat.pow 2 q.toNat) (Nat.pow 2 (-q).toNat)
    signText negative ++ toString (tenths / 10) ++ "." ++ toString (tenths % 10)

end Forager.Decimal
