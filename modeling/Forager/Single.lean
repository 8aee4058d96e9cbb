/-!
# Single-precision numbers

All quantities of the simulation are IEEE binary32 numbers with one NaN (`Float32`). Comparison
is the number line's (`-0` equals `0`, NaN is incomparable); every operation rounds to nearest,
ties to even.

`decode` opens a number into sign, significand and exponent.

* `larger_of_not_le`: the running maximum stays against a lesser number and against NaN.
-/
namespace Forager.Single

/-- The greatest finite number. -/
def greatest : Float32 := .ofBits 0x7f7fffff

/-- The running maximum: `b` replaces `a` if it is not less. Of two zeros the later one stays. -/
def larger (a b : Float32) : Float32 := if a ≤ b then b else a

theorem larger_of_not_le {a b : Float32} (h : ¬a ≤ b) : larger a b = a := by simp [larger, h]

/-- The whole part of a number that is not negative; zero for NaN, the greatest word at most. -/
def whole (x : Float32) : UInt32 := x.toUInt32

/-- What a number is: a signed infinity, NaN, or `± significand * 2 ^ exponent`. -/
inductive Parts where
  | nan
  | infinite (negative : Bool)
  | finite (negative : Bool) (significand : Nat) (exponent : Int)
  deriving DecidableEq, Repr

/-- Opens a number. Subnormal numbers have the least exponent, `-149`. -/
def decode (x : Float32) : Parts :=
  let bits := x.toBits.toNat
  let negative := bits / 0x80000000 == 1
  let field : Nat := bits / 0x800000 % 0x100
  let fraction : Nat := bits % 0x800000
  if field = 255 then if fraction = 0 then .infinite negative else .nan
  else if field = 0 then .finite negative fraction (-149)
  else .finite negative (0x800000 + fraction) ((field : Int) - 150)

/-- The single-precision number nearest to a double-precision one, ties to even. -/
def ofDouble (x : Float) : Float32 :=
  .ofModel (.pack (
    match x.toModel.unpack with
    | .finite sign m e _ => Float.Model.UnpackedFloat.round .binary32 sign m e
    | y => y))

/-- The single-precision number nearest to an integer, ties to even. -/
def ofInt (n : Int) : Float32 := .ofModel (.ofInt n)

end Forager.Single
