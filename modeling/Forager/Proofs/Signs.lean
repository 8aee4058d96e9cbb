import Mathlib
import Forager.Proofs.NumberLine

/-!
# Numbers without a minus sign

The number line has two zeros, so two numbers that are at most each other need not be the same. They
are if neither has a minus sign, and a sum or a product of such numbers has none. So a quantity
computed from amounts is fixed by its place on the line.

* `Unsigned`: not minus zero and not below it; NaN has no sign.
* `unsigned_of_not_le`, `Unsigned.add`, `Unsigned.mul`, `unsigned_toFloat32`: what is unsigned.
* `Unsigned.eq_of_le_of_le`: the order of unsigned numbers is antisymmetric.
-/
namespace Forager.Single

open Float.Model (UnpackedFloat Format)
open Float.Model.UnpackedFloat (Sign Accuracy)

/-! ## Opened numbers -/

/-- Whether an opened number has no minus sign. -/
def PlusSigned : UnpackedFloat → Prop
  | .notANumber => True
  | .infinity s | .zero s | .finite s _ _ _ => s = .positive

variable {x y : UnpackedFloat}

theorem plusSigned_roundWithAccuracy (spec : Format) (m : Nat) (e : Int) (a : Accuracy) :
    PlusSigned (.roundWithAccuracy spec .positive m e a) := by
  rw [UnpackedFloat.roundWithAccuracy]
  dsimp only
  split <;> rfl

theorem plusSigned_normalize (spec : Format) {m : Int} (h : 0 ≤ m) (e : Int) :
    PlusSigned (.normalize spec m e .positive) := by
  rw [UnpackedFloat.normalize]
  split
  · rename_i below
    exact absurd (Int.compare_eq_lt.1 below) (not_lt.2 h)
  · rfl
  · exact plusSigned_roundWithAccuracy _ _ _ _

/-- Adding what has no minus sign never takes anything away. -/
theorem PlusSigned.add (hx : PlusSigned x) (hy : PlusSigned y) (spec : Format) :
    PlusSigned (.add spec x y) := by
  cases x with
  | notANumber => cases y <;> trivial
  | infinity s =>
    cases hx
    cases y with
    | notANumber => trivial
    | infinity t => cases hy; rfl
    | zero t => rfl
    | finite t m e pos => rfl
  | zero s =>
    cases hx
    cases y with
    | notANumber => trivial
    | infinity t => exact hy
    | zero t => cases hy; rfl
    | finite t m e pos => exact hy
  | finite s m e pos =>
    cases hx
    cases y with
    | notANumber => trivial
    | infinity t => exact hy
    | zero t => rfl
    | finite t m' e' pos' =>
      cases hy
      exact plusSigned_normalize spec (Int.add_nonneg (Int.natCast_nonneg _) (Int.natCast_nonneg _))
        _

theorem PlusSigned.mul (hx : PlusSigned x) (hy : PlusSigned y) (spec : Format) :
    PlusSigned (.mul spec x y) := by
  cases x with
  | notANumber => cases y <;> trivial
  | infinity s =>
    cases hx
    cases y with
    | notANumber => trivial
    | infinity t => cases hy; rfl
    | zero t => trivial
    | finite t m e pos => cases hy; rfl
  | zero s =>
    cases hx
    cases y with
    | notANumber => trivial
    | infinity t => trivial
    | zero t => cases hy; rfl
    | finite t m e pos => cases hy; rfl
  | finite s m e pos =>
    cases hx
    cases y with
    | notANumber => trivial
    | infinity t => cases hy; rfl
    | zero t => cases hy; rfl
    | finite t m' e' pos' =>
      cases hy
      exact plusSigned_roundWithAccuracy spec _ _ _

theorem plusSigned_unpack_components (e : BitVec Format.binary32.exponentBits)
    (m : BitVec Format.binary32.mantissaBitsWithoutImplicit) :
    PlusSigned (.unpack .binary32 (UnpackedFloat.packComponents .binary32 .positive e m)) := by
  have sign : Sign.ofBitVec (UnpackedFloat.unpackSign
      (UnpackedFloat.packComponents .binary32 .positive e m)) = .positive := by
    rw [UnpackedFloat.unpackSign_packComponents]
    rfl
  rw [UnpackedFloat.unpack]
  dsimp only
  split
  · split
    · exact sign
    · trivial
  · split
    · split
      · exact sign
      · exact sign
    · exact sign

/-- Closing a number and opening it again leaves its sign. -/
theorem PlusSigned.unpack_pack (h : PlusSigned x) :
    PlusSigned (Float32.Model.pack x).unpack := by
  show PlusSigned (.unpack .binary32 (UnpackedFloat.pack .binary32 x))
  cases x with
  | notANumber => exact plusSigned_unpack_components _ _
  | infinity s => cases h; exact plusSigned_unpack_components _ _
  | zero s => cases h; exact plusSigned_unpack_components _ _
  | finite s m e pos =>
    cases h
    rw [UnpackedFloat.pack]
    dsimp only
    split
    · exact plusSigned_unpack_components _ _
    · split <;> exact plusSigned_unpack_components _ _

/-! ## Numbers -/

/-- Whether a number has no minus sign: it is neither minus zero nor below it. -/
def Unsigned (a : Float32) : Prop := PlusSigned a.toModel.unpack

section Unsigned

variable {a b : Float32}

theorem Unsigned.add (ha : Unsigned a) (hb : Unsigned b) : Unsigned (a + b) :=
  (PlusSigned.add ha hb .binary32).unpack_pack

theorem Unsigned.mul (ha : Unsigned a) (hb : Unsigned b) : Unsigned (a * b) :=
  (PlusSigned.mul ha hb .binary32).unpack_pack

theorem unsigned_toFloat32 (n : UInt32) : Unsigned n.toFloat32 :=
  (plusSigned_normalize .binary32 (Int.natCast_nonneg _) 0).unpack_pack

theorem unsigned_of_not_le (h : ¬a ≤ 0) : Unsigned a := by
  rw [le_iff_compare, unpack_zero] at h
  rw [Unsigned]
  cases ha : a.toModel.unpack with
  | notANumber => trivial
  | zero s =>
    rw [ha] at h
    exact absurd rfl h
  | infinity s =>
    cases s with
    | positive => rfl
    | negative =>
      rw [ha] at h
      exact absurd rfl h
  | finite s m e pos =>
    cases s with
    | positive => rfl
    | negative =>
      rw [ha] at h
      exact absurd rfl h

theorem not_unsigned_neg_zero : ¬Unsigned (-0) := by
  intro h
  have minus : (-0 : Float32).toModel.unpack = .zero .negative := rfl
  rw [Unsigned, minus] at h
  cases h

/-- Numbers that are at most each other are the same number, if they are unsigned. -/
theorem Unsigned.eq_of_le_of_le (ha : Unsigned a) (hb : Unsigned b) (hab : a ≤ b) (hba : b ≤ a) :
    a = b := by
  have same : (a == b) = true := by
    obtain ⟨na, nb⟩ := isNaN_of_le hab
    rw [le_iff_rank na nb] at hab
    rw [le_iff_rank nb na] at hba
    show (a.toModel.unpack.compare b.toModel.unpack == some .eq) = true
    rw [compare_eq_rank (unpack_ne_notANumber na) (unpack_ne_notANumber nb), le_antisymm hab hba,
      compare_eq_iff_eq.2 rfl]
    rfl
  obtain ⟨-, -, equal | ⟨-, minus⟩ | ⟨minus, -⟩⟩ := Float32.beq_iff_ne_nan_and_eq.1 same
  · exact equal
  · exact absurd (minus ▸ hb) not_unsigned_neg_zero
  · exact absurd (minus ▸ ha) not_unsigned_neg_zero

end Unsigned

end Forager.Single
