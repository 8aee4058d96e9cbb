import Forager.Single

/-!
# Shortest decimals

The decimal text of a number has the fewest digits that read back as that number, and of those
the decimal nearest to it. The reals that read back as `m * 2 ^ q` form an interval around it,
ends included when `m` is even; the coarsest power-of-ten grid with a point in that interval has
the fewest digits, and one of the two grid points next to the number is in it.

* `shortest?` gives the digits and their exponent.
* `Tie` says which neighbour is taken when both are equally near.
-/
namespace Forager

/-- `digits * 10 ^ exponent`. -/
structure Decimal where
  digits : Nat
  exponent : Int
  deriving DecidableEq, Repr

namespace Decimal

/-- Which of two equally near neighbours is taken. -/
inductive Tie where
  | up | even
  deriving DecidableEq, Repr

/-- The reals that read back as a number, in units of `2 ^ (q - 2)`. -/
structure Interval where
  low : Nat
  centre : Nat
  high : Nat
  closed : Bool
  deriving DecidableEq, Repr

/-- The interval of `m * 2 ^ q`. Below a power of two the next number is half as far. -/
def interval (m : Nat) (q : Int) : Interval :=
  { low := if m = 0x800000 ∧ q ≠ -149 then 4 * m - 1 else 4 * m - 2
    centre := 4 * m
    high := 4 * m + 2
    closed := m % 2 = 0 }

/-- Whether the real `n / d` is inside, the interval's own numbers being multiplied by `u`. -/
def Interval.holds (i : Interval) (u n : Nat) : Bool :=
  if i.closed then i.low * u ≤ n && n ≤ i.high * u else i.low * u < n && n < i.high * u

/-- The point of the grid `10 ^ e` that stands for the interval, if one does. -/
def gridPoint? (tie : Tie) (i : Interval) (q e : Int) : Option Nat :=
  let u := Nat.pow 2 (q - 2).toNat * Nat.pow 10 (-e).toNat
  let d := Nat.pow 2 (2 - q).toNat * Nat.pow 10 e.toNat
  let below := i.centre * u / d
  let above := below + 1
  match i.holds u (below * d), i.holds u (above * d) with
  | false, false => none
  | true, false => some below
  | false, true => some above
  | true, true =>
    match compare (2 * i.centre * u) ((below + above) * d) with
    | .lt => some below
    | .gt => some above
    | .eq => some (if tie = .even ∧ below % 2 = 0 then below else above)

/-- The coarsest grid with a point for the interval, from `10 ^ 39` down. -/
def shortest? (tie : Tie) (m : Nat) (q : Int) : Option Decimal :=
  (List.range 190).findSome? fun i : Nat =>
    let e : Int := 39 - (i : Int)
    (gridPoint? tie (interval m q) q e).map (⟨·, e⟩)

/-- The decimal of `m * 2 ^ q`; zero has one digit. -/
def shortest (tie : Tie) (m : Nat) (q : Int) : Decimal :=
  if m = 0 then ⟨0, 0⟩ else (shortest? tie m q).getD ⟨0, 0⟩

end Decimal
end Forager
