import Forager.Proofs.Slots
import Mathlib.Algebra.BigOperators.Group.List.Basic
import Mathlib.Algebra.GroupWithZero.Nat

/-!
# What an inventory holds in total

Items are weighed, and the weights of all items held are added up: with weight one the sum counts
items, with the rounds of a pistol it counts rounds. Filling, emptying and refilling a slot change
the total by the weights of the two items involved, whatever the weight is.

* `total_put`, `total_clear`, `total_refill`: what the changes of one slot do to a total.
* `countP_items_eq_total`, `count_eq_total`, `length_items_eq_total`: counting items is weighing
  them.
* `length_items_le`, `hasSpace_iff`: an inventory holds no more items than it has slots, and less
  where one is free.
-/
namespace Forager

theorem sum_map_set {α : Type} {l : List α} {i : Nat} {a : α} (h : l[i]? = some a) (f : α → Nat)
    (b : α) : ((l.set i b).map f).sum + f a = (l.map f).sum + f b := by
  induction l generalizing i with
  | nil => simp at h
  | cons c l ih =>
    cases i with
    | zero =>
      rw [List.getElem?_cons_zero, Option.some.injEq] at h
      simp only [List.set_cons_zero, List.map_cons, List.sum_cons, h]
      omega
    | succ i =>
      rw [List.getElem?_cons_succ] at h
      have := ih h
      simp only [List.set_cons_succ, List.map_cons, List.sum_cons]
      omega

namespace Inventory

variable {inv : Inventory} {slot : Nat} {item : Item} (weight : Item → Nat)

/-- The weight of all items held. -/
def total (inv : Inventory) : Nat := (inv.items.map fun s => weight s.2).sum

/-- The weight of a slot, nothing for an empty one. -/
def slotWeight : Option Item → Nat
  | none => 0
  | some item => weight item

theorem total_eq_sum_slots (inv : Inventory) :
    inv.total weight = (inv.slots.map (slotWeight weight)).sum := by
  have indexed (slots : List (Option Item)) (k : Nat) :
      (((slots.zipIdx k).filterMap fun s => s.1.map (s.2, ·)).map fun s => weight s.2).sum =
        (slots.map (slotWeight weight)).sum := by
    induction slots generalizing k with
    | nil => rfl
    | cons held slots ih => cases held <;> simp [slotWeight, ih]
  exact indexed inv.slots 0

/-! ## One slot changes -/

theorem total_put (h : inv.slots[slot]? = some none) (item : Item) :
    (inv.put slot item).total weight = inv.total weight + weight item := by
  have := sum_map_set h (slotWeight weight) (some item)
  simp only [total_eq_sum_slots, put]
  exact this

theorem total_clear (h : inv.slots[slot]? = some (some item)) :
    (inv.clear slot).total weight + weight item = inv.total weight := by
  have := sum_map_set h (slotWeight weight) none
  simp only [total_eq_sum_slots, clear]
  exact this

theorem total_refill (h : inv.slots[slot]? = some (some item)) (item' : Item) :
    (inv.put slot item').total weight + weight item = inv.total weight + weight item' := by
  have := sum_map_set h (slotWeight weight) (some item')
  simp only [total_eq_sum_slots, put]
  exact this

/-! ## Counting -/

theorem countP_items_eq_total (inv : Inventory) (p : Item → Bool) :
    inv.items.countP (p ·.2) = inv.total fun item => if p item then 1 else 0 := by
  rw [total]
  induction inv.items with
  | nil => rfl
  | cons s l ih =>
    simp only [List.countP_cons, List.map_cons, List.sum_cons, ih]
    omega

theorem count_eq_total (inv : Inventory) (kind : ItemKind) :
    inv.count kind = inv.total fun item => if item.kind = kind then 1 else 0 := by
  rw [count, inv.countP_items_eq_total (·.kind == kind)]
  simp only [beq_iff_eq]

theorem length_items_eq_total (inv : Inventory) : inv.items.length = inv.total fun _ => 1 := by
  simp [total]

theorem length_items_le (inv : Inventory) : inv.items.length ≤ inv.capacity :=
  (List.length_filterMap_le _ _).trans_eq List.length_zipIdx

theorem count_le_length_items (inv : Inventory) (kind : ItemKind) :
    inv.count kind ≤ inv.items.length := List.countP_le_length

/-- A slot is free exactly if there are fewer items than slots. -/
theorem hasSpace_iff : inv.hasSpace = true ↔ inv.items.length < inv.capacity := by
  rw [hasSpace_eq_isSome_firstEmpty?]
  constructor
  · intro free
    obtain ⟨slot, empty⟩ := Option.isSome_iff_exists.1 free
    -- One more item still fits.
    have filled := (inv.put slot (.garbage 0)).length_items_le
    rw [length_items_eq_total, total_put _ (firstEmpty?_spec empty), capacity_put,
      ← length_items_eq_total] at filled
    exact filled
  · intro less
    by_contra full
    have none : inv.firstEmpty? = none := Option.not_isSome_iff_eq_none.1 full
    have taken : ∀ held ∈ inv.slots, slotWeight (fun _ => 1) held = 1 := by
      intro held hm
      have there := List.findIdx?_eq_none_iff.1 none held hm
      cases held with
      | none => cases there
      | some item => rfl
    rw [length_items_eq_total, total_eq_sum_slots, List.map_congr_left taken, List.map_const',
      List.sum_replicate_nat, mul_one] at less
    exact Nat.lt_irrefl _ less

end Inventory
end Forager
