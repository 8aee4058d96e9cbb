import Forager.World.Need

/-!
# Slots and the choices made from them

Where the slot that a choice names is taken from: a pistol chosen to fire is a loaded pistol, a
consumable chosen is one of its kind, the slot for a new item is empty. Slots are addressed by
look-ups in the list of slots, and an item is in an inventory exactly if some slot holds it.

* `mem_items_iff`, `mem_pistols_iff`: the items and pistols with their slots.
* `get?_put`, `get?_clear`: what a slot holds after a change of one slot.
* `bestPistol?_spec`, `worstPistol?_spec`, `bestSlot?_spec`, `firstEmpty?_spec`: what is chosen.
* `bestHealthPack?_isSome_iff`: when there is a pack to choose.
* `exists_longest`: the longest reach is that of a loaded pistol.
* `longestPistolRange_clear`: taking away what is no pistol does not change the reach.
-/
namespace Forager

namespace Inventory

variable {inv : Inventory} {slot : Nat} {item : Item}

/-! ## What is where -/

theorem mem_items_iff : (slot, item) ∈ inv.items ↔ inv.slots[slot]? = some (some item) := by
  rw [items, List.mem_filterMap]
  constructor
  · rintro ⟨⟨held, i⟩, hm, hs⟩
    cases held with
    | none => cases hs
    | some held =>
      cases hs
      exact List.mem_zipIdx_iff_getElem?.1 hm
  · intro h
    exact ⟨(some item, slot), List.mem_zipIdx_iff_getElem?.2 h, rfl⟩

theorem mem_pistols_iff {p : Pistol} :
    (slot, p) ∈ inv.pistols ↔ inv.slots[slot]? = some (some (.pistol p)) := by
  rw [← mem_items_iff, pistols, List.mem_filterMap]
  constructor
  · rintro ⟨⟨i, held⟩, hm, hs⟩
    cases held with
    | pistol q =>
      cases hs
      exact hm
    | health h => cases hs
    | food f => cases hs
    | garbage id => cases hs
  · intro h
    exact ⟨(slot, .pistol p), h, rfl⟩

theorem get?_eq_some_iff :
    inv.get? slot = some item ↔ inv.slots[slot]? = some (some item) := by
  rw [get?, Option.join_eq_some_iff]

theorem get?_clear (s : Nat) :
    (inv.clear slot).get? s = if s = slot then none else inv.get? s := by
  rw [get?, clear, List.getElem?_set]
  by_cases here : slot = s
  · rw [if_pos here, if_pos here.symm]
    split <;> rfl
  · rw [if_neg here, if_neg (Ne.symm here), get?]

theorem get?_put {x : Option Item} (held : inv.slots[slot]? = some x) (item : Item) (s : Nat) :
    (inv.put slot item).get? s = if s = slot then some item else inv.get? s := by
  rw [get?, put, List.getElem?_set]
  by_cases here : slot = s
  · rw [if_pos here, if_pos here.symm, if_pos (here ▸ (List.getElem?_eq_some_iff.1 held).1)]
    rfl
  · rw [if_neg here, if_neg (Ne.symm here), get?]

/-! ## Choices -/

theorem firstEmpty?_spec (h : inv.firstEmpty? = some slot) : inv.slots[slot]? = some none := by
  obtain ⟨hlt, hnone, -⟩ := List.findIdx?_eq_some_iff_getElem.1 h
  rw [List.getElem?_eq_getElem hlt, Option.isNone_iff_eq_none.1 hnone]

/-- A pistol of positive value has a round. -/
theorem ammo_ne_zero_of_value_pos {p : Pistol} (h : 0 < p.value) : p.ammo ≠ 0 := by
  intro hz
  rw [Pistol.value, if_pos (.inl hz)] at h
  exact absurd h (by decide)

/-- The pistol chosen to fire is loaded. -/
theorem bestPistol?_spec (h : inv.bestPistol? = some slot) :
    ∃ p : Pistol, inv.slots[slot]? = some (some (.pistol p)) ∧ 0 < p.value ∧ p.ammo ≠ 0 := by
  rw [bestPistol?, Option.map_eq_some_iff] at h
  obtain ⟨⟨i, value⟩, hc, rfl⟩ := h
  obtain ⟨hm, hpos⟩ := List.mem_filter.1 (choose_mem hc)
  obtain ⟨⟨j, p⟩, hp, heq⟩ := List.mem_map.1 hm
  cases heq
  have pos : 0 < p.value := of_decide_eq_true hpos
  exact ⟨p, mem_pistols_iff.1 hp, pos, ammo_ne_zero_of_value_pos pos⟩

theorem worstPistol?_spec {value : Float32} (h : inv.worstPistol? = some (slot, value)) :
    ∃ p : Pistol, inv.slots[slot]? = some (some (.pistol p)) ∧ value = p.value := by
  obtain ⟨⟨i, p⟩, hp, heq⟩ := List.mem_map.1 (choose_mem h)
  cases heq
  exact ⟨p, mem_pistols_iff.1 hp, rfl⟩

theorem bestConsumable?_spec {amount : Item → Option UInt32} {needed : UInt32}
    (h : inv.bestConsumable? amount needed = some slot) :
    ∃ item a, inv.slots[slot]? = some (some item) ∧ amount item = some a ∧ 0 < a ∧ a ≤ needed := by
  rw [bestConsumable?, Option.map_eq_some_iff] at h
  obtain ⟨⟨i, a⟩, hc, rfl⟩ := h
  obtain ⟨hm, hfit⟩ := List.mem_filter.1 (choose_mem hc)
  obtain ⟨⟨j, item⟩, hi, heq⟩ := List.mem_filterMap.1 hm
  obtain ⟨a', ha, heq⟩ := Option.map_eq_some_iff.1 heq
  cases heq
  have fits : 0 < a ∧ a ≤ needed := of_decide_eq_true hfit
  exact ⟨item, a, mem_items_iff.1 hi, ha, fits.1, fits.2⟩

theorem bestConsumable?_isSome_iff {amount : Item → Option UInt32} {needed : UInt32} :
    (inv.bestConsumable? amount needed).isSome ↔
      ∃ (slot : Nat) (item : Item) (a : UInt32), inv.slots[slot]? = some (some item) ∧
        amount item = some a ∧ 0 < a ∧ a ≤ needed := by
  constructor
  · intro h
    obtain ⟨slot, h⟩ := Option.isSome_iff_exists.1 h
    exact ⟨slot, bestConsumable?_spec h⟩
  · rintro ⟨slot, item, a, held, ha, pos, fits⟩
    have fitting : (slot, a) ∈ (inv.items.filterMap fun s => (amount s.2).map (s.1, ·)).filter
        fun s => decide (0 < s.2 ∧ s.2 ≤ needed) := by
      refine List.mem_filter.2 ⟨List.mem_filterMap.2 ⟨(slot, item), mem_items_iff.2 held, ?_⟩, ?_⟩
      · rw [ha]
        rfl
      · exact decide_eq_true ⟨pos, fits⟩
    rw [bestConsumable?, Option.isSome_map, ← Option.ne_none_iff_isSome, ne_eq, choose_eq_none_iff]
    exact List.ne_nil_of_mem fitting

/-- A pack is chosen exactly if one heals something and does not overshoot. -/
theorem bestHealthPack?_isSome_iff {needed : UInt32} :
    (inv.bestHealthPack? needed).isSome ↔
      ∃ (slot : Nat) (pack : HealthPack), inv.slots[slot]? = some (some (.health pack)) ∧
        0 < pack.healing ∧ pack.healing ≤ needed := by
  rw [bestHealthPack?, bestConsumable?_isSome_iff]
  constructor
  · rintro ⟨slot, item, a, held, ha, pos, fits⟩
    cases item with
    | health pack =>
      cases ha
      exact ⟨slot, pack, held, pos, fits⟩
    | pistol p => cases ha
    | food f => cases ha
    | garbage id => cases ha
  · rintro ⟨slot, pack, held, pos, fits⟩
    exact ⟨slot, .health pack, pack.healing, held, rfl, pos, fits⟩

end Inventory

/-- What is chosen to fill a resource up is of its kind. -/
theorem Resource.bestSlot?_spec {resource : Resource} {inv : Inventory} {needed : UInt32}
    {slot : Nat} (h : resource.bestSlot? inv needed = some slot) :
    ∃ item, inv.slots[slot]? = some (some item) ∧ item.kind = resource.kind := by
  cases resource with
  | health =>
    rw [bestSlot?, Inventory.bestHealthPack?] at h
    obtain ⟨item, a, hs, ha, -⟩ := Inventory.bestConsumable?_spec h
    cases item with
    | health pack => exact ⟨_, hs, rfl⟩
    | pistol p => cases ha
    | food f => cases ha
    | garbage id => cases ha
  | energy =>
    rw [bestSlot?, Inventory.bestFood?] at h
    obtain ⟨item, a, hs, ha, -⟩ := Inventory.bestConsumable?_spec h
    cases item with
    | food f => exact ⟨_, hs, rfl⟩
    | pistol p => cases ha
    | health pack => cases ha
    | garbage id => cases ha

namespace Inventory

variable {inv : Inventory} {slot : Nat} {item : Item}

/-! ## The reach of the pistols -/

/-- Whether a pistol is held and has a round. -/
def Loaded (inv : Inventory) (p : Pistol) : Prop :=
  0 < p.ammo ∧ ∃ slot : Nat, inv.slots[slot]? = some (some (.pistol p))

theorem foldl_larger_mem (l : List Float32) (a : Float32) :
    l.foldl Single.larger a = a ∨ l.foldl Single.larger a ∈ l := by
  induction l generalizing a with
  | nil => exact .inl rfl
  | cons b l ih =>
    rw [List.foldl_cons]
    rcases ih (Single.larger a b) with held | later
    · rw [held, Single.larger]
      split
      · exact .inr List.mem_cons_self
      · exact .inl rfl
    · exact .inr (List.mem_cons_of_mem b later)

/-- The longest reach is that of a loaded pistol, if there is one. -/
theorem exists_longest (h : 0 < inv.longestPistolRange) :
    ∃ p, inv.Loaded p ∧ p.range = inv.longestPistolRange := by
  rw [longestPistolRange] at h ⊢
  generalize hl : (inv.pistols.filter fun s => decide (0 < s.2.ammo)).map (·.2.range) = l at h ⊢
  rcases foldl_larger_mem l 0 with zero | longest
  · rw [zero] at h
    exact absurd h (by decide)
  · rw [← hl] at longest
    obtain ⟨⟨slot, p⟩, loaded, range⟩ := List.mem_map.1 longest
    obtain ⟨held, rounds⟩ := List.mem_filter.1 loaded
    exact ⟨p, ⟨of_decide_eq_true rounds, slot, mem_pistols_iff.1 held⟩, hl ▸ range⟩

theorem filterMap_zipIdx_set {α β : Type} {l : List α} {i k : Nat} {x y : α}
    {f : α × Nat → Option β} (hl : l[i]? = some x) (hf : f (y, k + i) = f (x, k + i)) :
    ((l.set i y).zipIdx k).filterMap f = (l.zipIdx k).filterMap f := by
  induction l generalizing i k with
  | nil => rfl
  | cons a l ih =>
    cases i with
    | zero =>
      cases hl
      simp only [List.set_cons_zero, List.zipIdx_cons, List.filterMap_cons]
      rw [Nat.add_zero] at hf
      rw [hf]
    | succ i =>
      rw [List.getElem?_cons_succ] at hl
      have hf' : f (y, k + 1 + i) = f (x, k + 1 + i) := by
        rw [Nat.add_right_comm]
        exact hf
      simp only [List.set_cons_succ, List.zipIdx_cons, List.filterMap_cons, ih hl hf']

theorem pistols_clear (h : inv.slots[slot]? = some (some item)) (hk : item.pistol? = none) :
    (inv.clear slot).pistols = inv.pistols := by
  simp only [pistols, items, clear, List.filterMap_filterMap]
  refine filterMap_zipIdx_set h ?_
  simp only [Option.map_none, Option.map_some, Option.bind_none, Option.bind_some, hk]

theorem longestPistolRange_clear (h : inv.slots[slot]? = some (some item))
    (hk : item.pistol? = none) : (inv.clear slot).longestPistolRange = inv.longestPistolRange := by
  rw [longestPistolRange, longestPistolRange, pistols_clear h hk]

end Inventory
end Forager
