import Forager.Proofs.NumberLine
import Forager.Proofs.Slots
import Mathlib.Data.List.Induction

/-!
# The foremost of the best

`choose` says how a slot is chosen, this module which slot that is: among all slots whose item has a
score, the lowest of those with the greatest score. Nothing else is left open, so the slot to fire
from and the slot to eat from are fixed by what the slots hold.

* `choose_split`: what is chosen beats everything before it and yields to nothing after it.
* `Foremost`: the lowest slot of the greatest score; `Foremost.slot_eq`: there is but one.
* `bestConsumable?_eq_some_iff`, `bestPistol?_eq_some_iff`: the choices are the foremost.
* `Resource.bestSlot?_eq_some_iff`, `Resource.bestSlot?_eq_none_iff`: the same for a resource.
-/
namespace Forager

/-! ## Where the chosen element stands -/

section Split

variable {α : Type} {keeps : α → α → Bool} {S : α → Prop}

/-- In a linear order, what is chosen replaced all before it and stayed against all after it. -/
theorem choose_split (total : ∀ a b, S a → S b → keeps a b ∨ keeps b a)
    (trans : ∀ a b c, keeps a b → keeps b c → keeps a c) {c : α} {l : List α}
    (hl : ∀ a ∈ l, S a) (h : choose keeps l = some c) :
    ∃ pre post, l = pre ++ c :: post ∧ (∀ a ∈ pre, ¬keeps a c) ∧ ∀ a ∈ post, keeps c a := by
  -- On the list from its end: the last element is the last that `choose` looks at.
  induction l using List.reverseRecOn generalizing c with
  | nil => cases h
  | append_singleton l a ih =>
    rw [choose, List.foldl_append, List.foldl_cons, List.foldl_nil] at h
    change choice keeps (choose keeps l) a = some c at h
    cases hc : choose keeps l with
    | none =>
      rw [hc] at h
      cases h
      rw [choose_eq_none_iff.1 hc]
      exact ⟨[], [], rfl, List.forall_mem_nil _, List.forall_mem_nil _⟩
    | some held =>
      rw [hc, choice] at h
      have hl' : ∀ b ∈ l, S b := fun b hb => hl b (List.mem_append_left _ hb)
      split at h
      · rename_i stays
        cases h
        obtain ⟨pre, post, rfl, before, after⟩ := ih hl' hc
        refine ⟨pre, post ++ [a], by rw [List.append_assoc, List.cons_append], before, ?_⟩
        exact List.forall_mem_append.2 ⟨after, List.forall_mem_singleton.2 stays⟩
      · rename_i leaves
        cases h
        refine ⟨l, [], rfl, fun b hb keepsB => leaves ?_, List.forall_mem_nil _⟩
        exact trans _ _ _ (keeps_of_choose total trans hl' hc b hb) keepsB

end Split

/-! ## The lowest slot of the greatest score -/

/-- Whether a slot has the greatest of all scores, and is the lowest that has it. -/
structure Foremost {α : Type} [LE α] (Scored : Nat → α → Prop) (slot : Nat) (score : α) :
    Prop where
  scored : Scored slot score
  greatest : ∀ s a, Scored s a → a ≤ score
  lowest : ∀ s a, Scored s a → score ≤ a → slot ≤ s

theorem Foremost.slot_eq {α : Type} [LE α] {Scored : Nat → α → Prop} {slot slot' : Nat}
    {score score' : α} (h : Foremost Scored slot score) (h' : Foremost Scored slot' score') :
    slot' = slot := by
  have above : slot ≤ slot' := h.lowest slot' score' h'.scored (h'.greatest slot score h.scored)
  have below : slot' ≤ slot := h'.lowest slot score h.scored (h.greatest slot' score' h'.scored)
  exact le_antisymm below above

section Choose

variable {α : Type} [LE α] [DecidableLE α] {S : α → Prop} {l : List (Nat × α)}

/-- Of candidates in slot order, the foremost is chosen. -/
theorem foremost_of_choose (total : ∀ a b, S a → S b → a ≤ b ∨ b ≤ a)
    (trans : ∀ a b c : α, a ≤ b → b ≤ c → a ≤ c) (sorted : l.Pairwise fun s t => s.1 < t.1)
    (hl : ∀ s ∈ l, S s.2) {c : Nat × α} (h : choose (fun best s => s.2 ≤ best.2) l = some c) :
    Foremost (fun s a => (s, a) ∈ l) c.1 c.2 := by
  obtain ⟨pre, post, split, before, after⟩ :=
    choose_split (S := fun s : Nat × α => S s.2)
      (fun s t hs ht => (total t.2 s.2 ht hs).imp decide_eq_true decide_eq_true)
      (fun _ _ _ hst htu => decide_eq_true
        (trans _ _ _ (of_decide_eq_true htu) (of_decide_eq_true hst))) hl h
  rw [split] at sorted hl
  obtain ⟨-, sorted, earlier⟩ := List.pairwise_append.1 sorted
  have later := (List.pairwise_cons.1 sorted).1
  have chosen : c ∈ pre ++ c :: post := List.mem_append_right _ List.mem_cons_self
  rw [split]
  refine ⟨chosen, fun s a hm => ?_, fun s a hm above => ?_⟩
  · rcases List.mem_append.1 hm with hm | hm
    · have less : ¬c.2 ≤ a := fun above => before _ hm (decide_eq_true above)
      exact (total _ _ (hl _ (List.mem_append_left _ hm)) (hl _ chosen)).resolve_right less
    · rcases List.mem_cons.1 hm with rfl | hm
      · exact (total a a (hl _ chosen) (hl _ chosen)).elim id id
      · exact of_decide_eq_true (after _ hm)
  · rcases List.mem_append.1 hm with hm | hm
    · exact absurd (decide_eq_true above) (before _ hm)
    · rcases List.mem_cons.1 hm with rfl | hm
      · exact Nat.le_refl s
      · exact Nat.le_of_lt (later _ hm)

end Choose

/-! ## What the slots are scored by -/

namespace Inventory

variable {inv : Inventory} {slot : Nat}

/-- The items come in slot order. -/
theorem pairwise_items (inv : Inventory) : inv.items.Pairwise fun s t => s.1 < t.1 := by
  have indices : (inv.slots.zipIdx.map (·.2)).Pairwise (· < ·) := by
    rw [List.zipIdx_map_snd]
    exact List.pairwise_lt_range'
  refine (List.pairwise_map.1 indices).filterMap _ fun s t lt s' hs t' ht => ?_
  obtain ⟨item, -, rfl⟩ := Option.map_eq_some_iff.1 hs
  obtain ⟨item', -, rfl⟩ := Option.map_eq_some_iff.1 ht
  exact lt

theorem pairwise_filterMap_items {α : Type} (f : Item → Option α) (inv : Inventory) :
    (inv.items.filterMap fun s => (f s.2).map (s.1, ·)).Pairwise fun s t => s.1 < t.1 := by
  refine inv.pairwise_items.filterMap _ fun s t lt s' hs t' ht => ?_
  obtain ⟨a, -, rfl⟩ := Option.map_eq_some_iff.1 hs
  obtain ⟨a', -, rfl⟩ := Option.map_eq_some_iff.1 ht
  exact lt

/-- Whether a slot holds an item of an amount that is positive and at most `needed`. -/
def Fits (inv : Inventory) (amount : Item → Option UInt32) (needed : UInt32) (slot : Nat)
    (a : UInt32) : Prop :=
  ∃ item, inv.slots[slot]? = some (some item) ∧ amount item = some a ∧ 0 < a ∧ a ≤ needed

/-- Whether a slot holds a pistol of the given value, and the value is positive. -/
def Armed (inv : Inventory) (slot : Nat) (value : Float32) : Prop :=
  ∃ p : Pistol, inv.slots[slot]? = some (some (.pistol p)) ∧ p.value = value ∧ 0 < value

/-! ### Consumables -/

section Consumables

variable {amount : Item → Option UInt32} {needed : UInt32}

theorem mem_fitting_iff {a : UInt32} :
    (slot, a) ∈ (inv.items.filterMap fun s => (amount s.2).map (s.1, ·)).filter
      (fun s => decide (0 < s.2 ∧ s.2 ≤ needed)) ↔ inv.Fits amount needed slot a := by
  rw [List.mem_filter, List.mem_filterMap, decide_eq_true_iff, Fits]
  constructor
  · rintro ⟨⟨⟨i, item⟩, held, scored⟩, fits⟩
    obtain ⟨a', ha, heq⟩ := Option.map_eq_some_iff.1 scored
    cases heq
    exact ⟨item, mem_items_iff.1 held, ha, fits⟩
  · rintro ⟨item, held, ha, fits⟩
    exact ⟨⟨(slot, item), mem_items_iff.2 held, Option.map_eq_some_iff.2 ⟨a, ha, rfl⟩⟩, fits⟩

theorem bestConsumable?_eq_none_iff :
    inv.bestConsumable? amount needed = none ↔ ∀ slot a, ¬inv.Fits amount needed slot a := by
  rw [bestConsumable?, Option.map_eq_none_iff, choose_eq_none_iff, List.eq_nil_iff_forall_not_mem]
  constructor
  · intro h slot a fits
    exact h (slot, a) (mem_fitting_iff.2 fits)
  · rintro h ⟨slot, a⟩ hm
    exact h slot a (mem_fitting_iff.1 hm)

theorem foremost_of_bestConsumable? (h : inv.bestConsumable? amount needed = some slot) :
    ∃ a, Foremost (inv.Fits amount needed) slot a := by
  rw [bestConsumable?, Option.map_eq_some_iff] at h
  obtain ⟨c, hc, rfl⟩ := h
  have first := foremost_of_choose (S := fun _ => True) (fun a b _ _ => UInt32.le_total a b)
    (fun _ _ _ => UInt32.le_trans) ((pairwise_filterMap_items amount inv).filter _)
    (fun _ _ => trivial) hc
  simp only [mem_fitting_iff] at first
  exact ⟨c.2, first⟩

/-- The slot to use up is the lowest of those that hold the largest fitting amount. -/
theorem bestConsumable?_eq_some_iff :
    inv.bestConsumable? amount needed = some slot ↔
      ∃ a, Foremost (inv.Fits amount needed) slot a := by
  refine ⟨foremost_of_bestConsumable?, ?_⟩
  rintro ⟨a, first⟩
  cases h : inv.bestConsumable? amount needed with
  | none => exact absurd first.scored (bestConsumable?_eq_none_iff.1 h slot a)
  | some slot' =>
    obtain ⟨a', first'⟩ := foremost_of_bestConsumable? h
    rw [first.slot_eq first']

end Consumables

/-! ### Pistols -/

theorem mem_valued_iff {value : Float32} :
    (slot, value) ∈ (inv.pistols.map fun s => (s.1, s.2.value)).filter
      (fun s => decide (0 < s.2)) ↔ inv.Armed slot value := by
  rw [List.mem_filter, List.mem_map, decide_eq_true_iff, Armed]
  constructor
  · rintro ⟨⟨⟨i, p⟩, held, heq⟩, pos⟩
    cases heq
    exact ⟨p, mem_pistols_iff.1 held, rfl, pos⟩
  · rintro ⟨p, held, rfl, pos⟩
    exact ⟨⟨(slot, p), mem_pistols_iff.2 held, rfl⟩, pos⟩

theorem bestPistol?_eq_none_iff :
    inv.bestPistol? = none ↔ ∀ slot value, ¬inv.Armed slot value := by
  rw [bestPistol?, Option.map_eq_none_iff, choose_eq_none_iff, List.eq_nil_iff_forall_not_mem]
  constructor
  · intro h slot value armed
    exact h (slot, value) (mem_valued_iff.2 armed)
  · rintro h ⟨slot, value⟩ hm
    exact h slot value (mem_valued_iff.1 hm)

theorem foremost_of_bestPistol? (h : inv.bestPistol? = some slot) :
    ∃ value, Foremost inv.Armed slot value := by
  rw [bestPistol?, Option.map_eq_some_iff] at h
  obtain ⟨c, hc, rfl⟩ := h
  have sorted : (inv.pistols.map fun s => (s.1, s.2.value)).Pairwise fun s t => s.1 < t.1 :=
    List.pairwise_map.2 (pairwise_filterMap_items Item.pistol? inv)
  -- A positive value is not NaN, and off NaN the order of values is linear.
  have first := foremost_of_choose (S := fun value : Float32 => value.isNaN = false)
    (fun _ _ => Single.le_total) (fun _ _ _ => Single.le_trans) (sorted.filter _)
    (fun s hs => (Single.isNaN_of_le
      (Single.le_of_lt (of_decide_eq_true (List.mem_filter.1 hs).2))).2) hc
  simp only [mem_valued_iff] at first
  exact ⟨c.2, first⟩

/-- The slot to fire from is the lowest of those that hold a pistol of greatest positive value. -/
theorem bestPistol?_eq_some_iff :
    inv.bestPistol? = some slot ↔ ∃ value, Foremost inv.Armed slot value := by
  refine ⟨foremost_of_bestPistol?, ?_⟩
  rintro ⟨value, first⟩
  cases h : inv.bestPistol? with
  | none => exact absurd first.scored (bestPistol?_eq_none_iff.1 h slot value)
  | some slot' =>
    obtain ⟨value', first'⟩ := foremost_of_bestPistol? h
    rw [first.slot_eq first']

end Inventory

/-! ### Resources -/

namespace Resource

/-- How much of the resource an item fills up, if it is of the right kind. -/
def amount? : Resource → Item → Option UInt32
  | .health, .health pack => some pack.healing
  | .energy, .food f => some f.energy
  | _, _ => none

theorem bestSlot?_eq (resource : Resource) (inv : Inventory) (needed : UInt32) :
    resource.bestSlot? inv needed = inv.bestConsumable? resource.amount? needed := by
  cases resource with
  | health =>
    rw [bestSlot?, Inventory.bestHealthPack?]
    congr 1
    funext item
    cases item <;> rfl
  | energy =>
    rw [bestSlot?, Inventory.bestFood?]
    congr 1
    funext item
    cases item <;> rfl

theorem bestSlot?_eq_none_iff {resource : Resource} {inv : Inventory} {needed : UInt32} :
    resource.bestSlot? inv needed = none ↔
      ∀ slot a, ¬inv.Fits resource.amount? needed slot a := by
  rw [bestSlot?_eq, Inventory.bestConsumable?_eq_none_iff]

theorem bestSlot?_eq_some_iff {resource : Resource} {inv : Inventory} {needed : UInt32}
    {slot : Nat} : resource.bestSlot? inv needed = some slot ↔
      ∃ a, Foremost (inv.Fits resource.amount? needed) slot a := by
  rw [bestSlot?_eq, Inventory.bestConsumable?_eq_some_iff]

end Resource
end Forager
