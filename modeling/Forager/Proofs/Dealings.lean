import Forager.Proofs.Conduct
import Forager.Proofs.Contents
import Forager.Proofs.Sessions

/-!
# What passes between a controller and its host

During a frame the inventory and the host's world change together, by few kinds of steps. A
`Dealing` is such a step: a question, a refused request, an item stored, a pistol dropped for a
better one, a shot, the last shot of a pistol, a consumable used up. `Deals` says what each does
to both sides and under which conditions it happens, and `Dealings` strings them together. What is
to be known of a frame is then read off its dealings, and is proved dealing by dealing.

A dealing leaves an inventory `InOrder` that was in order. This is also what a pickup relies on
after it made room: that the limit was not exceeded before.

* `Deals.inOrder`: a dealing leaves an inventory in order that was in order.
* `Deals.keeps`: a held item keeps its slot in a dealing, or leaves it empty.
* `Dealings.invariant`: what every dealing keeps is kept by a run of dealings.
-/
namespace Forager

variable {η : Type}

/-! ## Order in the inventory -/

/-- How many items of a kind are kept at once. Garbage is not kept. -/
def Config.limit (config : Config) : ItemKind → Nat
  | .pistol => config.maxPistols
  | .health => config.maxItemsPerKind
  | .food => config.maxItemsPerKind
  | .garbage => 0

/-- Whether the item will do something when it is used. -/
def Item.Serviceable : Item → Prop
  | .pistol p => 0 < p.ammo ∧ ¬p.dps ≤ 0 ∧ ¬p.range ≤ 0
  | .health h => 0 < h.healing
  | .food f => 0 < f.energy
  | .garbage _ => False

/-- Whether an inventory has the configured slots, keeps to the limits and holds nothing useless. -/
structure Inventory.InOrder (config : Config) (inv : Inventory) : Prop where
  capacity : inv.capacity = config.inventoryCapacity
  limits : ∀ kind, inv.count kind ≤ config.limit kind
  serviceable : ∀ (slot : Nat) (item : Item),
    inv.slots[slot]? = some (some item) → item.Serviceable

theorem Item.serviceable_of_isUseful {item : Item} (h : item.isUseful = true) :
    item.Serviceable := by
  cases item with
  | pistol p =>
    have pos : 0 < p.value := of_decide_eq_true h
    rw [Pistol.value] at pos
    split at pos
    · exact absurd pos (by decide)
    · rename_i hp
      simp only [not_or] at hp
      exact ⟨UInt32.pos_iff_ne_zero.2 hp.1, hp.2⟩
  | health pack =>
    have pos : 0 < pack.healing := of_decide_eq_true h
    exact pos
  | food f =>
    have pos : 0 < f.energy := of_decide_eq_true h
    exact pos
  | garbage id => cases h

/-! ## Dealings -/

/-- A pistol after a shot. -/
def Pistol.fired (p : Pistol) : Pistol := { p with ammo := p.ammo - 1 }

/-- A step that a controller and its host take together. -/
inductive Dealing where
  /-- The way to a place, or whether an enemy is in view. -/
  | asked
  /-- An item that the host does not hand over, or does not let be used. -/
  | refused
  | stored (item : Item) (slot : Nat)
  /-- A pistol dropped for a better one. -/
  | swappedOut (p : Pistol) (slot : Nat)
  /-- A shot that leaves rounds in the pistol. -/
  | fired (p : Pistol) (slot : Nat)
  /-- The last shot of a pistol, which is dropped empty. -/
  | spent (p : Pistol) (slot : Nat)
  | consumed (item : Item) (slot : Nat)

/-- What a dealing does to the inventory and to the world of the host. -/
inductive Deals (config : Config) (host : Host η) :
    Dealing → Inventory → η → Inventory → η → Prop
  | askWay (inv : Inventory) (w : η) (goal : Vec2) :
    Deals config host .asked inv w inv (host.closestPathPoint goal w).2
  | askView (inv : Inventory) (w : η) (id : EntityId) :
    Deals config host .asked inv w inv (host.enemyVisible id w).2
  | refusePickUp {inv : Inventory} {w : η} {item : Item} {slot : Nat}
    (no : ¬(host.pickUp item slot w).1) :
    Deals config host .refused inv w inv (host.pickUp item slot w).2
  | refuseUse {inv : Inventory} {w : η} {slot : Nat} (no : ¬(host.useItem slot w).1) :
    Deals config host .refused inv w inv (host.useItem slot w).2
  | store {inv : Inventory} {w : η} {item : Item} {slot : Nat}
    (vacant : inv.slots[slot]? = some none) (useful : item.isUseful)
    (room : inv.count item.kind < config.limit item.kind) (yes : (host.pickUp item slot w).1) :
    Deals config host (.stored item slot) inv w (inv.put slot item) (host.pickUp item slot w).2
  | swapOut {inv : Inventory} (w : η) {p : Pistol} {slot : Nat}
    (held : inv.slots[slot]? = some (some (.pistol p))) :
    Deals config host (.swappedOut p slot) inv w (inv.clear slot) (host.dropItem slot w)
  | fire {inv : Inventory} {w : η} {p : Pistol} {slot : Nat}
    (held : inv.slots[slot]? = some (some (.pistol p))) (more : 1 < p.ammo)
    (yes : (host.useItem slot w).1) :
    Deals config host (.fired p slot) inv w (inv.put slot (.pistol p.fired))
      (host.useItem slot w).2
  | spend {inv : Inventory} {w : η} {p : Pistol} {slot : Nat}
    (held : inv.slots[slot]? = some (some (.pistol p))) (last : p.ammo = 1)
    (yes : (host.useItem slot w).1) :
    Deals config host (.spent p slot) inv w (inv.clear slot)
      (host.dropItem slot (host.useItem slot w).2)
  | consume {inv : Inventory} {w : η} {item : Item} {slot : Nat}
    (held : inv.slots[slot]? = some (some item)) (kind : item.kind = .health ∨ item.kind = .food)
    (yes : (host.useItem slot w).1) :
    Deals config host (.consumed item slot) inv w (inv.clear slot) (host.useItem slot w).2

/-- A run of dealings, in order. -/
inductive Dealings (config : Config) (host : Host η) :
    List Dealing → Inventory → η → Inventory → η → Prop
  | nil (inv : Inventory) (w : η) : Dealings config host [] inv w inv w
  | cons {d : Dealing} {ds : List Dealing} {inv inv₁ inv₂ : Inventory} {w w₁ w₂ : η}
    (first : Deals config host d inv w inv₁ w₁)
    (rest : Dealings config host ds inv₁ w₁ inv₂ w₂) :
    Dealings config host (d :: ds) inv w inv₂ w₂

namespace Dealings

variable {config : Config} {host : Host η} {d : Dealing} {ds ds' : List Dealing}
  {inv inv₁ inv₂ : Inventory} {w w₁ w₂ : η}

theorem single (h : Deals config host d inv w inv₁ w₁) :
    Dealings config host [d] inv w inv₁ w₁ := .cons h (.nil inv₁ w₁)

theorem append (h : Dealings config host ds inv w inv₁ w₁)
    (h' : Dealings config host ds' inv₁ w₁ inv₂ w₂) :
    Dealings config host (ds ++ ds') inv w inv₂ w₂ := by
  induction h with
  | nil inv w => exact h'
  | cons first rest ih => exact .cons first (ih h')

/-- What every dealing keeps is kept by a run of them. -/
theorem invariant {P : Inventory → η → Prop}
    (kept : ∀ d inv w inv' w', Deals config host d inv w inv' w' → P inv w → P inv' w')
    (h : Dealings config host ds inv w inv₁ w₁) (start : P inv w) : P inv₁ w₁ := by
  induction h with
  | nil inv w => exact start
  | cons first rest ih => exact ih (kept _ _ _ _ _ first start)

end Dealings

/-! ## What a dealing keeps -/

namespace Inventory

variable {config : Config} {inv : Inventory} {slot : Nat} {item : Item}

theorem count_put (h : inv.slots[slot]? = some none) (item : Item) (kind : ItemKind) :
    (inv.put slot item).count kind = inv.count kind + if item.kind = kind then 1 else 0 := by
  simp only [count_eq_total]
  exact total_put _ h item

theorem count_clear (h : inv.slots[slot]? = some (some item)) (kind : ItemKind) :
    (inv.clear slot).count kind + (if item.kind = kind then 1 else 0) = inv.count kind := by
  simp only [count_eq_total]
  exact total_clear _ h

theorem count_refill (h : inv.slots[slot]? = some (some item)) (item' : Item)
    (same : item'.kind = item.kind) (kind : ItemKind) :
    (inv.put slot item').count kind = inv.count kind := by
  have := total_refill (fun item => if item.kind = kind then 1 else 0) h item'
  simp only [count_eq_total]
  rw [same] at this
  omega

namespace InOrder

theorem clear (h : inv.InOrder config) (held : inv.slots[slot]? = some (some item)) :
    (inv.clear slot).InOrder config where
  capacity := (capacity_clear inv slot).trans h.capacity
  limits kind := by
    have := h.limits kind
    have := count_clear held kind
    omega
  serviceable i other hi := by
    simp only [Inventory.clear, List.getElem?_set] at hi
    split at hi
    · split at hi <;> cases hi
    · exact h.serviceable i other hi

theorem put (h : inv.InOrder config) (ok : item.Serviceable)
    (limits : ∀ kind, (inv.put slot item).count kind ≤ config.limit kind) :
    (inv.put slot item).InOrder config where
  capacity := (capacity_put inv slot item).trans h.capacity
  limits := limits
  serviceable i other hi := by
    simp only [Inventory.put, List.getElem?_set] at hi
    split at hi
    · split at hi
      · cases hi
        exact ok
      · cases hi
    · exact h.serviceable i other hi

end InOrder
end Inventory

theorem Pistol.fired_ammo {p : Pistol} (h : 0 < p.ammo) :
    p.fired.ammo.toNat + 1 = p.ammo.toNat := by
  have : 0 < p.ammo.toNat := UInt32.lt_iff_toNat_lt.1 h
  have hle : (1 : UInt32) ≤ p.ammo := UInt32.le_iff_toNat_le.2 this
  rw [fired, UInt32.toNat_sub_of_le _ _ hle]
  simp only [UInt32.toNat_one]
  omega

namespace Deals

variable {config : Config} {host : Host η} {d : Dealing} {inv inv' : Inventory} {w w' : η}

theorem inOrder (h : Deals config host d inv w inv' w') (ok : inv.InOrder config) :
    inv'.InOrder config := by
  cases h with
  | askWay goal => exact ok
  | askView id => exact ok
  | refusePickUp no => exact ok
  | refuseUse no => exact ok
  | @store _ _ item slot vacant useful room yes =>
    refine ok.put (Item.serviceable_of_isUseful useful) fun kind => ?_
    rw [Inventory.count_put vacant]
    split
    · rename_i hk
      rw [hk] at room
      exact room
    · exact ok.limits kind
  | swapOut _ held => exact ok.clear held
  | @fire _ _ p slot held more yes =>
    obtain ⟨loaded, rest⟩ := ok.serviceable slot _ held
    refine ok.put ⟨?_, rest⟩ fun kind => ?_
    · have left := Pistol.fired_ammo loaded
      have more : 1 < p.ammo.toNat := UInt32.lt_iff_toNat_lt.1 more
      exact UInt32.lt_iff_toNat_lt.2 (show 0 < p.fired.ammo.toNat by omega)
    · rw [Inventory.count_refill held (.pistol p.fired) rfl]
      exact ok.limits kind
  | spend held last yes => exact ok.clear held
  | consume held kind yes => exact ok.clear held

/-- An item held before a dealing is held after it in the same slot, or has lost a round, or the
slot is empty. -/
theorem keeps (h : Deals config host d inv w inv' w') {slot : Nat} {item : Item}
    (held : inv.slots[slot]? = some (some item)) :
    inv'.slots[slot]? = some (some item) ∨ inv'.slots[slot]? = some none ∨
      ∃ p, item = .pistol p ∧ inv'.slots[slot]? = some (some (.pistol p.fired)) := by
  have cleared (s : Nat) : (inv.clear s).slots[slot]? = some (some item) ∨
      (inv.clear s).slots[slot]? = some none := by
    rw [Inventory.clear]
    by_cases hs : s = slot
    · subst hs
      exact .inr (List.getElem?_set_self (List.getElem?_eq_some_iff.1 held).1)
    · exact .inl (by rw [List.getElem?_set_ne hs, held])
  cases h with
  | askWay goal => exact .inl held
  | askView id => exact .inl held
  | refusePickUp no => exact .inl held
  | refuseUse no => exact .inl held
  | @store _ _ new s vacant useful room yes =>
    have hne : s ≠ slot := by
      rintro rfl
      rw [held] at vacant
      cases vacant
    exact .inl (by rw [Inventory.put, List.getElem?_set_ne hne, held])
  | @swapOut _ _ p s heldp => exact (cleared s).imp_right .inl
  | @fire _ _ p s heldp more yes =>
    by_cases hs : s = slot
    · subst hs
      rw [held] at heldp
      cases heldp
      refine .inr (.inr ⟨p, rfl, ?_⟩)
      rw [Inventory.put, List.getElem?_set_self (List.getElem?_eq_some_iff.1 held).1]
    · exact .inl (by rw [Inventory.put, List.getElem?_set_ne hs, held])
  | @spend _ _ p s heldp last yes => exact (cleared s).imp_right .inl
  | @consume _ _ item s heldi kind yes => exact (cleared s).imp_right .inl

end Deals
end Forager
