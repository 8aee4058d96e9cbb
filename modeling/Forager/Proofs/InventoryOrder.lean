import Forager.Proofs.Turns
import Mathlib.Logic.Relation

/-!
# The inventory stays in order

Limits are looked at only when an item is picked up, usefulness only before that, and empty pistols
are only dropped after a shot; still every inventory of every run has the configured slots, keeps
to the limits, and holds nothing but usable items. A pickup that first swaps a pistol out may be
refused and then leaves one pistol less; it never leaves one more. And nothing takes the place of a
held item: it keeps its slot until the host was told to drop it or agreed to have it used up.

* `InOrder.withCapacity`, `Episode.inOrder_run`: order at the start and after every run.
* `Dealings.orderly`: a run of dealings goes through orderly inventories, and overwrites no item.
* `inventory_stays_in_order`: both, for every session of the standard controller.
-/
namespace Forager

variable {μ η : Type}

/-! ## Order along a run -/

namespace Inventory

theorem total_withCapacity (weight : Item → Nat) (n : Nat) :
    (withCapacity n).total weight = 0 := by
  rw [total_eq_sum_slots]
  simp [withCapacity, slotWeight]

theorem InOrder.withCapacity (config : Config) :
    (withCapacity config.inventoryCapacity).InOrder config where
  capacity := capacity_withCapacity config.inventoryCapacity
  limits kind := by
    rw [count_eq_total, total_withCapacity]
    exact Nat.zero_le _
  serviceable slot item h := by
    have empty := List.mem_of_getElem? h
    rw [Inventory.withCapacity, List.mem_replicate] at empty
    cases empty.2

end Inventory

/-- A frame leaves an inventory in order that was in order. -/
theorem turn_inOrder {config : Config} (host : Host η) (time : FrameTime) (percept : Percept)
    {b : Beliefs} (ok : b.inventory.InOrder config) (w : η) :
    (turn config host time percept b w).done.beliefs.inventory.InOrder config := by
  obtain ⟨taken, swapped, emptied, seen, done, -⟩ := dealt_turn host time percept ok w
  exact done.inOrder (seen.inOrder ok)

namespace Episode

variable {config : Config}

theorem inOrder_step (host : Host η) {e : Episode η} (ok : e.beliefs.inventory.InOrder config)
    (o : Occurrence η) : (e.step config host o).beliefs.inventory.InOrder config := by
  cases o with
  | softGoal target => exact ok
  | frame time percept => exact turn_inOrder host time percept ok e.world
  | drift change => exact ok

theorem inOrder_run (config : Config) (host : Host η) (agent : Agent) (world : η)
    (os : List (Occurrence η)) :
    ((start config agent world).run config host os).beliefs.inventory.InOrder config :=
  run_invariant (P := fun e => e.beliefs.inventory.InOrder config)
    (Inventory.InOrder.withCapacity config) fun o _ _ ok => inOrder_step host ok o

end Episode

/-! ## Nothing is overwritten -/

/-- Whether each item held before is held after in the same slot, perhaps with a round less, or
has left its slot empty. -/
def Inventory.Keeps (inv inv' : Inventory) : Prop :=
  ∀ (slot : Nat) (item : Item), inv.slots[slot]? = some (some item) →
    inv'.slots[slot]? = some (some item) ∨ inv'.slots[slot]? = some none ∨
      ∃ p, item = .pistol p ∧ inv'.slots[slot]? = some (some (.pistol p.fired))

/-- Whether one state of inventory and world follows another by a dealing that overwrites no held
item and leaves the inventory in order. -/
structure Orderly (config : Config) (host : Host η) (before after : Inventory × η) : Prop where
  deals : ∃ d, Deals config host d before.1 before.2 after.1 after.2
  keeps : before.1.Keeps after.1
  inOrder : after.1.InOrder config

theorem Dealings.orderly {config : Config} {host : Host η} {ds : List Dealing}
    {inv inv' : Inventory} {w w' : η} (h : Dealings config host ds inv w inv' w')
    (ok : inv.InOrder config) :
    Relation.ReflTransGen (Orderly config host) (inv, w) (inv', w') := by
  induction h with
  | nil inv w => exact .refl
  | cons first rest ih =>
    have ok' := first.inOrder ok
    exact .head ⟨⟨_, first⟩, fun _ _ held => first.keeps held, ok'⟩ (ih ok')

theorem turn_orderly {config : Config} (host : Host η) (time : FrameTime) (percept : Percept)
    {b : Beliefs} (ok : b.inventory.InOrder config) (w : η) :
    let t := turn config host time percept b w
    Relation.ReflTransGen (Orderly config host) (b.inventory, w)
      (t.done.beliefs.inventory, t.done.world) := by
  intro t
  obtain ⟨taken, swapped, emptied, seen, done, -⟩ := dealt_turn host time percept ok w
  obtain ⟨ds, dealings, -⟩ := seen.trans done
  exact dealings.orderly ok

/-! ## Sessions -/

/-- After every session the inventory of the standard controller is in order; every further frame
takes it, and the world of the host with it, through dealings that keep the order and overwrite no
held item, and a soft goal leaves it alone. -/
theorem inventory_stays_in_order (config : Config) (agent : Agent) (memory : μ) :
    ∃ c, Controller.standard config agent memory = .ok c ∧
      ∀ {η : Type} (host : Host η) (world : η) (os : List (Occurrence η)),
        let s := Session.run host ⟨c, world, []⟩ os
        ∃ b, s.controller.beliefs = .ok b ∧ b.inventory.InOrder config ∧
          (∀ time percept, ∃ b',
            (s.controller.update host time percept s.world).controller.beliefs = .ok b' ∧
              Relation.ReflTransGen (Orderly config host) (b.inventory, s.world)
                (b'.inventory, (s.controller.update host time percept s.world).world)) ∧
          ∀ target, ∃ b', (s.controller.setSoftGoal target).2.beliefs = .ok b' ∧
            b'.inventory = b.inventory := by
  refine ⟨_, Controller.standard_eq config agent memory, fun host world os => ?_⟩
  have follows := standard_session config agent memory host world os
  have ok := Episode.inOrder_run config host agent world os
  intro s
  refine ⟨_, follows.holds.beliefs, ok, fun time percept => ?_, fun target => ?_⟩
  · rw [follows.holds.update host time percept s.world, follows.config]
    refine ⟨_, (follows.holds.afterTurn _ _).beliefs, ?_⟩
    exact turn_orderly host time percept ok s.world
  · rw [follows.holds.setSoftGoal]
    exact ⟨_, (follows.holds.withBeliefs _).beliefs, rfl⟩

end Forager
