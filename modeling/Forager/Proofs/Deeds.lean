import Forager.Proofs.Foremost
import Forager.Proofs.Journals
import Forager.Proofs.Turns

/-!
# What a deed comes to

Healing, eating and firing choose a slot, ask the host to let the item in it be used, and change the
beliefs only if the host does. This module settles each for any beliefs, any inventory and any
answers: which slot is asked for, which calls are made in which order, what every slot holds
afterwards, and that nothing else changes. The calls are read off the journal of a host that keeps
one; the same deed with the plain host differs in nothing but the journal.

* `Consumes`, `consumes_foremost`: healing and eating use up the foremost item that fits.
* `Shot`, `fires_foremost`: firing spends a round of the foremost pistol. After the last round the
  pistol is dropped, and a target out of view is forgotten.
-/
namespace Forager

variable {η : Type}

theorem Journal.calls_ne_after (j : Journal η) (call : HostCall) : j.calls ≠ j.calls ++ [call] := by
  intro same
  have longer := congrArg List.length same
  rw [List.length_append, List.length_singleton] at longer
  omega

namespace Beliefs

/-! ## Healing and eating -/

/-- Whether a slot holds an item that fills up some of a resource and does not overshoot. -/
def Fitting (b : Beliefs) (resource : Resource) : Nat → UInt32 → Prop :=
  b.inventory.Fits resource.amount?
    (pointsMissing (b.maximum resource) (resource.level b.agentInfo))

section Consume

variable {resource : Resource} {b : Beliefs}

theorem consume_of_unfit (h : ∀ slot a, ¬b.Fitting resource slot a) (host : Host η) (w : η) :
    b.consume resource host w = ⟨false, b, w⟩ := by
  rw [consume, Resource.bestSlot?_eq_none_iff.2 h]

theorem consume_of_foremost {slot : Nat} {a : UInt32} (h : Foremost (b.Fitting resource) slot a)
    (host : Host η) (w : η) :
    b.consume resource host w =
      if (host.useItem slot w).1 then
        ⟨true, { b with inventory := b.inventory.clear slot }, (host.useItem slot w).2⟩
      else ⟨false, b, (host.useItem slot w).2⟩ := by
  rw [consume, Resource.bestSlot?_eq_some_iff.2 ⟨a, h⟩]

theorem unfit_or_foremost (b : Beliefs) (resource : Resource) :
    (∀ slot a, ¬b.Fitting resource slot a) ∨ ∃ slot a, Foremost (b.Fitting resource) slot a := by
  cases h : resource.bestSlot? b.inventory
      (pointsMissing (b.maximum resource) (resource.level b.agentInfo)) with
  | none => exact .inl (Resource.bestSlot?_eq_none_iff.1 h)
  | some slot => exact .inr ⟨slot, Resource.bestSlot?_eq_some_iff.1 h⟩

end Consume

/-- What using up an item for a resource comes to. -/
structure Consumes (resource : Resource) (host : Host η) (b : Beliefs) (j : Journal η)
    (deed : Deed (Journal η)) : Prop where
  /-- The host is called at most once, to use an item. -/
  once : deed.world.calls = j.calls ∨ ∃ slot, deed.world.calls = j.calls ++ [.useItem slot]
  called_iff : (∃ slot, deed.world.calls = j.calls ++ [.useItem slot]) ↔
    ∃ slot a, b.Fitting resource slot a
  /-- The item used is in the lowest slot that holds the largest fitting amount. -/
  foremost : ∀ slot, deed.world.calls = j.calls ++ [.useItem slot] →
    ∃ a, Foremost (b.Fitting resource) slot a
  /-- If the host lets it be used, its slot is emptied, and no other changes. -/
  granted : ∀ slot, deed.world.calls = j.calls ++ [.useItem slot] →
    (host.useItem slot j.world).1 = true → deed.done = true ∧
      deed.beliefs.inventory.capacity = b.inventory.capacity ∧
      ∀ s, deed.beliefs.inventory.get? s = if s = slot then none else b.inventory.get? s
  refused : ∀ slot, deed.world.calls = j.calls ++ [.useItem slot] →
    (host.useItem slot j.world).1 = false → deed.done = false ∧ deed.beliefs = b
  unfit : (∀ slot a, ¬b.Fitting resource slot a) → deed.done = false ∧ deed.beliefs = b
  /-- Nothing but the inventory ever changes. -/
  rest : deed.beliefs = { b with inventory := deed.beliefs.inventory }

/-- To heal or to eat is to use up the foremost item that fits, if the host allows it. -/
theorem consumes_foremost (resource : Resource) (host : Host η) (b : Beliefs) (j : Journal η) :
    let deed := b.consume resource host.journalled j
    Consumes resource host b j deed ∧
      b.consume resource host j.world = ⟨deed.done, deed.beliefs, deed.world.world⟩ := by
  refine ⟨?_, host.journalled_extends.consume resource b j⟩
  rcases b.unfit_or_foremost resource with none | ⟨slot, a, first⟩
  · rw [consume_of_unfit none]
    have silent (slot : Nat) : j.calls ≠ j.calls ++ [.useItem slot] := j.calls_ne_after _
    exact {
      once := .inl rfl
      called_iff := ⟨fun ⟨slot, called⟩ => absurd called (silent slot),
        fun ⟨slot, a, fits⟩ => absurd fits (none slot a)⟩
      foremost := fun slot called => absurd called (silent slot)
      granted := fun slot called => absurd called (silent slot)
      refused := fun slot called => absurd called (silent slot)
      unfit := fun _ => ⟨rfl, rfl⟩
      rest := rfl }
  · have calls : (b.consume resource host.journalled j).world.calls =
        j.calls ++ [.useItem slot] := by
      rw [consume_of_foremost first]
      split <;> rfl
    have only {s : Nat} (called : (b.consume resource host.journalled j).world.calls =
        j.calls ++ [.useItem s]) : s = slot := by
      rw [calls] at called
      cases List.append_cancel_left called
      rfl
    exact {
      once := .inr ⟨slot, calls⟩
      called_iff := ⟨fun _ => ⟨slot, a, first.scored⟩, fun _ => ⟨slot, calls⟩⟩
      foremost := fun s called => only called ▸ ⟨a, first⟩
      granted := fun s called yes => by
        rw [only called] at yes ⊢
        have yes' : (host.journalled.useItem slot j).1 = true := yes
        rw [consume_of_foremost first, if_pos yes']
        exact ⟨rfl, Inventory.capacity_clear b.inventory slot, Inventory.get?_clear⟩
      refused := fun s called no => by
        rw [only called] at no
        have no' : ¬(host.journalled.useItem slot j).1 = true :=
          fun yes => Bool.false_ne_true (no.symm.trans yes)
        rw [consume_of_foremost first, if_neg no']
        exact ⟨rfl, rfl⟩
      unfit := fun none => absurd first.scored (none slot a)
      rest := by
        rw [consume_of_foremost first]
        split <;> rfl }

/-! ## Firing -/

section Fire

variable {b : Beliefs}

theorem fire_of_unarmed (h : ∀ slot value, ¬b.inventory.Armed slot value) (host : Host η) (w : η) :
    b.fire host w = ⟨false, b, w⟩ := by
  rw [fire, Inventory.bestPistol?_eq_none_iff.2 h]

theorem fire_of_refused {slot : Nat} {value : Float32}
    (first : Foremost b.inventory.Armed slot value) {host : Host η} {w : η}
    (no : (host.useItem slot w).1 = false) :
    b.fire host w = ⟨false, b, (host.useItem slot w).2⟩ := by
  rw [fire, Inventory.bestPistol?_eq_some_iff.2 ⟨value, first⟩]
  simp only [no, Bool.false_eq_true, if_false]

/-- The world of the host after a shot, which a pistol shot empty has been dropped into. -/
def afterShot (host : Host η) (slot : Nat) (p : Pistol) (w : η) : η :=
  let w := (host.useItem slot w).2
  if p.fired.ammo = 0 then host.dropItem slot w else w

theorem fire_of_granted {slot : Nat} {value : Float32}
    (first : Foremost b.inventory.Armed slot value) {p : Pistol}
    (held : b.inventory.slots[slot]? = some (some (.pistol p))) (loaded : p.ammo ≠ 0)
    {host : Host η} {w : η} (yes : (host.useItem slot w).1 = true) :
    b.fire host w =
      let inv := if p.fired.ammo = 0 then b.inventory.clear slot
        else b.inventory.put slot (.pistol p.fired)
      let review := reviewTarget host { b with inventory := inv } (afterShot host slot p w)
      ⟨true, review.1.measureRange, review.2⟩ := by
  rw [fire, Inventory.bestPistol?_eq_some_iff.2 ⟨value, first⟩]
  simp only [yes, if_true, shoot_of_loaded host held loaded, afterShot]
  split <;> rfl

theorem unarmed_or_foremost (inv : Inventory) :
    (∀ slot value, ¬inv.Armed slot value) ∨ ∃ slot value, Foremost inv.Armed slot value := by
  cases h : inv.bestPistol? with
  | none => exact .inl (Inventory.bestPistol?_eq_none_iff.1 h)
  | some slot => exact .inr ⟨slot, Inventory.bestPistol?_eq_some_iff.1 h⟩

end Fire

/-- What a shot that the host allows comes to: `p` is the pistol, in the given slot. -/
structure Shot (host : Host η) (b : Beliefs) (slot : Nat) (p : Pistol) (j : Journal η)
    (deed : Deed (Journal η)) : Prop where
  done : deed.done = true
  /-- The pistol has one round less. -/
  ammo : p.fired.ammo.toNat + 1 = p.ammo.toNat
  /-- Its slot is emptied if that was the last round, and no other changes. -/
  slots : ∀ s, deed.beliefs.inventory.get? s =
    if s = slot then if p.fired.ammo = 0 then none else some (.pistol p.fired)
    else b.inventory.get? s
  capacity : deed.beliefs.inventory.capacity = b.inventory.capacity
  /-- The item is used, dropped if it was shot empty, and then the target is looked for. -/
  calls : deed.world.calls = j.calls ++ [.useItem slot] ++
    (if p.fired.ammo = 0 then [.dropItem slot] else []) ++
    (b.targetEnemy.map HostCall.enemyVisible).toList
  range : deed.beliefs.longestPistolRange = deed.beliefs.inventory.longestPistolRange
  lost : ∀ id, b.targetEnemy = some id →
    (host.enemyVisible id (afterShot host slot p j.world)).1 = false →
    deed.beliefs.targetEnemy = none ∧
      deed.beliefs.knownEnemies = b.knownEnemies.filter (·.id != id)
  kept : (∀ id, b.targetEnemy = some id →
      (host.enemyVisible id (afterShot host slot p j.world)).1 = true) →
    deed.beliefs.targetEnemy = b.targetEnemy ∧ deed.beliefs.knownEnemies = b.knownEnemies
  rest : deed.beliefs = { b with
    inventory := deed.beliefs.inventory
    knownEnemies := deed.beliefs.knownEnemies
    longestPistolRange := deed.beliefs.longestPistolRange
    targetEnemy := deed.beliefs.targetEnemy }

theorem afterShot_journalled (host : Host η) (slot : Nat) (p : Pistol) (j : Journal η) :
    afterShot host.journalled slot p j =
      ⟨j.calls ++ [.useItem slot] ++ (if p.fired.ammo = 0 then [.dropItem slot] else []),
        afterShot host slot p j.world⟩ := by
  simp only [afterShot]
  split
  · rfl
  · rw [List.append_nil]
    rfl

theorem shot_of_foremost {b : Beliefs} {slot : Nat} {value : Float32}
    (first : Foremost b.inventory.Armed slot value) {p : Pistol}
    (held : b.inventory.slots[slot]? = some (some (.pistol p))) (loaded : p.ammo ≠ 0)
    {host : Host η} {j : Journal η} (yes : (host.useItem slot j.world).1 = true) :
    Shot host b slot p j (b.fire host.journalled j) := by
  have yes' : (host.journalled.useItem slot j).1 = true := yes
  rw [fire_of_granted first held loaded yes', afterShot_journalled]
  generalize hinv : (if p.fired.ammo = 0 then b.inventory.clear slot
    else b.inventory.put slot (.pistol p.fired)) = inv
  have slots (s : Nat) : inv.get? s =
      if s = slot then if p.fired.ammo = 0 then none else some (.pistol p.fired)
      else b.inventory.get? s := by
    subst hinv
    split
    · rw [Inventory.get?_clear]
    · rw [Inventory.get?_put held]
  have capacity : inv.capacity = b.inventory.capacity := by
    subst hinv
    split
    · rw [Inventory.capacity_clear]
    · rw [Inventory.capacity_put]
  have ammo := Pistol.fired_ammo (UInt32.pos_iff_ne_zero.2 loaded)
  cases target : b.targetEnemy with
  | none =>
    simp only [reviewTarget]
    exact {
      done := rfl, ammo, slots, capacity
      calls := by rw [target]; exact (List.append_nil _).symm
      range := rfl
      lost := fun id there => by rw [target] at there; cases there
      kept := fun _ => ⟨target.symm, rfl⟩
      rest := rfl }
  | some id =>
    cases seen : (host.enemyVisible id (afterShot host slot p j.world)).1 with
    | false =>
      simp only [reviewTarget, Host.journalled, Prod.map, seen, id_eq]
      exact {
        done := rfl, ammo, slots, capacity
        calls := by rw [target]; rfl
        range := rfl
        lost := fun id' there _ => by rw [target] at there; cases there; exact ⟨rfl, rfl⟩
        kept := fun all => by rw [all id target] at seen; cases seen
        rest := rfl }
    | true =>
      simp only [reviewTarget, Host.journalled, Prod.map, seen, id_eq]
      exact {
        done := rfl, ammo, slots, capacity
        calls := by rw [target]; rfl
        range := rfl
        lost := fun id' there gone => by
          rw [target] at there
          cases there
          rw [seen] at gone
          cases gone
        kept := fun _ => ⟨target.symm, rfl⟩
        rest := rfl }

/-- To fire is to use the foremost pistol of positive value, and nothing happens without one or
without leave of the host. -/
theorem fires_foremost (host : Host η) (b : Beliefs) (j : Journal η) :
    let deed := b.fire host.journalled j
    ((∀ slot value, ¬b.inventory.Armed slot value) ∧ deed = ⟨false, b, j⟩ ∨
      ∃ slot value p, Foremost b.inventory.Armed slot value ∧
        b.inventory.get? slot = some (.pistol p) ∧ p.value = value ∧
        ((host.useItem slot j.world).1 = false ∧
            deed = ⟨false, b, j.after (.useItem slot) (host.useItem slot j.world).2⟩ ∨
          (host.useItem slot j.world).1 = true ∧ Shot host b slot p j deed)) ∧
      b.fire host j.world = ⟨deed.done, deed.beliefs, deed.world.world⟩ := by
  refine ⟨?_, host.journalled_extends.fire b j⟩
  rcases unarmed_or_foremost b.inventory with none | ⟨slot, value, first⟩
  · exact .inl ⟨none, fire_of_unarmed none _ _⟩
  · obtain ⟨p, held, worth, pos⟩ := first.scored
    have loaded : p.ammo ≠ 0 := Inventory.ammo_ne_zero_of_value_pos (worth ▸ pos)
    refine .inr ⟨slot, value, p, first, Inventory.get?_eq_some_iff.2 held, worth, ?_⟩
    cases yes : (host.useItem slot j.world).1 with
    | false =>
      have no : (host.journalled.useItem slot j).1 = false := yes
      exact .inl ⟨rfl, fire_of_refused first no⟩
    | true => exact .inr ⟨rfl, shot_of_foremost first held loaded yes⟩

end Beliefs
end Forager
