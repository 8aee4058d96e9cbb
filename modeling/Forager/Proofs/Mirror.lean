import Forager.Proofs.Conduct
import Forager.Proofs.Sessions

/-!
# The inventory mirrors the host's

A host keeps a stock of its own: what it agreed to pick up is stored, what it agreed to use up is
used up, what it is told to drop is gone, and a refusal changes nothing. The controller updates
its inventory by itself, from the answers alone. `Host.stocked` adds such a stock to any host, so
whether a request is granted is up to that host; it also logs every request together with the
stock at that moment, which tells legal requests from others.

* `Mirrored`: the inventory equals the stock, and all requests were legal.
* `mirrored_tryPickUp`, `mirrored_fire`, `mirrored_consume`: one lemma for each place where both
  copies change.
* `inventory_mirrors_stock`: after every session the copies agree.
-/
namespace Forager

variable {μ η : Type}

/-! ## A host with a stock -/

/-- What a host is asked to do with items. -/
inductive Request where
  | pickUp (item : Item) (slot : Nat)
  | use (slot : Nat)
  | drop (slot : Nat)

/-- Whether using the item makes sense: a loaded pistol, a health pack, or food. -/
def Item.Usable : Item → Prop
  | .pistol p => 0 < p.ammo
  | .health _ => True
  | .food _ => True
  | .garbage _ => False

/-- Whether a request makes sense to a host with the given slots. -/
def Request.Legal (slots : List (Option Item)) : Request → Prop
  | .pickUp _ slot => slots[slot]? = some none
  | .use slot => ∃ item, slots[slot]? = some (some item) ∧ item.Usable
  | .drop slot => ∃ item, slots[slot]? = some (some item)

/-- The world of a host with a stock, and the requests so far, each with the slots it met. -/
structure Stock (η : Type) where
  slots : List (Option Item)
  requests : List (Request × List (Option Item))
  world : η

namespace Stock

def empty (capacity : Nat) (world : η) : Stock η := ⟨List.replicate capacity none, [], world⟩

/-- The stock once a request has left the given slots and the given world. -/
def after (s : Stock η) (request : Request) (slots : List (Option Item)) (world : η) : Stock η :=
  ⟨slots, s.requests ++ [(request, s.slots)], world⟩

end Stock

/-- What using an item leaves of it: a consumable is gone, a pistol has a round less. -/
def Item.afterUse : Item → Option Item
  | .pistol p => some (.pistol { p with ammo := p.ammo - 1 })
  | .health _ => none
  | .food _ => none
  | .garbage id => some (.garbage id)

/-- The host that keeps a stock and leaves it to another host what to grant. -/
def Host.stocked (host : Host η) : Host (Stock η) where
  closestPathPoint target s :=
    let answer := host.closestPathPoint target s.world
    (answer.1, { s with world := answer.2 })
  pickUp item slot s :=
    let answer := host.pickUp item slot s.world
    (answer.1, s.after (.pickUp item slot)
      (if answer.1 then s.slots.set slot (some item) else s.slots) answer.2)
  useItem slot s :=
    let answer := host.useItem slot s.world
    (answer.1, s.after (.use slot)
      (if answer.1 then s.slots.modify slot (·.bind Item.afterUse) else s.slots) answer.2)
  dropItem slot s := s.after (.drop slot) (s.slots.set slot none) (host.dropItem slot s.world)
  enemyVisible id s :=
    let answer := host.enemyVisible id s.world
    (answer.1, { s with world := answer.2 })

/-- The same occurrence in the world of a host with a stock, which nobody else touches. -/
def Occurrence.stocked : Occurrence η → Occurrence (Stock η)
  | .softGoal target => .softGoal target
  | .frame time percept => .frame time percept
  | .drift change => .drift fun s => { s with world := change s.world }

/-! ## The mirror -/

/-- Whether the inventory and the stock are the same, and the requests so far were legal. -/
structure Mirrored (inv : Inventory) (s : Stock η) : Prop where
  slots : inv.slots = s.slots
  legal : ∀ r ∈ s.requests, r.1.Legal r.2

namespace Mirrored

variable {inv : Inventory} {s : Stock η}

theorem empty (capacity : Nat) (world : η) :
    Mirrored (.withCapacity capacity) (Stock.empty capacity world) := ⟨rfl, nofun⟩

theorem elsewhere (h : Mirrored inv s) (world : η) : Mirrored inv { s with world := world } :=
  ⟨h.slots, h.legal⟩

/-- A legal request that changes both copies in the same way. -/
theorem after (h : Mirrored inv s) (request : Request) (legal : request.Legal inv.slots)
    (slots : List (Option Item)) (world : η) :
    Mirrored ⟨slots⟩ (s.after request slots world) := by
  refine ⟨rfl, fun r hr => ?_⟩
  rcases List.mem_append.1 hr with hr | hr
  · exact h.legal r hr
  · rw [List.mem_singleton.1 hr]
    exact h.slots ▸ legal

theorem dropItem (h : Mirrored inv s) (host : Host η) {slot : Nat} {item : Item}
    (held : inv.slots[slot]? = some (some item)) :
    Mirrored (inv.clear slot) (host.stocked.dropItem slot s) := by
  simp only [Host.stocked, ← h.slots]
  exact h.after (.drop slot) ⟨item, held⟩ _ _

theorem pickUp (h : Mirrored inv s) (host : Host η) (item : Item) {slot : Nat}
    (vacant : inv.slots[slot]? = some none) :
    Mirrored (if (host.stocked.pickUp item slot s).1 then inv.put slot item else inv)
      (host.stocked.pickUp item slot s).2 := by
  simp only [Host.stocked, ← h.slots]
  split
  · exact h.after (.pickUp item slot) vacant _ _
  · exact h.after (.pickUp item slot) vacant _ _

end Mirrored

theorem modify_of_getElem? {α : Type} {l : List α} {i : Nat} {x : α} (h : l[i]? = some x)
    (f : α → α) : l.modify i f = l.set i (f x) := by
  refine List.ext_getElem? fun j => ?_
  rw [List.getElem?_modify, List.getElem?_set]
  by_cases hij : i = j
  · subst hij
    rw [h, if_pos rfl, if_pos (List.getElem?_eq_some_iff.1 h).1]
    simp
  · rw [if_neg hij]
    simp [hij]

/-- Using an item of the stock leaves what is left of the item. -/
theorem Mirrored.useItem {inv : Inventory} {s : Stock η} (h : Mirrored inv s) (host : Host η)
    {slot : Nat} {item : Item} (held : inv.slots[slot]? = some (some item))
    (usable : item.Usable) :
    Mirrored (if (host.stocked.useItem slot s).1 then ⟨inv.slots.set slot item.afterUse⟩ else inv)
      (host.stocked.useItem slot s).2 := by
  simp only [Host.stocked, ← h.slots, modify_of_getElem? held]
  split
  · exact h.after (.use slot) ⟨item, held, usable⟩ _ _
  · exact h.after (.use slot) ⟨item, held, usable⟩ _ _

/-! ## Picking up -/

theorem mirrored_makeRoom {config : Config} {host : Host η} {item : Item}
    {inv inv' : Inventory} {s s' : Stock η} (h : Mirrored inv s)
    (hr : inv.makeRoom config host.stocked item s = some (inv', s')) : Mirrored inv' s' := by
  unfold Inventory.makeRoom at hr
  cases item with
  | pistol p =>
    dsimp only at hr
    split at hr
    · split at hr
      · cases hr
      · rename_i slot value hw
        split at hr
        · cases hr
        · obtain ⟨held, hs, -⟩ := Inventory.worstPistol?_spec hw
          cases hr
          exact h.dropItem host hs
    · cases hr
      exact h
  | health pack =>
    dsimp only at hr
    split at hr
    · cases hr
    · cases hr
      exact h
  | food f =>
    dsimp only at hr
    split at hr
    · cases hr
    · cases hr
      exact h
  | garbage id => cases hr

theorem mirrored_tryPickUp (config : Config) (host : Host η) (item : Item) {inv : Inventory}
    {s : Stock η} (h : Mirrored inv s) :
    Mirrored (inv.tryPickUp config host.stocked item s).inventory
      (inv.tryPickUp config host.stocked item s).world := by
  unfold Inventory.tryPickUp
  split
  · exact h
  · rename_i inv' s' hr
    have h' := mirrored_makeRoom h hr
    split
    · exact h'
    · rename_i slot he
      have picked := h'.pickUp host item (Inventory.firstEmpty?_spec he)
      dsimp only
      split
      · rename_i hg
        rw [if_pos hg] at picked
        exact picked
      · rename_i hg
        rw [if_neg hg] at picked
        exact picked

/-! ## Perceiving -/

namespace Gathering

theorem inventory_remember (b : Beliefs) (item : Item) :
    (b.remember item).inventory = b.inventory := by
  cases item <;> rfl

theorem mirrored_collect {config : Config} {host : Host η} {g : Gathering (Stock η)}
    (h : Mirrored g.beliefs.inventory g.world) (item : Item) :
    Mirrored (g.collect config host.stocked item).beliefs.inventory
      (g.collect config host.stocked item).world := by
  have attempt := mirrored_tryPickUp config host item h
  unfold collect
  dsimp only
  split
  · exact attempt
  · rw [inventory_remember]
    exact attempt

theorem mirrored_inspect {config : Config} {host : Host η} {agent : Agent}
    {g : Gathering (Stock η)} (h : Mirrored g.beliefs.inventory g.world) (item : Item) :
    Mirrored (g.inspect config host.stocked agent item).beliefs.inventory
      (g.inspect config host.stocked agent item).world := by
  unfold inspect
  split
  · exact h
  · split
    · exact h
    · split
      · exact mirrored_collect h item
      · rw [inventory_remember]
        exact h

/-- Items are dealt with one by one, and each keeps the mirror. -/
theorem mirrored_foldl_inspect {config : Config} {host : Host η} {agent : Agent}
    (items : List Item) {g : Gathering (Stock η)} (h : Mirrored g.beliefs.inventory g.world) :
    Mirrored (items.foldl (inspect config host.stocked agent) g).beliefs.inventory
      (items.foldl (inspect config host.stocked agent) g).world := by
  induction items generalizing g with
  | nil => exact h
  | cons item items ih => exact ih (mirrored_inspect h item)

theorem mirrored_perceive (config : Config) (host : Host η) (dt : Float32) (percept : Percept)
    {b : Beliefs} {s : Stock η} (h : Mirrored b.inventory s) :
    Mirrored (perceive config host.stocked dt percept b s).beliefs.inventory
      (perceive config host.stocked dt percept b s).world :=
  mirrored_foldl_inspect percept.items h

end Gathering

/-! ## Acting -/

namespace Beliefs

theorem inventory_reviewTarget (host : Host η) (b : Beliefs) (world : η) :
    (b.reviewTarget host world).1.inventory = b.inventory := by
  unfold reviewTarget
  split
  · rfl
  · dsimp only
    split <;> rfl

theorem mirrored_reviewTarget {host : Host η} {b : Beliefs} {s : Stock η}
    (h : Mirrored b.inventory s) :
    Mirrored (b.reviewTarget host.stocked s).1.inventory (b.reviewTarget host.stocked s).2 := by
  rw [inventory_reviewTarget]
  unfold reviewTarget
  split
  · exact h
  · dsimp only
    split
    · exact h.elsewhere _
    · exact h.elsewhere _

/-- A loaded pistol loses a round, on both sides. -/
theorem map_spendRound {p : Pistol} (h : p.ammo ≠ 0) :
    (some (Item.pistol p)).map spendRound = (Item.pistol p).afterUse := by
  simp only [Option.map_some, spendRound, if_neg h, Item.afterUse]

theorem mirrored_shoot {host : Host η} {inv : Inventory} {slot : Nat} {p : Pistol} {s : Stock η}
    (held : inv.slots[slot]? = some (some (.pistol p))) (loaded : p.ammo ≠ 0)
    (h : Mirrored ⟨inv.slots.set slot (Item.pistol p).afterUse⟩ s) :
    Mirrored (shoot host.stocked slot inv s).1 (shoot host.stocked slot inv s).2 := by
  have spent : inv.modify slot spendRound = ⟨inv.slots.set slot (Item.pistol p).afterUse⟩ := by
    rw [Inventory.modify, modify_of_getElem? held, map_spendRound loaded]
  have left : ((inv.slots.set slot (Item.pistol p).afterUse)[slot]?) =
      some (some (.pistol { p with ammo := p.ammo - 1 })) := by
    rw [List.getElem?_set_self (List.getElem?_eq_some_iff.1 held).1]
    rfl
  unfold shoot
  rw [spent]
  dsimp only
  split
  · exact h.dropItem host left
  · exact h

theorem mirrored_fire {host : Host η} {b : Beliefs} {s : Stock η} (h : Mirrored b.inventory s) :
    Mirrored (b.fire host.stocked s).beliefs.inventory (b.fire host.stocked s).world := by
  unfold fire
  split
  · exact h
  · rename_i slot hs
    obtain ⟨p, held, -, loaded⟩ := Inventory.bestPistol?_spec hs
    have used := h.useItem host held (UInt32.pos_iff_ne_zero.2 loaded)
    dsimp only
    split
    · rename_i hg
      rw [if_pos hg] at used
      exact mirrored_reviewTarget (b := { b with inventory := _ })
        (mirrored_shoot held loaded used)
    · rename_i hg
      rw [if_neg hg] at used
      exact used

theorem mirrored_consume {resource : Resource} {host : Host η} {b : Beliefs} {s : Stock η}
    (h : Mirrored b.inventory s) :
    Mirrored (b.consume resource host.stocked s).beliefs.inventory
      (b.consume resource host.stocked s).world := by
  unfold consume
  dsimp only
  split
  · exact h
  · rename_i slot hs
    obtain ⟨item, held, kind⟩ := Resource.bestSlot?_spec hs
    have gone : item.Usable ∧ item.afterUse = none := by
      cases item with
      | health pack => exact ⟨trivial, rfl⟩
      | food f => exact ⟨trivial, rfl⟩
      | pistol p => cases resource <;> cases kind
      | garbage id => cases resource <;> cases kind
    have used := h.useItem host held gone.1
    rw [gone.2] at used
    split
    · rename_i hg
      rw [if_pos hg] at used
      exact used
    · rename_i hg
      rw [if_neg hg] at used
      exact used

theorem mirrored_act {host : Host η} {b : Beliefs} {s : Stock η} (h : Mirrored b.inventory s) :
    Mirrored (b.act host.stocked s).beliefs.inventory (b.act host.stocked s).world :=
  act_invariant (P := fun b s => Mirrored b.inventory s) (fun _ _ _ _ _ _ h => h)
    (fun _ _ _ h => h.elsewhere _) (fun _ _ h => mirrored_fire h)
    (fun _ _ _ h => mirrored_consume h) h

end Beliefs

/-! ## Sessions -/

theorem mirrored_step {config : Config} {host : Host η} {e : Episode (Stock η)}
    (h : Mirrored e.beliefs.inventory e.world) (o : Occurrence η) :
    Mirrored (e.step config host.stocked o.stocked).beliefs.inventory
      (e.step config host.stocked o.stocked).world := by
  cases o with
  | softGoal target => exact h
  | frame time percept =>
    have seen := Gathering.mirrored_perceive config host time.dt percept h
    rw [← Beliefs.prioritise_inventory] at seen
    exact Beliefs.mirrored_act seen
  | drift change => exact h.elsewhere _

/-- After every session of the standard controller with a host that keeps a stock and grants or
refuses as it likes, the inventory on the board is that stock, and every request was legal. -/
theorem inventory_mirrors_stock (config : Config) (agent : Agent) (memory : μ) (host : Host η)
    (world : η) (os : List (Occurrence η)) :
    ∃ c, Controller.standard config agent memory = .ok c ∧
      let s := Session.run host.stocked
        ⟨c, Stock.empty config.inventoryCapacity world, []⟩ (os.map .stocked)
      ∃ b, s.controller.beliefs = .ok b ∧ b.inventory.slots = s.world.slots ∧
        ∀ r ∈ s.world.requests, r.1.Legal r.2 := by
  have follows := standard_session config agent memory host.stocked
    (Stock.empty config.inventoryCapacity world) (os.map .stocked)
  have kept : ∀ o ∈ os.map Occurrence.stocked, ∀ e : Episode (Stock η),
      Mirrored e.beliefs.inventory e.world →
        Mirrored (e.step config host.stocked o).beliefs.inventory
          (e.step config host.stocked o).world := by
    intro o ho e h
    obtain ⟨o', -, rfl⟩ := List.mem_map.1 ho
    exact mirrored_step h o'
  have mirrored := Episode.run_invariant (P := fun e => Mirrored e.beliefs.inventory e.world)
    (e := Episode.start config agent (Stock.empty config.inventoryCapacity world))
    (Mirrored.empty config.inventoryCapacity world) kept
  refine ⟨_, Controller.standard_eq config agent memory, _, follows.holds.beliefs, ?_⟩
  rw [follows.world]
  exact ⟨mirrored.slots, mirrored.legal⟩

end Forager
