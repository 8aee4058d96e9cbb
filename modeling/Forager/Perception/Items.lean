import Forager.Amend
import Forager.Beliefs
import Forager.Host

/-!
# Remembered and collected items

Each inspected item of a percept is dealt with in turn: garbage is passed over, a useless item is
forgotten, a useful one in reach is picked up if the inventory's limits and the host allow it,
and any other is remembered. Items seen from afar are remembered until they are inspected. A
remembered item within reach that is no longer perceived has been taken by someone else.

A pistol over the limit replaces the weakest one, which is dropped first: it stays dropped even
if the host then refuses the new one.

* `tryPickUp_capacity`: picking up never changes the number of slots.
-/
namespace Forager

/-! ## Picking up -/

namespace Inventory

variable {η : Type}

/-- The inventory in which `item` may take an empty slot, if the limits let it in at all. -/
def makeRoom (config : Config) (host : Host η) (item : Item) (inv : Inventory) (world : η) :
    Option (Inventory × η) :=
  match item with
  | .pistol p =>
    if config.maxPistols ≤ inv.count .pistol then
      match inv.worstPistol? with
      | none => none
      | some (slot, value) =>
        if p.value ≤ value then none else some (inv.clear slot, host.dropItem slot world)
    else some (inv, world)
  | .health _ | .food _ =>
    if config.maxItemsPerKind ≤ inv.count item.kind then none else some (inv, world)
  | .garbage _ => none

/-- What became of an attempt to pick up an item. -/
structure Attempt (η : Type) where
  taken : Bool
  inventory : Inventory
  world : η

/-- Tries to put an item from the ground into the first empty slot. -/
def tryPickUp (config : Config) (host : Host η) (item : Item) (inv : Inventory) (world : η) :
    Attempt η :=
  match inv.makeRoom config host item world with
  | none => ⟨false, inv, world⟩
  | some (inv, world) =>
    match inv.firstEmpty? with
    | none => ⟨false, inv, world⟩
    | some slot =>
      let answer := host.pickUp item slot world
      if answer.1 then ⟨true, inv.put slot item, answer.2⟩ else ⟨false, inv, answer.2⟩

theorem makeRoom_capacity {config : Config} {host : Host η} {item : Item} {inv inv' : Inventory}
    {world world' : η} (h : inv.makeRoom config host item world = some (inv', world')) :
    inv'.capacity = inv.capacity := by
  unfold makeRoom at h
  grind [capacity_clear]

@[simp] theorem tryPickUp_capacity (config : Config) (host : Host η) (item : Item)
    (inv : Inventory) (world : η) :
    (inv.tryPickUp config host item world).inventory.capacity = inv.capacity := by
  unfold tryPickUp
  grind [makeRoom_capacity, capacity_put]

end Inventory

/-! ## Remembering -/

namespace Beliefs

/-- Drops an item from all lists of known items. -/
def forget (b : Beliefs) (id : EntityId) : Beliefs :=
  { b with
    knownItems := b.knownItems.filter (·.id != id)
    knownPistols := b.knownPistols.filter (·.id != id)
    knownHealthPacks := b.knownHealthPacks.filter (·.id != id)
    knownFoodItems := b.knownFoodItems.filter (·.id != id) }

/-- Keeps an inspected item in the list of its kind, in place of what was known of it. -/
def remember (b : Beliefs) : Item → Beliefs
  | .pistol p => { b with knownPistols := amend (·.id == p.id) (fun _ => p) p b.knownPistols }
  | .health h =>
    { b with knownHealthPacks := amend (·.id == h.id) (fun _ => h) h b.knownHealthPacks }
  | .food f => { b with knownFoodItems := amend (·.id == f.id) (fun _ => f) f b.knownFoodItems }
  | .garbage _ => b

/-- Forgets that inspected items were once seen from afar. -/
def dropInspected (b : Beliefs) (inspected : List EntityId) : Beliefs :=
  { b with knownItems := b.knownItems.filter fun i => !inspected.contains i.id }

/-- Keeps items seen from afar and not inspected, each where it was first seen. -/
def spot (b : Beliefs) (inspected : List EntityId) (distant : List DistantItem) : Beliefs :=
  { b with
    knownItems := (distant.filter fun i => !inspected.contains i.id).foldl
      (fun known i => amend (·.id == i.id) id i known) b.knownItems }

/-- Forgets the items within reach of the agent that are not among those seen. -/
def dropVanished (b : Beliefs) (agent : Agent) (seen : List EntityId) : Beliefs :=
  let there (id : EntityId) (position : Vec2) : Bool :=
    !(decide (position.distance agent.position ≤ agent.grabRange) && !seen.contains id)
  { b with
    knownItems := b.knownItems.filter fun i => there i.id i.position
    knownHealthPacks := b.knownHealthPacks.filter fun i => there i.id i.position
    knownFoodItems := b.knownFoodItems.filter fun i => there i.id i.position
    knownPistols := b.knownPistols.filter fun i => there i.id i.position }

end Beliefs

/-! ## A whole percept -/

/-- The state of dealing with items: beliefs, what was picked up so far, and the host's world. -/
structure Gathering (η : Type) where
  beliefs : Beliefs
  pickedUp : List EntityId
  world : η

namespace Gathering

variable {η : Type}

/-- Picks up an item in reach, or remembers it if that fails. -/
def collect (config : Config) (host : Host η) (g : Gathering η) (item : Item) : Gathering η :=
  let attempt := g.beliefs.inventory.tryPickUp config host item g.world
  let b := { g.beliefs with inventory := attempt.inventory }
  if attempt.taken then ⟨b.forget item.id, g.pickedUp ++ [item.id], attempt.world⟩
  else ⟨b.remember item, g.pickedUp, attempt.world⟩

/-- Deals with one inspected item. -/
def inspect (config : Config) (host : Host η) (agent : Agent) (g : Gathering η) (item : Item) :
    Gathering η :=
  match item.position? with
  | none => g
  | some position =>
    if !item.isUseful then { g with beliefs := g.beliefs.forget item.id }
    else if position.distance agent.position ≤ agent.grabRange then g.collect config host item
    else { g with beliefs := g.beliefs.remember item }

/-- Deals with all items of a percept. -/
def ofPercept (config : Config) (host : Host η) (percept : Percept) (b : Beliefs) (world : η) :
    Gathering η :=
  let inspected := percept.items.map (·.id)
  let seen := inspected ++ percept.distantItems.map (·.id)
  let g := percept.items.foldl (inspect config host percept.agent)
    ⟨b.dropInspected inspected, [], world⟩
  { g with
    beliefs := (g.beliefs.spot inspected percept.distantItems).dropVanished percept.agent seen }

end Gathering
end Forager
