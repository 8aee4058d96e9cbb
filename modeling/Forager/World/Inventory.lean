import Forager.Choice
import Forager.World.Item

/-!
# Inventories

A fixed number of slots, each empty or holding one item. Slots are numbered from zero; an
operation on a number that is no slot changes nothing.

Among several candidates the lowest slot wins: the best pistol is the first of greatest positive
value, the worst the first of least value, the best consumable the first of the largest amount
that does not exceed the need.
-/
namespace Forager

structure Inventory where
  slots : List (Option Item)
  deriving DecidableEq, Inhabited

namespace Inventory

def withCapacity (capacity : Nat) : Inventory := ⟨List.replicate capacity none⟩

def capacity (inv : Inventory) : Nat := inv.slots.length

/-- The items with their slots, in slot order. -/
def items (inv : Inventory) : List (Nat × Item) :=
  inv.slots.zipIdx.filterMap fun s => s.1.map (s.2, ·)

def hasSpace (inv : Inventory) : Bool := inv.slots.any (·.isNone)

def contains (inv : Inventory) (kind : ItemKind) : Bool := inv.items.any (·.2.kind == kind)

def containsId (inv : Inventory) (id : EntityId) : Bool := inv.items.any (·.2.id == id)

def count (inv : Inventory) (kind : ItemKind) : Nat := inv.items.countP (·.2.kind == kind)

def firstEmpty? (inv : Inventory) : Option Nat := inv.slots.findIdx? (·.isNone)

def get? (inv : Inventory) (slot : Nat) : Option Item := (inv.slots[slot]?).join

/-! ## Changes -/

/-- Puts an item into a slot, whatever was there. -/
def put (inv : Inventory) (slot : Nat) (item : Item) : Inventory := ⟨inv.slots.set slot (some item)⟩

/-- Empties a slot. -/
def clear (inv : Inventory) (slot : Nat) : Inventory := ⟨inv.slots.set slot none⟩

/-- Changes the item of a slot in place; an empty slot stays empty. -/
def modify (inv : Inventory) (slot : Nat) (f : Item → Item) : Inventory :=
  ⟨inv.slots.modify slot (·.map f)⟩

/-- Puts an item into the first empty slot, if there is one. -/
def insert? (inv : Inventory) (item : Item) : Option (Nat × Inventory) :=
  inv.firstEmpty?.map fun slot => (slot, inv.put slot item)

/-! ## Choices -/

def pistols (inv : Inventory) : List (Nat × Pistol) :=
  inv.items.filterMap fun s => s.2.pistol?.map (s.1, ·)

/-- The slot of the pistol of greatest value, passing over worthless ones. -/
def bestPistol? (inv : Inventory) : Option Nat :=
  let valued := (inv.pistols.map fun s => (s.1, s.2.value)).filter fun s => decide (0 < s.2)
  (choose (fun best s => s.2 ≤ best.2) valued).map (·.1)

/-- The slot and the value of the pistol of least value. -/
def worstPistol? (inv : Inventory) : Option (Nat × Float32) :=
  choose (fun worst s => worst.2 ≤ s.2) (inv.pistols.map fun s => (s.1, s.2.value))

/-- The range of the longest-reaching pistol with ammunition, zero without one. -/
def longestPistolRange (inv : Inventory) : Float32 :=
  ((inv.pistols.filter fun s => decide (0 < s.2.ammo)).map (·.2.range)).foldl Single.larger 0

/-- The slot of the largest amount that is positive and at most `needed`. -/
def bestConsumable? (inv : Inventory) (amount : Item → Option UInt32) (needed : UInt32) :
    Option Nat :=
  let fitting := (inv.items.filterMap fun s => (amount s.2).map (s.1, ·)).filter
    fun s => decide (0 < s.2 ∧ s.2 ≤ needed)
  (choose (fun best s => s.2 ≤ best.2) fitting).map (·.1)

/-- The slot of the strongest health pack that does not overshoot. -/
def bestHealthPack? (inv : Inventory) (needed : UInt32) : Option Nat :=
  inv.bestConsumable? (fun | .health h => some h.healing | _ => none) needed

/-- The slot of the most filling food that does not overshoot. -/
def bestFood? (inv : Inventory) (needed : UInt32) : Option Nat :=
  inv.bestConsumable? (fun | .food f => some f.energy | _ => none) needed

def slotEquals : Option Item → Option Item → Bool
  | none, none => true
  | some a, some b => a.equals b
  | _, _ => false

/-- Equality of the items as numbers; an item with a NaN in it equals nothing. -/
def equals (a b : Inventory) : Bool :=
  a.slots.length == b.slots.length && (a.slots.zip b.slots).all fun s => slotEquals s.1 s.2

/-! ## Lemmas -/

@[simp] theorem capacity_put (inv : Inventory) (slot : Nat) (item : Item) :
    (inv.put slot item).capacity = inv.capacity := by simp [capacity, put]

@[simp] theorem capacity_clear (inv : Inventory) (slot : Nat) :
    (inv.clear slot).capacity = inv.capacity := by simp [capacity, clear]

@[simp] theorem capacity_modify (inv : Inventory) (slot : Nat) (f : Item → Item) :
    (inv.modify slot f).capacity = inv.capacity := by simp [capacity, modify]

@[simp] theorem capacity_withCapacity (n : Nat) : (withCapacity n).capacity = n := by
  simp [capacity, withCapacity]

theorem hasSpace_eq_isSome_firstEmpty? (inv : Inventory) :
    inv.hasSpace = inv.firstEmpty?.isSome := by
  simp [hasSpace, firstEmpty?, List.findIdx?_isSome]

end Inventory
end Forager
