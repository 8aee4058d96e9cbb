import Forager.World.Vec2

/-!
# Items

What lies on the ground or in the inventory: pistols, health packs, food, and garbage. A pistol
is worth more the more damage, range and ammunition it has, and nothing when one of them is
missing. A `DistantItem` was seen from afar; its kind is not known yet.
-/
namespace Forager

/-- Names enemies, items and houses. -/
abbrev EntityId := UInt64

inductive ItemKind where
  | pistol | health | food | garbage
  deriving DecidableEq, Repr, Inhabited

namespace ItemKind

def all : List ItemKind := [.pistol, .health, .food, .garbage]

/-- The name of the kind in stored data. -/
def name : ItemKind → String
  | .pistol => "pistol"
  | .health => "health"
  | .food => "food"
  | .garbage => "garbage"

/-- The name of the kind in printed tables. -/
def title : ItemKind → String
  | .pistol => "Pistol"
  | .health => "Health"
  | .food => "Food"
  | .garbage => "Garbage"

def ofName? : String → Option ItemKind
  | "pistol" => some .pistol
  | "health" => some .health
  | "food" => some .food
  | "garbage" => some .garbage
  | _ => none

@[simp] theorem ofName?_name (k : ItemKind) : ofName? k.name = some k := by cases k <;> rfl

end ItemKind

structure Pistol where
  id : EntityId
  position : Vec2
  ammo : UInt32
  dps : Float32
  range : Float32
  deriving DecidableEq, Inhabited

namespace Pistol

/-- Preference score. Empty or harmless pistols are worth nothing. -/
def value (p : Pistol) : Float32 :=
  if p.ammo = 0 ∨ p.dps ≤ 0 ∨ p.range ≤ 0 then 0
  else p.dps + p.range * 0.5 + p.ammo.toFloat32 * 2

def equals (a b : Pistol) : Bool :=
  a.id == b.id && a.position.equals b.position && a.ammo == b.ammo && a.dps == b.dps &&
    a.range == b.range

end Pistol

structure HealthPack where
  id : EntityId
  position : Vec2
  healing : UInt32
  deriving DecidableEq, Inhabited

def HealthPack.equals (a b : HealthPack) : Bool :=
  a.id == b.id && a.position.equals b.position && a.healing == b.healing

structure Food where
  id : EntityId
  position : Vec2
  energy : UInt32
  deriving DecidableEq, Inhabited

def Food.equals (a b : Food) : Bool :=
  a.id == b.id && a.position.equals b.position && a.energy == b.energy

/-- An item seen on the ground but not yet close enough to inspect. -/
structure DistantItem where
  id : EntityId
  position : Vec2
  deriving DecidableEq, Inhabited

inductive Item where
  | pistol (p : Pistol)
  | health (h : HealthPack)
  | food (f : Food)
  | garbage (id : EntityId)
  deriving DecidableEq, Inhabited

namespace Item

def id : Item → EntityId
  | .pistol p => p.id
  | .health h => h.id
  | .food f => f.id
  | .garbage id => id

/-- Where the item lies, for items that are worth walking to. -/
def position? : Item → Option Vec2
  | .pistol p => some p.position
  | .health h => some h.position
  | .food f => some f.position
  | .garbage _ => none

/-- Whether the item still does anything when used. -/
def isUseful : Item → Bool
  | .pistol p => 0 < p.value
  | .health h => 0 < h.healing
  | .food f => 0 < f.energy
  | .garbage _ => false

def kind : Item → ItemKind
  | .pistol _ => .pistol
  | .health _ => .health
  | .food _ => .food
  | .garbage _ => .garbage

def pistol? : Item → Option Pistol
  | .pistol p => some p
  | _ => none

def equals : Item → Item → Bool
  | .pistol a, .pistol b => a.equals b
  | .health a, .health b => a.equals b
  | .food a, .food b => a.equals b
  | .garbage a, .garbage b => a == b
  | _, _ => false

end Item
end Forager
