import Forager.Config
import Forager.Document.Decode
import Forager.Schema

/-!
# Stored form of the world

Each structure is a record of its fields; an item also says its kind. Kinds and modes are texts.
Fields that have a default may be left out when reading; all are written.

An item is settled before it is read, because its kind may come last; what it holds is read loosely.
-/
namespace Forager

open Decode

namespace Vec2

def encode (form : Form) (v : Vec2) : Document :=
  .record [("x", form.write v.x), ("y", form.write v.y)]

def decode (form : Form) (d : Document) : Option Vec2 := do
  let fs ← fieldsOf form ["x", "y"] d
  return { x := ← required fs "x" (single form), y := ← required fs "y" (single form) }

end Vec2

namespace Agent

def encode (form : Form) (a : Agent) : Document :=
  .record
    [("position", a.position.encode form), ("health", form.write a.health),
     ("energy", form.write a.energy), ("stamina", form.write a.stamina),
     ("grab_range", form.write a.grabRange), ("is_in_house", .bool a.isInHouse)]

def decode (form : Form) (d : Document) : Option Agent := do
  let fs ← fields d
  let usual : Agent := {}
  return {
    position := ← withDefault fs "position" usual.position (Vec2.decode form)
    health := ← withDefault fs "health" usual.health (single form)
    energy := ← withDefault fs "energy" usual.energy (single form)
    stamina := ← withDefault fs "stamina" usual.stamina (single form)
    grabRange := ← withDefault fs "grab_range" usual.grabRange (single form)
    isInHouse := ← withDefault fs "is_in_house" usual.isInHouse bool }

end Agent

/-! ## Items -/

namespace ItemKind

def encode (k : ItemKind) : Document := .text k.name

def decode (d : Document) : Option ItemKind := (Decode.text d).bind ofName?

end ItemKind

namespace Pistol

def encodeFields (form : Form) (p : Pistol) : List (String × Document) :=
  [("id", .nat p.id.toNat), ("position", p.position.encode form), ("ammo", .nat p.ammo.toNat),
   ("dps", form.write p.dps), ("range", form.write p.range)]

def decodeFields (form : Form) (fs : List (String × Document)) : Option Pistol := do
  return {
    id := ← required fs "id" uint64
    position := ← withDefault fs "position" .zero (Vec2.decode form)
    ammo := ← required fs "ammo" uint32
    dps := ← required fs "dps" (single form)
    range := ← required fs "range" (single form) }

def encode (form : Form) (p : Pistol) : Document := .record (p.encodeFields form)

def decode (form : Form) (d : Document) : Option Pistol :=
  (fieldsOf form ["id", "position", "ammo", "dps", "range"] d).bind (decodeFields form)

end Pistol

namespace HealthPack

def encodeFields (form : Form) (h : HealthPack) : List (String × Document) :=
  [("id", .nat h.id.toNat), ("position", h.position.encode form), ("healing", .nat h.healing.toNat)]

def decodeFields (form : Form) (fs : List (String × Document)) : Option HealthPack := do
  return {
    id := ← required fs "id" uint64
    position := ← withDefault fs "position" .zero (Vec2.decode form)
    healing := ← required fs "healing" uint32 }

def encode (form : Form) (h : HealthPack) : Document := .record (h.encodeFields form)

def decode (form : Form) (d : Document) : Option HealthPack :=
  (fieldsOf form ["id", "position", "healing"] d).bind (decodeFields form)

end HealthPack

namespace Food

def encodeFields (form : Form) (f : Food) : List (String × Document) :=
  [("id", .nat f.id.toNat), ("position", f.position.encode form), ("energy", .nat f.energy.toNat)]

def decodeFields (form : Form) (fs : List (String × Document)) : Option Food := do
  return {
    id := ← required fs "id" uint64
    position := ← withDefault fs "position" .zero (Vec2.decode form)
    energy := ← required fs "energy" uint32 }

def encode (form : Form) (f : Food) : Document := .record (f.encodeFields form)

def decode (form : Form) (d : Document) : Option Food :=
  (fieldsOf form ["id", "position", "energy"] d).bind (decodeFields form)

end Food

namespace DistantItem

def encode (form : Form) (i : DistantItem) : Document :=
  .record [("id", .nat i.id.toNat), ("position", i.position.encode form)]

def decode (form : Form) (d : Document) : Option DistantItem := do
  let fs ← fields d
  return {
    id := ← required fs "id" uint64
    position := ← required fs "position" (Vec2.decode form) }

end DistantItem

namespace Item

def encode (form : Form) (i : Item) : Document :=
  .record (("kind", i.kind.encode) ::
    match i with
    | .pistol p => p.encodeFields form
    | .health h => h.encodeFields form
    | .food f => f.encodeFields form
    | .garbage id => [("id", .nat id.toNat)])

/-- The item of a known kind with the fields of `d`. -/
def decodeAs (form : Form) (d : Document) : ItemKind → Option Item
  | .pistol => (Pistol.decode form d).map .pistol
  | .health => (HealthPack.decode form d).map .health
  | .food => (Food.decode form d).map .food
  | .garbage => do
    let fs ← fieldsOf form ["id"] d
    return .garbage (← required fs "id" uint64)

/-- Reads an item; as a list, it has its kind in front of the values of its fields. -/
def decode (form : Form) (d : Document) : Option Item := do
  match ← d.settled form.itemDepth with
  | .list (kind :: values) => decodeAs form.inItem (.list values) (← ItemKind.decode kind)
  | d =>
    let fs ← looseFields [] d
    decodeAs form.inItem d (← required fs "kind" ItemKind.decode)

end Item

namespace Inventory

def encodeSlot (form : Form) (slot : Option Item) : Document :=
  .option (slot.map (·.encode form))

def encode (form : Form) (inv : Inventory) : Document :=
  .record [("slots", .list (inv.slots.map (encodeSlot form)))]

def decode (form : Form) (d : Document) : Option Inventory := do
  let fs ← fields d
  return { slots := ← required fs "slots" (list (optional (Item.decode form))) }

end Inventory

/-! ## Enemies and houses -/

namespace Enemy

def encode (form : Form) (e : Enemy) : Document :=
  .record
    [("id", .nat e.id.toNat), ("position", e.position.encode form),
     ("last_position", e.lastPosition.encode form),
     ("predicted_position", e.predictedPosition.encode form),
     ("velocity", e.velocity.encode form), ("health", form.write e.health),
     ("in_fov", .bool e.inView)]

def decode (form : Form) (d : Document) : Option Enemy := do
  let fs ← fields d
  return {
    id := ← required fs "id" uint64
    position := ← required fs "position" (Vec2.decode form)
    lastPosition := ← withDefault fs "last_position" .zero (Vec2.decode form)
    predictedPosition := ← withDefault fs "predicted_position" .zero (Vec2.decode form)
    velocity := ← withDefault fs "velocity" .zero (Vec2.decode form)
    health := ← withDefault fs "health" 0 (single form)
    inView := ← withDefault fs "in_fov" true bool }

end Enemy

namespace House

def encode (form : Form) (h : House) : Document :=
  .record
    [("id", .nat h.id.toNat), ("center", h.center.encode form), ("size", h.size.encode form),
     ("seconds_since_last_visit", form.write h.secondsSinceLastVisit)]

def decode (form : Form) (d : Document) : Option House := do
  let fs ← fields d
  return {
    id := ← required fs "id" uint64
    center := ← required fs "center" (Vec2.decode form)
    size := ← required fs "size" (Vec2.decode form)
    secondsSinceLastVisit := ← withDefault fs "seconds_since_last_visit" 0 (single form) }

end House

namespace Steering

def encode (s : Steering) : Document := .text s.name

def decode (d : Document) : Option Steering := (Decode.text d).bind ofName?

end Steering

/-! ## Percepts and configurations -/

namespace Percept

def encode (form : Form) (p : Percept) : Document :=
  .record
    [("agent", p.agent.encode form), ("enemies", .list (p.enemies.map (·.encode form))),
     ("items", .list (p.items.map (·.encode form))),
     ("unknown_items", .list (p.distantItems.map (·.encode form))),
     ("houses", .list (p.houses.map (·.encode form)))]

def decode (form : Form) (d : Document) : Option Percept := do
  let fs ← fields d
  return {
    agent := ← withDefault fs "agent" {} (Agent.decode form)
    enemies := ← withDefault fs "enemies" [] (list (Enemy.decode form))
    items := ← withDefault fs "items" [] (list (Item.decode form))
    distantItems := ← withDefault fs "unknown_items" [] (list (DistantItem.decode form))
    houses := ← withDefault fs "houses" [] (list (House.decode form)) }

end Percept

namespace Config

def encode (form : Form) (c : Config) : Document :=
  .record
    [("inventory_capacity", .nat c.inventoryCapacity),
     ("max_pistols_in_inventory", .nat c.maxPistols),
     ("max_items_per_kind", .nat c.maxItemsPerKind),
     ("seconds_between_house_revisits", form.write c.secondsBetweenHouseRevisits),
     ("low_resource_fraction", form.write c.lowResourceFraction),
     ("max_stamina", form.write c.maxStamina),
     ("search_points", .list (c.searchPoints.map (·.encode form)))]

def decode (form : Form) (d : Document) : Option Config := do
  let fs ← fields d
  let usual : Config := {}
  return {
    inventoryCapacity := ← withDefault fs "inventory_capacity" usual.inventoryCapacity index
    maxPistols := ← withDefault fs "max_pistols_in_inventory" usual.maxPistols index
    maxItemsPerKind := ← withDefault fs "max_items_per_kind" usual.maxItemsPerKind index
    secondsBetweenHouseRevisits :=
      ← withDefault fs "seconds_between_house_revisits" usual.secondsBetweenHouseRevisits
        (single form)
    lowResourceFraction :=
      ← withDefault fs "low_resource_fraction" usual.lowResourceFraction (single form)
    maxStamina := ← withDefault fs "max_stamina" usual.maxStamina (single form)
    searchPoints := ← withDefault fs "search_points" [] (list (Vec2.decode form)) }

end Config

/-! ## Entries -/

namespace EntryType

/-- The stored form of an entry's value. -/
def encode (form : Form) : (t : EntryType) → t.Carrier → Document
  | .bool, b => .bool b
  | .uint8, n => .nat n.toNat
  | .uint32, n => .nat n.toNat
  | .int32, n => .number (.integer n.toInt)
  | .int64, n => .number (.integer n.toInt)
  | .uint64, n => .nat n.toNat
  | .index, n => .nat n
  | .float32, x => form.write x
  | .string, s => .text s
  | .uint32List, ns => .list (ns.map fun n => .nat n.toNat)
  | .boxedFloat32, x => form.write x
  | .optionalId, id => .option (id.map fun n => .nat n.toNat)
  | .vec2, v => v.encode form
  | .vec2List, vs => .list (vs.map (·.encode form))
  | .steering, s => s.encode
  | .agent, a => a.encode form
  | .inventory, inv => inv.encode form
  | .distantItems, is => .list (is.map (·.encode form))
  | .enemies, es => .list (es.map (·.encode form))
  | .healthPacks, hs => .list (hs.map (·.encode form))
  | .foods, fs => .list (fs.map (·.encode form))
  | .pistols, ps => .list (ps.map (·.encode form))
  | .houses, hs => .list (hs.map (·.encode form))

def decode (form : Form) : (t : EntryType) → Document → Option t.Carrier
  | .bool => Decode.bool
  | .uint8 => Decode.uint8
  | .uint32 => Decode.uint32
  | .int32 => Decode.int32
  | .int64 => Decode.int64
  | .uint64 => Decode.uint64
  | .index => Decode.index
  | .float32 => Decode.single form
  | .string => Decode.text
  | .uint32List => Decode.list Decode.uint32
  | .boxedFloat32 => Decode.single form
  | .optionalId => Decode.optional Decode.uint64
  | .vec2 => Vec2.decode form
  | .vec2List => Decode.list (Vec2.decode form)
  | .steering => Steering.decode
  | .agent => Agent.decode form
  | .inventory => Inventory.decode form
  | .distantItems => Decode.list (DistantItem.decode form)
  | .enemies => Decode.list (Enemy.decode form)
  | .healthPacks => Decode.list (HealthPack.decode form)
  | .foods => Decode.list (Food.decode form)
  | .pistols => Decode.list (Pistol.decode form)
  | .houses => Decode.list (House.decode form)

end EntryType
end Forager
