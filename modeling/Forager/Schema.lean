import Forager.Blackboard
import Forager.World.Inventory
import Forager.World.Percept

/-!
# The schema

The blackboard of the agent holds 27 entries: what it perceives and remembers, where it is
heading, its limits, and the intents that the tree raises and the controller carries out.
`EntryType` lists the types that entries may have, the schema's and some plain ones for leaves of
one's own.
-/
namespace Forager

/-! ## Entry types -/

inductive EntryType where
  | bool | uint8 | uint32 | int32 | int64 | uint64 | index | float32 | string
  | uint32List | boxedFloat32 | optionalId
  | vec2 | vec2List | steering | agent | inventory
  | distantItems | enemies | healthPacks | foods | pistols | houses
  deriving DecidableEq, Repr

namespace EntryType

@[reducible] def Carrier : EntryType → Type
  | .bool => Bool
  | .uint8 => UInt8
  | .uint32 => UInt32
  | .int32 => Int32
  | .int64 => Int64
  | .uint64 => UInt64
  | .index => Nat
  | .float32 => Float32
  | .string => String
  | .uint32List => List UInt32
  | .boxedFloat32 => Float32
  | .optionalId => Option EntityId
  | .vec2 => Vec2
  | .vec2List => List Vec2
  | .steering => Steering
  | .agent => Agent
  | .inventory => Inventory
  | .distantItems => List DistantItem
  | .enemies => List Enemy
  | .healthPacks => List HealthPack
  | .foods => List Food
  | .pistols => List Pistol
  | .houses => List House

/-- The name of a type in messages. -/
def name : EntryType → String
  | .bool => "bool"
  | .uint8 => "u8"
  | .uint32 => "u32"
  | .int32 => "i32"
  | .int64 => "i64"
  | .uint64 => "u64"
  | .index => "usize"
  | .float32 => "f32"
  | .string => "alloc::string::String"
  | .uint32List => "alloc::vec::Vec<u32>"
  | .boxedFloat32 => "alloc::boxed::Box<f32>"
  | .optionalId => "core::option::Option<u64>"
  | .vec2 => "ai_survivor::math::Vec2"
  | .vec2List => "alloc::vec::Vec<ai_survivor::math::Vec2>"
  | .steering => "ai_survivor::model::SteeringMode"
  | .agent => "ai_survivor::model::AgentInfo"
  | .inventory => "ai_survivor::model::Inventory"
  | .distantItems => "alloc::vec::Vec<ai_survivor::model::UnknownItem>"
  | .enemies => "alloc::vec::Vec<ai_survivor::model::Enemy>"
  | .healthPacks => "alloc::vec::Vec<ai_survivor::model::HealthPack>"
  | .foods => "alloc::vec::Vec<ai_survivor::model::Food>"
  | .pistols => "alloc::vec::Vec<ai_survivor::model::Pistol>"
  | .houses => "alloc::vec::Vec<ai_survivor::model::House>"

end EntryType

@[reducible] instance : EntryTypes EntryType where
  Value := EntryType.Carrier
  name := EntryType.name
  decEq := inferInstance

/-- An entry of the given type and value. -/
def EntryType.entry (t : EntryType) (v : t.Carrier) : Entry EntryType := ⟨t, v⟩

/-! ## Keys -/

namespace Schema

def agentInfo : Key EntryType.agent := ⟨"AgentInfo"⟩

def goal : Key EntryType.vec2 := ⟨"Goal"⟩
def goalSet : Key EntryType.bool := ⟨"GoalSet"⟩
def softGoal : Key EntryType.vec2 := ⟨"SoftGoal"⟩
def softGoalSet : Key EntryType.bool := ⟨"SoftGoalSet"⟩
def nextNavMeshGoal : Key EntryType.vec2 := ⟨"NextNavMeshGoal"⟩
def steering : Key EntryType.steering := ⟨"Steering"⟩

def inventory : Key EntryType.inventory := ⟨"Inventory"⟩
def knownItems : Key EntryType.distantItems := ⟨"KnownItems"⟩
def knownEnemies : Key EntryType.enemies := ⟨"KnownEnemies"⟩
def knownHealthPacks : Key EntryType.healthPacks := ⟨"KnownHealthPacks"⟩
def knownFoodItems : Key EntryType.foods := ⟨"KnownFoodItems"⟩
def knownPistols : Key EntryType.pistols := ⟨"KnownPistols"⟩
def knownHouses : Key EntryType.houses := ⟨"KnownHouses"⟩

def maxHealth : Key EntryType.float32 := ⟨"MaxHealth"⟩
def maxEnergy : Key EntryType.float32 := ⟨"MaxEnergy"⟩
def lowResourceFraction : Key EntryType.float32 := ⟨"LowResourceFraction"⟩
def longestPistolRange : Key EntryType.float32 := ⟨"LongestPistolRange"⟩
def targetEnemy : Key EntryType.optionalId := ⟨"TargetEnemy"⟩

def secondsBetweenHouseRevisits : Key EntryType.float32 := ⟨"SecondsBetweenHouseRevisits"⟩
def insideHouse : Key EntryType.bool := ⟨"InsideHouse"⟩
def nextHouseIndex : Key EntryType.index := ⟨"NextHouseIndex"⟩

def searchPoints : Key EntryType.vec2List := ⟨"SearchPoints"⟩
def searchPointIndex : Key EntryType.index := ⟨"SearchPointIndex"⟩

/-! Intents: leaves raise them, the controller acts on them and lowers them. -/

def shootPistol : Key EntryType.bool := ⟨"ShootPistol"⟩
def useHealthItem : Key EntryType.bool := ⟨"UseHealthItem"⟩
def useFoodItem : Key EntryType.bool := ⟨"UseFoodItem"⟩

end Schema

end Forager
