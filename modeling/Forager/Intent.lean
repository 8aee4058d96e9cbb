import Forager.Perception
import Forager.World.Need

/-!
# Intents

After a walk the controller carries out what the leaves asked for. It steers the agent towards its
goal, or its soft goal without one; then it fires, heals and eats, each only if the walk raised the
intent. An intent is lowered before it is carried out, whatever becomes of it.

* `carryOut_of_lowered`: an intent that was not raised does nothing.
-/
namespace Forager

variable {η : Type}

namespace Beliefs

/-! ## Steering -/

/-- Where the agent is heading: its goal, or else its soft goal. -/
def destination? (b : Beliefs) : Option Vec2 :=
  if b.goalSet then some b.goal else if b.softGoalSet then some b.softGoal else none

/-- The way to the destination: the next point of the navigation mesh, where there is one. -/
structure Course (η : Type) where
  next : Option Vec2
  beliefs : Beliefs
  world : η

def steer (host : Host η) (b : Beliefs) (world : η) : Course η :=
  match b.destination? with
  | none => ⟨none, b, world⟩
  | some goal =>
    let answer := host.closestPathPoint goal world
    ⟨some answer.1, { b with nextNavMeshGoal := answer.1 }, answer.2⟩

/-! ## Deeds -/

/-- What became of an intent: whether it was done, and what it changed. -/
structure Deed (η : Type) where
  done : Bool
  beliefs : Beliefs
  world : η

/-- Does something if it was asked for. -/
def carryOut (raised : Bool) (deed : Beliefs → η → Deed η) (b : Beliefs) (world : η) : Deed η :=
  if raised then deed b world else ⟨false, b, world⟩

@[simp] theorem carryOut_of_lowered (deed : Beliefs → η → Deed η) (b : Beliefs) (world : η) :
    carryOut false deed b world = ⟨false, b, world⟩ := rfl

/-- An item after one shot. -/
def spendRound : Item → Item
  | .pistol p => .pistol { p with ammo := if p.ammo = 0 then 0 else p.ammo - 1 }
  | item => item

/-- Whether a slot holds a pistol without ammunition. -/
def isSpent (inv : Inventory) (slot : Nat) : Bool :=
  match inv.get? slot with
  | some (.pistol p) => p.ammo == 0
  | _ => false

/-- The inventory after a shot from a slot. A pistol shot empty is dropped. -/
def shoot (host : Host η) (slot : Nat) (inv : Inventory) (world : η) : Inventory × η :=
  let inv := inv.modify slot spendRound
  if isSpent inv slot then (inv.clear slot, host.dropItem slot world) else (inv, world)

/-- Forgets the target if it is no longer in view. -/
def reviewTarget (host : Host η) (b : Beliefs) (world : η) : Beliefs × η :=
  match b.targetEnemy with
  | none => (b, world)
  | some id =>
    let answer := host.enemyVisible id world
    if answer.1 then (b, answer.2)
    else
      ({ b with knownEnemies := b.knownEnemies.filter (·.id != id), targetEnemy := none }, answer.2)

/-- Fires the best pistol. -/
def fire (host : Host η) (b : Beliefs) (world : η) : Deed η :=
  match b.inventory.bestPistol? with
  | none => ⟨false, b, world⟩
  | some slot =>
    let answer := host.useItem slot world
    if answer.1 then
      let shot := shoot host slot b.inventory answer.2
      let review := reviewTarget host { b with inventory := shot.1 } shot.2
      ⟨true, review.1.measureRange, review.2⟩
    else ⟨false, b, answer.2⟩

/-- What the agent believes the most of a resource is. -/
def maximum (b : Beliefs) : Resource → Float32
  | .health => b.maxHealth
  | .energy => b.maxEnergy

/-- Uses up the item that fills a resource most without overshooting. -/
def consume (resource : Resource) (host : Host η) (b : Beliefs) (world : η) : Deed η :=
  let needed := pointsMissing (b.maximum resource) (resource.level b.agentInfo)
  match resource.bestSlot? b.inventory needed with
  | none => ⟨false, b, world⟩
  | some slot =>
    let answer := host.useItem slot world
    if answer.1 then ⟨true, { b with inventory := b.inventory.clear slot }, answer.2⟩
    else ⟨false, b, answer.2⟩

/-! ## All intents of a frame -/

/-- What was done in a frame after its walk. -/
structure Conduct (η : Type) where
  goal : Option Vec2
  navGoal : Option Vec2
  fired : Bool
  used : List ItemKind
  beliefs : Beliefs
  world : η

def act (host : Host η) (b : Beliefs) (world : η) : Conduct η :=
  let course := b.steer host world
  let b₁ := course.beliefs
  let shot := carryOut b₁.shootPistol (fire host) { b₁ with shootPistol := false } course.world
  let b₂ := shot.beliefs
  let heal := carryOut b₂.useHealthItem (consume .health host) { b₂ with useHealthItem := false }
    shot.world
  let b₃ := heal.beliefs
  let meal := carryOut b₃.useFoodItem (consume .energy host) { b₃ with useFoodItem := false }
    heal.world
  { goal := b.destination?
    navGoal := course.next
    fired := shot.done
    used := (if heal.done then [.health] else []) ++ (if meal.done then [.food] else [])
    beliefs := meal.beliefs
    world := meal.world }

end Beliefs
end Forager
