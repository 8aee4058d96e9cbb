import Forager.Library.Basic

/-!
# Library leaves: combat

The target is the first nearest enemy in view. Asking for a shot fails on purpose, so that the
branches after it still have their say in the same walk.
-/
namespace Forager.Library

open Schema

/-- The first nearest enemy in view, with its distance. -/
def nearestEnemyInView? (enemies : List Enemy) (agent : Agent) : Option (Enemy × Float32) :=
  choose (fun best c => best.2 ≤ c.2)
    ((enemies.filter (·.inView)).map fun e => (e, e.position.distance agent.position))

def hasLoadedPistol : Behaviour :=
  .test ((Leaf.named "HasLoadedPistol").reads inventory) do
    return (← look inventory).any fun inv => inv.pistols.any fun s => decide (0 < s.2.ammo)

def hasEnemyInFov : Behaviour :=
  .test (((Leaf.named "HasEnemyInFov").reads agentInfo).reads knownEnemies) do
    let agent ← look agentInfo
    let enemies ← look knownEnemies
    match agent, enemies with
    | some agent, some enemies => return (nearestEnemyInView? enemies agent).isSome
    | _, _ => return false

/-- The nearest enemy in view is closer than the longest pistol reaches. -/
def hasEnemyInRange : Behaviour :=
  .test ((((Leaf.named "HasEnemyInRange").reads agentInfo).reads knownEnemies).reads
      longestPistolRange) do
    let agent ← look agentInfo
    let enemies ← look knownEnemies
    let range ← look longestPistolRange
    match agent, enemies, range with
    | some agent, some enemies, some range =>
      if range ≤ 0 then return false
      else return (nearestEnemyInView? enemies agent).any fun e => decide (e.2 < range)
    | _, _, _ => return false

/-- Heads for the nearest enemy in view and remembers it as the target. -/
def aimAtNearestEnemyInFov : Behaviour :=
  .act ((((((Leaf.named "AimAtNearestEnemyInFov").reads agentInfo).reads knownEnemies).writes
      goal).writes goalSet).writes targetEnemy) do
    let agent ← look agentInfo
    let enemies ← look knownEnemies
    match agent, enemies with
    | some agent, some enemies =>
      match nearestEnemyInView? enemies agent with
      | some (enemy, _) =>
        if ← goalWritable then
          if ← write targetEnemy (some enemy.id) then setGoal enemy.position
          else return .failure
        else return .failure
      | none => return .failure
    | _, _ => return .failure

/-- Asks the controller to shoot after this walk. -/
def shootPistol : Behaviour :=
  .act ((Leaf.named "ShootPistol").writes Schema.shootPistol) do
    let _ ← write Schema.shootPistol true
    return .failure

end Forager.Library
