import Forager.Proofs.StandardWalk

/-!
# Walking twice

What the stages decide depends on nothing that they change, except for the search point: one that is
passed makes the next walk set out for another. Away from the search point a walk therefore adopts a
`Plan` that the beliefs still call for when it has been adopted. The second walk drops the goal if
it has been reached, as it may be, and the plan sets it again.

* `prioritise_eq_adopt`: a walk drops reached goals and adopts the plan.
* `prioritise_prioritise`: two walks in a row come to what one comes to.
* `StandardTree.tick_idempotent`: so do two ticks of the standard tree.
-/
namespace Forager

namespace Beliefs

/-! ## Plans -/

/-- What a walk sets out to do: to head somewhere, in some mode, and to take on an enemy, eat or
heal. What it says nothing of stays as it is. -/
structure Plan where
  goal : Option Vec2 := none
  steering : Option Steering := none
  enemy : Option EntityId := none
  heal : Bool := false
  meal : Bool := false

namespace Plan

/-- To seek a target, if there is one. -/
def seek (target : Option Vec2) : Plan := { goal := target, steering := some .seek }

/-- One plan and then another, which has the last word. -/
def andThen (p q : Plan) : Plan where
  goal := q.goal.or p.goal
  steering := q.steering.or p.steering
  enemy := q.enemy.or p.enemy
  heal := p.heal || q.heal
  meal := p.meal || q.meal

end Plan

/-- The beliefs with a plan made. -/
def adopt (b : Beliefs) (p : Plan) : Beliefs :=
  { b with
    goal := p.goal.getD b.goal
    goalSet := b.goalSet || p.goal.isSome
    steering := p.steering.getD b.steering
    targetEnemy := p.enemy.or b.targetEnemy
    shootPistol := b.shootPistol || p.enemy.isSome
    useHealthItem := b.useHealthItem || p.heal
    useFoodItem := b.useFoodItem || p.meal }

theorem adopt_andThen (b : Beliefs) (p q : Plan) :
    b.adopt (p.andThen q) = (b.adopt p).adopt q := by
  obtain ⟨goal, steering, enemy, heal, meal⟩ := q
  simp only [adopt, Plan.andThen, Bool.or_assoc, Option.or_assoc]
  cases goal <;> cases steering <;> cases enemy <;> simp

/-- The beliefs with reached goals dropped. -/
def dropReached (b : Beliefs) : Beliefs :=
  { b with
    goalSet := b.goalSet && !b.reaches b.goal
    softGoalSet := b.softGoalSet && !b.reaches b.softGoal }

/-- A plan that has been made is made again once reached goals are dropped: its own goal, even if
reached, is set anew, and other goals have been dropped before. -/
theorem adopt_again (b : Beliefs) (p : Plan) :
    (b.dropReached.adopt p).dropReached.adopt p = b.dropReached.adopt p := by
  have dropped : (b.dropReached.adopt p).dropReached =
      { b.dropReached.adopt p with
        goalSet := (b.dropReached.adopt p).goalSet && !b.reaches (p.goal.getD b.goal)
        softGoalSet := b.softGoalSet && !b.reaches b.softGoal && !b.reaches b.softGoal } := rfl
  rw [dropped]
  obtain ⟨goal, steering, enemy, heal, meal⟩ := p
  simp only [adopt, dropReached, Bool.and_assoc, Bool.and_self, Bool.or_assoc, Bool.or_self]
  cases goal <;> cases steering <;> cases enemy <;> simp

/-! ## What the stages plan -/

def mealPlan (b : Beliefs) : Plan := { meal := b.lowEnergy && b.inventory.contains .food }

/-- The enemy to be taken on: the nearest one, if a loaded pistol reaches it. -/
def foe? (b : Beliefs) : Option Enemy :=
  b.nearestEnemy?.filter fun e => b.holdsLoadedPistol && b.inPistolRange e

def shotPlan (b : Beliefs) : Plan :=
  { goal := b.foe?.map (·.position), enemy := b.foe?.map (·.id) }

/-- What the stages come to for an agent that is not at the search point. -/
def plan (b : Beliefs) : Plan :=
  if b.lowHealth && b.inventory.contains .health then { heal := true }
  else if b.lowHealth && !b.knownHealthPacks.isEmpty then
    .seek ((b.closest? (·.position) b.knownHealthPacks).map (·.position))
  else b.mealPlan.andThen <|
    if b.lowEnergy && !b.knownFoodItems.isEmpty then
      .seek ((b.closest? (·.position) b.knownFoodItems).map (·.position))
    else b.shotPlan.andThen <|
      if b.inventory.hasSpace && b.knowsItems then .seek b.collectible?
      else if !b.insideHouse && !b.dueHouses.isEmpty then
        .seek ((b.closest? (·.center) b.dueHouses).map (·.center))
      else if b.searchPointIndex < b.searchPoints.length then
        .seek b.searchPoints[b.searchPointIndex]?
      else { steering := some .wander }

theorem adopt_heal (b : Beliefs) : b.adopt { heal := true } = { b with useHealthItem := true } := by
  simp [adopt]

theorem adopt_wander (b : Beliefs) :
    b.adopt { steering := some .wander } = { b with steering := .wander } := by
  simp [adopt]

theorem adopt_seek (b : Beliefs) (target : Option Vec2) : b.adopt (.seek target) = b.seek target := by
  cases target <;> simp [adopt, Plan.seek, seek, headFor?, headFor]

theorem adopt_mealPlan (b : Beliefs) : b.adopt b.mealPlan = b.requestMeal := by
  unfold adopt mealPlan requestMeal
  cases b.lowEnergy && b.inventory.contains .food <;> simp

theorem adopt_shotPlan (b : Beliefs) : b.adopt b.shotPlan = b.requestShot := by
  unfold adopt shotPlan foe? requestShot
  cases b.nearestEnemy? with
  | none => simp
  | some e =>
    cases reached : b.holdsLoadedPistol && b.inPistolRange e <;>
      simp [Option.filter, reached, headFor]

theorem explore_of_away {b : Beliefs} (away : b.atSearchPoint = false) :
    { b.explore with steering := .seek } = b.seek b.searchPoints[b.searchPointIndex]? := by
  simp only [explore, away, seek, Bool.false_eq_true, if_false]

/-- A walk of an agent that is not at the search point drops reached goals and adopts the plan. -/
theorem prioritise_eq_adopt {b : Beliefs} (away : b.atSearchPoint = false) :
    b.prioritise = b.dropReached.adopt b.plan := by
  have dropped : b.dropReachedGoal.dropReachedSoftGoal = b.dropReached := dropReached_eq b
  -- Neither what is planned nor whether the agent has arrived depends on the goals.
  have plan : b.dropReached.plan = b.plan := rfl
  replace away : b.dropReached.atSearchPoint = false := away
  unfold prioritise
  dsimp only
  rw [dropped, ← plan]
  generalize b.dropReached = b at away ⊢
  have fed : b.requestMeal = b.adopt b.mealPlan := (adopt_mealPlan b).symm
  have armed : (b.adopt b.mealPlan).requestShot = (b.adopt b.mealPlan).adopt b.shotPlan :=
    (adopt_shotPlan (b.adopt b.mealPlan)).symm
  have onward := explore_of_away (b := (b.adopt b.mealPlan).adopt b.shotPlan) away
  rw [fed, armed, onward]
  simp only [← adopt_seek, Beliefs.plan, apply_ite b.adopt, apply_ite (b.adopt b.mealPlan).adopt,
    apply_ite ((b.adopt b.mealPlan).adopt b.shotPlan).adopt, adopt_andThen, adopt_heal,
    adopt_wander]
  rfl

/-- Two walks in a row of an agent that is not at the search point come to what one comes to. -/
theorem prioritise_prioritise {b : Beliefs} (away : b.atSearchPoint = false) :
    b.prioritise.prioritise = b.prioritise := by
  have once := prioritise_eq_adopt away
  have still : (b.dropReached.adopt b.plan).atSearchPoint = false := away
  have same : (b.dropReached.adopt b.plan).plan = b.plan := rfl
  rw [once, prioritise_eq_adopt still, same, adopt_again]

/-- A point strictly within reach is passed, and after the last one the next walk wanders. -/
example : (initial { searchPoints := [⟨1, 0⟩] } {}).prioritise.prioritise ≠
    (initial { searchPoints := [⟨1, 0⟩] } {}).prioritise := by
  decide +kernel

end Beliefs

/-! ## The standard tree -/

namespace StandardTree

variable {μ : Type}

theorem tick_held {bb : Blackboard EntryType} {b : Beliefs}
    (held : Beliefs.ofEntries bb.entries = .ok b) (memory : μ) :
    root.tick ⟨bb, memory⟩ = (.success, b.prioritise.scene bb.entries memory) := by
  obtain ⟨status, scene, -⟩ := walkFrom_held held ⟨false, 0⟩ memory
  rw [Node.tick_eq_walkFrom 0, status, scene]

/-- On every board that holds the schema, whatever the values, with the agent not strictly within
reach of the search point, a second tick of the standard tree returns what the first one did and
leaves the scene as the first one left it. -/
theorem tick_idempotent {bb : Blackboard EntryType} {b : Beliefs}
    (held : Beliefs.ofEntries bb.entries = .ok b)
    (away : ∀ p, b.searchPoints[b.searchPointIndex]? = some p →
      ¬p.distance b.agentInfo.position < b.agentInfo.grabRange) (memory : μ) :
    let once := root.tick ⟨bb, memory⟩
    root.tick once.2 = once := by
  intro once
  have apart : b.atSearchPoint = false := by
    rw [Beliefs.atSearchPoint, Option.any_eq_false]
    exact fun p next => decide_eq_false (away p next)
  have first : once = (.success, b.prioritise.scene bb.entries memory) := tick_held held memory
  have stored : Beliefs.ofEntries (b.prioritise.scene bb.entries memory).board.entries =
      .ok b.prioritise := Beliefs.ofEntries_store b.prioritise bb.entries
  have second := tick_held stored memory
  rw [Beliefs.prioritise_prioritise apart] at second
  rw [first]
  refine second.trans ?_
  rw [Beliefs.scene, Beliefs.scene, Beliefs.store_store]

/-- An agent with its goal, a search point, just within reach: a walk drops the goal and, as the
point has not been passed, sets it again. -/
def onTheVerge : Beliefs :=
  { Beliefs.initial { searchPoints := [⟨2, 0⟩] } {} with goal := ⟨2, 0⟩, goalSet := true }

theorem tick_idempotent_onTheVerge :
    Beliefs.ofEntries (onTheVerge.store ∅) = .ok onTheVerge ∧
      onTheVerge.dropReached.goalSet = false ∧
      root.tick (root.tick (onTheVerge.scene ∅ ())).2 = root.tick (onTheVerge.scene ∅ ()) ∧
      onTheVerge.prioritise = { onTheVerge with steering := .seek } := by
  have held : Beliefs.ofEntries (⟨onTheVerge.store ∅, none⟩ : Blackboard EntryType).entries =
      .ok onTheVerge := Beliefs.ofEntries_store onTheVerge ∅
  have away : ∀ p, onTheVerge.searchPoints[onTheVerge.searchPointIndex]? = some p →
      ¬p.distance onTheVerge.agentInfo.position < onTheVerge.agentInfo.grabRange := by
    rintro p ⟨⟩
    decide +kernel
  exact ⟨held, by decide +kernel, tick_idempotent held away (), by decide +kernel⟩

end StandardTree
end Forager
