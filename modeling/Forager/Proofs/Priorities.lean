import Forager.Proofs.HeldBeliefs

/-!
# Priorities

What the agent decides to do, as a procedure on beliefs that knows nothing of trees and leaves. A
stage that *stops* leaves everything below it undone; the others have their say and go on.

1. Drop a reached goal and a reached soft goal.
2. Low on health: ask for a heal and stop, or else head for the nearest known pack and stop.
3. Low on energy: ask for a meal and go on, then head for the nearest known food and stop.
4. An enemy in reach of a loaded pistol: head for it, ask for a shot, and go on.
5. A free slot and an item known: head for it and stop.
6. Out of doors and a house due for a visit: head for the closest one and stop.
7. A search point left: head for it, or for the one after it if it has been reached, and stop.
8. Wander.

* `dropReached_eq`: which goals stay.
* `unplanned_prioritise`: what the stages leave alone.
* `undirected_requestShot` and the like: what the stages that go on leave alone.
* `eq_of_undirected`: what is the same after such stages.
-/
namespace Forager.Beliefs

variable {α : Type}

/-! ## What the stages look at -/

/-- Whether a point is within reach of the agent. -/
def reaches (b : Beliefs) (p : Vec2) : Bool :=
  decide (p.distance b.agentInfo.position ≤ b.agentInfo.grabRange)

/-- The first element closest to the agent. -/
def closest? (b : Beliefs) (position : α → Vec2) (l : List α) : Option α :=
  choose (fun best c => decide ((position best).distance b.agentInfo.position ≤
    (position c).distance b.agentInfo.position)) l

def lowHealth (b : Beliefs) : Bool :=
  isLow b.maxHealth b.agentInfo.health b.lowResourceFraction

def lowEnergy (b : Beliefs) : Bool :=
  isLow b.maxEnergy b.agentInfo.energy b.lowResourceFraction

def holdsLoadedPistol (b : Beliefs) : Bool :=
  b.inventory.pistols.any fun s => decide (0 < s.2.ammo)

/-- The first closest of the enemies in view. -/
def nearestEnemy? (b : Beliefs) : Option Enemy :=
  b.closest? (·.position) (b.knownEnemies.filter (·.inView))

/-- Whether an enemy is closer than the longest pistol reaches. -/
def inPistolRange (b : Beliefs) (e : Enemy) : Bool :=
  decide (0 < b.longestPistolRange) &&
    decide (e.position.distance b.agentInfo.position < b.longestPistolRange)

def knowsItems (b : Beliefs) : Bool :=
  !(b.knownItems.isEmpty && b.knownHealthPacks.isEmpty && b.knownFoodItems.isEmpty &&
    b.knownPistols.isEmpty)

/-- Where the next item to collect lies. A pack comes first if it does not overshoot or if neither
food nor a pistol is known; then food, if it fills what is missing or if no pistol is known; then
a pistol; then an item not yet inspected. Each time the closest of its kind is meant. -/
def collectible? (b : Beliefs) : Option Vec2 :=
  let pack := (b.closest? (·.position) b.knownHealthPacks).filter fun h =>
    decide (h.healing ≤ pointsMissing b.maxHealth b.agentInfo.health) ||
      (b.knownFoodItems.isEmpty && b.knownPistols.isEmpty)
  let meal := (b.closest? (·.position) b.knownFoodItems).filter fun f =>
    decide (pointsMissing b.maxEnergy b.agentInfo.energy ≤ f.energy) || b.knownPistols.isEmpty
  (pack.map (·.position)).or ((meal.map (·.position)).or
    (((b.closest? (·.position) b.knownPistols).map (·.position)).or
      ((b.closest? (·.position) b.knownItems).map (·.position))))

/-- The known houses whose revisit interval has passed. -/
def dueHouses (b : Beliefs) : List House :=
  b.knownHouses.filter (·.isDue b.secondsBetweenHouseRevisits)

/-- Whether the agent is strictly within grab range of the next search point. -/
def atSearchPoint (b : Beliefs) : Bool :=
  b.searchPoints[b.searchPointIndex]?.any fun p =>
    decide (p.distance b.agentInfo.position < b.agentInfo.grabRange)

/-! ## The stages -/

/-- Heads for a target, if there is one. -/
def headFor? (b : Beliefs) : Option Vec2 → Beliefs
  | some target => b.headFor target
  | none => b

/-- Heads for a target, if there is one, and seeks it. -/
def seek (b : Beliefs) (target : Option Vec2) : Beliefs :=
  { b.headFor? target with steering := .seek }

def dropReachedGoal (b : Beliefs) : Beliefs :=
  if b.goalSet && b.reaches b.goal then { b with goalSet := false } else b

def dropReachedSoftGoal (b : Beliefs) : Beliefs :=
  if b.softGoalSet && b.reaches b.softGoal then { b with softGoalSet := false } else b

/-- Asks for a meal when low on energy with food at hand. -/
def requestMeal (b : Beliefs) : Beliefs :=
  if b.lowEnergy && b.inventory.contains .food then { b with useFoodItem := true } else b

/-- Takes the nearest enemy on, if a loaded pistol reaches it. -/
def requestShot (b : Beliefs) : Beliefs :=
  match b.nearestEnemy? with
  | some e =>
    if b.holdsLoadedPistol && b.inPistolRange e then
      { b.headFor e.position with targetEnemy := some e.id, shootPistol := true }
    else b
  | none => b

/-- Heads for the next search point; one that has been reached is passed. -/
def explore (b : Beliefs) : Beliefs :=
  if b.atSearchPoint then
    { b with searchPointIndex := b.searchPointIndex + 1 }.headFor?
      b.searchPoints[b.searchPointIndex + 1]?
  else b.headFor? b.searchPoints[b.searchPointIndex]?

/-- All stages in order. -/
def prioritise (b : Beliefs) : Beliefs :=
  let b := b.dropReachedGoal.dropReachedSoftGoal
  if b.lowHealth && b.inventory.contains .health then { b with useHealthItem := true }
  else if b.lowHealth && !b.knownHealthPacks.isEmpty then
    b.seek ((b.closest? (·.position) b.knownHealthPacks).map (·.position))
  else
    let b := b.requestMeal
    if b.lowEnergy && !b.knownFoodItems.isEmpty then
      b.seek ((b.closest? (·.position) b.knownFoodItems).map (·.position))
    else
      let b := b.requestShot
      if b.inventory.hasSpace && b.knowsItems then b.seek b.collectible?
      else if !b.insideHouse && !b.dueHouses.isEmpty then
        b.seek ((b.closest? (·.center) b.dueHouses).map (·.center))
      else if b.searchPointIndex < b.searchPoints.length then
        { b.explore with steering := .seek }
      else { b with steering := .wander }

/-! ## Targets -/

theorem closest?_eq_none_iff {b : Beliefs} {position : α → Vec2} {l : List α} :
    b.closest? position l = none ↔ l = [] := choose_eq_none_iff

theorem closest?_isNone (b : Beliefs) (position : α → Vec2) (l : List α) :
    (b.closest? position l).isNone = l.isEmpty := by
  rw [Bool.eq_iff_iff, Option.isNone_iff_eq_none, closest?_eq_none_iff, List.isEmpty_iff]

/-! ## Dropping goals -/

theorem dropReachedGoal_eq (b : Beliefs) :
    b.dropReachedGoal = { b with goalSet := b.goalSet && !b.reaches b.goal } := by
  unfold dropReachedGoal
  split
  · rename_i reached
    have lowered : (b.goalSet && !b.reaches b.goal) = false := by simp_all
    rw [lowered]
  · rename_i away
    have kept : (b.goalSet && !b.reaches b.goal) = b.goalSet := by simpa using away
    rw [kept]

theorem dropReachedSoftGoal_eq (b : Beliefs) :
    b.dropReachedSoftGoal = { b with softGoalSet := b.softGoalSet && !b.reaches b.softGoal } := by
  unfold dropReachedSoftGoal
  split
  · rename_i reached
    have lowered : (b.softGoalSet && !b.reaches b.softGoal) = false := by simp_all
    rw [lowered]
  · rename_i away
    have kept : (b.softGoalSet && !b.reaches b.softGoal) = b.softGoalSet := by simpa using away
    rw [kept]

/-- A goal stays exactly if it has not been reached. -/
theorem dropReached_eq (b : Beliefs) :
    b.dropReachedGoal.dropReachedSoftGoal =
      { b with
        goalSet := b.goalSet && !b.reaches b.goal
        softGoalSet := b.softGoalSet && !b.reaches b.softGoal } := by
  rw [dropReachedSoftGoal_eq, dropReachedGoal_eq]
  rfl

/-! ## What the stages leave alone -/

/-- The beliefs without anything that the stages decide on. -/
def unplanned (b : Beliefs) : Beliefs :=
  { b with
    goal := .zero
    goalSet := false
    softGoalSet := false
    steering := .wander
    targetEnemy := none
    searchPointIndex := 0
    shootPistol := false
    useHealthItem := false
    useFoodItem := false }

@[simp] theorem unplanned_dropReachedGoal (b : Beliefs) :
    b.dropReachedGoal.unplanned = b.unplanned := by
  unfold dropReachedGoal
  split <;> rfl

@[simp] theorem unplanned_dropReachedSoftGoal (b : Beliefs) :
    b.dropReachedSoftGoal.unplanned = b.unplanned := by
  unfold dropReachedSoftGoal
  split <;> rfl

@[simp] theorem unplanned_headFor? (b : Beliefs) (target : Option Vec2) :
    (b.headFor? target).unplanned = b.unplanned := by cases target <;> rfl

@[simp] theorem unplanned_seek (b : Beliefs) (target : Option Vec2) :
    (b.seek target).unplanned = b.unplanned := unplanned_headFor? b target

@[simp] theorem unplanned_requestMeal (b : Beliefs) : b.requestMeal.unplanned = b.unplanned := by
  unfold requestMeal
  split <;> rfl

@[simp] theorem unplanned_requestShot (b : Beliefs) : b.requestShot.unplanned = b.unplanned := by
  unfold requestShot
  split
  · split <;> rfl
  · rfl

@[simp] theorem unplanned_explore (b : Beliefs) : b.explore.unplanned = b.unplanned := by
  unfold explore
  split
  · exact unplanned_headFor? _ _
  · exact unplanned_headFor? b _

/-- The stages touch the goals, the steering, the target, the search index and the intents, and
nothing else. -/
@[simp] theorem unplanned_prioritise (b : Beliefs) : b.prioritise.unplanned = b.unplanned := by
  have dropped := (unplanned_dropReachedSoftGoal b.dropReachedGoal).trans
    (unplanned_dropReachedGoal b)
  unfold prioritise
  dsimp only
  refine Eq.trans ?_ dropped
  generalize b.dropReachedGoal.dropReachedSoftGoal = b₁
  split
  · rfl
  · split
    · exact unplanned_seek b₁ _
    · refine Eq.trans ?_ (unplanned_requestMeal b₁)
      generalize b₁.requestMeal = b₂
      split
      · exact unplanned_seek b₂ _
      · refine Eq.trans ?_ (unplanned_requestShot b₂)
        generalize b₂.requestShot = b₃
        split
        · exact unplanned_seek b₃ _
        · split
          · exact unplanned_seek b₃ _
          · split
            · exact unplanned_explore b₃
            · rfl

@[simp] theorem prioritise_inventory (b : Beliefs) : b.prioritise.inventory = b.inventory :=
  congrArg (·.inventory) (unplanned_prioritise b)

@[simp] theorem prioritise_longestPistolRange (b : Beliefs) :
    b.prioritise.longestPistolRange = b.longestPistolRange :=
  congrArg (·.longestPistolRange) (unplanned_prioritise b)

/-! ## Stages that leave the course alone -/

/-- The beliefs without goals, target, and requests for shots and meals. -/
def undirected (b : Beliefs) : Beliefs :=
  { b with
    goal := .zero
    goalSet := false
    softGoalSet := false
    targetEnemy := none
    shootPistol := false
    useFoodItem := false }

/-- What takes nothing of the course into account is the same for beliefs that differ in their course
alone. -/
theorem eq_of_undirected {α : Sort _} (f : Beliefs → α) (blind : ∀ b, f b.undirected = f b)
    {b b' : Beliefs} (h : b.undirected = b'.undirected) : f b = f b' := by
  rw [← blind b, h, blind b']

theorem undirected_dropReachedGoal (b : Beliefs) :
    b.dropReachedGoal.undirected = b.undirected := by
  unfold dropReachedGoal
  split <;> rfl

theorem undirected_dropReachedSoftGoal (b : Beliefs) :
    b.dropReachedSoftGoal.undirected = b.undirected := by
  unfold dropReachedSoftGoal
  split <;> rfl

theorem undirected_requestMeal (b : Beliefs) : b.requestMeal.undirected = b.undirected := by
  unfold requestMeal
  split <;> rfl

theorem undirected_requestShot (b : Beliefs) : b.requestShot.undirected = b.undirected := by
  unfold requestShot
  split
  · split <;> rfl
  · rfl

end Forager.Beliefs
