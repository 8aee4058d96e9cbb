import Forager.Proofs.NumberLine
import Forager.Proofs.Priorities
import Forager.Proofs.Reactions

/-!
# The leaves of the standard tree on beliefs

One lemma per leaf: what a test asks of beliefs (`Asks`), and what an action does to them
(`Does`). Every look-up finds its entry, so each leaf takes the branch in which all values are
there; what is left of it is stated with the notions of the priorities.
-/
namespace Forager.Library

/-! ## The closest of several -/

theorem choose_map {α β : Type} (keeps : β → β → Bool) (f : α → β) (l : List α) :
    choose keeps (l.map f) = (choose (fun a c => keeps (f a) (f c)) l).map f := by
  have step : ∀ (held : Option α), (l.map f).foldl (choice keeps) (held.map f) =
      (l.foldl (choice fun a c => keeps (f a) (f c)) held).map f := by
    induction l with
    | nil => exact fun _ => rfl
    | cons a l ih =>
      intro held
      rw [List.map_cons, List.foldl_cons, List.foldl_cons, ← ih]
      cases held with
      | none => rfl
      | some best =>
        simp only [Option.map_some, choice]
        split <;> rfl
  exact step none

theorem nearestElement?_eq_choose {α : Type} (l : List α) (origin : Vec2) (position : α → Vec2) :
    nearestElement? l origin position = choose (fun best c =>
      decide ((position best).distance origin ≤ (position c).distance origin)) l := by
  conv_rhs => rw [← List.zipIdx_map_fst 0 l]
  rw [nearestElement?, nearest?, choose_map, Option.map_map, choose_map]
  rfl

theorem nearestElement?_eq {α : Type} (b : Beliefs) (position : α → Vec2) (l : List α) :
    nearestElement? l b.agentInfo.position position = b.closest? position l :=
  nearestElement?_eq_choose l b.agentInfo.position position

theorem nearestEnemyInView?_eq (b : Beliefs) :
    nearestEnemyInView? b.knownEnemies b.agentInfo =
      b.nearestEnemy?.map fun e => (e, e.position.distance b.agentInfo.position) := by
  rw [nearestEnemyInView?, choose_map]
  rfl

/-! ## Goals and steering -/

theorem isGoalSet_asks : Asks isGoalSet (·.goalSet) := by
  intro b m
  rw [look_bind]
  rfl

theorem hasReachedGoal_asks : Asks hasReachedGoal fun b => b.reaches b.goal := by
  intro b m
  rw [look_bind, look_bind]
  rfl

theorem setGoalSetFalse_does :
    Does setGoalSetFalse fun b => (.failure, { b with goalSet := false }) := by
  intro b m
  rw [write_bind]
  rfl

theorem isSoftGoalSet_asks : Asks isSoftGoalSet (·.softGoalSet) := by
  intro b m
  rw [look_bind]
  rfl

theorem hasReachedSoftGoal_asks : Asks hasReachedSoftGoal fun b => b.reaches b.softGoal := by
  intro b m
  rw [look_bind, look_bind]
  rfl

theorem setSoftGoalSetFalse_does :
    Does setSoftGoalSetFalse fun b => (.failure, { b with softGoalSet := false }) := by
  intro b m
  rw [write_bind]
  rfl

theorem changeSteering_does (name : String) (mode : Steering) :
    Does (changeSteering name mode) fun b => (.success, { b with steering := mode }) := by
  intro b m
  rw [write_bind]
  rfl

theorem changeToSeek_does :
    Does changeToSeek fun b => (.success, { b with steering := .seek }) :=
  changeSteering_does "ChangeToSeek" .seek

theorem changeToWander_does :
    Does changeToWander fun b => (.success, { b with steering := .wander }) :=
  changeSteering_does "ChangeToWander" .wander

/-! ## Health and energy -/

theorem lowHealth_asks : Asks lowHealth (·.lowHealth) := by
  intro b m
  rw [look_bind, look_bind, look_bind]
  rfl

theorem knowLocationOfHealthPacks_asks :
    Asks knowLocationOfHealthPacks (!·.knownHealthPacks.isEmpty) := by
  intro b m
  rw [look_bind]
  rfl

theorem hasHealthItem_asks : Asks hasHealthItem (·.inventory.contains .health) := by
  intro b m
  rw [look_bind]
  rfl

theorem useHealthItem_does :
    Does useHealthItem fun b => (.success, { b with useHealthItem := true }) := by
  intro b m
  rw [write_bind]
  rfl

theorem lowEnergy_asks : Asks lowEnergy (·.lowEnergy) := by
  intro b m
  rw [look_bind, look_bind, look_bind]
  rfl

theorem knowLocationOfFoodItems_asks :
    Asks knowLocationOfFoodItems (!·.knownFoodItems.isEmpty) := by
  intro b m
  rw [look_bind]
  rfl

theorem hasFoodItem_asks : Asks hasFoodItem (·.inventory.contains .food) := by
  intro b m
  rw [look_bind]
  rfl

theorem useFoodItem_does :
    Does useFoodItem fun b => (.failure, { b with useFoodItem := true }) := by
  intro b m
  rw [write_bind]
  rfl

/-- Heading for a target, if there is one, as the goal-setting leaves do it. -/
def headReaction (target : Beliefs → Option Vec2) : Reaction := fun b =>
  (.ofBool (target b).isSome, b.headFor? (target b))

theorem setClosestKnownHealthPackAsGoal_does : Does setClosestKnownHealthPackAsGoal
    (headReaction fun b => (b.closest? (·.position) b.knownHealthPacks).map (·.position)) := by
  intro b m
  rw [look_bind_edit, look_bind_edit]
  dsimp only [Part.get, headReaction]
  rw [nearestElement?_eq]
  cases b.closest? (·.position) b.knownHealthPacks with
  | none => rfl
  | some pack => exact setGoal_store b m none pack.position

theorem setClosestKnownFoodItemAsGoal_does : Does setClosestKnownFoodItemAsGoal
    (headReaction fun b => (b.closest? (·.position) b.knownFoodItems).map (·.position)) := by
  intro b m
  rw [look_bind_edit, look_bind_edit]
  dsimp only [Part.get, headReaction]
  rw [nearestElement?_eq]
  cases b.closest? (·.position) b.knownFoodItems with
  | none => rfl
  | some food => exact setGoal_store b m none food.position

/-! ## Combat -/

theorem hasLoadedPistol_asks : Asks hasLoadedPistol (·.holdsLoadedPistol) := by
  intro b m
  rw [look_bind]
  rfl

theorem hasEnemyInFov_asks : Asks hasEnemyInFov (·.nearestEnemy?.isSome) := by
  intro b m
  rw [look_bind, look_bind]
  dsimp only [Part.get]
  rw [nearestEnemyInView?_eq, Option.isSome_map, query_pure]

theorem inPistolRange_iff {b : Beliefs} {e : Enemy} :
    b.inPistolRange e = true ↔ ¬b.longestPistolRange ≤ 0 ∧
      e.position.distance b.agentInfo.position < b.longestPistolRange := by
  rw [Beliefs.inPistolRange, Bool.and_eq_true, decide_eq_true_iff, decide_eq_true_iff]
  constructor
  · rintro ⟨hp, hd⟩
    exact ⟨(Single.pos_iff_not_le hd).1 hp, hd⟩
  · rintro ⟨hp, hd⟩
    exact ⟨(Single.pos_iff_not_le hd).2 hp, hd⟩

theorem hasEnemyInRange_asks :
    Asks hasEnemyInRange fun b => b.nearestEnemy?.any (b.inPistolRange ·) := by
  intro b m
  rw [look_bind, look_bind, look_bind]
  dsimp only [Part.get]
  rw [nearestEnemyInView?_eq]
  cases b.nearestEnemy? with
  | none => split <;> rfl
  | some e =>
    have h := inPistolRange_iff (b := b) (e := e)
    split
    · rename_i hr
      rw [query_pure, Option.any_some, Bool.eq_false_iff.2 fun hin => (h.1 hin).1 hr]
    · rename_i hr
      rw [query_pure, Option.map_some, Option.any_some, Option.any_some, Bool.eq_iff_iff.2
        (decide_eq_true_iff.trans ⟨fun hd => h.2 ⟨hr, hd⟩, fun hin => (h.1 hin).2⟩)]

theorem aimAtNearestEnemyInFov_does : Does aimAtNearestEnemyInFov fun b =>
    match b.nearestEnemy? with
    | some e => (.success, { b.headFor e.position with targetEnemy := some e.id })
    | none => (.failure, b) := by
  intro b m
  rw [look_bind_edit, look_bind_edit]
  dsimp only [Part.get]
  rw [nearestEnemyInView?_eq]
  cases b.nearestEnemy? with
  | none => rfl
  | some e =>
    dsimp only [Option.map_some]
    exact write_setGoal_store b m none Schema.targetEnemy (some e.id) e.position

theorem shootPistol_does :
    Does shootPistol fun b => (.failure, { b with shootPistol := true }) := by
  intro b m
  rw [write_bind]
  rfl

/-! ## Items -/

theorem haveInventorySpace_asks : Asks haveInventorySpace (·.inventory.hasSpace) := by
  intro b m
  rw [look_bind]
  rfl

theorem knowOfItemsOnGround_asks : Asks knowOfItemsOnGround (·.knowsItems) := by
  intro b m
  rw [look_bind, look_bind, look_bind, look_bind]
  rfl

theorem collectionTarget?_eq (b : Beliefs) :
    collectionTarget? (pointsMissing b.maxHealth b.agentInfo.health)
      (pointsMissing b.maxEnergy b.agentInfo.energy)
      (nearestElement? b.knownHealthPacks b.agentInfo.position (·.position))
      (nearestElement? b.knownFoodItems b.agentInfo.position (·.position))
      (nearestElement? b.knownPistols b.agentInfo.position (·.position))
      (nearestElement? b.knownItems b.agentInfo.position (·.position)) = b.collectible? := by
  rw [nearestElement?_eq, nearestElement?_eq, nearestElement?_eq, nearestElement?_eq]
  simp only [collectionTarget?, Beliefs.collectible?, Beliefs.closest?_isNone]

theorem setNearestItemAsGoal_does :
    Does setNearestItemAsGoal (headReaction (·.collectible?)) := by
  intro b m
  rw [look_bind_edit, look_bind_edit, look_bind_edit]
  dsimp only [Part.get]
  rw [look_bind_edit, look_bind_edit, look_bind_edit, look_bind_edit]
  dsimp only [Part.get, headReaction]
  rw [collectionTarget?_eq]
  cases b.collectible? with
  | none => rfl
  | some target => exact setGoal_store b m none target

/-! ## Houses -/

theorem currentlyInsideHouse_asks : Asks currentlyInsideHouse (·.insideHouse) := by
  intro b m
  rw [look_bind]
  rfl

theorem any_eq_not_isEmpty_filter {α : Type} (p : α → Bool) (l : List α) :
    l.any p = !(l.filter p).isEmpty := by
  induction l with
  | nil => rfl
  | cons a l ih =>
    rw [List.any_cons, List.filter_cons, ih]
    cases p a <;> rfl

theorem knownHouseNotRecentlyVisited_asks :
    Asks knownHouseNotRecentlyVisited (!·.dueHouses.isEmpty) := by
  intro b m
  rw [look_bind, look_bind]
  dsimp only [Part.get]
  rw [query_pure, any_eq_not_isEmpty_filter, ← Beliefs.dueHouses]

theorem setGoalToClosestHouseNotRecentlyVisited_does :
    Does setGoalToClosestHouseNotRecentlyVisited
      (headReaction fun b => (b.closest? (·.center) b.dueHouses).map (·.center)) := by
  intro b m
  rw [edit_bind, liftM_apply, closestHouse?, look_bind, look_bind, look_bind]
  dsimp only [Part.get, headReaction]
  rw [nearestElement?_eq, query_pure, ← Beliefs.dueHouses]
  cases b.closest? (·.center) b.dueHouses with
  | none => rfl
  | some house => exact setGoal_store b m none house.center

/-! ## Exploration -/

theorem mapSearchedEntirely_asks :
    Asks mapSearchedEntirely fun b => decide (b.searchPoints.length ≤ b.searchPointIndex) := by
  intro b m
  rw [look_bind, look_bind]
  rfl

theorem arrivedAtNextSearchPoint_asks : Asks arrivedAtNextSearchPoint (·.atSearchPoint) := by
  intro b m
  rw [look_bind, look_bind, look_bind]
  rfl

theorem setGoalToNextSearchPoint_does :
    Does setGoalToNextSearchPoint (headReaction fun b => b.searchPoints[b.searchPointIndex]?) := by
  intro b m
  rw [look_bind_edit, look_bind_edit]
  dsimp only [Part.get, headReaction]
  cases b.searchPoints[b.searchPointIndex]? with
  | none => rfl
  | some target => exact setGoal_store b m none target

theorem incrementSearchPoint_does : Does incrementSearchPoint fun b =>
    (.success, { b with searchPointIndex := b.searchPointIndex + 1 }.headFor?
      b.searchPoints[b.searchPointIndex + 1]?) := by
  intro b m
  rw [look_bind_edit, look_bind_edit]
  dsimp only [Part.get]
  cases b.searchPoints[b.searchPointIndex + 1]? with
  | none =>
    dsimp only
    rw [write_bind]
    rfl
  | some target =>
    dsimp only
    exact write_setGoal_store b m none Schema.searchPointIndex (b.searchPointIndex + 1) target

end Forager.Library
