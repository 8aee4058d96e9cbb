import Forager.Proofs.LeafReactions

/-!
# The standard tree follows the priorities

Every branch of the standard tree realises one stage of `Beliefs.prioritise`. The point of each
branch lemma is that the guard in front of an action is no weaker than what the action needs: an
item known is an item chosen, so no branch fails past its guard and falls through to the next.

* `root_realises`: the tree as a whole.
* `walkFrom_held`, `walk_prioritises`: walks of the tree on any board that holds the schema.
-/
namespace Forager

open Library

namespace Reaction

/-- Does `f` and succeeds, if `p` holds. -/
def guarded (p : Beliefs → Bool) (f : Beliefs → Beliefs) : Reaction := fun b =>
  if p b then (.success, f b) else (.failure, b)

/-- Does `f` and fails, so that whatever comes next has its say. -/
def passing (f : Beliefs → Beliefs) : Reaction := fun b => (.failure, f b)

theorem ask_andThen (p : Beliefs → Bool) (g : Reaction) (b : Beliefs) :
    (ask p).andThen g b = if p b then g b else (.failure, b) := by
  by_cases h : p b = true
  · rw [if_pos h, andThen_of_success (ask_of_true h)]
  · have hn : (ask p b).1 ≠ .success := by rw [ask_of_not h]; exact nofun
    rw [if_neg h, andThen_of_ne hn, ask_of_not h]

theorem guarded_of_true {p : Beliefs → Bool} {f : Beliefs → Beliefs} {b : Beliefs}
    (h : p b = true) : guarded p f b = (.success, f b) := if_pos h

theorem guarded_of_not {p : Beliefs → Bool} {f : Beliefs → Beliefs} {b : Beliefs}
    (h : ¬p b = true) : guarded p f b = (.failure, b) := if_neg h

theorem guarded_orElse (p : Beliefs → Bool) (f : Beliefs → Beliefs) (g : Reaction) (b : Beliefs) :
    (guarded p f).orElse g b = if p b then (.success, f b) else g b := by
  by_cases h : p b = true
  · have hn : (guarded p f b).1 ≠ .failure := by rw [guarded_of_true h]; exact nofun
    rw [if_pos h, orElse_of_ne hn, guarded_of_true h]
  · rw [if_neg h, orElse_of_failure (guarded_of_not h)]

theorem passing_orElse (f : Beliefs → Beliefs) (g : Reaction) (b : Beliefs) :
    (passing f).orElse g b = g (f b) := rfl

theorem failure_orElse (g : Reaction) : orElse (fun b => (.failure, b)) g = g := rfl

theorem orElse_assoc (f g h : Reaction) : (f.orElse g).orElse h = f.orElse (g.orElse h) := by
  funext b
  by_cases hf : (f b).1 = .failure
  · have hb : f b = (.failure, (f b).2) := Prod.ext hf rfl
    rw [orElse_of_failure hb]
    simp only [orElse, hf, if_true]
  · have hfg : ((f.orElse g) b).1 ≠ .failure := by rw [orElse_of_ne hf]; exact hf
    rw [orElse_of_ne hfg, orElse_of_ne hf, orElse_of_ne hf]

/-- Two tests in front of an action that succeeds behind them. -/
theorem ask_ask_andThen {p q : Beliefs → Bool} {g : Reaction} {f : Beliefs → Beliefs}
    (h : ∀ b, p b = true → q b = true → g b = (.success, f b)) (b : Beliefs) :
    (ask p).andThen ((ask q).andThen g) b = guarded (fun b => p b && q b) f b := by
  rw [ask_andThen, ask_andThen, guarded]
  by_cases hp : p b = true
  · by_cases hq : q b = true
    · rw [if_pos hp, if_pos hq, h b hp hq, hp, hq]
      rfl
    · rw [if_pos hp, if_neg hq, hp, Bool.eq_false_iff.2 hq]
      rfl
  · rw [if_neg hp, Bool.eq_false_iff.2 hp]
    rfl

end Reaction

open Reaction

/-! ## Seeking -/

namespace Library

/-- Choosing a goal and turning to it, as the last two steps of a sequence. -/
def seekReaction (target : Beliefs → Option Vec2) : Reaction :=
  (headReaction target).andThen
    (Reaction.andThen (fun b => (.success, { b with steering := .seek })) fun b => (.success, b))

theorem seekReaction_eq {target : Beliefs → Option Vec2} {b : Beliefs}
    (h : (target b).isSome = true) : seekReaction target b = (.success, b.seek (target b)) := by
  simp only [seekReaction, andThen, headReaction, h]
  rfl

end Library

theorem seek_realises {μ : Type} {v : Behaviour} {target : Beliefs → Option Vec2}
    (h : Does v (headReaction target)) :
    RealisesAll (μ := μ) .sequence [v.node, changeToSeek.node] (seekReaction target) :=
  h.node.sequence_cons (changeToSeek_does.node.sequence_cons realisesAll_sequence_nil)

theorem closest?_map_isSome {α : Type} {b : Beliefs} {position : α → Vec2} {l : List α}
    (h : (!l.isEmpty) = true) :
    ((b.closest? position l).map position).isSome = true := by
  rw [Option.isSome_map, ← Option.not_isNone, Beliefs.closest?_isNone, h]

/-- Whoever knows of an item has one to collect: each kind passed over leaves another. -/
theorem collectible?_isSome {b : Beliefs} (h : b.knowsItems = true) :
    b.collectible?.isSome = true := by
  have packs := Beliefs.closest?_isNone b (·.position) b.knownHealthPacks
  have foods := Beliefs.closest?_isNone b (·.position) b.knownFoodItems
  have pistols := Beliefs.closest?_isNone b (·.position) b.knownPistols
  have items := Beliefs.closest?_isNone b (·.position) b.knownItems
  rw [Beliefs.knowsItems, ← packs, ← foods, ← pistols, ← items] at h
  simp only [Beliefs.collectible?, ← foods, ← pistols]
  cases hp : b.closest? (·.position) b.knownPistols with
  | some pistol => simp
  | none =>
    cases hf : b.closest? (·.position) b.knownFoodItems with
    | some food => simp
    | none =>
      cases hh : b.closest? (·.position) b.knownHealthPacks with
      | some pack => simp
      | none =>
        cases hi : b.closest? (·.position) b.knownItems with
        | some item => simp
        | none => simp [hp, hf, hh, hi] at h

/-! ## The branches -/

namespace StandardTree

variable {μ : Type}

theorem clearReachedGoal_realises :
    Realises (clearReachedGoal : AgentNode μ) (passing (·.dropReachedGoal)) := by
  have h := isGoalSet_asks.node.sequence_cons (hasReachedGoal_asks.node.sequence_cons
    (setGoalSetFalse_does.node.sequence_cons (μ := μ) realisesAll_sequence_nil))
  refine h.node.congr fun b => ?_
  rw [ask_andThen, ask_andThen, passing, Beliefs.dropReachedGoal]
  cases b.goalSet <;> cases b.reaches b.goal <;> rfl

theorem clearReachedSoftGoal_realises :
    Realises (clearReachedSoftGoal : AgentNode μ) (passing (·.dropReachedSoftGoal)) := by
  have h := isSoftGoalSet_asks.node.sequence_cons (hasReachedSoftGoal_asks.node.sequence_cons
    (setSoftGoalSetFalse_does.node.sequence_cons (μ := μ) realisesAll_sequence_nil))
  refine h.node.congr fun b => ?_
  rw [ask_andThen, ask_andThen, passing, Beliefs.dropReachedSoftGoal]
  cases b.softGoalSet <;> cases b.reaches b.softGoal <;> rfl

theorem heal_realises : Realises (heal : AgentNode μ)
    (guarded (fun b => b.lowHealth && b.inventory.contains .health)
      fun b => { b with useHealthItem := true }) := by
  have h := lowHealth_asks.node.sequence_cons (hasHealthItem_asks.node.sequence_cons
    (useHealthItem_does.node.sequence_cons (μ := μ) realisesAll_sequence_nil))
  exact h.node.congr (ask_ask_andThen fun _ _ _ => rfl)

theorem fetchHealthPack_realises : Realises (fetchHealthPack : AgentNode μ)
    (guarded (fun b => b.lowHealth && !b.knownHealthPacks.isEmpty)
      fun b => b.seek ((b.closest? (·.position) b.knownHealthPacks).map (·.position))) := by
  have h := lowHealth_asks.node.sequence_cons (knowLocationOfHealthPacks_asks.node.sequence_cons
    (seek_realises (μ := μ) setClosestKnownHealthPackAsGoal_does))
  exact h.node.congr (ask_ask_andThen fun b _ hk => seekReaction_eq (closest?_map_isSome hk))

theorem eat_realises : Realises (eat : AgentNode μ) (passing (·.requestMeal)) := by
  have h := lowEnergy_asks.node.sequence_cons (hasFoodItem_asks.node.sequence_cons
    (useFoodItem_does.node.sequence_cons (μ := μ) realisesAll_sequence_nil))
  refine h.node.congr fun b => ?_
  rw [ask_andThen, ask_andThen, passing, Beliefs.requestMeal]
  cases b.lowEnergy <;> cases b.inventory.contains .food <;> rfl

theorem fetchFood_realises : Realises (fetchFood : AgentNode μ)
    (guarded (fun b => b.lowEnergy && !b.knownFoodItems.isEmpty)
      fun b => b.seek ((b.closest? (·.position) b.knownFoodItems).map (·.position))) := by
  have h := lowEnergy_asks.node.sequence_cons (knowLocationOfFoodItems_asks.node.sequence_cons
    (seek_realises (μ := μ) setClosestKnownFoodItemAsGoal_does))
  exact h.node.congr (ask_ask_andThen fun b _ hk => seekReaction_eq (closest?_map_isSome hk))

theorem healthBranch_realises : Realises (healthBranch : AgentNode μ)
    ((guarded (fun b => b.lowHealth && b.inventory.contains .health)
        fun b => { b with useHealthItem := true }).orElse
      ((guarded (fun b => b.lowHealth && !b.knownHealthPacks.isEmpty)
        fun b => b.seek ((b.closest? (·.position) b.knownHealthPacks).map (·.position))).orElse
          fun b => (.failure, b))) :=
  ((heal_realises (μ := μ)).selector_cons
    (fetchHealthPack_realises.selector_cons realisesAll_selector_nil)).node

theorem energyBranch_realises : Realises (energyBranch : AgentNode μ)
    ((passing (·.requestMeal)).orElse
      ((guarded (fun b => b.lowEnergy && !b.knownFoodItems.isEmpty)
        fun b => b.seek ((b.closest? (·.position) b.knownFoodItems).map (·.position))).orElse
          fun b => (.failure, b))) :=
  ((eat_realises (μ := μ)).selector_cons
    (fetchFood_realises.selector_cons realisesAll_selector_nil)).node

theorem shootBranch_realises :
    Realises (shootBranch : AgentNode μ) (passing (·.requestShot)) := by
  have h := hasLoadedPistol_asks.node.sequence_cons (hasEnemyInFov_asks.node.sequence_cons
    (hasEnemyInRange_asks.node.sequence_cons (aimAtNearestEnemyInFov_does.node.sequence_cons
      (shootPistol_does.node.sequence_cons (μ := μ) realisesAll_sequence_nil))))
  refine h.node.congr fun b => ?_
  rw [ask_andThen, ask_andThen, ask_andThen, passing, Beliefs.requestShot]
  cases he : b.nearestEnemy? with
  | none => cases b.holdsLoadedPistol <;> rfl
  | some e =>
    simp only [andThen, he, Option.isSome_some, Option.any_some, if_true]
    cases b.holdsLoadedPistol <;> cases b.inPistolRange e <;> rfl

theorem collectItemsBranch_realises : Realises (collectItemsBranch : AgentNode μ)
    (guarded (fun b => b.inventory.hasSpace && b.knowsItems)
      fun b => b.seek b.collectible?) := by
  have h := haveInventorySpace_asks.node.sequence_cons (knowOfItemsOnGround_asks.node.sequence_cons
    (seek_realises (μ := μ) setNearestItemAsGoal_does))
  exact h.node.congr (ask_ask_andThen fun b _ hk => seekReaction_eq (collectible?_isSome hk))

theorem visitHousesBranch_realises : Realises (visitHousesBranch : AgentNode μ)
    (guarded (fun b => !b.insideHouse && !b.dueHouses.isEmpty)
      fun b => b.seek ((b.closest? (·.center) b.dueHouses).map (·.center))) := by
  have h := currentlyInsideHouse_asks.inverted.sequence_cons
    (knownHouseNotRecentlyVisited_asks.node.sequence_cons
      (seek_realises (μ := μ) setGoalToClosestHouseNotRecentlyVisited_does))
  exact h.node.congr (ask_ask_andThen fun b _ hk => seekReaction_eq (closest?_map_isSome hk))

/-- What the children of a selector between passing the search point and heading for it do. -/
def approach : Reaction :=
  ((ask (·.atSearchPoint)).andThen (Reaction.andThen
    (fun b => (.success, { b with searchPointIndex := b.searchPointIndex + 1 }.headFor?
      b.searchPoints[b.searchPointIndex + 1]?)) fun b => (.success, b))).orElse
    ((headReaction fun b => b.searchPoints[b.searchPointIndex]?).orElse fun b => (.failure, b))

theorem approach_eq {b : Beliefs} (h : b.searchPointIndex < b.searchPoints.length) :
    approach b = (.success, b.explore) := by
  unfold approach Beliefs.explore
  by_cases hp : b.atSearchPoint = true
  · rw [if_pos hp, orElse_of_ne]
    · rw [andThen_of_success (ask_of_true hp)]
      rfl
    · rw [andThen_of_success (ask_of_true hp)]
      exact nofun
  · have ahead : headReaction (fun b => b.searchPoints[b.searchPointIndex]?) b =
        (.success, b.headFor? b.searchPoints[b.searchPointIndex]?) := by
      rw [headReaction, List.getElem?_eq_getElem h]
      rfl
    have elsewhere (g : Reaction) : (ask (·.atSearchPoint)).andThen g b = (.failure, b) := by
      rw [ask_andThen, if_neg hp]
    rw [if_neg hp, orElse_of_failure (elsewhere _), orElse_of_ne, ahead]
    rw [ahead]
    exact nofun

theorem exploreBranch_realises : Realises (exploreBranch : AgentNode μ)
    (guarded (fun b => decide (b.searchPointIndex < b.searchPoints.length))
      fun b => { b.explore with steering := .seek }) := by
  have arrive := arrivedAtNextSearchPoint_asks.node.sequence_cons
    (incrementSearchPoint_does.node.sequence_cons (μ := μ) realisesAll_sequence_nil)
  have advance : Realises _ approach := ((arrive.node (l := none)).selector_cons
    (setGoalToNextSearchPoint_does.node.selector_cons realisesAll_selector_nil)).node (l := none)
  have h := mapSearchedEntirely_asks.inverted.sequence_cons
    (advance.sequence_cons (changeToSeek_does.node.sequence_cons realisesAll_sequence_nil))
  refine h.node.congr fun b => ?_
  have unsearched : (!decide (b.searchPoints.length ≤ b.searchPointIndex)) =
      decide (b.searchPointIndex < b.searchPoints.length) := by
    rw [← decide_not]
    exact decide_eq_decide.2 Nat.not_le
  rw [ask_andThen, unsearched, guarded]
  by_cases hi : b.searchPointIndex < b.searchPoints.length
  · rw [if_pos (decide_eq_true hi), if_pos (decide_eq_true hi), andThen_of_success (approach_eq hi)]
    rfl
  · rw [if_neg (mt of_decide_eq_true hi), if_neg (mt of_decide_eq_true hi)]

theorem wander_realises : Realises (changeToWander.node : AgentNode μ)
    fun b => (.success, { b with steering := .wander }) :=
  changeToWander_does.node

/-! ## The whole tree -/

/-- A walk of the standard tree succeeds and follows the priorities. -/
theorem root_realises :
    Realises (root : AgentNode μ) fun b => (.success, b.prioritise) := by
  have h := (clearReachedGoal_realises (μ := μ)).selector_cons <|
    clearReachedSoftGoal_realises.selector_cons <| healthBranch_realises.selector_cons <|
    energyBranch_realises.selector_cons <| shootBranch_realises.selector_cons <|
    collectItemsBranch_realises.selector_cons <| visitHousesBranch_realises.selector_cons <|
    exploreBranch_realises.selector_cons <| wander_realises.selector_cons realisesAll_selector_nil
  refine h.node.congr fun b => ?_
  simp only [orElse_assoc, failure_orElse, passing_orElse, guarded_orElse, Beliefs.prioritise,
    decide_eq_true_eq, apply_ite (Prod.mk Status.success)]
  rfl

theorem walkFrom_held {bb : Blackboard EntryType} {b : Beliefs}
    (h : Beliefs.ofEntries bb.entries = .ok b) (w : Walk) (memory : μ) :
    (root.walkFrom w ⟨bb, memory⟩).status = .success ∧
      (root.walkFrom w ⟨bb, memory⟩).scene = b.prioritise.scene bb.entries memory ∧
      (root.walkFrom w ⟨bb, memory⟩).fault = none := by
  have start : (⟨bb, memory⟩ : Scene EntryType μ).settled = b.scene bb.entries memory := by
    rw [Beliefs.scene, Beliefs.store_ofEntries h]
    rfl
  rw [Node.walkFrom, start]
  exact root_realises w 0 b bb.entries memory

/-- On every board that holds the schema, whatever the values, a walk of the standard tree
succeeds, misses no name, and leaves the board as the priorities say. -/
theorem walk_prioritises {bb : Blackboard EntryType} {b : Beliefs}
    (h : Beliefs.ofEntries bb.entries = .ok b) (w : Walk) (memory : μ) :
    (root.walkFrom w ⟨bb, memory⟩).status = .success ∧
      (root.walkFrom w ⟨bb, memory⟩).fault = none ∧
      (root.walkFrom w ⟨bb, memory⟩).scene = b.prioritise.scene bb.entries memory ∧
      root.tick ⟨bb, memory⟩ = (.success, b.prioritise.scene bb.entries memory) := by
  obtain ⟨status, scene, fault⟩ := walkFrom_held h w memory
  refine ⟨status, fault, scene, ?_⟩
  -- Plain evaluation is a lenient walk, whatever its number.
  obtain ⟨status₀, scene₀, _⟩ := walkFrom_held h ⟨false, 0⟩ memory
  rw [Node.tick_eq_walkFrom 0, status₀, scene₀]

/-- An agent low on health that knows of one health pack. -/
def wounded : Beliefs :=
  { Beliefs.initial {} {} with
    agentInfo := { health := 2 }
    knownHealthPacks := [⟨1, ⟨3, 4⟩, 5⟩] }

theorem walk_prioritises_wounded :
    Beliefs.ofEntries (wounded.store ∅) = .ok wounded ∧
      (root.walkFrom ⟨true, 0⟩ (wounded.scene ∅ ())).fault = none ∧
      (root.walkFrom ⟨true, 0⟩ (wounded.scene ∅ ())).scene =
        wounded.prioritise.scene (wounded.store ∅) () ∧
      wounded.prioritise = { wounded with goal := ⟨3, 4⟩, goalSet := true, steering := .seek } := by
  have held : Beliefs.ofEntries (⟨wounded.store ∅, none⟩ : Blackboard EntryType).entries =
      .ok wounded := Beliefs.ofEntries_store wounded ∅
  have h := walk_prioritises held ⟨true, 0⟩ ()
  exact ⟨held, h.2.1, h.2.2.1, by decide +kernel⟩

end StandardTree
end Forager
