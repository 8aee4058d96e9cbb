import Forager.Proofs.Transactions

/-!
# Which item the agent sets out for

The agent heads for the nearest health pack if that is not wasted or nothing else is known, then
for the nearest food under the same rule against pistols, then for the nearest pistol, and then for
the nearest item that was not inspected. What is wasted is said differently: a pack must not exceed
the health that is missing, but food must make up for all the energy that is. With food that
exceeds what is missing, or falls short of it, and a pistol, the two readings differ.

* `Prospects.Target`: the rule, for any reading of when food is not wasted.
* `Target.unique`, `exists_target_iff`: it has one answer, unless nothing is known.
* `target_iff`: the answer that is computed is that of the second reading.
* `target_sparing_iff`: when both readings agree.
* `sets_out`: evaluating the leaf heads for the answer, on any board with its keys.
* `collects_sparingly_iff`: hence when the leaf follows the rule in the first reading.
-/
namespace Forager

/-! ## The rule -/

/-- The items that the agent knows of, and what it judges them by. -/
structure Prospects where
  agent : Agent
  maxHealth : Float32
  maxEnergy : Float32
  distant : List DistantItem
  packs : List HealthPack
  meals : List Food
  pistols : List Pistol

namespace Prospects

variable (p : Prospects)

/-- The nearest item that was not inspected. The same for the other sorts. -/
def distant? : Option DistantItem :=
  Library.nearestElement? p.distant p.agent.position (·.position)

def pack? : Option HealthPack := Library.nearestElement? p.packs p.agent.position (·.position)

def meal? : Option Food := Library.nearestElement? p.meals p.agent.position (·.position)

def pistol? : Option Pistol := Library.nearestElement? p.pistols p.agent.position (·.position)

def healthNeeded : UInt32 := pointsMissing p.maxHealth p.agent.health

def energyNeeded : UInt32 := pointsMissing p.maxEnergy p.agent.energy

/-- Where the agent sets out for, as it is computed. -/
def target? : Option Vec2 :=
  Library.collectionTarget? p.healthNeeded p.energyNeeded p.pack? p.meal? p.pistol? p.distant?

/-- Whether nothing is known. -/
def Bare : Prop := p.distant = [] ∧ p.packs = [] ∧ p.meals = [] ∧ p.pistols = []

/-- Whether the agent wants a pack: it does not exceed what is missing, or there is nothing else. -/
def WantsPack (pack : HealthPack) : Prop :=
  pack.healing ≤ p.healthNeeded ∨ p.meal? = none ∧ p.pistol? = none

/-- Whether the agent wants food, given when an amount of energy suits what is missing. -/
def WantsMeal (suits : UInt32 → UInt32 → Prop) (meal : Food) : Prop :=
  suits meal.energy p.energyNeeded ∨ p.pistol? = none

/-- Where the agent sets out for, given when an amount of energy suits what is missing. -/
inductive Target (suits : UInt32 → UInt32 → Prop) : Vec2 → Prop where
  | pack {h : HealthPack} (nearest : p.pack? = some h) (wanted : p.WantsPack h) :
    Target suits h.position
  | meal {f : Food} (noPack : ∀ h, p.pack? = some h → ¬p.WantsPack h) (nearest : p.meal? = some f)
    (wanted : p.WantsMeal suits f) : Target suits f.position
  | pistol {g : Pistol} (noPack : ∀ h, p.pack? = some h → ¬p.WantsPack h)
    (noMeal : ∀ f, p.meal? = some f → ¬p.WantsMeal suits f) (nearest : p.pistol? = some g) :
    Target suits g.position
  | distant {i : DistantItem} (noPack : ∀ h, p.pack? = some h → ¬p.WantsPack h)
    (noMeal : ∀ f, p.meal? = some f → ¬p.WantsMeal suits f) (noPistol : p.pistol? = none)
    (nearest : p.distant? = some i) : Target suits i.position

/-- Food that does not exceed what is missing. -/
def Sparing (energy needed : UInt32) : Prop := energy ≤ needed

/-- Food that makes up for all that is missing. -/
def Filling (energy needed : UInt32) : Prop := needed ≤ energy

variable {p} {suits : UInt32 → UInt32 → Prop}

theorem Target.unique {t t' : Vec2} (h : p.Target suits t) (h' : p.Target suits t') : t = t' := by
  -- Each way to a target rules out those after it.
  cases h <;> cases h' <;> grind

theorem nearestElement?_eq_none_iff {α : Type} {l : List α} {origin : Vec2} {position : α → Vec2} :
    Library.nearestElement? l origin position = none ↔ l = [] := by
  rw [Library.nearestElement?, Option.map_eq_none_iff, Library.nearest?_eq_none_iff]

/-- What is computed is what the rule says. -/
theorem target_iff {t : Vec2} : p.target? = some t ↔ p.Target Filling t := by
  have pack (h : HealthPack) : (decide (h.healing ≤ p.healthNeeded) ||
      (p.meal?.isNone && p.pistol?.isNone)) = true ↔ p.WantsPack h := by
    simp [WantsPack]
  have meal (f : Food) : (decide (p.energyNeeded ≤ f.energy) || p.pistol?.isNone) = true ↔
      p.WantsMeal Filling f := by
    simp [WantsMeal, Filling]
  simp only [target?, Library.collectionTarget?, Option.or_eq_some_iff, Option.map_eq_some_iff,
    Option.filter_eq_some_iff, Option.map_eq_none_iff, Option.filter_eq_none_iff, pack, meal]
  constructor
  · rintro (⟨h, ⟨nearest, wanted⟩, rfl⟩ | ⟨noPack, ⟨f, ⟨nearest, wanted⟩, rfl⟩ | ⟨noMeal, rest⟩⟩)
    · exact .pack nearest wanted
    · exact .meal noPack nearest wanted
    · rcases rest with ⟨g, nearest, rfl⟩ | ⟨noPistol, i, nearest, rfl⟩
      · exact .pistol noPack noMeal nearest
      · exact .distant noPack noMeal noPistol nearest
  · intro target
    cases target with
    | pack nearest wanted => exact .inl ⟨_, ⟨nearest, wanted⟩, rfl⟩
    | meal noPack nearest wanted => exact .inr ⟨noPack, .inl ⟨_, ⟨nearest, wanted⟩, rfl⟩⟩
    | pistol noPack noMeal nearest =>
      exact .inr ⟨noPack, .inr ⟨noMeal, .inl ⟨_, nearest, rfl⟩⟩⟩
    | distant noPack noMeal noPistol nearest =>
      exact .inr ⟨noPack, .inr ⟨noMeal, .inr ⟨noPistol, _, nearest, rfl⟩⟩⟩

/-- There is an answer unless nothing is known, whatever suits. -/
theorem exists_target_iff : (∃ t, p.Target suits t) ↔ ¬p.Bare := by
  constructor
  · rintro ⟨t, target⟩ ⟨distant, packs, meals, pistols⟩
    cases target with
    | pack nearest => cases nearest.symm.trans (nearestElement?_eq_none_iff.2 packs)
    | meal _ nearest => cases nearest.symm.trans (nearestElement?_eq_none_iff.2 meals)
    | pistol _ _ nearest => cases nearest.symm.trans (nearestElement?_eq_none_iff.2 pistols)
    | distant _ _ _ nearest => cases nearest.symm.trans (nearestElement?_eq_none_iff.2 distant)
  · intro known
    by_cases pack : ∃ h, p.pack? = some h ∧ p.WantsPack h
    · obtain ⟨h, nearest, wanted⟩ := pack
      exact ⟨_, .pack nearest wanted⟩
    have noPack : ∀ h, p.pack? = some h → ¬p.WantsPack h :=
      fun h nearest wanted => pack ⟨h, nearest, wanted⟩
    by_cases meal : ∃ f, p.meal? = some f ∧ p.WantsMeal suits f
    · obtain ⟨f, nearest, wanted⟩ := meal
      exact ⟨_, .meal noPack nearest wanted⟩
    have noMeal : ∀ f, p.meal? = some f → ¬p.WantsMeal suits f :=
      fun f nearest wanted => meal ⟨f, nearest, wanted⟩
    cases pistol : p.pistol? with
    | some g => exact ⟨_, .pistol noPack noMeal pistol⟩
    | none =>
      -- Without a pistol any food would be wanted, and then without food any pack.
      have meals : p.meal? = none :=
        Option.eq_none_iff_forall_ne_some.2 fun f nearest => noMeal f nearest (.inr pistol)
      have packs : p.pack? = none :=
        Option.eq_none_iff_forall_ne_some.2 fun h nearest => noPack h nearest (.inr ⟨meals, pistol⟩)
      cases distant : p.distant? with
      | some i => exact ⟨_, .distant noPack noMeal pistol distant⟩
      | none =>
        exact absurd ⟨nearestElement?_eq_none_iff.1 distant, nearestElement?_eq_none_iff.1 packs,
          nearestElement?_eq_none_iff.1 meals, nearestElement?_eq_none_iff.1 pistol⟩ known

/-! ## Two readings -/

/-- Whether the choice depends on what suits: no pack is wanted, food and a pistol are known, and
the food does not make up exactly for what is missing. -/
structure Divided (p : Prospects) (f : Food) (g : Pistol) : Prop where
  noPack : ∀ h, p.pack? = some h → ¬p.WantsPack h
  meal : p.meal? = some f
  pistol : p.pistol? = some g
  differs : f.energy ≠ p.energyNeeded

/-- Whether it also matters: the two lie in different places. -/
structure Contested (p : Prospects) (f : Food) (g : Pistol) : Prop extends Divided p f g where
  apart : f.position ≠ g.position

namespace Divided

variable {f : Food} {g : Pistol}

theorem wantsMeal_iff (h : p.Divided f g) :
    p.WantsMeal suits f ↔ suits f.energy p.energyNeeded := by
  refine or_iff_left ?_
  rw [h.pistol]
  nofun

theorem meal_of_suits (h : p.Divided f g) (suited : suits f.energy p.energyNeeded) :
    p.Target suits f.position :=
  .meal h.noPack h.meal (h.wantsMeal_iff.2 suited)

theorem pistol_of_not_suits (h : p.Divided f g) (unsuited : ¬suits f.energy p.energyNeeded) :
    p.Target suits g.position := by
  refine .pistol h.noPack (fun f' nearest wanted => unsuited ?_) h.pistol
  cases nearest.symm.trans h.meal
  exact h.wantsMeal_iff.1 wanted

/-- The two readings differ: food that makes up for what is missing exceeds it, and food that does
not exceed it falls short. -/
theorem sparing_iff_not_filling (h : p.Divided f g) :
    Sparing f.energy p.energyNeeded ↔ ¬Filling f.energy p.energyNeeded := by
  constructor
  · intro sparing filling
    exact h.differs (UInt32.le_antisymm sparing filling)
  · intro short
    exact UInt32.le_of_lt (UInt32.not_le.1 short)

/-- With the one reading the agent sets out for the food, with the other for the pistol. -/
theorem targets (h : p.Divided f g) :
    p.Target Filling f.position ∧ p.Target Sparing g.position ∨
      p.Target Filling g.position ∧ p.Target Sparing f.position := by
  by_cases filling : Filling f.energy p.energyNeeded
  · refine .inl ⟨h.meal_of_suits filling, h.pistol_of_not_suits fun sparing => ?_⟩
    exact h.sparing_iff_not_filling.1 sparing filling
  · exact .inr ⟨h.pistol_of_not_suits filling,
      h.meal_of_suits (h.sparing_iff_not_filling.2 filling)⟩

end Divided

/-- Where the choice does not depend on what suits, both readings come to the same. -/
theorem Target.sparing {t : Vec2} (h : p.Target Filling t) (united : ∀ f g, ¬p.Divided f g) :
    p.Target Sparing t := by
  have same (noPack : ∀ h, p.pack? = some h → ¬p.WantsPack h) (f : Food)
      (nearest : p.meal? = some f) : p.WantsMeal Filling f ↔ p.WantsMeal Sparing f := by
    cases pistol : p.pistol? with
    | none => exact iff_of_true (.inr pistol) (.inr pistol)
    | some g =>
      have exactly : f.energy = p.energyNeeded :=
        Decidable.byContradiction fun differs => united f g ⟨noPack, nearest, pistol, differs⟩
      exact iff_of_true (.inl (UInt32.le_of_eq exactly.symm)) (.inl (UInt32.le_of_eq exactly))
  cases h with
  | pack nearest wanted => exact .pack nearest wanted
  | meal noPack nearest wanted =>
    exact .meal noPack nearest ((same noPack _ nearest).1 wanted)
  | pistol noPack noMeal nearest =>
    refine .pistol noPack (fun f meal wanted => noMeal f meal ?_) nearest
    exact (same noPack f meal).2 wanted
  | distant noPack noMeal noPistol nearest =>
    refine .distant noPack (fun f meal wanted => noMeal f meal ?_) noPistol nearest
    exact (same noPack f meal).2 wanted

/-- Both readings come to the same except where it matters what suits. -/
theorem target_sparing_iff {t : Vec2} (h : p.Target Filling t) :
    p.Target Sparing t ↔ ∀ f g, ¬p.Contested f g := by
  constructor
  · intro same f g contested
    rcases contested.targets with ⟨food, pistol⟩ | ⟨pistol, food⟩
    · exact contested.apart ((food.unique h).trans (same.unique pistol))
    · exact contested.apart ((food.unique same).trans (h.unique pistol))
  · intro settled
    by_cases divided : ∃ f g, p.Divided f g
    · obtain ⟨f, g, divided⟩ := divided
      have together : f.position = g.position :=
        Decidable.byContradiction fun apart => settled f g ⟨divided, apart⟩
      rcases divided.targets with ⟨food, pistol⟩ | ⟨pistol, food⟩
      · rw [h.unique food, together]
        exact pistol
      · rw [h.unique pistol, ← together]
        exact food
    · exact h.sparing fun f g here => divided ⟨f, g, here⟩

end Prospects

/-! ## The leaf -/

/-- Whether entries show the prospects. -/
structure Prospects.Shown (p : Prospects) (m : Entries EntryType) : Prop where
  agent : m.read Schema.agentInfo = .ok p.agent
  maxHealth : m.read Schema.maxHealth = .ok p.maxHealth
  maxEnergy : m.read Schema.maxEnergy = .ok p.maxEnergy
  distant : m.read Schema.knownItems = .ok p.distant
  packs : m.read Schema.knownHealthPacks = .ok p.packs
  meals : m.read Schema.knownFoodItems = .ok p.meals
  pistols : m.read Schema.knownPistols = .ok p.pistols

theorem Prospects.Shown.unique {p p' : Prospects} {m : Entries EntryType} (h : p.Shown m)
    (h' : p'.Shown m) : p = p' := by
  have same {t : EntryType} {k : Key t} {v v' : t.Carrier} (h : m.read k = .ok v)
      (h' : m.read k = .ok v') : v = v' := Except.ok.inj (h.symm.trans h')
  cases p
  cases p'
  rw [Prospects.mk.injEq]
  exact ⟨same h.agent h'.agent, same h.maxHealth h'.maxHealth, same h.maxEnergy h'.maxEnergy,
    same h.distant h'.distant, same h.packs h'.packs, same h.meals h'.meals,
    same h.pistols h'.pistols⟩

namespace Library

variable {m : Entries EntryType}

/-- Entries with the keys that the leaf declares show prospects, and a goal can be set there. -/
theorem exists_shown
    (declared : ∀ u ∈ setNearestItemAsGoal.leaf.uses, m.typeOf? u.name = some u.type) :
    (∃ p : Prospects, p.Shown m) ∧ m.typeOf? Schema.goal.name = some .vec2 ∧
      m.typeOf? Schema.goalSet.name = some .bool := by
  simp only [setNearestItemAsGoal, Behaviour.leaf, Leaf.named, Leaf.reads, Leaf.writes,
    List.nil_append, List.cons_append, List.forall_mem_cons] at declared
  obtain ⟨agent, maxHealth, maxEnergy, distant, packs, meals, pistols, goal, goalSet, -⟩ := declared
  obtain ⟨agent, hagent⟩ := Entries.exists_read agent
  obtain ⟨maxHealth, hmaxHealth⟩ := Entries.exists_read maxHealth
  obtain ⟨maxEnergy, hmaxEnergy⟩ := Entries.exists_read maxEnergy
  obtain ⟨distant, hdistant⟩ := Entries.exists_read distant
  obtain ⟨packs, hpacks⟩ := Entries.exists_read packs
  obtain ⟨meals, hmeals⟩ := Entries.exists_read meals
  obtain ⟨pistols, hpistols⟩ := Entries.exists_read pistols
  exact ⟨⟨⟨agent, maxHealth, maxEnergy, distant, packs, meals, pistols⟩, hagent, hmaxHealth,
    hmaxEnergy, hdistant, hpacks, hmeals, hpistols⟩, goal, goalSet⟩

/-- The leaf sets the goal that is computed, if there is one. -/
theorem tick_of_shown {μ : Type} {s : Scene EntryType μ} {p : Prospects}
    (shown : p.Shown s.board.entries) :
    let r := (setNearestItemAsGoal.node : Node EntryType μ).tick s
    let done := (p.target?.elim (pure .failure) setGoal : Edit EntryType Status)
      ⟨s.board.entries, none⟩
    r.1 = done.1 ∧ r.2.board.entries = done.2.entries := by
  intro r done
  obtain ⟨leaf, run, act, result⟩ : ∃ leaf run, setNearestItemAsGoal = .act leaf run ∧
      run ⟨s.board.entries, none⟩ = done := by
    refine ⟨_, _, rfl, ?_⟩
    rw [look_read_bind none shown.agent, look_read_bind none shown.maxHealth,
      look_read_bind none shown.maxEnergy]
    dsimp only
    rw [look_read_bind none shown.distant, look_read_bind none shown.packs,
      look_read_bind none shown.meals, look_read_bind none shown.pistols]
    dsimp only
    generalize computed : collectionTarget? _ _ _ _ _ _ = target
    have computed : p.target? = target := computed
    cases target with
    | none => simp only [done, computed, Option.elim_none]
    | some t => simp only [done, computed, Option.elim_some]
  have ticked : r = (Behaviour.act leaf run).node.tick s := by rw [← act]
  rw [ticked, ← result]
  exact ⟨rfl, rfl⟩

/-- With the keys that the leaf declares and a target, it heads there. -/
theorem sets_out {μ : Type} {s : Scene EntryType μ}
    (declared : ∀ u ∈ setNearestItemAsGoal.leaf.uses,
      s.board.entries.typeOf? u.name = some u.type)
    {p : Prospects} (shown : p.Shown s.board.entries) {t : Vec2} (target : p.target? = some t) :
    let r := (setNearestItemAsGoal.node : Node EntryType μ).tick s
    r.1 = .success ∧ Committed (heading t) s.board.entries r.2.board.entries := by
  intro r
  obtain ⟨status, entries⟩ := tick_of_shown (μ := μ) shown
  obtain ⟨-, goal, goalSet⟩ := exists_shown declared
  obtain ⟨success, committed⟩ := setGoal_held none t goal goalSet
  rw [target] at status entries
  exact ⟨status.trans success, entries ▸ committed⟩

/-- With the keys that the leaf declares, setting out for an item fails exactly if none is known.
Else the goal follows the rule in which food must make up for all the energy that is missing. That
is also the rule in which food must not exceed what is missing, unless no pack is wanted and the
nearest food and the nearest pistol lie apart, and the food does not fit exactly. -/
theorem collects_sparingly_iff {μ : Type} (s : Scene EntryType μ)
    (declared : ∀ u ∈ setNearestItemAsGoal.leaf.uses,
      s.board.entries.typeOf? u.name = some u.type) :
    ∃ p : Prospects, p.Shown s.board.entries ∧
      let r := (setNearestItemAsGoal.node : Node EntryType μ).tick s
      (r.1 = .failure ∧ r.2.board.entries = s.board.entries ↔ p.Bare) ∧
        (¬p.Bare → r.1 = .success ∧ ∃ t,
          Committed (heading t) s.board.entries r.2.board.entries ∧ p.Target Prospects.Filling t ∧
            (p.Target Prospects.Sparing t ↔ ∀ f g, ¬p.Contested f g)) := by
  obtain ⟨⟨p, shown⟩, -⟩ := exists_shown declared
  refine ⟨p, shown, ?_⟩
  intro r
  by_cases bare : p.Bare
  · have none : p.target? = none := by
      refine Option.eq_none_iff_forall_ne_some.2 fun t found => ?_
      exact Prospects.exists_target_iff.1 ⟨t, Prospects.target_iff.1 found⟩ bare
    obtain ⟨status, entries⟩ := tick_of_shown (μ := μ) shown
    rw [none] at status entries
    exact ⟨iff_of_true ⟨status, entries⟩ bare, fun known => absurd bare known⟩
  · obtain ⟨t, target⟩ := Prospects.exists_target_iff.2 bare
    obtain ⟨success, committed⟩ := sets_out declared shown (Prospects.target_iff.2 target)
    refine ⟨iff_of_false (fun failed => ?_) bare, fun _ => ⟨success, t, committed, target,
      Prospects.target_sparing_iff target⟩⟩
    cases success.symm.trans failed.1

/-- What an agent knows that misses five points of energy, with food and a pistol at hand. -/
def mealOrPistol (energy : UInt32) : Prospects where
  agent := { energy := 5 }
  maxHealth := 10
  maxEnergy := 10
  distant := []
  packs := []
  meals := [⟨1, ⟨3, 0⟩, energy⟩]
  pistols := [⟨2, ⟨9, 0⟩, 6, 1, 12⟩]

/-- A board with the whole schema that shows it. -/
def mealOrPistolShown (energy : UInt32) : Scene EntryType Unit :=
  let p := mealOrPistol energy
  let b : Beliefs :=
    { Beliefs.initial {} p.agent with
      maxEnergy := p.maxEnergy
      knownFoodItems := p.meals
      knownPistols := p.pistols }
  ⟨⟨b.store ∅, none⟩, ()⟩

theorem mealOrPistol_shown (energy : UInt32) :
    (mealOrPistol energy).Shown (mealOrPistolShown energy).board.entries where
  agent := Beliefs.read_store _ ∅ Schema.agentInfo
  maxHealth := Beliefs.read_store _ ∅ Schema.maxHealth
  maxEnergy := Beliefs.read_store _ ∅ Schema.maxEnergy
  distant := Beliefs.read_store _ ∅ Schema.knownItems
  packs := Beliefs.read_store _ ∅ Schema.knownHealthPacks
  meals := Beliefs.read_store _ ∅ Schema.knownFoodItems
  pistols := Beliefs.read_store _ ∅ Schema.knownPistols

/-- Food that makes up exactly for what is missing is wanted with either reading. -/
theorem collects_sparingly_iff_exactly :
    let s := mealOrPistolShown 5
    (∀ u ∈ setNearestItemAsGoal.leaf.uses, s.board.entries.typeOf? u.name = some u.type) ∧
      ∃ t, Committed (heading t) s.board.entries
        (setNearestItemAsGoal.node.tick s).2.board.entries ∧
          (mealOrPistol 5).Target Prospects.Sparing t := by
  intro s
  have declared : ∀ u ∈ setNearestItemAsGoal.leaf.uses,
      s.board.entries.typeOf? u.name = some u.type := by decide +kernel
  obtain ⟨p, shown, -, sets⟩ := collects_sparingly_iff s declared
  cases shown.unique (mealOrPistol_shown 5)
  have known : ¬(mealOrPistol 5).Bare := nofun
  obtain ⟨-, t, committed, -, sparing⟩ := sets known
  refine ⟨declared, t, committed, sparing.2 fun f g contested => contested.differs ?_⟩
  have only : (mealOrPistol 5).meal? = some ⟨1, ⟨3, 0⟩, 5⟩ := rfl
  cases contested.meal.symm.trans only
  decide +kernel

/-- With food that exceeds what is missing, the agent sets out for it and not for the pistol. -/
theorem surplus_food_first :
    let s := mealOrPistolShown 8
    let p := mealOrPistol 8
    (∀ u ∈ setNearestItemAsGoal.leaf.uses, s.board.entries.typeOf? u.name = some u.type) ∧
      p.Shown s.board.entries ∧ p.Target Prospects.Sparing ⟨9, 0⟩ ∧
        (setNearestItemAsGoal.node.tick s).2.board.entries.read Schema.goal = .ok ⟨3, 0⟩ := by
  have declared : ∀ u ∈ setNearestItemAsGoal.leaf.uses,
      (mealOrPistolShown 8).board.entries.typeOf? u.name = some u.type := by decide +kernel
  refine ⟨declared, mealOrPistol_shown 8, ?_, ?_⟩
  · have only : (mealOrPistol 8).meal? = some ⟨1, ⟨3, 0⟩, 8⟩ := rfl
    have exceeds : ¬(8 : UInt32) ≤ (mealOrPistol 8).energyNeeded := by decide +kernel
    refine .pistol (g := ⟨2, ⟨9, 0⟩, 6, 1, 12⟩) nofun (fun f nearest => ?_) rfl
    cases nearest.symm.trans only
    rintro (sparing | absent)
    · exact exceeds sparing
    · cases absent
  · have target : (mealOrPistol 8).target? = some ⟨3, 0⟩ := by decide +kernel
    obtain ⟨-, committed⟩ := sets_out declared (mealOrPistol_shown 8) target
    exact committed.made ⟨.vec2, Schema.goal, ⟨3, 0⟩⟩ List.mem_cons_self

end Library
end Forager
