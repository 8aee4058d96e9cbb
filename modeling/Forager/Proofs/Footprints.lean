import Forager.Library

/-!
# Footprints

What a leaf can see and touch of a board, whatever is missing or mistyped there. `Query.Within`
and `Edit.Within` confine a computation to names: it depends on these names only, it changes no
entry but those it may write, it never adds an entry or changes the type of one, and a missing
name that it notes is among the names it looks at. Computations stay within names under `bind`, so
a leaf is confined by confining its look-ups and writes one by one.

* `framed_all`: every leaf of the library stays within the keys it declares.
-/
namespace Forager

variable {τ : Type} [EntryTypes τ] {α β : Type}

/-! ## Confined computations -/

/-- Whether two boards hold the same under the given names and note the same missing name. -/
def Blackboard.AgreeOn (names : List String) (bb₁ bb₂ : Blackboard τ) : Prop :=
  bb₁.missing = bb₂.missing ∧ ∀ n ∈ names, bb₁.entries.find? n = bb₂.entries.find? n

/-- How the noted name may change: not at all, or from none to an absent one of `names`. -/
def Noted (names : List String) (m : Entries τ) (before after : Option String) : Prop :=
  after = before ∨ before = none ∧ ∃ n ∈ names, m.typeOf? n = none ∧ after = some n

structure Query.Within (names : List String) (q : Query τ α) : Prop where
  agree : ∀ m₁ m₂ missing, (∀ n ∈ names, m₁.find? n = m₂.find? n) → q m₁ missing = q m₂ missing
  notes : ∀ m missing, Noted names m missing (q m missing).2

structure Edit.Within (seen written : List String) (e : Edit τ α) : Prop where
  agree : ∀ bb₁ bb₂, bb₁.AgreeOn seen bb₂ →
    (e bb₁).1 = (e bb₂).1 ∧ (e bb₁).2.AgreeOn seen (e bb₂).2
  frame : ∀ bb n, n ∉ written → (e bb).2.entries.find? n = bb.entries.find? n
  types : ∀ bb n, (e bb).2.entries.typeOf? n = bb.entries.typeOf? n
  notes : ∀ bb, Noted seen bb.entries bb.missing (e bb).2.missing

/-! ## Noted names -/

theorem noted_refl (names : List String) (m : Entries τ) (missing : Option String) :
    Noted names m missing missing := .inl rfl

theorem noted_trans {names : List String} {m m' : Entries τ} {a b c : Option String}
    (types : ∀ n, m'.typeOf? n = m.typeOf? n) (h : Noted names m a b) (h' : Noted names m' b c) :
    Noted names m a c := by
  rcases h' with rfl | ⟨hb, n, hn, ht, hc⟩
  · exact h
  · rcases h with rfl | ⟨_, _, _, _, hb'⟩
    · exact .inr ⟨hb, n, hn, (types n).symm.trans ht, hc⟩
    · rw [hb'] at hb
      cases hb

theorem noted_read {t : τ} {names : List String} {k : Key t} (h : k.name ∈ names) (m : Entries τ)
    (missing : Option String) : Noted names m missing (noteMissing (m.read k) missing) := by
  cases hr : m.read k with
  | ok v => exact .inl rfl
  | error e =>
    cases hf : m.find? k.name with
    | some entry =>
      simp only [Entries.read, hf] at hr
      split at hr
      · cases hr
      · cases hr
        exact .inl rfl
    | none =>
      rw [Entries.read_eq_keyNotFound_iff.2 hf] at hr
      cases hr
      cases missing with
      | some name => exact .inl rfl
      | none => exact .inr ⟨rfl, k.name, h, by rw [Entries.typeOf?, hf, Option.map_none], rfl⟩

omit [EntryTypes τ] in
theorem noteMissing_error (e : BlackboardError τ) (missing : Option String) :
    noteMissing (.error e : Except _ α) missing = noteMissing (.error e : Except _ β) missing := by
  cases e <;> rfl

/-! ## Queries -/

namespace Query.Within

variable {names : List String}

theorem pure (a : α) : Query.Within names (Pure.pure a : Query τ α) where
  agree := fun _ _ _ _ => rfl
  notes := fun m missing => noted_refl names m missing

theorem bind {q : Query τ α} {f : α → Query τ β} (hq : Query.Within names q)
    (hf : ∀ a, Query.Within names (f a)) : Query.Within names (q >>= f) where
  agree := by
    intro m₁ m₂ missing h
    have step : ∀ m, (q >>= f) m missing = f (q m missing).1 m (q m missing).2 := fun _ => rfl
    rw [step, step, hq.agree m₁ m₂ missing h]
    exact (hf _).agree m₁ m₂ _ h
  notes := fun m missing =>
    noted_trans (fun _ => rfl) (hq.notes m missing) ((hf _).notes m (q m missing).2)

theorem look {t : τ} {k : Key t} (h : k.name ∈ names) : Query.Within names (Query.look k) where
  agree := by
    intro m₁ m₂ missing hm
    rw [Query.look, Entries.read_congr (hm k.name h)]
    rfl
  notes := fun m missing => noted_read h m missing

end Query.Within

/-! ## Edits -/

namespace Edit.Within

variable {seen written : List String}

theorem pure (a : α) : Edit.Within seen written (Pure.pure a : Edit τ α) where
  agree := fun _ _ h => ⟨rfl, h⟩
  frame := fun _ _ _ => rfl
  types := fun _ _ => rfl
  notes := fun bb => noted_refl seen bb.entries bb.missing

theorem bind {e : Edit τ α} {f : α → Edit τ β} (he : Edit.Within seen written e)
    (hf : ∀ a, Edit.Within seen written (f a)) : Edit.Within seen written (e >>= f) where
  agree := by
    intro bb₁ bb₂ h
    obtain ⟨ha, hb⟩ := he.agree bb₁ bb₂ h
    have step : ∀ bb, (e >>= f) bb = f (e bb).1 (e bb).2 := fun _ => rfl
    rw [step, step, ha]
    exact (hf _).agree _ _ hb
  frame := fun bb n hn => ((hf _).frame (e bb).2 n hn).trans (he.frame bb n hn)
  types := fun bb n => ((hf _).types (e bb).2 n).trans (he.types bb n)
  notes := fun bb => noted_trans (he.types bb) (he.notes bb) ((hf _).notes (e bb).2)

theorem lift {q : Query τ α} (h : Query.Within seen q) :
    Edit.Within seen written (liftM q : Edit τ α) where
  agree := by
    intro bb₁ bb₂ hb
    obtain ⟨m₁, missing⟩ := bb₁
    obtain ⟨m₂, missing'⟩ := bb₂
    obtain ⟨hm, hn⟩ := hb
    dsimp only at hm hn
    subst hm
    have same := h.agree m₁ m₂ missing hn
    have value : (q m₁ missing).1 = (q m₂ missing).1 := congrArg Prod.fst same
    have noted : (q m₁ missing).2 = (q m₂ missing).2 := congrArg Prod.snd same
    exact ⟨value, noted, hn⟩
  frame := fun _ _ _ => rfl
  types := fun _ _ => rfl
  notes := fun bb => h.notes bb.entries bb.missing

theorem typeOf?_write {t : τ} {m : Entries τ} {k : Key t} {v : Value t} (h : m.read k = .ok v)
    (w : Value t) (n : String) : (m.write k w).typeOf? n = m.typeOf? n := by
  rw [Entries.typeOf?, Entries.typeOf?, Entries.find?_write]
  split
  · rename_i hn
    rw [hn, Entries.read_eq_ok_iff.1 h]
    rfl
  · rfl

theorem write {t : τ} {k : Key t} (hs : k.name ∈ seen) (hw : k.name ∈ written) (v : Value t) :
    Edit.Within seen written (Edit.write k v) where
  agree := by
    intro bb₁ bb₂ h
    obtain ⟨hm, hn⟩ := h
    have hr := Entries.read_congr (hn k.name hs)
    unfold Edit.write
    cases h₂ : bb₂.entries.read k with
    | ok old =>
      rw [Blackboard.set_of_read (hr.trans h₂), Blackboard.set_of_read h₂]
      refine ⟨rfl, hm, fun n hin => ?_⟩
      dsimp only
      rw [Entries.find?_write, Entries.find?_write, hn n hin]
    | error e =>
      rw [Blackboard.set_of_error (hr.trans h₂), Blackboard.set_of_error h₂, hm]
      exact ⟨rfl, rfl, hn⟩
  frame := by
    intro bb n hn
    unfold Edit.write
    cases hr : bb.entries.read k with
    | ok old =>
      rw [Blackboard.set_of_read hr]
      dsimp only
      rw [Entries.find?_write, if_neg (by rintro rfl; exact hn hw)]
    | error e => rw [Blackboard.set_of_error hr]
  types := by
    intro bb n
    unfold Edit.write
    cases hr : bb.entries.read k with
    | ok old =>
      rw [Blackboard.set_of_read hr]
      exact typeOf?_write hr v n
    | error e => rw [Blackboard.set_of_error hr]
  notes := by
    intro bb
    have h := noted_read hs bb.entries bb.missing
    unfold Edit.write
    cases hr : bb.entries.read k with
    | ok old =>
      rw [Blackboard.set_of_read hr]
      exact noted_refl seen bb.entries bb.missing
    | error e =>
      rw [Blackboard.set_of_error hr]
      rw [hr, noteMissing_error (β := Unit)] at h
      exact h

end Edit.Within

/-! ## Steps of library leaves -/

namespace Library

section Steps

variable {t : EntryType} {k : Key t} {names seen written : List String}

theorem look_within {f : Option t.Carrier → Query EntryType β} (h : k.name ∈ names)
    (hf : ∀ v, Query.Within names (f v)) : Query.Within names (look k >>= f) :=
  (Query.Within.look h).bind hf

theorem look_edit_within {f : Option t.Carrier → Edit EntryType β} (h : k.name ∈ seen)
    (hf : ∀ v, Edit.Within seen written (f v)) : Edit.Within seen written (liftM (look k) >>= f) :=
  (Edit.Within.lift (Query.Within.look h)).bind hf

theorem write_within {v : t.Carrier} {f : Bool → Edit EntryType β}
    (h : k.name ∈ seen ∧ k.name ∈ written) (hf : ∀ done, Edit.Within seen written (f done)) :
    Edit.Within seen written (write k v >>= f) :=
  (Edit.Within.write h.1 h.2 v).bind hf

/-- Whether a leaf may set goals: it looks at both goal entries and may write them. -/
def SetsGoals (seen written : List String) : Prop :=
  ∀ n ∈ ["Goal", "GoalSet"], n ∈ seen ∧ n ∈ written

instance : Decidable (SetsGoals seen written) :=
  inferInstanceAs (Decidable (∀ n ∈ ["Goal", "GoalSet"], n ∈ seen ∧ n ∈ written))

theorem goalWritable_within (h : SetsGoals seen written) {f : Bool → Edit EntryType β}
    (hf : ∀ v, Edit.Within seen written (f v)) :
    Edit.Within seen written (liftM goalWritable >>= f) := by
  refine Edit.Within.bind (Edit.Within.lift ?_) hf
  refine look_within (h "Goal" (by decide)).1 fun goal => ?_
  split
  · exact look_within (h "GoalSet" (by decide)).1 fun _ => .pure _
  · exact .pure _

theorem setGoal_within (h : SetsGoals seen written) (target : Vec2) :
    Edit.Within seen written (setGoal target) := by
  refine goalWritable_within h fun writable => ?_
  split
  · refine write_within (h "Goal" (by decide)) fun done => ?_
    split
    · exact write_within (h "GoalSet" (by decide)) fun _ => .pure _
    · exact .pure _
  · exact .pure _

/-- Writing an entry and then heading for a target, both or neither. -/
theorem write_setGoal_within (h : SetsGoals seen written)
    (hk : k.name ∈ seen ∧ k.name ∈ written) (v : t.Carrier) (target : Vec2) :
    Edit.Within seen written (do
      if ← goalWritable then
        if ← write k v then setGoal target else return .failure
      else return .failure : Edit EntryType Status) := by
  refine goalWritable_within h fun writable => ?_
  split
  · refine write_within hk fun done => ?_
    split
    · exact setGoal_within h target
    · exact .pure _
  · exact .pure _

end Steps

/-! ## The leaves -/

/-- Whether a leaf stays within the keys it declares: it sees all of them and writes those it
declares as written. -/
def Framed : Behaviour → Prop
  | .test leaf holds => Query.Within (leaf.uses.map (·.name)) holds
  | .act leaf run => Edit.Within (leaf.uses.map (·.name)) (leaf.namesWith .write) run

theorem isGoalSet_framed : Framed isGoalSet :=
  look_within (by decide) fun _ => .pure _

theorem isSoftGoalSet_framed : Framed isSoftGoalSet :=
  look_within (by decide) fun _ => .pure _

theorem hasHealthItem_framed : Framed hasHealthItem :=
  look_within (by decide) fun _ => .pure _

theorem knowLocationOfHealthPacks_framed : Framed knowLocationOfHealthPacks :=
  look_within (by decide) fun _ => .pure _

theorem hasFoodItem_framed : Framed hasFoodItem :=
  look_within (by decide) fun _ => .pure _

theorem knowLocationOfFoodItems_framed : Framed knowLocationOfFoodItems :=
  look_within (by decide) fun _ => .pure _

theorem hasLoadedPistol_framed : Framed hasLoadedPistol :=
  look_within (by decide) fun _ => .pure _

theorem haveInventorySpace_framed : Framed haveInventorySpace :=
  look_within (by decide) fun _ => .pure _

theorem currentlyInsideHouse_framed : Framed currentlyInsideHouse :=
  look_within (by decide) fun _ => .pure _

theorem hasReachedGoal_framed : Framed hasReachedGoal := by
  refine look_within (by decide) fun _ => look_within (by decide) fun _ => ?_
  split <;> exact .pure _

theorem hasReachedSoftGoal_framed : Framed hasReachedSoftGoal := by
  refine look_within (by decide) fun _ => look_within (by decide) fun _ => ?_
  split <;> exact .pure _

theorem notMaxHealth_framed : Framed notMaxHealth := by
  refine look_within (by decide) fun _ => look_within (by decide) fun _ => ?_
  split <;> exact .pure _

theorem lowHealth_framed : Framed lowHealth := by
  refine look_within (by decide) fun _ => look_within (by decide) fun _ =>
    look_within (by decide) fun _ => ?_
  split <;> exact .pure _

theorem notMaxEnergy_framed : Framed notMaxEnergy := by
  refine look_within (by decide) fun _ => look_within (by decide) fun _ => ?_
  split <;> exact .pure _

theorem lowEnergy_framed : Framed lowEnergy := by
  refine look_within (by decide) fun _ => look_within (by decide) fun _ =>
    look_within (by decide) fun _ => ?_
  split <;> exact .pure _

theorem hasEnemyInFov_framed : Framed hasEnemyInFov := by
  refine look_within (by decide) fun _ => look_within (by decide) fun _ => ?_
  split <;> exact .pure _

theorem knowOfItemsOnGround_framed : Framed knowOfItemsOnGround := by
  refine look_within (by decide) fun _ => look_within (by decide) fun _ =>
    look_within (by decide) fun _ => look_within (by decide) fun _ => ?_
  split <;> exact .pure _

theorem knownHouseNotRecentlyVisited_framed : Framed knownHouseNotRecentlyVisited := by
  refine look_within (by decide) fun _ => look_within (by decide) fun _ => ?_
  split <;> exact .pure _

theorem mapSearchedEntirely_framed : Framed mapSearchedEntirely := by
  refine look_within (by decide) fun _ => look_within (by decide) fun _ => ?_
  split <;> exact .pure _

theorem arrivedAtNextSearchPoint_framed : Framed arrivedAtNextSearchPoint := by
  refine look_within (by decide) fun _ => look_within (by decide) fun _ =>
    look_within (by decide) fun _ => ?_
  split <;> exact .pure _

theorem hasEnemyInRange_framed : Framed hasEnemyInRange := by
  refine look_within (by decide) fun _ => look_within (by decide) fun _ =>
    look_within (by decide) fun _ => ?_
  split
  · split <;> exact .pure _
  · exact .pure _

theorem setGoalSetFalse_framed : Framed setGoalSetFalse :=
  write_within (by decide) fun _ => .pure _

theorem setSoftGoalSetFalse_framed : Framed setSoftGoalSetFalse :=
  write_within (by decide) fun _ => .pure _

theorem useHealthItem_framed : Framed useHealthItem :=
  write_within (by decide) fun _ => .pure _

theorem useFoodItem_framed : Framed useFoodItem :=
  write_within (by decide) fun _ => .pure _

theorem shootPistol_framed : Framed shootPistol :=
  write_within (by decide) fun _ => .pure _

theorem changeSteering_framed (name : String) (mode : Steering) :
    Framed (changeSteering name mode) :=
  write_within ⟨List.mem_cons_self, List.mem_cons_self⟩ fun _ => .pure _

theorem setClosestKnownHealthPackAsGoal_framed : Framed setClosestKnownHealthPackAsGoal := by
  refine look_edit_within (by decide) fun _ => look_edit_within (by decide) fun _ => ?_
  split
  · split
    · exact setGoal_within (by decide) _
    · exact .pure _
  · exact .pure _

theorem setClosestKnownFoodItemAsGoal_framed : Framed setClosestKnownFoodItemAsGoal := by
  refine look_edit_within (by decide) fun _ => look_edit_within (by decide) fun _ => ?_
  split
  · split
    · exact setGoal_within (by decide) _
    · exact .pure _
  · exact .pure _

theorem setGoalToNextSearchPoint_framed : Framed setGoalToNextSearchPoint := by
  refine look_edit_within (by decide) fun _ => look_edit_within (by decide) fun _ => ?_
  split
  · split
    · exact setGoal_within (by decide) _
    · exact .pure _
  · exact .pure _

theorem aimAtNearestEnemyInFov_framed : Framed aimAtNearestEnemyInFov := by
  refine look_edit_within (by decide) fun _ => look_edit_within (by decide) fun _ => ?_
  split
  · split
    · exact write_setGoal_within (by decide) (by decide) _ _
    · exact .pure _
  · exact .pure _

theorem setNearestItemAsGoal_framed : Framed setNearestItemAsGoal := by
  refine look_edit_within (by decide) fun _ => look_edit_within (by decide) fun _ =>
    look_edit_within (by decide) fun _ => ?_
  split
  · refine look_edit_within (by decide) fun _ => look_edit_within (by decide) fun _ =>
      look_edit_within (by decide) fun _ => look_edit_within (by decide) fun _ => ?_
    split
    · dsimp only
      split
      · exact setGoal_within (by decide) _
      · exact .pure _
    · exact .pure _
  · exact .pure _

theorem closestHouse?_within {names : List String} (qualifies : House → Float32 → Bool)
    (h : ∀ n ∈ ["AgentInfo", "SecondsBetweenHouseRevisits", "KnownHouses"], n ∈ names) :
    Query.Within names (closestHouse? qualifies) := by
  refine look_within (h "AgentInfo" (by decide)) fun _ =>
    look_within (h "SecondsBetweenHouseRevisits" (by decide)) fun _ =>
    look_within (h "KnownHouses" (by decide)) fun _ => ?_
  split <;> exact .pure _

theorem setGoalToHouse_framed (name : String) (qualifies : House → Float32 → Bool) :
    Framed (setGoalToHouse name qualifies) := by
  refine Edit.Within.bind (Edit.Within.lift (closestHouse?_within qualifies ?_)) fun target => ?_
  · exact fun n hn => List.mem_append_left ["Goal", "GoalSet"] hn
  · have heads : SetsGoals ["AgentInfo", "SecondsBetweenHouseRevisits", "KnownHouses", "Goal",
        "GoalSet"] ["Goal", "GoalSet"] := by decide
    split
    · exact setGoal_within heads _
    · exact .pure _

theorem setGoalToNextHouse_framed : Framed setGoalToNextHouse := by
  refine look_edit_within (by decide) fun _ => look_edit_within (by decide) fun _ =>
    look_edit_within (by decide) fun _ => ?_
  split
  · split
    · exact .pure _
    · dsimp only
      split
      · exact write_setGoal_within (by decide) (by decide) _ _
      · exact .pure _
  · exact .pure _

theorem incrementSearchPoint_framed : Framed incrementSearchPoint := by
  refine look_edit_within (by decide) fun _ => look_edit_within (by decide) fun _ => ?_
  split
  · split
    · exact write_setGoal_within (by decide) (by decide) _ _
    · exact write_within (by decide) fun _ => .pure _
  · exact .pure _

/-- Every leaf of the library stays within the keys it declares. -/
theorem framed_all : ∀ v ∈ all, Framed v := by
  simp only [all, List.forall_mem_cons, List.not_mem_nil, false_imp_iff, implies_true, and_true]
  exact ⟨mapSearchedEntirely_framed, arrivedAtNextSearchPoint_framed,
    setGoalToNextSearchPoint_framed, incrementSearchPoint_framed,
    setGoalToHouse_framed _ _, isGoalSet_framed, hasReachedGoal_framed, setGoalSetFalse_framed,
    isSoftGoalSet_framed, hasReachedSoftGoal_framed, setSoftGoalSetFalse_framed,
    haveInventorySpace_framed, knowOfItemsOnGround_framed, setNearestItemAsGoal_framed,
    knownHouseNotRecentlyVisited_framed, currentlyInsideHouse_framed, setGoalToHouse_framed _ _,
    setGoalToNextHouse_framed, changeSteering_framed _ _, changeSteering_framed _ _,
    notMaxHealth_framed, lowHealth_framed, knowLocationOfHealthPacks_framed,
    setClosestKnownHealthPackAsGoal_framed, hasHealthItem_framed, useHealthItem_framed,
    notMaxEnergy_framed, lowEnergy_framed, hasFoodItem_framed, knowLocationOfFoodItems_framed,
    setClosestKnownFoodItemAsGoal_framed, useFoodItem_framed, hasLoadedPistol_framed,
    hasEnemyInFov_framed, hasEnemyInRange_framed, aimAtNearestEnemyInFov_framed,
    shootPistol_framed⟩

end Library
end Forager
