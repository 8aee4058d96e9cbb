import Forager.Beliefs
import Forager.Library

/-!
# Beliefs held by a board

On a board that holds beliefs every schema key is there with its type, so reading a key is
reading a field (`Part.get`) and writing a key is updating a field (`Part.put`), and no look-up
notes a missing name. What a leaf does on such a board is therefore a function of beliefs; the
lemmas here rewrite one step of a leaf at a time.

* `read_store`, `write_store`: reads and writes of entries.
* `look_bind`, `look_bind_edit`, `write_bind`: the same as first steps of queries and edits.
* `setGoal_store`, `write_setGoal_store`: heading for a target on such a board.
-/
namespace Forager

/-! ## Fields -/

/-- The field of the beliefs that a schema key stands for. -/
class Part {t : EntryType} (k : Key t) where
  get : Beliefs → t.Carrier
  put : t.Carrier → Beliefs → Beliefs
  lookup_toList : ∀ b : Beliefs, b.toList.lookup k.name = some (t.entry (get b))
  toList_put : ∀ v b, (put v b).toList =
    b.toList.map fun e => if e.1 = k.name then (k.name, t.entry v) else e

namespace Part

instance agentInfoPart : Part Schema.agentInfo :=
  ⟨(·.agentInfo), fun v b => { b with agentInfo := v }, fun _ => rfl, fun _ _ => rfl⟩

instance goalPart : Part Schema.goal :=
  ⟨(·.goal), fun v b => { b with goal := v }, fun _ => rfl, fun _ _ => rfl⟩

instance goalSetPart : Part Schema.goalSet :=
  ⟨(·.goalSet), fun v b => { b with goalSet := v }, fun _ => rfl, fun _ _ => rfl⟩

instance softGoalPart : Part Schema.softGoal :=
  ⟨(·.softGoal), fun v b => { b with softGoal := v }, fun _ => rfl, fun _ _ => rfl⟩

instance softGoalSetPart : Part Schema.softGoalSet :=
  ⟨(·.softGoalSet), fun v b => { b with softGoalSet := v }, fun _ => rfl, fun _ _ => rfl⟩

instance nextNavMeshGoalPart : Part Schema.nextNavMeshGoal :=
  ⟨(·.nextNavMeshGoal), fun v b => { b with nextNavMeshGoal := v }, fun _ => rfl, fun _ _ => rfl⟩

instance steeringPart : Part Schema.steering :=
  ⟨(·.steering), fun v b => { b with steering := v }, fun _ => rfl, fun _ _ => rfl⟩

instance inventoryPart : Part Schema.inventory :=
  ⟨(·.inventory), fun v b => { b with inventory := v }, fun _ => rfl, fun _ _ => rfl⟩

instance knownItemsPart : Part Schema.knownItems :=
  ⟨(·.knownItems), fun v b => { b with knownItems := v }, fun _ => rfl, fun _ _ => rfl⟩

instance knownEnemiesPart : Part Schema.knownEnemies :=
  ⟨(·.knownEnemies), fun v b => { b with knownEnemies := v }, fun _ => rfl, fun _ _ => rfl⟩

instance knownHealthPacksPart : Part Schema.knownHealthPacks :=
  ⟨(·.knownHealthPacks), fun v b => { b with knownHealthPacks := v }, fun _ => rfl, fun _ _ => rfl⟩

instance knownFoodItemsPart : Part Schema.knownFoodItems :=
  ⟨(·.knownFoodItems), fun v b => { b with knownFoodItems := v }, fun _ => rfl, fun _ _ => rfl⟩

instance knownPistolsPart : Part Schema.knownPistols :=
  ⟨(·.knownPistols), fun v b => { b with knownPistols := v }, fun _ => rfl, fun _ _ => rfl⟩

instance knownHousesPart : Part Schema.knownHouses :=
  ⟨(·.knownHouses), fun v b => { b with knownHouses := v }, fun _ => rfl, fun _ _ => rfl⟩

instance maxHealthPart : Part Schema.maxHealth :=
  ⟨(·.maxHealth), fun v b => { b with maxHealth := v }, fun _ => rfl, fun _ _ => rfl⟩

instance maxEnergyPart : Part Schema.maxEnergy :=
  ⟨(·.maxEnergy), fun v b => { b with maxEnergy := v }, fun _ => rfl, fun _ _ => rfl⟩

instance lowResourceFractionPart : Part Schema.lowResourceFraction :=
  ⟨(·.lowResourceFraction), fun v b => { b with lowResourceFraction := v }, fun _ => rfl,
    fun _ _ => rfl⟩

instance longestPistolRangePart : Part Schema.longestPistolRange :=
  ⟨(·.longestPistolRange), fun v b => { b with longestPistolRange := v }, fun _ => rfl,
    fun _ _ => rfl⟩

instance targetEnemyPart : Part Schema.targetEnemy :=
  ⟨(·.targetEnemy), fun v b => { b with targetEnemy := v }, fun _ => rfl, fun _ _ => rfl⟩

instance secondsBetweenHouseRevisitsPart : Part Schema.secondsBetweenHouseRevisits :=
  ⟨(·.secondsBetweenHouseRevisits), fun v b => { b with secondsBetweenHouseRevisits := v },
    fun _ => rfl, fun _ _ => rfl⟩

instance insideHousePart : Part Schema.insideHouse :=
  ⟨(·.insideHouse), fun v b => { b with insideHouse := v }, fun _ => rfl, fun _ _ => rfl⟩

instance nextHouseIndexPart : Part Schema.nextHouseIndex :=
  ⟨(·.nextHouseIndex), fun v b => { b with nextHouseIndex := v }, fun _ => rfl, fun _ _ => rfl⟩

instance searchPointsPart : Part Schema.searchPoints :=
  ⟨(·.searchPoints), fun v b => { b with searchPoints := v }, fun _ => rfl, fun _ _ => rfl⟩

instance searchPointIndexPart : Part Schema.searchPointIndex :=
  ⟨(·.searchPointIndex), fun v b => { b with searchPointIndex := v }, fun _ => rfl, fun _ _ => rfl⟩

instance shootPistolPart : Part Schema.shootPistol :=
  ⟨(·.shootPistol), fun v b => { b with shootPistol := v }, fun _ => rfl, fun _ _ => rfl⟩

instance useHealthItemPart : Part Schema.useHealthItem :=
  ⟨(·.useHealthItem), fun v b => { b with useHealthItem := v }, fun _ => rfl, fun _ _ => rfl⟩

instance useFoodItemPart : Part Schema.useFoodItem :=
  ⟨(·.useFoodItem), fun v b => { b with useFoodItem := v }, fun _ => rfl, fun _ _ => rfl⟩

end Part

/-! ## Entries -/

namespace Beliefs

theorem mem_of_lookup {α : Type} {l : List (String × α)} {q : String} {a : α}
    (h : l.lookup q = some a) : (q, a) ∈ l := by
  induction l with
  | nil => cases h
  | cons e l ih =>
    obtain ⟨k, v⟩ := e
    rw [List.lookup_cons] at h
    split at h
    · rename_i hq
      rw [beq_iff_eq] at hq
      cases h
      subst hq
      exact List.mem_cons_self
    · exact List.mem_cons_of_mem _ (ih h)

theorem names_toList (b₁ b₂ : Beliefs) : b₁.toList.map (·.1) = b₂.toList.map (·.1) := rfl

variable {t : EntryType} (b : Beliefs) (m : Entries EntryType) (k : Key t) [Part k]

theorem mem_toList : (k.name, t.entry (Part.get k b)) ∈ b.toList :=
  mem_of_lookup (Part.lookup_toList b)

theorem find?_store : (b.store m).find? k.name = some (t.entry (Part.get k b)) := by
  rw [store]
  exact NameMap.find?_insertAll_of_mem b.nodup_names (b.mem_toList k)

theorem read_store : (b.store m).read k = .ok (Part.get k b) :=
  Entries.read_eq_ok_iff.2 (find?_store b m k)

/-- Entries of other names survive a write. -/
theorem mem_put {v : t.Carrier} {e : String × Entry EntryType} (h : e ∈ b.toList)
    (hk : e.1 ≠ k.name) : e ∈ (Part.put k v b).toList := by
  rw [Part.toList_put]
  exact List.mem_map.2 ⟨e, h, if_neg hk⟩

/-- Writing an entry updates the field of its key. -/
theorem write_store (v : t.Carrier) : (b.store m).write k v = (Part.put k v b).store m := by
  refine NameMap.ext_find? fun q => ?_
  rw [Entries.find?_write]
  by_cases hq : q ∈ b.toList.map (·.1)
  · obtain ⟨e, he, rfl⟩ := List.mem_map.1 hq
    split
    · rename_i hk
      rw [store, hk]
      refine (NameMap.find?_insertAll_of_mem (Part.put k v b).nodup_names ?_).symm
      rw [Part.toList_put]
      exact List.mem_map.2 ⟨e, he, if_pos hk⟩
    · rename_i hk
      rw [store, NameMap.find?_insertAll_of_mem b.nodup_names he, store,
        NameMap.find?_insertAll_of_mem (Part.put k v b).nodup_names (mem_put b k he hk)]
  · have hk : q ≠ k.name := by
      rintro rfl
      exact hq (List.mem_map.2 ⟨_, b.mem_toList k, rfl⟩)
    rw [if_neg hk, store, store, NameMap.find?_insertAll_of_notMem hq,
      NameMap.find?_insertAll_of_notMem (names_toList b _ ▸ hq)]

/-- What was stored before is covered by what is stored now. -/
theorem store_store (b' : Beliefs) : b'.store (b.store m) = b'.store m := by
  refine NameMap.ext_find? fun q => ?_
  by_cases hq : q ∈ b'.toList.map (·.1)
  · obtain ⟨e, he, rfl⟩ := List.mem_map.1 hq
    rw [store, NameMap.find?_insertAll_of_mem b'.nodup_names he, store,
      NameMap.find?_insertAll_of_mem b'.nodup_names he]
  · rw [store, NameMap.find?_insertAll_of_notMem hq, store,
      NameMap.find?_insertAll_of_notMem (names_toList b' b ▸ hq), store,
      NameMap.find?_insertAll_of_notMem hq]

end Beliefs

/-! ## Steps of queries and edits -/

section Steps

variable {α β : Type} (bb : Blackboard EntryType) (m : Entries EntryType) (missing : Option String)

theorem query_bind (q : Query EntryType α) (f : α → Query EntryType β) :
    (q >>= f) m missing = f (q m missing).1 m (q m missing).2 := rfl

theorem query_pure (a : α) : (pure a : Query EntryType α) m missing = (a, missing) := rfl

theorem edit_bind (e : Edit EntryType α) (f : α → Edit EntryType β) :
    (e >>= f) bb = f (e bb).1 (e bb).2 := rfl

theorem edit_pure (a : α) : (pure a : Edit EntryType α) bb = (a, bb) := rfl

theorem liftM_apply (q : Query EntryType α) : (liftM q : Edit EntryType α) bb =
    ((q bb.entries bb.missing).1, ⟨bb.entries, (q bb.entries bb.missing).2⟩) := rfl

end Steps

namespace Library

variable {α : Type} {t : EntryType} (b : Beliefs) (m : Entries EntryType)
  (missing : Option String) (k : Key t) [Part k]

theorem look_store : look k (b.store m) missing = (some (Part.get k b), missing) := by
  simp only [look, Query.look, Beliefs.read_store, Except.toOption, noteMissing]

theorem write_held (v : t.Carrier) :
    write k v ⟨b.store m, missing⟩ = (true, ⟨(Part.put k v b).store m, missing⟩) := by
  have h : (⟨b.store m, missing⟩ : Blackboard EntryType).entries.read k = .ok (Part.get k b) :=
    Beliefs.read_store b m k
  unfold write Edit.write
  simp only [Blackboard.set_of_read h, Except.toBool]
  rw [Beliefs.write_store]

theorem look_bind (f : Option t.Carrier → Query EntryType α) :
    (look k >>= f) (b.store m) missing = f (some (Part.get k b)) (b.store m) missing := by
  rw [query_bind, look_store]

theorem look_bind_edit (f : Option t.Carrier → Edit EntryType α) :
    (liftM (look k) >>= f) ⟨b.store m, missing⟩ =
      f (some (Part.get k b)) ⟨b.store m, missing⟩ := by
  rw [edit_bind, liftM_apply]
  simp only [look_store]

theorem write_bind (v : t.Carrier) (f : Bool → Edit EntryType α) :
    (write k v >>= f) ⟨b.store m, missing⟩ = f true ⟨(Part.put k v b).store m, missing⟩ := by
  rw [edit_bind, write_held]

/-! ## Goals -/

theorem goalWritable_store : goalWritable (b.store m) missing = (true, missing) := by
  rw [goalWritable, look_bind, Option.isSome_some, if_pos rfl, look_bind]
  rfl

theorem goalWritable_bind (f : Bool → Edit EntryType α) :
    (liftM goalWritable >>= f) ⟨b.store m, missing⟩ = f true ⟨b.store m, missing⟩ := by
  rw [edit_bind, liftM_apply]
  simp only [goalWritable_store]

end Library

namespace Beliefs

/-- The beliefs of an agent that heads for `target`. -/
def headFor (b : Beliefs) (target : Vec2) : Beliefs := { b with goal := target, goalSet := true }

end Beliefs

namespace Library

theorem setGoal_store (b : Beliefs) (m : Entries EntryType) (missing : Option String)
    (target : Vec2) : setGoal target ⟨b.store m, missing⟩ =
      (.success, ⟨(b.headFor target).store m, missing⟩) := by
  rw [setGoal, goalWritable_bind, if_pos rfl, write_bind, if_pos rfl, write_bind, edit_pure]
  rfl

/-- Writing an entry and then heading for a target, both or neither: here, both. -/
theorem write_setGoal_store {t : EntryType} (b : Beliefs) (m : Entries EntryType)
    (missing : Option String) (k : Key t) [Part k] (v : t.Carrier) (target : Vec2) :
    (do
      if ← goalWritable then
        if ← write k v then setGoal target else return .failure
      else return .failure : Edit EntryType Status) ⟨b.store m, missing⟩ =
      (.success, ⟨((Part.put k v b).headFor target).store m, missing⟩) := by
  rw [goalWritable_bind, if_pos rfl, write_bind, if_pos rfl, setGoal_store]

end Library
end Forager
