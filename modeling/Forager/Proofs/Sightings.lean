import Forager.Perception.Enemies

/-!
# Remembered enemies and the sightings of a frame

After a frame every enemy is remembered once, and those in view are the ones sighted: each stands
where its last sighting of the frame put it. A sighting repeated within a frame only replaces the
one before.

* `Enemy.sighted_meet`: what one more sighting does.
* `Enemy.mem_map_id_merge`: who is remembered after a frame.
* `Enemy.sighted_merge`: what is remembered of them.
-/
namespace Forager.Enemy

/-- The last of several sightings of an enemy. -/
def lastSighting? (seen : List Enemy) (id : EntityId) : Option Enemy :=
  (seen.filter (·.id == id)).getLast?

/-- What is remembered of enemies after the given sightings. -/
structure Sighted (seen known : List Enemy) : Prop where
  once : (known.map (·.id)).Nodup
  inView : ∀ e ∈ known, e.inView = true ↔ e.id ∈ seen.map (·.id)
  placed : ∀ e ∈ known, ∀ s, lastSighting? seen e.id = some s →
    e.position = s.position ∧ e.predictedPosition = s.position

theorem lastSighting?_append (seen : List Enemy) (s : Enemy) (id : EntityId) :
    lastSighting? (seen ++ [s]) id = if s.id = id then some s else lastSighting? seen id := by
  by_cases same : s.id = id
  · simp [lastSighting?, List.filter_append, same]
  · simp [lastSighting?, List.filter_append, same]

/-- Before the first sighting nobody is in view. -/
theorem sighted_drifted (dt : Float32) {known : List Enemy} (once : (known.map (·.id)).Nodup) :
    Sighted [] (known.map (drifted dt)) where
  once := by
    rw [List.map_map]
    exact once
  inView := by
    intro e he
    obtain ⟨old, -, rfl⟩ := List.mem_map.1 he
    exact iff_of_false Bool.false_ne_true List.not_mem_nil
  placed := nofun

section Meet

variable (dt : Float32) {seen known : List Enemy} (s : Enemy)

theorem matches_iff (e : Enemy) : (e.id == s.id) = true ↔ e.id = s.discovered.id := beq_iff_eq

/-- An enemy met just now is the sighted one, or is as it was. -/
theorem mem_meet (once : (known.map (·.id)).Nodup) {e : Enemy} (he : e ∈ meet dt known s) :
    if e.id = s.id then e.inView = true ∧ e.position = s.position ∧ e.predictedPosition = s.position
    else e ∈ known := by
  split
  · rename_i same
    rcases eq_of_mem_amend (matches_iff s) once he (beq_iff_eq.2 same) with ⟨old, -, rfl⟩ | rfl
    · exact ⟨rfl, rfl, rfl⟩
    · exact ⟨rfl, rfl, rfl⟩
  · rename_i other
    have keeps : ∀ e : Enemy, e.id == s.id → (sighted dt s e).id == s.id := fun _ same => same
    exact mem_of_mem_amend keeps (beq_self_eq_true s.discovered.id) he (mt beq_iff_eq.1 other)

theorem sighted_meet (h : Sighted seen known) : Sighted (seen ++ [s]) (meet dt known s) where
  once := nodup_map_amend (matches_iff s) (fun _ _ => rfl) h.once
  inView := by
    intro e he
    have now := mem_meet dt s h.once he
    rw [List.map_append, List.mem_append, List.map_singleton, List.mem_singleton]
    split at now
    · rename_i same
      exact iff_of_true now.1 (.inr same)
    · rename_i other
      rw [h.inView e now, or_iff_left other]
  placed := by
    intro e he s' last
    have now := mem_meet dt s h.once he
    rw [lastSighting?_append] at last
    by_cases same : e.id = s.id
    · rw [if_pos same] at now
      rw [if_pos same.symm] at last
      cases last
      exact now.2
    · rw [if_neg same] at now
      rw [if_neg (Ne.symm same)] at last
      exact h.placed e now s' last

theorem mem_map_id_meet {id : EntityId} :
    id ∈ (meet dt known s).map (·.id) ↔ id ∈ known.map (·.id) ∨ id = s.id :=
  mem_map_amend (f := sighted dt s) (matches_iff s) fun _ _ => rfl

end Meet

theorem mem_map_id_merge (dt : Float32) {id : EntityId} (known seen : List Enemy) :
    id ∈ (merge dt known seen).map (·.id) ↔ id ∈ known.map (·.id) ∨ id ∈ seen.map (·.id) := by
  rw [merge, mem_map_foldl fun _ s _ => mem_map_id_meet dt s, List.map_map]
  rfl

/-- What is remembered of enemies after a frame, if each was remembered once before it. -/
theorem sighted_merge (dt : Float32) {known : List Enemy} (once : (known.map (·.id)).Nodup)
    (seen : List Enemy) : Sighted seen (merge dt known seen) := by
  have grown : ∀ later earlier now, Sighted earlier now →
      Sighted (earlier ++ later) (later.foldl (meet dt) now) := by
    intro later
    induction later with
    | nil => exact fun earlier now h => (List.append_nil earlier).symm ▸ h
    | cons s later ih =>
      intro earlier now h
      rw [List.append_cons]
      exact ih _ _ (sighted_meet dt s h)
  exact grown seen [] _ (sighted_drifted dt once)

end Forager.Enemy
