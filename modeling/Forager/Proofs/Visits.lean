import Mathlib
import Forager.Perception.Houses
import Forager.Proofs.Rounding

/-!
# Houses over many frames

What is remembered of a house after any number of frames can be told from the frames alone: how it
was seen first, and which frames have passed since the agent was in it.

* `map_id_remembered`: every house ever seen is remembered once, in the order of first sightings.
* `merge_eq`: in a frame one house is visited and all others age.
* `Timed.discovered`, `Timed.visited`, `Timed.aged`: what one more frame adds to a timer.
* `visits_remembered`: what is remembered of houses tells when they were visited last.
-/
namespace Forager

/-- What a frame shows of houses: how long it took, where the agent stands, and the sightings. -/
structure Outlook where
  dt : Float32
  position : Vec2
  seen : List House

namespace House

/-! ## The history of a house -/

/-- The houses remembered after the given frames. -/
def remembered (os : List Outlook) : List House :=
  os.foldl (fun known o => (merge o.dt o.position known o.seen).1) []

/-- The houses remembered once the sightings of a frame that follows others are in. -/
def met (before : List Outlook) (o : Outlook) : List House := o.seen.foldl meet (remembered before)

/-- Whether a frame that follows others finds the agent in a house. -/
def inside (before : List Outlook) (o : Outlook) : Bool :=
  (merge o.dt o.position (remembered before) o.seen).2

/-- The first of the houses around a point. -/
def around? (position : Vec2) (known : List House) : Option EntityId :=
  (known.find? (·.contains position)).map (·.id)

/-- Whether a frame that follows others is a visit to a house: it is the first of those around the
agent. -/
def Visits (before : List Outlook) (o : Outlook) (id : EntityId) : Prop :=
  around? o.position (remembered (before ++ [o])) = some id

/-- Whether none of the frames that follow others is a visit to a house. -/
def Unvisited (before after : List Outlook) (id : EntityId) : Prop :=
  ∀ earlier o, earlier ++ [o] <+: after → ¬Visits (before ++ earlier) o id

/-- A timer that has run through the given frames. -/
def total (start : Float32) (os : List Outlook) : Float32 := os.foldl (fun t o => t + o.dt) start

/-- Whether a timer tells the time since the last visit to a house, or has run on from the greatest
number since the house was first seen, if it was never visited. -/
inductive Timed (os : List Outlook) (id : EntityId) (seconds : Float32) : Prop where
  | visited (before : List Outlook) (o : Outlook) (after : List Outlook)
      (frames : os = before ++ o :: after) (visit : Visits before o id)
      (last : Unvisited (before ++ [o]) after id) (sum : seconds = total 0 after)
  | never (before : List Outlook) (o : Outlook) (after : List Outlook)
      (frames : os = before ++ o :: after)
      (new : id ∉ before.flatMap fun p => p.seen.map (·.id)) (shown : id ∈ o.seen.map (·.id))
      (unvisited : Unvisited [] os id) (sum : seconds = total Single.greatest (o :: after))

/-- Whether what is remembered of a house agrees with the frames: it is as it was seen first, and
its timer tells when it was visited last. -/
structure Recollects (os : List Outlook) (h : House) : Prop where
  first : ∃ s, (os.flatMap (·.seen)).find? (·.id == h.id) = some s ∧
    h.center = s.center ∧ h.size = s.size
  timed : Timed os h.id h.secondsSinceLastVisit

/-! ## The sightings of a frame -/

section Meet

variable {known seen : List House}

theorem matches_iff (s h : House) : (h.id == s.id) = true ↔ h.id = s.unvisited.id := beq_iff_eq

/-- A house that is remembered once a frame's sightings are in was there before, or is new and as
it was seen first. -/
theorem mem_foldl_meet {h : House} (there : h ∈ seen.foldl meet known) :
    h ∈ known ∨ h.id ∉ known.map (·.id) ∧
      ∃ s, seen.find? (·.id == h.id) = some s ∧ h = s.unvisited := by
  induction seen generalizing known with
  | nil => exact .inl there
  | cons s seen ih =>
    have ids (k : EntityId) : k ∈ (meet known s).map (·.id) ↔ k ∈ known.map (·.id) ∨ k = s.id :=
      mem_map_amend (matches_iff s) fun _ _ => rfl
    rcases ih there with earlier | ⟨new, t, shown, rfl⟩
    · have grown : meet known s =
          if known.any (·.id == s.id) then known else known ++ [s.unvisited] := amend_id
      rw [grown] at earlier
      split at earlier
      · exact .inl earlier
      · rename_i unknown
        rcases List.mem_append.1 earlier with old | added
        · exact .inl old
        · obtain rfl : h = s.unvisited := List.mem_singleton.1 added
          refine .inr ⟨fun old => unknown ?_, s, ?_, rfl⟩
          · obtain ⟨k, hk, same⟩ := List.mem_map.1 old
            exact List.any_eq_true.2 ⟨k, hk, beq_iff_eq.2 same⟩
          · exact List.find?_cons_of_pos (beq_self_eq_true s.id)
    · have other : t.unvisited.id ≠ s.id := fun same => new ((ids _).2 (.inr same))
      refine .inr ⟨fun old => new ((ids _).2 (.inl old)), t, ?_, rfl⟩
      rw [List.find?_cons, beq_false_of_ne other.symm]
      exact shown

theorem nodup_foldl_meet (once : (known.map (·.id)).Nodup) :
    ((seen.foldl meet known).map (·.id)).Nodup := by
  induction seen generalizing known with
  | nil => exact once
  | cons s seen ih => exact ih (nodup_map_amend (matches_iff s) (fun _ _ => rfl) once)

end Meet

/-! ## One frame -/

section Frame

variable {dt : Float32} {position : Vec2} {known : List House}

/-- What the passing of time makes of a house. -/
def passed (dt : Float32) (visit : Option EntityId) (h : House) : House :=
  if visit = some h.id then h.visited else h.aged dt

theorem contains_passed (visit : Option EntityId) (h : House) (p : Vec2) :
    (passed dt visit h).contains p = h.contains p := by
  unfold passed
  split <;> rfl

theorem id_passed (visit : Option EntityId) (h : House) : (passed dt visit h).id = h.id := by
  unfold passed
  split <;> rfl

/-- Among distinct houses, the first around the agent is visited and all others age. -/
theorem elapse_eq_map (once : (known.map (·.id)).Nodup) :
    elapse dt position known = known.map (passed dt (around? position known)) := by
  induction known with
  | nil => rfl
  | cons h hs ih =>
    rw [List.map_cons, List.nodup_cons] at once
    rw [elapse, List.map_cons]
    split
    · rename_i here
      have visit : around? position (h :: hs) = some h.id := by
        rw [around?, List.find?_cons, here]
        rfl
      have others : ∀ k ∈ hs, passed dt (some h.id) k = k.aged dt := by
        intro k hk
        refine if_neg fun same => once.1 ?_
        rw [Option.some_inj.1 same]
        exact List.mem_map_of_mem hk
      rw [visit, List.map_congr_left others, passed, if_pos rfl]
    · rename_i elsewhere
      have visit : around? position (h :: hs) = around? position hs := by
        rw [around?, List.find?_cons, Bool.eq_false_iff.2 elsewhere]
        rfl
      have other : around? position hs ≠ some h.id := by
        intro same
        obtain ⟨k, found, sameId⟩ := Option.map_eq_some_iff.1 same
        refine once.1 ?_
        rw [← sameId]
        exact List.mem_map_of_mem (List.mem_of_find?_eq_some found)
      rw [visit, ih once.2, passed, if_neg other]

theorem around?_map_passed (visit : Option EntityId) :
    around? position (known.map (passed dt visit)) = around? position known := by
  have same : (fun h : House => h.contains position) ∘ passed dt visit = (·.contains position) :=
    funext fun h => contains_passed visit h position
  rw [around?, List.find?_map, same, Option.map_map, around?]
  congr 1
  exact funext (id_passed visit)

end Frame

/-! ## Many frames -/

section Frames

variable {os : List Outlook} {o : Outlook} {id : EntityId} {seconds : Float32}

theorem remembered_concat (os : List Outlook) (o : Outlook) :
    remembered (os ++ [o]) = elapse o.dt o.position (met os o) :=
  List.foldl_concat ..

theorem map_id_elapse (dt : Float32) (position : Vec2) (hs : List House) :
    (elapse dt position hs).map (·.id) = hs.map (·.id) := by
  induction hs with
  | nil => rfl
  | cons h hs ih =>
    rw [elapse]
    split
    · rw [List.map_cons, List.map_map]
      rfl
    · rw [List.map_cons, ih]
      rfl

/-- Every house ever seen is remembered once, in the order of first sightings. -/
theorem map_id_remembered (os : List Outlook) :
    (remembered os).map (·.id) = (os.flatMap fun o => o.seen.map (·.id)).eraseDups := by
  induction os using List.reverseRecOn with
  | nil => rfl
  | append_singleton os o ih =>
    rw [remembered_concat, map_id_elapse, List.flatMap_append, List.flatMap_singleton]
    refine map_foldl_eraseDups ?_ o.seen ih
    intro _ _ s keys
    exact map_amend_eraseDups (matches_iff s) (fun _ _ => rfl) keys

theorem nodup_remembered (os : List Outlook) : ((remembered os).map (·.id)).Nodup := by
  induction os using List.reverseRecOn with
  | nil => exact List.nodup_nil
  | append_singleton os o ih =>
    rw [remembered_concat, map_id_elapse]
    exact nodup_foldl_meet ih

/-- In a frame one house is visited and all others age. -/
theorem remembered_snoc (os : List Outlook) (o : Outlook) : remembered (os ++ [o]) =
    (met os o).map (passed o.dt (around? o.position (met os o))) := by
  rw [remembered_concat]
  exact elapse_eq_map (nodup_foldl_meet (nodup_remembered os))

theorem visits_iff : Visits os o id ↔ around? o.position (met os o) = some id := by
  rw [Visits, remembered_snoc, around?_map_passed]

theorem inside_iff :
    inside os o = true ↔ ∃ h ∈ remembered (os ++ [o]), h.contains o.position = true := by
  have same : inside os o = (remembered (os ++ [o])).any (·.contains o.position) := by
    rw [remembered_concat, any_contains_elapse]
    rfl
  rw [same, List.any_eq_true]

/-- A house that is visited has been seen. -/
theorem Visits.shown (visit : Visits os o id) :
    id ∈ (os ++ [o]).flatMap fun p => p.seen.map (·.id) := by
  obtain ⟨h, found, rfl⟩ := Option.map_eq_some_iff.1 visit
  rw [← List.mem_eraseDups, ← map_id_remembered]
  exact List.mem_map_of_mem (List.mem_of_find?_eq_some found)

/-! ## Timers -/

theorem unvisited_nil (before : List Outlook) : Unvisited before [] id := by
  intro earlier o initial
  exact absurd (List.prefix_nil.1 initial) (List.concat_ne_nil o earlier)

theorem Unvisited.snoc {before after : List Outlook} (h : Unvisited before after id)
    (elsewhere : ¬Visits (before ++ after) o id) : Unvisited before (after ++ [o]) id := by
  intro earlier p initial
  rcases List.prefix_concat_iff.1 initial with same | initial
  · obtain ⟨rfl, last⟩ := List.append_inj' same rfl
    obtain rfl := List.singleton_inj.1 last
    exact elsewhere
  · exact h earlier p initial

theorem unvisited_of_new (new : id ∉ os.flatMap fun p => p.seen.map (·.id)) :
    Unvisited [] os id := by
  rintro earlier o ⟨later, rfl⟩ visit
  refine new ?_
  rw [List.flatMap_append]
  exact List.mem_append_left _ visit.shown

theorem Timed.discovered (new : id ∉ os.flatMap fun p => p.seen.map (·.id))
    (shown : id ∈ o.seen.map (·.id)) (elsewhere : ¬Visits os o id) :
    Timed (os ++ [o]) id (Single.greatest + o.dt) :=
  .never os o [] rfl new shown ((unvisited_of_new new).snoc elsewhere) rfl

theorem Timed.now (visit : Visits os o id) : Timed (os ++ [o]) id 0 :=
  .visited os o [] rfl visit (unvisited_nil _) rfl

theorem Timed.aged (h : Timed os id seconds) (elsewhere : ¬Visits os o id) :
    Timed (os ++ [o]) id (seconds + o.dt) := by
  cases h with
  | visited before p after frames visit last sum =>
    subst frames
    rw [List.append_cons] at elsewhere
    refine .visited before p (after ++ [o]) ?_ visit (last.snoc elsewhere) ?_
    · rw [List.append_assoc, List.cons_append]
    · rw [sum, total, total, List.foldl_concat]
  | never before p after frames new shown unvisited sum =>
    subst frames
    refine .never before p (after ++ [o]) ?_ new shown (unvisited.snoc elsewhere) ?_
    · rw [List.append_assoc, List.cons_append]
    · rw [sum, total, total, ← List.cons_append, List.foldl_concat]

/-- A timer that never goes back is never less than it was. -/
theorem start_le_total {start : Float32} (from0 : 0 ≤ start) (forward : ∀ o ∈ os, 0 ≤ o.dt) :
    start ≤ total start os := by
  induction os using List.reverseRecOn with
  | nil =>
    have number := (Single.isNaN_of_le from0).2
    exact or_self_iff.1 (Single.le_total number number)
  | append_singleton os o ih =>
    rw [List.forall_mem_append, List.forall_mem_singleton] at forward
    have later := ih forward.1
    rw [total, List.foldl_concat]
    exact Single.le_trans later (Single.le_add (Single.le_trans from0 later) forward.2)

/-- A house that was never visited is due. -/
theorem Timed.isDue {h : House} (timed : Timed os h.id h.secondsSinceLastVisit)
    (forward : ∀ o ∈ os, 0 ≤ o.dt) (unvisited : Unvisited [] os h.id) {revisit : Float32}
    (finite : revisit.isFinite = true) : h.isDue revisit = true := by
  cases timed with
  | visited before o after frames visit last sum =>
    refine absurd visit (unvisited before o ⟨after, ?_⟩)
    rw [frames, List.append_assoc, List.singleton_append]
  | never before o after frames new shown unvisited sum =>
    have later : ∀ p ∈ o :: after, 0 ≤ p.dt := fun p hp =>
      forward p (frames ▸ List.mem_append_right before hp)
    have long : Single.greatest ≤ h.secondsSinceLastVisit := by
      rw [sum]
      exact start_le_total (by decide +kernel) later
    exact decide_eq_true (Single.le_trans (Single.le_greatest finite) long)

/-! ## What is remembered -/

theorem Recollects.of_passed {h : House}
    (first : ∃ s, ((os ++ [o]).flatMap (·.seen)).find? (·.id == h.id) = some s ∧
      h.center = s.center ∧ h.size = s.size)
    (aged : ¬Visits os o h.id → Timed (os ++ [o]) h.id (h.secondsSinceLastVisit + o.dt)) :
    Recollects (os ++ [o]) (passed o.dt (around? o.position (met os o)) h) := by
  by_cases visit : around? o.position (met os o) = some h.id
  · rw [passed, if_pos visit]
    exact ⟨first, .now (visits_iff.2 visit)⟩
  · rw [passed, if_neg visit]
    exact ⟨first, aged (mt visits_iff.1 visit)⟩

theorem Recollects.discovered {s : House} (new : s.id ∉ (remembered os).map (·.id))
    (shown : o.seen.find? (·.id == s.id) = some s) :
    Recollects (os ++ [o]) (passed o.dt (around? o.position (met os o)) s.unvisited) := by
  rw [map_id_remembered, List.mem_eraseDups] at new
  have there : s.id ∈ o.seen.map (·.id) := List.mem_map_of_mem (List.mem_of_find?_eq_some shown)
  have unseen : (os.flatMap (·.seen)).find? (·.id == s.id) = none := by
    refine List.find?_eq_none.2 fun h hh same => new ?_
    rw [← beq_iff_eq.1 same, ← List.map_flatMap]
    exact List.mem_map_of_mem hh
  refine .of_passed ⟨s, ?_, rfl, rfl⟩ (Timed.discovered new there)
  rw [List.flatMap_append, List.flatMap_singleton, List.find?_append]
  show ((os.flatMap (·.seen)).find? (·.id == s.id)).or (o.seen.find? (·.id == s.id)) = some s
  rw [unseen, shown, Option.none_or]

theorem Recollects.passed {h : House} (recollects : Recollects os h) :
    Recollects (os ++ [o]) (passed o.dt (around? o.position (met os o)) h) := by
  obtain ⟨s, found, same⟩ := recollects.first
  refine .of_passed ⟨s, ?_, same⟩ recollects.timed.aged
  rw [List.flatMap_append, List.find?_append, found, Option.some_or]

/-- What is remembered of each house agrees with the frames. -/
theorem recollects_remembered (os : List Outlook) : ∀ h ∈ remembered os, Recollects os h := by
  induction os using List.reverseRecOn with
  | nil => nofun
  | append_singleton os o ih =>
    intro h hh
    rw [remembered_snoc] at hh
    obtain ⟨old, there, rfl⟩ := List.mem_map.1 hh
    -- Either the house was remembered before the frame, or the frame is the first to show it.
    rcases mem_foldl_meet there with known | ⟨new, s, shown, rfl⟩
    · exact (ih old known).passed
    · exact .discovered new shown

end Frames

/-- What is remembered of houses tells when they were visited last, if time does not go back:
every house ever seen is remembered once, in the order of first sightings and as it was first seen.
A frame finds the agent inside if some house that is remembered is around it; the first of these has
its timer back at zero, and the timer of each house counts the frames since this last happened to
it. A house to which it never happened is due, whatever the revisit interval. -/
theorem visits_remembered (os : List Outlook) (forward : ∀ o ∈ os, 0 ≤ o.dt) :
    (remembered os).map (·.id) = (os.flatMap fun o => o.seen.map (·.id)).eraseDups ∧
      ((remembered os).map (·.id)).Nodup ∧
      (∀ h ∈ remembered os, Recollects os h) ∧
      (∀ before o, before ++ [o] <+: os →
        (inside before o = true ↔
          ∃ h ∈ remembered (before ++ [o]), h.contains o.position = true) ∧
        ∀ h ∈ remembered (before ++ [o]), Visits before o h.id → h.secondsSinceLastVisit = 0) ∧
      ∀ h ∈ remembered os, Unvisited [] os h.id →
        ∀ revisit : Float32, revisit.isFinite = true → h.isDue revisit = true := by
  refine ⟨map_id_remembered os, nodup_remembered os, recollects_remembered os, ?_, ?_⟩
  · intro before o _
    refine ⟨inside_iff, fun h hh visit => ?_⟩
    rw [remembered_snoc] at hh
    obtain ⟨k, -, rfl⟩ := List.mem_map.1 hh
    rw [visits_iff, id_passed] at visit
    rw [passed, if_pos visit]
    rfl
  · intro h hh unvisited revisit finite
    exact (recollects_remembered os h hh).timed.isDue forward unvisited finite

/-- Two houses, the agent in the first of them and then outside. -/
theorem visits_remembered_twoHouses :
    let first : House := ⟨1, .zero, ⟨10, 10⟩, 0⟩
    let second : House := ⟨2, ⟨50, 0⟩, ⟨10, 10⟩, 0⟩
    let os : List Outlook := [⟨0.5, ⟨1, 1⟩, [first, second]⟩, ⟨0.5, ⟨20, 0⟩, []⟩]
    (∀ o ∈ os, 0 ≤ o.dt) ∧ (remembered os).map (·.id) = [1, 2] ∧
      (remembered os).map (·.secondsSinceLastVisit) = [0.5, Single.greatest] ∧
      ∀ h ∈ remembered os, Recollects os h := by
  intro first second os
  have forward : ∀ o ∈ os, 0 ≤ o.dt := by decide +kernel
  have account := visits_remembered os forward
  exact ⟨forward, account.1, by decide +kernel, account.2.2.1⟩

end House
end Forager
