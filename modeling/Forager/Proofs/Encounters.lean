import Mathlib
import Forager.Proofs.Rounding
import Forager.Proofs.Sightings

/-!
# Enemies over many frames

What is remembered of an enemy after any number of frames can be told from the frames alone: where
it was sighted, how often, and how many frames ago.

* `merge_eq`: a frame revises each enemy that is remembered, and adds those it sights first.
* `map_id_remembered`: every enemy ever sighted is remembered once, in the order of first sightings.
* `Recounts.discovered`, `Recounts.sighted`, `Recounts.drifted`: what one more frame adds to the
  account of an enemy.
* `sightings_remembered`: what is remembered of enemies recounts how they were sighted.
* `velocity_resighted`: the way between two sightings is put down to the frame of the later one. For
  an enemy that was out of view in between this is not its speed (`velocity_overestimated`).
-/
namespace Forager

/-- What a frame shows of enemies: how long it took, and the sightings. -/
structure Glimpse where
  dt : Float32
  seen : List Enemy

/-- The sighting of an enemy in a frame. -/
def Glimpse.of? (g : Glimpse) (id : EntityId) : Option Enemy := g.seen.find? (·.id == id)

namespace Enemy

/-! ## The history of an enemy -/

/-- The enemies remembered after the given frames. -/
def remembered (gs : List Glimpse) : List Enemy :=
  gs.foldl (fun known g => merge g.dt known g.seen) []

/-- The sightings of an enemy, the latest one last. -/
def sightings (gs : List Glimpse) (id : EntityId) : List Enemy := gs.filterMap (·.of? id)

/-- The frames since the latest sighting of an enemy. -/
def outOfView (gs : List Glimpse) (id : EntityId) : List Glimpse :=
  gs.rtakeWhile fun g => (g.of? id).isNone

/-- Whether what is remembered of an enemy agrees with its sightings: it stands where it was sighted
last, came there from where it was sighted before, is in view if the last frame sighted it, and is
expected where its velocity has taken it since, frame by frame. -/
structure Recounts (gs : List Glimpse) (e : Enemy) : Prop where
  account : ∃ earlier s, sightings gs e.id = earlier ++ [s] ∧
    e.position = s.position ∧ e.health = s.health ∧
    e.lastPosition = (earlier.getLast?.getD s).position
  inView : e.inView = true ↔ ∃ g, gs.getLast? = some g ∧ e.id ∈ g.seen.map (·.id)
  predicted : e.predictedPosition =
    (outOfView gs e.id).foldl (fun p g => p + e.velocity * g.dt) e.position

/-! ## The sightings of a frame -/

section Sighting

variable {g : Glimpse} {id : EntityId} {s : Enemy}

theorem id_of_of? (h : g.of? id = some s) : s.id = id :=
  beq_iff_eq.1 (List.find?_some (p := (Enemy.id · == id)) h)

theorem of?_eq_none_iff : g.of? id = none ↔ id ∉ g.seen.map (·.id) := by
  simp [Glimpse.of?]

theorem mem_of_of? (h : g.of? id = some s) : id ∈ g.seen.map (·.id) :=
  List.mem_map.2 ⟨s, List.mem_of_find?_eq_some h, id_of_of? h⟩

theorem of?_of_mem (distinct : (g.seen.map (·.id)).Nodup) (h : s ∈ g.seen) :
    g.of? s.id = some s := by
  cases found : g.of? s.id with
  | none => exact absurd (List.mem_map_of_mem h) (of?_eq_none_iff.1 found)
  | some t =>
    have there : t ∈ g.seen := List.mem_of_find?_eq_some found
    exact congrArg some (List.inj_on_of_nodup_map distinct there h (id_of_of? found))

theorem sightings_eq_nil (gs : List Glimpse) (h : id ∉ gs.flatMap fun g => g.seen.map (·.id)) :
    sightings gs id = [] := by
  refine List.filterMap_eq_nil_iff.2 fun g hg => of?_eq_none_iff.2 fun seen => h ?_
  exact List.mem_flatMap.2 ⟨g, hg, seen⟩

end Sighting

/-! ## One frame -/

section Frame

variable {dt : Float32} {known seen : List Enemy}

/-- What the sightings of a frame make of an enemy that is remembered. -/
def revisited (dt : Float32) (seen : List Enemy) (e : Enemy) : Enemy :=
  match seen.find? (·.id == e.id) with
  | some s => sighted dt s e
  | none => e

/-- What a frame makes of an enemy that is remembered. -/
def revised (g : Glimpse) (e : Enemy) : Enemy :=
  match g.of? e.id with
  | some s => sighted g.dt s e
  | none => drifted g.dt e

theorem revised_eq (g : Glimpse) (e : Enemy) :
    revised g e = revisited g.dt g.seen (drifted g.dt e) := by
  show _ = match g.of? e.id with
    | some s => sighted g.dt s (drifted g.dt e)
    | none => drifted g.dt e
  unfold revised
  split <;> rfl

theorem id_revised (g : Glimpse) (e : Enemy) : (revised g e).id = e.id := by
  unfold revised
  split <;> rfl

theorem meet_eq_of_known {s : Enemy} (once : (known.map (·.id)).Nodup)
    (h : s.id ∈ known.map (·.id)) :
    meet dt known s = known.map fun e => if e.id == s.id then sighted dt s e else e :=
  amend_eq_map (matches_iff s) once h

theorem meet_eq_of_new {s : Enemy} (h : s.id ∉ known.map (·.id)) :
    meet dt known s = known ++ [s.discovered] := by
  refine amend_of_forall_not fun e he => beq_false_of_ne fun same => h ?_
  rw [← same]
  exact List.mem_map_of_mem he

/-- An enemy sighted once in a frame is not revisited by the other sightings. -/
theorem revisited_cons {s e : Enemy} (other : s.id ∉ seen.map (·.id)) :
    revisited dt seen (if e.id == s.id then sighted dt s e else e) =
      revisited dt (s :: seen) e := by
  by_cases same : e.id = s.id
  · have unseen : seen.find? (·.id == s.id) = none := of?_eq_none_iff (g := ⟨dt, seen⟩).2 other
    have later : seen.find? (·.id == (sighted dt s e).id) = none := by
      rwa [show (sighted dt s e).id = s.id from same]
    have now : (s :: seen).find? (·.id == e.id) = some s := by
      rw [List.find?_cons, same, beq_self_eq_true]
    rw [if_pos (beq_iff_eq.2 same), revisited, revisited, later, now]
  · have before : (s :: seen).find? (·.id == e.id) = seen.find? (·.id == e.id) :=
      List.find?_cons_of_neg (mt beq_iff_eq.1 (Ne.symm same))
    rw [if_neg (mt beq_iff_eq.1 same), revisited, revisited, before]

theorem revisited_discovered {s : Enemy} (other : s.id ∉ seen.map (·.id)) :
    revisited dt seen s.discovered = s.discovered := by
  have unseen : seen.find? (·.id == s.discovered.id) = none :=
    of?_eq_none_iff (g := ⟨dt, seen⟩).2 other
  rw [revisited, unseen]

/-- Distinct sightings each change or add their own enemy. -/
theorem foldl_meet_eq (once : (known.map (·.id)).Nodup) (distinct : (seen.map (·.id)).Nodup) :
    seen.foldl (meet dt) known = known.map (revisited dt seen) ++
      (seen.filter fun s => s.id ∉ known.map (·.id)).map discovered := by
  induction seen generalizing known with
  | nil => exact (List.map_id known).symm.trans (List.append_nil _).symm
  | cons s seen ih =>
    rw [List.map_cons, List.nodup_cons] at distinct
    rw [List.foldl_cons]
    by_cases h : s.id ∈ known.map (·.id)
    -- The sighting changes its enemy in place; the later ones are of others and leave it.
    · have ids : (meet dt known s).map (·.id) = known.map (·.id) := by
        rw [meet_eq_of_known once h, List.map_map]
        refine List.map_congr_left fun e _ => ?_
        show (if e.id == s.id then sighted dt s e else e).id = e.id
        split <;> rfl
      rw [ih (by rwa [ids]) distinct.2, ids, meet_eq_of_known once h, List.map_map,
        List.filter_cons_of_neg (by simpa using h)]
      congr 1
      exact List.map_congr_left fun e _ => revisited_cons distinct.1
    -- The sighting adds its enemy, which the later ones leave, too.
    · have ids : (meet dt known s).map (·.id) = known.map (·.id) ++ [s.id] := by
        rw [meet_eq_of_new h, List.map_append]
        rfl
      have once' : ((meet dt known s).map (·.id)).Nodup :=
        nodup_map_amend (matches_iff s) (fun _ _ => rfl) once
      have others : (seen.filter fun t => t.id ∉ (meet dt known s).map (·.id)) =
          seen.filter fun t => t.id ∉ known.map (·.id) := by
        refine List.filter_congr fun t ht => ?_
        have other : t.id ≠ s.id := fun same => distinct.1 (same ▸ List.mem_map_of_mem ht)
        rw [ids]
        simp [other]
      rw [ih once' distinct.2, others, meet_eq_of_new h, List.map_append, List.map_singleton,
        revisited_discovered distinct.1, List.filter_cons_of_pos (by simpa using h), List.map_cons,
        List.append_assoc, List.singleton_append]
      congr 1
      refine List.map_congr_left fun e he => ?_
      have apart : ¬e.id = s.id := fun same => h (same ▸ List.mem_map_of_mem he)
      have step : revisited dt seen (if e.id == s.id then sighted dt s e else e) =
          revisited dt (s :: seen) e := revisited_cons distinct.1
      rwa [if_neg (mt beq_iff_eq.1 apart)] at step

/-- A frame revises each enemy that is remembered, and adds those it sights for the first time. -/
theorem merge_eq {g : Glimpse} (once : (known.map (·.id)).Nodup)
    (distinct : (g.seen.map (·.id)).Nodup) :
    merge g.dt known g.seen = known.map (revised g) ++
      (g.seen.filter fun s => s.id ∉ known.map (·.id)).map discovered := by
  have ids : (known.map (drifted g.dt)).map (·.id) = known.map (·.id) := List.map_map
  rw [merge, foldl_meet_eq (by rwa [ids]) distinct, ids, List.map_map, funext (revised_eq g)]
  rfl

end Frame

/-! ## Many frames -/

section Frames

variable {gs : List Glimpse} {g : Glimpse} {e : Enemy}

theorem remembered_snoc (gs : List Glimpse) (g : Glimpse) :
    remembered (gs ++ [g]) = merge g.dt (remembered gs) g.seen :=
  List.foldl_concat ..

theorem sightings_snoc (gs : List Glimpse) (g : Glimpse) (id : EntityId) :
    sightings (gs ++ [g]) id = sightings gs id ++ (g.of? id).toList := by
  rw [sightings, List.filterMap_append]
  cases h : g.of? id <;> simp [sightings, h]

theorem outOfView_snoc_of_some {id : EntityId} {s : Enemy} (h : g.of? id = some s) :
    outOfView (gs ++ [g]) id = [] :=
  List.rtakeWhile_concat_neg _ gs g (by simp [h])

theorem outOfView_snoc_of_none {id : EntityId} (h : g.of? id = none) :
    outOfView (gs ++ [g]) id = outOfView gs id ++ [g] :=
  List.rtakeWhile_concat_pos _ gs g (by simp [h])

/-- Every enemy ever sighted is remembered once, in the order of first sightings. -/
theorem map_id_remembered (gs : List Glimpse) :
    (remembered gs).map (·.id) = (gs.flatMap fun g => g.seen.map (·.id)).eraseDups := by
  induction gs using List.reverseRecOn with
  | nil => rfl
  | append_singleton gs g ih =>
    have ids : ((remembered gs).map (drifted g.dt)).map (·.id) =
        (gs.flatMap fun g => g.seen.map (·.id)).eraseDups := by
      rw [List.map_map]
      exact ih
    rw [remembered_snoc, merge, List.flatMap_append, List.flatMap_singleton]
    refine map_foldl_eraseDups ?_ g.seen ids
    intro _ _ s keys
    exact map_amend_eraseDups (f := sighted g.dt s) (matches_iff s) (fun _ _ => rfl) keys

theorem nodup_remembered (gs : List Glimpse) : ((remembered gs).map (·.id)).Nodup := by
  induction gs using List.reverseRecOn with
  | nil => exact List.nodup_nil
  | append_singleton gs g ih =>
    rw [remembered_snoc]
    exact (sighted_merge g.dt ih g.seen).once

theorem remembered_snoc_eq (distinct : (g.seen.map (·.id)).Nodup) :
    remembered (gs ++ [g]) = (remembered gs).map (revised g) ++
      (g.seen.filter fun s => s.id ∉ (remembered gs).map (·.id)).map discovered := by
  rw [remembered_snoc, merge_eq (nodup_remembered gs) distinct]

/-- The last frame of several sights an enemy if it is among its sightings. -/
theorem sightedLast_snoc {id : EntityId} :
    (∃ f, (gs ++ [g]).getLast? = some f ∧ id ∈ f.seen.map (·.id)) ↔ id ∈ g.seen.map (·.id) := by
  rw [List.getLast?_concat]
  simp

theorem Recounts.discovered {s : Enemy} (distinct : (g.seen.map (·.id)).Nodup) (there : s ∈ g.seen)
    (new : s.id ∉ (remembered gs).map (·.id)) : Recounts (gs ++ [g]) s.discovered := by
  have seen : g.of? s.discovered.id = some s := of?_of_mem distinct there
  have unseen : sightings gs s.discovered.id = [] := by
    rw [map_id_remembered, List.mem_eraseDups] at new
    exact sightings_eq_nil gs new
  constructor
  · refine ⟨[], s, ?_, rfl, rfl, rfl⟩
    rw [sightings_snoc, unseen, seen]
    rfl
  · rw [sightedLast_snoc]
    exact iff_of_true rfl (mem_of_of? seen)
  · rw [outOfView_snoc_of_some seen]
    rfl

theorem Recounts.sighted {s : Enemy} (h : Recounts gs e) (seen : g.of? e.id = some s) :
    Recounts (gs ++ [g]) (sighted g.dt s e) := by
  obtain ⟨earlier, before, account, place, -, -⟩ := h.account
  constructor
  · refine ⟨earlier ++ [before], s, ?_, rfl, rfl, ?_⟩
    · rw [sightings_snoc]
      show sightings gs e.id ++ (g.of? e.id).toList = _
      rw [account, seen]
      rfl
    · rw [List.getLast?_concat]
      exact place
  · rw [sightedLast_snoc]
    exact iff_of_true rfl (mem_of_of? seen)
  · have inView : outOfView (gs ++ [g]) (Enemy.sighted g.dt s e).id = [] :=
      outOfView_snoc_of_some seen
    rw [inView]
    rfl

theorem Recounts.drifted (h : Recounts gs e) (unseen : g.of? e.id = none) :
    Recounts (gs ++ [g]) (drifted g.dt e) := by
  obtain ⟨earlier, s, account, facts⟩ := h.account
  constructor
  · refine ⟨earlier, s, ?_, facts⟩
    rw [sightings_snoc]
    show sightings gs e.id ++ (g.of? e.id).toList = _
    rw [account, unseen]
    exact List.append_nil _
  · rw [sightedLast_snoc]
    exact iff_of_false Bool.false_ne_true (of?_eq_none_iff.1 unseen)
  · have longer : outOfView (gs ++ [g]) (Enemy.drifted g.dt e).id = outOfView gs e.id ++ [g] :=
      outOfView_snoc_of_none unseen
    rw [longer, List.foldl_concat]
    show e.predictedPosition + e.velocity * g.dt = _
    rw [h.predicted]
    rfl

theorem Recounts.revised (h : Recounts gs e) : Recounts (gs ++ [g]) (revised g e) := by
  unfold Enemy.revised
  split
  · rename_i s seen
    exact h.sighted seen
  · rename_i unseen
    exact h.drifted unseen

theorem recounts_remembered (distinct : ∀ g ∈ gs, (g.seen.map (·.id)).Nodup) :
    ∀ e ∈ remembered gs, Recounts gs e := by
  induction gs using List.reverseRecOn with
  | nil => nofun
  | append_singleton gs g ih =>
    rw [List.forall_mem_append, List.forall_mem_singleton] at distinct
    intro e he
    rw [remembered_snoc_eq distinct.2, List.mem_append, List.mem_map, List.mem_map] at he
    rcases he with ⟨old, known, rfl⟩ | ⟨s, new, rfl⟩
    · exact (ih distinct.1 old known).revised
    · rw [List.mem_filter, decide_eq_true_iff] at new
      exact .discovered distinct.2 new.1 new.2

/-- A frame leaves the velocity of an enemy that it does not sight, or if no time passes. -/
theorem velocity_revised (h : g.of? e.id = none ∨ ¬0 < g.dt) :
    (revised g e).velocity = e.velocity := by
  unfold revised
  split
  · rename_i s seen
    have still : ¬0 < g.dt := h.resolve_left (by rw [seen]; nofun)
    exact if_neg still
  · rfl

end Frames

/-- What is remembered of enemies recounts how they were sighted, if no frame sights one twice:
everyone ever sighted is remembered, once, in the order of first sightings, and what is remembered
of each agrees with its sightings. A frame that does not sight an enemy leaves its velocity, and so
does one in which no time passes. -/
theorem sightings_remembered (gs : List Glimpse)
    (distinct : ∀ g ∈ gs, (g.seen.map (·.id)).Nodup) :
    (remembered gs).map (·.id) = (gs.flatMap fun g => g.seen.map (·.id)).eraseDups ∧
      ((remembered gs).map (·.id)).Nodup ∧
      (∀ e ∈ remembered gs, Recounts gs e) ∧
      ∀ before g, before ++ [g] <+: gs → ∀ e ∈ remembered before,
        ∃ e' ∈ remembered (before ++ [g]), e'.id = e.id ∧
          ((g.of? e.id = none ∨ ¬0 < g.dt) → e'.velocity = e.velocity) := by
  refine ⟨map_id_remembered gs, nodup_remembered gs, recounts_remembered distinct, ?_⟩
  intro before g initial e he
  have last : (g.seen.map (·.id)).Nodup :=
    distinct g (initial.subset (List.mem_append_right before (List.mem_singleton_self g)))
  refine ⟨revised g e, ?_, id_revised g e, velocity_revised⟩
  rw [remembered_snoc_eq last]
  exact List.mem_append_left _ (List.mem_map_of_mem he)

/-- Two enemies, one of which goes out of view. -/
theorem sightings_remembered_twoEnemies :
    let first : Enemy := ⟨1, ⟨0, 0⟩, .zero, .zero, .zero, 3, true⟩
    let second : Enemy := ⟨2, ⟨5, 0⟩, .zero, .zero, .zero, 3, true⟩
    let gs : List Glimpse := [⟨0.5, [first, second]⟩, ⟨0.5, [{ first with position := ⟨2, 0⟩ }]⟩]
    (∀ g ∈ gs, (g.seen.map (·.id)).Nodup) ∧ (remembered gs).map (·.id) = [1, 2] ∧
      ∀ e ∈ remembered gs, Recounts gs e := by
  intro first second gs
  have distinct : ∀ g ∈ gs, (g.seen.map (·.id)).Nodup := by decide
  have account := sightings_remembered gs distinct
  exact ⟨distinct, account.1, account.2.2.1⟩

/-! ## Velocities -/

/-- How long the given frames took. -/
def elapsed (gs : List Glimpse) : Float32 := gs.foldl (fun t g => t + g.dt) 0

/-- An enemy that is sighted again is taken to have come from its sighting before within the frame,
which is the time between the two sightings if it was never out of view. -/
theorem velocity_resighted {gs : List Glimpse} {g : Glimpse} {id : EntityId} {earlier : List Enemy}
    {s s' : Enemy} (distinct : ∀ f ∈ gs ++ [g], (f.seen.map (·.id)).Nodup) (moves : 0 < g.dt)
    (before : sightings gs id = earlier ++ [s]) (again : g.of? id = some s') :
    ∃ e ∈ remembered (gs ++ [g]), e.id = id ∧
      e.velocity = (s'.position - s.position) / g.dt ∧
      (outOfView gs id = [] →
        e.velocity = (s'.position - s.position) / elapsed (outOfView gs id ++ [g])) := by
  rw [List.forall_mem_append, List.forall_mem_singleton] at distinct
  have known : id ∈ (remembered gs).map (·.id) := by
    rw [map_id_remembered, List.mem_eraseDups]
    by_contra unseen
    rw [sightings_eq_nil gs unseen] at before
    exact List.append_ne_nil_of_right_ne_nil earlier (List.cons_ne_nil s []) before.symm
  obtain ⟨e, he, rfl⟩ := List.mem_map.1 known
  obtain ⟨earlier', t, account, place, -, -⟩ := (recounts_remembered distinct.1 e he).account
  obtain rfl : t = s := by
    rw [before] at account
    exact (List.singleton_inj.1 (List.append_inj_right' account rfl)).symm
  have now : revised g e = sighted g.dt s' e := by rw [revised, again]
  have velocity : (revised g e).velocity = (s'.position - t.position) / g.dt := by
    rw [now, ← place]
    exact if_pos moves
  refine ⟨revised g e, ?_, id_revised g e, velocity, fun inView => ?_⟩
  · rw [remembered_snoc_eq distinct.2]
    exact List.mem_append_left _ (List.mem_map_of_mem he)
  · have frame : elapsed [g] = g.dt := Single.zero_add_of_pos moves
    rw [inView, List.nil_append, frame, velocity]

/-- An enemy that moves by two units in half a second. -/
theorem velocity_resighted_inView :
    let seen (x : Float32) : Enemy := ⟨1, ⟨x, 0⟩, .zero, .zero, .zero, 3, true⟩
    ∃ e ∈ remembered [⟨0.5, [seen 0]⟩, ⟨0.5, [seen 2]⟩], e.id = 1 ∧ e.velocity = ⟨4, 0⟩ := by
  intro seen
  have before : sightings [⟨0.5, [seen 0]⟩] 1 = [] ++ [seen 0] := by decide
  have again : (⟨0.5, [seen 2]⟩ : Glimpse).of? 1 = some (seen 2) := by decide
  obtain ⟨e, he, same, velocity, -⟩ :=
    velocity_resighted (by decide) (by decide +kernel) before again
  refine ⟨e, he, same, velocity.trans ?_⟩
  decide +kernel

/-- An enemy that moves by two units in two seconds, and is out of view for the first of them. -/
theorem velocity_overestimated :
    ¬∀ (gs : List Glimpse) (g : Glimpse) (id : EntityId) (earlier : List Enemy) (s s' : Enemy),
      (∀ f ∈ gs ++ [g], (f.seen.map (·.id)).Nodup) → (∀ f ∈ gs ++ [g], 0 < f.dt) →
      sightings gs id = earlier ++ [s] → g.of? id = some s' →
      ∀ e ∈ remembered (gs ++ [g]), e.id = id →
        e.velocity = (s'.position - s.position) / elapsed (outOfView gs id ++ [g]) := by
  intro claim
  let seen (x : Float32) : Enemy := ⟨1, ⟨x, 0⟩, .zero, .zero, .zero, 3, true⟩
  let before : List Glimpse := [⟨1, [seen 0]⟩, ⟨1, []⟩]
  let last : Glimpse := ⟨1, [seen 2]⟩
  have speed := claim before last 1 [] (seen 0) (seen 2) (by decide) (by decide +kernel)
    (by decide) (by decide)
  have slow : ((seen 2).position - (seen 0).position) / elapsed (outOfView before 1 ++ [last]) =
      ⟨1, 0⟩ := by decide +kernel
  have fast : ∃ e ∈ remembered (before ++ [last]), e.id = 1 ∧ e.velocity = ⟨2, 0⟩ := by
    decide +kernel
  obtain ⟨e, he, same, two⟩ := fast
  rw [slow] at speed
  have one : e.velocity = ⟨1, 0⟩ := speed e he same
  rw [two] at one
  revert one
  decide +kernel

end Enemy
end Forager
