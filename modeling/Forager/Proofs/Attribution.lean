import Forager.Proofs.Admission
import Mathlib.Data.List.Basic

/-!
# Which walks the events of a tick come from

A tree numbers the events of a walk by the updates it has completed before. An update that fails
reports its walk up to the fault and completes nothing, so the next update uses its number again: to
group events by number is not to group them by update. The events of one number are those of any
failed updates, and then of at most one completed update, and no update comes in between.

* `ticks_calls`, `last_calls`, `sink_calls`: what calls do to the count, the last status, the log.
* `Numbered`: each update is numbered by those completed before it.
* `group_of_numbered`, `flatMap_eq_groups`: what the updates of one number are, and that the groups
  follow each other.
* `events_attributed`: all of it, for every tree that keeps a log from the start.
-/
namespace Forager.BehaviourTree

variable {τ μ : Type} [EntryTypes τ]

/-! ## One update -/

/-- Whether an update succeeds. -/
def completes (t : BehaviourTree τ μ) : Bool := t.update.1.isOk

/-- The events that an update reports. -/
def reports (t : BehaviourTree τ μ) : List Event := t.walk?.toList.flatMap (·.events)

/-- The status that the walk of an update comes to. -/
def verdict? (t : BehaviourTree τ μ) : Option Status := t.walk?.map (·.status)

theorem sink_update (t : BehaviourTree τ μ) : t.update.2.sink = t.sink.receive t.reports := by
  have updates := t.updatesTo_update
  rw [reports]
  generalize t.update = r at updates
  cases updates with
  | rootless h => simp [h]
  | stopped h hf => simp [h]
  | completed h hf => simp [h]

theorem ticks_update (t : BehaviourTree τ μ) :
    t.update.2.ticks = if t.completes then t.ticks + 1 else t.ticks := by
  have updates := t.updatesTo_update
  rw [completes]
  generalize t.update = r at updates
  cases updates <;> rfl

theorem last_update (t : BehaviourTree τ μ) :
    t.update.2.last = if t.completes then t.verdict? else t.last := by
  have updates := t.updatesTo_update
  rw [completes, verdict?]
  generalize t.update = r at updates
  cases updates with
  | rootless h => rfl
  | stopped h hf => rfl
  | completed h hf => simp [h, Except.isOk, Except.toBool]

/-- An update of a tree with a root either completes or stops at an unregistered key. -/
theorem error_of_not_completes {t : BehaviourTree τ μ} (rooted : t.root.isSome)
    (h : t.completes = false) : ∃ leaf key, t.update.1 = .error (.unregisteredKey leaf key) := by
  have updates := t.updatesTo_update
  have walked : t.walk?.isSome := by rw [walk?, Option.isSome_map, rooted]
  rw [completes] at h
  generalize t.update = r at updates h ⊢
  cases updates with
  | rootless none => simp [none] at walked
  | stopped _ _ => exact ⟨_, _, rfl⟩
  | completed _ _ => cases h

theorem ok_of_completes {t : BehaviourTree τ μ} (h : t.completes) : t.update.1 = .ok () := by
  rw [completes] at h
  cases hu : t.update.1 with
  | ok u => rfl
  | error e =>
    rw [hu] at h
    cases h

theorem reports_of_missingRoot {t : BehaviourTree τ μ} (h : t.update.1 = .error .missingRoot) :
    t.reports = [] := by
  have updates := t.updatesTo_update
  rw [reports]
  generalize t.update = r at updates h
  cases updates with
  | rootless none => rw [none]; rfl
  | stopped => cases h
  | completed => cases h

theorem tick_of_mem_reports {t : BehaviourTree τ μ} : ∀ e ∈ t.reports, e.tick = t.ticks := by
  intro e he
  rw [reports, walk?] at he
  cases hr : t.root with
  | none => simp [hr] at he
  | some root =>
    simp only [hr, Option.map_some, Option.toList_some, List.flatMap_singleton] at he
    exact Node.tick_of_mem_events ⟨true, t.ticks⟩ root 0 t.scene.settled e he

/-! ## Runs -/

/-- The updates among some calls, in order, each as the tree that it is made on. -/
def updates (t : BehaviourTree τ μ) : List (TreeCall τ μ) → List (BehaviourTree τ μ)
  | [] => []
  | .update :: cs => t :: updates t.update.2 cs
  | .board op :: cs => updates (t.call (.board op)) cs
  | .setRoot root :: cs => updates (t.call (.setRoot root)) cs

/-- A root that is installed leaves the log, the count and the last status alone. -/
theorem call_setRoot (t : BehaviourTree τ μ) (root : Node τ μ) :
    t.call (.setRoot root) = t ∨ t.call (.setRoot root) = { t with root := some root } := by
  cases hs : t.setRoot root with
  | error e => exact .inl (by simp only [call, hs])
  | ok t' =>
    obtain ⟨-, rfl⟩ := setRoot_eq_ok_iff.1 hs
    exact .inr (by simp only [call, hs])

theorem sink_calls (t : BehaviourTree τ μ) (cs : List (TreeCall τ μ)) :
    (t.calls cs).sink = t.sink.receive ((t.updates cs).flatMap reports) := by
  induction cs generalizing t with
  | nil => simp [updates, calls]
  | cons c cs ih =>
    refine (ih (t.call c)).trans ?_
    cases c with
    | board op => rfl
    | update => rw [call, sink_update, Sink.receive_receive, updates, List.flatMap_cons]
    | setRoot root =>
      rw [updates]
      rcases t.call_setRoot root with h | h <;> rw [h]

theorem ticks_calls (t : BehaviourTree τ μ) (cs : List (TreeCall τ μ)) :
    (t.calls cs).ticks = t.ticks + .ofNat ((t.updates cs).filter completes).length := by
  induction cs generalizing t with
  | nil => simp [updates, calls]
  | cons c cs ih =>
    refine (ih (t.call c)).trans ?_
    cases c with
    | board op => rfl
    | update =>
      rw [call, ticks_update, updates, List.filter_cons]
      split
      · rw [List.length_cons, UInt64.ofNat_add, UInt64.add_comm (.ofNat _), ← UInt64.add_assoc]
        rfl
      · rfl
    | setRoot root =>
      rw [updates]
      rcases t.call_setRoot root with h | h <;> rw [h]

theorem last_calls (t : BehaviourTree τ μ) (cs : List (TreeCall τ μ)) :
    (t.calls cs).last =
      (((t.updates cs).filter completes).getLast?.map verdict?).getD t.last := by
  induction cs generalizing t with
  | nil => rfl
  | cons c cs ih =>
    refine (ih (t.call c)).trans ?_
    cases c with
    | board op => rfl
    | update =>
      rw [call, last_update, updates, List.filter_cons]
      split
      · rw [List.getLast?_cons]
        cases ((updates t.update.2 cs).filter completes).getLast? <;> rfl
      · rfl
    | setRoot root =>
      rw [updates]
      rcases t.call_setRoot root with h | h <;> rw [h]

/-! ## Numbers -/

/-- Whether updates are numbered by those completed before them, of which there are `k` at first. -/
def Numbered : Nat → List (BehaviourTree τ μ) → Prop
  | _, [] => True
  | k, u :: us => u.ticks.toNat = k ∧ Numbered (if u.completes then k + 1 else k) us

/-- As long as the count does not overflow, the updates among calls are numbered. -/
theorem numbered_updates (t : BehaviourTree τ μ) (cs : List (TreeCall τ μ))
    (h : t.ticks.toNat + ((t.updates cs).filter completes).length < UInt64.size) :
    Numbered t.ticks.toNat (t.updates cs) := by
  induction cs generalizing t with
  | nil => trivial
  | cons c cs ih =>
    cases c with
    | board op => exact ih (t.call (.board op)) h
    | update =>
      rw [updates, List.filter_cons] at h
      have ticks := t.ticks_update
      by_cases done : t.completes
      · rw [if_pos done] at h ticks
        rw [List.length_cons] at h
        have next : t.update.2.ticks.toNat = t.ticks.toNat + 1 := by
          rw [ticks, UInt64.toNat_add, UInt64.toNat_one]
          exact Nat.mod_eq_of_lt (by simp only [UInt64.size] at h; omega)
        refine ⟨rfl, ?_⟩
        rw [if_pos done, ← next]
        exact ih t.update.2 (by omega)
      · rw [if_neg done] at h ticks
        refine ⟨rfl, ?_⟩
        rw [if_neg done, ← ticks]
        exact ih t.update.2 (by rw [ticks]; exact h)
    | setRoot root =>
      rw [updates] at h ⊢
      have ticks : (t.call (.setRoot root)).ticks = t.ticks := by
        rcases t.call_setRoot root with h | h <;> rw [h]
      rw [← ticks] at h ⊢
      exact ih _ h

variable {k : Nat} {us : List (BehaviourTree τ μ)}

theorem Numbered.le (h : Numbered k us) : ∀ u ∈ us, k ≤ u.ticks.toNat := by
  induction us generalizing k with
  | nil => nofun
  | cons v us ih =>
    obtain ⟨number, rest⟩ := h
    intro u hu
    rcases List.mem_cons.1 hu with rfl | hu
    · exact Nat.le_of_eq number.symm
    · have later := ih rest u hu
      split at later <;> omega

/-- What comes before the first number has no updates. -/
theorem Numbered.filter_eq_nil (h : Numbered k us) {tick : UInt64} (before : tick.toNat < k) :
    us.filter (·.ticks == tick) = [] := by
  rw [List.filter_eq_nil_iff]
  intro u hu same
  have := h.le u hu
  rw [beq_iff_eq.1 same] at this
  omega

/-- The updates of one number: some that failed, and then at most one that completed. -/
theorem group_of_numbered (h : Numbered k us) (tick : UInt64) :
    ∃ failed completed, us.filter (·.ticks == tick) = failed ++ completed ∧
      (∀ u ∈ failed, u.completes = false) ∧ completed.length ≤ 1 ∧
      ∀ u ∈ completed, u.completes = true := by
  induction us generalizing k with
  | nil => exact ⟨[], [], rfl, nofun, Nat.zero_le 1, nofun⟩
  | cons u us ih =>
    obtain ⟨number, rest⟩ := h
    by_cases here : u.ticks = tick
    · rw [List.filter_cons, if_pos (beq_iff_eq.2 here)]
      by_cases done : u.completes
      · rw [if_pos done] at rest
        rw [rest.filter_eq_nil (by rw [← here]; omega)]
        exact ⟨[], [u], rfl, nofun, Nat.le_refl 1, by simpa using done⟩
      · obtain ⟨failed, completed, split, fails, one, completes⟩ := ih rest
        rw [split]
        exact ⟨u :: failed, completed, rfl,
          List.forall_mem_cons.2 ⟨Bool.eq_false_iff.2 done, fails⟩, one, completes⟩
    · rw [List.filter_cons, if_neg (mt beq_iff_eq.1 here)]
      exact ih rest

section Groups

variable {α : Type} (f : BehaviourTree τ μ → List α)

/-- What there is of the updates of `len` numbers from `k` on, number by number. -/
def groups (us : List (BehaviourTree τ μ)) (k len : Nat) : List α :=
  (List.range' k len).flatMap fun n => (us.filter (·.ticks == .ofNat n)).flatMap f

theorem groups_succ (us : List (BehaviourTree τ μ)) (k len : Nat) :
    groups f us k (len + 1) =
      (us.filter (·.ticks == .ofNat k)).flatMap f ++ groups f us (k + 1) len := by
  rw [groups, List.range'_succ, List.flatMap_cons]
  rfl

/-- An update is in no group of a greater number. -/
theorem groups_cons {u : BehaviourTree τ μ} {len : Nat} (before : u.ticks.toNat < k)
    (fits : k + len ≤ UInt64.size) : groups f (u :: us) k len = groups f us k len := by
  refine List.flatMap_congr fun n hn => ?_
  rw [List.mem_range'_1] at hn
  have other : ¬(u.ticks == .ofNat n) = true := by
    rw [beq_iff_eq, ← UInt64.toNat_inj, UInt64.toNat_ofNat_of_lt' (by omega)]
    omega
  rw [List.filter_cons, if_neg other]

/-- The groups follow each other in the order of their numbers. -/
theorem flatMap_eq_groups (h : Numbered k us)
    (fits : k + (us.filter completes).length < UInt64.size) :
    us.flatMap f = groups f us k ((us.filter completes).length + 1) := by
  induction us generalizing k with
  | nil => simp [groups]
  | cons u us ih =>
    obtain ⟨number, rest⟩ := h
    have here : (u.ticks == .ofNat k) = true := by
      rw [← number, UInt64.ofNat_toNat, beq_self_eq_true]
    -- The first update stands at the head of the first group, and in no other.
    rw [groups_succ, groups_cons f (by omega) (by omega), List.filter_cons, if_pos here,
      List.flatMap_cons, List.flatMap_cons, List.append_assoc]
    refine congrArg (f u ++ ·) ?_
    by_cases done : u.completes
    · rw [if_pos done] at rest
      rw [List.filter_cons, if_pos done, List.length_cons] at fits ⊢
      have alone : us.filter (·.ticks == .ofNat k) = [] :=
        rest.filter_eq_nil (by rw [UInt64.toNat_ofNat_of_lt' (by omega)]; omega)
      rw [alone]
      exact ih rest (by omega)
    · rw [if_neg done] at rest
      rw [List.filter_cons, if_neg done] at fits ⊢
      rw [← groups_succ]
      exact ih rest fits

end Groups

/-! ## Attribution -/

/-- The events of one number are those of the updates of that number. -/
theorem filter_flatMap_reports (us : List (BehaviourTree τ μ)) (tick : UInt64) :
    (us.flatMap reports).filter (·.tick == tick) =
      (us.filter (·.ticks == tick)).flatMap reports := by
  induction us with
  | nil => rfl
  | cons u us ih =>
    rw [List.flatMap_cons, List.filter_append, ih, List.filter_cons]
    by_cases own : u.ticks = tick
    · rw [if_pos (beq_iff_eq.2 own), List.flatMap_cons, ← own, filter_tick_self tick_of_mem_reports]
    · rw [if_neg (mt beq_iff_eq.1 own), filter_tick_of_ne tick_of_mem_reports (Ne.symm own),
        List.nil_append]

/-- Updates without a root report nothing. -/
theorem flatMap_reports_rooted (us : List (BehaviourTree τ μ)) :
    (us.filter (·.root.isSome)).flatMap reports = us.flatMap reports := by
  induction us with
  | nil => rfl
  | cons u us ih =>
    rw [List.filter_cons, List.flatMap_cons, ← ih]
    cases hr : u.root with
    | none => rw [reports_of_missingRoot (by rw [update_without_root hr])]; rfl
    | some root => rfl

/-- Of a tree that keeps a log from the start, whatever calls are made of it: the count is that of
the updates that succeeded, the last status is that of the latest of them, updates without a root
report nothing, and the events of one number are those of the walks made under it, first of any that
stopped at an unregistered key, and then of at most one that came to its end. The log is all of
these groups in the order of their numbers, as long as fewer updates succeed than there are numbers. -/
theorem events_attributed (scene : Scene τ μ) (root : Option (Node τ μ))
    (cs : List (TreeCall τ μ)) :
    let start : BehaviourTree τ μ := ⟨scene, root, .keeping .empty, 0, none⟩
    let made := start.updates cs
    let done := made.filter completes
    done.length < UInt64.size →
      (start.calls cs).ticks.toNat = done.length ∧
      (start.calls cs).last = done.getLast?.bind verdict? ∧
      (∀ u ∈ made, u.update.1 = .error .missingRoot → u.reports = []) ∧
      ∃ log, (start.calls cs).sink = .keeping log ∧
        (∀ tick, ∃ failed completed,
          made.filter (fun u => u.ticks == tick && u.root.isSome) = failed ++ completed ∧
          (∀ u ∈ failed, ∃ leaf key, u.update.1 = .error (.unregisteredKey leaf key)) ∧
          completed.length ≤ 1 ∧ (∀ u ∈ completed, u.update.1 = .ok ()) ∧
          log.forTick tick = (failed ++ completed).flatMap reports) ∧
        log.events = (List.range (done.length + 1)).flatMap fun n => log.forTick (.ofNat n) := by
  intro start made done fits
  have numbered : Numbered 0 made := numbered_updates start cs (by
    change 0 + done.length < UInt64.size
    omega)
  have picked (tick : UInt64) : (TraceLog.mk (made.flatMap reports)).forTick tick =
      (made.filter (·.ticks == tick)).flatMap reports := filter_flatMap_reports made tick
  refine ⟨?_, ?_, fun u _ => reports_of_missingRoot, ⟨made.flatMap reports⟩, sink_calls start cs,
    fun tick => ?_, ?_⟩
  · rw [ticks_calls]
    change (0 + UInt64.ofNat done.length).toNat = done.length
    rw [UInt64.zero_add, UInt64.toNat_ofNat_of_lt' fits]
  · rw [last_calls]
    change (done.getLast?.map verdict?).getD none = _
    cases done.getLast? <;> rfl
  · obtain ⟨failed, completed, split, fails, one, completes⟩ := group_of_numbered numbered tick
    have rooted : made.filter (fun u => u.ticks == tick && u.root.isSome) =
        failed.filter (·.root.isSome) ++ completed.filter (·.root.isSome) := by
      rw [← List.filter_append, ← split, List.filter_filter]
      simp only [Bool.and_comm]
    refine ⟨_, _, rooted, fun u hu => ?_, Nat.le_trans (List.length_filter_le ..) one,
      fun u hu => ?_, ?_⟩
    · obtain ⟨hu, hr⟩ := List.mem_filter.1 hu
      exact error_of_not_completes hr (fails u hu)
    · exact ok_of_completes (completes u (List.mem_filter.1 hu).1)
    · rw [picked, split, ← List.filter_append, flatMap_reports_rooted]
  · -- The list of numbers starts at zero.
    rw [List.range_eq_range']
    simp only [picked]
    exact flatMap_eq_groups reports numbered (by rw [Nat.zero_add]; exact fits)

/-- The census fails once, is given what it looks for, and then succeeds twice: the walk that fails
and the next one have the same number. -/
theorem events_attributed_census :
    let start : BehaviourTree EntryType Unit := { counting with sink := .keeping .empty }
    let cs := [.update, .board (.add (t := .bool) ⟨"Nowhere"⟩ true), .update, .update]
    ((start.updates cs).filter completes).length < UInt64.size ∧
      ∃ log, (start.calls cs).sink = .keeping log ∧ (start.calls cs).ticks.toNat = 2 ∧
        (log.forTick 0).map (·.status) =
          [.success, .success, .failure, .success, .failure, .success] ∧
        log.events = log.forTick 0 ++ (log.forTick 1 ++ log.forTick 2) := by
  intro start cs
  have two : ((start.updates cs).filter completes).length = 2 := by decide +kernel
  have fits : ((start.updates cs).filter completes).length < UInt64.size := by
    rw [two]
    decide
  obtain ⟨ticks, -, -, log, kept, -, groups⟩ :=
    events_attributed counting.scene (some census) cs fits
  have known : log = (start.calls cs).sink.log := by
    have kept' : (start.calls cs).sink = .keeping log := kept
    rw [kept']
    rfl
  refine ⟨fits, log, kept, ticks.trans two, ?_, ?_⟩
  · rw [known]
    decide +kernel
  · rw [groups]
    change (List.range (((start.updates cs).filter completes).length + 1)).flatMap _ = _
    rw [two]
    simp [List.range_succ]

end Forager.BehaviourTree
