import Forager.Proofs.Walks

/-!
# What the events of a walk say

The events of a walk are an account of it. `Reports` says what a right account is, rule by rule and
without the evaluator: a leaf is one event; a composite is the account of the children that were
evaluated, which are its first ones, one level deeper, and then one event of its own. `Ends` says
which children these are and what the composite makes of their statuses.

* `cut_of_ends`, `ends_of_cut`: `Ends` is where the evaluator stops and what it concludes.
* `reports_walk`, `walk_of_reports`: a walk has this account and no other.
* `tickTraced_reports`: the events of a traced walk.
-/
namespace Forager

variable {τ μ : Type} [EntryTypes τ]

/-! ## Right accounts -/

/-- Whether a composite ends with a status, after its first children have reported the given
statuses and the children `skipped` are left. -/
inductive Ends {α : Type} : CompositeKind → List Status → List α → Status → Prop
  | sequenceStopped (n : Nat) {status : Status} (skipped : List α) (stops : status ≠ .success) :
    Ends .sequence (List.replicate n .success ++ [status]) skipped status
  | sequenceExhausted (n : Nat) : Ends .sequence (List.replicate n .success) [] .success
  | selectorStopped (n : Nat) {status : Status} (skipped : List α) (stops : status ≠ .failure) :
    Ends .selector (List.replicate n .failure ++ [status]) skipped status
  | selectorExhausted (n : Nat) : Ends .selector (List.replicate n .failure) [] .failure
  | runAllRunning {statuses : List Status} (running : .running ∈ statuses) :
    Ends .runAll statuses [] .running
  | runAllSuccess {statuses : List Status} (still : .running ∉ statuses)
    (success : .success ∈ statuses) : Ends .runAll statuses [] .success
  | runAllFailure {statuses : List Status} (still : .running ∉ statuses)
    (none : .success ∉ statuses) : Ends .runAll statuses [] .failure

mutual
/-- Whether a node at some depth, evaluated in a scene, has that status, leaves that scene and is
accounted for by those events. -/
inductive Reports (tick : UInt64) :
    Node τ μ → UInt32 → Scene τ μ → Status → Scene τ μ → List Event → Prop
  | action (leaf : Leaf τ) (effect : Effect τ μ) (depth : UInt32) (s : Scene τ μ) :
    Reports tick (.action leaf effect) depth s (effect s).1 (effect s).2.settled
      [⟨tick, depth, leaf.name, (effect s).1⟩]
  | condition (leaf : Leaf τ) (inverse : Bool) (p : Predicate τ) (depth : UInt32)
    (s : Scene τ μ) :
    Reports tick (.condition leaf inverse p) depth s (p.test inverse s).1
      (p.test inverse s).2.settled [⟨tick, depth, leaf.name, (p.test inverse s).1⟩]
  | composite {kind : CompositeKind} (label : Option String) {evaluated skipped : List (Node τ μ)}
    {depth : UInt32} {s s' : Scene τ μ} {statuses : List Status} {status : Status}
    {events : List Event} (ran : ReportsEach tick evaluated (depth + 1) s statuses s' events)
    (ends : Ends kind statuses skipped status) :
    Reports tick (.composite kind label (evaluated ++ skipped)) depth s status s'
      (events ++ [⟨tick, depth, label.getD kind.name, status⟩])

/-- Whether nodes at some depth, evaluated one after the other, have those statuses, leave that
scene and are accounted for by those events. -/
inductive ReportsEach (tick : UInt64) :
    List (Node τ μ) → UInt32 → Scene τ μ → List Status → Scene τ μ → List Event → Prop
  | nil (depth : UInt32) (s : Scene τ μ) : ReportsEach tick [] depth s [] s []
  | cons {n : Node τ μ} {ns : List (Node τ μ)} {depth : UInt32} {s s₁ s₂ : Scene τ μ}
    {status : Status} {statuses : List Status} {events events' : List Event}
    (first : Reports tick n depth s status s₁ events)
    (rest : ReportsEach tick ns depth s₁ statuses s₂ events') :
    ReportsEach tick (n :: ns) depth s (status :: statuses) s₂ (events ++ events')
end

/-! ## Where evaluation stops -/

/-- Whether evaluation for a composite goes through the statuses and stops there, with the given
children left. -/
inductive Cut {α : Type} (kind : CompositeKind) : List Status → List α → Prop
  | done : Cut kind [] []
  | stop {status : Status} (skipped : List α) (stops : kind.stopsAt status) :
    Cut kind [status] skipped
  | go {status : Status} {statuses : List Status} {skipped : List α}
    (goesOn : ¬kind.stopsAt status) (rest : Cut kind statuses skipped) :
    Cut kind (status :: statuses) skipped

section Stopping

variable {α : Type} {kind : CompositeKind} {statuses : List Status} {skipped : List α}
  {status : Status}

theorem Cut.replicate_append (goesOn : ¬kind.stopsAt status) (n : Nat)
    (h : Cut kind statuses skipped) :
    Cut kind (List.replicate n status ++ statuses) skipped := by
  induction n with
  | zero => exact h
  | succ n ih => exact .go goesOn ih

theorem Cut.replicate (goesOn : ¬kind.stopsAt status) (n : Nat) :
    Cut kind (List.replicate n status) ([] : List α) := by
  have cut : Cut kind (List.replicate n status ++ []) ([] : List α) :=
    .replicate_append goesOn n .done
  rw [List.append_nil] at cut
  exact cut

theorem cut_runAll (statuses : List Status) : Cut .runAll statuses ([] : List α) := by
  induction statuses with
  | nil => exact .done
  | cons status statuses ih => exact .go Bool.false_ne_true ih

/-- Evaluation stops where a composite ends, and concludes what it ends with. -/
theorem cut_of_ends (h : Ends kind statuses skipped status) :
    Cut kind statuses skipped ∧ kind.verdict statuses = status := by
  cases h with
  | sequenceStopped n skipped stops =>
    have ends : CompositeKind.sequence.stopsAt status := bne_iff_ne.2 stops
    refine ⟨.replicate_append (by decide) n (.stop skipped ends), ?_⟩
    rw [CompositeKind.verdict, List.find?_append, List.find?_replicate_of_neg (by decide),
      List.find?_cons_of_pos ends]
    rfl
  | sequenceExhausted n =>
    refine ⟨.replicate (by decide) n, ?_⟩
    rw [CompositeKind.verdict, List.find?_replicate_of_neg (by decide)]
    rfl
  | selectorStopped n skipped stops =>
    have ends : CompositeKind.selector.stopsAt status := bne_iff_ne.2 stops
    refine ⟨.replicate_append (by decide) n (.stop skipped ends), ?_⟩
    rw [CompositeKind.verdict, List.find?_append, List.find?_replicate_of_neg (by decide),
      List.find?_cons_of_pos ends]
    rfl
  | selectorExhausted n =>
    refine ⟨.replicate (by decide) n, ?_⟩
    rw [CompositeKind.verdict, List.find?_replicate_of_neg (by decide)]
    rfl
  | runAllRunning running =>
    exact ⟨cut_runAll statuses, if_pos (List.contains_iff_mem.2 running)⟩
  | runAllSuccess still success =>
    refine ⟨cut_runAll statuses, ?_⟩
    rw [CompositeKind.verdict, if_neg (mt List.contains_iff_mem.1 still),
      List.contains_iff_mem.2 success]
    rfl
  | runAllFailure still none =>
    refine ⟨cut_runAll statuses, ?_⟩
    rw [CompositeKind.verdict, if_neg (mt List.contains_iff_mem.1 still),
      Bool.eq_false_iff.2 (mt List.contains_iff_mem.1 none)]
    rfl

/-- Where only one status lets evaluation go on, it is repeated up to the status that stops. -/
theorem Cut.shape {passing : Status} (only : ∀ status, ¬kind.stopsAt status → status = passing)
    (h : Cut kind statuses skipped) :
    ∃ n, statuses = List.replicate n passing ∧ skipped = [] ∨
      ∃ status, kind.stopsAt status ∧ statuses = List.replicate n passing ++ [status] := by
  induction h with
  | done => exact ⟨0, .inl ⟨rfl, rfl⟩⟩
  | stop skipped stops => exact ⟨0, .inr ⟨_, stops, rfl⟩⟩
  | go goesOn rest ih =>
    obtain ⟨n, ⟨rfl, rfl⟩ | ⟨status, stops, rfl⟩⟩ := ih
    · rw [only _ goesOn]
      exact ⟨n + 1, .inl ⟨rfl, rfl⟩⟩
    · rw [only _ goesOn]
      exact ⟨n + 1, .inr ⟨status, stops, rfl⟩⟩

theorem Cut.skipped_runAll (h : Cut .runAll statuses skipped) : skipped = [] := by
  induction h with
  | done => rfl
  | stop skipped stops => cases stops
  | go goesOn rest ih => exact ih

theorem Cut.exists_ends (h : Cut kind statuses skipped) :
    ∃ status, Ends kind statuses skipped status := by
  cases kind with
  | sequence =>
    have only (status : Status) (goesOn : ¬CompositeKind.sequence.stopsAt status) :
        status = .success := Decidable.not_not.1 (mt bne_iff_ne.2 goesOn)
    obtain ⟨n, ⟨rfl, rfl⟩ | ⟨status, stops, rfl⟩⟩ := h.shape only
    · exact ⟨_, .sequenceExhausted n⟩
    · exact ⟨status, .sequenceStopped n skipped (bne_iff_ne.1 stops)⟩
  | selector =>
    have only (status : Status) (goesOn : ¬CompositeKind.selector.stopsAt status) :
        status = .failure := Decidable.not_not.1 (mt bne_iff_ne.2 goesOn)
    obtain ⟨n, ⟨rfl, rfl⟩ | ⟨status, stops, rfl⟩⟩ := h.shape only
    · exact ⟨_, .selectorExhausted n⟩
    · exact ⟨status, .selectorStopped n skipped (bne_iff_ne.1 stops)⟩
  | runAll =>
    rw [h.skipped_runAll]
    by_cases running : .running ∈ statuses
    · exact ⟨_, .runAllRunning running⟩
    · by_cases success : .success ∈ statuses
      · exact ⟨_, .runAllSuccess running success⟩
      · exact ⟨_, .runAllFailure running success⟩

/-- A composite ends where evaluation stops, with what that concludes. -/
theorem ends_of_cut (h : Cut kind statuses skipped) :
    Ends kind statuses skipped (kind.verdict statuses) := by
  obtain ⟨status, ends⟩ := h.exists_ends
  rw [(cut_of_ends ends).2]
  exact ends

end Stopping

/-! ## Walks and their accounts -/

namespace Node

mutual
theorem reports_walk (tick : UInt64) : ∀ (n : Node τ μ) (depth : UInt32) (s : Scene τ μ),
    let o := n.walk ⟨false, tick⟩ depth s
    Reports tick n depth s o.status o.scene o.events
  | .action leaf effect, depth, s => by
    simp only [walk]
    exact .action leaf effect depth s
  | .condition leaf inverse p, depth, s => by
    simp only [walk]
    exact .condition leaf inverse p depth s
  | .composite kind label children, depth, s => by
    obtain ⟨evaluated, skipped, rfl, ran, cut⟩ := reports_walkAll tick kind children (depth + 1) s
    have fault := (walkAll_lenient tick kind (evaluated ++ skipped) (depth + 1) s).1
    simp only [walk, Walk.composite, fault]
    exact .composite label ran (ends_of_cut cut)

theorem reports_walkAll (tick : UInt64) (kind : CompositeKind) :
    ∀ (ns : List (Node τ μ)) (depth : UInt32) (s : Scene τ μ),
      let p := walkAll ⟨false, tick⟩ kind ns depth s
      ∃ evaluated skipped, ns = evaluated ++ skipped ∧
        ReportsEach tick evaluated depth s p.statuses p.scene p.events ∧
        Cut kind p.statuses skipped
  | [], depth, s => by
    simp only [walkAll]
    exact ⟨[], [], rfl, .nil depth s, .done⟩
  | n :: ns, depth, s => by
    have first := reports_walk tick n depth s
    simp only [walkAll, fault_lenient, Option.isSome_none, Bool.false_or]
    split
    · rename_i stops
      refine ⟨[n], ns, rfl, ?_, .stop ns stops⟩
      have ran := ReportsEach.cons first (.nil depth _)
      rw [List.append_nil] at ran
      exact ran
    · rename_i goesOn
      obtain ⟨evaluated, skipped, rfl, ran, cut⟩ := reports_walkAll tick kind ns depth
        (n.walk ⟨false, tick⟩ depth s).scene
      exact ⟨n :: evaluated, skipped, rfl, .cons first ran, .go goesOn cut⟩
end

mutual
theorem walk_of_reports {tick : UInt64} {n : Node τ μ} {depth : UInt32} {s s' : Scene τ μ}
    {status : Status} {events : List Event} : Reports tick n depth s status s' events →
      n.walk ⟨false, tick⟩ depth s = ⟨status, s', none, events⟩
  | .action leaf effect _ _ => by
    simp only [walk]
    rfl
  | .condition leaf inverse p _ _ => by
    simp only [walk]
    rfl
  | .composite label ran ends => by
    obtain ⟨cut, verdict⟩ := cut_of_ends ends
    have below := walkAll_of_reports ran cut
    simp only [walk, Walk.composite, below, verdict]
    rfl

theorem walkAll_of_reports {tick : UInt64} {evaluated : List (Node τ μ)} {depth : UInt32}
    {s s' : Scene τ μ} {statuses : List Status} {events : List Event} :
    ReportsEach tick evaluated depth s statuses s' events →
    ∀ {kind : CompositeKind} {skipped : List (Node τ μ)}, Cut kind statuses skipped →
      walkAll ⟨false, tick⟩ kind (evaluated ++ skipped) depth s = ⟨statuses, s', none, events⟩
  | .nil _ _, kind, skipped, cut => by
    cases cut with
    | done => simp only [List.append_nil, walkAll]
  | .cons first rest, kind, skipped, cut => by
    have here := walk_of_reports first
    simp only [List.cons_append, walkAll, here, Option.isSome_none, Bool.false_or]
    cases cut with
    | stop skipped stops =>
      cases rest
      rw [if_pos stops, List.append_nil]
    | go goesOn cut =>
      rw [if_neg goesOn, walkAll_of_reports rest cut]
end

mutual
theorem length_events_le (w : Walk) : ∀ (n : Node τ μ) (depth : UInt32) (s : Scene τ μ),
    (n.walk w depth s).events.length ≤ n.size
  | .action leaf effect, depth, s => by
    simp only [walk, size]
    exact Nat.le_refl 1
  | .condition leaf inverse p, depth, s => by
    simp only [walk, size]
    exact Nat.le_refl 1
  | .composite kind label children, depth, s => by
    have below := length_eventsAll_le w kind children (depth + 1) s
    simp only [walk, Walk.composite, size, List.length_append, List.length_singleton]
    omega

theorem length_eventsAll_le (w : Walk) (kind : CompositeKind) :
    ∀ (ns : List (Node τ μ)) (depth : UInt32) (s : Scene τ μ),
      (walkAll w kind ns depth s).events.length ≤ sizeAll ns
  | [], depth, s => by
    simp only [walkAll, sizeAll]
    exact Nat.le_refl 0
  | n :: ns, depth, s => by
    have first := length_events_le w n depth s
    have rest := length_eventsAll_le w kind ns depth (n.walk w depth s).scene
    simp only [walkAll, sizeAll]
    split
    · dsimp only
      omega
    · rw [List.length_append]
      omega
end

/-- A traced walk ends as a plain one does, and its events are the account of it, and the only one:
all carry the number of the walk, there are no more than there are nodes, and the last is that of
the root, at depth zero and with the status returned. -/
theorem tickTraced_reports (n : Node τ μ) (tick : UInt64) (s : Scene τ μ) :
    let r := n.tickTraced tick s
    (r.1, r.2.1) = n.tick s ∧
      (∀ status s' events, Reports tick n 0 s.settled status s' events ↔
        r = (status, s', events)) ∧
      (∀ e ∈ r.2.2, e.tick = tick) ∧ r.2.2.length ≤ n.size ∧
      r.2.2.getLast? = some ⟨tick, 0, n.name, r.1⟩ := by
  intro r
  refine ⟨(tick_eq_walkFrom tick n s).symm, fun status s' events => ⟨fun h => ?_, fun h => ?_⟩,
    tick_of_mem_events ⟨false, tick⟩ n 0 s.settled, length_events_le ⟨false, tick⟩ n 0 s.settled,
    getLast?_events ⟨false, tick⟩ n 0 s.settled⟩
  · show ((n.walk ⟨false, tick⟩ 0 s.settled).status, (n.walk ⟨false, tick⟩ 0 s.settled).scene,
      (n.walk ⟨false, tick⟩ 0 s.settled).events) = _
    rw [walk_of_reports h]
  · have parts : ((n.walk ⟨false, tick⟩ 0 s.settled).status,
      (n.walk ⟨false, tick⟩ 0 s.settled).scene, (n.walk ⟨false, tick⟩ 0 s.settled).events) =
        (status, s', events) := h
    cases parts
    exact reports_walk tick n 0 s.settled

/-- The second child fails, so the sequence does and leaves its third child out. -/
example (s : Scene τ μ) :
    let leaf (name : String) (status : Status) : Node τ μ :=
      .action (.named name) fun s => (status, s)
    let inner := (runAll [leaf "A" .failure, leaf "B" .running]).labelled "Both"
    ((selector [sequence [leaf "C" .success, leaf "D" .failure, leaf "E" .success],
      inner]).tickTraced 7 s).2.2 =
      [⟨7, 2, "C", .success⟩, ⟨7, 2, "D", .failure⟩, ⟨7, 1, "Sequence", .failure⟩,
        ⟨7, 2, "A", .failure⟩, ⟨7, 2, "B", .running⟩, ⟨7, 1, "Both", .running⟩,
        ⟨7, 0, "Selector", .running⟩] := rfl

end Node
end Forager
