import Forager.Proofs.Steps
import Forager.Proofs.Validation

/-!
# Where a strict walk stops

A strict walk takes the steps of a lenient one up to the first leaf that leaves a missing name
noted. There it stops: no further leaf is evaluated, and the composites above that leaf report
failure, innermost first. Nothing noted before the walk has a part in it.

* `walk_strict_of_clean`, `walk_strict_of_fault`: the two ways a strict walk goes.
* `BoardOp.missing_runAll`: the name left noted is the first missed since the last collection.
* `update_stops_at_fault`: an update, next to the lenient walk of the same tree.
-/
namespace Forager

variable {τ μ : Type} [EntryTypes τ]

/-- Among steps of which one missed a name there is a first, and it is a leaf. -/
theorem Step.exists_first_missed {sts : List (Step τ μ)} (h : ∃ st ∈ sts, st.missed? ≠ none) :
    ∃ before v after key, sts = before ++ .leaf v :: after ∧
      (∀ st ∈ before, st.missed? = none) ∧ v.missed? = some key := by
  induction sts with
  | nil =>
    obtain ⟨st, mem, -⟩ := h
    cases mem
  | cons st sts ih =>
    cases missed : st.missed? with
    | some key =>
      cases st with
      | leaf v => exact ⟨[], v, sts, key, rfl, nofun, missed⟩
      | composite depth name status => cases missed
    | none =>
      have later : ∃ st ∈ sts, st.missed? ≠ none := by
        obtain ⟨st', mem, hne⟩ := h
        rcases List.mem_cons.1 mem with rfl | mem
        · exact absurd missed hne
        · exact ⟨st', mem, hne⟩
      obtain ⟨before, v, after, key, split, clean, hv⟩ := ih later
      refine ⟨st :: before, v, after, key, ?_, List.forall_mem_cons.2 ⟨missed, clean⟩, hv⟩
      rw [split, List.cons_append]

namespace Node

/-! ## Without a fault -/

mutual
theorem walk_strict_of_clean (tick : UInt64) :
    ∀ (n : Node τ μ) (above : List (UInt32 × String)) (depth : UInt32) (s : Scene τ μ),
      (∀ st ∈ n.steps above depth s, st.missed? = none) →
        n.walk ⟨true, tick⟩ depth s = n.walk ⟨false, tick⟩ depth s
  | .action leaf effect, above, depth, s, clean => by
    simp only [steps, List.forall_mem_singleton, Step.missed?, Visit.missed?, Visit.left] at clean
    simp only [walk, Walk.leaf, clean, Option.map_none, ite_self]
  | .condition leaf inverse p, above, depth, s, clean => by
    simp only [steps, List.forall_mem_singleton, Step.missed?, Visit.missed?, Visit.left] at clean
    simp only [walk, Walk.leaf, clean, Option.map_none, ite_self]
  | .composite kind label children, above, depth, s, clean => by
    rw [steps, List.forall_mem_append] at clean
    simp only [walk, walkAll_strict_of_clean tick kind children _ (depth + 1) s clean.1]
    rfl

theorem walkAll_strict_of_clean (tick : UInt64) (kind : CompositeKind) :
    ∀ (ns : List (Node τ μ)) (above : List (UInt32 × String)) (depth : UInt32) (s : Scene τ μ),
      (∀ st ∈ stepsAll kind ns above depth s, st.missed? = none) →
        walkAll ⟨true, tick⟩ kind ns depth s = walkAll ⟨false, tick⟩ kind ns depth s
  | [], above, depth, s, clean => by simp only [walkAll]
  | n :: ns, above, depth, s, clean => by
    rw [stepsAll, List.forall_mem_append] at clean
    obtain ⟨clean, cleanAfter⟩ := clean
    simp only [walkAll, walk_strict_of_clean tick n above depth s clean, fault_lenient,
      status_lenient, scene_lenient, Option.isSome_none, Bool.false_or]
    split
    · rfl
    · rename_i goesOn
      rw [if_neg goesOn] at cleanAfter
      rw [walkAll_strict_of_clean tick kind ns above depth (n.evaluate s).2 cleanAfter]
end

/-! ## With a fault -/

/-- What is left of a walk below the given composites that stopped at a leaf, having taken the
steps before it: the composites of the walk above the leaf have failed. -/
structure Stopped (tick : UInt64) (above : List (UInt32 × String)) (before : List (Step τ μ))
    (v : Visit τ μ) (key : String) (fault : Option Fault) (scene : Scene τ μ)
    (events : List Event) : Prop where
  fault : fault = some ⟨v.leaf.name, key⟩
  scene : scene = v.left.settled
  events : ∃ within, v.above = within ++ above ∧
    events = (before ++ [Step.leaf v]).map (Step.event tick) ++
      within.map fun c => ⟨tick, c.1, c.2, .failure⟩

variable {above : List (UInt32 × String)} {before after : List (Step τ μ)} {v : Visit τ μ}
  {key : String}

theorem stopped_leaf (tick : UInt64) (depth : UInt32) (leaf : Leaf τ) (effect : Effect τ μ)
    (s : Scene τ μ) (h : [Step.leaf ⟨leaf, effect, depth, above, s⟩] = before ++ .leaf v :: after)
    (missed : v.missed? = some key) :
    let o := Walk.leaf ⟨true, tick⟩ depth leaf effect s
    Stopped tick above before v key o.fault o.scene o.events := by
  rcases List.singleton_eq_append_iff.1 h with ⟨rfl, h⟩ | ⟨-, h⟩
  · cases h
    have noted : (effect s).2.board.missing = some key := missed
    refine ⟨?_, rfl, [], rfl, rfl⟩
    rw [Walk.leaf, if_pos rfl, noted]
    rfl
  · cases h

mutual
theorem walk_strict_of_fault (tick : UInt64) :
    ∀ (n : Node τ μ) (above : List (UInt32 × String)) (depth : UInt32) (s : Scene τ μ)
      (before after : List (Step τ μ)), n.steps above depth s = before ++ .leaf v :: after →
      (∀ st ∈ before, st.missed? = none) → v.missed? = some key →
        let o := n.walk ⟨true, tick⟩ depth s
        Stopped tick above before v key o.fault o.scene o.events
  | .action leaf effect, above, depth, s, before, after, h, clean, missed => by
    simp only [walk]
    exact stopped_leaf tick depth leaf effect s h missed
  | .condition leaf inverse p, above, depth, s, before, after, h, clean, missed => by
    simp only [walk]
    exact stopped_leaf tick depth leaf (Predicate.test inverse p) s h missed
  | .composite kind label children, above, depth, s, before, after, h, clean, missed => by
    rw [steps] at h
    rcases append_eq_append_cons h with ⟨after', below⟩ | ⟨before', -, last⟩
    · obtain ⟨fault, scene, within, path, events⟩ := walkAll_strict_of_fault tick kind children
        ((depth, label.getD kind.name) :: above) (depth + 1) s before after' below clean missed
      simp only [walk, Walk.composite, fault]
      refine ⟨rfl, scene, within ++ [(depth, label.getD kind.name)], ?_, ?_⟩
      · rw [path, List.append_assoc]
        rfl
      · simp only [events, List.map_append, List.map_singleton, List.append_assoc,
          Option.isSome_some, if_true]
    · -- The conclusion of the composite itself is no leaf.
      rcases List.singleton_eq_append_iff.1 last with ⟨-, last⟩ | ⟨-, last⟩ <;> cases last

theorem walkAll_strict_of_fault (tick : UInt64) (kind : CompositeKind) :
    ∀ (ns : List (Node τ μ)) (above : List (UInt32 × String)) (depth : UInt32) (s : Scene τ μ)
      (before after : List (Step τ μ)),
      stepsAll kind ns above depth s = before ++ .leaf v :: after →
      (∀ st ∈ before, st.missed? = none) → v.missed? = some key →
        let p := walkAll ⟨true, tick⟩ kind ns depth s
        Stopped tick above before v key p.fault p.scene p.events
  | [], above, depth, s, before, after, h, clean, missed => by
    rw [stepsAll] at h
    cases (List.nil_eq_append_iff.1 h).2
  | n :: ns, above, depth, s, before, after, h, clean, missed => by
    rw [stepsAll] at h
    rcases append_eq_append_cons h with ⟨after', here⟩ | ⟨before', rfl, later⟩
    · have stopped := walk_strict_of_fault tick n above depth s before after' here clean missed
      have faulty : (n.walk ⟨true, tick⟩ depth s).fault.isSome := by
        rw [stopped.fault]
        rfl
      simp only [walkAll, faulty, Bool.true_or, if_true]
      exact stopped
    · -- The first child is clean, so it went as in a lenient walk, and did not stop its siblings.
      rw [List.forall_mem_append] at clean
      have goesOn : ¬kind.stopsAt (n.evaluate s).1 := by
        intro stops
        rw [if_pos stops] at later
        cases (List.nil_eq_append_iff.1 later).2
      rw [if_neg goesOn] at later
      obtain ⟨fault, scene, within, path, events⟩ := walkAll_strict_of_fault tick kind ns above
        depth (n.evaluate s).2 before' after later clean.2 missed
      simp only [walkAll, walk_strict_of_clean tick n above depth s clean.1, fault_lenient,
        status_lenient, scene_lenient, Option.isSome_none, Bool.false_or, if_neg goesOn]
      refine ⟨fault, scene, within, path, ?_⟩
      rw [events, events_lenient tick n above depth s]
      simp only [List.map_append, List.append_assoc]
end

end Node

/-! ## The name that is reported -/

namespace BoardOp

/-- The name that an operation looks up although nobody added it. -/
def missed? (op : BoardOp τ) (m : Entries τ) : Option String :=
  match op with
  | .get k | .set k _ | .modify k _ => if m.contains k.name then none else some k.name
  | .add .. | .takeMissing => none

/-- The missed names not collected yet, in order, after one more operation. -/
def uncollected (op : BoardOp τ) (m : Entries τ) (names : List String) : List String :=
  match op with
  | .takeMissing => []
  | op => names ++ (op.missed? m).toList

def runAll : List (BoardOp τ) → Blackboard τ → Blackboard τ
  | [], bb => bb
  | op :: ops, bb => runAll ops (op.run bb)

/-- The names missed in operations since the last one that collected, given those missed before. -/
def missedSince (names : List String) : List (BoardOp τ) → Blackboard τ → List String
  | [], _ => names
  | op :: ops, bb => missedSince (op.uncollected bb.entries names) ops (op.run bb)

theorem noteMissing_read {t : τ} (m : Entries τ) (k : Key t) (names : List String) :
    noteMissing (m.read k) names.head? = (names ++ ((BoardOp.get k).missed? m).toList).head? := by
  rw [missed?, NameMap.contains]
  cases found : m.find? k.name with
  | none =>
    rw [Entries.read_eq_keyNotFound_iff.2 found, noteMissing]
    cases names <;> rfl
  | some e =>
    rw [if_pos (Option.isSome_some), Option.toList_none, List.append_nil]
    simp only [Entries.read, found]
    cases e.as? t <;> rfl

theorem missing_modify {t : τ} {bb : Blackboard τ} {names : List String}
    (h : bb.missing = names.head?) (k : Key t) (f : Value t → Value t) :
    (bb.modify k f).2.missing = (names ++ ((BoardOp.get k).missed? bb.entries).toList).head? := by
  rw [← noteMissing_read bb.entries k names, ← h, Blackboard.modify]
  cases bb.entries.read k with
  | ok old => rfl
  | error e => cases e <;> rfl

theorem missing_run {bb : Blackboard τ} {names : List String} (h : bb.missing = names.head?)
    (op : BoardOp τ) : (op.run bb).missing = (op.uncollected bb.entries names).head? := by
  cases op with
  | add k v =>
    simp only [run, uncollected, missed?, Option.toList_none, List.append_nil, Blackboard.add]
    by_cases added : bb.entries.contains k.name
    · rw [if_pos added]
      exact h
    · rw [if_neg added]
      exact h
  | get k =>
    rw [run, Blackboard.get_missing, h]
    exact noteMissing_read bb.entries k names
  | set k v => exact missing_modify h k fun _ => v
  | modify k f => exact missing_modify h k f
  | takeMissing => rfl

/-- The noted name is the first that was missed since the last collection. -/
theorem missing_runAll {bb : Blackboard τ} {names : List String} (h : bb.missing = names.head?)
    (ops : List (BoardOp τ)) : (runAll ops bb).missing = (missedSince names ops bb).head? := by
  induction ops generalizing bb names with
  | nil => exact h
  | cons op ops ih => exact ih (missing_run h op)

end BoardOp

/-! ## Updates -/

namespace BehaviourTree

/-- An update next to the lenient walk of the same tree on the same entries, whatever was noted on
either board before. The lenient walk reports its steps. If no leaf leaves a missing name noted,
the update ends as that walk does. Otherwise it takes the steps up to the first leaf that does and
names that leaf and the name, the first that the leaf missed since it last collected one; it leaves
the scene of these steps, and reports them and the failure of the composites above the leaf. -/
theorem update_stops_at_fault {t : BehaviourTree τ μ} {root : Node τ μ} (h : t.root = some root)
    (noted : Option String) :
    let start := t.scene.settled
    let steps := root.steps [] 0 start
    let lenient := root.tickTraced t.ticks
      { t.scene with board := ⟨t.scene.board.entries, noted⟩ }
    lenient.2.1 = steps.foldl Step.advance start ∧
      lenient.2.2 = steps.map (Step.event t.ticks) ∧
      ((∀ st ∈ steps, st.missed? = none) →
        t.update = (.ok (),
          { t with
            scene := lenient.2.1
            sink := t.sink.receive lenient.2.2
            ticks := t.ticks + 1
            last := some lenient.1 })) ∧
      ((∃ st ∈ steps, st.missed? ≠ none) →
        ∃ before v after key, steps = before ++ .leaf v :: after ∧
          (∀ st ∈ before, st.missed? = none) ∧
          v.entered = before.foldl Step.advance start ∧ v.missed? = some key ∧
          (∀ ops : List (BoardOp τ), v.left.board = BoardOp.runAll ops v.entered.board →
            (BoardOp.missedSince [] ops v.entered.board).head? = some key) ∧
          t.update = (.error (.unregisteredKey v.leaf.name key),
            { t with
              scene := v.left.settled
              sink := t.sink.receive ((before ++ [.leaf v]).map (Step.event t.ticks) ++
                v.above.map fun c => ⟨t.ticks, c.1, c.2, .failure⟩) })) := by
  intro start steps lenient
  have walked : lenient.2.2 = steps.map (Step.event t.ticks) :=
    Node.events_lenient t.ticks root [] 0 start
  refine ⟨?_, walked, fun clean => ?_, fun faulty => ?_⟩
  · rw [Node.foldl_steps root [] 0 start]
    exact Node.scene_lenient t.ticks root 0 start
  · have same : root.walkFrom ⟨true, t.ticks⟩ t.scene = root.walkFrom ⟨false, t.ticks⟩ t.scene :=
      Node.walk_strict_of_clean t.ticks root [] 0 start clean
    have none : (root.walkFrom ⟨true, t.ticks⟩ t.scene).fault = none := by
      rw [same]
      exact Node.fault_lenient t.ticks root 0 start
    rw [update_of_no_fault h none, same]
    rfl
  · obtain ⟨before, v, after, key, split, clean, missed⟩ := Step.exists_first_missed faulty
    obtain ⟨fault, scene, within, path, events⟩ :=
      Node.walk_strict_of_fault t.ticks root [] 0 start before after split clean missed
    have entered := Node.entered_steps root [] 0 start before after split
    refine ⟨before, v, after, key, split, clean, entered, missed, fun ops run => ?_, ?_⟩
    · have fresh : v.entered.board.missing = ([] : List String).head? := by
        rw [entered]
        exact Step.missing_foldl_advance rfl before
      rw [← BoardOp.missing_runAll fresh ops, ← run]
      exact missed
    · rw [List.append_nil] at path
      rw [update_of_fault h fault, path]
      simp only [Node.walkFrom]
      rw [scene, events]

/-- A tree whose second leaf looks up a name that nobody added, and does not mind. -/
def astray : Node EntryType Nat :=
  let count : Effect EntryType Nat := fun s => (.success, { s with memory := s.memory + 1 })
  let lost : Predicate EntryType := do
    let found ← Query.look (t := .bool) ⟨"Nowhere"⟩
    return found.isNone
  .runAll [.sequence [.action (.named "Count") count, .condition (.named "Lost") false lost],
    .action (.named "Recount") count]

def goneAstray : BehaviourTree EntryType Nat := { withoutRoot ⟨∅, 0⟩ with root := some astray }

theorem update_stops_at_fault_astray :
    goneAstray.root = some astray ∧
      goneAstray.update.1 = .error (.unregisteredKey "Lost" "Nowhere") ∧
      ∃ before v after key, astray.steps [] 0 ⟨∅, 0⟩ = before ++ .leaf v :: after ∧
        v.missed? = some key ∧ goneAstray.update.1 = .error (.unregisteredKey v.leaf.name key) ∧
        goneAstray.update.2.scene = v.left.settled := by
  have faulty : ∃ st ∈ astray.steps [] 0 goneAstray.scene.settled, st.missed? ≠ none :=
    ⟨_, List.mem_cons_of_mem _ List.mem_cons_self, nofun⟩
  have rooted : goneAstray.root = some astray := rfl
  obtain ⟨before, v, after, key, split, -, -, missed, -, updated⟩ :=
    (update_stops_at_fault rooted none).2.2.2 faulty
  refine ⟨rooted, rfl, before, v, after, key, split, missed, ?_, ?_⟩
  · rw [updated]
  · rw [updated]

end BehaviourTree
end Forager
