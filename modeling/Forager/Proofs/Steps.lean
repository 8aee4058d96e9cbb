import Forager.Proofs.Walks

/-!
# The steps of a walk

A walk that nothing stops evaluates leaf after leaf and lets composites conclude in between. Its
`steps` are these, each leaf with its place in the tree and the scene it enters.

* `events_lenient`: the walk reports its steps.
* `foldl_steps`, `entered_steps`: the scene is what the leaves make of it, one after the other.
-/
namespace Forager

variable {τ μ : Type} [EntryTypes τ]

/-! ## Steps -/

/-- A leaf as it is evaluated in a walk, and the composites it stands below, innermost first. -/
structure Visit (τ μ : Type) [EntryTypes τ] where
  leaf : Leaf τ
  effect : Effect τ μ
  depth : UInt32
  above : List (UInt32 × String)
  entered : Scene τ μ

namespace Visit

def status (v : Visit τ μ) : Status := (v.effect v.entered).1

/-- The scene as the leaf leaves it. -/
def left (v : Visit τ μ) : Scene τ μ := (v.effect v.entered).2

/-- The missing name that the leaf leaves noted. -/
def missed? (v : Visit τ μ) : Option String := v.left.board.missing

end Visit

/-- A leaf is evaluated, or a composite concludes. -/
inductive Step (τ μ : Type) [EntryTypes τ] where
  | leaf (visit : Visit τ μ)
  | composite (depth : UInt32) (name : String) (status : Status)

namespace Step

def event (tick : UInt64) : Step τ μ → Event
  | .leaf v => ⟨tick, v.depth, v.leaf.name, v.status⟩
  | .composite depth name status => ⟨tick, depth, name, status⟩

def missed? : Step τ μ → Option String
  | .leaf v => v.missed?
  | .composite .. => none

/-- The scene after a step. Only leaves change it, and what one leaves noted is forgotten. -/
def advance (s : Scene τ μ) : Step τ μ → Scene τ μ
  | .leaf v => (v.effect s).2.settled
  | .composite .. => s

theorem missing_advance {s : Scene τ μ} (h : s.board.missing = none) (st : Step τ μ) :
    (advance s st).board.missing = none := by
  cases st with
  | leaf v => rfl
  | composite depth name status => exact h

theorem missing_foldl_advance {s : Scene τ μ} (h : s.board.missing = none)
    (sts : List (Step τ μ)) : (sts.foldl advance s).board.missing = none := by
  induction sts generalizing s with
  | nil => exact h
  | cons st sts ih => exact ih (missing_advance h st)

end Step

namespace Node

mutual
/-- The steps of evaluating a subtree below the given composites. -/
def steps : Node τ μ → List (UInt32 × String) → UInt32 → Scene τ μ → List (Step τ μ)
  | .action leaf effect, above, depth, s => [.leaf ⟨leaf, effect, depth, above, s⟩]
  | .condition leaf inverse p, above, depth, s =>
    [.leaf ⟨leaf, Predicate.test inverse p, depth, above, s⟩]
  | .composite kind label children, above, depth, s =>
    let name := label.getD kind.name
    stepsAll kind children ((depth, name) :: above) (depth + 1) s ++
      [.composite depth name (kind.verdict (evaluateAll kind children s).1)]

def stepsAll (kind : CompositeKind) :
    List (Node τ μ) → List (UInt32 × String) → UInt32 → Scene τ μ → List (Step τ μ)
  | [], _, _, _ => []
  | n :: ns, above, depth, s =>
    let r := n.evaluate s
    n.steps above depth s ++ if kind.stopsAt r.1 then [] else stepsAll kind ns above depth r.2
end

/-! ## What is reported -/

mutual
theorem events_lenient (tick : UInt64) :
    ∀ (n : Node τ μ) (above : List (UInt32 × String)) (depth : UInt32) (s : Scene τ μ),
      (n.walk ⟨false, tick⟩ depth s).events = (n.steps above depth s).map (Step.event tick)
  | .action leaf effect, above, depth, s => by
    simp only [walk, Walk.leaf, steps]
    rfl
  | .condition leaf inverse p, above, depth, s => by
    simp only [walk, Walk.leaf, steps]
    rfl
  | .composite kind label children, above, depth, s => by
    have below := events_lenientAll tick kind children ((depth, label.getD kind.name) :: above)
      (depth + 1) s
    obtain ⟨fault, evaluated⟩ := walkAll_lenient tick kind children (depth + 1) s
    simp only [walk, Walk.composite, steps, List.map_append, below, fault, ← evaluated]
    rfl

theorem events_lenientAll (tick : UInt64) (kind : CompositeKind) :
    ∀ (ns : List (Node τ μ)) (above : List (UInt32 × String)) (depth : UInt32) (s : Scene τ μ),
      (walkAll ⟨false, tick⟩ kind ns depth s).events =
        (stepsAll kind ns above depth s).map (Step.event tick)
  | [], above, depth, s => by simp only [walkAll, stepsAll, List.map_nil]
  | n :: ns, above, depth, s => by
    have first := events_lenient tick n above depth s
    have rest := events_lenientAll tick kind ns above depth (n.evaluate s).2
    simp only [walkAll, stepsAll, fault_lenient, status_lenient, scene_lenient,
      Option.isSome_none, Bool.false_or]
    split
    · rw [List.append_nil, first]
    · rw [List.map_append, first, rest]
end

/-! ## The scenes in between -/

/-- Where an element of two lists in a row stands. -/
theorem append_eq_append_cons {α : Type} {l l' before after : List α} {a : α}
    (h : l ++ l' = before ++ a :: after) : (∃ after', l = before ++ a :: after') ∨
      ∃ before', before = l ++ before' ∧ l' = before' ++ a :: after := by
  rcases List.append_eq_append_iff.1 h with ⟨before', hb, hl⟩ | ⟨between, hl, hb⟩
  · exact .inr ⟨before', hb, hl⟩
  · cases between with
    | nil => exact .inr ⟨[], by rw [hl, List.append_nil, List.append_nil], hb.symm⟩
    | cons b after' =>
      cases hb
      exact .inl ⟨after', hl⟩

mutual
theorem foldl_steps :
    ∀ (n : Node τ μ) (above : List (UInt32 × String)) (depth : UInt32) (s : Scene τ μ),
      (n.steps above depth s).foldl Step.advance s = (n.evaluate s).2
  | .action leaf effect, above, depth, s => by
    simp only [steps, evaluate]
    rfl
  | .condition leaf inverse p, above, depth, s => by
    simp only [steps, evaluate]
    rfl
  | .composite kind label children, above, depth, s => by
    simp only [steps, evaluate, List.foldl_append, foldl_stepsAll kind children _ (depth + 1) s]
    rfl

theorem foldl_stepsAll (kind : CompositeKind) :
    ∀ (ns : List (Node τ μ)) (above : List (UInt32 × String)) (depth : UInt32) (s : Scene τ μ),
      (stepsAll kind ns above depth s).foldl Step.advance s = (evaluateAll kind ns s).2
  | [], above, depth, s => by simp only [stepsAll, evaluateAll, List.foldl_nil]
  | n :: ns, above, depth, s => by
    simp only [stepsAll, evaluateAll, List.foldl_append, foldl_steps n above depth s]
    split
    · rfl
    · exact foldl_stepsAll kind ns above depth (n.evaluate s).2
end

section Entered

variable {before after : List (Step τ μ)} {v : Visit τ μ}

mutual
/-- A leaf enters the scene that the steps before it lead to. -/
theorem entered_steps :
    ∀ (n : Node τ μ) (above : List (UInt32 × String)) (depth : UInt32) (s : Scene τ μ)
      (before after : List (Step τ μ)), n.steps above depth s = before ++ .leaf v :: after →
      v.entered = before.foldl Step.advance s
  | .action leaf effect, above, depth, s, before, after, h => by
    rw [steps] at h
    rcases List.singleton_eq_append_iff.1 h with ⟨rfl, h⟩ | ⟨-, h⟩ <;> cases h
    rfl
  | .condition leaf inverse p, above, depth, s, before, after, h => by
    rw [steps] at h
    rcases List.singleton_eq_append_iff.1 h with ⟨rfl, h⟩ | ⟨-, h⟩ <;> cases h
    rfl
  | .composite kind label children, above, depth, s, before, after, h => by
    rw [steps] at h
    rcases append_eq_append_cons h with ⟨after', below⟩ | ⟨before', -, last⟩
    · exact entered_stepsAll kind children _ (depth + 1) s before after' below
    · rcases List.singleton_eq_append_iff.1 last with ⟨-, last⟩ | ⟨-, last⟩ <;> cases last

theorem entered_stepsAll (kind : CompositeKind) :
    ∀ (ns : List (Node τ μ)) (above : List (UInt32 × String)) (depth : UInt32) (s : Scene τ μ)
      (before after : List (Step τ μ)),
      stepsAll kind ns above depth s = before ++ .leaf v :: after →
      v.entered = before.foldl Step.advance s
  | [], above, depth, s, before, after, h => by
    rw [stepsAll] at h
    cases (List.nil_eq_append_iff.1 h).2
  | n :: ns, above, depth, s, before, after, h => by
    rw [stepsAll] at h
    rcases append_eq_append_cons h with ⟨after', here⟩ | ⟨before', rfl, later⟩
    · exact entered_steps n above depth s before after' here
    · rw [List.foldl_append, foldl_steps n above depth s]
      split at later
      · cases (List.nil_eq_append_iff.1 later).2
      · exact entered_stepsAll kind ns above depth (n.evaluate s).2 before' after later
end

end Entered

end Node
end Forager
