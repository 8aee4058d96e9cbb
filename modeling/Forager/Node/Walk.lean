import Forager.Node
import Forager.Trace

/-!
# Walks

Evaluating a node restarts from its first child every time; no node remembers which child ran
last. There are two descriptions of a walk:

* `tick` gives the status and the scene afterwards, and nothing else;
* `walk` also reports an event per evaluated node, children before their parent, and can be
  *strict*: then the first leaf that leaves a missing name noted stops everything. That leaf and
  the name are the `Fault` of the walk, and every composite above it reports failure.

Both forget a missing name noted before the walk, and the one a leaf leaves behind once the leaf
has been evaluated.
-/
namespace Forager

variable {τ μ : Type} [EntryTypes τ]

namespace Scene

/-- The scene with no missing name noted. -/
def settled (s : Scene τ μ) : Scene τ μ := { s with board := s.board.clearMissing }

@[simp] theorem settled_entries (s : Scene τ μ) : s.settled.board.entries = s.board.entries := rfl

@[simp] theorem settled_memory (s : Scene τ μ) : s.settled.memory = s.memory := rfl

@[simp] theorem settled_missing (s : Scene τ μ) : s.settled.board.missing = none := rfl

@[simp] theorem settled_settled (s : Scene τ μ) : s.settled.settled = s.settled := rfl

end Scene

/-- Tests `p`: the status of its verdict, and the scene with any missing name noted. -/
def Predicate.test (inverse : Bool) (p : Predicate τ) : Effect τ μ := fun s =>
  let r := p.edit s.board
  (.ofBool (r.1 != inverse), { s with board := r.2 })

namespace Node

/-! ## Plain evaluation -/

mutual
/-- Evaluates a subtree. -/
def evaluate : Node τ μ → Scene τ μ → Status × Scene τ μ
  | .action _ effect, s =>
    let r := effect s
    (r.1, r.2.settled)
  | .condition _ inverse p, s =>
    let r := Predicate.test inverse p s
    (r.1, r.2.settled)
  | .composite kind _ children, s =>
    let r := evaluateAll kind children s
    (kind.verdict r.1, r.2)

/-- Evaluates children up to the first that ends a composite of the given kind, and lists the
statuses of those that were evaluated. -/
def evaluateAll (kind : CompositeKind) : List (Node τ μ) → Scene τ μ → List Status × Scene τ μ
  | [], s => ([], s)
  | n :: ns, s =>
    let r := n.evaluate s
    if kind.stopsAt r.1 then ([r.1], r.2)
    else
      let rest := evaluateAll kind ns r.2
      (r.1 :: rest.1, rest.2)
end

/-- Evaluates a tree once. -/
def tick (n : Node τ μ) (s : Scene τ μ) : Status × Scene τ μ := n.evaluate s.settled

end Node

/-! ## Reported evaluation -/

/-- A leaf that looked up a name nobody added, and that name. -/
structure Fault where
  leaf : String
  key : String
  deriving DecidableEq, Repr

/-- How a walk goes: whether it stops at a fault, and the number its events carry. -/
structure Walk where
  strict : Bool
  tick : UInt64
  deriving DecidableEq, Repr

namespace Walk

/-- What came of walking a node. -/
structure Outcome (τ μ : Type) [EntryTypes τ] where
  status : Status
  scene : Scene τ μ
  fault : Option Fault
  events : List Event

/-- What came of walking children in order. -/
structure Progress (τ μ : Type) [EntryTypes τ] where
  statuses : List Status
  scene : Scene τ μ
  fault : Option Fault
  events : List Event

/-- The outcome of a leaf at the given depth. -/
def leaf (w : Walk) (depth : UInt32) (leaf : Leaf τ) (effect : Effect τ μ) (s : Scene τ μ) :
    Outcome τ μ :=
  let r := effect s
  { status := r.1
    scene := r.2.settled
    fault := if w.strict then r.2.board.missing.map (⟨leaf.name, ·⟩) else none
    events := [⟨w.tick, depth, leaf.name, r.1⟩] }

/-- The outcome of a composite from the progress of its children. -/
def composite (w : Walk) (depth : UInt32) (kind : CompositeKind) (label : Option String)
    (p : Progress τ μ) : Outcome τ μ :=
  let status := if p.fault.isSome then .failure else kind.verdict p.statuses
  { status
    scene := p.scene
    fault := p.fault
    events := p.events ++ [⟨w.tick, depth, label.getD kind.name, status⟩] }

end Walk

namespace Node

open Walk (Outcome Progress)

mutual
/-- Walks a subtree whose root is at the given depth. -/
def walk (w : Walk) : Node τ μ → UInt32 → Scene τ μ → Outcome τ μ
  | .action leaf effect, depth, s => w.leaf depth leaf effect s
  | .condition leaf inverse p, depth, s => w.leaf depth leaf (Predicate.test inverse p) s
  | .composite kind label children, depth, s =>
    w.composite depth kind label (walkAll w kind children (depth + 1) s)

/-- Walks children up to the first that ends a composite of the given kind or has a fault. -/
def walkAll (w : Walk) (kind : CompositeKind) :
    List (Node τ μ) → UInt32 → Scene τ μ → Progress τ μ
  | [], _, s => ⟨[], s, none, []⟩
  | n :: ns, depth, s =>
    let o := n.walk w depth s
    if o.fault.isSome || kind.stopsAt o.status then ⟨[o.status], o.scene, o.fault, o.events⟩
    else
      let p := walkAll w kind ns depth o.scene
      ⟨o.status :: p.statuses, p.scene, p.fault, o.events ++ p.events⟩
end

/-- Walks a tree once from its root. -/
def walkFrom (w : Walk) (n : Node τ μ) (s : Scene τ μ) : Outcome τ μ := n.walk w 0 s.settled

/-- Evaluates a tree once and reports the events, numbered `tick`. Nothing stops the walk. -/
def tickTraced (n : Node τ μ) (tick : UInt64) (s : Scene τ μ) :
    Status × Scene τ μ × List Event :=
  let o := n.walkFrom ⟨false, tick⟩ s
  (o.status, o.scene, o.events)

end Node
end Forager
