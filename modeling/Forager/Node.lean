import Forager.Blackboard
import Forager.Status
import Forager.Text.Rendering

/-!
# Behaviour-tree nodes

A node is a leaf or a composite. Leaves are *conditions*, which query the blackboard, and
*actions*, which may change it; every leaf has a name and declares the keys it touches.
Composites order their children: a `sequence` goes on while they succeed, a `selector` while they
fail, a `runAll` in any case.

Nodes are data and do not change when they are evaluated. Whatever leaves remember between
evaluations is in the `memory` of the `Scene` that an action gets and hands on.

* `size_eq_length_nodes`: `size` counts the nodes of the subtree.
* `leavesAll_eq`, `nodesAll_eq`: leaves and nodes are listed depth first, left to right.
-/
namespace Forager

/-! ## Leaves -/

inductive Access where
  | read | write
  deriving DecidableEq, Repr

/-- A blackboard name that a leaf touches, with the type it expects there. -/
structure KeyUse (τ : Type) where
  name : String
  type : τ
  access : Access
  deriving DecidableEq, Repr

/-- The name of a leaf and the keys it touches. -/
structure Leaf (τ : Type) where
  name : String
  uses : List (KeyUse τ)
  deriving DecidableEq, Repr

namespace Leaf

variable {τ : Type}

/-- A leaf that declares no key yet. -/
def named (name : String) : Leaf τ := ⟨name, []⟩

def reads {t : τ} (leaf : Leaf τ) (k : Key t) : Leaf τ :=
  { leaf with uses := leaf.uses ++ [⟨k.name, t, .read⟩] }

def writes {t : τ} (leaf : Leaf τ) (k : Key t) : Leaf τ :=
  { leaf with uses := leaf.uses ++ [⟨k.name, t, .write⟩] }

def writesAny (leaf : Leaf τ) : Bool := leaf.uses.any (·.access == .write)

/-- The declared names with the given access, in declaration order. -/
def namesWith (leaf : Leaf τ) (access : Access) : List String :=
  (leaf.uses.filter (·.access == access)).map (·.name)

end Leaf

/-! ## Nodes -/

variable {τ μ : Type} [EntryTypes τ]

/-- What a walk runs on: the blackboard, and what leaves remember. -/
structure Scene (τ μ : Type) [EntryTypes τ] where
  board : Blackboard τ
  memory : μ

/-- A test on the blackboard. -/
abbrev Predicate (τ : Type) [EntryTypes τ] := Query τ Bool

/-- An action's doing. The status steers the parent and says nothing about what was done. -/
abbrev Effect (τ μ : Type) [EntryTypes τ] := Scene τ μ → Status × Scene τ μ

inductive CompositeKind where
  | sequence | selector | runAll
  deriving DecidableEq, Repr

inductive Node (τ μ : Type) [EntryTypes τ] where
  | action (leaf : Leaf τ) (effect : Effect τ μ)
  | condition (leaf : Leaf τ) (inverse : Bool) (predicate : Predicate τ)
  | composite (kind : CompositeKind) (label : Option String) (children : List (Node τ μ))

namespace CompositeKind

def name : CompositeKind → String
  | .sequence => "Sequence"
  | .selector => "Selector"
  | .runAll => "RunAll"

/-- Whether a child's status ends the evaluation of its siblings. -/
def stopsAt : CompositeKind → Status → Bool
  | .sequence, s => s != .success
  | .selector, s => s != .failure
  | .runAll, _ => false

/-- The status of a composite whose evaluated children reported `statuses`, in order. -/
def verdict (kind : CompositeKind) (statuses : List Status) : Status :=
  match kind with
  | .sequence => (statuses.find? (kind.stopsAt ·)).getD .success
  | .selector => (statuses.find? (kind.stopsAt ·)).getD .failure
  | .runAll =>
    if statuses.contains .running then .running
    else .ofBool (statuses.contains .success)

end CompositeKind

namespace Node

def sequence (children : List (Node τ μ)) : Node τ μ := .composite .sequence none children

def selector (children : List (Node τ μ)) : Node τ μ := .composite .selector none children

def runAll (children : List (Node τ μ)) : Node τ μ := .composite .runAll none children

/-- Exchanges a condition and its inverse. Other nodes stay as they are. -/
def inverted : Node τ μ → Node τ μ
  | .condition leaf inverse p => .condition leaf (!inverse) p
  | n => n

/-- Labels a composite. Leaves keep their own name. -/
def labelled (n : Node τ μ) (label : String) : Node τ μ :=
  match n with
  | .composite kind _ children => .composite kind (some label) children
  | n => n

def kind : Node τ μ → String
  | .action .. => "Action"
  | .condition _ false _ => "Conditional"
  | .condition _ true _ => "ConditionalInverse"
  | .composite kind .. => kind.name

/-- The name of a leaf; the label of a composite, or its kind if it has none. -/
def name : Node τ μ → String
  | .action leaf _ => leaf.name
  | .condition leaf .. => leaf.name
  | .composite kind label _ => label.getD kind.name

def leaf? : Node τ μ → Option (Leaf τ)
  | .action leaf _ => some leaf
  | .condition leaf .. => some leaf
  | .composite .. => none

def label? : Node τ μ → Option String
  | .composite _ label _ => label
  | _ => none

def children : Node τ μ → List (Node τ μ)
  | .composite _ _ children => children
  | _ => []

/-! ## The whole subtree -/

mutual
/-- The number of nodes of the subtree. -/
def size : Node τ μ → Nat
  | .action .. => 1
  | .condition .. => 1
  | .composite _ _ children => 1 + sizeAll children

def sizeAll : List (Node τ μ) → Nat
  | [] => 0
  | n :: ns => n.size + sizeAll ns
end

mutual
/-- The leaves, depth first and left to right. -/
def leaves : Node τ μ → List (Leaf τ)
  | .action leaf _ => [leaf]
  | .condition leaf .. => [leaf]
  | .composite _ _ children => leavesAll children

def leavesAll : List (Node τ μ) → List (Leaf τ)
  | [] => []
  | n :: ns => n.leaves ++ leavesAll ns
end

mutual
/-- The nodes of the subtree, each before its children. -/
def nodes : Node τ μ → List (Node τ μ)
  | .action leaf effect => [.action leaf effect]
  | .condition leaf inverse p => [.condition leaf inverse p]
  | .composite kind label children => .composite kind label children :: nodesAll children

def nodesAll : List (Node τ μ) → List (Node τ μ)
  | [] => []
  | n :: ns => n.nodes ++ nodesAll ns
end

mutual
theorem size_eq_length_nodes : ∀ n : Node τ μ, n.size = n.nodes.length
  | .action .. => by simp [size, nodes]
  | .condition .. => by simp [size, nodes]
  | .composite _ _ children => by
    simp [size, nodes, sizeAll_eq_length_nodesAll children, Nat.add_comm]

theorem sizeAll_eq_length_nodesAll : ∀ ns : List (Node τ μ), sizeAll ns = (nodesAll ns).length
  | [] => by simp [sizeAll, nodesAll]
  | n :: ns => by
    simp [sizeAll, nodesAll, size_eq_length_nodes n, sizeAll_eq_length_nodesAll ns]
end

theorem leavesAll_eq (ns : List (Node τ μ)) : leavesAll ns = ns.flatMap leaves := by
  induction ns with
  | nil => simp [leavesAll]
  | cons n ns ih => simp [leavesAll, ih]

theorem nodesAll_eq (ns : List (Node τ μ)) : nodesAll ns = ns.flatMap nodes := by
  induction ns with
  | nil => simp [nodesAll]
  | cons n ns ih => simp [nodesAll, ih]

end Node
end Forager
