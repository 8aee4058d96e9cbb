import Forager.Node.Walk

/-!
# Behaviour trees

A tree is a scene with the root node that is walked against it once per update. A root is
accepted only if every key its leaves declare is on the board with the declared type.

An update is a strict walk. When a leaf looks up a name nobody added, the update fails, the tick
is not counted and the last status stays; what the walk did to the board up to that leaf stays
too.

* `validate_eq_ok_iff`: a root is accepted exactly when no leaf has a defect.
* `update_of_fault`, `update_of_no_fault`: the two ways an update with a root ends.
* `updatesTo_update`: all that an update can come to.
-/
namespace Forager

variable {τ μ : Type} [EntryTypes τ]

/-- Why a tree refused a root or an update. -/
inductive TreeError (τ : Type) where
  | missingRoot
  | unregisteredKey (leaf key : String)
  | keyTypeMismatch (leaf key : String) (expected found : τ)
  | blackboard (error : BlackboardError τ)
  deriving DecidableEq, Repr

def TreeError.message : TreeError τ → String
  | .missingRoot => "behaviour tree has no root node"
  | .unregisteredKey leaf key => s!"leaf `{leaf}` uses blackboard key `{key}`, which was never added"
  | .keyTypeMismatch leaf key expected found =>
    s!"leaf `{leaf}` expects `{key}` to hold `{EntryTypes.name expected}`, but it was added as `{EntryTypes.name found}`"
  | .blackboard error => error.message

/-! ## Validation -/

/-- What is wrong with the entry of a key that the named leaf declares. -/
def KeyUse.defect? (entries : Entries τ) (leaf : String) (u : KeyUse τ) : Option (TreeError τ) :=
  match entries.typeOf? u.name with
  | none => some (.unregisteredKey leaf u.name)
  | some found =>
    if found = u.type then none else some (.keyTypeMismatch leaf u.name u.type found)

/-- The first defect among the keys of a leaf, in declaration order. -/
def Leaf.defect? (entries : Entries τ) (leaf : Leaf τ) : Option (TreeError τ) :=
  leaf.uses.findSome? (·.defect? entries leaf.name)

namespace Node

/-- The first defect among the leaves of a subtree. -/
def defect? (entries : Entries τ) (n : Node τ μ) : Option (TreeError τ) :=
  n.leaves.findSome? (·.defect? entries)

/-- Whether every declared key is there with its declared type. -/
def validate (n : Node τ μ) (entries : Entries τ) : Except (TreeError τ) Unit :=
  match n.defect? entries with
  | some e => .error e
  | none => .ok ()

end Node

/-! ## Trees -/

structure BehaviourTree (τ μ : Type) [EntryTypes τ] where
  scene : Scene τ μ
  root : Option (Node τ μ)
  sink : Sink
  ticks : UInt64
  last : Option Status

namespace BehaviourTree

/-- A tree that has nothing to walk yet. -/
def withoutRoot (scene : Scene τ μ) : BehaviourTree τ μ := ⟨scene, none, .detached, 0, none⟩

/-- Installs a root that passes validation. -/
def setRoot (t : BehaviourTree τ μ) (root : Node τ μ) :
    Except (TreeError τ) (BehaviourTree τ μ) :=
  (root.validate t.scene.board.entries).map fun _ => { t with root := some root }

/-- A tree with the given root, if it passes validation. -/
def ofRoot (scene : Scene τ μ) (root : Node τ μ) : Except (TreeError τ) (BehaviourTree τ μ) :=
  (withoutRoot scene).setRoot root

def board (t : BehaviourTree τ μ) : Blackboard τ := t.scene.board

/-- Puts another board in place. -/
def withBoard (t : BehaviourTree τ μ) (bb : Blackboard τ) : BehaviourTree τ μ :=
  { t with scene := { t.scene with board := bb } }

/-- Runs an edit on the tree's board. -/
def edit {α : Type} (t : BehaviourTree τ μ) (e : Edit τ α) : α × BehaviourTree τ μ :=
  let r := e t.board
  (r.1, t.withBoard r.2)

/-- Checks the current root against the board again. -/
def validate (t : BehaviourTree τ μ) : Except (TreeError τ) Unit :=
  match t.root with
  | none => .error .missingRoot
  | some root => root.validate t.scene.board.entries

/-- Walks the root once. The number of the walk's events is the count of updates so far. -/
def update (t : BehaviourTree τ μ) : Except (TreeError τ) Unit × BehaviourTree τ μ :=
  match t.root with
  | none => (.error .missingRoot, t)
  | some root =>
    let o := root.walkFrom ⟨true, t.ticks⟩ t.scene
    let after := { t with scene := o.scene, sink := t.sink.receive o.events }
    match o.fault with
    | some f => (.error (.unregisteredKey f.leaf f.key), after)
    | none => (.ok (), { after with ticks := t.ticks + 1, last := some o.status })

/-- Takes the kept events away from the tree's sink. -/
def takeLog (t : BehaviourTree τ μ) : TraceLog × BehaviourTree τ μ :=
  (t.sink.log, { t with sink := t.sink.emptied })

/-! ## Lemmas -/

theorem validate_eq_ok_iff {n : Node τ μ} {entries : Entries τ} :
    n.validate entries = .ok () ↔ n.defect? entries = none := by
  unfold Node.validate
  cases n.defect? entries <;> simp

theorem setRoot_eq_ok_iff {t t' : BehaviourTree τ μ} {root : Node τ μ} :
    t.setRoot root = .ok t' ↔
      root.defect? t.scene.board.entries = none ∧ t' = { t with root := some root } := by
  unfold setRoot Node.validate
  cases root.defect? t.scene.board.entries <;> simp [Except.map, eq_comm]

theorem update_without_root {t : BehaviourTree τ μ} (h : t.root = none) :
    t.update = (.error .missingRoot, t) := by simp [update, h]

theorem update_of_fault {t : BehaviourTree τ μ} {root : Node τ μ} {f : Fault}
    (h : t.root = some root) (hf : (root.walkFrom ⟨true, t.ticks⟩ t.scene).fault = some f) :
    t.update = (.error (.unregisteredKey f.leaf f.key),
      { t with
        scene := (root.walkFrom ⟨true, t.ticks⟩ t.scene).scene
        sink := t.sink.receive (root.walkFrom ⟨true, t.ticks⟩ t.scene).events }) := by
  simp [update, h, hf]

theorem update_of_no_fault {t : BehaviourTree τ μ} {root : Node τ μ}
    (h : t.root = some root) (hf : (root.walkFrom ⟨true, t.ticks⟩ t.scene).fault = none) :
    t.update = (.ok (),
      { t with
        scene := (root.walkFrom ⟨true, t.ticks⟩ t.scene).scene
        sink := t.sink.receive (root.walkFrom ⟨true, t.ticks⟩ t.scene).events
        ticks := t.ticks + 1
        last := some (root.walkFrom ⟨true, t.ticks⟩ t.scene).status }) := by
  simp [update, h, hf]

/-! ## How an update goes -/

/-- The walk that an update makes, if there is a root. -/
def walk? (t : BehaviourTree τ μ) : Option (Walk.Outcome τ μ) :=
  t.root.map fun root => root.walkFrom ⟨true, t.ticks⟩ t.scene

/-- How an update goes: there is no root, the walk stops at a fault, or it comes to its end. -/
inductive UpdatesTo (t : BehaviourTree τ μ) : Except (TreeError τ) Unit × BehaviourTree τ μ → Prop
  | rootless (h : t.walk? = none) : UpdatesTo t (.error .missingRoot, t)
  | stopped {o : Walk.Outcome τ μ} {f : Fault} (h : t.walk? = some o) (hf : o.fault = some f) :
    UpdatesTo t (.error (.unregisteredKey f.leaf f.key),
      { t with scene := o.scene, sink := t.sink.receive o.events })
  | completed {o : Walk.Outcome τ μ} (h : t.walk? = some o) (hf : o.fault = none) :
    UpdatesTo t (.ok (),
      { t with
        scene := o.scene
        sink := t.sink.receive o.events
        ticks := t.ticks + 1
        last := some o.status })

theorem updatesTo_update (t : BehaviourTree τ μ) : t.UpdatesTo t.update := by
  cases hr : t.root with
  | none =>
    rw [update_without_root hr]
    exact .rootless (by rw [walk?, hr]; rfl)
  | some root =>
    have walked : t.walk? = some (root.walkFrom ⟨true, t.ticks⟩ t.scene) := by
      rw [walk?, hr]
      rfl
    cases hf : (root.walkFrom ⟨true, t.ticks⟩ t.scene).fault with
    | none =>
      rw [update_of_no_fault hr hf]
      exact .completed walked hf
    | some f =>
      rw [update_of_fault hr hf]
      exact .stopped walked hf

end BehaviourTree
end Forager
