import Forager.Beliefs
import Forager.Proofs.Footprints
import Forager.Proofs.Walks

/-!
# Validation suffices for library leaves

A root is checked once, when it is installed. Afterwards callers may do anything the board offers
between updates. No operation of a board removes or retypes an entry, and a library leaf never
misses a name it did not declare; so the check stays true, and with it no update fails.

* `defect?_eq_none_iff`: what the check asks for.
* `typeOf?_run`: no operation of a board takes the type of an entry away.
* `walk_of_honest`: a checked tree of honest leaves is walked to its end.
* `update_succeeds`: every update of a checked library tree succeeds.
-/
namespace Forager

variable {τ μ : Type} [EntryTypes τ]

/-! ## The check -/

theorem KeyUse.defect?_eq_none_iff {entries : Entries τ} {leaf : String} {u : KeyUse τ} :
    u.defect? entries leaf = none ↔ entries.typeOf? u.name = some u.type := by
  unfold KeyUse.defect?
  cases entries.typeOf? u.name with
  | none => exact ⟨nofun, nofun⟩
  | some found =>
    dsimp only
    split
    · rename_i h
      exact ⟨fun _ => congrArg some h, fun _ => rfl⟩
    · rename_i h
      exact ⟨nofun, fun hs => absurd (Option.some.inj hs) h⟩

/-- A root passes exactly if each declared key is there with its declared type. -/
theorem Node.defect?_eq_none_iff {entries : Entries τ} {n : Node τ μ} :
    n.defect? entries = none ↔
      ∀ leaf ∈ n.leaves, ∀ u ∈ leaf.uses, entries.typeOf? u.name = some u.type := by
  simp only [Node.defect?, Leaf.defect?, List.findSome?_eq_none_iff, KeyUse.defect?_eq_none_iff]

/-- Entries that keep their types keep a root free of defects. -/
theorem Node.defect?_mono {entries entries' : Entries τ} {n : Node τ μ}
    (types : ∀ name t, entries.typeOf? name = some t → entries'.typeOf? name = some t)
    (h : n.defect? entries = none) : n.defect? entries' = none := by
  rw [defect?_eq_none_iff] at h ⊢
  exact fun leaf hl u hu => types u.name u.type (h leaf hl u hu)

/-! ## Operations of a board -/

/-- What a caller can do to a board between two updates. -/
inductive BoardOp (τ : Type) [EntryTypes τ] where
  | add {t : τ} (k : Key t) (v : Value t)
  | get {t : τ} (k : Key t)
  | set {t : τ} (k : Key t) (v : Value t)
  | modify {t : τ} (k : Key t) (f : Value t → Value t)
  | takeMissing

namespace BoardOp

def run : BoardOp τ → Blackboard τ → Blackboard τ
  | .add k v, bb =>
    match bb.add k v with
    | .error _ => bb
    | .ok bb' => bb'
  | .get k, bb => (bb.get k).2
  | .set k v, bb => (bb.set k v).2
  | .modify k f, bb => (bb.modify k f).2
  | .takeMissing, bb => bb.takeMissing.2

theorem typeOf?_modify {t : τ} (bb : Blackboard τ) (k : Key t) (f : Value t → Value t)
    (n : String) : (bb.modify k f).2.entries.typeOf? n = bb.entries.typeOf? n := by
  unfold Blackboard.modify
  cases hr : bb.entries.read k with
  | ok v => exact Edit.Within.typeOf?_write hr (f v) n
  | error e => rfl

theorem typeOf?_add {u : τ} {bb bb' : Blackboard τ} {k : Key u} {v : Value u}
    (hb : bb.add k v = .ok bb') {n : String} {t : τ} (h : bb.entries.typeOf? n = some t) :
    bb'.entries.typeOf? n = some t := by
  unfold Blackboard.add at hb
  split at hb
  · cases hb
  · rename_i hc
    cases hb
    dsimp only
    rw [Entries.typeOf?, Entries.find?_write]
    split
    · rename_i hn
      rw [NameMap.contains, ← hn, Bool.not_eq_true, Option.isSome_eq_false_iff,
        Option.isNone_iff_eq_none] at hc
      rw [Entries.typeOf?, hc] at h
      cases h
    · exact h

/-- An entry keeps its type whatever is done to the board. -/
theorem typeOf?_run (op : BoardOp τ) (bb : Blackboard τ) (n : String) (t : τ)
    (h : bb.entries.typeOf? n = some t) : (op.run bb).entries.typeOf? n = some t := by
  cases op with
  | add k v =>
    cases hb : bb.add k v with
    | error e =>
      simp only [run, hb]
      exact h
    | ok bb' =>
      simp only [run, hb]
      exact typeOf?_add hb h
  | get k => exact h
  | set k v => exact (typeOf?_modify bb k (fun _ => v) n).trans h
  | modify k f => exact (typeOf?_modify bb k f n).trans h
  | takeMissing => exact h

end BoardOp

/-! ## Honest leaves -/

/-- Whether a leaf retypes and adds nothing and misses no name but those it declares. -/
def Honest (leaf : Leaf τ) (effect : Effect τ μ) : Prop :=
  ∀ s, (∀ n, (effect s).2.board.entries.typeOf? n = s.board.entries.typeOf? n) ∧
    Noted (leaf.uses.map (·.name)) s.board.entries s.board.missing (effect s).2.board.missing

namespace Node

mutual
theorem leaf_mem_leaves : ∀ (n : Node τ μ), ∀ part ∈ n.parts, part.1 ∈ n.leaves
  | .action leaf effect, part, h => by
    rw [parts, List.mem_singleton] at h
    rw [h, leaves]
    exact List.mem_singleton.2 rfl
  | .condition leaf inverse p, part, h => by
    rw [parts, List.mem_singleton] at h
    rw [h, leaves]
    exact List.mem_singleton.2 rfl
  | .composite kind label children, part, h => by
    rw [parts] at h
    rw [leaves]
    exact leaf_mem_leavesAll children part h

theorem leaf_mem_leavesAll : ∀ (ns : List (Node τ μ)), ∀ part ∈ partsAll ns, part.1 ∈ leavesAll ns
  | [], part, h => by
    rw [partsAll] at h
    cases h
  | n :: ns, part, h => by
    rw [partsAll] at h
    rw [leavesAll]
    rcases List.mem_append.1 h with h | h
    · exact List.mem_append_left _ (leaf_mem_leaves n part h)
    · exact List.mem_append_right _ (leaf_mem_leavesAll ns part h)
end

/-- A tree of honest leaves that passes the check is walked to its end, and retypes nothing. -/
theorem walk_of_honest {n : Node τ μ} (honest : ∀ part ∈ n.parts, Honest part.1 part.2)
    {s : Scene τ μ} (h : n.defect? s.board.entries = none) (w : Walk) :
    (n.walkFrom w s).fault = none ∧
      ∀ name, (n.walkFrom w s).scene.board.entries.typeOf? name = s.board.entries.typeOf? name := by
  let I : Scene τ μ → Prop := fun s' =>
    s'.board.missing = none ∧ ∀ name, s'.board.entries.typeOf? name = s.board.entries.typeOf? name
  have kept : Keep I n.parts := by
    intro part hp s' ⟨hm, ht⟩
    obtain ⟨types, notes⟩ := honest part hp s'
    refine ⟨?_, fun name => (types name).trans (ht name)⟩
    rcases notes with hn | ⟨_, name, hin, habs, _⟩
    · rw [hn, hm]
    · -- The noted name would be declared, and the check found it there.
      obtain ⟨u, hu, rfl⟩ := List.mem_map.1 hin
      have there := defect?_eq_none_iff.1 h part.1 (leaf_mem_leaves n part hp) u hu
      rw [ht, there] at habs
      cases habs
  have start : I s.settled := ⟨rfl, fun _ => rfl⟩
  obtain ⟨hf, hi⟩ := walk_of_invariant (fun s' hs => hs.1) w n kept 0 s.settled start
  exact ⟨hf, hi.2⟩

end Node

/-! ## Library trees -/

/-- The trees that can be built from library leaves: any nesting, any labels, any condition
inverted. -/
inductive LibraryNode : Node EntryType μ → Prop where
  | leaf {v : Behaviour} (h : v ∈ Library.all) : LibraryNode v.node
  | inverted {v : Behaviour} (h : v ∈ Library.all) : LibraryNode v.node.inverted
  | composite (kind : CompositeKind) (label : Option String) (children : List (Node EntryType μ))
      (h : ∀ n ∈ children, LibraryNode n) : LibraryNode (.composite kind label children)

theorem honest_test {leaf : Leaf EntryType} {holds : Query EntryType Bool}
    (h : Library.Framed (.test leaf holds)) (inverse : Bool) :
    Honest leaf (Predicate.test inverse holds : Effect EntryType μ) :=
  fun s => ⟨fun _ => rfl, h.notes s.board.entries s.board.missing⟩

theorem honest_act {leaf : Leaf EntryType} {run : Edit EntryType Status}
    (h : Library.Framed (.act leaf run)) :
    Honest leaf fun s : Scene EntryType μ =>
      ((run s.board).1, { s with board := (run s.board).2 }) :=
  fun s => ⟨h.types s.board, h.notes s.board⟩

theorem LibraryNode.honest {n : Node EntryType μ} (h : LibraryNode n) :
    ∀ part ∈ n.parts, Honest part.1 part.2 := by
  induction h with
  | @leaf v hv =>
    have framed := Library.framed_all v hv
    cases v with
    | test leaf holds =>
      simp only [Behaviour.node, Node.parts, List.mem_singleton, forall_eq]
      exact honest_test framed false
    | act leaf run =>
      simp only [Behaviour.node, Node.parts, List.mem_singleton, forall_eq]
      exact honest_act framed
  | @inverted v hv =>
    have framed := Library.framed_all v hv
    cases v with
    | test leaf holds =>
      simp only [Behaviour.node, Node.inverted, Node.parts, List.mem_singleton, forall_eq]
      exact honest_test framed _
    | act leaf run =>
      simp only [Behaviour.node, Node.inverted, Node.parts, List.mem_singleton, forall_eq]
      exact honest_act framed
  | composite kind label children _ ih =>
    intro part hp
    rw [Node.parts, Node.partsAll_eq] at hp
    obtain ⟨n, hn, hp⟩ := List.mem_flatMap.1 hp
    exact ih n hn part hp

/-! ## Runs of a tree -/

/-- What a caller can do with a tree. -/
inductive TreeCall (τ μ : Type) [EntryTypes τ] where
  | board (op : BoardOp τ)
  | update
  | setRoot (root : Node τ μ)

namespace BehaviourTree

/-- The tree after one call. A refused root leaves it as it is. -/
def call (t : BehaviourTree τ μ) : TreeCall τ μ → BehaviourTree τ μ
  | .board op => t.withBoard (op.run t.board)
  | .update => t.update.2
  | .setRoot root =>
    match t.setRoot root with
    | .error _ => t
    | .ok t' => t'

/-- The tree after calls in order. -/
def calls (t : BehaviourTree τ μ) (cs : List (TreeCall τ μ)) : BehaviourTree τ μ :=
  cs.foldl call t

/-- Whether all roots that the tree accepts in the course of the calls are of the given sort. -/
def AcceptsOnly (sort : Node τ μ → Prop) : BehaviourTree τ μ → List (TreeCall τ μ) → Prop
  | _, [] => True
  | t, c :: cs =>
    (∀ root, c = .setRoot root → (∃ t', t.setRoot root = .ok t') → sort root) ∧
      AcceptsOnly sort (t.call c) cs

theorem acceptsOnly_of_mem {sort : Node τ μ → Prop} {t : BehaviourTree τ μ}
    {cs : List (TreeCall τ μ)} (h : ∀ root, .setRoot root ∈ cs → sort root) :
    t.AcceptsOnly sort cs := by
  induction cs generalizing t with
  | nil => trivial
  | cons c cs ih =>
    refine ⟨fun root hc _ => ?_, ih fun root hm => h root (List.mem_cons_of_mem _ hm)⟩
    exact h root (hc ▸ List.mem_cons_self)

/-- Whether a tree has a root of the given sort that passes the check as things are now. -/
def Passes (sort : Node τ μ → Prop) (t : BehaviourTree τ μ) : Prop :=
  ∃ root, t.root = some root ∧ sort root ∧ root.defect? t.scene.board.entries = none

section Passes

variable {sort : Node τ μ → Prop}

theorem passes_of_setRoot {t t' : BehaviourTree τ μ} {root : Node τ μ} (hs : sort root)
    (h : t.setRoot root = .ok t') : t'.Passes sort := by
  obtain ⟨hd, rfl⟩ := setRoot_eq_ok_iff.1 h
  exact ⟨root, rfl, hs, hd⟩

theorem Passes.validate {t : BehaviourTree τ μ} (h : t.Passes sort) : t.validate = .ok () := by
  obtain ⟨root, hr, -, hd⟩ := h
  simp only [BehaviourTree.validate, hr]
  exact validate_eq_ok_iff.2 hd

variable (updated : ∀ t : BehaviourTree τ μ, t.Passes sort → t.update.2.Passes sort)
include updated

theorem Passes.call {t : BehaviourTree τ μ} (h : t.Passes sort) (c : TreeCall τ μ)
    (hc : ∀ root, c = .setRoot root → (∃ t', t.setRoot root = .ok t') → sort root) :
    (t.call c).Passes sort := by
  cases c with
  | board op =>
    obtain ⟨root, hr, hs, hd⟩ := h
    exact ⟨root, hr, hs, Node.defect?_mono (op.typeOf?_run t.board) hd⟩
  | update => exact updated t h
  | setRoot root =>
    cases hs : t.setRoot root with
    | error e =>
      simp only [BehaviourTree.call, hs]
      exact h
    | ok t' =>
      simp only [BehaviourTree.call, hs]
      exact passes_of_setRoot (hc root rfl ⟨t', hs⟩) hs

/-- No call makes a root fail the check, if no update does and the roots that are accepted on the
way are of the same sort. -/
theorem Passes.calls {t : BehaviourTree τ μ} (h : t.Passes sort) (cs : List (TreeCall τ μ))
    (accepts : t.AcceptsOnly sort cs) : (t.calls cs).Passes sort := by
  induction cs generalizing t with
  | nil => exact h
  | cons c cs ih =>
    obtain ⟨now, later⟩ := accepts
    exact ih (h.call updated c now) later

end Passes

/-- Whether a tree has a root of library leaves that passes the check as things are now. -/
def Sound (t : BehaviourTree EntryType μ) : Prop :=
  ∃ root, t.root = some root ∧ LibraryNode root ∧ root.defect? t.scene.board.entries = none

theorem sound_of_setRoot {t t' : BehaviourTree EntryType μ} {root : Node EntryType μ}
    (hl : LibraryNode root) (h : t.setRoot root = .ok t') : t'.Sound :=
  passes_of_setRoot hl h

theorem Sound.update {t : BehaviourTree EntryType μ} (h : t.Sound) :
    t.update.1 = .ok () ∧ t.update.2.Sound := by
  obtain ⟨root, hr, hl, hd⟩ := h
  obtain ⟨hf, ht⟩ := Node.walk_of_honest hl.honest hd ⟨true, t.ticks⟩
  rw [update_of_no_fault hr hf]
  exact ⟨rfl, root, hr, hl, Node.defect?_mono (fun name _ hn => (ht name).trans hn) hd⟩

theorem Sound.calls {t : BehaviourTree EntryType μ} (h : t.Sound)
    (cs : List (TreeCall EntryType μ)) (hcs : ∀ root, .setRoot root ∈ cs → LibraryNode root) :
    (t.calls cs).Sound :=
  Passes.calls (fun _ sound => (Sound.update sound).2) h cs (acceptsOnly_of_mem hcs)

/-- Once a tree of library leaves has passed the check, every update of it succeeds, whatever
calls come before. Roots installed later have to be of library leaves, too. -/
theorem update_succeeds {scene : Scene EntryType μ} {root : Node EntryType μ}
    {t : BehaviourTree EntryType μ} (hl : LibraryNode root) (h : ofRoot scene root = .ok t)
    (cs : List (TreeCall EntryType μ)) (hcs : ∀ root, .setRoot root ∈ cs → LibraryNode root) :
    (t.calls cs).update.1 = .ok () :=
  ((sound_of_setRoot hl h).calls cs hcs).update.1

/-- A look-out that also goes through the houses: one condition inverted, one action. -/
def patrol : Node EntryType Unit :=
  (Node.runAll [Library.hasEnemyInFov.node.inverted, Library.setGoalToNextHouse.node]).labelled
    "Patrol"

/-- The patrol on a fresh board. -/
def onPatrol : BehaviourTree EntryType Unit :=
  { withoutRoot ⟨⟨(Beliefs.initial {} {}).store ∅, none⟩, ()⟩ with root := some patrol }

theorem update_succeeds_patrol :
    LibraryNode patrol ∧ ofRoot onPatrol.scene patrol = .ok onPatrol ∧
      (onPatrol.calls [.update, .board (.get (t := .bool) ⟨"Nowhere"⟩)]).update.1 = .ok () := by
  have library : LibraryNode patrol := by
    refine .composite _ _ _ ?_
    rw [List.forall_mem_cons, List.forall_mem_singleton]
    exact ⟨.inverted (by simp [Library.all]), .leaf (by simp [Library.all])⟩
  have accepted : ofRoot onPatrol.scene patrol = .ok onPatrol :=
    setRoot_eq_ok_iff.2 ⟨by decide +kernel, rfl⟩
  exact ⟨library, accepted, update_succeeds library accepted _ (by simp)⟩

end BehaviourTree
end Forager
