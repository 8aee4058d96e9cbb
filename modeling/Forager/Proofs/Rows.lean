import Forager.Proofs.Steps

/-!
# Children in a row

A composite walks its children in order, up to one where it halts. Where a list of children is two
lists in a row, the walk of the second takes up where that of the first left off, if it has not
halted. A node further down the tree reports greater depths and does the same.

* `CompositeKind.interchangeable_verdict`: the verdict of some statuses stands for them among
  others.
* `walk_deeper`: what a walk further down the tree reports.
* `walkAll_append`, `evaluatedAll_append`: walking two lists in a row.
* `foldl_evaluated`: what comes of the leaves that a walk evaluates.
* `evaluated_lenient`: if nothing stops it, these are the leaves of its steps.
-/
namespace Forager

variable {τ μ : Type} [EntryTypes τ]

/-! ## Verdicts -/

section Find

variable {α : Type} {p : α → Bool} {d : α}

/-- The first element that meets `p`, or else one that does not, meets `p` if any element does. -/
theorem getD_find?_any (h : p d = false) (l : List α) : p ((l.find? p).getD d) = l.any p := by
  induction l with
  | nil => exact h
  | cons a l ih =>
    rw [List.any_cons]
    cases met : p a with
    | true => rw [List.find?_cons_of_pos met, Option.getD_some, met, Bool.true_or]
    | false => rw [List.find?_cons_of_neg (by simp [met]), ih, Bool.false_or]

/-- For the search, that element stands for the whole list. -/
theorem find?_splice (h : p d = false) (l l₁ l₂ : List α) :
    (l ++ (l₁.find? p).getD d :: l₂).find? p = (l ++ (l₁ ++ l₂)).find? p := by
  rw [List.find?_append, List.find?_append, List.find?_append]
  cases found : l₁.find? p with
  | none => rw [Option.getD_none, List.find?_cons_of_neg (by simp [h]), Option.none_or]
  | some a =>
    rw [Option.getD_some, List.find?_cons_of_pos (List.find?_some found), Option.some_or]

end Find

namespace CompositeKind

/-- A composite stops at the verdict of some statuses if it stops at one of them. -/
theorem stopsAt_verdict (kind : CompositeKind) (ts : List Status) :
    kind.stopsAt (kind.verdict ts) = ts.any kind.stopsAt := by
  cases kind with
  | sequence => exact getD_find?_any rfl ts
  | selector => exact getD_find?_any rfl ts
  | runAll => exact (List.any_eq_false.2 fun _ _ => Bool.false_ne_true).symm

theorem verdict_runAll_beq (ts : List Status) :
    (.running == runAll.verdict ts) = ts.contains .running ∧
      (ts.contains .running = false → (.success == runAll.verdict ts) = ts.contains .success) := by
  unfold verdict
  dsimp only
  cases ts.contains .running <;> cases ts.contains .success <;> decide

/-- Whether statuses may stand for others among those of a composite of the given kind. -/
def Interchangeable (kind : CompositeKind) (ts ts' : List Status) : Prop :=
  ∀ ss us, kind.verdict (ss ++ ts ++ us) = kind.verdict (ss ++ ts' ++ us)

/-- The verdict of some statuses stands for them. -/
theorem interchangeable_verdict (kind : CompositeKind) (ts : List Status) :
    kind.Interchangeable [kind.verdict ts] ts := by
  intro ss us
  rw [List.append_assoc, List.append_assoc, List.singleton_append]
  cases kind with
  | sequence =>
    have same := find?_splice (p := stopsAt .sequence) (d := .success) rfl ss ts us
    exact congrArg (Option.getD · .success) same
  | selector =>
    have same := find?_splice (p := stopsAt .selector) (d := .failure) rfl ss ts us
    exact congrArg (Option.getD · .failure) same
  | runAll =>
    obtain ⟨running, success⟩ := verdict_runAll_beq ts
    generalize runAll.verdict ts = v at running success ⊢
    unfold verdict
    simp only [List.contains_append, List.contains_cons, running]
    cases ran : ts.contains .running with
    | true => simp only [Bool.true_or, Bool.or_true, if_true]
    | false => rw [success ran]

/-- The verdict of a composite on a single child is the child's own status. -/
theorem verdict_singleton (kind : CompositeKind) (t : Status) : kind.verdict [t] = t := by
  cases kind <;> cases t <;> rfl

end CompositeKind

/-! ## Depths -/

/-- The event of a node that stands a number of levels further down. -/
def Event.deeper (levels : UInt32) (e : Event) : Event := { e with depth := e.depth + levels }

namespace Walk

def Outcome.deeper (levels : UInt32) (o : Outcome τ μ) : Outcome τ μ :=
  { o with events := o.events.map (Event.deeper levels) }

def Progress.deeper (levels : UInt32) (p : Progress τ μ) : Progress τ μ :=
  { p with events := p.events.map (Event.deeper levels) }

theorem composite_deeper (w : Walk) (depth levels : UInt32) (kind : CompositeKind)
    (label : Option String) (p : Progress τ μ) :
    w.composite (depth + levels) kind label (p.deeper levels) =
      (w.composite depth kind label p).deeper levels := by
  simp only [composite, Outcome.deeper, Progress.deeper, List.map_append]
  rfl

end Walk

namespace Node

open Walk (Outcome Progress)

mutual
/-- Where a node stands shows in the depths of its events and nowhere else. -/
theorem walk_deeper (w : Walk) (levels : UInt32) :
    ∀ (n : Node τ μ) (depth : UInt32) (s : Scene τ μ),
      n.walk w (depth + levels) s = (n.walk w depth s).deeper levels
  | .action leaf effect, depth, s => by
    simp only [walk]
    rfl
  | .condition leaf inverse p, depth, s => by
    simp only [walk]
    rfl
  | .composite kind label children, depth, s => by
    have below := walkAll_deeper w levels kind children (depth + 1) s
    rw [UInt32.add_assoc, UInt32.add_comm 1, ← UInt32.add_assoc] at below
    simp only [walk, below, Walk.composite_deeper]

theorem walkAll_deeper (w : Walk) (levels : UInt32) (kind : CompositeKind) :
    ∀ (ns : List (Node τ μ)) (depth : UInt32) (s : Scene τ μ),
      walkAll w kind ns (depth + levels) s = (walkAll w kind ns depth s).deeper levels
  | [], depth, s => by
    simp only [walkAll]
    rfl
  | n :: ns, depth, s => by
    have first := walk_deeper w levels n depth s
    have rest := walkAll_deeper w levels kind ns depth (n.walk w depth s).scene
    simp only [walkAll, first]
    rw [Outcome.deeper, rest]
    split
    · rfl
    · rw [Progress.deeper, Progress.deeper, List.map_append]
end

end Node

/-! ## Going on and halting -/

namespace Walk

/-- Whether a composite of the given kind goes no further after this child. -/
def Outcome.halts (kind : CompositeKind) (o : Outcome τ μ) : Bool :=
  o.fault.isSome || kind.stopsAt o.status

/-- The progress of a composite after its first child. -/
def Outcome.first (o : Outcome τ μ) : Progress τ μ := ⟨[o.status], o.scene, o.fault, o.events⟩

namespace Progress

/-- Whether a composite of the given kind goes no further after these children. -/
def halts (kind : CompositeKind) (p : Progress τ μ) : Bool :=
  p.fault.isSome || p.statuses.any kind.stopsAt

/-- The progress after some children and then others. -/
def append (p q : Progress τ μ) : Progress τ μ :=
  ⟨p.statuses ++ q.statuses, q.scene, q.fault, p.events ++ q.events⟩

theorem halts_first (kind : CompositeKind) (o : Outcome τ μ) :
    o.first.halts kind = o.halts kind := by
  simp only [halts, Outcome.first, Outcome.halts, List.any_cons, List.any_nil, Bool.or_false]

theorem halts_append {kind : CompositeKind} {p : Progress τ μ} (on : p.halts kind = false)
    (q : Progress τ μ) : (p.append q).halts kind = q.halts kind := by
  have passed : p.statuses.any kind.stopsAt = false := (Bool.or_eq_false_iff.1 on).2
  simp only [halts, append, List.any_append, passed, Bool.false_or]

theorem fault_of_not_halts {kind : CompositeKind} {p : Progress τ μ} (on : ¬p.halts kind = true) :
    p.fault = none := by
  rw [halts, Bool.or_eq_true, not_or, Option.not_isSome_iff_eq_none] at on
  exact on.1

theorem append_assoc (p q r : Progress τ μ) : (p.append q).append r = p.append (q.append r) := by
  simp only [append, List.append_assoc]

end Progress

section Composite

variable {kind : CompositeKind} {p : Progress τ μ}

theorem status_composite (w : Walk) (depth : UInt32) (label : Option String)
    (clean : p.fault = none) :
    (w.composite depth kind label p).status = kind.verdict p.statuses := by
  simp only [composite, clean]
  rfl

/-- Inside another of its kind, a composite halts where its children do. -/
theorem halts_composite (w : Walk) (depth : UInt32) (label : Option String) :
    (w.composite depth kind label p).halts kind = p.halts kind := by
  have same : (w.composite depth kind label p).fault = p.fault := rfl
  rw [Outcome.halts, Progress.halts, same]
  cases fault : p.fault with
  | some f => rfl
  | none => rw [status_composite w depth label fault, CompositeKind.stopsAt_verdict]

end Composite

end Walk

/-! ## Evaluated leaves -/

/-- A leaf that is evaluated, and the scene it enters. -/
structure Evaluation (τ μ : Type) [EntryTypes τ] where
  leaf : Leaf τ
  effect : Effect τ μ
  entered : Scene τ μ

/-- The scene once the leaf has been evaluated in it. -/
def Evaluation.advance (s : Scene τ μ) (e : Evaluation τ μ) : Scene τ μ := (e.effect s).2.settled

namespace Node

open Walk (Outcome Progress)

mutual
/-- The leaves that a walk evaluates, in order. -/
def evaluated (w : Walk) : Node τ μ → Scene τ μ → List (Evaluation τ μ)
  | .action leaf effect, s => [⟨leaf, effect, s⟩]
  | .condition leaf inverse p, s => [⟨leaf, Predicate.test inverse p, s⟩]
  | .composite kind _ children, s => evaluatedAll w kind children s

def evaluatedAll (w : Walk) (kind : CompositeKind) :
    List (Node τ μ) → Scene τ μ → List (Evaluation τ μ)
  | [], _ => []
  | n :: ns, s =>
    let o := n.walk w 0 s
    n.evaluated w s ++ if o.halts kind then [] else evaluatedAll w kind ns o.scene
end

/-! ## One list after the other -/

section InARow

variable (w : Walk) (kind : CompositeKind)

theorem walkAll_cons (n : Node τ μ) (ns : List (Node τ μ)) (depth : UInt32) (s : Scene τ μ) :
    walkAll w kind (n :: ns) depth s =
      if (n.walk w depth s).halts kind then (n.walk w depth s).first
      else (n.walk w depth s).first.append (walkAll w kind ns depth (n.walk w depth s).scene) := by
  simp only [walkAll]
  rfl

theorem walkAll_singleton (n : Node τ μ) (depth : UInt32) (s : Scene τ μ) :
    walkAll w kind [n] depth s = (n.walk w depth s).first := by
  rw [walkAll_cons]
  split
  · rfl
  · rename_i on
    rw [← Progress.halts_first] at on
    have clean : (n.walk w depth s).fault = none := Progress.fault_of_not_halts on
    simp only [walkAll, Progress.append, Outcome.first, List.append_nil, clean]

/-- The second list is walked from where the first one left the scene, unless that one halted. -/
theorem walkAll_append (ns ns' : List (Node τ μ)) (depth : UInt32) (s : Scene τ μ) :
    walkAll w kind (ns ++ ns') depth s =
      if (walkAll w kind ns depth s).halts kind then walkAll w kind ns depth s
      else (walkAll w kind ns depth s).append
        (walkAll w kind ns' depth (walkAll w kind ns depth s).scene) := by
  induction ns generalizing s with
  | nil =>
    simp only [walkAll, List.nil_append]
    rfl
  | cons n ns ih =>
    rw [List.cons_append, walkAll_cons, walkAll_cons, ih]
    generalize n.walk w depth s = o
    cases ends : o.halts kind with
    | true => rw [if_pos rfl, if_pos rfl, Progress.halts_first, if_pos ends]
    | false =>
      have on : o.first.halts kind = false := (Progress.halts_first kind o).trans ends
      rw [if_neg Bool.false_ne_true, if_neg Bool.false_ne_true, Progress.halts_append on]
      split
      · rfl
      · exact (Progress.append_assoc _ _ _).symm

theorem evaluatedAll_cons (n : Node τ μ) (ns : List (Node τ μ)) (depth : UInt32) (s : Scene τ μ) :
    evaluatedAll w kind (n :: ns) s =
      n.evaluated w s ++
        if (n.walk w depth s).halts kind then []
        else evaluatedAll w kind ns (n.walk w depth s).scene := by
  have same := walk_deeper w depth n 0 s
  rw [UInt32.zero_add] at same
  rw [same, evaluatedAll]
  rfl

theorem evaluatedAll_append (ns ns' : List (Node τ μ)) (depth : UInt32) (s : Scene τ μ) :
    evaluatedAll w kind (ns ++ ns') s =
      evaluatedAll w kind ns s ++
        if (walkAll w kind ns depth s).halts kind then []
        else evaluatedAll w kind ns' (walkAll w kind ns depth s).scene := by
  induction ns generalizing s with
  | nil =>
    simp only [walkAll, evaluatedAll, List.nil_append]
    rfl
  | cons n ns ih =>
    rw [List.cons_append, evaluatedAll_cons w kind n (ns ++ ns') depth,
      evaluatedAll_cons w kind n ns depth, walkAll_cons, ih]
    generalize n.walk w depth s = o
    cases ends : o.halts kind with
    | true =>
      rw [if_pos rfl, if_pos rfl, if_pos rfl, Progress.halts_first, if_pos ends]
      exact (List.append_nil _).symm
    | false =>
      have on : o.first.halts kind = false := (Progress.halts_first kind o).trans ends
      rw [if_neg Bool.false_ne_true, if_neg Bool.false_ne_true, if_neg Bool.false_ne_true,
        Progress.halts_append on, List.append_assoc]
      rfl

theorem evaluatedAll_singleton (n : Node τ μ) (s : Scene τ μ) :
    evaluatedAll w kind [n] s = n.evaluated w s := by
  rw [evaluatedAll, evaluatedAll, ite_self, List.append_nil]

theorem halts_walkAll_append (ns ns' : List (Node τ μ)) (depth : UInt32) (s : Scene τ μ) :
    (walkAll w kind (ns ++ ns') depth s).halts kind =
      ((walkAll w kind ns depth s).halts kind ||
        (walkAll w kind ns' depth (walkAll w kind ns depth s).scene).halts kind) := by
  rw [walkAll_append]
  cases ends : (walkAll w kind ns depth s).halts kind with
  | true => rw [if_pos rfl, ends, Bool.true_or]
  | false => rw [if_neg Bool.false_ne_true, Progress.halts_append ends, Bool.false_or]

end InARow

/-! ## What comes of the evaluated leaves -/

mutual
/-- A walk leaves the scene that the leaves it evaluates make of it, one after the other. -/
theorem foldl_evaluated (w : Walk) :
    ∀ (n : Node τ μ) (depth : UInt32) (s : Scene τ μ),
      (n.evaluated w s).foldl Evaluation.advance s = (n.walk w depth s).scene
  | .action leaf effect, depth, s => by
    simp only [evaluated, walk]
    rfl
  | .condition leaf inverse p, depth, s => by
    simp only [evaluated, walk]
    rfl
  | .composite kind label children, depth, s => by
    simp only [evaluated, walk]
    exact foldl_evaluatedAll w kind children (depth + 1) s

theorem foldl_evaluatedAll (w : Walk) (kind : CompositeKind) :
    ∀ (ns : List (Node τ μ)) (depth : UInt32) (s : Scene τ μ),
      (evaluatedAll w kind ns s).foldl Evaluation.advance s = (walkAll w kind ns depth s).scene
  | [], depth, s => by simp only [evaluatedAll, walkAll, List.foldl_nil]
  | n :: ns, depth, s => by
    rw [evaluatedAll_cons w kind n ns depth, List.foldl_append, foldl_evaluated w n depth s,
      walkAll_cons]
    split
    · rfl
    · exact foldl_evaluatedAll w kind ns depth (n.walk w depth s).scene
end

end Node

/-! ## Evaluated leaves and steps -/

/-- The leaf that is evaluated in a step, if it is not that a composite concludes. -/
def Step.evaluation? : Step τ μ → Option (Evaluation τ μ)
  | .leaf v => some ⟨v.leaf, v.effect, v.entered⟩
  | .composite .. => none

namespace Node

open Walk (Outcome)

mutual
/-- The leaves that a walk evaluates when nothing stops it are those of its steps. -/
theorem evaluated_lenient (number : UInt64) :
    ∀ (n : Node τ μ) (above : List (UInt32 × String)) (depth : UInt32) (s : Scene τ μ),
      n.evaluated ⟨false, number⟩ s = (n.steps above depth s).filterMap Step.evaluation?
  | .action leaf effect, above, depth, s => by
    simp only [evaluated, steps]
    rfl
  | .condition leaf inverse p, above, depth, s => by
    simp only [evaluated, steps]
    rfl
  | .composite kind label children, above, depth, s => by
    have below := evaluatedAll_lenient number kind children ((depth, label.getD kind.name) :: above)
      (depth + 1) s
    simp only [evaluated, steps, List.filterMap_append, below]
    exact (List.append_nil _).symm

theorem evaluatedAll_lenient (number : UInt64) (kind : CompositeKind) :
    ∀ (ns : List (Node τ μ)) (above : List (UInt32 × String)) (depth : UInt32) (s : Scene τ μ),
      evaluatedAll ⟨false, number⟩ kind ns s =
        (stepsAll kind ns above depth s).filterMap Step.evaluation?
  | [], above, depth, s => by simp only [evaluatedAll, stepsAll, List.filterMap_nil]
  | n :: ns, above, depth, s => by
    have first := evaluated_lenient number n above depth s
    have rest := evaluatedAll_lenient number kind ns above depth (n.evaluate s).2
    simp only [evaluatedAll, stepsAll, Outcome.halts, fault_lenient, status_lenient, scene_lenient,
      Option.isSome_none, Bool.false_or, List.filterMap_append, first]
    split
    · rfl
    · rw [rest]
end

end Node

end Forager
