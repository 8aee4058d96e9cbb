import Forager.Proofs.Noninterference

/-!
# Independent effects in any order

A node is *contained* if it sees no more of a board than its leaves declare and changes no more
than they declare as written. Two such nodes are *independent* if neither writes what the other
declares. A `runAll` goes through all its children, whatever they report; so it does not matter in
which order it goes through children that are independent of each other.

* `Contained.comm`: two independent nodes, one after the other and the other way round.
* `Contained.evaluateAll_perm`: a whole row of them in any order.
* `tick_runAll_perm`: the same for leaves of the library, on any board.
-/
namespace Forager

variable {τ μ : Type} [EntryTypes τ]

namespace Node

/-! ## Contained nodes -/

/-- The names that the leaves of a subtree declare. -/
def declared (n : Node τ μ) : List String := n.leaves.flatMap fun leaf => leaf.uses.map (·.name)

/-- The names that the leaves of a subtree declare as written. -/
def written (n : Node τ μ) : List String := n.leaves.flatMap (·.namesWith .write)

theorem declared_of_written {n : Node τ μ} {name : String} (h : name ∈ n.written) :
    name ∈ n.declared := by
  obtain ⟨leaf, hl, hw⟩ := List.mem_flatMap.1 h
  obtain ⟨u, hu, rfl⟩ := List.mem_map.1 hw
  exact List.mem_flatMap.2 ⟨leaf, hl, List.mem_map_of_mem (List.mem_of_mem_filter hu)⟩

/-- Whether neither node writes a name that the other declares. -/
def Independent (n m : Node τ μ) : Prop :=
  (∀ name ∈ n.written, name ∉ m.declared) ∧ ∀ name ∈ m.written, name ∉ n.declared

instance (n m : Node τ μ) : Decidable (n.Independent m) :=
  inferInstanceAs (Decidable ((∀ name ∈ n.written, name ∉ m.declared) ∧
    ∀ name ∈ m.written, name ∉ n.declared))

theorem Independent.symm {n m : Node τ μ} (h : n.Independent m) : m.Independent n := ⟨h.2, h.1⟩

/-- What a tick of the node does depends on the names it declares alone, and changes nothing but
those it declares as written. -/
structure Contained (n : Node τ μ) : Prop where
  agree : ∀ s₁ s₂ : Scene τ μ,
    (∀ name ∈ n.declared, s₁.board.entries.find? name = s₂.board.entries.find? name) →
      (n.tick s₁).1 = (n.tick s₂).1 ∧
        ∀ name ∈ n.declared,
          (n.tick s₁).2.board.entries.find? name = (n.tick s₂).2.board.entries.find? name
  frame : ∀ s, ∀ name ∉ n.written,
    (n.tick s).2.board.entries.find? name = s.board.entries.find? name
  memory : ∀ s, (n.tick s).2.memory = s.memory
  settles : ∀ s, (n.tick s).2.settled = (n.tick s).2

/-! ## Two nodes -/

/-- A scene with nothing noted is determined by its entries and its memory. -/
theorem scene_ext {s₁ s₂ : Scene τ μ} (settled₁ : s₁.settled = s₁) (settled₂ : s₂.settled = s₂)
    (entries : ∀ name, s₁.board.entries.find? name = s₂.board.entries.find? name)
    (memory : s₁.memory = s₂.memory) : s₁ = s₂ := by
  have held : s₁.board.entries = s₂.board.entries := NameMap.ext_find? entries
  rw [← settled₁, ← settled₂]
  simp only [Scene.settled, Blackboard.clearMissing, held, memory]

namespace Contained

/-- What a node leaves under the names it declares is there after an independent one, too. -/
theorem frame_after {n m : Node τ μ} (hm : m.Contained) (apart : n.Independent m) (s : Scene τ μ)
    {name : String} (declared : name ∈ n.declared) :
    (m.tick (n.tick s).2).2.board.entries.find? name =
      (n.tick s).2.board.entries.find? name := by
  apply hm.frame
  intro written
  exact apart.2 name written declared

section Two

variable {n m : Node τ μ} (hn : n.Contained) (hm : m.Contained) (apart : n.Independent m)
  (s : Scene τ μ)
include hn hm apart

/-- A node does not notice that an independent one was there before. -/
theorem agree_after :
    (m.tick (n.tick s).2).1 = (m.tick s).1 ∧
      ∀ name ∈ m.declared, (m.tick (n.tick s).2).2.board.entries.find? name =
        (m.tick s).2.board.entries.find? name := by
  apply hm.agree
  intro name declared
  exact hn.frame s name fun written => apart.1 name written declared

theorem comm : (m.tick (n.tick s).2).2 = (n.tick (m.tick s).2).2 := by
  refine scene_ext (hm.settles _) (hn.settles _) (fun name => ?_) ?_
  · by_cases first : name ∈ n.declared
    · rw [frame_after hm apart s first, (agree_after hm hn apart.symm s).2 name first]
    · by_cases second : name ∈ m.declared
      · rw [frame_after hn apart.symm s second, (agree_after hn hm apart s).2 name second]
      · -- The name is none of theirs.
        have skips : name ∉ n.written := fun h => first (declared_of_written h)
        have skips' : name ∉ m.written := fun h => second (declared_of_written h)
        rw [hm.frame _ name skips', hn.frame _ name skips, hn.frame _ name skips,
          hm.frame _ name skips']
  · rw [hm.memory, hn.memory, hn.memory, hm.memory]

end Two

end Contained

/-! ## A row of nodes -/

/-- A `runAll` takes its children one by one, whatever they report. -/
theorem evaluateAll_runAll_cons {n : Node τ μ} {s : Scene τ μ} (settled : s.settled = s)
    (ns : List (Node τ μ)) :
    evaluateAll .runAll (n :: ns) s =
      ((n.tick s).1 :: (evaluateAll .runAll ns (n.tick s).2).1,
        (evaluateAll .runAll ns (n.tick s).2).2) := by
  have same : n.evaluate s = n.tick s := by rw [tick, settled]
  simp only [evaluateAll, CompositeKind.stopsAt, same]
  rfl

/-- Independent nodes in another order report the same, in another order, and leave the same. -/
theorem Contained.evaluateAll_perm {ns ns' : List (Node τ μ)} (perm : ns.Perm ns')
    (contained : ∀ n ∈ ns, n.Contained) (independent : ns.Pairwise Independent)
    {s : Scene τ μ} (settled : s.settled = s) :
    (evaluateAll .runAll ns s).1.Perm (evaluateAll .runAll ns' s).1 ∧
      (evaluateAll .runAll ns s).2 = (evaluateAll .runAll ns' s).2 := by
  induction perm generalizing s with
  | nil => exact ⟨List.Perm.refl _, rfl⟩
  | @cons n ns ns' _ ih =>
    have hn : n.Contained := contained n List.mem_cons_self
    obtain ⟨reports, left⟩ := ih (fun m hm => contained m (List.mem_cons_of_mem n hm))
      (List.pairwise_cons.1 independent).2 (hn.settles s)
    rw [evaluateAll_runAll_cons settled, evaluateAll_runAll_cons settled]
    exact ⟨reports.cons _, left⟩
  | swap n m ns =>
    have hm : m.Contained := contained m List.mem_cons_self
    have hn : n.Contained := contained n (List.mem_cons_of_mem m List.mem_cons_self)
    have apart : m.Independent n := (List.pairwise_cons.1 independent).1 n List.mem_cons_self
    rw [evaluateAll_runAll_cons settled, evaluateAll_runAll_cons (hm.settles s),
      evaluateAll_runAll_cons settled, evaluateAll_runAll_cons (hn.settles s),
      (hm.agree_after hn apart s).1, (hn.agree_after hm apart.symm s).1, hm.comm hn apart s]
    exact ⟨List.Perm.swap _ _ _, rfl⟩
  | @trans ns₁ ns₂ ns₃ first _ ih ih' =>
    have independent₂ : ns₂.Pairwise Independent :=
      (first.pairwise_iff fun h => Independent.symm h).1 independent
    obtain ⟨reports, left⟩ := ih contained independent settled
    obtain ⟨reports', left'⟩ :=
      ih' (fun n hn => contained n (first.mem_iff.2 hn)) independent₂ settled
    exact ⟨reports.trans reports', left.trans left'⟩

end Node

/-- A `runAll` does not ask in which order its children reported. -/
theorem CompositeKind.verdict_runAll_perm {ts ts' : List Status} (perm : ts.Perm ts') :
    runAll.verdict ts = runAll.verdict ts' := by
  unfold verdict
  simp only [perm.contains_eq]

/-! ## Leaves of the library -/

namespace Library

/-- Whether a node is a leaf of the library, as it is or inverted. -/
def IsLeaf (n : Node EntryType μ) : Prop := ∃ v ∈ all, n = v.node ∨ n = v.node.inverted

theorem leaves_of_leaf {n : Node EntryType μ} {v : Behaviour}
    (h : n = v.node ∨ n = v.node.inverted) : n.leaves = [v.leaf] := by
  rcases h with rfl | rfl
  · cases v <;> simp only [Behaviour.node, Node.leaves, Behaviour.leaf]
  · cases v <;> simp only [Behaviour.node, Node.inverted, Node.leaves, Behaviour.leaf]

theorem memory_of_leaf {n : Node EntryType μ} {v : Behaviour}
    (h : n = v.node ∨ n = v.node.inverted) (s : Scene EntryType μ) :
    (n.tick s).2.memory = s.memory := by
  rcases h with rfl | rfl
  · cases v <;> rfl
  · cases v <;> rfl

theorem IsLeaf.contained {n : Node EntryType μ} (h : IsLeaf n) : n.Contained := by
  obtain ⟨v, hv, hn⟩ := h
  obtain ⟨effect, confined, walked⟩ := exists_effect hv hn
  have ticked (s : Scene EntryType μ) :
      n.tick s = ((effect s.settled).1, (effect s.settled).2.settled) := by
    rw [Node.tick_eq_walkFrom 0, walked]
    rfl
  have declared : n.declared = v.leaf.uses.map (·.name) := by
    rw [Node.declared, leaves_of_leaf hn, List.flatMap_singleton]
  have written : n.written = v.leaf.namesWith .write := by
    rw [Node.written, leaves_of_leaf hn, List.flatMap_singleton]
  refine ⟨fun s₁ s₂ same => ?_, fun s name free => ?_, memory_of_leaf hn, fun s => ?_⟩
  · rw [declared] at same ⊢
    rw [ticked, ticked]
    have alike : s₁.settled.board.AgreeOn (v.leaf.uses.map (·.name)) s₂.settled.board := ⟨rfl, same⟩
    obtain ⟨status, -, held⟩ := confined.agree s₁.settled s₂.settled alike
    exact ⟨status, held⟩
  · rw [written] at free
    rw [ticked]
    exact confined.frame s.settled name free
  · rw [ticked, Scene.settled_settled]

/-- Leaves of the library, conditions inverted or not, none of which writes a key that another one
declares. However they are ordered, a `runAll` of them comes to the same status and leaves the same
board, whatever is missing or mistyped there. -/
theorem tick_runAll_perm {ns ns' : List (Node EntryType μ)} (library : ∀ n ∈ ns, IsLeaf n)
    (independent : ns.Pairwise Node.Independent) (perm : ns.Perm ns') (s : Scene EntryType μ) :
    ((Node.runAll ns).tick s).1 = ((Node.runAll ns').tick s).1 ∧
      ((Node.runAll ns).tick s).2 = ((Node.runAll ns').tick s).2 := by
  obtain ⟨reports, left⟩ := Node.Contained.evaluateAll_perm perm
    (fun n hn => (library n hn).contained) independent s.settled_settled
  have ticked (ms : List (Node EntryType μ)) : (Node.runAll ms).tick s =
      (CompositeKind.runAll.verdict (Node.evaluateAll .runAll ms s.settled).1,
        (Node.evaluateAll .runAll ms s.settled).2) := by
    simp only [Node.tick, Node.runAll, Node.evaluate]
  rw [ticked, ticked]
  exact ⟨CompositeKind.verdict_runAll_perm reports, left⟩

/-- Four leaves that do not get in each other's way. -/
def apart : List (Node EntryType Unit) :=
  [setGoalToNextHouse.node, hasEnemyInFov.node.inverted, changeToSeek.node, useHealthItem.node]

/-- Two houses to go through, no one in sight, a number for the steering and no flag to heal. -/
def unsteerable : Scene EntryType Unit :=
  ⟨⟨(((((((∅ : Entries EntryType).write Schema.knownHouses [default, default]).write
    Schema.insideHouse true).write Schema.nextHouseIndex (0 : Nat)).write Schema.goal
    (default : Vec2)).write Schema.goalSet false).write Schema.knownEnemies ([] : List Enemy)).write
    (t := .uint8) ⟨"Steering"⟩ (1 : UInt8), none⟩, ()⟩

theorem tick_runAll_perm_reverse :
    (∀ n ∈ apart, IsLeaf n) ∧ apart.Pairwise Node.Independent ∧ apart.Perm apart.reverse ∧
      ((Node.runAll apart.reverse).tick unsteerable).1 = .success ∧
      ((Node.runAll apart.reverse).tick unsteerable).2 =
        ((Node.runAll apart).tick unsteerable).2 := by
  have library : ∀ n ∈ apart, IsLeaf n := by
    simp only [apart, List.forall_mem_cons, List.not_mem_nil, false_imp_iff, implies_true, and_true]
    exact ⟨⟨_, by simp [all], .inl rfl⟩, ⟨hasEnemyInFov, by simp [all], .inr rfl⟩,
      ⟨_, by simp [all], .inl rfl⟩, ⟨_, by simp [all], .inl rfl⟩⟩
  have independent : apart.Pairwise Node.Independent := by decide
  have perm : apart.Perm apart.reverse := (List.reverse_perm apart).symm
  have status : ((Node.runAll apart).tick unsteerable).1 = .success := by decide +kernel
  obtain ⟨same, left⟩ := tick_runAll_perm library independent perm unsteerable
  exact ⟨library, independent, perm, same.symm.trans status, left.symm⟩

end Library
end Forager
