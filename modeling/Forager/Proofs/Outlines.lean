import Mathlib.Data.List.Forall2
import Forager.Node.Outline
import Forager.Schema

/-!
# What an outline says

An outline has the nodes of a tree line by line, each before its children. How far a line is
indented tells whose child the node is, and the heading in it tells its kind, the name of a leaf,
and the label of a composite or that it has none. A name may hold anything but a line break:
brackets and quotes in it cannot be mistaken for those around it.

* `Text.lines_join`: lines written one by one are the lines of the text.
* `heading_inj`: what a heading says of a node.
* `told`: the lines of a node, followed by others further up, tell the nodes below it.
* `leafName?_outlineLine`: which lines are those of leaves.
* `outline_determines`: a whole outline.
-/
namespace Forager

/-! ## Lines of a text -/

namespace Text

/-- The lines of a text. After the last line break there is a line only if there is text. -/
def lines (s : String) : List String :=
  let pieces := (s.toList.splitOn '\n').map String.ofList
  if pieces.getLast? = some "" then pieces.dropLast else pieces

theorem flatMap_ended (ls : List (List Char)) :
    ls.flatMap (· ++ ['\n']) = ['\n'].intercalate (ls ++ [[]]) := by
  induction ls with
  | nil => simp
  | cons l ls ih =>
    rw [List.flatMap_cons, ih, List.cons_append]
    cases ls <;> simp [List.intercalate]

/-- Lines that are ended one by one are the lines of the text. -/
theorem lines_join {ls : List String} (h : ∀ l ∈ ls, '\n' ∉ l.toList) :
    lines (String.join (ls.map (· ++ "\n"))) = ls := by
  have chars : (String.join (ls.map (· ++ "\n"))).toList =
      ['\n'].intercalate (ls.map String.toList ++ [[]]) := by
    rw [← flatMap_ended, String.toList_join, List.flatMap_map, List.flatMap_map]
    simp [String.toList_append]
  have split : (String.join (ls.map (· ++ "\n"))).toList.splitOn '\n' =
      ls.map String.toList ++ [[]] := by
    rw [chars]
    apply List.splitOn_intercalate
    · intro l hl
      rcases List.mem_append.1 hl with hl | hl
      · obtain ⟨line, hline, rfl⟩ := List.mem_map.1 hl
        exact h line hline
      · rw [List.mem_singleton.1 hl]
        exact List.not_mem_nil
    · exact List.append_ne_nil_of_right_ne_nil _ (List.cons_ne_nil _ _)
  have read : (ls.map String.toList).map String.ofList = ls := by
    rw [List.map_map]
    exact List.map_id'' (fun l => String.ofList_toList) ls
  unfold lines
  simp only [split, List.map_append, read]
  simp

end Text

namespace Node

variable {τ μ : Type} [EntryTypes τ]

/-! ## One line -/

/-- What follows the kind in the heading of a node. -/
def detail (n : Node τ μ) : String :=
  match n.leaf?.map (·.name) with
  | some name => "(" ++ name ++ ")"
  | none => (n.label?.map fun label => " \"" ++ label ++ "\"").getD ""

theorem heading_eq (n : Node τ μ) : n.heading = n.kind ++ n.detail := by
  cases n with
  | action leaf effect =>
    show "Action" ++ "(" ++ leaf.name ++ ")" = "Action" ++ ("(" ++ leaf.name ++ ")")
    rw [String.append_assoc, String.append_assoc, String.append_assoc]
  | condition leaf inverse p =>
    cases inverse with
    | false =>
      show "Conditional" ++ "(" ++ leaf.name ++ ")" = "Conditional" ++ ("(" ++ leaf.name ++ ")")
      rw [String.append_assoc, String.append_assoc, String.append_assoc]
    | true =>
      show "ConditionalInverse" ++ "(" ++ leaf.name ++ ")" =
        "ConditionalInverse" ++ ("(" ++ leaf.name ++ ")")
      rw [String.append_assoc, String.append_assoc, String.append_assoc]
  | composite kind label children =>
    cases label with
    | none => exact String.append_empty.symm
    | some label =>
      show kind.name ++ " \"" ++ label ++ "\"" = kind.name ++ (" \"" ++ label ++ "\"")
      rw [String.append_assoc, String.append_assoc, String.append_assoc]

theorem label?_of_leaf {n : Node τ μ} {leaf : Leaf τ} (h : n.leaf? = some leaf) :
    n.label? = none := by
  cases n with
  | action => rfl
  | condition => rfl
  | composite => cases h

/-- The names of the six kinds of nodes. -/
def kinds : List String :=
  ["Action", "Conditional", "ConditionalInverse", "Sequence", "Selector", "RunAll"]

theorem kind_mem (n : Node τ μ) : n.kind ∈ kinds := by
  cases n with
  | action leaf effect => simp [kind, kinds]
  | condition leaf inverse p => cases inverse <;> simp [kind, kinds]
  | composite kind label children => cases kind <;> simp [Node.kind, CompositeKind.name, kinds]

/-- A kind is a word. -/
theorem isAlpha_kind (n : Node τ μ) : ∀ c ∈ n.kind.toList, c.isAlpha = true := by
  have words : kinds.all (fun kind => kind.toList.all Char.isAlpha) = true := by decide
  exact List.all_eq_true.1 (List.all_eq_true.1 words n.kind n.kind_mem)

/-- What follows a kind does not start as a word does. -/
theorem takeWhile_detail (n : Node τ μ) : n.detail.toList.takeWhile Char.isAlpha = [] := by
  unfold detail
  split
  · simp
  · cases n.label? <;> simp

theorem detail_inj {a b : Node τ μ} (h : a.detail = b.detail) :
    a.leaf?.map (·.name) = b.leaf?.map (·.name) ∧ a.label? = b.label? := by
  have chars : a.detail.toList = b.detail.toList := congrArg String.toList h
  cases ha : a.leaf? with
  | some leaf =>
    cases hb : b.leaf? with
    | some leaf' =>
      simp [detail, ha, hb] at chars
      simp [label?_of_leaf ha, label?_of_leaf hb, String.toList_inj.1 chars]
    | none => cases lb : b.label? <;> simp [detail, ha, hb, lb] at chars
  | none =>
    cases hb : b.leaf? with
    | some leaf' => cases la : a.label? <;> simp [detail, ha, hb, la] at chars
    | none =>
      cases la : a.label? <;> cases lb : b.label? <;> simp [detail, ha, hb, la, lb] at chars ⊢
      exact String.toList_inj.1 chars

/-- A heading tells the kind of its node, and the name or the label. -/
theorem heading_inj {a b : Node τ μ} (h : a.heading = b.heading) :
    a.kind = b.kind ∧ a.leaf?.map (·.name) = b.leaf?.map (·.name) ∧ a.label? = b.label? := by
  have word (n : Node τ μ) : n.heading.toList.takeWhile Char.isAlpha = n.kind.toList := by
    rw [heading_eq, String.toList_append, List.takeWhile_append_of_pos (isAlpha_kind n),
      takeWhile_detail, List.append_nil]
  have kinds : a.kind = b.kind := by
    rw [← String.toList_inj, ← word a, ← word b, h]
  rw [heading_eq, heading_eq, kinds, String.append_right_inj] at h
  exact ⟨kinds, detail_inj h⟩

/-- The spaces in front of a line. -/
def indent (line : String) : Nat := (line.toList.takeWhile (· == ' ')).length

theorem takeWhile_heading (n : Node τ μ) : n.heading.toList.takeWhile (· == ' ') = [] := by
  have first : ∀ kind ∈ kinds, ∃ c cs, kind.toList = c :: cs ∧ (c == ' ') = false := by
    simp [kinds]
  obtain ⟨c, cs, hk, hc⟩ := first n.kind n.kind_mem
  rw [heading_eq, String.toList_append, hk, List.cons_append, List.takeWhile_cons, hc]
  rfl

theorem toList_outlineLine (level : Nat) (n : Node τ μ) :
    (outlineLine level n).toList = List.replicate (2 * level) ' ' ++ n.heading.toList := by
  rw [outlineLine, String.toList_append, String.toList_ofList]

theorem indent_outlineLine (level : Nat) (n : Node τ μ) :
    indent (outlineLine level n) = 2 * level := by
  have spaces : ∀ c ∈ List.replicate (2 * level) ' ', (c == ' ') = true := by
    simp
  rw [indent, toList_outlineLine, List.takeWhile_append_of_pos spaces, takeWhile_heading,
    List.append_nil, List.length_replicate]

theorem outlineLine_inj {level : Nat} {a b : Node τ μ}
    (h : outlineLine level a = outlineLine level b) : a.heading = b.heading := by
  rw [← String.toList_inj, toList_outlineLine, toList_outlineLine] at h
  exact String.toList_inj.1 (List.append_cancel_left h)

/-! ## Shapes -/

/-- Whether two trees have the same shape, with the same kind and the same leaf name or label, if
there is one, at every place. -/
inductive SameTopology : Node τ μ → Node τ μ → Prop where
  | intro {a b : Node τ μ} (kind : a.kind = b.kind)
      (name : a.leaf?.map (·.name) = b.leaf?.map (·.name)) (label : a.label? = b.label?)
      (children : List.Forall₂ SameTopology a.children b.children) : SameTopology a b

theorem outlineLines_eq (level : Nat) (n : Node τ μ) :
    n.outlineLines level = outlineLine level n :: outlineLinesAll (level + 1) n.children := by
  cases n <;> simp [outlineLines, children, outlineLinesAll]

/-- Whether the next line, if there is one, is indented by less than the given level. -/
def EndsAbove (level : Nat) (rest : List String) : Prop :=
  ∀ line ∈ rest.head?, indent line < 2 * level

/-- Whether the lines of nodes at the given level tell their topology, whatever comes after the
last of them further up. -/
def ToldAll (level : Nat) (as : List (Node τ μ)) : Prop :=
  ∀ (bs : List (Node τ μ)) (rest rest' : List String), EndsAbove level rest →
    EndsAbove level rest' → outlineLinesAll level as ++ rest = outlineLinesAll level bs ++ rest' →
      List.Forall₂ SameTopology as bs ∧ rest = rest'

def Told (level : Nat) (a : Node τ μ) : Prop :=
  ∀ (b : Node τ μ) (rest rest' : List String), EndsAbove (level + 1) rest →
    EndsAbove (level + 1) rest' → a.outlineLines level ++ rest = b.outlineLines level ++ rest' →
      SameTopology a b ∧ rest = rest'

variable {level : Nat}

/-- Where no more lines of the level may come, there are no more nodes. -/
theorem not_endsAbove (b : Node τ μ) (bs : List (Node τ μ)) (rest : List String) :
    ¬EndsAbove level (outlineLinesAll level (b :: bs) ++ rest) := by
  intro ends
  have := ends (outlineLine level b) (by simp [outlineLinesAll, outlineLines_eq])
  rw [indent_outlineLine] at this
  omega

theorem toldAll_nil : ToldAll level ([] : List (Node τ μ)) := by
  intro bs rest rest' ends ends' h
  cases bs with
  | nil => exact ⟨.nil, by simpa [outlineLinesAll] using h⟩
  | cons b bs =>
    simp only [outlineLinesAll, List.nil_append] at h
    subst h
    exact absurd ends (not_endsAbove b bs rest')

/-- After the lines of a node the next ones are its siblings', or further up. -/
theorem endsAbove_siblings {rest : List String} (ends : EndsAbove level rest)
    (ns : List (Node τ μ)) : EndsAbove (level + 1) (outlineLinesAll level ns ++ rest) := by
  intro line hl
  cases ns with
  | nil =>
    have := ends line (by simpa [outlineLinesAll] using hl)
    omega
  | cons n ns =>
    simp [outlineLinesAll, outlineLines_eq] at hl
    rw [← hl, indent_outlineLine]
    omega

theorem toldAll_cons {a : Node τ μ} {as : List (Node τ μ)} (ha : Told level a)
    (has : ToldAll level as) : ToldAll level (a :: as) := by
  intro bs rest rest' ends ends' h
  cases bs with
  | nil =>
    simp only [outlineLinesAll, List.nil_append] at h
    subst h
    exact absurd ends' (not_endsAbove a as rest)
  | cons b bs =>
    simp only [outlineLinesAll, List.append_assoc] at h
    obtain ⟨same, h⟩ := ha b _ _ (endsAbove_siblings ends as) (endsAbove_siblings ends' bs) h
    obtain ⟨sames, h⟩ := has bs rest rest' ends ends' h
    exact ⟨.cons same sames, h⟩

/-- A node is told by its own line and those of its children. -/
theorem told_of_children {a : Node τ μ} (h : ToldAll (level + 1) a.children) : Told level a := by
  intro b rest rest' ends ends' eq
  rw [outlineLines_eq, outlineLines_eq, List.cons_append, List.cons_append, List.cons.injEq] at eq
  obtain ⟨kind, name, label⟩ := heading_inj (outlineLine_inj eq.1)
  obtain ⟨children, same⟩ := h b.children rest rest' ends ends' eq.2
  exact ⟨⟨kind, name, label, children⟩, same⟩

mutual
theorem told : ∀ (level : Nat) (a : Node τ μ), Told level a
  | _, .action .. => told_of_children toldAll_nil
  | _, .condition .. => told_of_children toldAll_nil
  | level, .composite _ _ children => told_of_children (toldAll (level + 1) children)

theorem toldAll : ∀ (level : Nat) (as : List (Node τ μ)), ToldAll level as
  | _, [] => toldAll_nil
  | level, a :: as => toldAll_cons (told level a) (toldAll level as)
end

/-! ## The same outline -/

theorem outlineLine_congr {a b : Node τ μ} (kind : a.kind = b.kind)
    (name : a.leaf?.map (·.name) = b.leaf?.map (·.name)) (label : a.label? = b.label?) :
    outlineLine level a = outlineLine level b := by
  simp only [outlineLine, heading_eq, detail, kind, name, label]

theorem outlineLines_of_children {a : Node τ μ}
    (h : ∀ bs, List.Forall₂ SameTopology a.children bs →
      outlineLinesAll (level + 1) a.children = outlineLinesAll (level + 1) bs)
    {b : Node τ μ} (same : SameTopology a b) : a.outlineLines level = b.outlineLines level := by
  obtain ⟨kind, name, label, children⟩ := same
  rw [outlineLines_eq, outlineLines_eq, outlineLine_congr kind name label, h _ children]

theorem outlineLinesAll_of_nil {bs : List (Node τ μ)}
    (h : List.Forall₂ SameTopology ([] : List (Node τ μ)) bs) :
    outlineLinesAll level ([] : List (Node τ μ)) = outlineLinesAll level bs := by
  cases h
  rfl

mutual
theorem outlineLines_congr : ∀ (level : Nat) (a : Node τ μ) {b : Node τ μ}, SameTopology a b →
    a.outlineLines level = b.outlineLines level
  | _, .action .., _, same => outlineLines_of_children (fun _ => outlineLinesAll_of_nil) same
  | _, .condition .., _, same => outlineLines_of_children (fun _ => outlineLinesAll_of_nil) same
  | level, .composite _ _ children, _, same =>
    outlineLines_of_children (fun _ => outlineLinesAll_congr (level + 1) children) same

theorem outlineLinesAll_congr : ∀ (level : Nat) (as : List (Node τ μ)) {bs : List (Node τ μ)},
    List.Forall₂ SameTopology as bs → outlineLinesAll level as = outlineLinesAll level bs
  | _, [], _, same => outlineLinesAll_of_nil same
  | level, a :: as, _, .cons h hs => by
    simp only [outlineLinesAll, outlineLines_congr level a h, outlineLinesAll_congr level as hs]
end

/-! ## Lines of leaves -/

/-- The name in the line of a leaf: what stands between the first opening bracket and a closing
one at the end. -/
def leafName? (line : String) : Option String :=
  if line.toList.getLast? = some ')' then
    some (String.ofList ((line.toList.dropWhile (· != '(')).tail.dropLast))
  else none

/-- In front of what follows the kind there are spaces and letters. -/
theorem front_of_line {n : Node τ μ} {c : Char}
    (h : c ∈ List.replicate (2 * level) ' ' ++ n.kind.toList) : c = ' ' ∨ c.isAlpha = true := by
  rcases List.mem_append.1 h with h | h
  · exact .inl (List.eq_of_mem_replicate h)
  · exact .inr (isAlpha_kind n c h)

theorem leafName?_outlineLine (n : Node τ μ) :
    leafName? (outlineLine level n) = n.leaf?.map (·.name) := by
  have chars : (outlineLine level n).toList =
      (List.replicate (2 * level) ' ' ++ n.kind.toList) ++ n.detail.toList := by
    rw [toList_outlineLine, heading_eq, String.toList_append, List.append_assoc]
  cases hl : n.leaf? with
  | some leaf =>
    have detail : n.detail.toList = '(' :: (leaf.name.toList ++ [')']) := by simp [detail, hl]
    have before : ∀ c ∈ List.replicate (2 * level) ' ' ++ n.kind.toList, (c != '(') = true := by
      intro c hc
      rcases front_of_line hc with rfl | letter
      · decide
      · rw [bne_iff_ne]
        rintro rfl
        exact absurd letter (by decide)
    have last : (outlineLine level n).toList.getLast? = some ')' := by
      rw [chars, detail, ← List.cons_append, ← List.append_assoc, List.getLast?_concat]
    have inside : (outlineLine level n).toList.dropWhile (· != '(') =
        '(' :: (leaf.name.toList ++ [')']) := by
      rw [chars, List.dropWhile_append_of_pos before, detail]
      rfl
    rw [leafName?, if_pos last, inside, List.tail_cons, List.dropLast_concat, String.ofList_toList]
    rfl
  | none =>
    have last : (outlineLine level n).toList.getLast? ≠ some ')' := by
      rw [chars]
      cases label : n.label? with
      | some label' =>
        have detail : n.detail.toList = ' ' :: '"' :: (label'.toList ++ ['"']) := by
          simp [detail, hl, label]
        rw [detail, ← List.cons_append, ← List.cons_append, ← List.append_assoc,
          List.getLast?_concat]
        decide
      | none =>
        have detail : n.detail.toList = [] := by simp [detail, hl, label]
        rw [detail, List.append_nil]
        intro last
        rcases front_of_line (List.mem_of_getLast? last) with space | letter
        · exact absurd space (by decide)
        · exact absurd letter (by decide)
    rw [leafName?, if_neg last]
    rfl

mutual
theorem leafNames_outlineLines : ∀ (level : Nat) (n : Node τ μ),
    (n.outlineLines level).filterMap leafName? = n.leaves.map (·.name)
  | level, .action leaf effect => by
    simp [outlineLines, leaves, leafName?_outlineLine, leaf?]
  | level, .condition leaf inverse p => by
    simp [outlineLines, leaves, leafName?_outlineLine, leaf?]
  | level, .composite kind label children => by
    simp [outlineLines, leaves, leafName?_outlineLine, leaf?,
      leafNames_outlineLinesAll (level + 1) children]

theorem leafNames_outlineLinesAll : ∀ (level : Nat) (ns : List (Node τ μ)),
    (outlineLinesAll level ns).filterMap leafName? = (leavesAll ns).map (·.name)
  | _, [] => by simp [outlineLinesAll, leavesAll]
  | level, n :: ns => by
    simp [outlineLinesAll, leavesAll, leafNames_outlineLines level n,
      leafNames_outlineLinesAll level ns]
end

/-! ## The whole outline -/

/-- Whether no name of a leaf and no label in the tree has a line break. -/
def OnOneLine (n : Node τ μ) : Prop := ∀ m ∈ n.nodes, '\n' ∉ m.name.toList

instance (n : Node τ μ) : Decidable n.OnOneLine :=
  inferInstanceAs (Decidable (∀ m ∈ n.nodes, '\n' ∉ m.name.toList))

theorem not_mem_outlineLine {n : Node τ μ} (h : '\n' ∉ n.name.toList) :
    '\n' ∉ (outlineLine level n).toList := by
  intro hm
  rw [toList_outlineLine, heading_eq, String.toList_append, ← List.append_assoc] at hm
  rcases List.mem_append.1 hm with hm | hm
  · rcases front_of_line hm with space | letter
    · exact absurd space (by decide)
    · exact absurd letter (by decide)
  · cases n with
    | action leaf effect => simp_all [detail, leaf?, name]
    | condition leaf inverse p => simp_all [detail, leaf?, name]
    | composite kind label children =>
      cases label <;> simp_all [detail, leaf?, label?, name]

mutual
theorem mem_outlineLines : ∀ (level : Nat) (n : Node τ μ), ∀ line ∈ n.outlineLines level,
    ∃ l, ∃ m ∈ n.nodes, line = outlineLine l m
  | level, .action leaf effect, line, h => by
    simp only [outlineLines, List.mem_singleton] at h
    exact ⟨level, _, by simp [nodes], h⟩
  | level, .condition leaf inverse p, line, h => by
    simp only [outlineLines, List.mem_singleton] at h
    exact ⟨level, _, by simp [nodes], h⟩
  | level, .composite kind label children, line, h => by
    simp only [outlineLines, List.mem_cons] at h
    rcases h with rfl | h
    · exact ⟨level, _, by simp [nodes], rfl⟩
    · obtain ⟨l, m, hm, same⟩ := mem_outlineLinesAll (level + 1) children line h
      exact ⟨l, m, by simp [nodes, hm], same⟩

theorem mem_outlineLinesAll : ∀ (level : Nat) (ns : List (Node τ μ)),
    ∀ line ∈ outlineLinesAll level ns, ∃ l, ∃ m ∈ nodesAll ns, line = outlineLine l m
  | level, [], line, h => by simp [outlineLinesAll] at h
  | level, n :: ns, line, h => by
    simp only [outlineLinesAll, List.mem_append] at h
    rcases h with h | h
    · obtain ⟨l, m, hm, same⟩ := mem_outlineLines level n line h
      exact ⟨l, m, by simp [nodesAll, hm], same⟩
    · obtain ⟨l, m, hm, same⟩ := mem_outlineLinesAll level ns line h
      exact ⟨l, m, by simp [nodesAll, hm], same⟩
end

theorem lines_outline {n : Node τ μ} (h : n.OnOneLine) :
    Text.lines n.outline = n.outlineLines 0 := by
  apply Text.lines_join
  intro line hl
  obtain ⟨level, m, hm, rfl⟩ := mem_outlineLines 0 n line hl
  exact not_mem_outlineLine (h m hm)

/-- Two trees without line breaks in names and labels have the same outline exactly if they have
the same topology. An outline has a line for each node, and the lines that show a leaf name the
leaves in the order of a walk. -/
theorem outline_determines {a b : Node τ μ} (ha : a.OnOneLine) (hb : b.OnOneLine) :
    (a.outline = b.outline ↔ SameTopology a b) ∧
      (Text.lines a.outline).length = a.size ∧
      (Text.lines a.outline).filterMap leafName? = a.leaves.map (·.name) := by
  refine ⟨⟨fun h => ?_, fun same => ?_⟩, ?_, ?_⟩
  · have lines : a.outlineLines 0 ++ [] = b.outlineLines 0 ++ [] := by
      rw [← lines_outline ha, ← lines_outline hb, h]
    have ends : EndsAbove 1 [] := by simp [EndsAbove]
    exact (told 0 a b [] [] ends ends lines).1
  · rw [outline, outline, outlineLines_congr 0 a same]
  · rw [lines_outline ha, length_outlineLines]
  · rw [lines_outline ha, leafNames_outlineLines]

/-- A leaf named as if it were more than one, next to a sequence with an empty label. -/
def misnamed : Node EntryType Unit :=
  runAll [.condition (.named "A)\"Sequence\"(") true (pure true), (sequence []).labelled ""]

/-- The same without the label. -/
def unlabelled : Node EntryType Unit :=
  runAll [.condition (.named "A)\"Sequence\"(") true (pure true), sequence []]

theorem outline_determines_misnamed :
    misnamed.OnOneLine ∧ unlabelled.OnOneLine ∧ ¬SameTopology misnamed unlabelled ∧
      (Text.lines misnamed.outline).length = 3 ∧
      (Text.lines misnamed.outline).filterMap leafName? = ["A)\"Sequence\"("] := by
  have named : misnamed.OnOneLine := by decide
  have named' : unlabelled.OnOneLine := by decide
  obtain ⟨told, length, leaves⟩ := outline_determines named named'
  have differ : misnamed.outline ≠ unlabelled.outline := by decide
  exact ⟨named, named', fun same => differ (told.2 same), length, leaves⟩

end Node
end Forager
