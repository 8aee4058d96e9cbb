import Forager.Node

/-!
# Outlines and structural text of nodes

An outline has one line per node, indented by two spaces per level: `Kind(name)` for a leaf,
`Kind "label"` or `Kind` for a composite.

* `length_outlineLines`: an outline has as many lines as the subtree has nodes.
-/
namespace Forager.Node

variable {τ μ : Type} [EntryTypes τ]

/-- What the line of a node says, without its indentation. -/
def heading : Node τ μ → String
  | .action leaf _ => "Action(" ++ leaf.name ++ ")"
  | .condition leaf false _ => "Conditional(" ++ leaf.name ++ ")"
  | .condition leaf true _ => "ConditionalInverse(" ++ leaf.name ++ ")"
  | .composite kind (some label) _ => kind.name ++ " \"" ++ label ++ "\""
  | .composite kind none _ => kind.name

def outlineLine (level : Nat) (n : Node τ μ) : String :=
  String.ofList (List.replicate (2 * level) ' ') ++ n.heading

mutual
/-- The lines of the subtree, its root at the given level. -/
def outlineLines (level : Nat) : Node τ μ → List String
  | .action leaf effect => [outlineLine level (.action leaf effect : Node τ μ)]
  | .condition leaf inverse p => [outlineLine level (.condition leaf inverse p : Node τ μ)]
  | .composite kind label children =>
    outlineLine level (.composite kind label children : Node τ μ) :: outlineLinesAll (level + 1) children

def outlineLinesAll (level : Nat) : List (Node τ μ) → List String
  | [] => []
  | n :: ns => outlineLines level n ++ outlineLinesAll level ns
end

/-- The outline of the subtree, every line ended. -/
def outline (n : Node τ μ) : String := String.join ((n.outlineLines 0).map (· ++ "\n"))

mutual
theorem length_outlineLines : ∀ (level : Nat) (n : Node τ μ), (n.outlineLines level).length = n.size
  | _, .action .. => by simp [outlineLines, size]
  | _, .condition .. => by simp [outlineLines, size]
  | level, .composite _ _ children => by
    simp [outlineLines, size, length_outlineLinesAll (level + 1) children, Nat.add_comm]

theorem length_outlineLinesAll : ∀ (level : Nat) (ns : List (Node τ μ)),
    (outlineLinesAll level ns).length = sizeAll ns
  | _, [] => by simp [outlineLinesAll, sizeAll]
  | level, n :: ns => by
    simp [outlineLinesAll, sizeAll, length_outlineLines level n, length_outlineLinesAll level ns]
end

/-! ## Structural text -/

open Text (Rendering)

mutual
/-- Leaves show their name, composites their name as label and their children. -/
def rendering : Node τ μ → Rendering
  | .action leaf _ => .record "Action" [("name", .text leaf.name)]
  | .condition leaf false _ => .record "Conditional" [("name", .text leaf.name)]
  | .condition leaf true _ => .record "ConditionalInverse" [("name", .text leaf.name)]
  | .composite kind label children =>
    .record kind.name
      [("label", .text (label.getD kind.name)), ("children", .list (renderingAll children))]

def renderingAll : List (Node τ μ) → List Rendering
  | [] => []
  | n :: ns => n.rendering :: renderingAll ns
end

end Forager.Node
