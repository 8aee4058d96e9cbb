import Forager.Node.Outline
import Forager.Tree

/-!
# Structural text of boards and trees

A board shows the type name under each name; a tree shows its board, its root, the count of its
updates and its last status.
-/
namespace Forager

open Text (Rendering)

variable {τ μ : Type} [EntryTypes τ]

def Status.rendering (s : Status) : Rendering := .atom s.name

def Blackboard.rendering (bb : Blackboard τ) : Rendering :=
  .map (bb.entries.entries.map fun e => (Text.quoted e.1, .text (EntryTypes.name e.2.type)))

def BehaviourTree.rendering (t : BehaviourTree τ μ) : Rendering :=
  .record "BehaviourTree"
    [("blackboard", t.board.rendering),
     ("root", .option (t.root.map (·.rendering))),
     ("ticks", .nat t.ticks.toNat),
     ("last", .option (t.last.map (·.rendering)))]

end Forager
