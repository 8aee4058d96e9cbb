import Forager.Codec.Decision
import Forager.Node.Outline
import Forager.Scenario

/-!
# Reports

What the commands print: the table of a replay's decisions, the same decisions as JSON, leaves
with the keys they touch, and the summary of a checked configuration.
-/
namespace Forager.CommandLine

/-! ## Columns -/

def spaces (n : Nat) : String := String.ofList (List.replicate n ' ')

/-- The text at the left of a column. -/
def left (width : Nat) (s : String) : String := s ++ spaces (width - s.length)

/-- The text at the right of a column. -/
def right (width : Nat) (s : String) : String := spaces (width - s.length) ++ s

def row (tick steering goal run fired events : String) : String :=
  right 5 tick ++ "  " ++ left 7 steering ++ " " ++ left 17 goal ++ " " ++ left 4 run ++ " " ++
    left 5 fired ++ " " ++ events

/-! ## Decisions -/

def yesNo (b : Bool) : String := if b then "yes" else "no"

def point (v : Vec2) : String := "(" ++ Decimal.fixed v.x ++ ", " ++ Decimal.fixed v.y ++ ")"

/-- What was picked up, then what was used. -/
def events (d : Decision) : String :=
  ", ".intercalate
    (d.pickedUp.map (fun id => "picked #" ++ toString id.toNat) ++
      d.used.map fun kind => "used " ++ kind.title)

def decisionRow (d : Decision) : String :=
  row (toString d.tick.toNat) d.steering.title ((d.goal.map point).getD "-") (yesNo d.run)
    (yesNo d.fired) (events d)

def lines (ls : List String) : String := String.join (ls.map (· ++ "\n"))

/-- The table of a replay, and what the host did. -/
def table (r : Scenario.Replay) : String :=
  lines
    ([row "tick" "steer" "goal" "run" "fire" "events"] ++ r.decisions.map decisionRow ++
      ["", s!"{r.decisions.length} frames, {r.tally.pickedUp} pickups, {r.tally.used} items used, {r.tally.dropped} drops"])

/-- The decisions of a replay as JSON. -/
def decisionsJson (r : Scenario.Replay) : String :=
  Json.pretty (.list (r.decisions.map (·.encode .decimal))) ++ "\n"

/-! ## Leaves and trees -/

def leafLines (leaf : Leaf EntryType) : List String :=
  ["  " ++ leaf.name, "    reads:  " ++ ", ".intercalate (leaf.namesWith .read),
   "    writes: " ++ ", ".intercalate (leaf.namesWith .write)]

/-- The leaves without those whose name has occurred before. -/
def firstByName (leaves : List (Leaf EntryType)) : List (Leaf EntryType) :=
  leaves.foldl (fun seen leaf => if seen.any (·.name == leaf.name) then seen else seen ++ [leaf]) []

/-- The outline of the standard tree, and if asked the leaves it is made of. -/
def treeText (keys : Bool) : String :=
  let root : Node EntryType Unit := StandardTree.root
  root.outline ++
    if keys then lines ("" :: (firstByName root.leaves).flatMap leafLines) else ""

def libraryText : String :=
  lines (s!"Leaf library: {Library.all.length} leaves" ::
    Library.all.flatMap fun b => leafLines b.leaf)

/-- The summary of a configuration with which the standard tree works. -/
def summary (c : Config) (t : BehaviourTree EntryType Unit) : String :=
  lines
    ["Config OK",
     s!"  inventory slots:  {c.inventoryCapacity}",
     s!"  search points:    {c.searchPoints.length}",
     s!"  blackboard keys:  {t.board.size}",
     s!"  tree nodes:       {(t.root.map (·.size)).getD 0}"]

end Forager.CommandLine
