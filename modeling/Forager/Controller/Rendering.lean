import Forager.Controller
import Forager.Tree.Rendering

/-!
# Structural text of controllers

A controller shows its configuration, its tree and whether its agent runs.
-/
namespace Forager

open Text (Rendering)

/-- A number with the digits that tell it apart from all others. -/
def Single.rendering (x : Float32) : Rendering := .atom (Decimal.structural.text x)

def Vec2.rendering (v : Vec2) : Rendering :=
  .record "Vec2" [("x", Single.rendering v.x), ("y", Single.rendering v.y)]

def Config.rendering (c : Config) : Rendering :=
  .record "AgentConfig"
    [("inventory_capacity", .nat c.inventoryCapacity),
     ("max_pistols_in_inventory", .nat c.maxPistols),
     ("max_items_per_kind", .nat c.maxItemsPerKind),
     ("seconds_between_house_revisits", Single.rendering c.secondsBetweenHouseRevisits),
     ("low_resource_fraction", Single.rendering c.lowResourceFraction),
     ("max_stamina", Single.rendering c.maxStamina),
     ("search_points", .list (c.searchPoints.map (·.rendering)))]

def Controller.rendering {μ : Type} (c : Controller μ) : Rendering :=
  .record "Controller"
    [("config", c.config.rendering), ("tree", c.tree.rendering), ("run_mode", .bool c.runMode)]

end Forager
