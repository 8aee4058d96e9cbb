import Forager.Codec.Trace
import Forager.Codec.World
import Forager.Controller

/-!
# Stored form of decisions

A decision is a record of its fields. Goals and the status may be null or absent when reading.
-/
namespace Forager.Decision

open Decode

def encode (form : Form) (d : Decision) : Document :=
  .record
    [("tick", .nat d.tick.toNat), ("steering", d.steering.encode),
     ("goal", .option (d.goal.map (·.encode form))),
     ("nav_goal", .option (d.navGoal.map (·.encode form))),
     ("run", .bool d.run), ("fired", .bool d.fired), ("used", .list (d.used.map (·.encode))),
     ("picked_up", .list (d.pickedUp.map fun id => .nat id.toNat)),
     ("status", .option (d.status.map (·.encode)))]

def decode (form : Form) (d : Document) : Option Decision := do
  let fs ← fields d
  return {
    tick := ← required fs "tick" uint64
    steering := ← required fs "steering" Steering.decode
    goal := ← absentable fs "goal" (Vec2.decode form)
    navGoal := ← absentable fs "nav_goal" (Vec2.decode form)
    run := ← required fs "run" bool
    fired := ← required fs "fired" bool
    used := ← required fs "used" (list ItemKind.decode)
    pickedUp := ← required fs "picked_up" (list uint64)
    status := ← absentable fs "status" (Status.decode form) }

end Forager.Decision
