import Forager.World.Item

/-!
# Hosts

What the controller asks of the world the agent lives in. A host works on a world `η`: every
request may change it, and a request to pick up or to use an item may be refused.
-/
namespace Forager

structure Host (η : Type) where
  /-- The nearest point of the navigation mesh on the way to a target. -/
  closestPathPoint : Vec2 → η → Vec2 × η
  /-- Moves an item from the ground into a slot; whether that was done. -/
  pickUp : Item → Nat → η → Bool × η
  /-- Fires the pistol, applies the pack or eats the food in a slot; whether that was done. -/
  useItem : Nat → η → Bool × η
  dropItem : Nat → η → η
  /-- Whether the enemy is in view at this moment. -/
  enemyVisible : EntityId → η → Bool × η

end Forager
