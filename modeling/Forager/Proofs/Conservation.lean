import Forager.Proofs.InventoryOrder
import Forager.Proofs.Ledger
import Forager.Proofs.Reliability

/-!
# Nothing is lost or duplicated

Whatever a host hands over is still held at the end of a run, or a decision reported it as used, or
the host was told to drop it; and every round that came with a pistol is still in it, was fired, or
went away with a pistol that made room for a better one. What a decision reports is the account of
its frame, so a balance between books, inventory and decisions is kept frame by frame.

* `Balanced.run`: the books of a host balance after every run.
* `Scenario.replay_counted`: the counters of the scripted host balance after every replay.
* `nothing_lost`: both, for the standard controller.
-/
namespace Forager

variable {μ η : Type}

/-! ## What decisions report -/

namespace Decision

def pickUps (ds : List Decision) : Nat := (ds.map (·.pickedUp.length)).sum

def uses (ds : List Decision) : Nat := (ds.map (·.used.length)).sum

def shots (ds : List Decision) : Nat := ds.countP (·.fired)

theorem pickUps_snoc (ds : List Decision) (d : Decision) :
    pickUps (ds ++ [d]) = pickUps ds + d.pickedUp.length := by
  simp only [pickUps, List.map_append, List.map_singleton, List.sum_append, List.sum_singleton]

theorem uses_snoc (ds : List Decision) (d : Decision) :
    uses (ds ++ [d]) = uses ds + d.used.length := by
  simp only [uses, List.map_append, List.map_singleton, List.sum_append, List.sum_singleton]

theorem shots_snoc (ds : List Decision) (d : Decision) :
    shots (ds ++ [d]) = shots ds + d.fired.toNat := by
  simp only [shots, List.countP_append, List.countP_singleton]
  cases d.fired <;> rfl

end Decision

/-- The account of a frame is what its decision reports, and what was dropped. -/
theorem dealt_decision {config : Config} (host : Host η) (time : FrameTime) (percept : Percept)
    {b : Beliefs} (ok : b.inventory.InOrder config) (w : η) (run : Bool) :
    let t := turn config host time percept b w
    let d := t.decision time.tick run
    ∃ a : Account, Dealt config host b.inventory w t.done.beliefs.inventory t.done.world a ∧
      d.pickedUp.length = a.taken.length ∧ d.fired.toNat = a.shots ∧ d.used = a.used := by
  intro t d
  obtain ⟨taken, swapped, emptied, seen, done, reported⟩ := dealt_turn host time percept ok w
  refine ⟨_, seen.trans done, ?_, (Nat.zero_add _).symm, rfl⟩
  show t.seen.pickedUp.length = (taken ++ []).length
  rw [reported, List.append_nil, List.length_map]

/-! ## Sessions -/

/-- Whether the books of a host, the inventory and the decisions so far agree. -/
structure Balanced (l : Ledger η) (inv : Inventory) (ds : List Decision) : Prop where
  slots : l.stock.slots = inv.slots
  reported : l.taken.length = Decision.pickUps ds
  items : l.taken.length = inv.items.length + Decision.uses ds + l.dropped.length
  rounds : l.roundsTaken = Decision.shots ds + inv.total Item.rounds + l.roundsDropped

namespace Balanced

variable {config : Config} {host : Host η}

theorem opened (capacity : Nat) (world : η) :
    Balanced (.opened capacity world) (.withCapacity capacity) [] where
  slots := rfl
  reported := rfl
  items := by
    rw [Inventory.length_items_eq_total, Inventory.total_withCapacity]
    rfl
  rounds := by
    rw [Inventory.total_withCapacity]
    rfl

/-- A frame whose account is what its decision reports keeps the balance. -/
theorem dealt {l l' : Ledger η} {inv inv' : Inventory} {ds : List Decision} {d : Decision}
    {a : Account} (h : Balanced l inv ds) (dealt : Dealt config host.ledgered inv l inv' l' a)
    (pickedUp : d.pickedUp.length = a.taken.length) (fired : d.fired.toNat = a.shots)
    (used : d.used = a.used) : Balanced l' inv' (ds ++ [d]) := by
  obtain ⟨slots, reported, items, rounds⟩ := h
  obtain ⟨items', rounds'⟩ := dealt.settles
  obtain ⟨slots', taken, drops, dropped⟩ := dealt.entered slots
  have came : l'.roundsTaken = l.roundsTaken + a.roundsTaken := by
    simp only [Ledger.roundsTaken, Account.roundsTaken, taken, List.map_append, List.sum_append]
  rw [← used] at items'
  constructor
  · exact slots'
  · rw [Decision.pickUps_snoc, taken, List.length_append, reported, pickedUp]
  · rw [Decision.uses_snoc, taken, List.length_append]
    omega
  · rw [Decision.shots_snoc]
    omega

theorem step {e : Episode (Ledger η)} (ok : e.beliefs.inventory.InOrder config)
    (h : Balanced e.world e.beliefs.inventory e.decisions) (o : Occurrence η) :
    let e' := e.step config host.ledgered o.ledgered
    Balanced e'.world e'.beliefs.inventory e'.decisions := by
  cases o with
  | softGoal target => exact h
  | frame time percept =>
    obtain ⟨a, account, pickedUp, fired, used⟩ := dealt_decision host.ledgered time percept ok
      e.world (Controller.nextRunMode config percept.agent.stamina e.running)
    exact h.dealt account pickedUp fired used
  | drift change => exact ⟨h.slots, h.reported, h.items, h.rounds⟩

theorem run (config : Config) (host : Host η) (agent : Agent) (world : η)
    (os : List (Occurrence η)) :
    let e := (Episode.start config agent (Ledger.opened config.inventoryCapacity world)).run config
      host.ledgered (os.map .ledgered)
    Balanced e.world e.beliefs.inventory e.decisions := by
  refine (Episode.run_invariant
    (P := fun e : Episode (Ledger η) => e.beliefs.inventory.InOrder config ∧
      Balanced e.world e.beliefs.inventory e.decisions)
    ⟨Inventory.InOrder.withCapacity config, opened config.inventoryCapacity world⟩ ?_).2
  intro o ho e h
  obtain ⟨o', -, rfl⟩ := List.mem_map.1 ho
  exact ⟨Episode.inOrder_step host.ledgered h.1 _, step h.1 h.2 o'⟩

end Balanced

/-- What a frame drops after the walk takes no rounds along. -/
theorem roundsDropped_turn {config : Config} (host : Host η) (time : FrameTime) (percept : Percept)
    {b : Beliefs} {l : Ledger η} (ok : b.inventory.InOrder config)
    (same : l.stock.slots = b.inventory.slots) :
    let t := turn config host.ledgered time percept b l
    t.done.world.roundsDropped = t.seen.world.roundsDropped := by
  intro t
  -- After the walk pistols are dropped only once they are empty, so nothing is swapped out.
  obtain ⟨taken, swapped, emptied, seen, done, -⟩ :=
    dealt_turn host.ledgered time percept ok l
  exact (done.entered (seen.entered same).1).2.rounds

/-! ## Replays -/

namespace Scenario

/-- Whether the counters of the scripted host, the inventory and the decisions so far agree. -/
structure Counted (t : Tally) (inv : Inventory) (ds : List Decision) : Prop where
  pickedUp : t.pickedUp = Decision.pickUps ds
  used : t.used = Decision.shots ds + Decision.uses ds
  items : t.pickedUp = inv.items.length + Decision.uses ds + t.dropped

theorem dealt_tallied {config : Config} {inv inv' : Inventory} {t t' : Tally} {a : Account}
    (h : Dealt config host inv t inv' t' a) :
    t'.pickedUp = t.pickedUp + a.taken.length ∧ t'.used = t.used + a.shots + a.used.length ∧
      t'.dropped = t.dropped + a.drops := by
  refine h.lift (R := fun _ t _ t' a => t'.pickedUp = t.pickedUp + a.taken.length ∧
    t'.used = t.used + a.shots + a.used.length ∧ t'.dropped = t.dropped + a.drops) ?_ ?_ ?_
  · exact fun _ _ => ⟨rfl, rfl, rfl⟩
  · rintro _ t _ t₁ _ t₂ a b ⟨taken, used, drops⟩ ⟨taken', used', drops'⟩
    simp only [Account.add, Account.drops, List.length_append] at *
    omega
  · intro d inv t inv' t' one
    cases one with
    | refusePickUp no => exact absurd rfl no
    | refuseUse no => exact absurd rfl no
    | askWay | askView | store | swapOut | fire | spend | consume => exact ⟨rfl, rfl, rfl⟩

/-- Whether a run has come so far with its books in order. -/
structure Accounted (config : Config) (run : Run) (ds : List Decision) (b : Beliefs) : Prop where
  configured : run.controller.config = config
  holds : run.controller.Holds b
  inOrder : b.inventory.InOrder config
  counted : Counted run.tally b.inventory ds

variable {config : Config} {run : Run} {ds : List Decision} {b : Beliefs}

theorem Counted.dealt {t t' : Tally} {inv inv' : Inventory} {d : Decision} {a : Account}
    (h : Counted t inv ds) (dealt : Dealt config host inv t inv' t' a)
    (pickedUp : d.pickedUp.length = a.taken.length) (fired : d.fired.toNat = a.shots)
    (used : d.used = a.used) : Counted t' inv' (ds ++ [d]) := by
  obtain ⟨pickedUp₀, used₀, items⟩ := h
  obtain ⟨items', -⟩ := dealt.settles
  obtain ⟨taken, uses, drops⟩ := dealt_tallied dealt
  rw [← used] at items' uses
  constructor
  · rw [Decision.pickUps_snoc]
    omega
  · rw [Decision.shots_snoc, Decision.uses_snoc]
    omega
  · rw [Decision.uses_snoc]
    omega

/-- Setting the soft goal of a frame touches no books. -/
theorem Accounted.prepared (h : Accounted config run ds b) (frame : Frame) :
    ∃ c b', prepared run frame = (.ok (), c) ∧ Accounted config ⟨c, run.tally⟩ ds b' := by
  obtain ⟨hc, hb, ok, counted⟩ := h
  unfold Scenario.prepared
  cases frame.softGoal with
  | none => exact ⟨_, b, rfl, hc, hb, ok, counted⟩
  | some target => exact ⟨_, _, hb.setSoftGoal target, hc, hb.withBeliefs _, ok, counted⟩

theorem Accounted.playFrame (h : Accounted config run ds b) (number : Nat) (frame : Frame) :
    ∃ d run' b', playFrame run number frame = .ok (d, run') ∧
      Accounted config run' (ds ++ [d]) b' := by
  obtain ⟨c, b', set, hc, hb, ok, counted⟩ := h.prepared frame
  let now : Tally := { run.tally with visible := frame.visibleEnemies }
  have same : Counted now b'.inventory ds := ⟨counted.pickedUp, counted.used, counted.items⟩
  obtain ⟨a, account, pickedUp, fired, used⟩ := dealt_decision host ⟨.ofNat number, frame.dt⟩
    frame.percept ok now (Controller.nextRunMode config frame.percept.agent.stamina c.runMode)
  have updated := hb.update host ⟨.ofNat number, frame.dt⟩ frame.percept now
  rw [show c.config = config from hc] at updated
  exact ⟨_, _, _, playFrame_eq set updated, hc, hb.afterTurn _ _, account.inOrder ok,
    same.dealt account pickedUp fired used⟩

theorem Accounted.play (h : Accounted config run ds b) (number : Nat) (frames : List Frame) :
    ∃ ds' run' b', play run number frames = .ok (ds', run') ∧
      Accounted config run' (ds ++ ds') b' := by
  induction frames generalizing run ds b number with
  | nil =>
    refine ⟨[], run, b, rfl, ?_⟩
    rw [List.append_nil]
    exact h
  | cons frame frames ih =>
    obtain ⟨d, run₁, b₁, played, h₁⟩ := h.playFrame number frame
    obtain ⟨ds', run₂, b₂, rest, h₂⟩ := ih h₁ (number + 1)
    refine ⟨d :: ds', run₂, b₂, ?_, ?_⟩
    · rw [Scenario.play, played]
      dsimp only
      rw [rest]
    · rw [List.append_cons]
      exact h₂

/-- A replay of a scenario in order ends with its counters in agreement with what it reports. -/
theorem replay_counted {s : Scenario} (h : s.config.check = .ok ()) :
    ∃ r inv, s.replay = .ok r ∧ inv.InOrder s.config ∧ Counted r.tally inv r.decisions := by
  have start : Accounted s.config ⟨(Controller.fresh s.config s.agent ()).traced, {}⟩ []
      (.initial s.config s.agent) :=
    ⟨rfl, (Controller.Holds.fresh s.config s.agent ()).traced,
      Inventory.InOrder.withCapacity s.config,
      ⟨rfl, rfl, (Balanced.opened s.config.inventoryCapacity ()).items⟩⟩
  obtain ⟨ds, run, b, played, accounted⟩ := start.play 0 s.frames
  refine ⟨⟨ds, run.controller.takeLog.1, run.tally⟩, b.inventory, ?_, accounted.inOrder,
    accounted.counted⟩
  simp only [replay, h, Controller.standard_eq, played]

end Scenario

/-! ## The whole -/

/-- After every session of the standard controller with a host that keeps books, these agree with
the inventory and with the decisions, where what was dropped after a walk counts no rounds: the
rounds dropped are those of the pistols that were swapped out. The counters of a replay agree with
its decisions, and the items left over fit in the inventory. -/
theorem nothing_lost :
    (∀ (config : Config) (agent : Agent) (memory : μ), ∃ c : Controller μ,
      Controller.standard config agent memory = .ok c ∧
      ∀ {η : Type} (host : Host η) (world : η) (os : List (Occurrence η)),
        let s := Session.run host.ledgered
          ⟨c, Ledger.opened config.inventoryCapacity world, []⟩ (os.map .ledgered)
        ∃ b, s.controller.beliefs = .ok b ∧ Balanced s.world b.inventory s.decisions ∧
          ∀ time percept,
            (s.controller.update host.ledgered time percept s.world).world.roundsDropped =
              (Gathering.perceive config host.ledgered time.dt percept b
                s.world).world.roundsDropped) ∧
    ∀ s : Scenario, s.config.check = .ok () → ∃ r, s.replay = .ok r ∧
      r.tally.pickedUp = Decision.pickUps r.decisions ∧
      r.tally.used = Decision.shots r.decisions + Decision.uses r.decisions ∧
      Decision.uses r.decisions + r.tally.dropped ≤ r.tally.pickedUp ∧
      r.tally.pickedUp ≤
        Decision.uses r.decisions + r.tally.dropped + s.config.inventoryCapacity := by
  constructor
  · intro config agent memory
    refine ⟨_, Controller.standard_eq config agent memory, fun host world os => ?_⟩
    have follows := standard_session config agent memory host.ledgered
      (Ledger.opened config.inventoryCapacity world) (os.map .ledgered)
    have balanced := Balanced.run config host agent world os
    have ok := Episode.inOrder_run config host.ledgered agent
      (Ledger.opened config.inventoryCapacity world) (os.map .ledgered)
    intro s
    refine ⟨_, follows.holds.beliefs, ?_, fun time percept => ?_⟩
    · rw [follows.world, follows.decisions]
      exact balanced
    · rw [follows.holds.update host.ledgered time percept s.world, follows.config, follows.world]
      exact roundsDropped_turn host time percept ok balanced.slots
  · intro s h
    obtain ⟨r, inv, replayed, ok, pickedUp, used, items⟩ := Scenario.replay_counted h
    have fits := inv.length_items_le
    rw [ok.capacity] at fits
    exact ⟨r, replayed, pickedUp, used, by omega, by omega⟩

/-- Room for a single pistol, a weak one at hand and then a better one. -/
def betterPistol : Scenario :=
  { config := { maxPistols := 1 }
    frames :=
      [{ percept := { items := [.pistol ⟨7, ⟨1, 0⟩, 5, 1, 10⟩] } },
        { percept := { items := [.pistol ⟨8, ⟨1, 0⟩, 2, 9, 10⟩] } }] }

theorem nothing_lost_betterPistol :
    betterPistol.config.check = .ok () ∧ ∃ r, betterPistol.replay = .ok r ∧
      r.tally.pickedUp = Decision.pickUps r.decisions ∧
      r.tally.used = Decision.shots r.decisions + Decision.uses r.decisions ∧
      Decision.uses r.decisions + r.tally.dropped ≤ r.tally.pickedUp ∧
      r.tally.pickedUp ≤ Decision.uses r.decisions + r.tally.dropped + 5 :=
  ⟨rfl, (nothing_lost (μ := Unit)).2 betterPistol rfl⟩

end Forager
