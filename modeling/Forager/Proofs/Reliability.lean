import Forager.Proofs.Conduct
import Forager.Proofs.Sessions
import Forager.Scenario

/-!
# The standard controller never fails

Whatever the configuration, the host and the order of calls, the standard controller answers every
frame with a decision, and leaves nothing asked for behind. The tree counts its own updates, so in
a replay, where no update fails, its count is the number of the frame, and the events of a tick
end with those of that frame's walk.

* `session_settles`: the calls of a session, and what a frame leaves.
* `replay_closes`: replays of scenarios with a good configuration.
* `controller_reliable`: both.
-/
namespace Forager

variable {μ η : Type}

/-! ## What a turn leaves -/

theorem Beliefs.prioritise_measured {b : Beliefs} (h : b.Measured) : b.prioritise.Measured := by
  rw [Measured, prioritise_longestPistolRange, prioritise_inventory]
  exact h

/-- Whether nothing is asked for and the reach is that of the pistols held. -/
structure Beliefs.Settled (b : Beliefs) : Prop where
  shootPistol : b.shootPistol = false
  useHealthItem : b.useHealthItem = false
  useFoodItem : b.useFoodItem = false
  measured : b.longestPistolRange = b.inventory.longestPistolRange

theorem turn_settled (config : Config) (host : Host η) (time : FrameTime) (percept : Percept)
    (b : Beliefs) (world : η) : (turn config host time percept b world).done.beliefs.Settled := by
  have flags := Beliefs.act_flags host (turn config host time percept b world).intended
    (turn config host time percept b world).seen.world
  have measured : (turn config host time percept b world).seen.beliefs.Measured := rfl
  exact ⟨congrArg (·.1) flags, congrArg (·.2.1) flags, congrArg (·.2.2) flags,
    Beliefs.act_measured (Beliefs.prioritise_measured measured)⟩

/-- No call of a session fails, and every frame leaves settled beliefs and a successful walk. -/
theorem session_settles (config : Config) (agent : Agent) (memory : μ) (host : Host η) (world : η)
    (os : List (Occurrence η)) :
    let s := Session.run host ⟨Controller.fresh config agent memory, world, []⟩ os
    (∀ target, (s.controller.setSoftGoal target).1 = .ok ()) ∧
      ∀ time percept, ∃ d b,
        (s.controller.update host time percept s.world).result = .ok d ∧
          (s.controller.update host time percept s.world).controller.beliefs = .ok b ∧
          b.Settled ∧ d.status = some .success ∧ d.tick = time.tick := by
  intro s
  have holds := (standard_session config agent memory host world os).holds
  generalize ((Episode.start config agent world).run config host os).beliefs = b at holds
  refine ⟨fun target => ?_, fun time percept => ?_⟩
  · rw [holds.setSoftGoal]
  · rw [holds.update]
    exact ⟨_, _, rfl, (holds.afterTurn _ _).beliefs,
      turn_settled s.controller.config host time percept b s.world, rfl, rfl⟩

/-! ## Traces -/

/-- Whether the events of a tick end with a success of the root of the standard tree. -/
def TraceLog.Closed (log : TraceLog) (tick : UInt64) : Prop :=
  (log.forTick tick).getLast? = some ⟨tick, 0, "Survive", .success⟩

/-- A walk closes its own tick and opens no other. -/
theorem TraceLog.closed_append (log : TraceLog) {es : List Event} {tick : UInt64}
    (h : ∀ e ∈ es, e.tick = tick) (last : es.getLast? = some ⟨tick, 0, "Survive", .success⟩) :
    (log.append es).Closed tick ∧ ∀ t, log.Closed t → (log.append es).Closed t := by
  have own : (log.append es).Closed tick := by
    rw [Closed, forTick_append, filter_tick_self h, List.getLast?_append, last]
    rfl
  refine ⟨own, fun t ht => ?_⟩
  by_cases hne : t = tick
  · rw [hne]
    exact own
  · rw [Closed, forTick_append, filter_tick_of_ne h hne, List.append_nil]
    exact ht

theorem walkEvents_tick (c : Controller μ) (b : Beliefs) :
    ∀ e ∈ c.walkEvents b, e.tick = c.tree.ticks :=
  Node.tick_of_mem_events ⟨true, c.tree.ticks⟩ StandardTree.root 0 _

theorem walkEvents_last (c : Controller μ) (b : Beliefs) :
    (c.walkEvents b).getLast? = some ⟨c.tree.ticks, 0, "Survive", .success⟩ := by
  rw [Controller.walkEvents, Node.getLast?_events,
    (StandardTree.root_realises ⟨true, c.tree.ticks⟩ 0 b _ _).1]
  rfl

/-! ## Replays -/

namespace Scenario

/-- Whether a run stands before the frame of the given number, with the given log. -/
structure Ready (run : Run) (number : Nat) (log : TraceLog) : Prop where
  holds : ∃ b, run.controller.Holds b
  ticks : run.controller.tree.ticks = .ofNat number
  sink : run.controller.tree.sink = .keeping log

/-- The controller that plays a frame: the soft goal of the frame, if any, is set first. -/
def prepared (run : Run) (frame : Frame) : Except (TreeError EntryType) Unit × Controller Unit :=
  match frame.softGoal with
  | none => (.ok (), run.controller)
  | some target => run.controller.setSoftGoal target

theorem playFrame_eq {run : Run} {number : Nat} {frame : Frame} {c : Controller Unit}
    {d : Decision} {c' : Controller Unit} {tally : Tally} (hc : prepared run frame = (.ok (), c))
    (hu : c.update host ⟨.ofNat number, frame.dt⟩ frame.percept
      { run.tally with visible := frame.visibleEnemies } = ⟨.ok d, c', tally⟩) :
    playFrame run number frame = .ok (d, ⟨c', tally⟩) := by
  rw [prepared] at hc
  rw [playFrame]
  cases hg : frame.softGoal with
  | none =>
    rw [hg] at hc
    cases hc
    simp only [hu]
  | some target =>
    rw [hg] at hc
    dsimp only at hc
    simp only [hc, hu]

theorem Ready.prepared {run : Run} {number : Nat} {log : TraceLog} (h : Ready run number log)
    (frame : Frame) : ∃ c b, prepared run frame = (.ok (), c) ∧ c.Holds b ∧
      c.tree.ticks = .ofNat number ∧ c.tree.sink = .keeping log := by
  obtain ⟨⟨b, hb⟩, ht, hs⟩ := h
  unfold Scenario.prepared
  cases frame.softGoal with
  | none => exact ⟨_, b, rfl, hb, ht, hs⟩
  | some target => exact ⟨_, _, hb.setSoftGoal target, hb.withBeliefs _, ht, hs⟩

/-- A frame is played, and closes the tick of its number. -/
theorem Ready.playFrame {run : Run} {number : Nat} {log : TraceLog} (h : Ready run number log)
    (frame : Frame) :
    ∃ d run' log', playFrame run number frame = .ok (d, run') ∧ d.tick = .ofNat number ∧
      d.status = some .success ∧ Ready run' (number + 1) log' ∧ log'.Closed (.ofNat number) ∧
      ∀ t, log.Closed t → log'.Closed t := by
  obtain ⟨c, b, hc, hb, ht, hs⟩ := h.prepared frame
  let t := turn c.config host ⟨.ofNat number, frame.dt⟩ frame.percept b
    { run.tally with visible := frame.visibleEnemies }
  let running := Controller.nextRunMode c.config frame.percept.agent.stamina c.runMode
  have closed := TraceLog.closed_append log (walkEvents_tick c t.seen.beliefs)
    (walkEvents_last c t.seen.beliefs)
  rw [ht] at closed
  refine ⟨t.decision (.ofNat number) running, ⟨c.afterTurn t running, t.done.world⟩,
    log.append (c.walkEvents t.seen.beliefs), ?_, rfl, rfl, ⟨⟨_, hb.afterTurn t running⟩, ?_, ?_⟩,
    closed.1, closed.2⟩
  · exact playFrame_eq hc (hb.update host _ frame.percept _)
  · simp only [Controller.afterTurn, Controller.afterWalk, ht, UInt64.ofNat_add]
    rfl
  · simp only [Controller.afterTurn, Controller.afterWalk, hs, Sink.receive]

/-- Whether a decision is that of the frame of the given number, which the log has closed. -/
structure Played (log : TraceLog) (number : Nat) (d : Decision) : Prop where
  tick : d.tick = .ofNat number
  status : d.status = some .success
  closed : log.Closed (.ofNat number)

theorem Ready.play {run : Run} {number : Nat} {log : TraceLog} (h : Ready run number log)
    (frames : List Frame) :
    ∃ ds run' log', play run number frames = .ok (ds, run') ∧
      run'.controller.tree.sink = .keeping log' ∧ ds.length = frames.length ∧
      (∀ i d, ds[i]? = some d → Played log' (number + i) d) ∧
      ∀ t, log.Closed t → log'.Closed t := by
  induction frames generalizing run number log with
  | nil => exact ⟨[], run, log, rfl, h.sink, rfl, nofun, fun _ ht => ht⟩
  | cons frame frames ih =>
    obtain ⟨d, run₁, log₁, hp, htick, hstatus, hready, hclosed, hkept⟩ := h.playFrame frame
    obtain ⟨ds, run₂, log₂, hps, hsink, hlen, hplayed, hkept'⟩ := ih hready
    refine ⟨d :: ds, run₂, log₂, ?_, hsink, ?_, ?_, fun t ht => hkept' t (hkept t ht)⟩
    · rw [Scenario.play, hp]
      dsimp only
      rw [hps]
    · rw [List.length_cons, List.length_cons, hlen]
    · intro i d' hd
      cases i with
      | zero =>
        cases hd
        exact ⟨htick, hstatus, hkept' _ hclosed⟩
      | succ i =>
        rw [List.getElem?_cons_succ] at hd
        rw [← Nat.add_assoc, Nat.add_right_comm]
        exact hplayed i d' hd

/-- A replay of a scenario in order makes one decision per frame, each closed by its walk. -/
theorem replay_closes {s : Scenario} (h : s.config.check = .ok ()) :
    ∃ r, s.replay = .ok r ∧ r.decisions.length = s.frames.length ∧
      ∀ i d, r.decisions[i]? = some d → Played r.trace i d := by
  have ready : Ready ⟨(Controller.fresh s.config s.agent ()).traced, {}⟩ 0 .empty :=
    ⟨⟨_, (Controller.Holds.fresh s.config s.agent ()).root,
      (Controller.Holds.fresh s.config s.agent ()).entries⟩, rfl, rfl⟩
  obtain ⟨ds, run, log, hp, hsink, hlen, hplayed, -⟩ := ready.play s.frames
  have trace : run.controller.takeLog.1 = log := by
    rw [Controller.takeLog, BehaviourTree.takeLog, hsink]
    rfl
  refine ⟨⟨ds, log, run.tally⟩, ?_, hlen, fun i d hd => ?_⟩
  · simp only [replay, h, Controller.standard_eq, hp, trace]
  · rw [← Nat.zero_add i]
    exact hplayed i d hd

end Scenario

/-! ## The whole -/

/-- The standard controller can be made for every configuration and agent and never fails; and
replays of scenarios with a good configuration succeed, with one decision per frame, whose status
is that of the last event of its tick. -/
theorem controller_reliable :
    (∀ (config : Config) (agent : Agent) (memory : μ), ∃ c : Controller μ,
      Controller.standard config agent memory = .ok c ∧
      ∀ {η : Type} (host : Host η) (world : η) (os : List (Occurrence η)),
        let s := Session.run host ⟨c, world, []⟩ os
        (∀ target, (s.controller.setSoftGoal target).1 = .ok ()) ∧
          ∀ time percept, ∃ d b,
            (s.controller.update host time percept s.world).result = .ok d ∧
              (s.controller.update host time percept s.world).controller.beliefs = .ok b ∧
              b.Settled ∧ d.status = some .success ∧ d.tick = time.tick) ∧
    ∀ s : Scenario, s.config.check = .ok () → ∃ r, s.replay = .ok r ∧
      r.decisions.length = s.frames.length ∧
      ∀ i d, r.decisions[i]? = some d → d.tick = .ofNat i ∧
        ∃ e, (r.trace.forTick (.ofNat i)).getLast? = some e ∧ e.depth = 0 ∧ e.node = "Survive" ∧
          d.status = some e.status := by
  constructor
  · intro config agent memory
    exact ⟨_, Controller.standard_eq config agent memory, fun host world os =>
      session_settles config agent memory host world os⟩
  · intro s h
    obtain ⟨r, hr, hlen, hplayed⟩ := Scenario.replay_closes h
    refine ⟨r, hr, hlen, fun i d hd => ?_⟩
    obtain ⟨htick, hstatus, hclosed⟩ := hplayed i d hd
    exact ⟨htick, _, hclosed, rfl, rfl, hstatus⟩

/-- A scenario of two frames: something lies in reach, and then nothing does. -/
def twoFrames : Scenario :=
  { frames := [{ percept := { items := [.food ⟨7, ⟨1, 0⟩, 3⟩] } }, { softGoal := some ⟨5, 5⟩ }] }

theorem controller_reliable_twoFrames :
    twoFrames.config.check = .ok () ∧ ∃ r, twoFrames.replay = .ok r ∧ r.decisions.length = 2 ∧
      ∀ i d, r.decisions[i]? = some d → d.tick = .ofNat i ∧
        ∃ e, (r.trace.forTick (.ofNat i)).getLast? = some e ∧ e.depth = 0 ∧ e.node = "Survive" ∧
          d.status = some e.status :=
  ⟨rfl, (controller_reliable (μ := Unit)).2 twoFrames rfl⟩

end Forager
