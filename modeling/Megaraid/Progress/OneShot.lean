import Megaraid.Progress.Watch

/-!
# Polling refines the one-shot check

A run that polls ends with the status a one-shot run returns on the outcomes of
its last round alone; on every earlier round the one-shot run is not content.
Nothing but `soft_errors` reaches from one round to the next.
-/

namespace Megaraid

open Traced (Replayable)

/-- The driver's answer in an event. -/
def Event.reply? (event : Event) : Option DriverReply := event.command?.map Command.reply

/-- The answers in a record are the replies to its commands. -/
theorem filterMap_reply? (events : List Event) :
    events.filterMap Event.reply? = (commands events).map Command.reply := by
  rw [commands, List.map_filterMap]
  rfl

/-! ### The round takes its answers from the driver one after another -/

section Replay

variable (host : Host) (fd bus target interval : Int) (expectedBs : UInt32)

theorem sendCmd_replayable (cdb : List UInt8) (cdblen : Int) {n : Nat} (data : Buffer n)
    (len dir : Int) (name : Option String) :
    Replayable Event.reply? (sendCmd fd bus target cdb cdblen data len dir name) := by
  refine .bind (.next fun _ => rfl) fun reply => .ite ?_ ?_
  · cases name with
    | none => exact .pure _
    | some name => exact .bind (.record rfl) fun _ => .pure _
  · cases name with
    | none => exact .pure _
    | some name => exact .bind (.record rfl) fun _ => .pure _

theorem readCapacity10_replayable (out : CapacityOut) :
    Replayable Event.reply? (readCapacity10 host fd bus target out) := by
  refine .bind (sendCmd_replayable ..) fun sent => ?_
  exact .ite (.pure _) (.ite (.pure _) (.pure _))

theorem readCapacityRetries_replayable (left : Nat) (out : CapacityOut) :
    Replayable Event.reply? (readCapacityRetries host fd bus target left out) := by
  induction left generalizing out with
  | zero => exact .pure _
  | succ left ih =>
      refine .bind (readCapacity10_replayable ..) fun result => .ite (.pure _) ?_
      exact .bind (.ite (.record rfl) (.pure _)) fun _ => ih result.2

theorem printState_replayable (out : SenseOut) : Replayable Event.reply? (printState out) := by
  unfold printState
  cases out.state with
  | formatting => exact .ite (.record rfl) (.record rfl)
  | notReady => exact .record rfl
  | backgroundOp => exact .record rfl
  | unitAttention => exact .record rfl
  | idle => exact .pure _

theorem failedPoll_replayable (state : PollState) :
    Replayable Event.reply? (failedPoll fd interval state) := by
  refine .ite ?_ ?_
  · exact .bind (.record rfl) fun _ => .bind (.record rfl) fun _ => .pure _
  · exact .bind (.record rfl) fun _ => .bind (.record rfl) fun _ => .pure _

theorem busyPoll_replayable (state : PollState) :
    Replayable Event.reply? (busyPoll fd interval state) :=
  .ite (.bind (.record rfl) fun _ => .pure _) (.bind (.record rfl) fun _ => .pure _)

theorem reportReady_replayable (cap : CapacityOut) :
    Replayable Event.reply? (reportReady host fd expectedBs cap) := by
  refine .bind (.record rfl) fun _ => .bind (.ite (.record rfl) (.record rfl)) fun _ => ?_
  exact .bind (.ite (.record rfl) (.pure _)) fun _ => .bind (.record rfl) fun _ => .pure _

theorem idlePoll_replayable (out : SenseOut) :
    Replayable Event.reply? (idlePoll host fd bus target expectedBs out) := by
  refine .bind (.ite (.record rfl) (.pure _)) fun _ => ?_
  refine .bind (readCapacityRetries_replayable ..) fun result => .ite ?_ ?_
  · exact .bind (.record rfl) fun _ => .bind (.record rfl) fun _ => .pure _
  · exact reportReady_replayable ..

theorem pollIteration_replayable (state : PollState) :
    Replayable Event.reply? (pollIteration host fd bus target interval expectedBs state) := by
  refine .bind (sendCmd_replayable ..) fun sent => .ite ?_ ?_
  · exact .bind (.ite (.record rfl) (.record rfl)) fun _ => failedPoll_replayable ..
  · refine .bind (printState_replayable _) fun _ => .ite (busyPoll_replayable ..) ?_
    exact .map _ (idlePoll_replayable ..)

end Replay

/-! ### One round, polling and not -/

section Round

variable (host : Host) (fd bus target interval : Int) (expectedBs : UInt32) (state : PollState)
  (driver : Stream' DriverReply)

/-- An idle answer leads to the same exit with and without an interval. -/
theorem pollIteration_idle_value
    (idle : (requestSense host fd bus target driver.head).verdict = .idle) :
    (pollIteration host fd bus target interval expectedBs state).value driver =
      .inr ((idlePoll host fd bus target expectedBs
        (requestSense host fd bus target driver.head).decoded.2).value driver.tail) := by
  obtain ⟨answered, _, received, _, returned⟩ :=
    pollIteration_eq_answered host fd bus target interval expectedBs state driver
  have told : verdictOf (requestSense host fd bus target driver.head).status
      answered.sense.toList = .idle := by
    rw [received]
    exact idle
  rw [returned, (answeredPoll_idle host fd bus target interval expectedBs answered driver.tail _
    told).2, received]
  rfl

variable {interval}

/-- A one-shot round repeats the exit of a polling one. -/
theorem oneShot_of_exit {once : Int} (polling : 0 < interval) (single : once ≤ 0)
    (fresh : PollState) {status : Int}
    (exited : (pollIteration host fd bus target interval expectedBs state).value driver =
      .inr status) :
    (pollIteration host fd bus target once expectedBs fresh).value driver = .inr status := by
  obtain ⟨_, _, _, round⟩ :=
    pollIteration_round host fd bus target interval expectedBs state driver
  obtain ⟨_, _, _, shot⟩ := pollIteration_round host fd bus target once expectedBs fresh driver
  rw [exited] at round
  cases told : (requestSense host fd bus target driver.head).verdict with
  | failed =>
      have abandoned := (round.of_failed told).2
      have refused := (shot.of_failed told).2
      rw [if_neg (fun few => absurd few.1 (not_lt.mpr single))] at refused
      rw [refused]
      split at abandoned
      · obtain ⟨_, continued, _⟩ := abandoned
        cases continued
      · exact abandoned.symm
  | busy =>
      have answered := (round.of_busy told).2
      rw [if_neg (not_le.mpr polling)] at answered
      obtain ⟨_, continued, _⟩ := answered
      cases continued
  | idle =>
      rw [pollIteration_idle_value host fd bus target interval expectedBs state driver told]
        at exited
      rw [pollIteration_idle_value host fd bus target once expectedBs fresh driver told, exited]

/-- Where polling goes on, a one-shot round does not call the drive finished. -/
theorem oneShot_of_continue {once : Int} (single : once ≤ 0) (fresh : PollState) {next : PollState}
    (continued : (pollIteration host fd bus target interval expectedBs state).value driver =
      .inl next) :
    let shot := pollIteration host fd bus target once expectedBs fresh
    shot.value driver = .inr 3 ∨ shot.value driver = .inr 1 ∧
      ∃ poll, commands (shot.events driver) = [poll] ∧ pollFailed poll := by
  intro shot
  obtain ⟨_, _, _, round⟩ :=
    pollIteration_round host fd bus target interval expectedBs state driver
  obtain ⟨attempts, issued, _, alone⟩ :=
    pollIteration_round host fd bus target once expectedBs fresh driver
  rw [continued] at round
  cases told : (requestSense host fd bus target driver.head).verdict with
  | failed =>
      obtain ⟨rfl, refused⟩ := alone.of_failed told
      rw [if_neg (fun few => absurd few.1 (not_lt.mpr single))] at refused
      exact Or.inr ⟨refused, _, issued, (pollFailed_iff _).mpr told⟩
  | busy =>
      have answered := (alone.of_busy told).2
      rw [if_pos single] at answered
      exact Or.inl answered
  | idle =>
      rw [pollIteration_idle_value host fd bus target interval expectedBs state driver told]
        at continued
      cases continued

end Round

/-! ### Runs -/

section Run

variable (host : Host) (fd bus target interval : Int) (expectedBs : UInt32)
  (sense : Vector UInt8 96) (rounds : Nat) (driver : Stream' DriverReply)

/-- The driver's outcomes of one round of a run, counted from 0. -/
def roundOutcomes (round : Nat) : List DriverReply :=
  ((commands ((pollLoop host fd bus target interval expectedBs (round + 1)
      ⟨sense, 0⟩).events driver)).drop
    (commands ((pollLoop host fd bus target interval expectedBs round
      ⟨sense, 0⟩).events driver)).length).map Command.reply

/-- A fresh run of `mega_progress` without a positive interval. -/
def oneShot (once : Int) (fresh : Vector UInt8 96) : Tool (PollState ⊕ Int) :=
  pollLoop host fd bus target once expectedBs 1 ⟨fresh, 0⟩

/-- How a polling run relates to one-shot runs on its rounds. -/
structure PollRefines : Prop where
  /-- The run ends with the status of a one-shot run on its last round. -/
  last : ∀ status,
    (pollLoop host fd bus target interval expectedBs rounds ⟨sense, 0⟩).value driver =
      .inr status →
    ∃ round < rounds,
      (pollLoop host fd bus target interval expectedBs rounds ⟨sense, 0⟩) driver =
        (pollLoop host fd bus target interval expectedBs (round + 1) ⟨sense, 0⟩) driver ∧
      ∀ once ≤ 0, ∀ fresh rest,
        (oneShot host fd bus target expectedBs once fresh).value
          (roundOutcomes host fd bus target interval expectedBs sense driver round ++ₛ rest) =
            .inr status
  /-- On a round after which polling goes on, a one-shot run returns 3, or 1 for
  its REQUEST SENSE. -/
  earlier : ∀ round head,
    (pollLoop host fd bus target interval expectedBs (round + 1) ⟨sense, 0⟩).value driver =
      .inl head →
    ∀ once ≤ 0, ∀ fresh rest outcomes, outcomes =
      roundOutcomes host fd bus target interval expectedBs sense driver round ++ₛ rest →
    (oneShot host fd bus target expectedBs once fresh).value outcomes = .inr 3 ∨
      (oneShot host fd bus target expectedBs once fresh).value outcomes = .inr 1 ∧
      ∃ poll, commands ((oneShot host fd bus target expectedBs once fresh).events outcomes) =
        [poll] ∧ pollFailed poll
  /-- A polling run does not return 3. -/
  confirmed :
    (pollLoop host fd bus target interval expectedBs rounds ⟨sense, 0⟩).value driver ≠ .inr 3
  /-- What comes later depends on the past through the number of failed polls
  at its end only. -/
  history : ∀ head otherSense otherDriver otherRounds otherHead,
    (pollLoop host fd bus target interval expectedBs rounds ⟨sense, 0⟩).value driver =
      .inl head →
    (pollLoop host fd bus target interval expectedBs otherRounds ⟨otherSense, 0⟩).value
      otherDriver = .inl otherHead →
    trailing pollFailed (polls ((pollLoop host fd bus target interval expectedBs rounds
      ⟨sense, 0⟩).events driver)) =
    trailing pollFailed (polls ((pollLoop host fd bus target interval expectedBs otherRounds
      ⟨otherSense, 0⟩).events otherDriver)) →
    ∀ more rest,
      pollLoop host fd bus target interval expectedBs (more + 1) head rest =
        pollLoop host fd bus target interval expectedBs (more + 1) otherHead rest
  /-- A byte of a buffer that the driver did not write reads as zero. -/
  unwritten : ∀ command ∈ commands
      ((pollLoop host fd bus target interval expectedBs rounds ⟨sense, 0⟩).events driver),
    ∀ i < command.received.length,
      command.received.getD i 0 = command.reply.written.getD i 0

variable {rounds driver}

/-- The outcomes of a round are the answers that its iteration took. -/
theorem roundOutcomes_eq_answers {round : Nat} {head : PollState}
    (reached : (pollLoop host fd bus target interval expectedBs round ⟨sense, 0⟩).value driver =
      .inl head) :
    roundOutcomes host fd bus target interval expectedBs sense driver round =
      (pollIteration host fd bus target interval expectedBs head).answers Event.reply?
        ((pollLoop host fd bus target interval expectedBs round ⟨sense, 0⟩).world driver) := by
  have events := Traced.iterate_succ_events _ reached
  rw [← pollLoop, ← pollLoop] at events
  rw [roundOutcomes, events, commands_append, List.drop_left, Traced.answers, filterMap_reply?]

/-- A round gives the same result on its outcomes alone. -/
theorem pollIteration_on_outcomes {round : Nat} {head : PollState}
    (reached : (pollLoop host fd bus target interval expectedBs round ⟨sense, 0⟩).value driver =
      .inl head) (rest : Stream' DriverReply) :
    (pollIteration host fd bus target interval expectedBs head).value
      (roundOutcomes host fd bus target interval expectedBs sense driver round ++ₛ rest) =
    (pollLoop host fd bus target interval expectedBs (round + 1) ⟨sense, 0⟩).value driver := by
  have entered := Traced.iterate_succ_value _ reached
  rw [← pollLoop, ← pollLoop] at entered
  rw [entered, roundOutcomes_eq_answers host fd bus target interval expectedBs sense reached,
    Traced.value, (pollIteration_replayable host fd bus target interval expectedBs head).replay]

/-- The one-shot run is one round from a fresh state. -/
theorem oneShot_eq_iteration (once : Int) (fresh : Vector UInt8 96) :
    oneShot host fd bus target expectedBs once fresh =
      pollIteration host fd bus target once expectedBs ⟨fresh, 0⟩ :=
  Traced.iterate_one _ _

/-- A buffer that was cleared before the command holds what was written and zeros. -/
theorem received_of_cleared (cdb : List UInt8) (cdblen len dir : Int) {n : Nat}
    (buffer : Buffer n) (reply : DriverReply) {i : Nat}
    (inside :
      i < (sentCommand fd bus target cdb cdblen buffer.clear len dir reply).received.length) :
    (sentCommand fd bus target cdb cdblen buffer.clear len dir reply).received.getD i 0 =
      reply.written.getD i 0 := by
  rw [List.getD_eq_getElem _ _ inside]
  simp [Command.received, sentCommand, Buffer.clear]

/-- Bytes that a command did not transfer are what the reply holds there. -/
theorem unwritten_of_mem {command : Command}
    (member : command ∈ commands
      ((pollLoop host fd bus target interval expectedBs rounds ⟨sense, 0⟩).events driver))
    {i : Nat} (inside : i < command.received.length) :
    command.received.getD i 0 = command.reply.written.getD i 0 := by
  obtain ⟨event, recorded, named⟩ := List.mem_filterMap.mp member
  obtain ⟨last, head, _, reached, present⟩ := Traced.iterate_mem_events _ recorded
  obtain ⟨attempts, issued, answered, _⟩ := pollIteration_round host fd bus target interval
    expectedBs head ((pollLoop host fd bus target interval expectedBs last ⟨sense, 0⟩).world driver)
  have sent : command ∈ commands ((pollIteration host fd bus target interval expectedBs head).events
      ((pollLoop host fd bus target interval expectedBs last ⟨sense, 0⟩).world driver)) :=
    List.mem_filterMap.mpr ⟨event, present, named⟩
  rw [issued, answered, List.mem_cons, List.mem_map] at sent
  rcases sent with rfl | ⟨reply, _, rfl⟩
  · exact received_of_cleared fd bus target _ _ _ _ _ _ inside
  · exact received_of_cleared fd bus target _ _ _ _ _ _ inside

variable (rounds driver)

/-- **Polling refines the one-shot check.** -/
theorem pollLoop_refines (polling : 0 < interval) :
    PollRefines host fd bus target interval expectedBs sense rounds driver where
  last := by
    intro status exited
    obtain ⟨round, head, below, reached, returned, cut⟩ := Traced.iterate_exit _ exited
    rw [← pollLoop] at reached
    refine ⟨round, below, cut, fun once single fresh rest => ?_⟩
    have alone :=
      pollIteration_on_outcomes host fd bus target interval expectedBs sense reached rest
    have final : (pollLoop host fd bus target interval expectedBs (round + 1) ⟨sense, 0⟩).value
        driver = .inr status := (congrArg TracedResult.value cut).symm.trans exited
    rw [final] at alone
    rw [oneShot_eq_iteration]
    exact oneShot_of_exit host fd bus target expectedBs head _ polling single _ alone
  earlier := by
    rintro round next continued once single fresh rest outcomes rfl
    obtain ⟨head, reached⟩ := Traced.iterate_head_of_le _ continued (Nat.le_succ round)
    have alone :=
      pollIteration_on_outcomes host fd bus target interval expectedBs sense reached rest
    rw [continued] at alone
    rw [oneShot_eq_iteration]
    exact oneShot_of_continue host fd bus target expectedBs head _ single _ alone
  confirmed := by
    intro exited
    obtain ⟨_, _, _, _, _, _, _, round⟩ :=
      pollLoop_exit_round host fd bus target interval expectedBs sense exited
    have once := round.of_three.2.1
    omega
  history := by
    intro head otherSense otherDriver otherRounds otherHead reached otherReached same more rest
    have watching := watching_head host fd bus target interval expectedBs sense reached
    have other := watching_head host fd bus target interval expectedBs otherSense otherReached
    rw [watching.polls_eq, other.polls_eq] at same
    have counted : head.softErrors = otherHead.softErrors := by
      rw [watching.counted, other.counted, same]
    rw [pollLoop, pollLoop, Traced.iterate, Traced.iterate,
      pollIteration_congr host fd bus target interval expectedBs head counted]
  unwritten := fun _ member _ inside =>
    unwritten_of_mem host fd bus target interval expectedBs sense member inside

/-- A polling run against a driver that never answers. -/
theorem pollLoop_refines_silent :
    PollRefines Host.sample 4 0 8 60 512 (Vector.replicate 96 0) 5
      (Stream'.const ⟨0, some 0, [], ""⟩) :=
  pollLoop_refines Host.sample 4 0 8 60 512 _ 5 _ (by decide)

end Run

end Megaraid
