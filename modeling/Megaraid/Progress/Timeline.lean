import Megaraid.Foundation.Watchdog
import Megaraid.Progress.OneShot
import Megaraid.Progress.Program

/-!
# The timeline of a watch

With an interval, `mega_progress` is a watchdog on the answers of the drive: one
REQUEST SENSE, one pause, and so on, until an answer is idle or five in a row
failed. What it sends and how long it waits at every point is determined by where
the answers end the watch, and so is whether it ever returns.
-/

namespace Megaraid

open Watchdog

/-! ### The pauses of a round -/

section Rests

variable (host : Host) (fd bus target interval : Int) (expectedBs : UInt32)

/-- A command does not pause. -/
@[simp] theorem sendCmd_sleeps (cdb : List UInt8) (cdblen : Int) {n : Nat} (data : Buffer n)
    (len dir : Int) (name : Option String) (driver : Stream' DriverReply) :
    sleeps ((sendCmd fd bus target cdb cdblen data len dir name).events driver) = [] := by
  by_cases failed : driver.head.result < 0 <;> cases name <;> simp [sendCmd, failed]

/-- READ CAPACITY does not pause. -/
theorem readCapacity10_sleeps (out : CapacityOut) (driver : Stream' DriverReply) :
    sleeps ((readCapacity10 host fd bus target out).events driver) = [] := by
  simp [readCapacity10]

/-- A failed attempt is followed by a pause of one second and the next attempt. -/
theorem readCapacityRetries_succ_sleeps (left : Nat) (out : CapacityOut)
    (driver : Stream' DriverReply) :
    sleeps ((readCapacityRetries host fd bus target (left + 1) out).events driver) =
      let result := (readCapacity10 host fd bus target out).value driver
      if result.1 = 0 then []
      else (if 0 < left then [1] else []) ++
        sleeps ((readCapacityRetries host fd bus target left result.2).events driver.tail) := by
  simp only [readCapacityRetries, Traced.events_bind, sleeps_append, readCapacity10_sleeps,
    readCapacity10_world, List.nil_append]
  generalize (readCapacity10 host fd bus target out).value driver = result
  by_cases succeeded : result.1 = 0
  · simp [succeeded]
  · simp [succeeded, apply_ite sleeps, apply_ite (Traced.world · driver.tail)]

/-- There is a second between one attempt and the next, and none after the last. -/
theorem readCapacityRetries_sleeps (left : Nat) (out : CapacityOut)
    (driver : Stream' DriverReply) :
    sleeps ((readCapacityRetries host fd bus target left out).events driver) =
      List.replicate ((commands
        ((readCapacityRetries host fd bus target left out).events driver)).length - 1) 1 := by
  induction left generalizing out driver with
  | zero => rfl
  | succ left ih =>
      rw [readCapacityRetries_succ_sleeps, readCapacityRetries_succ_commands]
      generalize (readCapacity10 host fd bus target out).value driver = result
      by_cases succeeded : result.1 = 0
      · simp only [if_pos succeeded]
        rfl
      · simp only [if_neg succeeded, ih]
        cases left with
        | zero => rfl
        | succ left =>
            rw [if_pos (Nat.succ_pos left), readCapacityRetries_succ_commands]
            rfl

/-- A failed poll pauses for the interval unless the loop ends. -/
theorem failedPoll_sleeps (state : PollState) (driver : Stream' DriverReply) :
    sleeps ((failedPoll fd interval state).events driver) =
      Sum.elim (fun _ => [interval]) (fun _ => [])
        ((failedPoll fd interval state).value driver) := by
  unfold failedPoll
  by_cases few : interval > 0 ∧ state.softErrors + 1 < maxSoftErrors
  · simp [few]
  · simp [few]

/-- A busy poll pauses for the interval unless the loop ends. -/
theorem busyPoll_sleeps (state : PollState) (driver : Stream' DriverReply) :
    sleeps ((busyPoll fd interval state).events driver) =
      Sum.elim (fun _ => [interval]) (fun _ => []) ((busyPoll fd interval state).value driver) := by
  unfold busyPoll
  by_cases once : interval ≤ 0
  · simp [once]
  · simp [once]

/-- An idle poll pauses one second between its attempts. -/
theorem idlePoll_sleeps (out : SenseOut) (driver : Stream' DriverReply) :
    sleeps ((idlePoll host fd bus target expectedBs out).events driver) =
      List.replicate ((commands
        ((idlePoll host fd bus target expectedBs out).events driver)).length - 1) 1 := by
  rw [idlePoll_commands, ← readCapacityRetries_sleeps]
  simp [idlePoll, (quiet_reportReady ..).sleeps, apply_ite sleeps]

/-- How long a round pauses: the interval before the next one, or a second between
the attempts that end it. -/
theorem answeredPoll_sleeps (rc : Int) (state : PollState) (driver : Stream' DriverReply) :
    let round := answeredPoll host fd bus target interval expectedBs rc state
    sleeps (round.events driver) =
      Sum.elim (fun _ => [interval])
        (fun _ => List.replicate ((commands (round.events driver)).length - 1) 1)
        (round.value driver) := by
  intro round
  cases told : verdictOf rc state.sense.toList with
  | failed =>
      have silent := (answeredPoll_failed host fd bus target interval expectedBs state driver rc
        told).1
      have refused := (verdictOf_eq_failed_iff rc state.sense.toList).mp told
      have pauses := failedPoll_sleeps fd interval state driver
      simp only [round, silent]
      simp only [answeredPoll, if_pos refused]
      simpa [apply_ite sleeps] using pauses
  | busy =>
      have silent := (answeredPoll_busy host fd bus target interval expectedBs state driver rc
        told).1
      obtain ⟨accepted, running⟩ := (verdictOf_eq_busy_iff rc state.sense.toList).mp told
      have printed := quiet_printState (decodeSense state.sense.toList).2
      have pauses := busyPoll_sleeps fd interval { state with softErrors := 0 } driver
      simp only [round, silent]
      simp only [answeredPoll, if_neg accepted, if_pos running]
      simpa [printed.sleeps, printed.world] using pauses
  | idle =>
      obtain ⟨asked, value⟩ := answeredPoll_idle host fd bus target interval expectedBs state driver
        rc told
      obtain ⟨accepted, done⟩ := (verdictOf_eq_idle_iff rc state.sense.toList).mp told
      have printed := quiet_printState (decodeSense state.sense.toList).2
      have pauses := idlePoll_sleeps host fd bus target expectedBs
        (decodeSense state.sense.toList).2 driver
      simp only [round, asked, value, Sum.elim_inr, ← pauses]
      simp only [answeredPoll, if_neg accepted, if_neg (not_not.mpr done)]
      simp [printed.sleeps, printed.world]

/-- A round pauses as its outcome has it. -/
theorem pollIteration_sleeps (state : PollState) (driver : Stream' DriverReply) :
    let round := pollIteration host fd bus target interval expectedBs state
    sleeps (round.events driver) =
      Sum.elim (fun _ => [interval])
        (fun _ => List.replicate ((commands (round.events driver)).length - 2) 1)
        (round.value driver) := by
  intro round
  have sent := sendCmd_value fd bus target requestSenseCdb 6
    (Buffer.clear ⟨host.addressOf .sense, state.sense⟩) 96 mfiFrameDirRead none driver
  simp only [round, pollIteration, Traced.events_bind, sleeps_append, sendCmd_sleeps, sent,
    sendCmd_world, List.nil_append, commands_append, sendCmd_commands, Traced.value_bind,
    List.length_append, List.length_singleton]
  rw [answeredPoll_sleeps]
  have fewer : ∀ n : Nat, 1 + n - 2 = n - 1 := fun n => by omega
  rw [fewer]

end Rests

/-! ### The watchdog -/

section Watchdog

variable (host : Host) (fd bus target interval : Int) (expectedBs : UInt32)
  (sense : Vector UInt8 96) (driver : Stream' DriverReply)

/-- The driver's answer makes a REQUEST SENSE a failed poll. -/
def FailsPoll (reply : DriverReply) : Prop :=
  (requestSense host fd bus target reply).verdict = .failed

/-- It makes it an idle one. -/
def IdlesPoll (reply : DriverReply) : Prop :=
  (requestSense host fd bus target reply).verdict = .idle

instance (reply : DriverReply) : Decidable (FailsPoll host fd bus target reply) :=
  inferInstanceAs (Decidable (_ = _))

/-- The counter of failed polls before the `n`-th. -/
def failuresBefore (n : Nat) : Nat := streak (FailsPoll host fd bus target) driver.get n

/-- A watch ends with the `n`-th poll, counted from 0: it is idle, or it failed like the
four before it. -/
def EndsAt (n : Nat) : Prop :=
  StopsAt (FailsPoll host fd bus target) (IdlesPoll host fd bus target) 5 driver.get n

/-- It ends with this poll and with none before. -/
def FirstEndsAt (n : Nat) : Prop :=
  FirstStop (FailsPoll host fd bus target) (IdlesPoll host fd bus target) 5 driver.get n

/-- What the counter says about it. -/
theorem endsAt_iff {n : Nat} : EndsAt host fd bus target driver n ↔
    IdlesPoll host fd bus target (driver.get n) ∨ FailsPoll host fd bus target (driver.get n) ∧
      5 ≤ failuresBefore host fd bus target driver n + 1 :=
  stopsAt_iff (by decide)

/-- A round takes one reply of the driver for each command. -/
theorem pollIteration_world (state : PollState) :
    (pollIteration host fd bus target interval expectedBs state).world driver =
      driver.drop (commands
        ((pollIteration host fd bus target interval expectedBs state).events driver)).length := by
  have taken := (pollIteration_replayable host fd bus target interval expectedBs state).taken driver
  rw [Traced.answers, filterMap_reply?] at taken
  generalize (pollIteration host fd bus target interval expectedBs state).world driver = world
    at taken ⊢
  generalize commands
    ((pollIteration host fd bus target interval expectedBs state).events driver) = sent at taken ⊢
  rw [← taken, ← List.length_map Command.reply]
  exact (Stream'.drop_append_stream _ _).symm

/-- What the loop has done when it is still going after a number of rounds. -/
structure StillGoing (rounds : Nat) (head : PollState) : Prop where
  value : (pollLoop host fd bus target interval expectedBs rounds ⟨sense, 0⟩).value driver =
    .inl head
  counted : head.softErrors = failuresBefore host fd bus target driver rounds
  sent : commands ((pollLoop host fd bus target interval expectedBs rounds ⟨sense, 0⟩).events
    driver) = (driver.take rounds).map (requestSense host fd bus target)
  rested : sleeps ((pollLoop host fd bus target interval expectedBs rounds ⟨sense, 0⟩).events
    driver) = List.replicate rounds interval
  world : (pollLoop host fd bus target interval expectedBs rounds ⟨sense, 0⟩).world driver =
    driver.drop rounds

variable {interval}

/-- A round that does not end the watch sends its poll and goes on to the next. -/
theorem pollIteration_goesOn {rounds : Nat} {head : PollState} (polling : 0 < interval)
    (counted : head.softErrors = failuresBefore host fd bus target driver rounds)
    (goesOn : ¬EndsAt host fd bus target driver rounds) :
    let round := pollIteration host fd bus target interval expectedBs head
    ∃ next, round.value (driver.drop rounds) = .inl next ∧
      next.softErrors = failuresBefore host fd bus target driver (rounds + 1) ∧
      commands (round.events (driver.drop rounds)) =
        [requestSense host fd bus target (driver.get rounds)] := by
  intro round
  obtain ⟨attempts, issued, _, went⟩ := pollIteration_round host fd bus target interval expectedBs
    head (driver.drop rounds)
  rw [Stream'.head_drop] at issued went
  have step : failuresBefore host fd bus target driver (rounds + 1) =
      if FailsPoll host fd bus target (driver.get rounds) then
        failuresBefore host fd bus target driver rounds + 1 else 0 := rfl
  rw [step]
  cases told : (requestSense host fd bus target (driver.get rounds)).verdict with
  | failed =>
      have few : ¬5 ≤ failuresBefore host fd bus target driver rounds + 1 :=
        fun many => goesOn ((endsAt_iff ..).mpr (Or.inr ⟨told, many⟩))
      obtain ⟨none, retried⟩ := went.of_failed told
      have again : 0 < interval ∧ head.softErrors + 1 < maxSoftErrors := by
        rw [counted, maxSoftErrors]
        omega
      rw [if_pos again] at retried
      obtain ⟨next, continued, more⟩ := retried
      rw [none] at issued
      refine ⟨next, continued, ?_, issued⟩
      have fails : FailsPoll host fd bus target (driver.get rounds) := told
      rw [more, counted, if_pos fails]
      rfl
  | busy =>
      obtain ⟨none, again⟩ := went.of_busy told
      rw [if_neg (not_le.mpr polling)] at again
      obtain ⟨next, continued, reset⟩ := again
      rw [none] at issued
      have answered : ¬FailsPoll host fd bus target (driver.get rounds) := by
        rw [FailsPoll, told]
        exact Verdict.noConfusion
      refine ⟨next, continued, ?_, issued⟩
      rw [reset, if_neg answered]
      rfl
  | idle => exact absurd ((endsAt_iff ..).mpr (Or.inl told)) goesOn

/-- A watch that does not end in a round is still going after it. -/
theorem StillGoing.round {rounds : Nat} {head : PollState} (polling : 0 < interval)
    (going : StillGoing host fd bus target interval expectedBs sense driver rounds head)
    (goesOn : ¬EndsAt host fd bus target driver rounds) :
    ∃ next, StillGoing host fd bus target interval expectedBs sense driver (rounds + 1) next := by
  obtain ⟨next, continued, counted, issued⟩ := pollIteration_goesOn host fd bus target expectedBs
    driver polling going.counted goesOn
  have rests := pollIteration_sleeps host fd bus target interval expectedBs head
    (driver.drop rounds)
  have after := pollIteration_world host fd bus target interval expectedBs (driver.drop rounds) head
  have at_ := going.world
  rw [pollLoop] at at_
  refine ⟨next, ⟨?_, counted, ?_, ?_, ?_⟩⟩
  · rw [pollLoop, Traced.iterate_succ_value _ going.value, at_, continued]
  · rw [pollLoop, Traced.iterate_succ_events _ going.value, at_, commands_append, issued,
      ← pollLoop, going.sent, Stream'.take_succ', List.map_append]
    rfl
  · rw [pollLoop, Traced.iterate_succ_events _ going.value, at_, sleeps_append, rests, continued,
      ← pollLoop, going.rested, List.replicate_succ']
    rfl
  · rw [pollLoop, Traced.iterate_succ_world _ going.value, at_, after, issued, Stream'.drop_drop]
    rfl

/-- As long as no answer ends the watch, it goes on, and all it did is to poll and to wait. -/
theorem exists_stillGoing {rounds : Nat} (polling : 0 < interval)
    (goesOn : ∀ n < rounds, ¬EndsAt host fd bus target driver n) :
    ∃ head, StillGoing host fd bus target interval expectedBs sense driver rounds head := by
  induction rounds with
  | zero => exact ⟨⟨sense, 0⟩, ⟨rfl, rfl, rfl, rfl, rfl⟩⟩
  | succ rounds ih =>
      obtain ⟨head, going⟩ := ih fun n earlier => goesOn n (Nat.lt_succ_of_lt earlier)
      exact going.round host fd bus target expectedBs sense driver polling
        (goesOn rounds (Nat.lt_succ_self rounds))

/-- What the last poll of a watch and the READ CAPACITY attempts after it amount to. -/
inductive Concludes (expectedBs : UInt32) (poll : Command) : List Command → Int → Prop where
  | abandoned (failed : poll.verdict = .failed) : Concludes expectedBs poll [] 1
  | noCapacity (attempts : List Command) (idle : poll.verdict = .idle)
      (all : attempts.length = readCapTries)
      (failed : ∀ attempt ∈ attempts, ¬attempt.ReportsCapacity) :
      Concludes expectedBs poll attempts 1
  | ready (failures : List Command) (last : Command) (idle : poll.verdict = .idle)
      (few : failures.length < readCapTries)
      (failed : ∀ attempt ∈ failures, ¬attempt.ReportsCapacity) (reports : last.ReportsCapacity) :
      Concludes expectedBs poll (failures ++ [last])
        (if last.blockSize = expectedBs.toNat then 0 else 2)

/-- A round that ends the watch sends its poll and concludes. -/
theorem pollIteration_ends {n : Nat} {head : PollState}
    (counted : head.softErrors = failuresBefore host fd bus target driver n)
    (ends : EndsAt host fd bus target driver n) :
    let round := pollIteration host fd bus target interval expectedBs head
    ∃ status attempts, round.value (driver.drop n) = .inr status ∧
      commands (round.events (driver.drop n)) =
        requestSense host fd bus target (driver.get n) :: attempts ∧
      attempts = ((driver.drop (n + 1)).take attempts.length).map
        (readCapacity host fd bus target) ∧
      Concludes expectedBs (requestSense host fd bus target (driver.get n)) attempts status := by
  intro round
  obtain ⟨attempts, issued, answers, went⟩ := pollIteration_round host fd bus target interval
    expectedBs head (driver.drop n)
  rw [Stream'.head_drop] at issued went
  rw [Stream'.tail_drop'] at answers
  rcases (endsAt_iff ..).mp ends with idle | ⟨failed, many⟩
  · rcases went.of_idle idle with ⟨returned, all, refused⟩ | ready
    · exact ⟨1, attempts, returned, issued, answers, .noCapacity attempts idle all refused⟩
    · obtain ⟨failures, last, rfl, few, refused, reports, returned⟩ := ready
      exact ⟨_, _, returned, issued, answers, .ready failures last idle few refused reports⟩
  · obtain ⟨none, returned⟩ := went.of_failed failed
    have fifth : ¬(0 < interval ∧ head.softErrors + 1 < maxSoftErrors) := by
      rw [counted, maxSoftErrors]
      omega
    rw [if_neg fifth] at returned
    rw [none] at issued answers
    exact ⟨1, [], returned, issued, answers, .abandoned failed⟩

variable (interval) in
/-- What the loop has done when the `n`-th poll was the one that ended the watch. -/
structure Ended (rounds n : Nat) (attempts : List Command) (status : Int) : Prop where
  value : (pollLoop host fd bus target interval expectedBs rounds ⟨sense, 0⟩).value driver =
    .inr status
  sent : commands ((pollLoop host fd bus target interval expectedBs rounds ⟨sense, 0⟩).events
    driver) = (driver.take (n + 1)).map (requestSense host fd bus target) ++ attempts
  answered : attempts = ((driver.drop (n + 1)).take attempts.length).map
    (readCapacity host fd bus target)
  rested : sleeps ((pollLoop host fd bus target interval expectedBs rounds ⟨sense, 0⟩).events
    driver) = List.replicate n interval ++ List.replicate (attempts.length - 1) 1
  concluded : Concludes expectedBs (requestSense host fd bus target (driver.get n)) attempts status

/-- The first answer that ends the watch ends it, however many rounds are allowed. -/
theorem exists_ended {n : Nat} (polling : 0 < interval)
    (first : FirstEndsAt host fd bus target driver n) :
    ∃ attempts status, ∀ rounds > n,
      Ended host fd bus target interval expectedBs sense driver rounds n attempts status := by
  obtain ⟨head, going⟩ := exists_stillGoing host fd bus target expectedBs sense driver polling
    first.2
  obtain ⟨status, attempts, returned, issued, answered, concluded⟩ := pollIteration_ends host fd bus
    target expectedBs driver going.counted first.1
  have rests := pollIteration_sleeps host fd bus target interval expectedBs head (driver.drop n)
  have at_ := going.world
  rw [pollLoop] at at_
  have value : (pollLoop host fd bus target interval expectedBs (n + 1) ⟨sense, 0⟩).value driver =
      .inr status := by
    rw [pollLoop, Traced.iterate_succ_value _ going.value, at_, returned]
  refine ⟨attempts, status, fun rounds enough => ?_⟩
  have whole := Traced.iterate_of_exit _ value enough
  refine ⟨?_, ?_, answered, ?_, concluded⟩
  · rw [pollLoop, Traced.value, whole]
    exact value
  · rw [pollLoop, Traced.events, whole, ← Traced.events, Traced.iterate_succ_events _ going.value,
      at_, commands_append, issued, ← pollLoop, going.sent, Stream'.take_succ', List.map_append,
      List.append_assoc]
    rfl
  · rw [pollLoop, Traced.events, whole, ← Traced.events, Traced.iterate_succ_events _ going.value,
      at_, sleeps_append, rests, returned, issued, ← pollLoop, going.rested]
    rfl

variable {driver} in
/-- No poll below a number of rounds ends the watch unless a first one does. -/
theorem not_endsAt_of_first {rounds : Nat}
    (none : ∀ n < rounds, ¬FirstEndsAt host fd bus target driver n) :
    ∀ n < rounds, ¬EndsAt host fd bus target driver n := by
  intro n below ends
  obtain ⟨m, earlier, first⟩ := exists_firstStop ends
  exact none m (Nat.lt_of_le_of_lt earlier below) first

/-- The loop returns if some answer ends the watch, and not otherwise. -/
theorem pollLoop_returns_iff (polling : 0 < interval) :
    (∃ rounds status,
      (pollLoop host fd bus target interval expectedBs rounds ⟨sense, 0⟩).value driver =
        .inr status) ↔ ∃ n, FirstEndsAt host fd bus target driver n := by
  constructor
  · intro ⟨rounds, status, returned⟩
    by_contra never
    obtain ⟨head, going⟩ := exists_stillGoing host fd bus target expectedBs sense driver polling
      (not_endsAt_of_first host fd bus target fun n (_ : n < rounds) first =>
        never ⟨n, first⟩)
    rw [going.value] at returned
    cases returned
  · intro ⟨n, first⟩
    obtain ⟨_, status, ended⟩ := exists_ended host fd bus target expectedBs sense driver polling
      first
    exact ⟨n + 1, status, (ended (n + 1) (Nat.lt_succ_self n)).value⟩

end Watchdog

/-! ### The program -/

section Program

variable (host : Host) (long : LongWidth) (argv : List String) (driver : Stream' DriverReply)

/-- The way to the drive takes no time. -/
theorem megaProgress_sleeps (rounds : Nat) (ready : ReadyToWatch host long argv) :
    sleeps ((megaProgress host long rounds argv).events driver) =
      sleeps ((watchOf host long argv rounds).events driver) := by
  obtain ⟨named, expected, reached⟩ := ready
  have toTarget := quiet_requireTarget long argv quiet_progressUsage
  have toRequest := quiet_progressRequest long argv (targetOf long argv)
  have toDrive := quiet_openController host (argv.getD 1 "") "open dev" "open megaraid"
  rw [megaProgress, Traced.events_bind, sleeps_append, toTarget.sleeps, requireTarget_value,
    if_pos named, toTarget.world, Traced.events_bind, sleeps_append, toRequest.sleeps,
    progressRequest_value, if_pos expected, toRequest.world]
  simp only [watchDrive, requestOf, Traced.events_bind, sleeps_append, toDrive.sleeps,
    openController_value, if_pos reached, toDrive.world, Traced.events_map, List.nil_append]
  rfl

/-- The REQUEST SENSE of the watch, with the driver's answer. -/
def pollOf (reply : DriverReply) : Command :=
  requestSense host host.node (busOf host argv) (targetOf long argv) reply

/-- The READ CAPACITY at the end of the watch, with the driver's answer. -/
def attemptOf (reply : DriverReply) : Command :=
  readCapacity host host.node (busOf host argv) (targetOf long argv) reply

/-- The `n`-th poll is the one that ends the watch. -/
def WatchEndsAt (n : Nat) : Prop :=
  FirstEndsAt host host.node (busOf host argv) (targetOf long argv) driver n

/-- What `mega_progress` has sent, waited and returned after any number of rounds. -/
structure Timeline : Prop where
  /-- Until an answer ends the watch there is one poll and one pause a round. -/
  watching : ∀ rounds, (∀ n < rounds, ¬WatchEndsAt host long argv driver n) →
    (megaProgress host long rounds argv).value driver = none ∧
      commands ((megaProgress host long rounds argv).events driver) =
        (driver.take rounds).map (pollOf host long argv) ∧
      sleeps ((megaProgress host long rounds argv).events driver) =
        List.replicate rounds (intervalOf long argv)
  /-- The answer that does is followed by the attempts to read the capacity and by nothing else. -/
  ended : ∀ n, WatchEndsAt host long argv driver n → ∃ attempts status,
    attempts = ((driver.drop (n + 1)).take attempts.length).map (attemptOf host long argv) ∧
    Concludes (expectedOf argv) (pollOf host long argv (driver.get n)) attempts status ∧
    ∀ rounds > n, (megaProgress host long rounds argv).value driver = some status ∧
      commands ((megaProgress host long rounds argv).events driver) =
        (driver.take (n + 1)).map (pollOf host long argv) ++ attempts ∧
      sleeps ((megaProgress host long rounds argv).events driver) =
        List.replicate n (intervalOf long argv) ++ List.replicate (attempts.length - 1) 1
  /-- Some number of rounds is enough if some answer ends the watch, and none otherwise. -/
  returns : (∃ rounds status, (megaProgress host long rounds argv).value driver = some status) ↔
    ∃ n, WatchEndsAt host long argv driver n

section Ready

variable {host long argv} (rounds : Nat) (ready : ReadyToWatch host long argv)
include ready

/-- Before the watch `mega_progress` sends nothing. -/
theorem megaProgress_sends :
    commands ((megaProgress host long rounds argv).events driver) =
      commands ((watchOf host long argv rounds).events driver) := by
  obtain ⟨front, silent, events, _⟩ :=
    (megaProgress_starts host long argv rounds).started ready driver
  rw [events, commands_append, silent, Traced.events_map]
  rfl

/-- `mega_progress` returns the status of the watch. -/
theorem megaProgress_returns :
    (megaProgress host long rounds argv).value driver =
      Sum.getRight? ((watchOf host long argv rounds).value driver) := by
  obtain ⟨_, _, _, returned⟩ := (megaProgress_starts host long argv rounds).started ready driver
  exact returned

/-- **The timeline of a watch.** -/
theorem megaProgress_timeline (polling : 0 < intervalOf long argv) :
    Timeline host long argv driver where
  watching := by
    intro rounds none
    obtain ⟨head, going⟩ := exists_stillGoing host host.node (busOf host argv) (targetOf long argv)
      (expectedOf argv) (host.array .sense 96).bytes driver polling
      (not_endsAt_of_first _ _ _ _ none)
    rw [megaProgress_returns driver rounds ready, megaProgress_sends driver rounds ready,
      megaProgress_sleeps host long argv driver rounds ready, watchOf, going.value]
    exact ⟨rfl, going.sent, going.rested⟩
  ended := by
    intro n first
    obtain ⟨attempts, status, ended⟩ := exists_ended host host.node (busOf host argv)
      (targetOf long argv) (expectedOf argv) (host.array .sense 96).bytes driver polling first
    have now := ended (n + 1) (Nat.lt_succ_self n)
    refine ⟨attempts, status, now.answered, now.concluded, fun rounds enough => ?_⟩
    have then_ := ended rounds enough
    rw [megaProgress_returns driver rounds ready, megaProgress_sends driver rounds ready,
      megaProgress_sleeps host long argv driver rounds ready, watchOf, then_.value]
    exact ⟨rfl, then_.sent, then_.rested⟩
  returns := by
    apply Iff.trans _ (pollLoop_returns_iff host host.node (busOf host argv) (targetOf long argv)
      (expectedOf argv) (host.array .sense 96).bytes driver polling)
    apply exists_congr
    intro rounds
    apply exists_congr
    intro status
    rw [megaProgress_returns driver rounds ready, Sum.getRight?_eq_some_iff]
    rfl

end Ready

/-- A watch every minute on a drive that never returns sense data. -/
theorem megaProgress_timeline_mute :
    Timeline Host.sample .lp64 ["./mega_progress", "/dev/sda", "8", "60"]
      (Stream'.const ⟨0, some 0, [], ""⟩) :=
  megaProgress_timeline _ ⟨by decide, by decide, by decide⟩ (by decide)

end Program

end Megaraid
