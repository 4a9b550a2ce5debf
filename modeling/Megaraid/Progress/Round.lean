import Megaraid.Foundation.Replay
import Megaraid.Progress.Poll

/-!
# One round of the poll loop

What a round of the loop does, read off the commands it issues: the verdict of
its REQUEST SENSE and, when nothing is in progress, the READ CAPACITY attempts
that follow. `PollRound` lists the six ways a round can go, and
`pollIteration_round` says that there is no other.
-/

namespace Megaraid

/-- What the answer to one REQUEST SENSE amounts to. -/
inductive Verdict where
  | failed
  | busy
  | idle
  deriving DecidableEq, Repr

/-- The verdict on the result of a REQUEST SENSE and the bytes it brought. -/
def verdictOf (rc : Int) (sense : List UInt8) : Verdict :=
  if rc ≠ 0 ∨ (decodeSense sense).1 < 0 then .failed
  else if (decodeSense sense).2.state ≠ .idle then .busy
  else .idle

section Verdict

variable (rc : Int) (sense : List UInt8)

/-- A poll failed by its status or its sense data. -/
theorem verdictOf_eq_failed_iff :
    verdictOf rc sense = .failed ↔ rc ≠ 0 ∨ (decodeSense sense).1 < 0 := by
  unfold verdictOf
  split_ifs <;> simp_all

/-- A poll is busy if its data are decoded to another state than IDLE. -/
theorem verdictOf_eq_busy_iff : verdictOf rc sense = .busy ↔
    ¬(rc ≠ 0 ∨ (decodeSense sense).1 < 0) ∧ (decodeSense sense).2.state ≠ .idle := by
  unfold verdictOf
  split_ifs <;> simp_all

/-- A poll is idle if its data are decoded to IDLE. -/
theorem verdictOf_eq_idle_iff : verdictOf rc sense = .idle ↔
    ¬(rc ≠ 0 ∨ (decodeSense sense).1 < 0) ∧ (decodeSense sense).2.state = .idle := by
  unfold verdictOf
  split_ifs <;> simp_all

end Verdict

namespace Command

def IsRequestSense (command : Command) : Prop := command.opcode = 0x03

def IsReadCapacity (command : Command) : Prop := command.opcode = 0x25

instance (command : Command) : Decidable command.IsRequestSense :=
  inferInstanceAs (Decidable (_ = _))

instance (command : Command) : Decidable command.IsReadCapacity :=
  inferInstanceAs (Decidable (_ = _))

/-- `parse_sense` on the buffer after the call. -/
def decoded (command : Command) : Int × SenseOut := decodeSense command.received

def verdict (command : Command) : Verdict := verdictOf command.status command.received

/-- The block size in the capacity data, big-endian. -/
def blockSize (command : Command) : Nat :=
  bigEndian [command.received.getD 4 0, command.received.getD 5 0, command.received.getD 6 0,
    command.received.getD 7 0]

/-- The address of the last block in the capacity data, big-endian. -/
def lastLba (command : Command) : Nat :=
  bigEndian [command.received.getD 0 0, command.received.getD 1 0, command.received.getD 2 0,
    command.received.getD 3 0]

/-- The command succeeded and brought a block size. -/
def ReportsCapacity (command : Command) : Prop := command.status = 0 ∧ command.blockSize ≠ 0

instance (command : Command) : Decidable command.ReportsCapacity :=
  inferInstanceAs (Decidable (_ ∧ _))

end Command

/-- The REQUEST SENSE of the poll loop, with the driver's answer. -/
def requestSense (host : Host) (fd bus target : Int) (reply : DriverReply) : Command :=
  sentCommand fd bus target requestSenseCdb 6 (host.array .sense 96).clear 96 mfiFrameDirRead reply

/-- The READ CAPACITY of the poll loop, with the driver's answer. -/
def readCapacity (host : Host) (fd bus target : Int) (reply : DriverReply) : Command :=
  sentCommand fd bus target readCapacityCdb 10 (host.array .cap 8).clear 8 mfiFrameDirRead reply

variable (host : Host) (fd bus target interval : Int) (expectedBs : UInt32)

/-- What a poll sends is REQUEST SENSE. -/
theorem isRequestSense_requestSense (reply : DriverReply) :
    (requestSense host fd bus target reply).IsRequestSense := by
  rw [Command.IsRequestSense, requestSense, sentCommand_opcode _ _ _ _ _ _ _ _ _ (by decide)]
  rfl

/-- What an attempt sends is READ CAPACITY. -/
theorem isReadCapacity_readCapacity (reply : DriverReply) :
    (readCapacity host fd bus target reply).IsReadCapacity := by
  rw [Command.IsReadCapacity, readCapacity, sentCommand_opcode _ _ _ _ _ _ _ _ _ (by decide)]
  rfl

/-- REQUEST SENSE is no READ CAPACITY. -/
theorem Command.IsRequestSense.not_readCapacity {command : Command}
    (sense : command.IsRequestSense) : ¬command.IsReadCapacity := by
  intro capacity
  rw [IsReadCapacity, show command.opcode = 0x03 from sense] at capacity
  exact absurd capacity (by decide)

/-! ### The READ CAPACITY attempts -/

/-- Four bytes are put together big endian. -/
theorem toNat_assemble (a b c d : UInt8) : (assemble a b c d).toNat = bigEndian [a, b, c, d] :=
  toNat_assemble_uint32 a b c d

/-- The capacity data of an attempt as `read_capacity10` assembles it. -/
theorem capacityOf_readCapacity (reply : DriverReply) :
    let cap := capacityOf (transfer (host.array .cap 8).clear.bytes (reply.written.take 8))
    cap.lastLba.toNat = (readCapacity host fd bus target reply).lastLba ∧
      cap.blockSize.toNat = (readCapacity host fd bus target reply).blockSize := by
  have received : (readCapacity host fd bus target reply).received =
      (transfer (host.array .cap 8).clear.bytes (reply.written.take 8)).toList :=
    received_sentCommand fd bus target _ _ _ _ _ reply (by decide)
  simp only [Command.lastLba, Command.blockSize, received, capacityOf, toNat_assemble]
  constructor <;> simp

/-- READ CAPACITY is one command. -/
theorem readCapacity10_commands (out : CapacityOut) (driver : Stream' DriverReply) :
    commands ((readCapacity10 host fd bus target out).events driver) =
      [readCapacity host fd bus target driver.head] := by
  simp [readCapacity10, readCapacity]

/-- READ CAPACITY takes one reply of the driver. -/
theorem readCapacity10_world (out : CapacityOut) (driver : Stream' DriverReply) :
    (readCapacity10 host fd bus target out).world driver = driver.tail := by
  simp [readCapacity10]

/-- An attempt succeeds exactly when its command reports a capacity. -/
theorem readCapacity10_value (out : CapacityOut) (driver : Stream' DriverReply) :
    let attempt := readCapacity host fd bus target driver.head
    let result := (readCapacity10 host fd bus target out).value driver
    (result.1 = 0 ∧ attempt.ReportsCapacity ∧ result.2.lastLba.toNat = attempt.lastLba ∧
      result.2.blockSize.toNat = attempt.blockSize) ∨
    (result.1 = -1 ∧ ¬attempt.ReportsCapacity) := by
  intro attempt result
  obtain ⟨lastLba, blockSize⟩ := capacityOf_readCapacity host fd bus target driver.head
  have zero : ∀ size : UInt32, size = 0 ↔ size.toNat = 0 := fun size =>
    ⟨fun same => by rw [same]; rfl, fun same => UInt32.toNat_inj.mp same⟩
  let cap := capacityOf (transfer (host.array .cap 8).clear.bytes (driver.head.written.take 8))
  have computed : result = if attempt.status ≠ 0 then (-1, out)
      else if attempt.blockSize = 0 then (-1, cap) else (0, cap) := by
    rw [show attempt.blockSize = cap.blockSize.toNat from blockSize.symm]
    simp only [result, readCapacity10, Traced.value_bind, sendCmd_value, Traced.value_ite,
      Traced.value_pure, zero]
    rfl
  rw [computed]
  by_cases failed : attempt.status ≠ 0
  · rw [if_pos failed]
    exact Or.inr ⟨rfl, fun reports => failed reports.1⟩
  · rw [if_neg failed]
    by_cases empty : attempt.blockSize = 0
    · rw [if_pos empty]
      exact Or.inr ⟨rfl, fun reports => reports.2 empty⟩
    · rw [if_neg empty]
      exact Or.inl ⟨rfl, ⟨not_not.mp failed, empty⟩, lastLba, blockSize⟩

/-- How the READ CAPACITY attempts can end: none of them reports a capacity, or
the last one is the first that does. -/
inductive CapacityPhase (tries : Nat) : List Command → Int × CapacityOut → Prop where
  | exhausted (attempts : List Command) (out : CapacityOut) (all : attempts.length = tries)
      (failed : ∀ attempt ∈ attempts, ¬attempt.ReportsCapacity) :
      CapacityPhase tries attempts (-1, out)
  | reported (failures : List Command) (last : Command) (out : CapacityOut)
      (few : failures.length < tries) (failed : ∀ attempt ∈ failures, ¬attempt.ReportsCapacity)
      (reports : last.ReportsCapacity) (lastLba : out.lastLba.toNat = last.lastLba)
      (blockSize : out.blockSize.toNat = last.blockSize) :
      CapacityPhase tries (failures ++ [last]) (0, out)

/-- A failed attempt before a phase is part of the phase. -/
theorem CapacityPhase.cons {tries : Nat} {attempts : List Command} {result : Int × CapacityOut}
    (phase : CapacityPhase tries attempts result) {first : Command}
    (refused : ¬first.ReportsCapacity) : CapacityPhase (tries + 1) (first :: attempts) result := by
  cases phase with
  | exhausted _ out all failed =>
      refine .exhausted _ out (by rw [List.length_cons, all]) ?_
      exact List.forall_mem_cons.mpr ⟨refused, failed⟩
  | reported failures last out few failed reports lastLba blockSize =>
      refine .reported (first :: failures) last out ?_ ?_ reports lastLba blockSize
      · rw [List.length_cons]
        exact Nat.succ_lt_succ few
      · exact List.forall_mem_cons.mpr ⟨refused, failed⟩

section Attempt

variable (left : Nat) (out : CapacityOut) (driver : Stream' DriverReply)

/-- The value of the attempts: that of the first if it succeeds, else that of the rest. -/
theorem readCapacityRetries_succ_value :
    (readCapacityRetries host fd bus target (left + 1) out).value driver =
      let result := (readCapacity10 host fd bus target out).value driver
      if result.1 = 0 then result
      else (readCapacityRetries host fd bus target left result.2).value driver.tail := by
  simp [readCapacityRetries, readCapacity10_world]

/-- The commands of the attempts: the first, and the rest if it fails. -/
theorem readCapacityRetries_succ_commands :
    commands ((readCapacityRetries host fd bus target (left + 1) out).events driver) =
      let result := (readCapacity10 host fd bus target out).value driver
      readCapacity host fd bus target driver.head :: if result.1 = 0 then []
      else commands
        ((readCapacityRetries host fd bus target left result.2).events driver.tail) := by
  simp [readCapacityRetries, readCapacity10_world, readCapacity10_commands, apply_ite commands]

end Attempt

/-- The attempts are READ CAPACITY commands, answered one after another. -/
theorem readCapacityRetries_phase (left : Nat) (out : CapacityOut)
    (driver : Stream' DriverReply) :
    let attempts := commands ((readCapacityRetries host fd bus target left out).events driver)
    attempts = (driver.take attempts.length).map (readCapacity host fd bus target) ∧
      CapacityPhase left attempts
        ((readCapacityRetries host fd bus target left out).value driver) := by
  induction left generalizing out driver with
  | zero => exact ⟨rfl, .exhausted [] out rfl (List.forall_mem_nil _)⟩
  | succ left ih =>
      rw [readCapacityRetries_succ_value, readCapacityRetries_succ_commands]
      generalize returned : (readCapacity10 host fd bus target out).value driver = result
      have outcome := readCapacity10_value host fd bus target out driver
      rw [returned] at outcome
      rcases outcome with ⟨succeeded, reports, lastLba, blockSize⟩ | ⟨failed, refused⟩
      · simp only [succeeded, if_true]
        refine ⟨rfl, ?_⟩
        rw [show result = (0, result.2) from Prod.ext succeeded rfl]
        exact .reported [] _ _ (Nat.succ_pos left) (List.forall_mem_nil _) reports lastLba blockSize
      · obtain ⟨answered, phase⟩ := ih result.2 driver.tail
        simp only [failed, show ¬(-1 : Int) = 0 by decide, if_false]
        refine ⟨?_, phase.cons refused⟩
        rw [List.length_cons, Stream'.take_succ, List.map_cons, ← answered]

/-! ### The round -/

theorem quiet_printState (out : SenseOut) : Quiet (printState out) := by
  unfold printState
  cases out.state with
  | formatting => exact .ite (.record rfl rfl) (.record rfl rfl)
  | idle => exact .pure ()
  | _ => exact .record rfl rfl

theorem quiet_reportReady (cap : CapacityOut) : Quiet (reportReady host fd expectedBs cap) := by
  refine .bind (.record rfl rfl) fun _ => ?_
  refine .bind (.ite (.record rfl rfl) (.record rfl rfl)) fun _ => ?_
  refine .bind (.ite (.record rfl rfl) (.pure _)) fun _ => ?_
  exact .bind (.record rfl rfl) fun _ => .pure _

/-- The report of a ready drive returns the result of the comparison. -/
theorem reportReady_value (cap : CapacityOut) (driver : Stream' DriverReply) :
    (reportReady host fd expectedBs cap).value driver =
      checkExpectedBlockSize cap.blockSize expectedBs := by
  simp [reportReady]

/-- The comparison of the block sizes, on the numbers they are. -/
theorem checkExpectedBlockSize_eq {actual expected : UInt32} {size : Nat}
    (reported : actual.toNat = size) :
    checkExpectedBlockSize actual expected = if size = expected.toNat then 0 else 2 := by
  rw [checkExpectedBlockSize, ← reported]
  simp only [UInt32.toNat_inj]

section IdlePoll

variable (out : SenseOut) (driver : Stream' DriverReply)

/-- The value of an idle poll depends on its attempts only. -/
theorem idlePoll_value :
    (idlePoll host fd bus target expectedBs out).value driver =
      let result := (readCapacityRetries host fd bus target readCapTries ⟨0, 0⟩).value driver
      if result.1 ≠ 0 then 1 else checkExpectedBlockSize result.2.blockSize expectedBs := by
  simp [idlePoll, reportReady_value]

/-- The commands of an idle poll are its attempts. -/
theorem idlePoll_commands :
    commands ((idlePoll host fd bus target expectedBs out).events driver) =
      commands
        ((readCapacityRetries host fd bus target readCapTries ⟨0, 0⟩).events driver) := by
  simp [idlePoll, (quiet_reportReady ..).commands, apply_ite commands]

end IdlePoll

/-- How a round can go: what its REQUEST SENSE told, the attempts that followed,
and the state at the next loop head or the exit status. -/
inductive PollRound (interval : Int) (expectedBs : UInt32) (softErrors : Int) (poll : Command) :
    List Command → PollState ⊕ Int → Prop where
  | retry (next : PollState) (failed : poll.verdict = .failed) (polling : 0 < interval)
      (few : softErrors + 1 < maxSoftErrors) (counted : next.softErrors = softErrors + 1) :
      PollRound interval expectedBs softErrors poll [] (.inl next)
  | giveUp (failed : poll.verdict = .failed)
      (done : ¬(0 < interval ∧ softErrors + 1 < maxSoftErrors)) :
      PollRound interval expectedBs softErrors poll [] (.inr 1)
  | again (next : PollState) (busy : poll.verdict = .busy) (polling : 0 < interval)
      (reset : next.softErrors = 0) :
      PollRound interval expectedBs softErrors poll [] (.inl next)
  | notConfirmed (busy : poll.verdict = .busy) (once : interval ≤ 0) :
      PollRound interval expectedBs softErrors poll [] (.inr 3)
  | noCapacity (attempts : List Command) (idle : poll.verdict = .idle)
      (all : attempts.length = readCapTries)
      (failed : ∀ attempt ∈ attempts, ¬attempt.ReportsCapacity) :
      PollRound interval expectedBs softErrors poll attempts (.inr 1)
  | ready (failures : List Command) (last : Command) (idle : poll.verdict = .idle)
      (few : failures.length < readCapTries)
      (failed : ∀ attempt ∈ failures, ¬attempt.ReportsCapacity) (reports : last.ReportsCapacity) :
      PollRound interval expectedBs softErrors poll (failures ++ [last])
        (.inr (if last.blockSize = expectedBs.toNat then 0 else 2))

namespace PollRound

variable {softErrors : Int} {poll : Command} {attempts : List Command}
  {outcome : PollState ⊕ Int} {interval expectedBs}

/-- A round that was answered by a state other than idle. -/
theorem of_busy (round : PollRound interval expectedBs softErrors poll attempts outcome)
    (busy : poll.verdict = .busy) : attempts = [] ∧
      if interval ≤ 0 then outcome = .inr 3
      else ∃ next : PollState, outcome = .inl next ∧ next.softErrors = 0 := by
  cases round with
  | again next _ polling reset =>
      rw [if_neg (not_le.mpr polling)]
      exact ⟨rfl, next, rfl, reset⟩
  | notConfirmed _ once =>
      rw [if_pos once]
      exact ⟨rfl, rfl⟩
  | retry _ failed => rw [busy] at failed; cases failed
  | giveUp failed => rw [busy] at failed; cases failed
  | noCapacity _ idle => rw [busy] at idle; cases idle
  | ready _ _ idle => rw [busy] at idle; cases idle

/-- A round whose REQUEST SENSE failed. -/
theorem of_failed (round : PollRound interval expectedBs softErrors poll attempts outcome)
    (failed : poll.verdict = .failed) : attempts = [] ∧
      if 0 < interval ∧ softErrors + 1 < maxSoftErrors then
        ∃ next : PollState, outcome = .inl next ∧ next.softErrors = softErrors + 1
      else outcome = .inr 1 := by
  cases round with
  | retry next _ polling few counted =>
      rw [if_pos ⟨polling, few⟩]
      exact ⟨rfl, next, rfl, counted⟩
  | giveUp _ done =>
      rw [if_neg done]
      exact ⟨rfl, rfl⟩
  | again _ busy => rw [failed] at busy; cases busy
  | notConfirmed busy => rw [failed] at busy; cases busy
  | noCapacity _ idle => rw [failed] at idle; cases idle
  | ready _ _ idle => rw [failed] at idle; cases idle

/-- A round that found nothing in progress: no attempt brought a size, or the
last one did. -/
theorem of_idle (round : PollRound interval expectedBs softErrors poll attempts outcome)
    (idle : poll.verdict = .idle) :
    (outcome = .inr 1 ∧ attempts.length = readCapTries ∧
      ∀ attempt ∈ attempts, ¬attempt.ReportsCapacity) ∨
    ∃ failures last, attempts = failures ++ [last] ∧ failures.length < readCapTries ∧
      (∀ attempt ∈ failures, ¬attempt.ReportsCapacity) ∧ last.ReportsCapacity ∧
      outcome = .inr (if last.blockSize = expectedBs.toNat then 0 else 2) := by
  cases round with
  | noCapacity _ _ all failed => exact Or.inl ⟨rfl, all, failed⟩
  | ready failures last _ few failed reports =>
      exact Or.inr ⟨failures, last, rfl, few, failed, reports, rfl⟩
  | retry _ failed => rw [idle] at failed; cases failed
  | giveUp failed => rw [idle] at failed; cases failed
  | again _ busy => rw [idle] at busy; cases busy
  | notConfirmed busy => rw [idle] at busy; cases busy

/-- With an interval, a failed REQUEST SENSE ends the run as the fifth in a row. -/
theorem exit_of_failed {status : Int}
    (round : PollRound interval expectedBs softErrors poll attempts (.inr status))
    (polling : 0 < interval) (failed : poll.verdict = .failed) :
    status = 1 ∧ attempts = [] ∧ 5 ≤ softErrors + 1 := by
  obtain ⟨none, answered⟩ := round.of_failed failed
  split at answered
  · obtain ⟨_, continued, _⟩ := answered
    cases continued
  · rename_i done
    rw [not_and, Int.not_lt] at done
    exact ⟨Sum.inr.inj answered, none, done polling⟩

/-- With an interval, a state other than idle does not end the run. -/
theorem not_busy_of_exit {status : Int}
    (round : PollRound interval expectedBs softErrors poll attempts (.inr status))
    (polling : 0 < interval) : poll.verdict ≠ .busy := by
  intro busy
  have answered := (round.of_busy busy).2
  rw [if_neg (not_le.mpr polling)] at answered
  obtain ⟨_, continued, _⟩ := answered
  cases continued

/-- A round that ended the run with status 3. -/
theorem of_three (round : PollRound interval expectedBs softErrors poll attempts (.inr 3)) :
    poll.verdict = .busy ∧ interval ≤ 0 ∧ attempts = [] := by
  generalize ended : (Sum.inr 3 : PollState ⊕ Int) = outcome at round
  cases round with
  | notConfirmed busy once => exact ⟨busy, once, rfl⟩
  | ready failures size => split at ended <;> cases ended
  | _ => cases ended

end PollRound

variable (state : PollState) (driver : Stream' DriverReply)

/-- The poll loop does not see what the sense buffer held before. -/
theorem pollIteration_congr {other : PollState} (same : state.softErrors = other.softErrors) :
    pollIteration host fd bus target interval expectedBs state =
      pollIteration host fd bus target interval expectedBs other := by
  unfold pollIteration Buffer.clear
  rw [same]

/-- REQUEST SENSE does not depend on what the cleared array held. -/
theorem sentCommand_sense (sense : Vector UInt8 96) (reply : DriverReply) :
    sentCommand fd bus target requestSenseCdb 6 (Buffer.clear ⟨host.addressOf .sense, sense⟩) 96
      mfiFrameDirRead reply = requestSense host fd bus target reply := by
  have cleared : Buffer.clear ⟨host.addressOf .sense, sense⟩ = (host.array .sense 96).clear :=
    Buffer.clear_congr rfl
  rw [requestSense, cleared]

/-- What a poll receives: a cleared array with the bytes written. -/
theorem received_requestSense (sense : Vector UInt8 96) (reply : DriverReply) :
    (requestSense host fd bus target reply).received =
      (transfer (Buffer.clear ⟨host.addressOf .sense, sense⟩).bytes
        (reply.written.take (Int.toNat 96))).toList := by
  rw [← sentCommand_sense host fd bus target sense]
  exact received_sentCommand fd bus target _ _ _ _ _ reply (by decide)

section Answered

variable (rc : Int)

/-- The round after a failed poll. -/
theorem answeredPoll_failed (failed : verdictOf rc state.sense.toList = .failed) :
    let round := answeredPoll host fd bus target interval expectedBs rc state
    commands (round.events driver) = [] ∧
      round.value driver = if 0 < interval ∧ state.softErrors + 1 < maxSoftErrors then
        .inl { state with softErrors := state.softErrors + 1 } else .inr 1 := by
  have refused := (verdictOf_eq_failed_iff rc state.sense.toList).mp failed
  simp only [answeredPoll, if_pos refused]
  constructor
  · simp [failedPoll, apply_ite commands]
  · simp [failedPoll]

/-- The round after a busy poll. -/
theorem answeredPoll_busy (busy : verdictOf rc state.sense.toList = .busy) :
    let round := answeredPoll host fd bus target interval expectedBs rc state
    commands (round.events driver) = [] ∧
      round.value driver = if interval ≤ 0 then .inr 3
        else .inl { state with softErrors := 0 } := by
  obtain ⟨accepted, running⟩ := (verdictOf_eq_busy_iff rc state.sense.toList).mp busy
  have printed := quiet_printState (decodeSense state.sense.toList).2
  simp only [answeredPoll, if_neg accepted, if_pos running]
  constructor
  · simp [busyPoll, printed.commands, apply_ite commands]
  · simp [busyPoll]

/-- The round after an idle poll. -/
theorem answeredPoll_idle (idle : verdictOf rc state.sense.toList = .idle) :
    let round := answeredPoll host fd bus target interval expectedBs rc state
    let out := (decodeSense state.sense.toList).2
    commands (round.events driver) =
        commands ((idlePoll host fd bus target expectedBs out).events driver) ∧
      round.value driver = .inr ((idlePoll host fd bus target expectedBs out).value driver) := by
  obtain ⟨accepted, done⟩ := (verdictOf_eq_idle_iff rc state.sense.toList).mp idle
  have printed := quiet_printState (decodeSense state.sense.toList).2
  simp only [answeredPoll, if_neg accepted, if_neg (not_not.mpr done)]
  simp [printed.commands, printed.world]

end Answered

/-- A round is its REQUEST SENSE, then what it does about the answer. -/
theorem pollIteration_eq_answered :
    let round := pollIteration host fd bus target interval expectedBs state
    let poll := requestSense host fd bus target driver.head
    ∃ answered : PollState, answered.softErrors = state.softErrors ∧
      answered.sense.toList = poll.received ∧
      commands (round.events driver) = poll :: commands
        ((answeredPoll host fd bus target interval expectedBs poll.status answered).events
          driver.tail) ∧
      round.value driver =
        (answeredPoll host fd bus target interval expectedBs poll.status answered).value
          driver.tail := by
  intro round poll
  have received := received_requestSense host fd bus target state.sense driver.head
  have sent := sendCmd_value fd bus target requestSenseCdb 6
    (Buffer.clear ⟨host.addressOf .sense, state.sense⟩) 96 mfiFrameDirRead none driver
  rw [sentCommand_sense] at sent
  generalize transfer (Buffer.clear ⟨host.addressOf .sense, state.sense⟩).bytes
    (driver.head.written.take (Int.toNat 96)) = sense at received sent
  refine ⟨⟨sense, state.softErrors⟩, rfl, received.symm, ?_, ?_⟩
  · simp only [round, pollIteration, Traced.events_bind, commands_append, sendCmd_commands, sent,
      sendCmd_world, sentCommand_sense, List.singleton_append, poll]
  · simp only [round, pollIteration, Traced.value_bind, sent, sendCmd_world, poll]

/-- Every round is one of the six. -/
theorem pollIteration_round :
    let round := pollIteration host fd bus target interval expectedBs state
    let poll := requestSense host fd bus target driver.head
    ∃ attempts, commands (round.events driver) = poll :: attempts ∧
      attempts = (driver.tail.take attempts.length).map (readCapacity host fd bus target) ∧
      PollRound interval expectedBs state.softErrors poll attempts (round.value driver) := by
  intro round poll
  obtain ⟨answered, kept, received, issued, returned⟩ :=
    pollIteration_eq_answered host fd bus target interval expectedBs state driver
  have same : verdictOf poll.status answered.sense.toList = poll.verdict := by
    rw [received]
    rfl
  cases told : poll.verdict with
  | failed =>
      obtain ⟨silent, value⟩ := answeredPoll_failed host fd bus target interval expectedBs answered
        driver.tail poll.status (same.trans told)
      refine ⟨[], by rw [issued, silent], rfl, ?_⟩
      rw [returned, value, kept]
      split
      · rename_i few
        exact .retry _ told few.1 few.2 rfl
      · rename_i done
        exact .giveUp told done
  | busy =>
      obtain ⟨silent, value⟩ := answeredPoll_busy host fd bus target interval expectedBs answered
        driver.tail poll.status (same.trans told)
      refine ⟨[], by rw [issued, silent], rfl, ?_⟩
      rw [returned, value]
      split
      · rename_i once
        exact .notConfirmed told once
      · rename_i polling
        exact .again _ told (not_le.mp polling) rfl
  | idle =>
      obtain ⟨asked, value⟩ := answeredPoll_idle host fd bus target interval expectedBs answered
        driver.tail poll.status (same.trans told)
      obtain ⟨answers, phase⟩ := readCapacityRetries_phase host fd bus target readCapTries ⟨0, 0⟩
        driver.tail
      rw [idlePoll_commands] at asked
      rw [idlePoll_value] at value
      refine ⟨_, by rw [issued, asked], answers, ?_⟩
      rw [returned, value]
      generalize (readCapacityRetries host fd bus target readCapTries ⟨0, 0⟩).value driver.tail =
        result at phase
      generalize commands ((readCapacityRetries host fd bus target readCapTries ⟨0, 0⟩).events
        driver.tail) = attempts at phase
      cases phase with
      | exhausted _ out all failed => exact .noCapacity _ told all failed
      | reported failures last out few failed reports _ blockSize =>
          rw [if_neg (not_not.mpr rfl), checkExpectedBlockSize_eq blockSize]
          exact .ready failures last told few failed reports

end Megaraid
