import Megaraid.Foundation.Trailing
import Megaraid.Progress.Descriptors
import Megaraid.Progress.Round

/-!
# Whole runs of the poll loop

At every loop head the poller has only sent REQUEST SENSE, none of the answers
was an idle one, and `soft_errors` counts the failed polls at the end
(`Watching`). A run that returns is such a head followed by one more round
(`pollLoop_exit_round`); without an interval there is only that round
(`pollLoop_once`).
-/

namespace Megaraid

/-- The poll failed or its answer could not be decoded. -/
def pollFailed (command : Command) : Bool := command.verdict = .failed

/-- A failed poll is one whose verdict says so. -/
theorem pollFailed_iff (command : Command) : pollFailed command ↔ command.verdict = .failed := by
  rw [pollFailed, decide_eq_true_iff]

/-- The REQUEST SENSE commands of a run, in order. -/
def polls (events : List Event) : List Command :=
  (commands events).filter fun command => command.IsRequestSense

/-- What holds at every head of the poll loop. -/
structure Watching (interval : Int) (state : PollState) (past : List Event) : Prop where
  polling : commands past = [] ∨ 0 < interval
  answered : ∀ command ∈ commands past, command.IsRequestSense ∧ command.verdict ≠ .idle
  counted : state.softErrors = trailing pollFailed (commands past)
  few : state.softErrors < maxSoftErrors

section Run

variable (host : Host) (fd bus target interval : Int) (expectedBs : UInt32)
  (sense : Vector UInt8 96) {rounds : Nat} {driver : Stream' DriverReply}

/-- One more poll keeps the invariant. -/
theorem Watching.poll {state next : PollState} {past : List Event} {poll : Command}
    {now : List Event} (watching : Watching interval state past) (issued : commands now = [poll])
    (asked : poll.IsRequestSense) (polling : 0 < interval) (busy : poll.verdict ≠ .idle)
    (counted : next.softErrors = if poll.verdict = .failed then state.softErrors + 1 else 0)
    (few : next.softErrors < maxSoftErrors) : Watching interval next (past ++ now) := by
  have extended : commands (past ++ now) = commands past ++ [poll] := by
    rw [commands_append, issued]
  refine ⟨Or.inr polling, ?_, ?_, few⟩
  · rw [extended]
    intro command member
    rcases List.mem_append.mp member with before | last
    · exact watching.answered command before
    · rw [List.mem_singleton.mp last]
      exact ⟨asked, busy⟩
  · rw [extended, counted]
    by_cases failed : poll.verdict = .failed
    · rw [if_pos failed, trailing_concat_pos _ ((pollFailed_iff poll).mpr failed),
        watching.counted]
      rfl
    · have answered : ¬pollFailed poll := fun fails => failed ((pollFailed_iff poll).mp fails)
      rw [if_neg failed, trailing_concat_neg _ answered]
      rfl

/-- Every round keeps the account of the watch. -/
theorem watching_invariant :
    Traced.LoopInvariant (pollIteration host fd bus target interval expectedBs)
      (fun state past _ => Watching interval state past) := by
  refine ⟨fun state past w next watching returned => ?_⟩
  obtain ⟨attempts, issued, _, round⟩ :=
    pollIteration_round host fd bus target interval expectedBs state w
  have asked := isRequestSense_requestSense host fd bus target w.head
  rw [returned] at round
  cases round with
  | retry _ failed polling few counted =>
      refine watching.poll interval issued asked polling (by rw [failed]; decide) ?_ ?_
      · rw [counted, if_pos failed]
      · rw [counted]
        exact few
  | again _ busy polling reset =>
      refine watching.poll interval issued asked polling (by rw [busy]; decide) ?_ ?_
      · rw [reset, if_neg (by rw [busy]; decide)]
      · rw [reset]
        decide

/-- The invariant at the head a run has come to. -/
theorem watching_head {head : PollState}
    (reached : (pollLoop host fd bus target interval expectedBs rounds ⟨sense, 0⟩).value driver =
      .inl head) :
    Watching interval head
      ((pollLoop host fd bus target interval expectedBs rounds ⟨sense, 0⟩).events driver) := by
  apply (watching_invariant host fd bus target interval expectedBs).reached _ _ reached
  have fresh : (0 : Int) < maxSoftErrors := by decide
  exact ⟨Or.inl rfl, List.forall_mem_nil _, rfl, fresh⟩

/-- A run that returns: polling up to the head of its last round, then that round. -/
theorem pollLoop_exit_round {status : Int}
    (exited : (pollLoop host fd bus target interval expectedBs rounds ⟨sense, 0⟩).value driver =
      .inr status) :
    ∃ head past reply attempts, Watching interval head past ∧
      commands ((pollLoop host fd bus target interval expectedBs rounds ⟨sense, 0⟩).events
        driver) = commands past ++ requestSense host fd bus target reply :: attempts ∧
      (∀ attempt ∈ attempts, attempt.IsReadCapacity) ∧
      PollRound interval expectedBs head.softErrors (requestSense host fd bus target reply) attempts
        (.inr status) := by
  obtain ⟨last, head, _, reached, returned, cut⟩ := Traced.iterate_exit _ exited
  rw [← pollLoop] at reached returned
  have watching := watching_head host fd bus target interval expectedBs sense reached
  obtain ⟨attempts, issued, answers, round⟩ := pollIteration_round host fd bus target interval
    expectedBs head ((pollLoop host fd bus target interval expectedBs last ⟨sense, 0⟩).world driver)
  rw [returned] at round
  refine ⟨head, _, _, attempts, watching, ?_, ?_, round⟩
  · rw [pollLoop, Traced.events, cut, ← Traced.events, Traced.iterate_succ_events _ reached,
      commands_append]
    exact congrArg _ issued
  · intro attempt member
    rw [answers] at member
    obtain ⟨reply, _, rfl⟩ := List.mem_map.mp member
    exact isReadCapacity_readCapacity host fd bus target reply

/-- Without an interval the first round is the last. -/
theorem pollLoop_once (driver : Stream' DriverReply) (once : interval ≤ 0) (some : 0 < rounds) :
    (∃ status, (pollIteration host fd bus target interval expectedBs ⟨sense, 0⟩).value driver =
      .inr status) ∧
    pollLoop host fd bus target interval expectedBs rounds ⟨sense, 0⟩ driver =
      pollIteration host fd bus target interval expectedBs ⟨sense, 0⟩ driver := by
  obtain ⟨attempts, _, _, round⟩ :=
    pollIteration_round host fd bus target interval expectedBs ⟨sense, 0⟩ driver
  cases returned :
      (pollIteration host fd bus target interval expectedBs ⟨sense, 0⟩).value driver with
  | inl next =>
      rw [returned] at round
      cases round with
      | retry _ _ polling => omega
      | again _ _ polling => omega
  | inr status =>
      refine ⟨⟨status, rfl⟩, ?_⟩
      rw [← Traced.iterate_one (pollIteration host fd bus target interval expectedBs)]
        at returned ⊢
      exact Traced.iterate_of_exit _ returned some

/-- Without an interval the run is one round. -/
theorem pollLoop_once_round (driver : Stream' DriverReply) (once : interval ≤ 0)
    (some : 0 < rounds) :
    ∃ attempts,
      commands ((pollLoop host fd bus target interval expectedBs rounds ⟨sense, 0⟩).events
        driver) = requestSense host fd bus target driver.head :: attempts ∧
      PollRound interval expectedBs 0 (requestSense host fd bus target driver.head) attempts
        ((pollLoop host fd bus target interval expectedBs rounds ⟨sense, 0⟩).value driver) := by
  obtain ⟨_, same⟩ :=
    pollLoop_once host fd bus target interval expectedBs sense driver once some
  obtain ⟨attempts, issued, _, round⟩ :=
    pollIteration_round host fd bus target interval expectedBs ⟨sense, 0⟩ driver
  rw [Traced.events, Traced.value, same]
  exact ⟨attempts, issued, round⟩

end Run

/-- At a loop head every command was a poll. -/
theorem Watching.polls_eq {interval : Int} {head : PollState} {past : List Event}
    (watching : Watching interval head past) : polls past = commands past := by
  apply List.filter_eq_self.mpr
  intro command member
  exact decide_eq_true (watching.answered command member).1

/-- The polls of a run that returned: those before the last round, and its own. -/
theorem polls_of_exit {interval : Int} {head : PollState} {past events : List Event}
    {poll : Command} {attempts : List Command} (watching : Watching interval head past)
    (sent : commands events = commands past ++ poll :: attempts) (asked : poll.IsRequestSense)
    (capacity : ∀ attempt ∈ attempts, attempt.IsReadCapacity) :
    polls events = commands past ++ [poll] := by
  have before := watching.polls_eq
  have after : attempts.filter (fun command => command.IsRequestSense) = [] := by
    apply List.filter_eq_nil_iff.mpr
    intro attempt member
    rw [decide_eq_true_iff]
    exact fun sense => sense.not_readCapacity (capacity attempt member)
  rw [polls] at before ⊢
  rw [sent, List.filter_append, List.filter_cons_of_pos (by rw [decide_eq_true_iff]; exact asked),
    before, after]

end Megaraid
