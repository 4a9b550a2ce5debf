import Megaraid.Progress.Watch

/-!
# Exit statuses of the poll loop

What each exit status of a run says about the commands of the run
(`pollLoop_exits`), and exactly when a watch is abandoned with status 1
(`pollLoop_abandons`).
-/

namespace Megaraid

/-- An expected block size `mega_progress` can work with: the default, or an
argument it accepted. -/
def ExpectedSize (expectedBs : UInt32) : Prop :=
  expectedBs = 512 ∨
    ∃ s, 0 ≤ parseExpectedBlockSize s ∧ expectedBs = UInt32.ofInt (parseExpectedBlockSize s)

/-- An expected size is neither 0 nor the value that stands for none. -/
theorem ExpectedSize.bounds {expectedBs : UInt32} (expected : ExpectedSize expectedBs) :
    1 ≤ expectedBs.toNat ∧ expectedBs.toNat ≤ 0xFFFFFFFE := by
  rcases expected with rfl | ⟨s, accepted, rfl⟩
  · decide
  · have range := parseExpectedBlockSize_bounds accepted
    have value := toNat_ofInt_uint32 (parseExpectedBlockSize s)
    omega

namespace Command

/-- A REQUEST SENSE that succeeded, was decoded and found nothing in progress. -/
def ReportsIdle (command : Command) : Prop :=
  command.status = 0 ∧ command.decoded.1 = 0 ∧ command.decoded.2.state = .idle

/-- A REQUEST SENSE that succeeded and was decoded to any other state. -/
def ReportsBusy (command : Command) : Prop :=
  command.status = 0 ∧ command.decoded.1 = 0 ∧ command.decoded.2.state ≠ .idle

/-- A poll did not fail if and only if its status is 0 and its data are decoded. -/
private theorem decoded_iff (command : Command) :
    ¬(command.status ≠ 0 ∨ command.decoded.1 < 0) ↔ command.status = 0 ∧ command.decoded.1 = 0 := by
  have result := parseSense_result ⟨0, 0, 0, -1⟩ (senseByte command.received) 96
  change command.decoded.1 = 0 ∨ command.decoded.1 = -1 at result
  omega

/-- The verdict is idle if and only if the drive reports IDLE. -/
theorem verdict_eq_idle_iff (command : Command) :
    command.verdict = .idle ↔ command.ReportsIdle := by
  rw [verdict, verdictOf_eq_idle_iff, ReportsIdle, ← and_assoc]
  exact and_congr_left fun _ => decoded_iff command

/-- The verdict is busy if and only if the drive reports another state. -/
theorem verdict_eq_busy_iff (command : Command) :
    command.verdict = .busy ↔ command.ReportsBusy := by
  rw [verdict, verdictOf_eq_busy_iff, ReportsBusy, ← and_assoc]
  exact and_congr_left fun _ => decoded_iff command

end Command

/-- A READ CAPACITY that `read_capacity10` reports as failed. -/
def CapacityFailed (command : Command) : Prop := command.IsReadCapacity ∧ ¬command.ReportsCapacity

/-- The most recent REQUEST SENSE was idle, and of at most three READ CAPACITY
commands after it the last one, and only it, brought a block size. -/
def EndsReady (sent : List Command) (last : Command) : Prop :=
  ∃ earlier poll failures, sent = earlier ++ poll :: (failures ++ [last]) ∧
    poll.IsRequestSense ∧ poll.ReportsIdle ∧
    failures.length < 3 ∧ (∀ attempt ∈ failures, CapacityFailed attempt) ∧
    last.IsReadCapacity ∧ last.ReportsCapacity

/-- The most recent REQUEST SENSE was idle, and three READ CAPACITY commands
after it failed. -/
def EndsWithoutCapacity (sent : List Command) : Prop :=
  ∃ earlier poll attempts, sent = earlier ++ poll :: attempts ∧
    poll.IsRequestSense ∧ poll.ReportsIdle ∧
    attempts.length = 3 ∧ ∀ attempt ∈ attempts, CapacityFailed attempt

/-- A run without capacity ends with a READ CAPACITY that failed. -/
theorem EndsWithoutCapacity.last_failed {sent : List Command} (ends : EndsWithoutCapacity sent) :
    ∃ last ∈ sent.getLast?, CapacityFailed last := by
  obtain ⟨earlier, poll, attempts, rfl, _, _, all, failed⟩ := ends
  cases attempts using List.reverseRecOn with
  | nil => cases all
  | append_singleton before last =>
      refine ⟨last, ?_, failed last (List.mem_append_right _ (List.mem_singleton_self last))⟩
      rw [← List.cons_append, ← List.append_assoc, List.getLast?_concat]
      rfl

/-- A run with a ready drive ends with the READ CAPACITY that reports. -/
theorem EndsReady.last_reports {sent : List Command} {last : Command} (ends : EndsReady sent last) :
    sent.getLast? = some last ∧ last.ReportsCapacity := by
  obtain ⟨earlier, poll, failures, rfl, _, _, _, _, _, reports⟩ := ends
  rw [← List.cons_append, ← List.append_assoc, List.getLast?_concat]
  exact ⟨rfl, reports⟩

section Idle

variable {past failures attempts : List Command} {poll last : Command}

/-- An idle poll, at most two failures and one success are an end with a ready drive. -/
theorem endsReady_of_attempts (asked : poll.IsRequestSense) (idle : poll.ReportsIdle)
    (few : failures.length < 3)
    (capacity : ∀ attempt ∈ failures ++ [last], attempt.IsReadCapacity)
    (failed : ∀ attempt ∈ failures, ¬attempt.ReportsCapacity) (reports : last.ReportsCapacity) :
    EndsReady (past ++ poll :: (failures ++ [last])) last := by
  refine ⟨past, poll, failures, rfl, asked, idle, few, fun attempt member => ?_, ?_, reports⟩
  · exact ⟨capacity attempt (List.mem_append_left _ member), failed attempt member⟩
  · exact capacity last (List.mem_append_right _ (List.mem_singleton_self last))

/-- What a round with an idle answer leaves at the end of a run. -/
theorem PollRound.ends_of_idle {interval softErrors status : Int} {expectedBs : UInt32}
    (round : PollRound interval expectedBs softErrors poll attempts (.inr status))
    (told : poll.verdict = .idle) (asked : poll.IsRequestSense)
    (capacity : ∀ attempt ∈ attempts, attempt.IsReadCapacity) :
    status = 1 ∧ EndsWithoutCapacity (past ++ poll :: attempts) ∨
      status ≠ 1 ∧ ∃ last, EndsReady (past ++ poll :: attempts) last := by
  have idle := poll.verdict_eq_idle_iff.mp told
  rcases round.of_idle told with
    ⟨returned, all, failed⟩ | ⟨failures, last, rfl, few, failed, reports, returned⟩
  · refine Or.inl ⟨Sum.inr.inj returned, past, poll, attempts, rfl, asked, idle, all, ?_⟩
    exact fun attempt member => ⟨capacity attempt member, failed attempt member⟩
  · refine Or.inr ⟨?_, last, endsReady_of_attempts asked idle few capacity failed reports⟩
    rw [Sum.inr.inj returned]
    split <;> decide

end Idle

section Run

variable (host : Host) (fd bus target interval : Int) (expectedBs : UInt32)
  (sense : Vector UInt8 96) (rounds : Nat) (driver : Stream' DriverReply)

/-- What the exit statuses of a run of the poll loop rest on. -/
structure PollExits : Prop where
  /-- Exit 0 or 2: the drive was idle, and its size was compared. -/
  ready : ∀ status,
    (pollLoop host fd bus target interval expectedBs rounds ⟨sense, 0⟩).value driver =
      .inr status → status = 0 ∨ status = 2 →
    ∃ last, EndsReady (commands
        ((pollLoop host fd bus target interval expectedBs rounds ⟨sense, 0⟩).events driver)) last ∧
      (status = 0 ↔ last.blockSize = expectedBs.toNat) ∧
      (status = 0 → last.blockSize ≠ 0 ∧ last.blockSize ≠ 0xFFFFFFFF)
  /-- An idle answer and a block size within three attempts force that exit. -/
  forced : ∀ head,
    (pollLoop host fd bus target interval expectedBs rounds ⟨sense, 0⟩).value driver =
      .inl head →
    ∀ rest, rest =
      (pollLoop host fd bus target interval expectedBs rounds ⟨sense, 0⟩).world driver →
    (requestSense host fd bus target rest.head).ReportsIdle →
    ∀ tries < 3,
    (∀ earlier < tries,
      ¬(readCapacity host fd bus target (rest.tail.get earlier)).ReportsCapacity) →
    (readCapacity host fd bus target (rest.tail.get tries)).ReportsCapacity →
    (pollLoop host fd bus target interval expectedBs (rounds + 1) ⟨sense, 0⟩).value driver =
      .inr (if (readCapacity host fd bus target (rest.tail.get tries)).blockSize =
        expectedBs.toNat then 0 else 2)
  /-- Exit 3: there is no interval, and the one poll was answered by another state. -/
  notConfirmed :
    (pollLoop host fd bus target interval expectedBs rounds ⟨sense, 0⟩).value driver = .inr 3 ↔
      0 < rounds ∧ interval ≤ 0 ∧ (requestSense host fd bus target driver.head).ReportsBusy
  onePoll :
    (pollLoop host fd bus target interval expectedBs rounds ⟨sense, 0⟩).value driver = .inr 3 →
    commands ((pollLoop host fd bus target interval expectedBs rounds ⟨sense, 0⟩).events driver) =
      [requestSense host fd bus target driver.head]
  /-- There is no other exit status. -/
  statuses : ∀ status,
    (pollLoop host fd bus target interval expectedBs rounds ⟨sense, 0⟩).value driver =
      .inr status → status = 0 ∨ status = 1 ∨ status = 2 ∨ status = 3

variable {rounds driver}

/-- An exit with 0 or 2 comes from a ready drive whose block size was compared. -/
theorem endsReady_of_exit {status : Int}
    (exited : (pollLoop host fd bus target interval expectedBs rounds ⟨sense, 0⟩).value driver =
      .inr status) (compared : status = 0 ∨ status = 2) :
    ∃ last, EndsReady (commands
        ((pollLoop host fd bus target interval expectedBs rounds ⟨sense, 0⟩).events driver)) last ∧
      status = if last.blockSize = expectedBs.toNat then 0 else 2 := by
  obtain ⟨head, past, reply, attempts, watching, sent, capacity, round⟩ :=
    pollLoop_exit_round host fd bus target interval expectedBs sense exited
  have asked := isRequestSense_requestSense host fd bus target reply
  generalize requestSense host fd bus target reply = poll at sent round asked
  generalize ended : (Sum.inr status : PollState ⊕ Int) = outcome at round
  cases round with
  | ready failures last told few failed reports =>
      have idle := poll.verdict_eq_idle_iff.mp told
      rw [sent]
      exact ⟨last, endsReady_of_attempts asked idle few capacity failed reports,
        Sum.inr.inj ended⟩
  | _ => cases ended <;> omega

/-- An attempt of a round is the READ CAPACITY with the driver's answer to it. -/
theorem getElem?_answered {attempts : List Command} {answers : Stream' DriverReply}
    (answered : attempts =
      (answers.take attempts.length).map (readCapacity host fd bus target))
    {tries : Nat} (inside : tries < attempts.length) :
    attempts[tries]? = some (readCapacity host fd bus target (answers.get tries)) := by
  rw [answered, List.getElem?_map, Stream'.getElem?_take inside]
  rfl

/-- An idle poll with a capacity within three attempts forces the exit. -/
theorem forced_of_reports {head : PollState}
    (reached : (pollLoop host fd bus target interval expectedBs rounds ⟨sense, 0⟩).value driver =
      .inl head) {rest : Stream' DriverReply}
    (left : rest = (pollLoop host fd bus target interval expectedBs rounds ⟨sense, 0⟩).world driver)
    (idle : (requestSense host fd bus target rest.head).ReportsIdle) {tries : Nat} (few : tries < 3)
    (refused : ∀ earlier < tries,
      ¬(readCapacity host fd bus target (rest.tail.get earlier)).ReportsCapacity)
    (reports : (readCapacity host fd bus target (rest.tail.get tries)).ReportsCapacity) :
    (pollLoop host fd bus target interval expectedBs (rounds + 1) ⟨sense, 0⟩).value driver =
      .inr (if (readCapacity host fd bus target (rest.tail.get tries)).blockSize =
        expectedBs.toNat then 0 else 2) := by
  have entered := Traced.iterate_succ_value _ reached
  rw [← pollLoop, ← pollLoop, ← left] at entered
  rw [entered]
  obtain ⟨attempts, _, answered, round⟩ :=
    pollIteration_round host fd bus target interval expectedBs head rest
  have attempt : ∀ n < attempts.length,
      attempts[n]? = some (readCapacity host fd bus target (rest.tail.get n)) :=
    fun _ inside => getElem?_answered host fd bus target answered inside
  rcases round.of_idle ((Command.verdict_eq_idle_iff _).mpr idle) with
    ⟨_, all, failed⟩ | ⟨failures, last, rfl, _, failed, brought, returned⟩
  · have present := List.mem_of_getElem? (attempt tries (by rw [all]; exact few))
    exact absurd reports (failed _ present)
  · rw [List.length_append, List.length_singleton] at attempt
    have final := attempt failures.length (Nat.lt_succ_self _)
    rw [List.getElem?_concat_length, Option.some.injEq] at final
    rcases lt_trichotomy failures.length tries with before | rfl | after
    · rw [final] at brought
      exact absurd brought (refused _ before)
    · rw [returned, final]
    · have failure := attempt tries (Nat.lt_succ_of_lt after)
      rw [List.getElem?_append_left after] at failure
      exact absurd reports (failed _ (List.mem_of_getElem? failure))

/-- A READ CAPACITY that brought a block size is the last command of its run, and
the exit status is that of the comparison. -/
theorem exit_of_reports {command : Command}
    (sent : command ∈ commands
      ((pollLoop host fd bus target interval expectedBs rounds ⟨sense, 0⟩).events driver))
    (capacity : command.IsReadCapacity) (reports : command.ReportsCapacity) :
    (pollLoop host fd bus target interval expectedBs rounds ⟨sense, 0⟩).value driver =
      .inr (if command.blockSize = expectedBs.toNat then 0 else 2) := by
  cases returned :
      (pollLoop host fd bus target interval expectedBs rounds ⟨sense, 0⟩).value driver with
  | inl head =>
      have watching := watching_head host fd bus target interval expectedBs sense returned
      exact absurd capacity (watching.answered command sent).1.not_readCapacity
  | inr status =>
      obtain ⟨head, past, reply, attempts, watching, issued, _, round⟩ :=
        pollLoop_exit_round host fd bus target interval expectedBs sense returned
      have tried : command ∈ attempts := by
        rw [issued, List.mem_append, List.mem_cons] at sent
        rcases sent with before | rfl | after
        · exact absurd capacity (watching.answered command before).1.not_readCapacity
        · exact absurd capacity
            (isRequestSense_requestSense host fd bus target reply).not_readCapacity
        · exact after
      generalize ended : (Sum.inr status : PollState ⊕ Int) = outcome at round
      cases round with
      | ready failures last _ _ failed _ =>
          rcases List.mem_append.mp tried with earlier | final
          · exact absurd reports (failed command earlier)
          · rw [List.mem_singleton.mp final]
      | noCapacity _ _ _ failed => exact absurd reports (failed command tried)
      | _ => cases tried

/-- The poll loop exits with 0, 1, 2 or 3. -/
theorem statuses_of_exit {status : Int}
    (exited : (pollLoop host fd bus target interval expectedBs rounds ⟨sense, 0⟩).value driver =
      .inr status) : status = 0 ∨ status = 1 ∨ status = 2 ∨ status = 3 := by
  obtain ⟨head, past, reply, attempts, _, _, _, round⟩ :=
    pollLoop_exit_round host fd bus target interval expectedBs sense exited
  generalize ended : (Sum.inr status : PollState ⊕ Int) = outcome at round
  cases round with
  | ready failures last =>
      rw [Sum.inr.inj ended]
      split <;> decide
  | _ => cases ended <;> decide

/-- Exit 3 comes from the one round of a run without an interval. -/
theorem notConfirmed_iff :
    (pollLoop host fd bus target interval expectedBs rounds ⟨sense, 0⟩).value driver = .inr 3 ↔
      0 < rounds ∧ interval ≤ 0 ∧ (requestSense host fd bus target driver.head).ReportsBusy := by
  rw [← Command.verdict_eq_busy_iff]
  constructor
  · intro exited
    have started : 0 < rounds := by
      cases rounds with
      | zero => cases exited
      | succ rounds => exact Nat.succ_pos rounds
    obtain ⟨_, _, _, _, _, _, _, last⟩ :=
      pollLoop_exit_round host fd bus target interval expectedBs sense exited
    obtain ⟨_, once, _⟩ := last.of_three
    obtain ⟨attempts, _, round⟩ :=
      pollLoop_once_round host fd bus target interval expectedBs sense driver once started
    rw [exited] at round
    exact ⟨started, once, round.of_three.1⟩
  · rintro ⟨started, once, busy⟩
    obtain ⟨attempts, _, round⟩ :=
      pollLoop_once_round host fd bus target interval expectedBs sense driver once started
    have answered := (round.of_busy busy).2
    rwa [if_pos once] at answered

/-- The exit with 3 comes after one poll. -/
theorem onePoll_of_exit
    (exited : (pollLoop host fd bus target interval expectedBs rounds ⟨sense, 0⟩).value driver =
      .inr 3) :
    commands ((pollLoop host fd bus target interval expectedBs rounds ⟨sense, 0⟩).events driver) =
      [requestSense host fd bus target driver.head] := by
  obtain ⟨started, once, _⟩ :=
    (notConfirmed_iff host fd bus target interval expectedBs sense).mp exited
  obtain ⟨attempts, issued, round⟩ :=
    pollLoop_once_round host fd bus target interval expectedBs sense driver once started
  rw [exited] at round
  rw [issued, round.of_three.2.2]

variable (rounds driver)

/-- **Exit statuses of the poll loop.** -/
theorem pollLoop_exits (expected : ExpectedSize expectedBs) :
    PollExits host fd bus target interval expectedBs sense rounds driver where
  ready := by
    intro status exited compared
    obtain ⟨last, ends, decided⟩ :=
      endsReady_of_exit host fd bus target interval expectedBs sense exited compared
    have bounds := expected.bounds
    have zero : status = 0 ↔ last.blockSize = expectedBs.toNat := by
      rw [decided]
      split
      · rename_i same
        exact iff_of_true rfl same
      · rename_i different
        exact iff_of_false (by decide) different
    refine ⟨last, ends, zero, fun accepted => ?_⟩
    rw [zero.mp accepted]
    omega
  forced := by
    rintro head reached rest left idle tries few refused reports
    exact forced_of_reports host fd bus target interval expectedBs sense reached left idle few
      refused reports
  notConfirmed := notConfirmed_iff host fd bus target interval expectedBs sense
  onePoll := onePoll_of_exit host fd bus target interval expectedBs sense
  statuses := fun _ exited =>
    statuses_of_exit host fd bus target interval expectedBs sense exited

/-- A drive that is idle from the start and has 512-byte blocks. -/
def readyDriver : Stream' DriverReply :=
  Stream'.cons ⟨0, some 0, [0x70, 0, 0, 0, 0, 0, 0, 0x0A], ""⟩
    (Stream'.const ⟨0, some 0, [0, 0, 0, 1, 0, 0, 2, 0], ""⟩)

theorem pollLoop_exits_ready :
    PollExits Host.sample 4 0 8 60 512 (Vector.replicate 96 0) 5 readyDriver :=
  pollLoop_exits Host.sample 4 0 8 60 512 _ 5 _ (Or.inl rfl)

/-! ### Abandoning a watch -/

/-- When a run of the poll loop gives up. -/
structure PollAbandons : Prop where
  /-- At every loop head `soft_errors` counts the failed polls just before it. -/
  heads : 0 < interval → ∀ head,
    (pollLoop host fd bus target interval expectedBs rounds ⟨sense, 0⟩).value driver =
      .inl head →
    head.softErrors = trailing pollFailed (polls
      ((pollLoop host fd bus target interval expectedBs rounds ⟨sense, 0⟩).events driver)) ∧
    0 ≤ head.softErrors ∧ head.softErrors ≤ 4
  /-- REQUEST SENSE ends the run with 1 exactly after five failed polls in a row. -/
  gaveUp : 0 < interval →
    ((pollLoop host fd bus target interval expectedBs rounds ⟨sense, 0⟩).value driver = .inr 1 ∧
      (∃ last ∈ (commands ((pollLoop host fd bus target interval expectedBs rounds
        ⟨sense, 0⟩).events driver)).getLast?, last.IsRequestSense) ↔
    LastAll pollFailed 5 (polls
      ((pollLoop host fd bus target interval expectedBs rounds ⟨sense, 0⟩).events driver)))
  /-- The only other exit with 1 is an idle drive without a capacity. -/
  others : 0 < interval →
    ((pollLoop host fd bus target interval expectedBs rounds ⟨sense, 0⟩).value driver = .inr 1 ↔
    LastAll pollFailed 5 (polls
      ((pollLoop host fd bus target interval expectedBs rounds ⟨sense, 0⟩).events driver)) ∨
    EndsWithoutCapacity (commands
      ((pollLoop host fd bus target interval expectedBs rounds ⟨sense, 0⟩).events driver)))
  /-- Without an interval the first failed poll ends the run. -/
  once : interval ≤ 0 → 0 < rounds → pollFailed (requestSense host fd bus target driver.head) →
    (pollLoop host fd bus target interval expectedBs rounds ⟨sense, 0⟩).value driver = .inr 1 ∧
    commands ((pollLoop host fd bus target interval expectedBs rounds ⟨sense, 0⟩).events driver) =
      [requestSense host fd bus target driver.head]

variable {rounds driver}

/-- The counter of soft errors is the number of polls that just failed, at most four. -/
theorem softErrors_of_head {head : PollState}
    (reached : (pollLoop host fd bus target interval expectedBs rounds ⟨sense, 0⟩).value driver =
      .inl head) :
    head.softErrors = trailing pollFailed (polls
      ((pollLoop host fd bus target interval expectedBs rounds ⟨sense, 0⟩).events driver)) ∧
    0 ≤ head.softErrors ∧ head.softErrors ≤ 4 := by
  have watching := watching_head host fd bus target interval expectedBs sense reached
  have few : head.softErrors < 5 := watching.few
  have counted := watching.counted
  rw [watching.polls_eq]
  omega

/-- A run that returned ended in its fifth failed poll in a row, or with an idle
answer and what the READ CAPACITY commands after it brought. -/
theorem pollLoop_exit_cases (polling : 0 < interval) {status : Int}
    (exited : (pollLoop host fd bus target interval expectedBs rounds ⟨sense, 0⟩).value driver =
      .inr status) :
    let events := (pollLoop host fd bus target interval expectedBs rounds ⟨sense, 0⟩).events driver
    (status = 1 ∧ LastAll pollFailed 5 (polls events) ∧
      ∃ last ∈ (commands events).getLast?, last.IsRequestSense) ∨
    (¬LastAll pollFailed 5 (polls events) ∧
      (status = 1 ∧ EndsWithoutCapacity (commands events) ∨
        status ≠ 1 ∧ ∃ last, EndsReady (commands events) last)) := by
  intro events
  obtain ⟨head, past, reply, attempts, watching, sent, capacity, round⟩ :=
    pollLoop_exit_round host fd bus target interval expectedBs sense exited
  have asked := isRequestSense_requestSense host fd bus target reply
  have polled := polls_of_exit watching sent asked capacity
  generalize requestSense host fd bus target reply = poll at sent round asked polled
  have counted := watching.counted
  rw [lastAll_iff, polled]
  cases told : poll.verdict with
  | failed =>
      obtain ⟨returned, rfl, five⟩ := round.exit_of_failed polling told
      rw [trailing_concat_pos _ ((pollFailed_iff poll).mpr told)]
      refine Or.inl ⟨returned, by omega, poll, ?_, asked⟩
      rw [sent, List.getLast?_concat]
      rfl
  | busy => exact absurd told (round.not_busy_of_exit polling)
  | idle =>
      have fails : ¬pollFailed poll := by
        rw [pollFailed_iff, told]
        decide
      rw [trailing_concat_neg _ fails, sent]
      exact Or.inr ⟨by decide, round.ends_of_idle told asked capacity⟩

/-- A watch gives up on its polls if and only if the last five of them failed. -/
theorem gaveUp_iff (polling : 0 < interval) :
    (pollLoop host fd bus target interval expectedBs rounds ⟨sense, 0⟩).value driver = .inr 1 ∧
      (∃ last ∈ (commands ((pollLoop host fd bus target interval expectedBs rounds
        ⟨sense, 0⟩).events driver)).getLast?, last.IsRequestSense) ↔
    LastAll pollFailed 5 (polls
      ((pollLoop host fd bus target interval expectedBs rounds ⟨sense, 0⟩).events driver)) := by
  constructor
  · rintro ⟨exited, last, final, asked⟩
    rcases pollLoop_exit_cases host fd bus target interval expectedBs sense polling exited with
      ⟨_, five, _⟩ | ⟨_, ⟨_, without⟩ | ⟨other, _⟩⟩
    · exact five
    · obtain ⟨attempt, same, failed⟩ := without.last_failed
      rw [Option.mem_def] at same final
      rw [final, Option.some.injEq] at same
      rw [same] at asked
      exact absurd failed.1 asked.not_readCapacity
    · exact absurd rfl other
  · intro five
    cases ended :
        (pollLoop host fd bus target interval expectedBs rounds ⟨sense, 0⟩).value driver with
    | inl head =>
        have few := softErrors_of_head host fd bus target interval expectedBs sense ended
        rw [lastAll_iff] at five
        omega
    | inr status =>
        rcases pollLoop_exit_cases host fd bus target interval expectedBs sense polling ended with
          ⟨rfl, _, last⟩ | ⟨without, _⟩
        · exact ⟨rfl, last⟩
        · exact absurd five without

/-- A watch exits with 1 in two cases and no other. -/
theorem exit_one_iff (polling : 0 < interval) :
    (pollLoop host fd bus target interval expectedBs rounds ⟨sense, 0⟩).value driver = .inr 1 ↔
    LastAll pollFailed 5 (polls
      ((pollLoop host fd bus target interval expectedBs rounds ⟨sense, 0⟩).events driver)) ∨
    EndsWithoutCapacity (commands
      ((pollLoop host fd bus target interval expectedBs rounds ⟨sense, 0⟩).events driver)) := by
  constructor
  · intro exited
    rcases pollLoop_exit_cases host fd bus target interval expectedBs sense polling exited with
      ⟨_, five, _⟩ | ⟨_, ⟨_, without⟩ | ⟨other, _⟩⟩
    · exact Or.inl five
    · exact Or.inr without
    · exact absurd rfl other
  · rintro (five | without)
    · exact ((gaveUp_iff host fd bus target interval expectedBs sense polling).mpr five).1
    · obtain ⟨last, final, failed⟩ := without.last_failed
      cases ended :
          (pollLoop host fd bus target interval expectedBs rounds ⟨sense, 0⟩).value driver with
      | inl head =>
          have watching := watching_head host fd bus target interval expectedBs sense ended
          have asked := (watching.answered last (List.mem_of_getLast? final)).1
          exact absurd failed.1 asked.not_readCapacity
      | inr status =>
          rcases pollLoop_exit_cases host fd bus target interval expectedBs sense polling ended with
            ⟨rfl, _⟩ | ⟨_, ⟨rfl, _⟩ | ⟨_, ready, ends⟩⟩
          · rfl
          · rfl
          · obtain ⟨same, reports⟩ := ends.last_reports
            rw [Option.mem_def, same, Option.some.injEq] at final
            rw [final] at reports
            exact absurd reports failed.2

/-- Without an interval, one failed poll is enough to exit with 1. -/
theorem once_of_failed (once : interval ≤ 0) (started : 0 < rounds)
    (failed : pollFailed (requestSense host fd bus target driver.head)) :
    (pollLoop host fd bus target interval expectedBs rounds ⟨sense, 0⟩).value driver = .inr 1 ∧
    commands ((pollLoop host fd bus target interval expectedBs rounds ⟨sense, 0⟩).events driver) =
      [requestSense host fd bus target driver.head] := by
  obtain ⟨attempts, issued, round⟩ :=
    pollLoop_once_round host fd bus target interval expectedBs sense driver once started
  obtain ⟨rfl, answered⟩ := round.of_failed ((pollFailed_iff _).mp failed)
  rw [if_neg (fun few => absurd few.1 (not_lt.mpr once))] at answered
  exact ⟨answered, issued⟩

variable (rounds driver)

/-- **Abandoning a watch.** -/
theorem pollLoop_abandons :
    PollAbandons host fd bus target interval expectedBs sense rounds driver where
  heads := fun _ _ reached =>
    softErrors_of_head host fd bus target interval expectedBs sense reached
  gaveUp := gaveUp_iff host fd bus target interval expectedBs sense
  others := exit_one_iff host fd bus target interval expectedBs sense
  once := once_of_failed host fd bus target interval expectedBs sense

end Run

end Megaraid
