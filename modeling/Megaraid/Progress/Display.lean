import Megaraid.Foundation.Rounding
import Megaraid.Progress.Report
import Megaraid.Progress.Texts
import Megaraid.Progress.Watch
import Megaraid.Progress.Program

/-!
# The progress on the terminal

While a drive reports how far it is, every round of the watch prints one line with
the percentage. A run prints such lines for the polls that brought a progress, in
their order, and no others; each shows the number of that poll, rounded to the
nearest tenth of a percent. They are known by their labels, and nothing else that is
printed has a percent sign.
-/

namespace Megaraid

open Traced (Emits)

/-! ### The percentage -/

/-- A number of tenths as `%.1f` prints it. -/
def tenthsText (n : Nat) : String := decimal (n / 10 : Nat) ++ "." ++ decimal (n % 10 : Nat)

/-- The tenths of a percent that are printed for a progress. -/
def percentTenths (progress : Nat) : Nat := roundHalfEven (progress * 1000) 65536

/-- The printed percentage is the tenths of a percent, with the point in its place. -/
theorem percent_eq (progress : Nat) : percent progress = tenthsText (percentTenths progress) := by
  have half : ∀ quotient rest : Nat,
      (if 32768 < rest ∨ rest = 32768 ∧ quotient % 2 = 1 then quotient + 1 else quotient) =
        if 65536 < 2 * rest ∨ 2 * rest = 65536 ∧ quotient % 2 = 1 then quotient + 1
        else quotient := by
    intro quotient rest
    congr 1
    apply propext
    omega
  unfold percent tenthsText percentTenths roundHalfEven
  rw [Int.toNat_natCast]
  simp only [half]

/-- The tenths of a percent are a nearest integer. -/
theorem roundsTo_percentTenths (progress : Nat) :
    RoundsTo (progress * 1000) 65536 (percentTenths progress) :=
  roundsTo_roundHalfEven _ (by decide)

/-- A drive that is nearly there is shown at 100.0 and never above. -/
theorem percentTenths_full {progress : Nat} (bound : progress ≤ 65535) :
    percentTenths progress ≤ 1000 ∧ (percentTenths progress = 1000 ↔ 65504 ≤ progress) := by
  have rounds := roundsTo_percentTenths progress
  have below := rounds.below
  have above := rounds.above
  omega

/-! ### The lines -/

/-- What the line about a state begins with, if it goes on with a percentage. -/
def progressLabel : DriveState → Option String
  | .formatting => some "FORMAT IN PROGRESS: "
  | .backgroundOp => some "Background operation in progress: "
  | _ => none

/-- The text begins like a line with a percentage. -/
def ShowsProgress (text : String) : Prop :=
  "FORMAT IN PROGRESS: ".toList <+: text.toList ∨
    "Background operation in progress: ".toList <+: text.toList

instance (text : String) : Decidable (ShowsProgress text) :=
  inferInstanceAs (Decidable (_ ∨ _))

/-- The lines of a run with a percentage, in order. -/
def progressLines (events : List Event) : List String :=
  (printed events).filter fun text => ShowsProgress text

/-- The line with the percentage that decoded sense data ask for. -/
def progressLine (out : SenseOut) : Option String :=
  if 0 ≤ out.progress then
    (progressLabel out.state).map fun label =>
      label ++ percent out.progress ++ "% (" ++ decimal out.progress ++ "/65536)\n"
  else none

/-- The line with a percentage that a poll asks for. -/
def Command.progressLine (poll : Command) : Option String :=
  if poll.verdict = .busy then Megaraid.progressLine poll.decoded.2 else none

/-- The lines of two records one after the other. -/
theorem progressLines_append (first second : List Event) :
    progressLines (first ++ second) = progressLines first ++ progressLines second := by
  rw [progressLines, printed_append, List.filter_append]
  rfl

/-- The first character of a text. -/
def OpensWith (c : Char) (text : String) : Prop := text.toList.head? = some c

/-- The first character of a literal. -/
theorem OpensWith.literal {c : Char} {chars : List Char} :
    OpensWith c (String.ofList (c :: chars)) := by
  rw [OpensWith, String.toList_ofList]
  rfl

/-- What follows leaves the first character. -/
theorem OpensWith.append {c : Char} {text : String} (opens : OpensWith c text) (more : String) :
    OpensWith c (text ++ more) := by
  rw [OpensWith, String.toList_append, List.head?_append, opens]
  rfl

/-- A text that begins otherwise shows no percentage. -/
theorem OpensWith.not_showsProgress {c : Char} {text : String} (opens : OpensWith c text)
    (other : c ≠ 'F' ∧ c ≠ 'B') : ¬ShowsProgress text := by
  have format : OpensWith 'F' "FORMAT IN PROGRESS: " := .literal
  have background : OpensWith 'B' "Background operation in progress: " := .literal
  rintro (⟨rest, same⟩ | ⟨rest, same⟩)
  · rw [OpensWith, ← same, List.head?_append, format] at opens
    exact other.1 (Option.some.inj opens).symm
  · rw [OpensWith, ← same, List.head?_append, background] at opens
    exact other.2 (Option.some.inj opens).symm

/-- A label is how a line with a percentage begins. -/
theorem showsProgress_label {state : DriveState} {label : String}
    (labelled : progressLabel state = some label) : ShowsProgress label := by
  cases state with
  | formatting =>
      obtain rfl : "FORMAT IN PROGRESS: " = label := Option.some.inj labelled
      exact Or.inl (List.prefix_refl _)
  | backgroundOp =>
      obtain rfl : "Background operation in progress: " = label := Option.some.inj labelled
      exact Or.inr (List.prefix_refl _)
  | _ => cases labelled

/-- What follows leaves a label at the front. -/
theorem ShowsProgress.append {text : String} (shows : ShowsProgress text) (more : String) :
    ShowsProgress (text ++ more) := by
  rw [ShowsProgress, String.toList_append]
  exact shows.imp (·.trans (List.prefix_append _ _)) (·.trans (List.prefix_append _ _))

/-! ### Parts without a percentage -/

/-- A text without a percent sign. -/
def PercentFree (text : String) : Prop := MadeOf (· ≠ '%') text

instance (text : String) : Decidable (PercentFree text) :=
  decidable_of_iff (text.toList.all (· != '%') = true) (by simp [PercentFree, MadeOf])

theorem percentFree_numeral (c : Char) (numeral : isNumeral c) : c ≠ '%' := by
  intro same
  rw [same] at numeral
  exact absurd numeral (by decide)

@[simp] theorem percentFree_append (first second : String) :
    PercentFree (first ++ second) ↔ PercentFree first ∧ PercentFree second := by
  simp only [PercentFree, MadeOf, String.toList_append, List.forall_mem_append]

@[simp] theorem percentFree_decimal (n : Int) : PercentFree (decimal n) :=
  .of_decimal percentFree_numeral n

@[simp] theorem percentFree_hex (n : UInt8) : PercentFree (hex n) :=
  .of_hex percentFree_numeral n

@[simp] theorem percentFree_hex02 (n : Int) : PercentFree (hex02 n) :=
  .of_hex02 percentFree_numeral n

/-- The texts that a run of `mega_progress` takes from elsewhere, its name and the
capacity, have no percent sign. -/
structure BringsNoPercent (host : Host) (argv : List String) : Prop where
  name : PercentFree (argv.getD 0 "")
  sizes : ∀ lastLba blockSize, PercentFree (host.terabytes lastLba blockSize)

/-- The event shows no percentage, nor a percent sign if the texts from elsewhere are
`proper`. -/
def Unmarked (proper : Prop) (event : Event) : Prop :=
  ∀ text ∈ event.stdout?, ¬ShowsProgress text ∧ (proper → PercentFree text)

/-- The event is no command and unmarked. -/
def Plain (proper : Prop) (event : Event) : Prop := event.command? = none ∧ Unmarked proper event

/-- The event has a percent sign only in a line with a percentage. -/
def Speaks (proper : Prop) (event : Event) : Prop :=
  ∀ text ∈ event.stdout?, proper → '%' ∈ text.toList → ShowsProgress text

/-- An unmarked event has no percent sign at all. -/
theorem Unmarked.speaks {proper : Prop} {event : Event} (unmarked : Unmarked proper event) :
    Speaks proper event :=
  fun text shown holds member => absurd rfl ((unmarked text shown).2 holds '%' member)

section Unmarked

variable {proper : Prop}

/-- A text is told apart from the lines with a percentage by its first character. -/
theorem plain_printf {c : Char} {text : String} (opens : OpensWith c text)
    (other : c ≠ 'F' ∧ c ≠ 'B') (free : proper → PercentFree text) :
    Emits (Plain proper) (Tool.printf text) := by
  apply Emits.record
  refine ⟨rfl, fun shown same => ?_⟩
  obtain rfl : text = shown := Option.some.inj same
  exact ⟨opens.not_showsProgress other, free⟩

/-- An event that prints nothing to the standard output. -/
theorem plain_record {event : Event} (noCommand : event.command? = none)
    (noText : event.stdout? = none) : Emits (Plain proper) (Traced.record event : Tool Unit) := by
  apply Emits.record
  refine ⟨noCommand, fun shown same => ?_⟩
  rw [noText] at same
  cases same

end Unmarked

/-- The record of a part agrees with its polls on the lines with a percentage. -/
def Agrees (events : List Event) : Prop :=
  progressLines events = (polls events).filterMap Command.progressLine

/-- Two parts that agree make one that agrees. -/
theorem Agrees.append {first second : List Event} (early : Agrees first) (late : Agrees second) :
    Agrees (first ++ second) := by
  have asked : polls (first ++ second) = polls first ++ polls second := by
    rw [polls, commands_append, List.filter_append]
    rfl
  rw [Agrees, progressLines_append, asked, List.filterMap_append, early, late]

/-- Unmarked events print no line with a percentage. -/
theorem progressLines_of_unmarked {proper : Prop} {events : List Event}
    (unmarked : ∀ event ∈ events, Unmarked proper event) : progressLines events = [] := by
  rw [progressLines, List.filter_eq_nil_iff]
  intro text shown
  obtain ⟨event, member, same⟩ := List.mem_filterMap.mp shown
  rw [decide_eq_true_iff]
  exact (unmarked event member text same).1

/-- A part that asks for no line and prints none agrees. -/
theorem agrees_of_plain {proper : Prop} {events : List Event}
    (plain : ∀ event ∈ events, Plain proper event) : Agrees events := by
  have silent : commands events = [] :=
    List.filterMap_eq_nil_iff.mpr fun event member => (plain event member).1
  rw [Agrees, progressLines_of_unmarked fun event member => (plain event member).2, polls, silent]
  rfl

section Parts

variable {proper : Prop} (host : Host) (fd bus target interval : Int) (expectedBs : UInt32)

theorem plain_failedPoll (state : PollState) :
    Emits (Plain proper) (failedPoll fd interval state) := by
  apply Emits.ite
  · have retry : Emits (Plain proper) (Tool.printf ("  (transient? retry " ++
        decimal (state.softErrors + 1) ++ "/" ++ decimal maxSoftErrors ++ " in " ++
        decimal interval ++ "s)\n")) :=
      plain_printf (.append (.append (.append (.append (.append (.append .literal _) _) _) _) _) _)
        (by decide) fun _ => by simp +decide
    exact .bind retry fun _ => .bind (plain_record rfl rfl) fun _ => .pure _
  · have abandon : Emits (Plain proper)
        (Tool.printf "Giving up - wrong target, or the drive has stopped responding.\n") :=
      plain_printf .literal (by decide) fun _ => by decide
    exact .bind abandon fun _ => .bind (plain_record rfl rfl) fun _ => .pure _

theorem plain_busyPoll (state : PollState) : Emits (Plain proper) (busyPoll fd interval state) := by
  apply Emits.ite
  · exact .bind (plain_record rfl rfl) fun _ => .pure _
  · exact .bind (plain_record rfl rfl) fun _ => .pure _

variable {host} in

theorem plain_reportReady
    (sizes : proper → ∀ lastLba blockSize, PercentFree (host.terabytes lastLba blockSize))
    (cap : CapacityOut) : Emits (Plain proper) (reportReady host fd expectedBs cap) := by
  have ready : Emits (Plain proper) (Tool.printf ("Drive ready: block size " ++
      decimal cap.blockSize.toNat ++ " bytes")) :=
    plain_printf (.append (.append .literal _) _) (by decide) fun _ => by simp +decide
  have exceeds : Emits (Plain proper)
      (Tool.printf ", capacity exceeds READ CAPACITY(10) range\n") :=
    plain_printf .literal (by decide) fun _ => by decide
  have blocks : Emits (Plain proper) (Tool.printf (", " ++ decimal (cap.lastLba + 1).toNat ++
      " blocks (" ++ host.terabytes cap.lastLba cap.blockSize ++ " TB)\n")) :=
    plain_printf (.append (.append (.append (.append .literal _) _) _) _) (by decide)
      fun holds => by simp +decide [sizes holds]
  have note : Emits (Plain proper) (Tool.printf ("NOTE: block size is " ++
      decimal cap.blockSize.toNat ++ ", not " ++ decimal expectedBs.toNat ++
      " - the reformat has not taken effect.\n")) :=
    plain_printf (.append (.append (.append (.append .literal _) _) _) _) (by decide)
      fun _ => by simp +decide
  apply Emits.bind ready
  intro _
  apply Emits.bind (.ite exceeds blocks)
  intro _
  apply Emits.bind (.ite note (.pure _))
  intro _
  exact .bind (plain_record rfl rfl) fun _ => .pure _

/-- A command without a name prints nothing. -/
theorem unmarked_sendCmd (cdb : List UInt8) (cdblen : Int) {n : Nat} (data : Buffer n)
    (len dir : Int) :
    Emits (Unmarked proper) (sendCmd fd bus target cdb cdblen data len dir none) := by
  apply Emits.bind
  · apply Emits.interact
    intro reply text shown
    cases shown
  · intro reply
    exact .ite (.bind (.pure _) fun _ => .pure _) (.bind (.pure _) fun _ => .pure _)

/-- The READ CAPACITY attempts show no percentage. -/
theorem unmarked_readCapacityRetries (left : Nat) (out : CapacityOut) :
    Emits (Unmarked proper) (readCapacityRetries host fd bus target left out) := by
  have wait : Emits (Unmarked proper) (Tool.sleep 1) :=
    (plain_record rfl rfl).mono fun _ plain => plain.2
  induction left generalizing out with
  | zero => exact .pure _
  | succ left ih =>
      apply Emits.bind
      · apply Emits.bind (unmarked_sendCmd ..)
        intro (rc, cap)
        exact .ite (.pure _) (.ite (.pure _) (.pure _))
      · intro (capOk, out)
        exact .ite (.pure _) (.bind (.ite wait (.pure _)) fun _ => ih out)

variable {host} in

/-- An idle poll shows no percentage. -/
theorem unmarked_idlePoll
    (sizes : proper → ∀ lastLba blockSize, PercentFree (host.terabytes lastLba blockSize))
    (out : SenseOut) : Emits (Unmarked proper) (idlePoll host fd bus target expectedBs out) := by
  have key : Emits (Plain proper) (if out.senseKey ≠ 0x00 then
      Tool.printf ("sense key=0x" ++ hex out.senseKey ++ " ASC=0x" ++ hex02 out.asc.toNat ++
        " ASCQ=0x" ++ hex02 out.ascq.toNat ++ " (no format in progress)\n")
      else pure ()) :=
    .ite (plain_printf (.append (.append (.append (.append (.append (.append .literal _) _) _) _) _)
      _) (by decide) fun _ => by simp +decide) (.pure _)
  have failed : Emits (Plain proper) (Tool.printf
      ("No format in progress, but READ CAPACITY failed " ++ decimal readCapTries ++
        " times - drive not ready.\n")) :=
    plain_printf (.append (.append .literal _) _) (by decide) fun _ => by simp +decide
  apply Emits.bind (key.mono fun _ plain => plain.2)
  intro _
  apply Emits.bind (unmarked_readCapacityRetries ..)
  intro (capOk, cap)
  have rest : Emits (Plain proper) (if capOk ≠ 0 then do
        Tool.printf ("No format in progress, but READ CAPACITY failed " ++ decimal readCapTries ++
          " times - drive not ready.\n")
        Tool.close fd
        return 1
      else reportReady host fd expectedBs cap) :=
    .ite (.bind failed fun _ => .bind (plain_record rfl rfl) fun _ => .pure _)
      (plain_reportReady fd expectedBs sizes cap)
  exact rest.mono fun _ plain => plain.2

/-- The line about a state, if it shows a percentage. -/
theorem progressLines_printState (out : SenseOut) (driver : Stream' DriverReply) :
    progressLines ((printState out).events driver) = (progressLine out).toList := by
  have shown : ∀ text, ShowsProgress text →
      progressLines ((Tool.printf text).events driver) = [text] := fun text shows =>
    List.filter_cons_of_pos (decide_eq_true shows)
  have hidden : ∀ text, ¬ShowsProgress text →
      progressLines ((Tool.printf text).events driver) = [] := fun text unmarked =>
    List.filter_cons_of_neg (by rwa [decide_eq_true_iff])
  cases told : out.state with
  | formatting =>
      have label := showsProgress_label (rfl : progressLabel .formatting = some _)
      simp only [printState, progressLine, told]
      by_cases given : 0 ≤ out.progress
      · rw [if_pos given, if_pos given,
          shown _ ((((label.append _).append _).append _).append _)]
        rfl
      · rw [if_neg given, if_neg given, hidden _ (by decide)]
        rfl
  | backgroundOp =>
      have label := showsProgress_label (rfl : progressLabel .backgroundOp = some _)
      have given : 0 ≤ out.progress := ((classify_eq_backgroundOp_iff ..).mp told).2.2
      simp only [printState, progressLine, told]
      rw [if_pos given, shown _ ((((label.append _).append _).append _).append _)]
      rfl
  | notReady =>
      have opens : OpensWith 'D' "Drive NOT READY (ASC=0x" := .literal
      simp only [printState, progressLine, told]
      rw [hidden _
        (((((opens.append _).append _).append _).append _).not_showsProgress (by decide))]
      simp only [progressLabel, Option.map_none, ite_self, Option.toList_none]
  | unitAttention =>
      have opens : OpensWith 'U' "UNIT ATTENTION (ASC=0x" := .literal
      simp only [printState, progressLine, told]
      rw [hidden _
        (((((opens.append _).append _).append _).append _).not_showsProgress (by decide))]
      simp only [progressLabel, Option.map_none, ite_self, Option.toList_none]
  | idle =>
      simp only [printState, progressLine, told, progressLabel, Option.map_none, ite_self]
      rfl

/-- What is printed about a poll that was not answered. -/
theorem plain_refused (rc code : Int) (state : PollState) : Emits (Plain proper) (do
    (if rc ≠ 0 then
      Tool.printf ("REQUEST SENSE failed (status 0x" ++ hex02 rc ++ ")\n")
    else
      Tool.printf ("Unrecognized sense response code 0x" ++ hex02 code ++ " - cannot decode.\n"))
    failedPoll fd interval state) := by
  have status : Emits (Plain proper) (Tool.printf ("REQUEST SENSE failed (status 0x" ++
      hex02 rc ++ ")\n")) :=
    plain_printf (.append (.append .literal _) _) (by decide) fun _ => by simp +decide
  have unrecognized : Emits (Plain proper) (Tool.printf ("Unrecognized sense response code 0x" ++
      hex02 code ++ " - cannot decode.\n")) :=
    plain_printf (.append (.append .literal _) _) (by decide) fun _ => by simp +decide
  exact .bind (.ite status unrecognized) fun _ => plain_failedPoll ..

/-- An answered poll prints the line that its sense data ask for, if it is busy. -/
theorem progressLines_answeredPoll (rc : Int) (state : PollState) (driver : Stream' DriverReply) :
    progressLines ((answeredPoll host fd bus target interval expectedBs rc state).events driver) =
      if verdictOf rc state.sense.toList = .busy then
        (progressLine (decodeSense state.sense.toList).2).toList
      else [] := by
  have silent : ∀ {β : Type} {part : Tool β}, Emits (Plain False) part → ∀ driver,
      progressLines (part.events driver) = [] := fun plain driver =>
    progressLines_of_unmarked fun event member => (plain.holds driver event member).2
  have printed := quiet_printState (decodeSense state.sense.toList).2
  cases told : verdictOf rc state.sense.toList with
  | failed =>
      have refused := (verdictOf_eq_failed_iff rc state.sense.toList).mp told
      rw [if_neg Verdict.noConfusion]
      simp only [answeredPoll, if_pos refused]
      exact silent (plain_refused fd interval rc _ state) driver
  | busy =>
      obtain ⟨accepted, running⟩ := (verdictOf_eq_busy_iff rc state.sense.toList).mp told
      have rest := silent (plain_busyPoll fd interval { state with softErrors := 0 }) driver
      simp only [answeredPoll, if_neg accepted, if_pos running, Traced.events_bind, printed.world,
        progressLines_append, progressLines_printState, rest, List.append_nil, if_true]
  | idle =>
      obtain ⟨accepted, done⟩ := (verdictOf_eq_idle_iff rc state.sense.toList).mp told
      have noLine : progressLine (decodeSense state.sense.toList).2 = none := by
        simp only [progressLine, done, progressLabel, Option.map_none, ite_self]
      have rest : Emits (Unmarked False)
          (idlePoll host fd bus target expectedBs (decodeSense state.sense.toList).2) :=
        unmarked_idlePoll fd bus target expectedBs False.elim _
      rw [if_neg Verdict.noConfusion]
      simp only [answeredPoll, if_neg accepted, if_neg (not_not.mpr done), Traced.events_bind,
        Traced.events_map, progressLines_append, progressLines_printState, noLine, printed.world,
        progressLines_of_unmarked (rest.holds driver)]
      rfl

/-- The lines of a round with a percentage are those its poll asks for. -/
theorem agrees_pollIteration (state : PollState) (driver : Stream' DriverReply) :
    Agrees ((pollIteration host fd bus target interval expectedBs state).events driver) := by
  obtain ⟨attempts, issued, answers, _⟩ :=
    pollIteration_round host fd bus target interval expectedBs state driver
  have received := received_requestSense host fd bus target state.sense driver.head
  have sent := sendCmd_value fd bus target requestSenseCdb 6
    (Buffer.clear ⟨host.addressOf .sense, state.sense⟩) 96 mfiFrameDirRead none driver
  rw [sentCommand_sense] at sent
  have capacity : ∀ attempt ∈ attempts, attempt.IsReadCapacity := by
    intro attempt member
    rw [answers] at member
    obtain ⟨reply, _, rfl⟩ := List.mem_map.mp member
    exact isReadCapacity_readCapacity host fd bus target reply
  have asked : polls ((pollIteration host fd bus target interval expectedBs state).events driver) =
      [requestSense host fd bus target driver.head] := by
    have poll := isRequestSense_requestSense host fd bus target driver.head
    have rest : attempts.filter (fun command => command.IsRequestSense) = [] := by
      rw [List.filter_eq_nil_iff]
      intro attempt member sense
      exact (of_decide_eq_true sense).not_readCapacity (capacity attempt member)
    rw [polls, issued, List.filter_cons_of_pos (by rwa [decide_eq_true_iff]), rest]
  have one : ∀ poll : Command,
      [poll].filterMap Command.progressLine = poll.progressLine.toList := by
    intro poll
    cases asks : poll.progressLine with
    | none => exact List.filterMap_cons_none asks
    | some line => exact List.filterMap_cons_some asks
  rw [Agrees, asked, one, Command.progressLine, Command.verdict, Command.decoded, received]
  have silent : Emits (Unmarked False) (sendCmd fd bus target requestSenseCdb 6
    (Buffer.clear ⟨host.addressOf .sense, state.sense⟩) 96 mfiFrameDirRead none) :=
    unmarked_sendCmd ..
  rw [pollIteration, Traced.events_bind, progressLines_append,
    progressLines_of_unmarked (silent.holds driver), sent, List.nil_append,
    progressLines_answeredPoll, apply_ite Option.toList]
  rfl

/-- The poll loop agrees with its polls. -/
theorem agrees_pollLoop (rounds : Nat) (state : PollState) (driver : Stream' DriverReply) :
    Agrees ((pollLoop host fd bus target interval expectedBs rounds state).events driver) :=
  Traced.iterate_induction _ rfl fun _ state driver before =>
    before.append (agrees_pollIteration host fd bus target interval expectedBs state driver)

end Parts

/-! ### Percent signs -/

section Percent

variable {proper : Prop} {host : Host}
  (sizes : proper → ∀ lastLba blockSize, PercentFree (host.terabytes lastLba blockSize))
  (fd bus target interval : Int) (expectedBs : UInt32)

/-- A plain event has no percent sign at all. -/
theorem Plain.speaks {event : Event} (plain : Plain proper event) : Speaks proper event :=
  plain.2.speaks

/-- Printing the state shows percent signs in lines with a percentage only. -/
theorem speaks_printState (out : SenseOut) : Emits (Speaks proper) (printState out) := by
  have line : ∀ text, ShowsProgress text → Emits (Speaks proper) (Tool.printf text) := by
    intro text shows
    apply Emits.record
    intro shown same _ _
    obtain rfl : text = shown := Option.some.inj same
    exact shows
  have other : ∀ text, PercentFree text → Emits (Speaks proper) (Tool.printf text) := by
    intro text free
    apply Emits.record
    intro shown same _ member
    obtain rfl : text = shown := Option.some.inj same
    exact absurd rfl (free '%' member)
  unfold printState
  split
  · have label := showsProgress_label (rfl : progressLabel .formatting = some _)
    exact .ite (line _ ((((label.append _).append _).append _).append _)) (other _ (by decide))
  · exact other _ (by simp +decide)
  · have label := showsProgress_label (rfl : progressLabel .backgroundOp = some _)
    exact line _ ((((label.append _).append _).append _).append _)
  · exact other _ (by simp +decide)
  · exact .pure _

include sizes

/-- A round shows percent signs in lines with a percentage only. -/
theorem speaks_pollIteration (state : PollState) :
    Emits (Speaks proper) (pollIteration host fd bus target interval expectedBs state) := by
  apply Emits.bind ((unmarked_sendCmd ..).mono fun _ => Unmarked.speaks)
  intro (rc, sense)
  apply Emits.ite
  · exact (plain_refused fd interval rc _ { state with sense := sense.bytes }).mono fun _ =>
      Plain.speaks
  · apply Emits.bind (speaks_printState _)
    intro _
    apply Emits.ite
    · exact (plain_busyPoll ..).mono fun _ => Plain.speaks
    · exact .map _ ((unmarked_idlePoll fd bus target expectedBs sizes _).mono fun _ =>
        Unmarked.speaks)

end Percent

/-! ### The program -/

section Program

variable {proper : Prop} (host : Host) (long : LongWidth) (rounds : Nat) (argv : List String)
  (driver : Stream' DriverReply)

theorem plain_progressUsage {name : String} (named : proper → PercentFree name) :
    Emits (Plain proper) (progressUsage name) := by
  have line : ∀ {c : Char} {chars : List Char}, c ≠ 'F' ∧ c ≠ 'B' →
      PercentFree (String.ofList (c :: chars)) →
      Emits (Plain proper) (Tool.printf (String.ofList (c :: chars))) :=
    fun other free => plain_printf .literal other fun _ => free
  have usage : Emits (Plain proper) (Tool.printf ("Usage: " ++ name ++
      " <block_device> <target_id> [interval_seconds] [expected_block_size]\n")) :=
    plain_printf (.append (.append .literal _) _) (by decide)
      fun holds => by simp +decide [named holds]
  apply Emits.bind (line (by decide) (by decide))
  intro _
  apply Emits.bind usage
  intro _
  apply Emits.bind (line (by decide) (by decide))
  intro _
  apply Emits.bind (line (by decide) (by decide))
  intro _
  apply Emits.bind (line (by decide) (by decide))
  intro _
  exact .bind (line (by decide) (by decide)) fun _ => line (by decide) (by decide)

variable {argv} in

theorem plain_requireTarget (named : proper → PercentFree (argv.getD 0 "")) :
    Emits (Plain proper) (requireTarget progressUsage long argv) := by
  apply Emits.ite
  · exact .bind (plain_progressUsage named) fun _ => .pure _
  · exact .ite (.bind (plain_record rfl rfl) fun _ => .pure _) (.pure _)

theorem plain_progressRequest (target : Int) :
    Emits (Plain proper) (progressRequest long argv target) := by
  have warning : ∀ bs, Emits (Plain proper) (warnUnusualExpected bs) := fun bs =>
    .ite (plain_record rfl rfl) (.pure _)
  apply Emits.ite
  · apply Emits.ite
    · exact .bind (plain_record rfl rfl) fun _ => .pure _
    · exact .bind (warning _) fun _ => .pure _
  · exact .pure _

theorem plain_openController (device openDevError openMegaError : String) :
    Emits (Plain proper) (openController host device openDevError openMegaError) := by
  have opened : ∀ path nonblock, Emits (Plain proper) (Tool.openFile host path nonblock) :=
    fun _ _ => .interact fun _ => ⟨rfl, fun _ none => by cases none⟩
  have numbered : ∀ fd, Emits (Plain proper) (Tool.getBusNumber host fd) := fun _ =>
    .interact fun _ => ⟨rfl, fun _ none => by cases none⟩
  apply Emits.bind (opened device true)
  intro fdDev
  apply Emits.ite
  · exact .bind (plain_record rfl rfl) fun _ => .pure _
  · apply Emits.bind (numbered fdDev)
    intro bus
    apply Emits.ite
    · exact .bind (plain_record rfl rfl) fun _ => .bind (plain_record rfl rfl) fun _ => .pure _
    · apply Emits.bind (plain_record rfl rfl)
      intro _
      apply Emits.bind (opened _ false)
      intro fdMega
      exact .ite (.bind (plain_record rfl rfl) fun _ => .pure _) (.pure _)

/-- Watching a drive agrees with its polls. -/
theorem agrees_watchDrive (request : ProgressRequest) :
    Agrees ((watchDrive host rounds request).events driver) := by
  have opens : Emits (Plain False)
      (openController host request.device "open dev" "open megaraid") := plain_openController ..
  rw [watchDrive, Traced.events_bind]
  apply Agrees.append (agrees_of_plain (opens.holds driver))
  split
  · rfl
  · rw [Traced.events_map]
    exact agrees_pollLoop ..

/-- The lines of a run with a percentage are those its polls ask for. -/
theorem agrees_megaProgress : Agrees ((megaProgress host long rounds argv).events driver) := by
  have target : Emits (Plain False) (requireTarget progressUsage long argv) :=
    plain_requireTarget long False.elim
  have request : ∀ target, Emits (Plain False) (progressRequest long argv target) :=
    plain_progressRequest long argv
  rw [megaProgress, Traced.events_bind]
  apply Agrees.append (agrees_of_plain (target.holds driver))
  split
  · rfl
  · rw [Traced.events_bind]
    apply Agrees.append (agrees_of_plain ((request _).holds _))
    split
    · rfl
    · exact agrees_watchDrive ..

/-- Nothing a run prints but a line with a percentage has a percent sign, unless it comes
from elsewhere. -/
theorem speaks_megaProgress :
    Emits (Speaks (BringsNoPercent host argv)) (megaProgress host long rounds argv) := by
  have target : Emits (Plain (BringsNoPercent host argv)) (requireTarget progressUsage long argv) :=
    plain_requireTarget long BringsNoPercent.name
  apply Emits.bind (target.mono fun _ => Plain.speaks)
  intro target
  cases target with
  | none => exact .pure _
  | some target =>
      apply Emits.bind ((plain_progressRequest long argv target).mono fun _ => Plain.speaks)
      intro request
      cases request with
      | none => exact .pure _
      | some request =>
          apply Emits.bind ((plain_openController host ..).mono fun _ => Plain.speaks)
          intro opened
          cases opened with
          | none => exact .pure _
          | some opened =>
              exact .map _ (.iterate
                (speaks_pollIteration BringsNoPercent.sizes _ _ _ _ _) rounds _)

/-! ### What a line shows -/

/-- A line shows the progress that a poll reported, at a number of tenths of a percent. -/
structure ShowsPoll (poll : Command) (line : String) (progress tenths : Nat) : Prop where
  reported : poll.decoded.2.progress = progress
  key : poll.decoded.2.senseKey = 0x00 ∨ poll.decoded.2.senseKey = 0x02
  text : ∃ label, progressLabel poll.decoded.2.state = some label ∧
    line = label ++ tenthsText tenths ++ "% (" ++ decimal progress ++ "/65536)\n"
  nearest : RoundsTo (progress * 1000) 65536 tenths
  bounded : progress ≤ 65535 ∧ tenths ≤ 1000
  /-- It reads 100.0 before the drive is at the end. -/
  full : tenths = 1000 ↔ 65504 ≤ progress

/-- A poll that asks for a line tells which percentage the line shows. -/
theorem exists_showsPoll {poll : Command} {line : String} (asks : poll.progressLine = some line) :
    ∃ progress tenths, ShowsPoll poll line progress tenths := by
  have busy : poll.verdict = .busy := by
    by_contra other
    rw [Command.progressLine, if_neg other] at asks
    cases asks
  rw [Command.progressLine, if_pos busy, progressLine] at asks
  split at asks
  · rename_i given
    obtain ⟨label, labelled, shown⟩ := Option.map_eq_some_iff.mp asks
    have accepted := ((verdictOf_eq_busy_iff ..).mp busy).1
    have decoded : poll.decoded.1 = 0 := by
      have result := parseSense_result ⟨0, 0, 0, -1⟩ (senseByte poll.received) 96
      exact result.resolve_right fun refused => accepted (Or.inr (refused.trans_lt (by decide)))
    obtain ⟨prog, _, out⟩ := parseSense_decoded decoded
    have gated := given
    rw [Command.decoded, decodeSense, out] at gated
    have key := ((gatedProgress_nonneg_iff ..).mp gated).2
    have bound : poll.decoded.2.progress ≤ 65535 := parseSense_progress_le ..
    obtain ⟨progress, same⟩ := Int.eq_ofNat_of_zero_le given
    rw [same] at bound shown
    have full := percentTenths_full (Int.ofNat_le.mp bound)
    refine ⟨progress, percentTenths progress, same, ?_, ⟨label, labelled, ?_⟩,
      roundsTo_percentTenths progress, ⟨Int.ofNat_le.mp bound, full.1⟩, full.2⟩
    · rw [Command.decoded, decodeSense, out]
      exact key
    · rw [← shown, percent_eq]
  · cases asks

/-- What is printed with a percent sign, in order. -/
def percentTexts (events : List Event) : List String :=
  (printed events).filter fun text => '%' ∈ text.toList

/-- A line with a percentage has a percent sign. -/
theorem percent_mem_progressLine {poll : Command} {line : String}
    (asks : poll.progressLine = some line) : '%' ∈ line.toList := by
  obtain ⟨progress, tenths, shows⟩ := exists_showsPoll asks
  obtain ⟨label, _, rfl⟩ := shows.text
  simp

/-- The texts with a percent sign are the lines with a percentage. -/
theorem percentTexts_eq_progressLines (proper : BringsNoPercent host argv) :
    percentTexts ((megaProgress host long rounds argv).events driver) =
      progressLines ((megaProgress host long rounds argv).events driver) := by
  apply List.filter_congr
  intro text shown
  rw [decide_eq_decide]
  constructor
  · intro sign
    obtain ⟨event, member, same⟩ := List.mem_filterMap.mp shown
    exact (speaks_megaProgress host long rounds argv).holds driver event member text same proper
      sign
  · intro shows
    have line : text ∈ progressLines ((megaProgress host long rounds argv).events driver) :=
      List.mem_filter.mpr ⟨shown, decide_eq_true shows⟩
    rw [agrees_megaProgress] at line
    obtain ⟨poll, _, asks⟩ := List.mem_filterMap.mp line
    exact percent_mem_progressLine asks

/-- The lines of a run with a percentage, and what they show. -/
structure FaithfulDisplay (host : Host) (argv : List String) (events : List Event) : Prop where
  /-- Every poll that brought a progress has its line, and there are no others. -/
  lines : progressLines events = (polls events).filterMap Command.progressLine
  /-- Nor is anything else with a percent sign printed. -/
  others : BringsNoPercent host argv →
    percentTexts events = (polls events).filterMap Command.progressLine
  shown : ∀ poll ∈ polls events, ∀ line, poll.progressLine = some line →
    ∃ progress tenths, ShowsPoll poll line progress tenths
  /-- What is further along is not shown as less far. -/
  ordered : ∀ poll ∈ polls events, ∀ later ∈ polls events, ∀ line line' progress progress'
    tenths tenths', ShowsPoll poll line progress tenths →
    ShowsPoll later line' progress' tenths' → progress ≤ progress' → tenths ≤ tenths'

/-- **The operator reads what the drive reports.** -/
theorem megaProgress_display :
    FaithfulDisplay host argv ((megaProgress host long rounds argv).events driver) where
  lines := agrees_megaProgress host long rounds argv driver
  others proper := by
    rw [percentTexts_eq_progressLines host long rounds argv driver proper]
    exact agrees_megaProgress host long rounds argv driver
  shown _ _ _ asks := exists_showsPoll asks
  ordered _ _ _ _ _ _ _ _ _ _ one other le :=
    one.nearest.mono (by decide) (Nat.mul_le_mul_right 1000 le) other.nearest

end Program

end Megaraid
