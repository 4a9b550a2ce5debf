import Megaraid.Foundation.Retold
import Megaraid.Progress.OneShot
import Megaraid.Progress.Program
import Megaraid.Progress.Report

/-!
# The format a drive speaks

`mega_progress` hears reports, whatever format they come in. A dialect spells every
report in some way that `parse_sense` understands. If every report that a drive gave
during a run is put in the dialect, the run is the same: the same commands, the same
lines, the same waits and the same exit status.
-/

namespace Megaraid

open Traced (Retells Replayable Emits)

/-- A way to spell reports in which each of them is heard as it was. -/
structure Dialect where
  speak : SenseReport → List UInt8
  fits : ∀ report, (speak report).length ≤ 96
  heard : ∀ report sense len out, Spells sense (speak report) → (speak report).length ≤ len →
    parseSense sense len out = (0, report.out)

/-- Every format is a dialect. -/
def SenseFormat.dialect (format : SenseFormat) : Dialect where
  speak report := format.spell report
  fits report := Nat.le_trans (format.length_spell report) (by decide)
  heard report _ _ out := parseSense_spelled format report out

variable (dialect : Dialect)

/-- The command with the report of its answer in the dialect, if it was asked for one
and brought one. -/
def Command.inDialect (command : Command) : Command :=
  if command.IsRequestSense ∧ command.decoded.1 = 0 then
    { command with
      reply := { command.reply with written := dialect.speak (.ofOut command.decoded.2) } }
  else command

def Event.inDialect : Event → Event
  | .firmware command => .firmware (command.inDialect dialect)
  | event => event

/-- The answers that a record names. -/
def replies (events : List Event) : List DriverReply := events.filterMap Event.reply?

/-! ### One answer in the dialect -/

/-- Sense buffers that tell the same, and are the same if they tell nothing. -/
structure TellsSame (sense other : Vector UInt8 96) : Prop where
  decoded : decodeSense sense.toList = decodeSense other.toList
  unheard : (decodeSense sense.toList).1 ≠ 0 → sense = other

/-- The bytes of a report in a cleared buffer. -/
theorem decodeSense_speak (report : SenseReport) :
    decodeSense (transfer (Vector.replicate 96 0) ((dialect.speak report).take 96)).toList =
      (0, report.out) := by
  have fits := dialect.fits report
  apply dialect.heard report _ _ _ _ fits
  intro i inside
  have bound : i < 96 := by omega
  rw [List.take_of_length_le fits, senseByte, List.getD_eq_getElem _ _ (by simpa using bound),
    Vector.getElem_toList, getElem_transfer _ _ _ bound]
  rw [List.getD_eq_getElem _ _ inside, List.getD_eq_getElem _ _ inside]

section Poll

variable (host : Host) (fd bus target interval : Int) (expectedBs : UInt32)

/-- What a REQUEST SENSE leaves in the buffer. -/
def heardBytes (reply : DriverReply) : Vector UInt8 96 :=
  transfer (Vector.replicate 96 0) (reply.written.take 96)

/-- What a poll decodes is what was heard of the reply. -/
theorem decoded_requestSense (reply : DriverReply) :
    (requestSense host fd bus target reply).decoded = decodeSense (heardBytes reply).toList := by
  rw [Command.decoded, received_requestSense host fd bus target (Vector.replicate 96 0)]
  rfl

/-- The answer to a REQUEST SENSE in the dialect. -/
theorem exists_reply_inDialect (reply : DriverReply) :
    ∃ spoken : DriverReply,
      (requestSense host fd bus target reply).inDialect dialect =
        requestSense host fd bus target spoken ∧
      reply.result = spoken.result ∧ reply.cmdStatus = spoken.cmdStatus ∧
      TellsSame (heardBytes reply) (heardBytes spoken) := by
  have asked := isRequestSense_requestSense host fd bus target reply
  rw [Command.inDialect, decoded_requestSense]
  by_cases told : (decodeSense (heardBytes reply).toList).1 = 0
  · refine ⟨{ reply with
      written := dialect.speak (.ofOut (decodeSense (heardBytes reply).toList).2) }, ?_, rfl, rfl,
      ?_, fun untold => absurd told untold⟩
    · rw [if_pos ⟨asked, told⟩]
      rfl
    · have heard := decodeSense_speak dialect (.ofOut (decodeSense (heardBytes reply).toList).2)
      have kept : (SenseReport.ofOut (decodeSense (heardBytes reply).toList).2).out =
          (decodeSense (heardBytes reply).toList).2 := out_ofOut told
      have whole : decodeSense (heardBytes reply).toList =
          (0, (decodeSense (heardBytes reply).toList).2) := Prod.ext told rfl
      rw [kept] at heard
      exact whole.trans heard.symm
  · exact ⟨reply, if_neg fun both => told both.2, rfl, rfl, rfl, fun _ => rfl⟩

/-! ### The poll loop on the retold answers -/

/-- The second tool, given the answers of the first in the dialect, does the same. -/
def HearsSame {α : Type} (alike : α → α → Prop) (tool other : Tool α) : Prop :=
  Retells Event.reply? (Event.inDialect dialect) alike tool other

/-- Loop heads that count the same, or the same exit. -/
def EndsAlike : PollState ⊕ Int → PollState ⊕ Int → Prop :=
  Sum.LiftRel (fun next next' => next.softErrors = next'.softErrors) Eq

/-- A part of the program that polls nothing. -/
theorem hearsSame_refl {α : Type} {tool : Tool α} (replayable : Replayable Event.reply? tool)
    (silent : ∀ driver, ∀ command ∈ commands (tool.events driver), ¬command.IsRequestSense) :
    HearsSame dialect Eq tool tool := by
  apply Retells.refl replayable
  refine ⟨fun driver event member => ?_⟩
  cases event with
  | firmware command =>
      have sent : command ∈ commands (tool.events driver) :=
        List.mem_filterMap.mpr ⟨_, member, rfl⟩
      exact congrArg Event.firmware (if_neg fun both => silent driver command sent both.1)
  | _ => rfl

/-- A quiet part hears nothing, so the dialect cannot matter. -/
theorem hearsSame_of_quiet {α : Type} {tool : Tool α} (replayable : Replayable Event.reply? tool)
    (quiet : Quiet tool) : HearsSame dialect Eq tool tool := by
  apply hearsSame_refl dialect replayable
  intro driver command sent
  rw [quiet.commands] at sent
  cases sent

/-- A recorded event without a command is told alike. -/
theorem hearsSame_record {event : Event} (noCommand : event.command? = none) :
    HearsSame dialect Eq (Traced.record event) (Traced.record event) := by
  apply hearsSame_refl dialect (.record (by rw [Event.reply?, noCommand]; rfl))
  intro driver command sent
  rw [Traced.events_record, commands_cons, noCommand] at sent
  cases sent

/-- A REQUEST SENSE whose answer comes in the dialect. -/
theorem hearsSame_requestSense (sense sense' : Vector UInt8 96) :
    HearsSame dialect
      (fun sent sent' => sent.1 = sent'.1 ∧ TellsSame sent.2.bytes sent'.2.bytes)
      (sendCmd fd bus target requestSenseCdb 6 (Buffer.clear ⟨host.addressOf .sense, sense⟩) 96
        mfiFrameDirRead none)
      (sendCmd fd bus target requestSenseCdb 6 (Buffer.clear ⟨host.addressOf .sense, sense'⟩) 96
        mfiFrameDirRead none) := by
  have next : HearsSame dialect
      (fun reply spoken => reply.result = spoken.result ∧ reply.cmdStatus = spoken.cmdStatus ∧
        TellsSame (heardBytes reply) (heardBytes spoken))
      (Tool.firmware fd (sendCmdPacket bus target requestSenseCdb 6 (host.addressOf .sense) 96
        mfiFrameDirRead) (⟨host.addressOf .sense, Vector.replicate 96 0⟩ : Buffer 96))
      (Tool.firmware fd (sendCmdPacket bus target requestSenseCdb 6 (host.addressOf .sense) 96
        mfiFrameDirRead) (⟨host.addressOf .sense, Vector.replicate 96 0⟩ : Buffer 96)) := by
    apply Retells.next
    intro reply
    obtain ⟨spoken, retold, same⟩ := exists_reply_inDialect dialect host fd bus target reply
    exact ⟨spoken, congrArg Event.firmware retold, rfl, same⟩
  apply Retells.bind next
  intro reply spoken ⟨result, cmdStatus, tells⟩
  simp only [result, cmdStatus]
  apply Retells.ite
  · exact fun _ => .pure ⟨rfl, tells⟩
  · exact fun _ => .pure ⟨rfl, tells⟩

/-- A failed poll ends alike in both runs. -/
theorem hearsSame_failedPoll {state state' : PollState}
    (same : state.softErrors = state'.softErrors) :
    HearsSame dialect EndsAlike (failedPoll fd interval state) (failedPoll fd interval state') := by
  unfold failedPoll
  simp only [same]
  apply Retells.ite
  · intro _
    apply Retells.bind_eq (hearsSame_record dialect rfl)
    intro _
    apply Retells.bind_eq (hearsSame_record dialect rfl)
    intro _
    exact .pure (.inl rfl)
  · intro _
    apply Retells.bind_eq (hearsSame_record dialect rfl)
    intro _
    apply Retells.bind_eq (hearsSame_record dialect rfl)
    intro _
    exact .pure (.inr rfl)

/-- A busy poll ends alike in both runs. -/
theorem hearsSame_busyPoll {state state' : PollState}
    (same : state.softErrors = state'.softErrors) :
    HearsSame dialect EndsAlike (busyPoll fd interval state) (busyPoll fd interval state') := by
  apply Retells.ite
  · intro _
    apply Retells.bind_eq (hearsSame_record dialect rfl)
    intro _
    exact .pure (.inr rfl)
  · intro _
    apply Retells.bind_eq (hearsSame_record dialect rfl)
    intro _
    exact .pure (.inl same)

/-- The READ CAPACITY attempts ask for no report. -/
theorem hearsSame_idlePoll (out : SenseOut) :
    HearsSame dialect Eq (idlePoll host fd bus target expectedBs out)
      (idlePoll host fd bus target expectedBs out) := by
  apply hearsSame_refl dialect (idlePoll_replayable ..)
  intro driver command sent
  rw [idlePoll_commands, (readCapacityRetries_phase ..).1] at sent
  obtain ⟨reply, _, rfl⟩ := List.mem_map.mp sent
  exact fun asked => asked.not_readCapacity (isReadCapacity_readCapacity host fd bus target reply)

/-- A round goes on alike from buffers that tell the same. -/
theorem hearsSame_answeredPoll (rc : Int) {state state' : PollState}
    (same : state.softErrors = state'.softErrors) (tells : TellsSame state.sense state'.sense) :
    HearsSame dialect EndsAlike (answeredPoll host fd bus target interval expectedBs rc state)
      (answeredPoll host fd bus target interval expectedBs rc state') := by
  unfold answeredPoll
  simp only [← tells.decoded]
  apply Retells.ite
  · intro refused
    have complaint : HearsSame dialect Eq
        (if rc ≠ 0 then Tool.printf ("REQUEST SENSE failed (status 0x" ++ hex02 rc ++ ")\n")
        else Tool.printf ("Unrecognized sense response code 0x" ++
          hex02 (state.sense[0] &&& 0x7F).toNat ++ " - cannot decode.\n"))
        (if rc ≠ 0 then Tool.printf ("REQUEST SENSE failed (status 0x" ++ hex02 rc ++ ")\n")
        else Tool.printf ("Unrecognized sense response code 0x" ++
          hex02 (state'.sense[0] &&& 0x7F).toNat ++ " - cannot decode.\n")) := by
      apply Retells.ite
      · exact fun _ => hearsSame_record dialect rfl
      · intro issued
        have unheard := refused.resolve_left issued
        rw [tells.unheard (by omega)]
        exact hearsSame_record dialect rfl
    apply Retells.bind_eq complaint
    intro _
    exact hearsSame_failedPoll dialect fd interval same
  · intro _
    apply Retells.bind_eq
      (hearsSame_of_quiet dialect (printState_replayable _) (quiet_printState _))
    intro _
    apply Retells.ite
    · exact fun _ => hearsSame_busyPoll dialect fd interval rfl
    · exact fun _ => .map (hearsSame_idlePoll ..) fun _ _ status => .inr status

/-- A round ends alike in both runs. -/
theorem hearsSame_pollIteration {state state' : PollState}
    (same : state.softErrors = state'.softErrors) :
    HearsSame dialect EndsAlike (pollIteration host fd bus target interval expectedBs state)
      (pollIteration host fd bus target interval expectedBs state') := by
  apply Retells.bind (hearsSame_requestSense dialect host fd bus target state.sense state'.sense)
  intro ⟨rc, sense⟩ ⟨rc', sense'⟩ ⟨status, tells⟩
  simp only at status tells
  simp only [status]
  exact hearsSame_answeredPoll dialect host fd bus target interval expectedBs rc' same tells

/-- The poll loop ends alike in both runs. -/
theorem hearsSame_pollLoop (rounds : Nat) (state : PollState) :
    HearsSame dialect EndsAlike (pollLoop host fd bus target interval expectedBs rounds state)
      (pollLoop host fd bus target interval expectedBs rounds state) :=
  .iterate (fun _ _ same => hearsSame_pollIteration dialect host fd bus target interval
    expectedBs same) rounds rfl

end Poll

/-! ### The program -/

section Program

variable (host : Host) (long : LongWidth) (rounds : Nat) (argv : List String)

theorem progressUsage_replayable (name : String) :
    Replayable Event.reply? (progressUsage name) := by
  unfold progressUsage
  repeat refine .bind (.record rfl) fun _ => ?_
  exact .record rfl

theorem requireTarget_replayable :
    Replayable Event.reply? (requireTarget progressUsage long argv) := by
  apply Replayable.ite
  · exact .bind (progressUsage_replayable _) fun _ => .pure _
  · exact .ite (.bind (.record rfl) fun _ => .pure _) (.pure _)

theorem progressRequest_replayable (target : Int) :
    Replayable Event.reply? (progressRequest long argv target) := by
  apply Replayable.ite
  · apply Replayable.ite
    · exact .bind (.record rfl) fun _ => .pure _
    · exact .bind (.ite (.record rfl) (.pure _)) fun _ => .pure _
  · exact .pure _

theorem openController_replayable (device openDevError openMegaError : String) :
    Replayable Event.reply? (openController host device openDevError openMegaError) := by
  apply Replayable.bind (.consult rfl)
  intro fdDev
  apply Replayable.ite
  · exact .bind (.record rfl) fun _ => .pure _
  · apply Replayable.bind (.consult rfl)
    intro bus
    apply Replayable.ite
    · exact .bind (.record rfl) fun _ => .bind (.record rfl) fun _ => .pure _
    · apply Replayable.bind (.record rfl)
      intro _
      apply Replayable.bind (.consult rfl)
      intro fdMega
      exact .ite (.bind (.record rfl) fun _ => .pure _) (.pure _)

/-- Watching a drive ends alike in both runs. -/
theorem hearsSame_watchDrive (request : ProgressRequest) :
    HearsSame dialect Eq (watchDrive host rounds request) (watchDrive host rounds request) := by
  apply Retells.bind_eq
    (hearsSame_of_quiet dialect (openController_replayable ..) (quiet_openController ..))
  intro opened
  cases opened with
  | none => exact .pure rfl
  | some controller =>
      apply Retells.map (hearsSame_pollLoop ..)
      intro ended ended' alike
      cases alike with
      | inl next => rfl
      | inr status => rw [status]

/-- `mega_progress` ends alike in both runs. -/
theorem hearsSame_megaProgress :
    HearsSame dialect Eq (megaProgress host long rounds argv)
      (megaProgress host long rounds argv) := by
  apply Retells.bind_eq (hearsSame_of_quiet dialect (requireTarget_replayable long argv)
    (quiet_requireTarget long argv quiet_progressUsage))
  intro target
  cases target with
  | none => exact .pure rfl
  | some target =>
      apply Retells.bind_eq (hearsSame_of_quiet dialect
        (progressRequest_replayable long argv target) (quiet_progressRequest long argv target))
      intro request
      cases request with
      | none => exact .pure rfl
      | some request => exact hearsSame_watchDrive ..

/-- A report in a retold run is in the dialect. -/
theorem exists_report_of_mem_polls {events : List Event} {poll : Command}
    (asked : poll ∈ polls (events.map (Event.inDialect dialect))) (told : poll.decoded.1 = 0) :
    ∃ report, poll.reply.written = dialect.speak report := by
  rw [polls, List.mem_filter, decide_eq_true_iff] at asked
  obtain ⟨event, member, issued⟩ := List.mem_filterMap.mp asked.1
  obtain ⟨original, _, rfl⟩ := List.mem_map.mp member
  cases original with
  | firmware command =>
      obtain rfl : command.inDialect dialect = poll := Option.some.inj issued
      by_cases both : command.IsRequestSense ∧ command.decoded.1 = 0
      · refine ⟨.ofOut command.decoded.2, ?_⟩
        rw [Command.inDialect, if_pos both]
      · have unchanged : command.inDialect dialect = command := if_neg both
        rw [unchanged] at asked told
        exact absurd ⟨asked.2, told⟩ both
  | _ => cases issued

/-- **A drive may speak any dialect.** When the reports that a run was given are put in the
dialect, the run is the same but for their bytes. -/
theorem megaProgress_hears_reports (driver rest : Stream' DriverReply) :
    let tool := megaProgress host long rounds argv
    let spoken := (tool.events driver).map (Event.inDialect dialect)
    tool (replies spoken ++ₛ rest) = ⟨tool.value driver, spoken, rest⟩ ∧
      ∀ poll ∈ polls spoken, poll.decoded.1 = 0 →
        ∃ report, poll.reply.written = dialect.speak report := by
  intro tool spoken
  have retells := hearsSame_megaProgress dialect host long rounds argv
  exact ⟨retells.run_eq driver rest, fun _ asked told =>
    exists_report_of_mem_polls dialect asked told⟩

end Program

end Megaraid
