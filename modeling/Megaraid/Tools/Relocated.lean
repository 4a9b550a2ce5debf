import Megaraid.Foundation.Simulation
import Megaraid.Tools.Multicall

/-!
# Where the arrays lie

The local arrays of the tools have addresses, which go into the packets, and bytes
that nobody wrote. Neither decides anything: on a host that differs in them alone,
every run does the same, but for the addresses in its packets.
-/

namespace Megaraid

open Traced (Simulates)

/-- The host with the arrays of the tools elsewhere, and with other bytes in them. -/
def Host.relocate (host : Host) (addressOf : Local → UInt64)
    (uninitialized : Local → Nat → UInt8) : Host :=
  { host with addressOf := addressOf, uninitialized := uninitialized }

/-- The packet with the addresses off. -/
def MegasasIocpacket.unaddressed (ioc : MegasasIocpacket) : MegasasIocpacket :=
  { ioc with
    pthru := { ioc.pthru with sgl := { ioc.pthru.sgl with physAddr := 0 } }
    sgl := ioc.sgl.map fun iovec => { iovec with iovBase := 0 } }

/-- The event with the addresses off. -/
def Event.unaddressed : Event → Event
  | .firmware command => .firmware { command with ioc := command.ioc.unaddressed, address := 0 }
  | event => event

/-- Events that differ in addresses only, and not at all if the arrays stay in place. -/
structure Unmoved (inPlace : Prop) (event other : Event) : Prop where
  unaddressed : event.unaddressed = other.unaddressed
  inPlace : inPlace → event = other

/-- Arrays with the same bytes, at the same place if the arrays stay in place. -/
structure SameBytes (inPlace : Prop) {n : Nat} (buffer other : Buffer n) : Prop where
  bytes : buffer.bytes = other.bytes
  inPlace : inPlace → buffer.addr = other.addr

variable {inPlace : Prop}

/-- An event is not moved against itself. -/
theorem unmoved_refl (event : Event) : Unmoved inPlace event event := ⟨rfl, fun _ => rfl⟩

/-- What a tool does that knows no array. -/
theorem unmoved {α : Type} (tool : Tool α) : Simulates Eq (Unmoved inPlace) Eq tool tool :=
  .refl unmoved_refl tool

/-! ### One command -/

section Command

variable (fd bus target : Int) (cdb : List UInt8) (cdblen len dir : Int) {n : Nat}
  {data other : Buffer n}

/-- Packets that differ in the array's address only are the same once it is left out. -/
theorem unaddressed_sendCmdPacket (addr addr' : UInt64) :
    (sendCmdPacket bus target cdb cdblen addr len dir).unaddressed =
      (sendCmdPacket bus target cdb cdblen addr' len dir).unaddressed := by
  unfold sendCmdPacket MegasasIocpacket.unaddressed
  by_cases some : 0 < len
  · simp only [if_pos some, Vector.map_set]
  · simp only [if_neg some]

/-- A command on the same bytes elsewhere has the same result and leaves the same bytes. -/
theorem sendCmd_unmoved (name : Option String) (same : SameBytes inPlace data other) :
    Simulates Eq (Unmoved inPlace)
      (fun sent sent' => sent.1 = sent'.1 ∧ SameBytes inPlace sent.2 sent'.2)
      (sendCmd fd bus target cdb cdblen data len dir name)
      (sendCmd fd bus target cdb cdblen other len dir name) := by
  obtain ⟨addr, bytes⟩ := data
  obtain ⟨addr', bytes'⟩ := other
  obtain ⟨rfl, kept⟩ := same
  have issued : ∀ reply, Unmoved inPlace
      (.firmware ⟨fd, sendCmdPacket bus target cdb cdblen addr len dir, addr, bytes.toList, reply⟩)
      (.firmware ⟨fd, sendCmdPacket bus target cdb cdblen addr' len dir, addr', bytes.toList,
        reply⟩) := by
    refine fun reply => ⟨?_, fun stays => ?_⟩
    · rw [Event.unaddressed, unaddressed_sendCmdPacket bus target cdb cdblen len dir addr addr']
      rfl
    · rw [show addr = addr' from kept stays]
  have status : ∀ reply : DriverReply,
      reply.cmdStatus.getD (sendCmdPacket bus target cdb cdblen addr len dir).pthru.cmdStatus =
        reply.cmdStatus.getD (sendCmdPacket bus target cdb cdblen addr' len dir).pthru.cmdStatus :=
    fun _ => rfl
  apply Simulates.bind_eq (.ask issued)
  intro reply
  apply Simulates.ite
  · intro failed
    cases name with
    | none => exact .pure ⟨rfl, rfl, kept⟩
    | some name => exact .bind (unmoved _) fun _ _ _ => .pure ⟨rfl, rfl, kept⟩
  · intro completed
    simp only [status]
    cases name with
    | none => exact .pure ⟨rfl, rfl, kept⟩
    | some name => exact .bind (unmoved _) fun _ _ _ => .pure ⟨rfl, rfl, kept⟩

end Command

/-! ### The tools -/

section Tools

variable (errnoOf : String → Int) (host : Host) (addressOf : Local → UInt64)
  (uninitialized : Local → Nat → UInt8) (fd bus target interval blockSize : Int)
  (expectedBs : UInt32) (long : LongWidth) (rounds : Nat) (argv : List String)

/-- The tool does the same on a relocated host. -/
def Relocates {α : Type} (tool : Host → Tool α) : Prop :=
  Simulates Eq (Unmoved (addressOf = host.addressOf)) Eq (tool host)
    (tool (host.relocate addressOf uninitialized))

/-- The same bytes, at the place the host has for them. -/
theorem sameBytes_of_addressOf (which : Local) {n : Nat} (bytes : Vector UInt8 n) :
    SameBytes (addressOf = host.addressOf) ⟨host.addressOf which, bytes⟩
      ⟨addressOf which, bytes⟩ :=
  ⟨rfl, fun stays => (congrFun stays which).symm⟩

/-- A command on an array that was cleared before. -/
theorem sendCmd_cleared (which : Local) {n : Nat} (bytes bytes' : Vector UInt8 n)
    (cdb : List UInt8) (cdblen len dir : Int) (name : Option String) :
    Simulates Eq (Unmoved (addressOf = host.addressOf))
      (fun sent sent' => sent.1 = sent'.1 ∧
        SameBytes (addressOf = host.addressOf) sent.2 sent'.2)
      (sendCmd fd bus target cdb cdblen (Buffer.clear ⟨host.addressOf which, bytes⟩) len dir name)
      (sendCmd fd bus target cdb cdblen (Buffer.clear ⟨addressOf which, bytes'⟩) len dir name) :=
  sendCmd_unmoved fd bus target cdb cdblen len dir name
    (sameBytes_of_addressOf host addressOf which (Vector.replicate n 0))

theorem readCapacity10_relocates (out : CapacityOut) :
    Relocates host addressOf uninitialized (readCapacity10 · fd bus target out) := by
  apply Simulates.bind (sendCmd_cleared ..)
  intro ⟨rc, cap⟩ ⟨rc', cap'⟩ ⟨same, bytes, _⟩
  simp only at same bytes
  simp only [same, bytes]
  exact unmoved _

theorem readCapacityRetries_relocates (left : Nat) (out : CapacityOut) :
    Relocates host addressOf uninitialized (readCapacityRetries · fd bus target left out) := by
  induction left generalizing out with
  | zero => exact unmoved _
  | succ left ih =>
      apply Simulates.bind_eq (readCapacity10_relocates ..)
      intro ⟨capOk, out⟩
      apply Simulates.ite
      · exact fun _ => unmoved _
      · exact fun _ => .bind (unmoved _) fun _ _ _ => ih out

/-- An idle poll does the same wherever its array lies. -/
theorem idlePoll_relocates (out : SenseOut) :
    Relocates host addressOf uninitialized (idlePoll · fd bus target expectedBs out) := by
  apply Simulates.bind_eq (unmoved _)
  intro _
  apply Simulates.bind_eq (readCapacityRetries_relocates ..)
  intro ⟨capOk, cap⟩
  exact .ite (fun _ => unmoved _) fun _ => unmoved _

/-- An answered poll does the same wherever its arrays lie. -/
theorem answeredPoll_relocates (rc : Int) (state : PollState) :
    Relocates host addressOf uninitialized
      (answeredPoll · fd bus target interval expectedBs rc state) := by
  apply Simulates.ite
  · exact fun _ => unmoved _
  · intro _
    apply Simulates.bind_eq (unmoved _)
    intro _
    apply Simulates.ite
    · exact fun _ => unmoved _
    · exact fun _ => .map (idlePoll_relocates ..) fun _ _ same => congrArg Sum.inr same

/-- A round sees the sense buffer only after it has cleared it. -/
theorem pollIteration_relocates {state state' : PollState}
    (same : state.softErrors = state'.softErrors) :
    Simulates Eq (Unmoved (addressOf = host.addressOf))
      (Sum.LiftRel (fun next next' => next.softErrors = next'.softErrors) Eq)
      (pollIteration host fd bus target interval expectedBs state)
      (pollIteration (host.relocate addressOf uninitialized) fd bus target interval expectedBs
        state') := by
  obtain ⟨sense, softErrors⟩ := state
  obtain ⟨sense', softErrors'⟩ := state'
  obtain rfl : softErrors = softErrors' := same
  apply Simulates.bind (sendCmd_cleared ..)
  intro ⟨rc, answer⟩ ⟨rc', answer'⟩ ⟨status, bytes, _⟩
  simp only at status bytes
  simp only [status, bytes]
  have round := answeredPoll_relocates host addressOf uninitialized fd bus target interval
    expectedBs rc' ⟨answer'.bytes, softErrors⟩
  have ended : ∀ ended ended' : PollState ⊕ Int, ended = ended' →
      Sum.LiftRel (fun next next' => next.softErrors = next'.softErrors) Eq ended ended' := by
    intro ended _ same
    subst same
    cases ended with
    | inl next => exact .inl rfl
    | inr status => exact .inr rfl
  exact round.mono ended

/-- The poll loop does the same wherever its arrays lie. -/
theorem pollLoop_relocates {state state' : PollState}
    (same : state.softErrors = state'.softErrors) :
    Simulates Eq (Unmoved (addressOf = host.addressOf))
      (Sum.LiftRel (fun next next' => next.softErrors = next'.softErrors) Eq)
      (pollLoop host fd bus target interval expectedBs rounds state)
      (pollLoop (host.relocate addressOf uninitialized) fd bus target interval expectedBs rounds
        state') :=
  .iterate (fun _ _ counted => pollIteration_relocates host addressOf uninitialized fd bus target
    interval expectedBs counted) rounds same

/-- Watching a drive does not depend on the arrays. -/
theorem watchDrive_relocates (request : ProgressRequest) :
    Relocates host addressOf uninitialized (watchDrive · rounds request) := by
  apply Simulates.bind_eq (unmoved (openController host request.device "open dev" "open megaraid"))
  intro opened
  cases opened with
  | none => exact unmoved _
  | some opened =>
      obtain ⟨fdMega, busNo⟩ := opened
      have counted : (⟨(host.array .sense 96).bytes, 0⟩ : PollState).softErrors =
          (⟨((host.relocate addressOf uninitialized).array .sense 96).bytes, 0⟩ :
            PollState).softErrors := rfl
      have loop := pollLoop_relocates host addressOf uninitialized fdMega busNo request.target
        request.interval request.expectedBs rounds counted
      refine loop.map fun ended ended' alike => ?_
      cases alike with
      | inl next => rfl
      | inr status => rw [status]

/-- `mega_progress` does not depend on its arrays. -/
theorem megaProgress_relocates :
    Relocates host addressOf uninitialized (megaProgress · long rounds argv) := by
  apply Simulates.bind_eq (unmoved (requireTarget progressUsage long argv))
  intro target
  cases target with
  | none => exact unmoved _
  | some target =>
      apply Simulates.bind_eq (unmoved (progressRequest long argv target))
      intro request
      cases request with
      | none => exact unmoved _
      | some request => exact watchDrive_relocates ..

theorem identify_relocates (name : Option String) :
    Relocates host addressOf uninitialized (identify · fd bus target name) := by
  apply Simulates.bind (sendCmd_cleared ..)
  intro ⟨rc, inqData⟩ ⟨rc', inqData'⟩ ⟨status, bytes, _⟩
  simp only at status bytes
  simp only [status, bytes]
  exact unmoved _

/-- What follows the identity of a drive does not depend on the arrays if its rest does not. -/
theorem afterIdentity_relocates {rest : Host → Tool Int} (line : String) (name : Option String)
    (relocates : Relocates host addressOf uninitialized rest) :
    Relocates host addressOf uninitialized
      fun host => afterIdentity host fd bus target line name (rest host) := by
  apply Simulates.bind_eq (unmoved _)
  intro _
  apply Simulates.bind_eq (identify_relocates ..)
  intro found
  exact .ite (fun _ => relocates) fun _ => unmoved _

theorem modeSelect_relocates :
    Relocates host addressOf uninitialized (modeSelect · fd bus target blockSize) := by
  apply Simulates.bind_eq (unmoved _)
  intro _
  apply Simulates.bind (sendCmd_unmoved _ _ _ _ _ _ _ _
    (sameBytes_of_addressOf host addressOf .modeSelData _))
  intro ⟨rc, data⟩ ⟨rc', data'⟩ ⟨status, _⟩
  exact .pure status

/-- The end of a formatter, with the parameter list of FORMAT UNIT elsewhere. -/
theorem countdownAndFormat_unmoved (warning : Tool Unit) (seconds : Nat) (step : String)
    (cdb : List UInt8) {n : Nat} {param param' : Buffer n} (dir : Int) (name : Option String)
    (report : Int → Tool Unit) (same : SameBytes inPlace param param') :
    Simulates Eq (Unmoved inPlace) Eq
      (countdownAndFormat warning seconds step fd bus target cdb param dir name report)
      (countdownAndFormat warning seconds step fd bus target cdb param' dir name report) := by
  apply Simulates.bind_eq (unmoved _)
  intro _
  apply Simulates.bind_eq (unmoved _)
  intro _
  apply Simulates.bind_eq (unmoved _)
  intro _
  apply Simulates.bind (sendCmd_unmoved _ _ _ _ _ _ _ _ same)
  intro ⟨rc, data⟩ ⟨rc', data'⟩ ⟨status, _⟩
  simp only at status
  simp only [status]
  exact unmoved _

/-- `mega_format512` treats its drive alike wherever the arrays lie. -/
theorem format512Drive_relocates :
    Relocates host addressOf uninitialized (format512Drive · fd bus target) :=
  afterIdentity_relocates _ _ _ _ _ _ _ _
    (countdownAndFormat_unmoved _ _ _ _ _ _ _ _ _ _
      (sameBytes_of_addressOf host addressOf .formatParam _))

/-- `mega_modesel` treats its drive alike wherever the arrays lie. -/
theorem modeselDrive_relocates :
    Relocates host addressOf uninitialized (modeselDrive · fd bus target blockSize) := by
  apply afterIdentity_relocates
  apply Simulates.bind_eq (modeSelect_relocates ..)
  intro rc
  exact unmoved _

/-- `mega_format_immed` treats its drive alike wherever the arrays lie. -/
theorem formatImmedDrive_relocates (multicall : Bool) (device : String) :
    Relocates host addressOf uninitialized
      (formatImmedDrive · multicall device fd bus target blockSize) := by
  apply afterIdentity_relocates
  apply Simulates.bind_eq (modeSelect_relocates ..)
  intro rc
  apply Simulates.bind_eq (unmoved _)
  intro _
  exact countdownAndFormat_unmoved _ _ _ _ _ _ _ _ _ _
    (sameBytes_of_addressOf host addressOf .formatParam _)

/-- `mega_format512` does not depend on its arrays. -/
theorem megaFormat512_relocates :
    Relocates host addressOf uninitialized (megaFormat512 · long argv) := by
  apply Simulates.bind_eq (unmoved (requireTarget format512Usage long argv))
  intro target
  cases target with
  | none => exact unmoved _
  | some target =>
      apply Simulates.bind_eq (unmoved _)
      intro _
      apply Simulates.bind_eq
        (unmoved (openController host (argv.getD 1 "") "open" "open megaraid"))
      intro opened
      cases opened with
      | none => exact unmoved _
      | some opened =>
          obtain ⟨fdMega, busNo⟩ := opened
          exact format512Drive_relocates ..

/-- The two tools with a block size do not depend on their arrays if their drive parts
do not. -/
theorem withBlockSize_relocates (usage : String → Tool Unit) (openMegaError : String)
    {drive : Host → (fdMega busNo target blockSize : Int) → Tool Int}
    (relocates : ∀ fdMega busNo target blockSize,
      Relocates host addressOf uninitialized (drive · fdMega busNo target blockSize)) :
    Relocates host addressOf uninitialized
      fun host => withBlockSize usage openMegaError (drive host) host long argv := by
  apply Simulates.bind_eq (unmoved (requireTarget usage long argv))
  intro target
  cases target with
  | none => exact unmoved _
  | some target =>
      apply Simulates.bind_eq (unmoved (requireBlockSize long argv))
      intro blockSize
      cases blockSize with
      | none => exact unmoved _
      | some blockSize =>
          apply Simulates.bind_eq (unmoved _)
          intro _
          apply Simulates.bind_eq
            (unmoved (openController host (argv.getD 1 "") "open dev" openMegaError))
          intro opened
          cases opened with
          | none => exact unmoved _
          | some opened =>
              obtain ⟨fdMega, busNo⟩ := opened
              exact relocates ..

/-- `mega_inquiry` treats its drive alike wherever the arrays lie. -/
theorem inquiryDrive_relocates :
    Relocates host addressOf uninitialized (inquiryDrive errnoOf · fd bus target) := by
  have issued : ∀ reply, Unmoved (addressOf = host.addressOf)
      (.firmware ⟨fd, handBuiltPacket bus target (host.addressOf .inqData),
        host.addressOf .inqData, (Vector.replicate 96 0).toList, reply⟩)
      (.firmware ⟨fd, handBuiltPacket bus target (addressOf .inqData), addressOf .inqData,
        (Vector.replicate 96 0).toList, reply⟩) := by
    refine fun reply => ⟨?_, fun stays => by rw [stays]⟩
    rw [handBuiltPacket_eq, handBuiltPacket_eq, Event.unaddressed, unaddressed_sendCmdPacket]
    rfl
  apply Simulates.bind_eq (Simulates.ask issued)
  intro reply
  exact unmoved _

/-- `mega_inquiry` does not depend on its arrays. -/
theorem megaInquiry_relocates :
    Relocates host addressOf uninitialized (megaInquiry errnoOf · long argv) := by
  apply Simulates.bind_eq (unmoved (requireTarget inquiryUsage long argv))
  intro target
  cases target with
  | none => exact unmoved _
  | some target =>
      apply Simulates.bind_eq (unmoved (openForInquiry host (argv.getD 1 "") target))
      intro opened
      cases opened with
      | none => exact unmoved _
      | some opened =>
          obtain ⟨fdMega, busNo⟩ := opened
          exact inquiryDrive_relocates ..

/-- An applet does not depend on its arrays. -/
theorem Applet.main_relocates (applet : Applet) :
    Relocates host addressOf uninitialized (applet.main errnoOf · long rounds argv) := by
  have exits : ∀ status status' : Int, status = status' → some status = some status' :=
    fun _ _ => congrArg some
  cases applet with
  | inquiry => exact .map (megaInquiry_relocates ..) exits
  | format512 => exact .map (megaFormat512_relocates ..) exits
  | modesel =>
      exact .map (withBlockSize_relocates _ _ _ _ _ _ _ fun _ _ _ _ =>
        modeselDrive_relocates ..) exits
  | formatImmed =>
      exact .map (withBlockSize_relocates _ _ _ _ _ _ _ fun _ _ _ _ =>
        formatImmedDrive_relocates ..) exits
  | progress => exact megaProgress_relocates ..
  | checkSize => exact unmoved _

/-- A standalone tool does not depend on its arrays. -/
theorem Applet.standalone_relocates (applet : Applet) :
    Relocates host addressOf uninitialized (applet.standalone errnoOf · long rounds argv) := by
  by_cases immed : applet = .formatImmed
  · subst immed
    have tool : Relocates host addressOf uninitialized (megaFormatImmed · false long argv) :=
      withBlockSize_relocates _ _ _ _ _ _ _ fun _ _ _ _ => formatImmedDrive_relocates ..
    exact .map tool fun _ _ => congrArg some
  · have same := fun host => Applet.standalone_eq_main errnoOf host long rounds immed argv
    rw [Relocates, same, same]
    exact applet.main_relocates errnoOf host addressOf uninitialized long rounds argv

/-- The unified binary does not depend on its arrays. -/
theorem megaraidMain_relocates :
    Relocates host addressOf uninitialized (megaraidMain errnoOf · long rounds argv) := by
  rcases runs_cases argv with ⟨applet, called, suffix, runs⟩ | ⟨_, usage | unknown⟩
  · have same := fun host => megaraidMain_of_runs errnoOf host long rounds runs
    rw [Relocates, same, same]
    exact applet.main_relocates errnoOf host addressOf uninitialized long rounds called
  · rw [Relocates, megaraidMain, megaraidMain, usage, usage]
    exact unmoved _
  · rw [Relocates, megaraidMain, megaraidMain, unknown, unknown]
    exact unmoved _

/-- Runs that differ in the addresses in their packets only, and not at all if the
arrays stay in place. -/
structure SameElsewhere (inPlace : Prop) (tool other : Tool (Option Int)) : Prop where
  events : ∀ driver, (tool.events driver).map Event.unaddressed =
    (other.events driver).map Event.unaddressed
  value : ∀ driver, tool.value driver = other.value driver
  inPlace : inPlace → ∀ driver, tool.events driver = other.events driver

/-- What the simulation shows, told of whole runs. -/
theorem sameElsewhere_of_simulates {tool other : Tool (Option Int)}
    (simulates : Simulates Eq (Unmoved inPlace) Eq tool other) :
    SameElsewhere inPlace tool other where
  events _ := simulates.map_eq (fun _ _ alike => alike.unaddressed) rfl
  value driver := simulates.value driver driver rfl
  inPlace stays driver := by
    have same := simulates.map_eq (fun _ _ alike => alike.inPlace stays)
      (rfl : driver = driver)
    rwa [List.map_id', List.map_id'] at same

/-- **Nothing depends on where the arrays lie or what was in them.** -/
theorem tools_relocate :
    (∀ applet : Applet, SameElsewhere (addressOf = host.addressOf)
      (applet.standalone errnoOf host long rounds argv)
      (applet.standalone errnoOf (host.relocate addressOf uninitialized) long rounds argv)) ∧
    SameElsewhere (addressOf = host.addressOf) (megaraidMain errnoOf host long rounds argv)
      (megaraidMain errnoOf (host.relocate addressOf uninitialized) long rounds argv) :=
  ⟨fun applet => sameElsewhere_of_simulates
      (applet.standalone_relocates errnoOf host addressOf uninitialized long rounds argv),
    sameElsewhere_of_simulates
      (megaraidMain_relocates errnoOf host addressOf uninitialized long rounds argv)⟩

end Tools

end Megaraid
