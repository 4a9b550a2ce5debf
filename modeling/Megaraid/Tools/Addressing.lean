import Megaraid.Foundation.Replay
import Megaraid.Formatter.Discipline
import Megaraid.Progress.Program

/-!
# Where the commands go

Every command of a tool carries the low 16 bits of the host number and the low
8 bits of the target id. The target id was checked to fit. The host number was
not: a host number above 65535 is cut to that of another controller.
-/

namespace Megaraid

open Traced (Emits)

/-- The commands of a run go to the controller and the drive that were named, and
there is none if the host number does not fit the packet. -/
structure Addressed (events : List Event) (bus target : Int) : Prop where
  named : ∀ command ∈ commands events,
    (command.ioc.hostNo.toNat : Int) = bus ∧ (command.ioc.pthru.targetId.toNat : Int) = target
  unsent : 65535 < bus → commands events = []

/-- The host number fits `host_no`. -/
def HostNoFits (bus : Int) : Prop := 0 ≤ bus ∧ bus ≤ 65535

/-- A command in this event carries the host number and the target id as the
packet holds them. -/
def CarriesAddress (bus target : Int) (event : Event) : Prop :=
  ∀ command ∈ event.command?,
    command.ioc.hostNo = UInt16.ofInt bus ∧ command.ioc.pthru.targetId = UInt8.ofInt target

/-! ### What the parts of the tools send -/

section Parts

variable {α : Type} {bus target : Int} (host : Host) (fd : Int)

/-- A quiet part sends nothing, so every command it sends carries the address. -/
theorem carries_of_quiet {part : Tool α} (quiet : Quiet part) :
    Emits (CarriesAddress bus target) part := by
  refine ⟨fun driver event member command named => ?_⟩
  have sent : command ∈ commands (part.events driver) :=
    List.mem_filterMap.mpr ⟨event, member, named⟩
  rw [quiet.commands] at sent
  cases sent

theorem sleep_carries (seconds : Int) : Emits (CarriesAddress bus target) (Tool.sleep seconds) := by
  apply Emits.record
  intro command named
  cases named

/-- A command carries the address it is given. -/
theorem sendCmd_carries (cdb : List UInt8) (cdblen : Int) {n : Nat} (data : Buffer n)
    (len dir : Int) (name : Option String) :
    Emits (CarriesAddress bus target) (sendCmd fd bus target cdb cdblen data len dir name) := by
  refine .bind (.interact ?_) fun reply => .ite ?_ ?_
  · rintro reply command ⟨⟩
    exact ⟨sendCmdPacket_hostNo .., sendCmdPacket_targetId ..⟩
  · cases name with
    | some name => exact .bind (carries_of_quiet (.record rfl rfl)) fun _ => .pure _
    | none => exact .bind (.pure _) fun _ => .pure _
  · cases name with
    | some name => exact .bind (carries_of_quiet (.record rfl rfl)) fun _ => .pure _
    | none => exact .bind (.pure _) fun _ => .pure _

theorem identify_carries (name : Option String) :
    Emits (CarriesAddress bus target) (identify host fd bus target name) := by
  refine .bind (sendCmd_carries ..) fun (rc, inqData) => carries_of_quiet (.ite ?_ ?_)
  · exact .bind (.record rfl rfl) fun _ => .bind (.record rfl rfl) fun _ => .pure _
  · repeat refine .bind (.record rfl rfl) fun _ => ?_
    exact .pure _

/-- What follows the identity of a drive carries the address if its parts do. -/
theorem afterIdentity_carries (line : String) (name : Option String) {rest : Tool Int}
    (carries : Emits (CarriesAddress bus target) rest) :
    Emits (CarriesAddress bus target) (afterIdentity host fd bus target line name rest) := by
  refine .bind (carries_of_quiet (.record rfl rfl)) fun _ => ?_
  exact .bind (identify_carries ..) fun _ => .ite carries (.pure _)

theorem modeSelect_carries (blockSize : Int) :
    Emits (CarriesAddress bus target) (modeSelect host fd bus target blockSize) := by
  refine .bind (carries_of_quiet (.record rfl rfl)) fun _ => ?_
  exact .bind (sendCmd_carries ..) fun _ => .pure _

theorem countdown_carries (seconds : Nat) :
    Emits (CarriesAddress bus target) (countdown seconds) := by
  induction seconds with
  | zero => exact .pure _
  | succ seconds ih =>
      refine .bind (carries_of_quiet (.record rfl rfl)) fun _ => ?_
      exact .bind (sleep_carries 1) fun _ => ih

/-- The FORMAT UNIT behind a countdown carries the address. -/
theorem countdownAndFormat_carries {warning : Tool Unit} {report : Int → Tool Unit}
    (warns : Quiet warning) (reports : ∀ rc, Quiet (report rc)) (seconds : Nat) (step : String)
    (cdb : List UInt8) {n : Nat} (param : Buffer n) (dir : Int) (name : Option String) :
    Emits (CarriesAddress bus target)
      (countdownAndFormat warning seconds step fd bus target cdb param dir name report) := by
  refine .bind (carries_of_quiet warns) fun _ => .bind (countdown_carries seconds) fun _ => ?_
  refine .bind (carries_of_quiet (.record rfl rfl)) fun _ => .bind (sendCmd_carries ..) fun _ => ?_
  refine .bind (carries_of_quiet (reports _)) fun _ => ?_
  exact .bind (carries_of_quiet (.record rfl rfl)) fun _ => .pure _

/-- Every command of `mega_format512` to its drive carries the address. -/
theorem format512Drive_carries :
    Emits (CarriesAddress bus target) (format512Drive host fd bus target) := by
  apply afterIdentity_carries
  exact countdownAndFormat_carries fd quiet_warnFormat512 (quiet_reportFormat512 target) ..

/-- Every command of `mega_modesel` to its drive carries the address. -/
theorem modeselDrive_carries (blockSize : Int) :
    Emits (CarriesAddress bus target) (modeselDrive host fd bus target blockSize) := by
  refine afterIdentity_carries _ _ _ _ (.bind (modeSelect_carries ..) fun rc => .ite ?_ ?_)
  · refine .bind (carries_of_quiet (.record rfl rfl)) fun _ => ?_
    exact .bind (carries_of_quiet (.record rfl rfl)) fun _ => .pure _
  · exact countdownAndFormat_carries fd (quiet_warnFormatting blockSize 5) (fun _ => .pure ()) ..

/-- Every command of `mega_format_immed` to its drive carries the address. -/
theorem formatImmedDrive_carries (multicall : Bool) (device : String) (blockSize : Int) :
    Emits (CarriesAddress bus target)
      (formatImmedDrive host multicall device fd bus target blockSize) := by
  refine afterIdentity_carries _ _ _ _ (.bind (modeSelect_carries ..) fun rc => ?_)
  refine .bind (carries_of_quiet (quiet_warnModeSelect blockSize rc)) fun _ => ?_
  exact countdownAndFormat_carries fd (quiet_warnFormatting ..)
    (quiet_reportFormatImmed target blockSize multicall device) ..

theorem readCapacity10_carries (out : CapacityOut) :
    Emits (CarriesAddress bus target) (readCapacity10 host fd bus target out) :=
  .bind (sendCmd_carries ..) fun _ => .ite (.pure _) (.ite (.pure _) (.pure _))

theorem readCapacityRetries_carries (left : Nat) (out : CapacityOut) :
    Emits (CarriesAddress bus target) (readCapacityRetries host fd bus target left out) := by
  induction left generalizing out with
  | zero => exact .pure _
  | succ left ih =>
      refine .bind (readCapacity10_carries ..) fun (capOk, out) => .ite (.pure _) ?_
      exact .bind (.ite (sleep_carries 1) (.pure _)) fun _ => ih out

/-- Every command of an idle poll carries the address. -/
theorem idlePoll_carries (expectedBs : UInt32) (out : SenseOut) :
    Emits (CarriesAddress bus target) (idlePoll host fd bus target expectedBs out) := by
  refine .bind (carries_of_quiet (.ite (.record rfl rfl) (.pure _))) fun _ => ?_
  refine .bind (readCapacityRetries_carries ..) fun (capOk, cap) => carries_of_quiet (.ite ?_ ?_)
  · exact .bind (.record rfl rfl) fun _ => .bind (.record rfl rfl) fun _ => .pure _
  · exact quiet_reportReady ..

theorem failedPoll_carries (interval : Int) (state : PollState) :
    Emits (CarriesAddress bus target) (failedPoll fd interval state) := by
  refine .ite ?_ (carries_of_quiet ?_)
  · refine .bind (carries_of_quiet (.record rfl rfl)) fun _ => ?_
    exact .bind (sleep_carries interval) fun _ => .pure _
  · exact .bind (.record rfl rfl) fun _ => .bind (.record rfl rfl) fun _ => .pure _

/-- Every command of a round carries the address. -/
theorem pollIteration_carries (interval : Int) (expectedBs : UInt32) (state : PollState) :
    Emits (CarriesAddress bus target)
      (pollIteration host fd bus target interval expectedBs state) := by
  refine .bind (sendCmd_carries ..) fun (rc, sense) => .ite ?_ ?_
  · refine .bind (carries_of_quiet ?_) fun _ => failedPoll_carries ..
    exact .ite (.record rfl rfl) (.record rfl rfl)
  · refine .bind (carries_of_quiet (quiet_printState _)) fun _ => .ite (.ite ?_ ?_) ?_
    · exact .bind (carries_of_quiet (.record rfl rfl)) fun _ => .pure _
    · exact .bind (sleep_carries interval) fun _ => .pure _
    · exact .map _ (idlePoll_carries ..)

end Parts

/-! ### Runs of the tools -/

section Runs

variable {α : Type} {program drive : Tool α} {ready : Prop} {failure : α} {bus target : Int}
  {driver : Stream' DriverReply}

/-- The address of a command is the host number and the target of the part that sent it. -/
theorem commands_of_emits {part : Tool α} (carries : Emits (CarriesAddress bus target) part)
    {command : Command} (sent : command ∈ commands (part.events driver)) :
    command.ioc.hostNo = UInt16.ofInt bus ∧ command.ioc.pthru.targetId = UInt8.ofInt target := by
  obtain ⟨event, member, named⟩ := List.mem_filterMap.mp sent
  exact carries.holds driver event member command named

/-- A program that reaches its drive part sends what the drive part sends. -/
theorem commands_of_starts (starts : Starts program ready drive failure) (reached : ready) :
    commands (program.events driver) = commands (drive.events driver) := by
  obtain ⟨first, quiet, events, _⟩ := starts.started reached driver
  rw [events, commands_append, quiet, List.nil_append]

/-- A host number that fits goes into the packet unchanged, and so does a target. -/
theorem addressed_of_fits (starts : Starts program ready drive failure)
    (carries : Emits (CarriesAddress bus target) drive) (fits : HostNoFits bus ∨ ¬ready)
    (accepted : ready → 0 ≤ target ∧ target ≤ 255) :
    Addressed (program.events driver) bus target := by
  by_cases reached : ready
  · obtain ⟨lower, upper⟩ := fits.resolve_right (not_not.mpr reached)
    obtain ⟨least, most⟩ := accepted reached
    refine ⟨fun command sent => ?_, fun wide => absurd upper (not_le.mpr wide)⟩
    rw [commands_of_starts starts reached] at sent
    obtain ⟨hostNo, targetId⟩ := commands_of_emits carries sent
    rw [hostNo, targetId, toNat_ofInt_uint16, toNat_ofInt_uint8]
    omega
  · obtain ⟨sent, _⟩ := starts.stopped reached driver
    refine ⟨?_, fun _ => sent⟩
    rw [sent]
    exact List.forall_mem_nil _

/-- One command sent to the controller that was named shows that its number fits. -/
theorem fits_of_addressed (starts : Starts program ready drive failure) (reached : ready)
    (sends : ∃ command, command ∈ commands (drive.events driver))
    (addressed : Addressed (program.events driver) bus target) : HostNoFits bus := by
  obtain ⟨command, sent⟩ := sends
  rw [← commands_of_starts starts reached] at sent
  have named := (addressed.named command sent).1
  have below := command.ioc.hostNo.toNat_lt
  constructor <;> omega

/-- A run addresses its commands well exactly if the host number fits or the
program stops before its first command. -/
theorem addressed_iff (starts : Starts program ready drive failure)
    (carries : Emits (CarriesAddress bus target) drive)
    (sends : ∃ command, command ∈ commands (drive.events driver))
    (accepted : ready → 0 ≤ target ∧ target ≤ 255) :
    Addressed (program.events driver) bus target ↔ HostNoFits bus ∨ ¬ready := by
  constructor
  · intro addressed
    by_cases reached : ready
    · exact Or.inl (fits_of_addressed starts reached sends addressed)
    · exact Or.inr reached
  · exact fun fits => addressed_of_fits starts carries fits accepted

end Runs

section Programs

variable (host : Host) (multicall : Bool) (long : LongWidth) (argv : List String)
  (driver : Stream' DriverReply)

/-- The identity of a drive takes a command. -/
theorem afterIdentity_sends (fd bus target : Int) (line : String) (name : Option String)
    (rest : Tool Int) :
    ∃ command, command ∈
      commands ((afterIdentity host fd bus target line name rest).events driver) := by
  refine ⟨inquiry host fd bus target driver.head, ?_⟩
  simp [afterIdentity, identify_commands]

/-- A round of polling sends a command. -/
theorem pollLoop_sends (fd bus target interval : Int) (expectedBs : UInt32) (state : PollState) :
    ∃ command, command ∈
      commands ((pollLoop host fd bus target interval expectedBs 1 state).events driver) := by
  obtain ⟨attempts, issued, _⟩ :=
    pollIteration_round host fd bus target interval expectedBs state driver
  rw [pollLoop, Traced.iterate_one, issued]
  exact ⟨_, List.mem_cons_self⟩

/-- The target that the arguments name fits in a byte. -/
theorem targetOf_bounds (named : NamesTarget long argv) :
    0 ≤ targetOf long argv ∧ targetOf long argv ≤ 255 :=
  parseTarget_bounds named.2

/-- **Where the commands go.** -/
theorem tools_addressed :
    (Addressed ((megaFormat512 host long argv).events driver) (busOf host argv)
      (targetOf long argv) ↔ HostNoFits (busOf host argv) ∨ ¬Ready512 host long argv) ∧
    (Addressed ((megaModesel host long argv).events driver) (busOf host argv)
      (targetOf long argv) ↔ HostNoFits (busOf host argv) ∨ ¬ReadyToSet host long argv) ∧
    (Addressed ((megaFormatImmed host multicall long argv).events driver) (busOf host argv)
      (targetOf long argv) ↔ HostNoFits (busOf host argv) ∨ ¬ReadyToSet host long argv) ∧
    ((∀ rounds, Addressed ((megaProgress host long rounds argv).events driver) (busOf host argv)
      (targetOf long argv)) ↔ HostNoFits (busOf host argv) ∨ ¬ReadyToWatch host long argv) := by
  have accepted := targetOf_bounds long argv
  refine ⟨?_, ?_, ?_, ?_⟩
  · exact addressed_iff (megaFormat512_starts host long argv) (format512Drive_carries host _)
      (afterIdentity_sends ..) fun ready => accepted ready.1
  · exact addressed_iff (withBlockSize_starts host long argv quiet_modeselUsage _ _)
      (modeselDrive_carries host _ _) (afterIdentity_sends ..) fun ready => accepted ready.1
  · exact addressed_iff (withBlockSize_starts host long argv quiet_formatImmedUsage _ _)
      (formatImmedDrive_carries host _ _ _ _) (afterIdentity_sends ..) fun ready => accepted ready.1
  · have carries : ∀ rounds, Emits (CarriesAddress (busOf host argv) (targetOf long argv))
        (Sum.getRight? <$> watchOf host long argv rounds) := fun rounds =>
      .map _ (.iterate (pollIteration_carries host _ _ _) rounds _)
    constructor
    · intro addressed
      have sends : ∃ command, command ∈
          commands ((Sum.getRight? <$> watchOf host long argv 1).events driver) := by
        rw [Traced.events_map]
        exact pollLoop_sends ..
      exact (addressed_iff (megaProgress_starts host long argv 1) (carries 1) sends
        fun ready => accepted ready.1).mp (addressed 1)
    · exact fun fits rounds => addressed_of_fits (megaProgress_starts host long argv rounds)
        (carries rounds) fits fun ready => accepted ready.1

end Programs

/-- A host whose controller has a number one past what the packet holds. -/
def wideHost : Host := { Host.sample with busNumber := fun _ => ⟨0, 65536, "Success"⟩ }

/-- Every command succeeds. -/
def obedientDriver : Stream' DriverReply := Stream'.const ⟨0, some 0, [], ""⟩

/-- The controller asked for is number 65536, and FORMAT UNIT goes to controller 0. -/
theorem formatImmed_wraps :
    let argv := ["./mega_format_immed", "/dev/sda", "4"]
    let events := (megaFormatImmed wideHost false .lp64 argv).events obedientDriver
    busOf wideHost argv = 65536 ∧ targetOf .lp64 argv = 4 ∧
    (∃ command ∈ commands events, command.IsFormatUnit ∧ command.ioc.hostNo = 0 ∧
      command.ioc.pthru.targetId = 4) ∧
    ¬Addressed events (busOf wideHost argv) (targetOf .lp64 argv) := by
  intro argv events
  have bus : busOf wideHost argv = 65536 := by decide
  have target : targetOf .lp64 argv = 4 := by decide
  have ready : ReadyToSet wideHost .lp64 argv := ⟨by decide, by decide, by decide⟩
  have sent := (megaFormatImmed_discipline wideHost false .lp64 argv obedientDriver).issued ready
    (by rfl) trivial
  refine ⟨bus, target, ⟨_, sent, formatImmedSent_opcode .., ?_, ?_⟩, fun addressed => ?_⟩
  · rw [bus]
    exact sendCmdPacket_hostNo ..
  · rw [target]
    exact sendCmdPacket_targetId ..
  · have none := addressed.unsent (by rw [bus]; decide)
    rw [none] at sent
    cases sent

end Megaraid
