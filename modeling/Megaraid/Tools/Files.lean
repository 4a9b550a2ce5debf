import Megaraid.Device.Session
import Megaraid.Tools.Multicall

/-!
# The tools keep up their dialogue with the kernel

Every run of every tool is accepted by the monitor of `Device.Session`, and a run
that has returned has closed what it opened.
-/

namespace Megaraid

open Traced (Emits Triple)

/-- An event at the terminal. -/
def Prints : Event → Prop
  | .stdout _ | .stderr _ | .perror _ _ | .setLineBuffered => True
  | _ => False

/-! ### Parts that only print -/

section Terminal

theorem prints_format512Usage (name : String) : Emits Prints (format512Usage name) := by
  repeat refine .bind (.record trivial) fun _ => ?_
  exact .record trivial

theorem prints_modeselUsage (name : String) : Emits Prints (modeselUsage name) := by
  repeat refine .bind (.record trivial) fun _ => ?_
  exact .record trivial

theorem prints_formatImmedUsage (name : String) : Emits Prints (formatImmedUsage name) := by
  repeat refine .bind (.record trivial) fun _ => ?_
  exact .record trivial

theorem prints_progressUsage (name : String) : Emits Prints (progressUsage name) := by
  repeat refine .bind (.record trivial) fun _ => ?_
  exact .record trivial

theorem prints_megaraidUsage (prog : String) : Emits Prints (megaraidUsage prog) := by
  refine .bind (.record trivial) fun _ => .bind (.record trivial) fun _ => ?_
  refine .bind (.record trivial) fun _ => .bind (.forM (fun _ => .record trivial) _) fun _ => ?_
  repeat refine .bind (.record trivial) fun _ => ?_
  exact .pure _

variable (long : LongWidth) (argv : List String)

theorem prints_requireTarget {usage : String → Tool Unit}
    (prints : ∀ name, Emits Prints (usage name)) :
    Emits Prints (requireTarget usage long argv) := by
  refine .ite (.bind (prints _) fun _ => .pure _) (.ite ?_ (.pure _))
  exact .bind (.record trivial) fun _ => .pure _

theorem prints_requireBlockSize : Emits Prints (requireBlockSize long argv) := by
  refine .ite (.bind (.record trivial) fun _ => .pure _) ?_
  exact .bind (.ite (.record trivial) (.pure _)) fun _ => .pure _

variable (target blockSize rc : Int)

theorem prints_warnFormat512 : Emits Prints warnFormat512 :=
  .bind (.record trivial) fun _ => .bind (.record trivial) fun _ => .record trivial

theorem prints_reportFormat512 : Emits Prints (reportFormat512 target rc) := by
  refine .ite ?_ (.ite (.record trivial) ?_)
  · exact .bind (.record trivial) fun _ => .bind (.record trivial) fun _ => .record trivial
  · exact .bind (.record trivial) fun _ => .ite (.record trivial) (.pure _)

theorem prints_warnFormatting (seconds : Nat) : Emits Prints (warnFormatting blockSize seconds) :=
  .bind (.record trivial) fun _ => .record trivial

theorem prints_warnModeSelect : Emits Prints (warnModeSelect rc blockSize) := by
  refine .ite ?_ (.pure _)
  repeat refine .bind (.record trivial) fun _ => ?_
  exact .record trivial

theorem prints_reportFormatImmed (multicall : Bool) (device : String) :
    Emits Prints (reportFormatImmed multicall device target blockSize rc) := by
  refine .ite ?_ ?_
  · repeat refine .bind (.record trivial) fun _ => ?_
    exact .record trivial
  · exact .bind (.record trivial) fun _ => .record trivial

theorem prints_printState (out : SenseOut) : Emits Prints (printState out) := by
  unfold printState
  split
  · exact .ite (.record trivial) (.record trivial)
  · exact .record trivial
  · exact .record trivial
  · exact .record trivial
  · exact .pure _

end Terminal

/-! ### The dialogue -/

section Dialogue

variable {α : Type} {path : String} {pre : Session → Prop}

/-- A part that only prints keeps the session as it is. -/
theorem prints_keeps {part : Tool α} (prints : Emits Prints part) :
    Triple (kernel path) pre part fun _ => pre := by
  apply Triple.frame prints
  intro session event holds printed
  cases event with
  | stdout | stderr | perror | setLineBuffered => cases session <;> exact ⟨trivial, holds⟩
  | _ => cases printed

variable (host : Host) (fd bus target : Int)

/-- The ioctl node is open, for commands to a controller. -/
def Attached (fd bus : Int) (session : Session) : Prop := session = .attached fd bus

/-- Closing the ioctl node ends the session. -/
theorem close_detaches :
    Triple (kernel path) (Attached fd bus) (Tool.close fd) fun _ session => session = .ended := by
  apply Triple.record
  rintro session rfl
  exact ⟨rfl, rfl⟩

theorem sleep_stays (seconds : Int) :
    Triple (kernel path) (Attached fd bus) (Tool.sleep seconds) fun _ => Attached fd bus := by
  apply Triple.record
  rintro session rfl
  exact ⟨trivial, rfl⟩

/-- A passthrough ioctl to the controller of the session keeps it attached. -/
theorem firmware_stays {ioc : MegasasIocpacket} {n : Nat} (data : Buffer n)
    (named : ioc.hostNo = UInt16.ofInt bus) :
    Triple (kernel path) (Attached fd bus) (Tool.firmware fd ioc data) fun _ =>
      Attached fd bus := by
  apply Triple.interact
  rintro reply session rfl
  exact ⟨⟨rfl, named⟩, rfl⟩

/-- A command to the controller of the session keeps it attached. -/
theorem sendCmd_stays (cdb : List UInt8) (cdblen : Int) {n : Nat} (data : Buffer n) (len dir : Int)
    (name : Option String) :
    Triple (kernel path) (Attached fd bus) (sendCmd fd bus target cdb cdblen data len dir name)
      fun _ => Attached fd bus := by
  refine .bind (firmware_stays fd bus _ (sendCmdPacket_hostNo ..)) fun reply => prints_keeps ?_
  cases name with
  | none => exact .ite (.bind (.pure _) fun _ => .pure _) (.bind (.pure _) fun _ => .pure _)
  | some name =>
      refine .ite (.bind (.record trivial) fun _ => .pure _) ?_
      exact .bind (.record trivial) fun _ => .pure _

/-- If no drive is identified, the session has ended. -/
theorem identify_talks (name : Option String) :
    Triple (kernel path) (Attached fd bus) (identify host fd bus target name) fun found session =>
      session = if found then .attached fd bus else .ended := by
  refine .bind (sendCmd_stays ..) fun (rc, inqData) => .ite (fun _ => ?_) fun _ => ?_
  · refine .bind (prints_keeps (.record trivial)) fun _ => ?_
    exact .bind (close_detaches ..) fun _ => .pure fun _ holds => holds
  · repeat refine .bind (prints_keeps (.record trivial)) fun _ => ?_
    exact .pure fun _ holds => holds

/-- What follows the identity of a drive ends the session if its rest does. -/
theorem afterIdentity_talks {rest : Tool Int} (line : String) (name : Option String)
    (closes : Triple (kernel path) (Attached fd bus) rest fun _ session => session = .ended) :
    Triple (kernel path) (Attached fd bus) (afterIdentity host fd bus target line name rest)
      fun _ session => session = .ended := by
  refine .bind (prints_keeps (.record trivial)) fun _ => ?_
  refine .bind (identify_talks ..) fun found => ?_
  cases found with
  | true => exact closes
  | false => exact .pure fun _ holds => holds

theorem modeSelect_stays (blockSize : Int) :
    Triple (kernel path) (Attached fd bus) (modeSelect host fd bus target blockSize) fun _ =>
      Attached fd bus := by
  refine .bind (prints_keeps (.record trivial)) fun _ => .bind (sendCmd_stays ..) fun _ => ?_
  exact .pure fun _ holds => holds

theorem countdown_stays (seconds : Nat) :
    Triple (kernel path) (Attached fd bus) (countdown seconds) fun _ => Attached fd bus := by
  induction seconds with
  | zero => exact .pure fun _ holds => holds
  | succ seconds ih =>
      exact .bind (prints_keeps (.record trivial)) fun _ => .bind (sleep_stays ..) fun _ => ih

/-- After FORMAT UNIT the session has ended. -/
theorem countdownAndFormat_closes {warning : Tool Unit} {report : Int → Tool Unit}
    (warns : Emits Prints warning) (reports : ∀ rc, Emits Prints (report rc)) (seconds : Nat)
    (step : String) (cdb : List UInt8) {n : Nat} (param : Buffer n) (dir : Int)
    (name : Option String) :
    Triple (kernel path) (Attached fd bus)
      (countdownAndFormat warning seconds step fd bus target cdb param dir name report)
      fun _ session => session = .ended := by
  refine .bind (prints_keeps warns) fun _ => .bind (countdown_stays ..) fun _ => ?_
  refine .bind (prints_keeps (.record trivial)) fun _ => .bind (sendCmd_stays ..) fun _ => ?_
  refine .bind (prints_keeps (reports _)) fun _ => .bind (close_detaches ..) fun _ => ?_
  exact .pure fun _ holds => holds

/-- `mega_format512` ends the session with its drive. -/
theorem format512Drive_closes :
    Triple (kernel path) (Attached fd bus) (format512Drive host fd bus target)
      fun _ session => session = .ended := by
  apply afterIdentity_talks
  exact countdownAndFormat_closes _ _ _ prints_warnFormat512 (prints_reportFormat512 target) ..

/-- `mega_modesel` ends the session with its drive. -/
theorem modeselDrive_closes (blockSize : Int) :
    Triple (kernel path) (Attached fd bus) (modeselDrive host fd bus target blockSize)
      fun _ session => session = .ended := by
  apply afterIdentity_talks
  refine .bind (modeSelect_stays ..) fun rc => .ite (fun _ => ?_) fun _ => ?_
  · refine .bind (prints_keeps (.record trivial)) fun _ => .bind (close_detaches ..) fun _ => ?_
    exact .pure fun _ holds => holds
  · exact countdownAndFormat_closes _ _ _ (prints_warnFormatting ..) (fun _ => .pure _) ..

/-- `mega_format_immed` ends the session with its drive. -/
theorem formatImmedDrive_closes (multicall : Bool) (device : String) (blockSize : Int) :
    Triple (kernel path) (Attached fd bus)
      (formatImmedDrive host multicall device fd bus target blockSize)
      fun _ session => session = .ended := by
  apply afterIdentity_talks
  refine .bind (modeSelect_stays ..) fun rc => ?_
  refine .bind (prints_keeps (prints_warnModeSelect ..)) fun _ => ?_
  exact countdownAndFormat_closes _ _ _ (prints_warnFormatting ..)
    (fun rc => prints_reportFormatImmed target blockSize rc multicall device) ..

theorem readCapacity10_stays (out : CapacityOut) :
    Triple (kernel path) (Attached fd bus) (readCapacity10 host fd bus target out)
      fun _ => Attached fd bus := by
  refine .bind (sendCmd_stays ..) fun (rc, cap) => .ite (fun _ => ?_) fun _ => ?_
  · exact .pure fun _ holds => holds
  · exact .ite (fun _ => .pure fun _ holds => holds) fun _ => .pure fun _ holds => holds

theorem readCapacityRetries_stays (left : Nat) (out : CapacityOut) :
    Triple (kernel path) (Attached fd bus) (readCapacityRetries host fd bus target left out)
      fun _ => Attached fd bus := by
  induction left generalizing out with
  | zero => exact .pure fun _ holds => holds
  | succ left ih =>
      refine .bind (readCapacity10_stays ..) fun (capOk, out) => .ite (fun _ => ?_) fun _ => ?_
      · exact .pure fun _ holds => holds
      · refine .bind (.ite (fun _ => sleep_stays ..) fun _ => ?_) fun _ => ih out
        exact .pure fun _ holds => holds

/-- The report of a ready drive ends the session. -/
theorem reportReady_closes (expectedBs : UInt32) (cap : CapacityOut) :
    Triple (kernel path) (Attached fd bus) (reportReady host fd expectedBs cap)
      fun _ session => session = .ended := by
  refine .bind (prints_keeps (.record trivial)) fun _ => ?_
  refine .bind (prints_keeps (.ite (.record trivial) (.record trivial))) fun _ => ?_
  refine .bind (prints_keeps (.ite (.record trivial) (.pure _))) fun _ => ?_
  exact .bind (close_detaches ..) fun _ => .pure fun _ holds => holds

/-- An idle poll ends the session. -/
theorem idlePoll_closes (expectedBs : UInt32) (out : SenseOut) :
    Triple (kernel path) (Attached fd bus) (idlePoll host fd bus target expectedBs out)
      fun _ session => session = .ended := by
  refine .bind (prints_keeps (.ite (.record trivial) (.pure _))) fun _ => ?_
  refine .bind (readCapacityRetries_stays ..) fun (capOk, cap) => .ite (fun _ => ?_) fun _ => ?_
  · refine .bind (prints_keeps (.record trivial)) fun _ => .bind (close_detaches ..) fun _ => ?_
    exact .pure fun _ holds => holds
  · exact reportReady_closes ..

/-- At a loop head the ioctl node is open, and after the loop it is closed. -/
def AtPoll {σ β : Type} (fd bus : Int) : σ ⊕ β → Session → Prop :=
  Sum.elim (fun _ => Attached fd bus) fun _ session => session = .ended

/-- A failed poll ends the session, or the loop goes on. -/
theorem failedPoll_polls (interval : Int) (state : PollState) :
    Triple (kernel path) (Attached fd bus) (failedPoll fd interval state) (AtPoll fd bus) := by
  refine .ite (fun _ => ?_) fun _ => ?_
  · refine .bind (prints_keeps (.record trivial)) fun _ => .bind (sleep_stays ..) fun _ => ?_
    exact .pure fun _ holds => holds
  · refine .bind (prints_keeps (.record trivial)) fun _ => .bind (close_detaches ..) fun _ => ?_
    exact .pure fun _ holds => holds

/-- A busy poll ends the session, or the loop goes on. -/
theorem busyPoll_polls (interval : Int) (state : PollState) :
    Triple (kernel path) (Attached fd bus) (busyPoll fd interval state) (AtPoll fd bus) := by
  refine .ite (fun _ => ?_) fun _ => ?_
  · exact .bind (close_detaches ..) fun _ => .pure fun _ holds => holds
  · exact .bind (sleep_stays ..) fun _ => .pure fun _ holds => holds

/-- One round of the poll loop comes back with the node open, or returns with it closed. -/
theorem pollIteration_polls (interval : Int) (expectedBs : UInt32) (state : PollState) :
    Triple (kernel path) (Attached fd bus)
      (pollIteration host fd bus target interval expectedBs state) (AtPoll fd bus) := by
  refine .bind (sendCmd_stays ..) fun (rc, sense) => .ite (fun _ => ?_) fun _ => ?_
  · refine .bind (prints_keeps (.ite (.record trivial) (.record trivial))) fun _ => ?_
    exact failedPoll_polls ..
  · refine .bind (prints_keeps (prints_printState _)) fun _ => .ite (fun _ => ?_) fun _ => ?_
    · exact busyPoll_polls ..
    · exact .map (idlePoll_closes ..)

theorem prints_printIoctl (errnoOf : String → Int) (reply : DriverReply) (cmdStatus : UInt8) :
    Emits Prints (printIoctl errnoOf reply cmdStatus) := .ite (.record trivial) (.record trivial)

/-- `mega_inquiry` ends the session with its drive. -/
theorem inquiryDrive_closes (errnoOf : String → Int) :
    Triple (kernel path) (Attached fd bus) (inquiryDrive errnoOf host fd bus target)
      fun _ session => session = .ended := by
  refine .bind (firmware_stays fd bus _ rfl) fun reply => ?_
  refine .bind (prints_keeps (prints_printIoctl ..)) fun _ => .ite (fun _ => ?_) fun _ => ?_
  · repeat refine .bind (prints_keeps (.record trivial)) fun _ => ?_
    exact .bind (close_detaches ..) fun _ => .pure fun _ holds => holds
  · refine .bind (prints_keeps (.record trivial)) fun _ => .bind (close_detaches ..) fun _ => ?_
    exact .pure fun _ holds => holds

/-! ### From the start -/

/-- The way to the controller has been gone to its end, or left with nothing open. -/
def Reached : Option (Int × Int) → Session → Prop
  | none, session => session.Closed
  | some (fdMega, busNo), session => session = .attached fdMega busNo

/-- The session starts with the device of the arguments. -/
theorem openDevice_opens :
    Triple (kernel path) (fun session => session = .start) (Tool.openFile host path true)
      fun fd session => session = if fd < 0 then .ended else .device fd := by
  apply Triple.interact
  rintro fd session rfl
  exact ⟨⟨rfl, rfl⟩, rfl⟩

/-- The bus number is asked of the open device. -/
theorem getBusNumber_locates :
    Triple (kernel path) (fun session => session = .device fd) (Tool.getBusNumber host fd)
      fun reply session => session =
        if reply.result < 0 then .device fd else .located fd reply.busNo := by
  apply Triple.interact
  rintro reply session rfl
  exact ⟨rfl, rfl⟩

/-- If the bus number was refused, closing the device ends the session. -/
theorem closeDevice_ended :
    Triple (kernel path) (fun session => session = .device fd) (Tool.close fd)
      fun _ session => session = .ended := by
  apply Triple.record
  rintro session rfl
  exact ⟨rfl, rfl⟩

/-- Once the bus number is known, the device is closed. -/
theorem closeLocated_known :
    Triple (kernel path) (fun session => session = .located fd bus) (Tool.close fd)
      fun _ session => session = .known bus := by
  apply Triple.record
  rintro session rfl
  exact ⟨rfl, rfl⟩

/-- The ioctl node is opened for the controller that is known. -/
theorem openNode_attaches :
    Triple (kernel path) (fun session => session = .known bus)
      (Tool.openFile host "/dev/megaraid_sas_ioctl_node" false)
      fun fd session => session = if fd < 0 then .ended else .attached fd bus := by
  apply Triple.interact
  rintro fd session rfl
  exact ⟨⟨rfl, rfl⟩, rfl⟩

/-- The block device is closed and the ioctl node opened. -/
theorem changeover_reaches (openMegaError : String) :
    Triple (kernel path) (fun session => session = .located fd bus)
      (do
        Tool.close fd
        let fdMega ← Tool.openFile host "/dev/megaraid_sas_ioctl_node" false
        if fdMega < 0 then
          Tool.perror openMegaError (host.openError "/dev/megaraid_sas_ioctl_node" false)
          return none
        else
          return some (fdMega, bus))
      Reached := by
  refine .bind (closeLocated_known ..) fun _ => .bind (openNode_attaches host _) fun fdMega => ?_
  refine .ite (fun failed => ?_) fun opened => ?_
  · simp only [if_pos failed]
    exact .bind (prints_keeps (.record trivial)) fun _ => .pure fun _ ended => Or.inr ended
  · simp only [if_neg opened]
    exact .pure fun _ attached => attached

/-- The formatters and `mega_progress` reach the controller, or leave nothing open. -/
theorem openController_reaches (openDevError openMegaError : String) :
    Triple (kernel path) (fun session => session = .start)
      (openController host path openDevError openMegaError) Reached := by
  refine .bind (openDevice_opens host) fun fdDev => .ite (fun failed => ?_) fun opened => ?_
  · simp only [if_pos failed]
    exact .bind (prints_keeps (.record trivial)) fun _ => .pure fun _ ended => Or.inr ended
  simp only [if_neg opened]
  refine .bind (getBusNumber_locates host fdDev) fun bus => .ite (fun failed => ?_) fun told => ?_
  · simp only [if_pos failed]
    refine .bind (prints_keeps (.record trivial)) fun _ => .bind (closeDevice_ended _) fun _ => ?_
    exact .pure fun _ ended => Or.inr ended
  · simp only [if_neg told]
    exact changeover_reaches ..

/-- `mega_inquiry` reaches the controller, or leaves nothing open. -/
theorem openForInquiry_reaches :
    Triple (kernel path) (fun session => session = .start) (openForInquiry host path target)
      Reached := by
  refine .bind (openDevice_opens host) fun fdDev => .ite (fun failed => ?_) fun opened => ?_
  · simp only [if_pos failed]
    exact .bind (prints_keeps (.record trivial)) fun _ => .pure fun _ ended => Or.inr ended
  simp only [if_neg opened]
  refine .bind (getBusNumber_locates host fdDev) fun bus => .ite (fun failed => ?_) fun told => ?_
  · simp only [if_pos failed]
    refine .bind (prints_keeps (.record trivial)) fun _ => .bind (closeDevice_ended _) fun _ => ?_
    exact .pure fun _ ended => Or.inr ended
  · simp only [if_neg told]
    exact .bind (prints_keeps (.record trivial)) fun _ => changeover_reaches ..

end Dialogue

/-! ### Whole programs -/

section Programs

variable (errnoOf : String → Int) (host : Host) (multicall : Bool) (long : LongWidth) (rounds : Nat)
  (argv : List String)

/-- The arguments and the way to the controller, then a part that closes the node. -/
theorem withBlockSize_closes {usage : String → Tool Unit} {openMegaError : String}
    {drive : (fdMega busNo target blockSize : Int) → Tool Int}
    (prints : ∀ name, Emits Prints (usage name))
    (closes : ∀ fdMega busNo target blockSize,
      Triple (kernel (argv.getD 1 "")) (Attached fdMega busNo)
        (drive fdMega busNo target blockSize) fun _ session => session = .ended) :
    Triple (kernel (argv.getD 1 "")) (fun session => session = .start)
      (withBlockSize usage openMegaError drive host long argv) fun _ => Session.Closed := by
  refine .bind (prints_keeps (prints_requireTarget _ _ prints)) fun target => ?_
  cases target with
  | none => exact .pure fun _ start => Or.inl start
  | some target =>
      refine .bind (prints_keeps (prints_requireBlockSize ..)) fun blockSize => ?_
      cases blockSize with
      | none => exact .pure fun _ start => Or.inl start
      | some blockSize =>
          refine .bind (prints_keeps (.record trivial)) fun _ => ?_
          refine .bind (openController_reaches ..) fun reached => ?_
          cases reached with
          | none => exact .pure fun _ closed => closed
          | some reached => exact (closes ..).weaken fun _ _ ended => Or.inr ended

/-- `mega_format512` leaves nothing open. -/
theorem megaFormat512_closes :
    Triple (kernel (argv.getD 1 "")) (fun session => session = .start)
      (megaFormat512 host long argv) fun _ => Session.Closed := by
  refine .bind (prints_keeps (prints_requireTarget _ _ prints_format512Usage)) fun target => ?_
  cases target with
  | none => exact .pure fun _ start => Or.inl start
  | some target =>
      refine .bind (prints_keeps (.record trivial)) fun _ => ?_
      refine .bind (openController_reaches ..) fun reached => ?_
      cases reached with
      | none => exact .pure fun _ closed => closed
      | some reached => exact (format512Drive_closes ..).weaken fun _ _ ended => Or.inr ended

/-- `mega_modesel` leaves nothing open. -/
theorem megaModesel_closes :
    Triple (kernel (argv.getD 1 "")) (fun session => session = .start)
      (megaModesel host long argv) fun _ => Session.Closed :=
  withBlockSize_closes host long argv prints_modeselUsage fun _ _ _ _ => modeselDrive_closes ..

/-- `mega_format_immed` leaves nothing open. -/
theorem megaFormatImmed_closes :
    Triple (kernel (argv.getD 1 "")) (fun session => session = .start)
      (megaFormatImmed host multicall long argv) fun _ => Session.Closed :=
  withBlockSize_closes host long argv prints_formatImmedUsage fun _ _ _ _ =>
    formatImmedDrive_closes ..

/-- `mega_inquiry` leaves nothing open. -/
theorem megaInquiry_closes :
    Triple (kernel (argv.getD 1 "")) (fun session => session = .start)
      (megaInquiry errnoOf host long argv) fun _ => Session.Closed := by
  refine .bind (prints_keeps (prints_requireTarget _ _ fun _ => .record trivial)) fun target => ?_
  cases target with
  | none => exact .pure fun _ start => Or.inl start
  | some target =>
      refine .bind (openForInquiry_reaches ..) fun reached => ?_
      cases reached with
      | none => exact .pure fun _ closed => closed
      | some reached => exact (inquiryDrive_closes ..).weaken fun _ _ ended => Or.inr ended

/-- A tool that has returned has closed its files; a watch that goes on keeps the
ioctl node open. -/
def Parted : Option Int → Session → Prop
  | some _, session => session.Closed
  | none, session => ∃ fd bus, session = .attached fd bus

/-- The request of `mega_progress` is about the device of its arguments. -/
theorem progressRequest_device (target : Int) :
    Triple (kernel (argv.getD 1 "")) (fun session => session = .start)
      (progressRequest long argv target) fun request session =>
        session = .start ∧ ∀ asked ∈ request, asked.device = argv.getD 1 "" := by
  refine .ite (fun _ => .ite (fun _ => ?_) fun _ => ?_) fun _ => .pure fun _ start => ⟨start, ?_⟩
  · refine .bind (prints_keeps (.record trivial)) fun _ => .pure fun _ start => ⟨start, ?_⟩
    rintro asked ⟨⟩
  · refine .bind (prints_keeps (.ite (.record trivial) (.pure _))) fun _ => ?_
    refine .pure fun _ start => ⟨start, ?_⟩
    rintro asked ⟨⟩
    rfl
  · rintro asked ⟨⟩
    rfl

/-- A watch leaves nothing open once it has ended. -/
theorem watchDrive_closes (request : ProgressRequest) :
    Triple (kernel request.device) (fun session => session = .start)
      (watchDrive host rounds request) Parted := by
  refine .bind (openController_reaches ..) fun reached => ?_
  cases reached with
  | none => exact .pure fun _ closed => closed
  | some reached =>
      refine .map ((Triple.iterate (fun state => pollIteration_polls host ..) rounds _).weaken ?_)
      rintro (head | status) session parted
      · exact ⟨_, _, parted⟩
      · exact Or.inr parted

/-- `mega_progress` leaves nothing open once it has ended. -/
theorem megaProgress_closes :
    Triple (kernel (argv.getD 1 "")) (fun session => session = .start)
      (megaProgress host long rounds argv) Parted := by
  refine .bind (prints_keeps (prints_requireTarget _ _ prints_progressUsage)) fun target => ?_
  cases target with
  | none => exact .pure fun _ start => Or.inl start
  | some target =>
      refine .bind (progressRequest_device long argv target) fun request => ?_
      cases request with
      | none => exact .pure fun _ started => Or.inl started.1
      | some request =>
          by_cases same : request.device = argv.getD 1 ""
          · rw [← same]
            refine (watchDrive_closes host rounds request).consequence ?_ fun _ _ parted => parted
            exact fun _ started => started.1
          · exact ⟨fun _ _ started => absurd (started.2 request rfl) same⟩

/-- An applet of the unified binary leaves nothing open once it has ended. -/
theorem Applet.main_closes (applet : Applet) :
    Triple (kernel (argv.getD 1 "")) (fun session => session = .start)
      (applet.main errnoOf host long rounds argv) Parted := by
  cases applet with
  | inquiry => exact .map (megaInquiry_closes errnoOf host long argv)
  | format512 => exact .map (megaFormat512_closes host long argv)
  | modesel => exact .map (megaModesel_closes host long argv)
  | formatImmed => exact .map (megaFormatImmed_closes host true long argv)
  | progress => exact megaProgress_closes host long rounds argv
  | checkSize =>
      refine .map (.weaken (prints_keeps ?_) fun _ _ start => Or.inl start)
      repeat refine .bind (.record trivial) fun _ => ?_
      exact .pure _

/-- A standalone tool leaves nothing open once it has ended. -/
theorem Applet.standalone_closes (applet : Applet) :
    Triple (kernel (argv.getD 1 "")) (fun session => session = .start)
      (applet.standalone errnoOf host long rounds argv) Parted := by
  by_cases immed : applet = .formatImmed
  · subst immed
    exact .map (megaFormatImmed_closes host false long argv)
  · rw [Applet.standalone_eq_main errnoOf host long rounds immed]
    exact applet.main_closes errnoOf host long rounds argv

/-- The binary talks to the kernel about the device behind the applet's name, and not
at all if it runs no applet. -/
theorem megaraidMain_closes :
    (∃ (applet : Applet) (called : List String), called <:+ argv ∧
      Runs argv ⟨applet, called.length, called⟩ ∧
      Triple (kernel (called.getD 1 "")) (fun session => session = .start)
        (megaraidMain errnoOf host long rounds argv) Parted) ∨
    RunsNothing argv ∧ ∀ path, Triple (kernel path) (fun session => session = .start)
      (megaraidMain errnoOf host long rounds argv) Parted := by
  have usage : ∀ path, Triple (kernel path) (fun session => session = .start)
      (some <$> megaraidUsage (argv.getD 0 "")) Parted := fun path =>
    .map (.weaken (prints_keeps (prints_megaraidUsage _)) fun _ _ start => Or.inl start)
  rcases megaraidMain_cases errnoOf host long rounds argv with
    ⟨applet, called, suffix, runs, same⟩ | ⟨nothing, same | same⟩
  · refine Or.inl ⟨applet, called, suffix, runs, ?_⟩
    rw [same]
    exact applet.main_closes errnoOf host long rounds called
  · refine Or.inr ⟨nothing, fun path => ?_⟩
    rw [same]
    exact usage path
  · refine Or.inr ⟨nothing, fun path => ?_⟩
    rw [same]
    exact .bind (prints_keeps (.record trivial)) fun _ => usage path

end Programs

/-! ### Files -/

/-- A run uses its files well, has closed them if it returned, and else waits with
the ioctl node open. -/
structure PartsCleanly (path : String) (value : Option Int) (events : List Event) : Prop where
  handled : HandlesFiles path events
  closed : value ≠ none → openFiles events = []
  watching : value = none → ∃ fd, openFiles events = [(ioctlNode, fd)]

/-- What the logic shows of a session, told of its record. -/
theorem partsCleanly_of_triple {path : String} {program : Tool (Option Int)}
    (talks : Triple (kernel path) (fun session => session = .start) program Parted)
    (driver : Stream' DriverReply) :
    PartsCleanly path (program.value driver) (program.events driver) := by
  obtain ⟨accepted, parted⟩ := talks.holds driver .start rfl
  have files := openFiles_eq_files accepted
  refine ⟨handlesFiles_of_accepts accepted, fun returned => ?_, fun goesOn => ?_⟩
  · obtain ⟨status, value⟩ := Option.ne_none_iff_exists'.mp returned
    rw [value] at parted
    rcases parted with start | ended
    · rw [files, start]
      rfl
    · rw [files, ended]
      rfl
  · rw [goesOn] at parted
    obtain ⟨fd, bus, attached⟩ := parted
    rw [files, attached]
    exact ⟨fd, rfl⟩

/-- **File descriptors**, in every run of every tool and of the unified binary. -/
theorem tools_part_cleanly (errnoOf : String → Int) (host : Host) (long : LongWidth) (rounds : Nat)
    (argv : List String) (driver : Stream' DriverReply) :
    (∀ applet : Applet, PartsCleanly (argv.getD 1 "")
      ((applet.standalone errnoOf host long rounds argv).value driver)
      ((applet.standalone errnoOf host long rounds argv).events driver)) ∧
    ((∃ (applet : Applet) (called : List String), called <:+ argv ∧
        Runs argv ⟨applet, called.length, called⟩ ∧ PartsCleanly (called.getD 1 "")
          ((megaraidMain errnoOf host long rounds argv).value driver)
          ((megaraidMain errnoOf host long rounds argv).events driver)) ∨
      RunsNothing argv ∧ ∀ path, PartsCleanly path
        ((megaraidMain errnoOf host long rounds argv).value driver)
        ((megaraidMain errnoOf host long rounds argv).events driver)) := by
  constructor
  · exact fun applet => partsCleanly_of_triple (applet.standalone_closes ..) driver
  · rcases megaraidMain_closes errnoOf host long rounds argv with
      ⟨applet, called, suffix, runs, talks⟩ | ⟨nothing, talks⟩
    · exact Or.inl ⟨applet, called, suffix, runs, partsCleanly_of_triple talks driver⟩
    · exact Or.inr ⟨nothing, fun path => partsCleanly_of_triple (talks path) driver⟩

end Megaraid
