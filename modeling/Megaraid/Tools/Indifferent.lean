import Megaraid.Foundation.Coupled
import Megaraid.Tools.Multicall

/-!
# What a drive writes back

Only `mega_progress` decodes what a drive writes into a buffer. The other tools look
at the outcome of a command and pass over the bytes, but for the vendor and the product
in the INQUIRY data, which they print. So whatever bytes a drive writes, it is sent the
same commands after the same waits, and the run ends the same.
-/

namespace Megaraid

open Traced (Coupled)

/-- Answers that differ in nothing but the bytes that the drive wrote. -/
structure RepliesAgree (reply other : DriverReply) : Prop where
  result : reply.result = other.result
  cmdStatus : reply.cmdStatus = other.cmdStatus
  error : reply.error = other.error

/-- Drivers whose commands have the same outcomes, one after another. -/
def DriversAgree (driver other : Stream' DriverReply) : Prop :=
  ∀ n, RepliesAgree (driver.get n) (other.get n)

/-- The last commands that two runs sent, if they sent any. -/
abbrev LastCommands : Type := Option (Command × Command)

/-- Both runs have just asked for the INQUIRY data, and these came back. -/
def Inquired (bytes other : List UInt8) (last : LastCommands) : Prop :=
  ∃ one two : Command, last = some (one, two) ∧ one.opcode = 0x12 ∧ two.opcode = 0x12 ∧
    one.received = bytes ∧ two.received = other

/-- Events that differ in nothing but bytes of the drive, which show in the answer to a
command and in what is printed of the identity: bytes 8 to 15 and 16 to 31 of the last
INQUIRY data of either run. -/
inductive ButBytes (last : LastCommands) : Event → Event → Prop where
  | same (event : Event) : ButBytes last event event
  | command (fd : Int) (ioc : MegasasIocpacket) (address : UInt64) (data : List UInt8)
      (reply other : DriverReply) (alike : RepliesAgree reply other) :
      ButBytes last (.firmware ⟨fd, ioc, address, data, reply⟩)
        (.firmware ⟨fd, ioc, address, data, other⟩)
  | vendor (bytes other : List UInt8) (inquired : Inquired bytes other last) :
      ButBytes last (.stdout (printAscii ((bytes.drop 8).take 8)))
        (.stdout (printAscii ((other.drop 8).take 8)))
  | product (bytes other : List UInt8) (inquired : Inquired bytes other last) :
      ButBytes last (.stdout (printAscii ((bytes.drop 16).take 16)))
        (.stdout (printAscii ((other.drop 16).take 16)))

/-- The monitor of two runs that keeps their last commands in mind. -/
def butBytes : Monitor LastCommands (Event × Event) where
  allows last events := ButBytes last events.1 events.2
  step last events :=
    match events.1.command?, events.2.command? with
    | some one, some two => some (one, two)
    | _, _ => last

/-- The tool does the same whatever bytes the drive writes: with drivers of the same
outcomes its two records go together, event by event, and its result is the same. -/
def IgnoresBytes {α : Type} (tool : Tool α) : Prop :=
  Coupled DriversAgree butBytes (fun _ => True) tool tool fun value other _ => value = other

namespace IgnoresBytes

variable {α β : Type}

/-- A tool that does nothing. -/
theorem pure (a : α) : IgnoresBytes (Pure.pure a : Tool α) := Coupled.pure fun _ _ => rfl

/-- After a part with the same result, the rest sees no difference. -/
theorem bind {x : Tool α} {f : α → Tool β} (first : IgnoresBytes x)
    (second : ∀ a, IgnoresBytes (f a)) : IgnoresBytes (x >>= f) := by
  apply Coupled.bind_eq _ second
  exact first.consequence (fun _ _ => trivial) fun _ _ _ same => ⟨same, trivial⟩

/-- What is computed from the result is the same. -/
theorem map {x : Tool α} (f : α → β) (ignores : IgnoresBytes x) : IgnoresBytes (f <$> x) :=
  Coupled.map (ignores.consequence (fun _ holds => holds) fun _ _ _ => congrArg f)

/-- A branch that no byte of the drive decides. -/
theorem ite {condition : Prop} [Decidable condition] {x y : Tool α} (whenTrue : IgnoresBytes x)
    (whenFalse : IgnoresBytes y) : IgnoresBytes (if condition then x else y) :=
  Coupled.ite (fun _ => whenTrue) fun _ => whenFalse

/-- One and the same event. -/
theorem record (event : Event) : IgnoresBytes (Traced.record event) := by
  have alike : Coupled DriversAgree butBytes (fun _ => True) (Traced.record event : Tool Unit)
      (Traced.record event) fun value other _ => value = other ∧ True :=
    Coupled.record fun _ _ => ⟨ButBytes.same event, trivial⟩
  exact alike.consequence (fun _ holds => holds) fun _ _ _ both => both.1

/-- A loop over a list. -/
theorem forM {body : β → Tool Unit} (each : ∀ b, IgnoresBytes (body b)) (items : List β) :
    IgnoresBytes (items.forM body) := by
  induction items with
  | nil => exact .pure ()
  | cons item items ih => exact .bind (each item) fun _ => ih

/-- A question that is not for the driver. -/
theorem consult (a : α) (event : α → Event) :
    IgnoresBytes (Traced.interact (fun driver => (a, driver)) event) := by
  apply Coupled.interact
  · intro driver other alike
    exact ⟨(rfl : a = a), alike⟩
  · intro a c last same _
    rw [same]
    exact ⟨.same _, rfl⟩

/-- What holds of the last commands beforehand may be forgotten. -/
theorem strengthen {tool : Tool α} {pre : LastCommands → Prop} (ignores : IgnoresBytes tool) :
    Coupled DriversAgree butBytes pre tool tool fun value other _ => value = other :=
  ignores.consequence (fun _ _ => trivial) fun _ _ _ same => same

end IgnoresBytes

/-! ### Commands -/

section Command

variable {α : Type} (fd bus target : Int)

/-- Answers of the same outcome, one from each driver, to the last commands. -/
theorem firmware_coupled (ioc : MegasasIocpacket) {n : Nat} (data : Buffer n) :
    Coupled DriversAgree butBytes (fun _ => True) (Tool.firmware fd ioc data)
      (Tool.firmware fd ioc data) fun reply other last => RepliesAgree reply other ∧
        last = some (⟨fd, ioc, data.addr, data.bytes.toList, reply⟩,
          ⟨fd, ioc, data.addr, data.bytes.toList, other⟩) := by
  apply Coupled.interact
  · intro driver other alike
    exact ⟨alike 0, fun n => alike (n + 1)⟩
  · intro reply other last alike _
    exact ⟨.command fd ioc _ _ reply other alike, alike, rfl⟩

/-- A text that may differ is printed, and no command sent. -/
theorem printf_coupled {pre : LastCommands → Prop} {text other : String}
    (allowed : ∀ last, pre last → ButBytes last (.stdout text) (.stdout other)) :
    Coupled DriversAgree butBytes pre (Tool.printf text) (Tool.printf other)
      fun value value' last => value = value' ∧ pre last :=
  Coupled.record fun last holds => ⟨allowed last holds, holds⟩

/-- A command returns the same, and is then the last one of either run. -/
theorem sendCmd_coupled (cdb : List UInt8) (cdblen : Int) {n : Nat} (data : Buffer n)
    (len dir : Int) (name : Option String) :
    Coupled DriversAgree butBytes (fun _ => True)
      (sendCmd fd bus target cdb cdblen data len dir name)
      (sendCmd fd bus target cdb cdblen data len dir name) fun sent sent' last =>
        sent.1 = sent'.1 ∧ ∃ reply reply',
          last = some (sentCommand fd bus target cdb cdblen data len dir reply,
            sentCommand fd bus target cdb cdblen data len dir reply') ∧
          sent.2.bytes = transfer data.bytes (reply.written.take len.toNat) ∧
          sent'.2.bytes = transfer data.bytes (reply'.written.take len.toNat) := by
  apply Coupled.bind (firmware_coupled ..)
  intro reply other
  apply Coupled.assume
  intro alike
  simp only [alike.result, alike.cmdStatus, alike.error]
  apply Coupled.ite
  · intro _
    cases name with
    | none => exact .pure fun last sent => ⟨rfl, reply, other, sent, rfl, rfl⟩
    | some name =>
        apply Coupled.bind_eq (printf_coupled fun _ _ => .same _)
        exact fun _ => .pure fun last sent => ⟨rfl, reply, other, sent, rfl, rfl⟩
  · intro _
    cases name with
    | none => exact .pure fun last sent => ⟨rfl, reply, other, sent, rfl, rfl⟩
    | some name =>
        apply Coupled.bind_eq (printf_coupled fun _ _ => .same _)
        exact fun _ => .pure fun last sent => ⟨rfl, reply, other, sent, rfl, rfl⟩

/-- A command whose answer is not looked at. -/
theorem sendCmd_sameStatus (cdb : List UInt8) (cdblen : Int) {n : Nat} (data : Buffer n)
    (len dir : Int) (name : Option String) :
    Coupled DriversAgree butBytes (fun _ => True)
      (sendCmd fd bus target cdb cdblen data len dir name)
      (sendCmd fd bus target cdb cdblen data len dir name) fun sent sent' _ =>
        sent.1 = sent'.1 ∧ True :=
  (sendCmd_coupled ..).consequence (fun _ holds => holds) fun _ _ _ sent => ⟨sent.1, trivial⟩

/-- After the INQUIRY, vendor and product are printed from what came back. -/
theorem printIdentity_coupled (bytes other : List UInt8) {before between : String} {rest : Tool α}
    (ends : IgnoresBytes rest) :
    Coupled DriversAgree butBytes (Inquired bytes other)
      (do
        Tool.printf before
        Tool.printf (printAscii ((bytes.drop 8).take 8))
        Tool.printf between
        Tool.printf (printAscii ((bytes.drop 16).take 16))
        rest)
      (do
        Tool.printf before
        Tool.printf (printAscii ((other.drop 8).take 8))
        Tool.printf between
        Tool.printf (printAscii ((other.drop 16).take 16))
        rest) fun value value' _ => value = value' := by
  apply Coupled.bind_eq (printf_coupled fun _ _ => .same _)
  intro _
  apply Coupled.bind_eq (printf_coupled fun _ inquired => .vendor bytes other inquired)
  intro _
  apply Coupled.bind_eq (printf_coupled fun _ _ => .same _)
  intro _
  apply Coupled.bind_eq (printf_coupled fun _ inquired => .product bytes other inquired)
  intro _
  exact ends.strengthen

/-- The gate of the formatters is the outcome of the INQUIRY. -/
theorem ignoresBytes_identify (host : Host) (name : Option String) :
    IgnoresBytes (identify host fd bus target name) := by
  apply Coupled.bind (sendCmd_coupled ..)
  intro ⟨rc, inqData⟩ ⟨rc', inqData'⟩
  apply Coupled.assume
  intro same
  simp only at same
  simp only [same]
  apply Coupled.ite
  · intro _
    have refusal : IgnoresBytes (do
        Tool.printf "INQUIRY failed - wrong target?\n"
        Tool.close fd
        return false) := .bind (.record _) fun _ => .bind (.record _) fun _ => .pure _
    exact refusal.strengthen
  · intro _
    have ends : IgnoresBytes (do
        Tool.printf "\n\n"
        return true) := .bind (.record _) fun _ => .pure _
    apply (printIdentity_coupled inqData.bytes.toList inqData'.bytes.toList ends).consequence
    · intro last ⟨reply, reply', sent, bytes, bytes'⟩
      refine ⟨_, _, sent, inquiry_opcode host fd bus target reply,
        inquiry_opcode host fd bus target reply', ?_, ?_⟩
      · exact (inquiry_received host fd bus target reply).trans (congrArg _ bytes.symm)
      · exact (inquiry_received host fd bus target reply').trans (congrArg _ bytes'.symm)
    · exact fun _ _ _ same => same

end Command

/-! ### The parts of the formatters -/

section Formatters

variable (host : Host) (long : LongWidth) (argv : List String) (fd bus target blockSize : Int)

theorem ignoresBytes_requireTarget {usage : String → Tool Unit}
    (ignores : ∀ name, IgnoresBytes (usage name)) :
    IgnoresBytes (requireTarget usage long argv) := by
  apply IgnoresBytes.ite
  · exact .bind (ignores _) fun _ => .pure _
  · exact .ite (.bind (.record _) fun _ => .pure _) (.pure _)

theorem ignoresBytes_requireBlockSize : IgnoresBytes (requireBlockSize long argv) := by
  apply IgnoresBytes.ite
  · exact .bind (.record _) fun _ => .pure _
  · exact .bind (.ite (.record _) (.pure _)) fun _ => .pure _

theorem ignoresBytes_openController (device openDevError openMegaError : String) :
    IgnoresBytes (openController host device openDevError openMegaError) := by
  apply IgnoresBytes.bind (.consult _ _)
  intro fdDev
  apply IgnoresBytes.ite
  · exact .bind (.record _) fun _ => .pure _
  · apply IgnoresBytes.bind (.consult _ _)
    intro bus
    apply IgnoresBytes.ite
    · exact .bind (.record _) fun _ => .bind (.record _) fun _ => .pure _
    · apply IgnoresBytes.bind (.record _)
      intro _
      apply IgnoresBytes.bind (.consult _ _)
      intro fdMega
      exact .ite (.bind (.record _) fun _ => .pure _) (.pure _)

/-- What follows the identity of a drive ignores bytes if its rest does. -/
theorem ignoresBytes_afterIdentity (line : String) (name : Option String) {rest : Tool Int}
    (ignores : IgnoresBytes rest) :
    IgnoresBytes (afterIdentity host fd bus target line name rest) := by
  apply IgnoresBytes.bind (.record _)
  intro _
  apply IgnoresBytes.bind (ignoresBytes_identify ..)
  intro found
  exact .ite ignores (.pure _)

theorem ignoresBytes_modeSelect : IgnoresBytes (modeSelect host fd bus target blockSize) := by
  apply IgnoresBytes.bind (.record _)
  intro _
  apply Coupled.bind (sendCmd_sameStatus ..)
  intro sent sent'
  apply Coupled.assume
  intro same
  exact .pure fun _ _ => same

theorem ignoresBytes_countdown (seconds : Nat) : IgnoresBytes (countdown seconds) := by
  induction seconds with
  | zero => exact .pure _
  | succ seconds ih => exact .bind (.record _) fun _ => .bind (.record _) fun _ => ih

/-- FORMAT UNIT ignores the bytes that come back. -/
theorem ignoresBytes_countdownAndFormat {warning : Tool Unit} (seconds : Nat) (step : String)
    (cdb : List UInt8) {n : Nat} (param : Buffer n) (dir : Int) (name : Option String)
    {report : Int → Tool Unit} (warns : IgnoresBytes warning)
    (reports : ∀ rc, IgnoresBytes (report rc)) :
    IgnoresBytes
      (countdownAndFormat warning seconds step fd bus target cdb param dir name report) := by
  apply IgnoresBytes.bind warns
  intro _
  apply IgnoresBytes.bind (ignoresBytes_countdown seconds)
  intro _
  apply IgnoresBytes.bind (.record _)
  intro _
  apply Coupled.bind (sendCmd_sameStatus ..)
  intro ⟨rc, data⟩ ⟨rc', data'⟩
  apply Coupled.assume
  intro same
  simp only at same
  simp only [same]
  exact IgnoresBytes.bind (reports rc') fun _ => .bind (.record _) fun _ => .pure _

theorem ignoresBytes_warnFormatting (seconds : Nat) :
    IgnoresBytes (warnFormatting blockSize seconds) :=
  .bind (.record _) fun _ => .record _

/-- `mega_format512` uses INQUIRY's bytes for the identity only. -/
theorem ignoresBytes_format512Drive : IgnoresBytes (format512Drive host fd bus target) := by
  have warns : IgnoresBytes warnFormat512 :=
    .bind (.record _) fun _ => .bind (.record _) fun _ => .record _
  have reports : ∀ rc, IgnoresBytes (reportFormat512 target rc) := by
    intro rc
    apply IgnoresBytes.ite
    · exact .bind (.record _) fun _ => .bind (.record _) fun _ => .record _
    · exact .ite (.record _) (.bind (.record _) fun _ => .ite (.record _) (.pure _))
  exact ignoresBytes_afterIdentity _ _ _ _ _ _
    (ignoresBytes_countdownAndFormat _ _ _ _ _ _ _ _ _ warns reports)

/-- `mega_modesel` uses INQUIRY's bytes for the identity only. -/
theorem ignoresBytes_modeselDrive : IgnoresBytes (modeselDrive host fd bus target blockSize) := by
  apply ignoresBytes_afterIdentity
  apply IgnoresBytes.bind (ignoresBytes_modeSelect ..)
  intro rc
  apply IgnoresBytes.ite
  · exact .bind (.record _) fun _ => .bind (.record _) fun _ => .pure _
  · exact ignoresBytes_countdownAndFormat _ _ _ _ _ _ _ _ _
      (ignoresBytes_warnFormatting blockSize 5) fun _ => .pure _

/-- `mega_format_immed` uses INQUIRY's bytes for the identity only. -/
theorem ignoresBytes_formatImmedDrive (multicall : Bool) (device : String) :
    IgnoresBytes (formatImmedDrive host multicall device fd bus target blockSize) := by
  have reports : ∀ rc,
      IgnoresBytes (reportFormatImmed multicall device target blockSize rc) := by
    intro rc
    apply IgnoresBytes.ite
    · exact .bind (.record _) fun _ => .bind (.record _) fun _ => .bind (.record _) fun _ =>
        .bind (.record _) fun _ => .bind (.record _) fun _ => .record _
    · exact .bind (.record _) fun _ => .record _
  apply ignoresBytes_afterIdentity
  apply IgnoresBytes.bind (ignoresBytes_modeSelect ..)
  intro rc
  have warns : IgnoresBytes (warnModeSelect rc blockSize) := by
    apply IgnoresBytes.ite
    · exact .bind (.record _) fun _ => .bind (.record _) fun _ => .bind (.record _) fun _ =>
        .bind (.record _) fun _ => .record _
    · exact .pure _
  apply IgnoresBytes.bind warns
  intro _
  exact ignoresBytes_countdownAndFormat _ _ _ _ _ _ _ _ _
    (ignoresBytes_warnFormatting blockSize (immedCountdown rc)) reports

/-- The two tools with a block size ignore bytes if their drive parts do. -/
theorem ignoresBytes_withBlockSize {usage : String → Tool Unit} (openMegaError : String)
    {drive : (fdMega busNo target blockSize : Int) → Tool Int}
    (helps : ∀ name, IgnoresBytes (usage name))
    (drives : ∀ fdMega busNo target blockSize,
      IgnoresBytes (drive fdMega busNo target blockSize)) :
    IgnoresBytes (withBlockSize usage openMegaError drive host long argv) := by
  apply IgnoresBytes.bind (ignoresBytes_requireTarget long argv helps)
  intro target
  cases target with
  | none => exact .pure _
  | some target =>
      apply IgnoresBytes.bind (ignoresBytes_requireBlockSize long argv)
      intro blockSize
      cases blockSize with
      | none => exact .pure _
      | some blockSize =>
          apply IgnoresBytes.bind (.record _)
          intro _
          apply IgnoresBytes.bind (ignoresBytes_openController ..)
          intro opened
          cases opened with
          | none => exact .pure _
          | some controller => exact drives ..

end Formatters

/-! ### The tools -/

section Tools

variable (errnoOf : String → Int) (host : Host) (long : LongWidth) (rounds : Nat)
  (argv : List String)

/-- `mega_format512` ignores the bytes of the drive. -/
theorem ignoresBytes_megaFormat512 : IgnoresBytes (megaFormat512 host long argv) := by
  have helps : ∀ name, IgnoresBytes (format512Usage name) := by
    intro name
    unfold format512Usage
    repeat apply IgnoresBytes.bind (.record _); intro _
    exact .record _
  apply IgnoresBytes.bind (ignoresBytes_requireTarget long argv helps)
  intro target
  cases target with
  | none => exact .pure _
  | some target =>
      apply IgnoresBytes.bind (.record _)
      intro _
      apply IgnoresBytes.bind (ignoresBytes_openController ..)
      intro opened
      cases opened with
      | none => exact .pure _
      | some controller => exact ignoresBytes_format512Drive ..

/-- `mega_modesel` ignores the bytes of the drive. -/
theorem ignoresBytes_megaModesel : IgnoresBytes (megaModesel host long argv) := by
  have helps : ∀ name, IgnoresBytes (modeselUsage name) := by
    intro name
    unfold modeselUsage
    repeat apply IgnoresBytes.bind (.record _); intro _
    exact .record _
  exact ignoresBytes_withBlockSize host long argv _ helps fun _ _ _ _ =>
    ignoresBytes_modeselDrive ..

/-- `mega_format_immed` ignores the bytes of the drive. -/
theorem ignoresBytes_megaFormatImmed (multicall : Bool) :
    IgnoresBytes (megaFormatImmed host multicall long argv) := by
  have helps : ∀ name, IgnoresBytes (formatImmedUsage name) := by
    intro name
    unfold formatImmedUsage
    repeat apply IgnoresBytes.bind (.record _); intro _
    exact .record _
  exact ignoresBytes_withBlockSize host long argv _ helps fun _ _ _ _ =>
    ignoresBytes_formatImmedDrive ..

theorem ignoresBytes_openForInquiry (device : String) (target : Int) :
    IgnoresBytes (openForInquiry host device target) := by
  apply IgnoresBytes.bind (.consult _ _)
  intro fdDev
  apply IgnoresBytes.ite
  · exact .bind (.record _) fun _ => .pure _
  · apply IgnoresBytes.bind (.consult _ _)
    intro bus
    apply IgnoresBytes.ite
    · exact .bind (.record _) fun _ => .bind (.record _) fun _ => .pure _
    · apply IgnoresBytes.bind (.record _)
      intro _
      apply IgnoresBytes.bind (.record _)
      intro _
      apply IgnoresBytes.bind (.consult _ _)
      intro fdMega
      exact .ite (.bind (.record _) fun _ => .pure _) (.pure _)

/-- The command with the packet built by hand is the INQUIRY of the formatters. -/
theorem handBuilt_eq_inquiry (fd bus target : Int) (reply : DriverReply) :
    (⟨fd, handBuiltPacket bus target (host.array .inqData 96).clear.addr,
      (host.array .inqData 96).clear.addr, (host.array .inqData 96).clear.bytes.toList,
      reply⟩ : Command) = inquiry host fd bus target reply := by
  rw [handBuiltPacket_eq]
  rfl

/-- `mega_inquiry` judges the outcome and prints the bytes. -/
theorem ignoresBytes_inquiryDrive (fd bus target : Int) :
    IgnoresBytes (inquiryDrive errnoOf host fd bus target) := by
  apply Coupled.bind (firmware_coupled ..)
  intro reply other
  apply Coupled.assume
  intro alike
  have line : ∀ {pre : LastCommands → Prop} cmdStatus, Coupled DriversAgree butBytes pre
      (printIoctl errnoOf reply cmdStatus) (printIoctl errnoOf other cmdStatus)
      fun value value' last => value = value' ∧ pre last := by
    intro pre cmdStatus
    unfold printIoctl
    rw [alike.result, alike.error]
    apply Coupled.ite
    · exact fun _ => printf_coupled fun _ _ => .same _
    · exact fun _ => printf_coupled fun _ _ => .same _
  simp only [alike.cmdStatus, alike.result]
  apply Coupled.bind_eq (line _)
  intro _
  apply Coupled.ite
  · intro _
    have ends : IgnoresBytes (do
        Tool.printf "\n"
        Tool.close fd
        return (0 : Int)) := .bind (.record _) fun _ => .bind (.record _) fun _ => .pure _
    apply (printIdentity_coupled _ _ ends).consequence
    · intro last sent
      rw [handBuilt_eq_inquiry, handBuilt_eq_inquiry] at sent
      exact ⟨_, _, sent, inquiry_opcode .., inquiry_opcode ..,
        inquiry_received .., inquiry_received ..⟩
    · exact fun _ _ _ same => same
  · intro _
    have refusal : IgnoresBytes (do
        Tool.printf "INQUIRY failed - wrong target, or passthrough not working.\n"
        Tool.close fd
        return (1 : Int)) := .bind (.record _) fun _ => .bind (.record _) fun _ => .pure _
    exact refusal.strengthen

/-- `mega_inquiry` ignores the bytes of the drive. -/
theorem ignoresBytes_megaInquiry : IgnoresBytes (megaInquiry errnoOf host long argv) := by
  apply IgnoresBytes.bind (ignoresBytes_requireTarget long argv fun _ => .record _)
  intro target
  cases target with
  | none => exact .pure _
  | some target =>
      apply IgnoresBytes.bind (ignoresBytes_openForInquiry ..)
      intro opened
      cases opened with
      | none => exact .pure _
      | some controller => exact ignoresBytes_inquiryDrive ..

theorem ignoresBytes_checkSizeMain : IgnoresBytes checkSizeMain := by
  unfold checkSizeMain
  repeat apply IgnoresBytes.bind (.record _); intro _
  exact .pure _

theorem ignoresBytes_megaraidUsage (prog : String) : IgnoresBytes (megaraidUsage prog) := by
  unfold megaraidUsage
  repeat apply IgnoresBytes.bind (.record _); intro _
  apply IgnoresBytes.bind (.forM (fun _ => .record _) applets)
  intro _
  repeat apply IgnoresBytes.bind (.record _); intro _
  exact .pure _

/-- Every applet but `progress` ignores the bytes of the drive. -/
theorem Applet.main_ignoresBytes {applet : Applet} (other : applet ≠ .progress) :
    IgnoresBytes (applet.main errnoOf host long rounds argv) := by
  cases applet with
  | inquiry => exact .map _ (ignoresBytes_megaInquiry ..)
  | format512 => exact .map _ (ignoresBytes_megaFormat512 ..)
  | modesel => exact .map _ (ignoresBytes_megaModesel ..)
  | formatImmed => exact .map _ (ignoresBytes_megaFormatImmed ..)
  | progress => exact absurd rfl other
  | checkSize => exact .map _ ignoresBytes_checkSizeMain

/-- Every standalone tool but `mega_progress` ignores the bytes of the drive. -/
theorem Applet.standalone_ignoresBytes {applet : Applet} (other : applet ≠ .progress) :
    IgnoresBytes (applet.standalone errnoOf host long rounds argv) := by
  by_cases immed : applet = .formatImmed
  · subst immed
    exact .map _ (ignoresBytes_megaFormatImmed ..)
  · rw [Applet.standalone_eq_main errnoOf host long rounds immed]
    exact Applet.main_ignoresBytes errnoOf host long rounds argv other

/-- **What a drive writes decides nothing** outside of `mega_progress`: in the tools, and
in the unified binary unless it runs that applet. -/
theorem tools_ignore_bytes :
    (∀ applet : Applet, applet ≠ .progress →
      IgnoresBytes (applet.standalone errnoOf host long rounds argv)) ∧
    ((∃ called : List String, Runs argv ⟨.progress, called.length, called⟩) ∨
      IgnoresBytes (megaraidMain errnoOf host long rounds argv)) := by
  constructor
  · exact fun applet other => Applet.standalone_ignoresBytes errnoOf host long rounds argv other
  · have usage : IgnoresBytes (some <$> megaraidUsage (argv.getD 0 "")) :=
      .map some (ignoresBytes_megaraidUsage _)
    rcases megaraidMain_cases errnoOf host long rounds argv with
      ⟨applet, called, _, runs, same⟩ | ⟨_, same | same⟩
    · by_cases poller : applet = .progress
      · subst poller
        exact Or.inl ⟨called, runs⟩
      · rw [same]
        exact Or.inr (Applet.main_ignoresBytes errnoOf host long rounds called poller)
    · rw [same]
      exact Or.inr usage
    · rw [same]
      exact Or.inr (.bind (.record _) fun _ => usage)

end Tools

end Megaraid
