import Megaraid.Device.Layout
import Megaraid.Formatter.Discipline

/-!
# mega_inquiry

`main` of `mega_inquiry.c` builds its packet by hand and judges the answer by a
test of its own. The packet is the one `send_cmd` builds for the INQUIRY of the
formatters. The judgement is not: a positive result of the ioctl with a good
`cmd_status` passes the formatters and fails here.
-/

namespace Megaraid

/-! ### The program -/

def inquiryUsage (name : String) : Tool Unit :=
  Tool.printf ("Usage: " ++ name ++ " <block_device> <target_id>\n")

/-- From `open(argv[1], …)` to `open("/dev/megaraid_sas_ioctl_node", O_RDWR)`, with
the line about bus and target in between. -/
def openForInquiry (host : Host) (device : String) (target : Int) : Tool (Option (Int × Int)) := do
  let fdDev ← Tool.openFile host device true
  if fdDev < 0 then
    Tool.perror "open block device" (host.openError device true)
    return none
  else
    let bus ← Tool.getBusNumber host fdDev
    if bus.result < 0 then
      Tool.perror "get bus number" bus.error
      Tool.close fdDev
      return none
    else
      Tool.printf ("Bus: " ++ decimal bus.busNo ++ ", Target: " ++ decimal target ++ "\n")
      Tool.close fdDev
      let fdMega ← Tool.openFile host "/dev/megaraid_sas_ioctl_node" false
      if fdMega < 0 then
        Tool.perror "open megaraid" (host.openError "/dev/megaraid_sas_ioctl_node" false)
        return none
      else
        return some (fdMega, bus.busNo)

/-- The packet built by hand. -/
def handBuiltPacket (busNo target : Int) (inqData : UInt64) : MegasasIocpacket :=
  let ioc :=
    { MegasasIocpacket.zero with
      hostNo := UInt16.ofInt busNo
      sgeCount := 1
      sglOff := offsetofSgl
      sgl := MegasasIocpacket.zero.sgl.setIfInBounds 0 { iovBase := inqData, iovLen := 96 } }
  { ioc with
    pthru := { ioc.pthru with
      cmd := mfiCmdPdScsiIo
      cmdStatus := 0xFF
      targetId := UInt8.ofInt target
      cdbLen := 6
      sgeCount := 1
      flags := UInt16.ofInt mfiFrameDirRead
      dataXferLen := 96
      sgl := { physAddr := inqData.toUInt32, length := 96 }
      cdb := (ioc.pthru.cdb.setIfInBounds 0 0x12).setIfInBounds 4 96 } }

/-- The line about the ioctl. `errnoOf` gives the number for a text of `strerror`. -/
def printIoctl (errnoOf : String → Int) (reply : DriverReply) (cmdStatus : UInt8) : Tool Unit :=
  if reply.result < 0 then
    Tool.printf ("ioctl=" ++ decimal reply.result ++ " errno=" ++ decimal (errnoOf reply.error) ++
      " (" ++ reply.error ++ ") cmd_status=0x" ++ hex02 cmdStatus.toNat ++ "\n")
  else
    Tool.printf ("ioctl=" ++ decimal reply.result ++ " cmd_status=0x" ++ hex02 cmdStatus.toNat ++
      "\n")

/-- The part of `mega_inquiry` that talks to the drive. -/
def inquiryDrive (errnoOf : String → Int) (host : Host) (fdMega busNo target : Int) : Tool Int := do
  let inqData := (host.array .inqData 96).clear
  let ioc := handBuiltPacket busNo target inqData.addr
  let reply ← Tool.firmware fdMega ioc inqData
  let bytes := (transfer inqData.bytes (reply.written.take 96)).toList
  let cmdStatus := reply.cmdStatus.getD ioc.pthru.cmdStatus
  printIoctl errnoOf reply cmdStatus
  if reply.result = 0 ∧ cmdStatus = 0 then
    Tool.printf "SUCCESS!\nVendor: "
    Tool.printf (printAscii ((bytes.drop 8).take 8))
    Tool.printf "\nProduct: "
    Tool.printf (printAscii ((bytes.drop 16).take 16))
    Tool.printf "\n"
    Tool.close fdMega
    return 0
  else
    Tool.printf "INQUIRY failed - wrong target, or passthrough not working.\n"
    Tool.close fdMega
    return 1

def megaInquiry (errnoOf : String → Int) (host : Host) (long : LongWidth) (argv : List String) :
    Tool Int := do
  match ← requireTarget inquiryUsage long argv with
  | none => return 1
  | some target =>
      match ← openForInquiry host (argv.getD 1 "") target with
      | none => return 1
      | some (fdMega, busNo) => inquiryDrive errnoOf host fdMega busNo target

/-- The arguments of `mega_inquiry` are accepted and the controller opens. -/
def ReadyToInquire (host : Host) (long : LongWidth) (argv : List String) : Prop :=
  NamesTarget long argv ∧ host.Reaches (argv.getD 1 "")

instance (host : Host) (long : LongWidth) (argv : List String) :
    Decidable (ReadyToInquire host long argv) :=
  inferInstanceAs (Decidable (_ ∧ _))

/-! ### The packet -/

/-- The packet built by hand is that of `send_cmd`. -/
theorem handBuiltPacket_eq (busNo target : Int) (inqData : UInt64) :
    handBuiltPacket busNo target inqData =
      sendCmdPacket busNo target inquiryCdb 6 inqData 96 mfiFrameDirRead := by
  have cdb : (MegasasIocpacket.zero.pthru.cdb.setIfInBounds 0 0x12).setIfInBounds 4 96 =
      memcpyCdb (Vector.replicate 16 0) inquiryCdb 6 := by decide
  have nonempty : (0 : Int) < 96 := by decide
  have sent := sendCmdPacket_eq busNo target inquiryCdb inqData 96 mfiFrameDirRead
  simp only [if_pos nonempty] at sent
  refine Eq.trans ?_ sent.symm
  simp only [handBuiltPacket, cdb]
  rfl

/-! ### The run -/

section Run

variable (errnoOf : String → Int) (host : Host) (fd bus target : Int) (long : LongWidth)
  (argv : List String) (driver : Stream' DriverReply)

/-- `mega_inquiry` opens its controller under the same conditions as the other tools. -/
theorem openForInquiry_value (device : String) :
    (openForInquiry host device target).value driver =
      if host.Reaches device then some (host.node, (host.busReply device).busNo) else none := by
  unfold openForInquiry Host.Reaches Host.busReply Host.node
  by_cases noDevice : host.openFile device true < 0
  · simp [noDevice, Int.not_le.mpr noDevice]
  by_cases noBus : (host.busNumber (host.openFile device true)).result < 0
  · simp [noDevice, noBus, Int.not_le.mpr noBus]
  by_cases noNode : host.openFile "/dev/megaraid_sas_ioctl_node" false < 0
  · simp [noDevice, noBus, noNode, Int.not_le.mpr noNode]
  · simp [noDevice, noBus, noNode, Int.not_lt.mp noDevice, Int.not_lt.mp noBus,
      Int.not_lt.mp noNode]

theorem quiet_openForInquiry (device : String) : Quiet (openForInquiry host device target) := by
  refine .bind (.openFile ..) fun fdDev => .ite ?_ ?_
  · exact .bind (.record rfl rfl) fun _ => .pure _
  · refine .bind (.getBusNumber ..) fun bus => .ite ?_ ?_
    · exact .bind (.record rfl rfl) fun _ => .bind (.record rfl rfl) fun _ => .pure _
    · refine .bind (.record rfl rfl) fun _ => .bind (.record rfl rfl) fun _ => ?_
      refine .bind (.openFile ..) fun fdMega => .ite ?_ (.pure _)
      exact .bind (.record rfl rfl) fun _ => .pure _

/-- `mega_inquiry` reaches its drive part exactly when it is ready. -/
theorem megaInquiry_starts :
    Starts (megaInquiry errnoOf host long argv) (ReadyToInquire host long argv)
      (inquiryDrive errnoOf host host.node (busOf host argv) (targetOf long argv)) 1 := by
  refine .require (quiet_requireTarget _ _ fun _ => .record rfl rfl)
    (fun driver => requireTarget_value driver long argv) rfl ?_
  rw [← and_true (host.Reaches _)]
  exact .require (quiet_openForInquiry ..) (fun _ => openForInquiry_value ..) rfl (.refl _ _)

theorem quiet_printIoctl (reply : DriverReply) (cmdStatus : UInt8) :
    Quiet (printIoctl errnoOf reply cmdStatus) :=
  .ite (.record rfl rfl) (.record rfl rfl)

/-- The command is the INQUIRY of the formatters. -/
theorem inquiryDrive_commands :
    commands ((inquiryDrive errnoOf host fd bus target).events driver) =
      [inquiry host fd bus target driver.head] := by
  simp [inquiryDrive, handBuiltPacket_eq, (quiet_printIoctl ..).commands, apply_ite commands,
    inquiry, sentCommand]

/-- The exit status of `mega_inquiry`. -/
theorem inquiryDrive_value :
    (inquiryDrive errnoOf host fd bus target).value driver =
      if driver.head.result = 0 ∧ driver.head.cmdStatus = some 0 then 0 else 1 := by
  have initial : (handBuiltPacket bus target (host.array .inqData 96).clear.addr).pthru.cmdStatus =
    0xFF := rfl
  simp only [inquiryDrive, Tool.firmware, Traced.value_bind, Traced.value_interact,
    Traced.value_ite, initial, getD_cmdStatus_eq_zero_iff]
  rfl

/-- A good INQUIRY is told, with the vendor to follow. -/
theorem inquiryDrive_tells (good : driver.head.result = 0 ∧ driver.head.cmdStatus = some 0) :
    "SUCCESS!\nVendor: " ∈ printed ((inquiryDrive errnoOf host fd bus target).events driver) := by
  simp [inquiryDrive, good]

end Run

/-! ### Agreement with the formatters -/

section Agreement

variable (errnoOf : String → Int) (host : Host) (long : LongWidth) (argv : List String)
  (driver : Stream' DriverReply)

/-- `mega_inquiry` prints that it succeeded and exits with 0. -/
structure InquirySucceeds : Prop where
  value : (megaInquiry errnoOf host long argv).value driver = 0
  told : "SUCCESS!\nVendor: " ∈ printed ((megaInquiry errnoOf host long argv).events driver)

/-- `mega_inquiry` sends the INQUIRY of the formatters, once, and it succeeds where
they go on. -/
structure AgreesWithFormatters : Prop where
  packet : ∃ command, commands ((megaInquiry errnoOf host long argv).events driver) = [command] ∧
    command.ioc.bytes = (sendCmdPacket (busOf host argv) (targetOf long argv) inquiryCdb 6
      (host.addressOf .inqData) 96 mfiFrameDirRead).bytes
  verdict : ∀ name, InquirySucceeds errnoOf host long argv driver ↔
    ((sendCmd host.node (busOf host argv) (targetOf long argv) inquiryCdb 6
      (host.array .inqData 96).clear 96 mfiFrameDirRead name).value driver).1 = 0
  gate : ∀ name, InquirySucceeds errnoOf host long argv driver ↔
    (identify host host.node (busOf host argv) (targetOf long argv) name).value driver = true

variable {errnoOf host long argv driver}

/-- `mega_inquiry` succeeds if and only if the ioctl returned 0 and the status is 0. -/
theorem inquirySucceeds_iff (ready : ReadyToInquire host long argv) :
    InquirySucceeds errnoOf host long argv driver ↔
      driver.head.result = 0 ∧ driver.head.cmdStatus = some 0 := by
  obtain ⟨first, _, events, value⟩ :=
    (megaInquiry_starts errnoOf host long argv).started ready driver
  constructor
  · rintro ⟨exit, _⟩
    rw [value, inquiryDrive_value] at exit
    by_contra failed
    rw [if_neg failed] at exit
    cases exit
  · intro good
    refine ⟨?_, ?_⟩
    · rw [value, inquiryDrive_value, if_pos good]
    · rw [events, printed_append]
      exact List.mem_append_right _ (inquiryDrive_tells errnoOf host _ _ _ driver good)

/-- The formatters go on if and only if the ioctl did not fail and the status is 0. -/
theorem formatters_identify_iff (fd bus target : Int) (name : Option String) :
    (identify host fd bus target name).value driver = true ↔
      0 ≤ driver.head.result ∧ driver.head.cmdStatus = some 0 := by
  rw [identify_value, ← sentCommand_status_eq_zero_iff fd bus target inquiryCdb 6
    (host.array .inqData 96).clear 96 mfiFrameDirRead]
  unfold inquiry
  split
  · rename_i failed
    exact iff_of_false Bool.false_ne_true failed
  · rename_i passed
    exact iff_of_true rfl (not_not.mp passed)

/-- The INQUIRY of a formatter succeeds where `mega_inquiry` does exactly if the
ioctl did not return a positive number for a good status. -/
theorem inquirySucceeds_agrees_iff (ready : ReadyToInquire host long argv) :
    (InquirySucceeds errnoOf host long argv driver ↔
      0 ≤ driver.head.result ∧ driver.head.cmdStatus = some 0) ↔
    ¬(0 < driver.head.result ∧ driver.head.cmdStatus = some 0) := by
  rw [inquirySucceeds_iff ready]
  constructor
  · rintro same ⟨positive, good⟩
    have zero := (same.mpr ⟨Int.le_of_lt positive, good⟩).1
    omega
  · intro usual
    refine ⟨fun ⟨zero, good⟩ => ⟨Int.le_of_eq zero.symm, good⟩, fun ⟨nonneg, good⟩ => ⟨?_, good⟩⟩
    have bounded : ¬0 < driver.head.result := fun positive => usual ⟨positive, good⟩
    omega

/-- `mega_inquiry` sends the INQUIRY that the formatters send. -/
theorem megaInquiry_packet (ready : ReadyToInquire host long argv) :
    commands ((megaInquiry errnoOf host long argv).events driver) =
      [inquiryOf host long argv driver.head] := by
  obtain ⟨first, quiet, events, _⟩ :=
    (megaInquiry_starts errnoOf host long argv).started ready driver
  rw [events, commands_append, quiet, inquiryDrive_commands]
  rfl

/-- **The verdict of `mega_inquiry`.** The packet is that of the formatters, and
so is the verdict unless the ioctl returns a positive number with a good status. -/
theorem megaInquiry_agrees_iff (ready : ReadyToInquire host long argv) :
    AgreesWithFormatters errnoOf host long argv driver ↔
      ¬(0 < driver.head.result ∧ driver.head.cmdStatus = some 0) := by
  rw [← inquirySucceeds_agrees_iff ready]
  constructor
  · intro agrees
    rw [← formatters_identify_iff host.node (busOf host argv) (targetOf long argv) none]
    exact agrees.gate none
  · intro same
    refine ⟨⟨_, megaInquiry_packet ready, rfl⟩, fun name => ?_, fun name => ?_⟩
    · rw [same, sendCmd_value, sentCommand_status_eq_zero_iff]
    · rw [same, formatters_identify_iff]

/-- The verdict on a drive that answers. -/
theorem megaInquiry_agrees_iff_good :
    AgreesWithFormatters (fun _ => 0) Host.sample .lp64 ["./mega_inquiry", "/dev/sda", "4"]
        (Stream'.const ⟨0, some 0, [], ""⟩) ↔
      ¬((0 : Int) < 0 ∧ (some 0 : Option UInt8) = some 0) :=
  megaInquiry_agrees_iff (by decide)

/-- The ioctl returns 1 and the drive reports a good status: a formatter would go
on, and `mega_inquiry` fails. -/
theorem megaInquiry_positive :
    ¬AgreesWithFormatters (fun _ => 0) Host.sample .lp64 ["./mega_inquiry", "/dev/sda", "4"]
      (Stream'.const ⟨1, some 0, [], ""⟩) := by
  intro agrees
  have ready : ReadyToInquire Host.sample .lp64 ["./mega_inquiry", "/dev/sda", "4"] := by decide
  have passed := (agrees.gate none).mpr ((formatters_identify_iff ..).mpr ⟨by decide, rfl⟩)
  have zero := ((inquirySucceeds_iff ready).mp passed).1
  exact absurd zero (by decide)

end Agreement

end Megaraid
