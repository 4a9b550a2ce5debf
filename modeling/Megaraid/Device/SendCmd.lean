import Megaraid.Device.Host
import Megaraid.Foundation.Strtol

/-!
# Sending one passthrough command

`sendCmd` is `send_cmd` of `megaraid_common.h`: it builds the packet, issues the
ioctl, and returns the device's `cmd_status`, or `-1` when the ioctl itself
failed. The same value is read off the recorded command as `Command.status`,
and `Command.received` is the caller's buffer after the call.
-/

namespace Megaraid

/-- `%02x`. -/
def hex02 (n : Int) : String :=
  let digits := Nat.toDigits 16 (n.emod (2 ^ 32)).toNat
  String.ofList (List.replicate (2 - digits.length) '0' ++ digits)

/-- `%-12s`. -/
def padRight12 (s : String) : String :=
  String.ofList (s.toList ++ List.replicate (12 - s.toList.length) ' ')

/-- The packet `send_cmd` hands to the driver. -/
def sendCmdPacket (bus target : Int) (cdb : List UInt8) (cdblen : Int) (addr : UInt64)
    (len dir : Int) : MegasasIocpacket :=
  let ioc := { MegasasIocpacket.zero with hostNo := UInt16.ofInt bus }
  let ioc :=
    if 0 < len then
      { ioc with
        sgeCount := 1
        sglOff := offsetofSgl
        sgl := ioc.sgl.set 0 { iovBase := addr, iovLen := UInt64.ofInt len }
        pthru := { ioc.pthru with
          sgeCount := 1
          dataXferLen := UInt32.ofInt len
          sgl := { physAddr := addr.toUInt32, length := UInt32.ofInt len } } }
    else ioc
  { ioc with
    pthru := { ioc.pthru with
      cmd := mfiCmdPdScsiIo
      cmdStatus := 0xFF
      targetId := UInt8.ofInt target
      cdbLen := UInt8.ofInt cdblen
      flags := UInt16.ofInt dir
      timeout := 0
      cdb := memcpyCdb ioc.pthru.cdb cdb cdblen.toNat } }

/-- What `send_cmd` returns for a packet and the driver's answer to it. The
driver copies back `cmd_status` only, which is `0xFF` until it does. -/
def cmdStatusOf (ioc : MegasasIocpacket) (reply : DriverReply) : Int :=
  if reply.result < 0 then -1 else (reply.cmdStatus.getD ioc.pthru.cmdStatus).toNat

def sendCmd (fd bus target : Int) (cdb : List UInt8) (cdblen : Int) {n : Nat} (data : Buffer n)
    (len dir : Int) (name : Option String) : Tool (Int × Buffer n) := do
  let ioc := sendCmdPacket bus target cdb cdblen data.addr len dir
  let reply ← Tool.firmware fd ioc data
  let data := { data with bytes := transfer data.bytes (reply.written.take len.toNat) }
  if reply.result < 0 then
    match name with
    | some name => Tool.printf (name ++ ": ioctl failed: " ++ reply.error ++ "\n")
    | none => pure ()
    return (-1, data)
  else
    let cmdStatus := reply.cmdStatus.getD ioc.pthru.cmdStatus
    match name with
    | some name =>
        Tool.printf (padRight12 name ++ " cmd_status=0x" ++ hex02 cmdStatus.toNat ++ "\n")
    | none => pure ()
    return (cmdStatus.toNat, data)

/-- What a command asks of which drive. Where the caller's buffer lies is no part of it. -/
structure Request where
  bus : UInt16
  target : UInt8
  cdb : Vector UInt8 16
  cdbLen : UInt8
  direction : UInt16
  transferLength : UInt32
  data : List UInt8
  deriving DecidableEq

def Request.opcode (request : Request) : UInt8 := request.cdb.get 0

namespace Command

def request (command : Command) : Request where
  bus := command.ioc.hostNo
  target := command.ioc.pthru.targetId
  cdb := command.ioc.pthru.cdb
  cdbLen := command.ioc.pthru.cdbLen
  direction := command.ioc.pthru.flags
  transferLength := command.ioc.pthru.dataXferLen
  data := command.data

/-- What `send_cmd` returned for this command. -/
def status (command : Command) : Int := cmdStatusOf command.ioc command.reply

/-- The caller's buffer after the call. -/
def received (command : Command) : List UInt8 :=
  (transfer ⟨command.data.toArray, rfl⟩ command.reply.written).toList

end Command

variable (fd bus target : Int) (cdb : List UInt8) (cdblen : Int) {n : Nat} (data : Buffer n)
  (len dir : Int) (name : Option String) (driver : Stream' DriverReply)

/-- The command recorded by one call of `send_cmd`. -/
def sentCommand (reply : DriverReply) : Command :=
  ⟨fd, sendCmdPacket bus target cdb cdblen data.addr len dir, data.addr, data.bytes.toList, reply⟩

/-- The value of `send_cmd`: the status, and the array with what the drive wrote. -/
@[simp] theorem sendCmd_value :
    (sendCmd fd bus target cdb cdblen data len dir name).value driver =
      ((sentCommand fd bus target cdb cdblen data len dir driver.head).status,
        { data with bytes := transfer data.bytes (driver.head.written.take len.toNat) }) := by
  by_cases failed : driver.head.result < 0 <;> cases name <;>
    simp [sendCmd, Command.status, sentCommand, cmdStatusOf, failed]

/-- `send_cmd` takes one reply of the driver. -/
@[simp] theorem sendCmd_world :
    (sendCmd fd bus target cdb cdblen data len dir name).world driver = driver.tail := by
  by_cases failed : driver.head.result < 0 <;> cases name <;> simp [sendCmd, failed]

/-- `send_cmd` sends one command. -/
@[simp] theorem sendCmd_commands :
    commands ((sendCmd fd bus target cdb cdblen data len dir name).events driver) =
      [sentCommand fd bus target cdb cdblen data len dir driver.head] := by
  by_cases failed : driver.head.result < 0 <;> cases name <;>
    simp [sendCmd, sentCommand, failed]

/-- The request that the driver reads from the packet. -/
theorem sentCommand_request (reply : DriverReply) :
    (sentCommand fd bus target cdb cdblen data len dir reply).request =
      { bus := UInt16.ofInt bus
        target := UInt8.ofInt target
        cdb := memcpyCdb (Vector.replicate 16 0) cdb cdblen.toNat
        cdbLen := UInt8.ofInt cdblen
        direction := UInt16.ofInt dir
        transferLength := if 0 < len then UInt32.ofInt len else 0
        data := data.bytes.toList } := by
  unfold Command.request sentCommand sendCmdPacket
  by_cases some : 0 < len
  · simp only [if_pos some]
    rfl
  · simp only [if_neg some]
    rfl

/-- The status of a command: -1 if the ioctl failed, else the stored one, 0xFF at first. -/
theorem sentCommand_status (reply : DriverReply) :
    (sentCommand fd bus target cdb cdblen data len dir reply).status =
      if reply.result < 0 then -1 else ((reply.cmdStatus.getD 0xFF).toNat : Int) := by
  unfold Command.status cmdStatusOf sentCommand sendCmdPacket
  split <;> rfl

/-- The status is good only if the driver stored it. -/
theorem getD_cmdStatus_eq_zero_iff (cmdStatus : Option UInt8) :
    cmdStatus.getD 0xFF = 0 ↔ cmdStatus = some 0 := by
  cases cmdStatus with
  | none => decide
  | some cmdStatus => rw [Option.getD_some, Option.some_inj]

/-- The status is zero if and only if the ioctl succeeded and the driver stored zero. -/
theorem sentCommand_status_eq_zero_iff (reply : DriverReply) :
    (sentCommand fd bus target cdb cdblen data len dir reply).status = 0 ↔
      0 ≤ reply.result ∧ reply.cmdStatus = some 0 := by
  rw [sentCommand_status, ← getD_cmdStatus_eq_zero_iff, ← UInt8.toNat_inj]
  split
  · omega
  · simp only [UInt8.toNat_ofNat]
    omega

/-- The opcode of a command is the first byte of its CDB. -/
theorem sentCommand_opcode (reply : DriverReply) (some : 0 < cdblen.toNat) :
    (sentCommand fd bus target cdb cdblen data len dir reply).opcode = cdb.getD 0 0 := by
  have packed : (sendCmdPacket bus target cdb cdblen data.addr len dir).pthru.cdb =
      memcpyCdb (Vector.replicate 16 0) cdb cdblen.toNat := by
    unfold sendCmdPacket
    split <;> rfl
  rw [Command.opcode, sentCommand, packed, getElem_memcpyCdb, if_pos some]

/-- A call of `send_cmd` issues its command and then at most prints a line. -/
theorem sendCmd_events :
    ∃ after, (sendCmd fd bus target cdb cdblen data len dir name).events driver =
      .firmware (sentCommand fd bus target cdb cdblen data len dir driver.head) :: after ∧
      commands after = [] := by
  by_cases failed : driver.head.result < 0 <;> cases name <;>
    simp [sendCmd, sentCommand, failed]

/-- The array that a command leaves behind. -/
theorem received_sentCommand (reply : DriverReply) (whole : n ≤ len.toNat) :
    (sentCommand fd bus target cdb cdblen data len dir reply).received =
      (transfer data.bytes (reply.written.take len.toNat)).toList := by
  apply List.ext_getElem
  · simp [Command.received, sentCommand]
  · intro i _ inside
    have bound : i < n := by simpa using inside
    have below : i < len.toNat := by omega
    simp only [Command.received, sentCommand, Vector.getElem_toList, getElem_transfer,
      List.getD_eq_getElem?_getD, List.getElem?_take_of_lt below]
    rfl

section Packet

variable (addr : UInt64)

/-- The host number of the packet is cut to 16 bits. -/
@[simp] theorem sendCmdPacket_hostNo :
    (sendCmdPacket bus target cdb cdblen addr len dir).hostNo = UInt16.ofInt bus := by
  unfold sendCmdPacket
  split <;> rfl

/-- The target of the packet is cut to 8 bits. -/
@[simp] theorem sendCmdPacket_targetId :
    (sendCmdPacket bus target cdb cdblen addr len dir).pthru.targetId = UInt8.ofInt target := by
  unfold sendCmdPacket
  split <;> rfl

end Packet

end Megaraid
