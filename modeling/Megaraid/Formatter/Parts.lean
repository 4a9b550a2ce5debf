import Megaraid.Device.Controller
import Megaraid.Device.SendCmd

/-!
# What the formatters share

`mega_format512`, `mega_modesel` and `mega_format_immed` repeat the same steps:
identify the drive by INQUIRY, set the block size by MODE SELECT, count down,
and send FORMAT UNIT. The steps are written once here; what differs between the
programs is a parameter.
-/

namespace Megaraid

def inquiryCdb : List UInt8 := [0x12, 0, 0, 0, 96, 0]

/-- MODE SELECT(6) with the page format bit. -/
def modeSelCdb : List UInt8 := [0x15, 0x10, 0x00, 0x00, 12, 0x00]

/-- The parameter list of MODE SELECT before the block length is filled in. -/
def modeSelTemplate : Vector UInt8 12 :=
  #v[0x00, 0x00, 0x00, 0x08, 0x00, 0x00, 0x00, 0x00, 0x00, 0x00, 0x00, 0x00]

/-- INQUIRY and what is printed about its answer; whether the program goes on. -/
def identify (host : Host) (fd bus target : Int) (name : Option String) : Tool Bool := do
  let (rc, inqData) ← sendCmd fd bus target inquiryCdb 6 (host.array .inqData 96).clear 96
    mfiFrameDirRead name
  if rc ≠ 0 then
    Tool.printf "INQUIRY failed - wrong target?\n"
    Tool.close fd
    return false
  else
    Tool.printf "Found: "
    Tool.printf (printAscii ((inqData.bytes.toList.drop 8).take 8))
    Tool.printf " "
    Tool.printf (printAscii ((inqData.bytes.toList.drop 16).take 16))
    Tool.printf "\n\n"
    return true

/-- A line about the target, the INQUIRY, and the rest of the program if it succeeds. -/
def afterIdentity (host : Host) (fd bus target : Int) (line : String) (name : Option String)
    (rest : Tool Int) : Tool Int := do
  Tool.printf line
  if ← identify host fd bus target name then
    rest
  else
    return 1

/-- `for (int i = seconds; i > 0; i--) { printf("%d...\n", i); sleep(1); }` -/
def countdown : (seconds : Nat) → Tool Unit
  | 0 => pure ()
  | seconds + 1 => do
      Tool.printf (decimal (seconds + 1 : Nat) ++ "...\n")
      Tool.sleep 1
      countdown seconds

/-- The parameter list of MODE SELECT for a block size. -/
def modeSelData (host : Host) (blockSize : Int) : Buffer 12 :=
  ⟨host.addressOf .modeSelData, setModeSelBlockLength modeSelTemplate blockSize⟩

/-- Step 1 of `mega_modesel` and `mega_format_immed`. -/
def modeSelect (host : Host) (fd bus target blockSize : Int) : Tool Int := do
  Tool.printf ("Step 1: MODE SELECT - set block size to " ++ decimal blockSize ++ "\n")
  let (rc, _) ← sendCmd fd bus target modeSelCdb 6 (modeSelData host blockSize) 12
    mfiFrameDirWrite (some "MODE SELECT")
  return rc

/-- The exit status for the result of FORMAT UNIT. -/
def formatStatus (rc : Int) : Int := if rc = 0 then 0 else 1

/-- The last part of a formatter: a warning, the abort countdown, FORMAT UNIT, a
report on its result, and the exit status. -/
def countdownAndFormat (warning : Tool Unit) (seconds : Nat) (step : String) (fd bus target : Int)
    (cdb : List UInt8) {n : Nat} (param : Buffer n) (dir : Int) (name : Option String)
    (report : Int → Tool Unit) : Tool Int := do
  warning
  countdown seconds
  Tool.printf step
  let (rc, _) ← sendCmd fd bus target cdb 6 param n dir name
  report rc
  Tool.close fd
  return formatStatus rc

/-- The warning about a block size no controller is known to accept. -/
def warnUnusual (blockSize : Int) : Tool Unit :=
  if isUnusualBlockSize blockSize then
    Tool.fprintfStderr ("WARNING: " ++ decimal blockSize ++
      " is not 512 or 4096 - those are the only sizes this repo has\n" ++
      "         confirmed a MegaRAID/PERC controller will accept via passthrough\n" ++
      "         (see README). Continuing anyway; Ctrl+C now if that was a typo.\n")
  else pure ()

/-- `block_size` once the arguments were read: 512 unless one is given. -/
def blockSizeOf (long : LongWidth) (argv : List String) : Int :=
  if argv.length > 3 then parseBlockSize long (argv.getD 3 "") else 512

/-- The block size argument of `mega_modesel` and `mega_format_immed`. -/
def requireBlockSize (long : LongWidth) (argv : List String) : Tool (Option Int) := do
  let blockSize := blockSizeOf long argv
  if argv.length > 3 ∧ blockSize < 0 then
    Tool.fprintfStderr ("Invalid block size '" ++ argv.getD 3 "" ++
      "' - expected 1-16777215\n")
    return none
  else
    warnUnusual blockSize
    return some blockSize

/-- The arguments name a block size, or leave it at 512. -/
def NamesBlockSize (long : LongWidth) (argv : List String) : Prop :=
  argv.length > 3 → 0 ≤ parseBlockSize long (argv.getD 3 "")

instance (long : LongWidth) (argv : List String) : Decidable (NamesBlockSize long argv) :=
  inferInstanceAs (Decidable (_ → _))

section Arguments

variable (long : LongWidth) (argv : List String) (driver : Stream' DriverReply)

/-- The block size is handed on if the arguments name one. -/
theorem requireBlockSize_value :
    (requireBlockSize long argv).value driver =
      if NamesBlockSize long argv then some (blockSizeOf long argv) else none := by
  unfold requireBlockSize
  by_cases refused : argv.length > 3 ∧ blockSizeOf long argv < 0
  · have unnamed : ¬NamesBlockSize long argv := by
      intro named
      have accepted := named refused.1
      have given := refused.2
      rw [blockSizeOf, if_pos refused.1] at given
      omega
    simp only [if_pos refused, if_neg unnamed]
    rfl
  · have named : NamesBlockSize long argv := by
      intro given
      rw [not_and, blockSizeOf, if_pos given, not_lt] at refused
      exact refused given
    simp only [if_neg refused, if_pos named]
    rfl

theorem quiet_requireBlockSize : Quiet (requireBlockSize long argv) := by
  refine .ite (.bind (.record rfl rfl) fun _ => .pure _) ?_
  exact .bind (.ite (.record rfl rfl) (.pure _)) fun _ => .pure _

/-- The block size that the arguments name fits in three bytes. -/
theorem blockSizeOf_bounds (named : NamesBlockSize long argv) :
    1 ≤ blockSizeOf long argv ∧ blockSizeOf long argv ≤ 0xFFFFFF := by
  unfold blockSizeOf
  split
  · rename_i given
    exact parseBlockSize_bounds (named given)
  · decide

end Arguments

/-! ### What the steps do -/

section Steps

variable (host : Host) (fd bus target blockSize : Int) (driver : Stream' DriverReply)

/-- The INQUIRY of a formatter, with the driver's answer. -/
def inquiry (reply : DriverReply) : Command :=
  sentCommand fd bus target inquiryCdb 6 (host.array .inqData 96).clear 96 mfiFrameDirRead reply

/-- The MODE SELECT of a formatter, with the driver's answer. -/
def modeSelectSent (reply : DriverReply) : Command :=
  sentCommand fd bus target modeSelCdb 6 (modeSelData host blockSize) 12 mfiFrameDirWrite reply

/-- INQUIRY has opcode 0x12. -/
theorem inquiry_opcode (reply : DriverReply) :
    (inquiry host fd bus target reply).opcode = 0x12 :=
  sentCommand_opcode fd bus target _ _ _ _ _ reply (by decide)

/-- What the INQUIRY leaves in the cleared array. -/
theorem inquiry_received (reply : DriverReply) :
    (inquiry host fd bus target reply).received =
      (transfer (host.array .inqData 96).clear.bytes (reply.written.take 96)).toList :=
  received_sentCommand fd bus target inquiryCdb 6 _ 96 mfiFrameDirRead reply le_rfl

/-- MODE SELECT has opcode 0x15. -/
theorem modeSelectSent_opcode (reply : DriverReply) :
    (modeSelectSent host fd bus target blockSize reply).opcode = 0x15 :=
  sentCommand_opcode fd bus target _ _ _ _ _ reply (by decide)

variable (name : Option String)

/-- `identify` finds a drive if and only if INQUIRY returned 0. -/
theorem identify_value :
    (identify host fd bus target name).value driver =
      if (inquiry host fd bus target driver.head).status ≠ 0 then false else true := by
  simp only [identify, Traced.value_bind, sendCmd_value, Traced.value_ite]
  rfl

/-- `identify` takes one reply of the driver. -/
theorem identify_world : (identify host fd bus target name).world driver = driver.tail := by
  simp [identify]

/-- `identify` sends INQUIRY and nothing else. -/
theorem identify_commands :
    commands ((identify host fd bus target name).events driver) =
      [inquiry host fd bus target driver.head] := by
  simp [identify, inquiry, apply_ite commands]

/-- The value of MODE SELECT is its status. -/
theorem modeSelect_value :
    (modeSelect host fd bus target blockSize).value driver =
      (modeSelectSent host fd bus target blockSize driver.head).status := by
  simp [modeSelect, modeSelectSent]

/-- MODE SELECT takes one reply of the driver. -/
theorem modeSelect_world :
    (modeSelect host fd bus target blockSize).world driver = driver.tail := by
  simp [modeSelect]

/-- MODE SELECT is one command. -/
theorem modeSelect_commands :
    commands ((modeSelect host fd bus target blockSize).events driver) =
      [modeSelectSent host fd bus target blockSize driver.head] := by
  simp [modeSelect, modeSelectSent]

/-- The events of the abort countdown. -/
def countdownEvents : (seconds : Nat) → List Event
  | 0 => []
  | seconds + 1 =>
      .stdout (decimal (seconds + 1 : Nat) ++ "...\n") :: .sleep 1 :: countdownEvents seconds

/-- The events of a countdown. -/
theorem countdown_events (seconds : Nat) :
    (countdown seconds).events driver = countdownEvents seconds := by
  induction seconds with
  | zero => rfl
  | succ seconds ih => simp [countdown, countdownEvents, ih]

/-- A countdown takes no reply of the driver. -/
theorem countdown_world (seconds : Nat) : (countdown seconds).world driver = driver := by
  induction seconds with
  | zero => rfl
  | succ seconds ih => simp [countdown, ih]

/-- A countdown sends no command. -/
theorem commands_countdownEvents (seconds : Nat) : commands (countdownEvents seconds) = [] := by
  induction seconds with
  | zero => rfl
  | succ seconds ih => simp [countdownEvents, ih]

end Steps

end Megaraid
