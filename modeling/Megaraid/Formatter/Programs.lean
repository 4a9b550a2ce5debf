import Megaraid.Formatter.Parts

/-!
# The formatters

`main` of `mega_format512.c`, `mega_modesel.c` and `mega_format_immed.c`, each
returning its exit status. The part of a program that talks to the drive is a
definition of its own.
-/

namespace Megaraid

/-! ### mega_format512 -/

def format512Usage (name : String) : Tool Unit := do
  Tool.printf "MegaRAID FORMAT UNIT (uses the drive's CURRENT sector size)\n"
  Tool.printf ("Usage: " ++ name ++ " <block_device> <target_id>\n")
  Tool.printf "\n"
  Tool.printf "This sends FORMAT UNIT only. FORMAT UNIT has no block-size field,\n"
  Tool.printf "so it reformats at whatever size the drive's mode page already\n"
  Tool.printf "holds - on a 520-byte drive it destroys the data and leaves it at\n"
  Tool.printf "520. To change the sector size use mega_modesel (SSD) or\n"
  Tool.printf "mega_format_immed (HDD, and the only safe choice on slow drives).\n"

/-- `format_cdb` of `mega_format512` and `mega_format_immed`, with FMTDATA set. -/
def formatDataCdb : List UInt8 := [0x04, 0x10, 0x00, 0x00, 0x00, 0x00]

/-- The short parameter list header of `mega_format512`. -/
def format512Param (host : Host) : Buffer 4 :=
  ⟨host.addressOf .formatParam, #v[0x00, 0x00, 0x00, 0x00]⟩

/-- What `mega_format512` prints about the result of FORMAT UNIT. -/
def reportFormat512 (target rc : Int) : Tool Unit := do
  if rc = 0 then
    Tool.printf "\nFORMAT command accepted!\n"
    Tool.printf "Format in progress - this will take 30-60 minutes.\n"
    Tool.printf ("Monitor with: smartctl -d megaraid," ++ decimal target ++ " -a /dev/sda\n")
  else if rc < 0 then
    Tool.printf "\nFORMAT failed: the ioctl itself did not complete.\n"
  else
    Tool.printf ("\nFORMAT failed with status: 0x" ++ hex02 rc ++ "\n")
    (if rc = 0x45 then
      Tool.printf ("(0x45 = MFI_STAT_SCSI_IO_FAILED - on a slow HDD this usually means the\n" ++
        " controller timed out a blocking FORMAT UNIT. Use mega_format_immed\n" ++
        " instead, which sets the IMMED bit. See README.)\n")
    else pure ())

def warnFormat512 : Tool Unit := do
  Tool.printf "*** FORMAT UNIT AT THE DRIVE'S CURRENT SECTOR SIZE IN 5 SECONDS ***\n"
  Tool.printf "*** This does NOT change 520 -> 512; use mega_format_immed for that ***\n"
  Tool.printf "*** ALL DATA WILL BE DESTROYED - Ctrl+C to abort ***\n\n"

def format512Drive (host : Host) (fdMega busNo target : Int) : Tool Int :=
  afterIdentity host fdMega busNo target
    ("Checking target " ++ decimal target ++ " on bus " ++ decimal busNo ++ "...\n") none
    (countdownAndFormat warnFormat512 5 "\nSending FORMAT UNIT command...\n" fdMega busNo target
      formatDataCdb (format512Param host) mfiFrameDirWrite none (reportFormat512 target))

def megaFormat512 (host : Host) (long : LongWidth) (argv : List String) : Tool Int := do
  match ← requireTarget format512Usage long argv with
  | none => return 1
  | some target =>
      Tool.setLineBuffered
      match ← openController host (argv.getD 1 "") "open" "open megaraid" with
      | none => return 1
      | some (fdMega, busNo) => format512Drive host fdMega busNo target

/-! ### mega_modesel -/

def modeselUsage (name : String) : Tool Unit := do
  Tool.printf "MegaRAID MODE SELECT + FORMAT UNIT (520-byte -> 512 or 4096-byte sectors)\n"
  Tool.printf ("Usage: " ++ name ++ " <block_device> <target_id> [block_size]\n")
  Tool.printf "  <block_device> any drive on the same controller (e.g. /dev/sda);\n"
  Tool.printf "                 used only to find the host number, never written to.\n"
  Tool.printf "  <target_id>    MegaRAID target id of the drive to format.\n"
  Tool.printf "  [block_size]   sector size to set, e.g. 512 or 4096 (default 512).\n"
  Tool.printf "\n"
  Tool.printf "Sends a BLOCKING FORMAT UNIT. Safe on SSDs; on a slow or multi-TB\n"
  Tool.printf "HDD use mega_format_immed instead - see README, \"The IMMED bit\".\n"

/-- `format_cdb` of `mega_modesel`: no parameter list. -/
def formatPlainCdb : List UInt8 := [0x04, 0x00, 0x00, 0x00, 0x00, 0x00]

/-- The data argument `NULL`. -/
def nullBuffer : Buffer 0 := ⟨0, #v[]⟩

/-- The announcement of the countdown in `mega_modesel` and `mega_format_immed`. -/
def warnFormatting (blockSize : Int) (seconds : Nat) : Tool Unit := do
  Tool.printf ("\n*** FORMATTING TO " ++ decimal blockSize ++ "-BYTE SECTORS IN " ++
    decimal seconds ++ " SECONDS ***\n")
  Tool.printf "*** ALL DATA WILL BE DESTROYED - Ctrl+C to abort ***\n\n"

/-- From step 1 of `mega_modesel` on. -/
def modeselSteps (host : Host) (fdMega busNo target blockSize : Int) : Tool Int := do
  let rc ← modeSelect host fdMega busNo target blockSize
  if rc ≠ 0 then
    Tool.printf ("\nMODE SELECT failed (status 0x" ++ hex02 rc ++ ") - FORMAT UNIT not sent.\n")
    Tool.close fdMega
    return 1
  else
    countdownAndFormat (warnFormatting blockSize 5) 5
      "\nStep 2: FORMAT UNIT - apply new settings\n" fdMega busNo target formatPlainCdb nullBuffer 0
      (some "FORMAT UNIT") (fun _ => pure ())

def modeselDrive (host : Host) (fdMega busNo target blockSize : Int) : Tool Int :=
  afterIdentity host fdMega busNo target
    ("Target " ++ decimal target ++ " bus " ++ decimal busNo ++ "\n\n") (some "INQUIRY")
    (modeselSteps host fdMega busNo target blockSize)

/-- The argument handling and the way to the controller of `mega_modesel` and
`mega_format_immed`, and then the part that talks to the drive. -/
def withBlockSize (usage : String → Tool Unit) (openMegaError : String)
    (drive : (fdMega busNo target blockSize : Int) → Tool Int) (host : Host) (long : LongWidth)
    (argv : List String) : Tool Int := do
  match ← requireTarget usage long argv with
  | none => return 1
  | some target =>
      match ← requireBlockSize long argv with
      | none => return 1
      | some blockSize =>
          Tool.setLineBuffered
          match ← openController host (argv.getD 1 "") "open dev" openMegaError with
          | none => return 1
          | some (fdMega, busNo) => drive fdMega busNo target blockSize

def megaModesel (host : Host) (long : LongWidth) (argv : List String) : Tool Int :=
  withBlockSize modeselUsage "open" (modeselDrive host) host long argv

/-! ### mega_format_immed -/

def formatImmedUsage (name : String) : Tool Unit := do
  Tool.printf "MegaRAID Drive Formatter, IMMED (520-byte -> 512 or 4096-byte sectors)\n"
  Tool.printf ("Usage: " ++ name ++ " <block_device> <target_id> [block_size]\n")
  Tool.printf "  <block_device> any drive on the same controller (e.g. /dev/sda);\n"
  Tool.printf "                 used only to find the host number, never written to.\n"
  Tool.printf "  <target_id>    MegaRAID target id of the drive to format.\n"
  Tool.printf "  [block_size]   sector size to set, e.g. 512 or 4096 (default 512).\n"

/-- `PROGRESS_CMD`, which depends on `MEGA_MULTICALL`. -/
def progressCmd (multicall : Bool) : String :=
  if multicall then "./megaraid_tool progress" else "./mega_progress"

/-- The short parameter list header of `mega_format_immed`, with IMMED set. -/
def formatImmedParam (host : Host) : Buffer 4 :=
  ⟨host.addressOf .formatParam, #v[0x00, 0x02, 0x00, 0x00]⟩

/-- The seconds of the abort countdown, after MODE SELECT. -/
def immedCountdown (rc : Int) : Nat := if rc ≠ 0 then 15 else 5

/-- The warning that MODE SELECT failed. -/
def warnModeSelect (rc blockSize : Int) : Tool Unit :=
  if rc ≠ 0 then do
    Tool.printf ("\n*** MODE SELECT FAILED (status 0x" ++ hex02 rc ++ ") ***\n")
    Tool.printf ("The drive has NOT accepted " ++ decimal blockSize ++
      "-byte sectors. Formatting now will\n")
    Tool.printf "destroy all data and may still leave the drive at its old size.\n"
    Tool.printf "Some drives do take the new size from FORMAT UNIT anyway, so this\n"
    Tool.printf "is not always fatal - but continue only if that is what you want.\n"
  else pure ()

/-- The line with the progress command to run next. -/
def followUpLine (multicall : Bool) (device : String) (target interval blockSize : Int) : String :=
  "  " ++ progressCmd multicall ++ " " ++ device ++ " " ++ decimal target ++ " " ++
    decimal interval ++ " " ++ decimal blockSize ++ "\n"

/-- What `mega_format_immed` prints about the result of FORMAT UNIT. -/
def reportFormatImmed (multicall : Bool) (device : String) (target blockSize rc : Int) :
    Tool Unit :=
  if rc = 0 then do
    Tool.printf "\nAccepted. Drive is now formatting in the BACKGROUND (can take hours\n"
    Tool.printf "on a multi-TB HDD). Do NOT power off until it finishes.\n"
    Tool.printf "Monitor progress with:\n"
    Tool.printf (followUpLine multicall device target 60 blockSize)
    Tool.printf "When done, clear the controller's stale cache (see README) and verify:\n"
    Tool.printf ("  smartctl -d megaraid," ++ decimal target ++
      " -i /dev/sda | grep -i 'block size'\n")
  else do
    Tool.printf ("\nFORMAT UNIT not accepted (status 0x" ++ hex02 rc ++ "). Inspect sense:\n")
    Tool.printf (followUpLine multicall device target 0 blockSize)

/-- From step 1 of `mega_format_immed` on. -/
def formatImmedSteps (host : Host) (multicall : Bool) (device : String)
    (fdMega busNo target blockSize : Int) : Tool Int := do
  let rc ← modeSelect host fdMega busNo target blockSize
  warnModeSelect rc blockSize
  countdownAndFormat (warnFormatting blockSize (immedCountdown rc)) (immedCountdown rc)
    "\nStep 2: FORMAT UNIT with IMMED=1 (returns immediately)\n" fdMega busNo target formatDataCdb
    (formatImmedParam host) mfiFrameDirWrite (some "FORMAT UNIT")
    (reportFormatImmed multicall device target blockSize)

def formatImmedDrive (host : Host) (multicall : Bool) (device : String)
    (fdMega busNo target blockSize : Int) : Tool Int :=
  afterIdentity host fdMega busNo target
    ("Target " ++ decimal target ++ " on bus " ++ decimal busNo ++ "\n") (some "INQUIRY")
    (formatImmedSteps host multicall device fdMega busNo target blockSize)

def megaFormatImmed (host : Host) (multicall : Bool) (long : LongWidth) (argv : List String) :
    Tool Int :=
  withBlockSize formatImmedUsage "open megaraid"
    (formatImmedDrive host multicall (argv.getD 1 "")) host long argv

end Megaraid
