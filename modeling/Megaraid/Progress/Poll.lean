import Megaraid.Common.Arguments
import Megaraid.Device.SendCmd
import Megaraid.Foundation.Iterate
import Megaraid.Progress.Sense

/-!
# The progress poller

`read_capacity10` and the poll loop in `main` of `mega_progress.c`. One round of
the loop is `pollIteration`; what it carries to the next round is the sense buffer,
which is cleared before every command, and `soft_errors`.
-/

namespace Megaraid

/-- `MAX_SOFT_ERRORS`. -/
def maxSoftErrors : Int := 5

/-- `READ_CAP_TRIES`. -/
def readCapTries : Nat := 3

def requestSenseCdb : List UInt8 := [0x03, 0x00, 0x00, 0x00, 96, 0x00]

def readCapacityCdb : List UInt8 := [0x25, 0, 0, 0, 0, 0, 0, 0, 0, 0]

/-- The output parameters of `read_capacity10`. -/
structure CapacityOut where
  lastLba : UInt32
  blockSize : UInt32
  deriving DecidableEq, Repr

/-- `((u32)a << 24) | ((u32)b << 16) | ((u32)c << 8) | d`. -/
def assemble (a b c d : UInt8) : UInt32 :=
  (a.toUInt32 <<< 24) ||| (b.toUInt32 <<< 16) ||| (c.toUInt32 <<< 8) ||| d.toUInt32

def capacityOf (cap : Vector UInt8 8) : CapacityOut where
  lastLba := assemble cap[0] cap[1] cap[2] cap[3]
  blockSize := assemble cap[4] cap[5] cap[6] cap[7]

/-- `read_capacity10`: the return value and the output parameters, which a
failed command leaves alone and a zero block size does not. -/
def readCapacity10 (host : Host) (fd bus target : Int) (out : CapacityOut) :
    Tool (Int × CapacityOut) := do
  let (rc, cap) ← sendCmd fd bus target readCapacityCdb 10 (host.array .cap 8).clear 8
    mfiFrameDirRead none
  if rc ≠ 0 then
    return (-1, out)
  else if (capacityOf cap.bytes).blockSize = 0 then
    return (-1, capacityOf cap.bytes)
  else
    return (0, capacityOf cap.bytes)

/-- The READ CAPACITY attempts, with `left` of them to go; the condition
`attempt < READ_CAP_TRIES` says that another one follows. -/
def readCapacityRetries (host : Host) (fd bus target : Int) :
    (left : Nat) → CapacityOut → Tool (Int × CapacityOut)
  | 0, out => pure (-1, out)
  | left + 1, out => do
      let (capOk, out) ← readCapacity10 host fd bus target out
      if capOk = 0 then
        return (capOk, out)
      else
        (if 0 < left then Tool.sleep 1 else pure ())
        readCapacityRetries host fd bus target left out

/-- `check_expected_block_size`. -/
def checkExpectedBlockSize (actual expected : UInt32) : Int := if actual = expected then 0 else 2

/-- `%.1f` of `progress * 100.0 / 65536.0`. The quotient is exact in `double`,
so the one rounding is that of the conversion, to nearest with ties to even. -/
def percent (progress : Int) : String :=
  let tenths := progress.toNat * 1000 / 65536
  let rest := progress.toNat * 1000 % 65536
  let rounded := if 32768 < rest ∨ rest = 32768 ∧ tenths % 2 = 1 then tenths + 1 else tenths
  decimal (rounded / 10 : Nat) ++ "." ++ decimal (rounded % 10 : Nat)

/-- `%x`. -/
def hex (n : UInt8) : String := String.ofList (Nat.toDigits 16 n.toNat)

/-- The `switch` over the state: what a round prints about it. -/
def printState (out : SenseOut) : Tool Unit :=
  match out.state with
  | .formatting =>
      if out.progress ≥ 0 then
        Tool.printf ("FORMAT IN PROGRESS: " ++ percent out.progress ++ "% (" ++
          decimal out.progress ++ "/65536)\n")
      else
        Tool.printf "FORMAT IN PROGRESS (drive supplied no progress indication)\n"
  | .notReady =>
      Tool.printf ("Drive NOT READY (ASC=0x" ++ hex02 out.asc.toNat ++ " ASCQ=0x" ++
        hex02 out.ascq.toNat ++ ") - not finished\n")
  | .backgroundOp =>
      Tool.printf ("Background operation in progress: " ++ percent out.progress ++ "% (" ++
        decimal out.progress ++ "/65536)\n")
  | .unitAttention =>
      Tool.printf ("UNIT ATTENTION (ASC=0x" ++ hex02 out.asc.toNat ++ " ASCQ=0x" ++
        hex02 out.ascq.toNat ++ ") - re-checking\n")
  | .idle => pure ()

/-- What the poll loop carries from one round to the next. -/
structure PollState where
  sense : Vector UInt8 96
  softErrors : Int

/-- The byte of the sense buffer at an index. -/
def senseByte (sense : List UInt8) (i : Nat) : UInt8 := sense.getD i 0

/-- `parse_sense` on the sense buffer, with the output parameters as a round
initializes them. -/
def decodeSense (sense : List UInt8) : Int × SenseOut :=
  parseSense (senseByte sense) 96 ⟨0, 0, 0, -1⟩

/-- A poll that brought no decodable answer. `++soft_errors` is only evaluated
while polling. -/
def failedPoll (fd interval : Int) (state : PollState) : Tool (PollState ⊕ Int) := do
  let softErrors := state.softErrors + 1
  if interval > 0 ∧ softErrors < maxSoftErrors then
    Tool.printf ("  (transient? retry " ++ decimal softErrors ++ "/" ++ decimal maxSoftErrors ++
      " in " ++ decimal interval ++ "s)\n")
    Tool.sleep interval
    return .inl { state with softErrors := softErrors }
  else
    Tool.printf "Giving up - wrong target, or the drive has stopped responding.\n"
    Tool.close fd
    return .inr 1

/-- A poll that was answered by a state other than `STATE_IDLE`. -/
def busyPoll (fd interval : Int) (state : PollState) : Tool (PollState ⊕ Int) := do
  if interval ≤ 0 then
    Tool.close fd
    return .inr 3
  else
    Tool.sleep interval
    return .inl state

/-- The report on a drive that is ready, and the exit status. -/
def reportReady (host : Host) (fd : Int) (expectedBs : UInt32) (cap : CapacityOut) : Tool Int := do
  Tool.printf ("Drive ready: block size " ++ decimal cap.blockSize.toNat ++ " bytes")
  (if cap.lastLba = 0xFFFFFFFF then
    Tool.printf ", capacity exceeds READ CAPACITY(10) range\n"
  else
    Tool.printf (", " ++ decimal (cap.lastLba + 1).toNat ++ " blocks (" ++
      host.terabytes cap.lastLba cap.blockSize ++ " TB)\n"))
  let status := checkExpectedBlockSize cap.blockSize expectedBs
  (if status ≠ 0 then
    Tool.printf ("NOTE: block size is " ++ decimal cap.blockSize.toNat ++ ", not " ++
      decimal expectedBs.toNat ++ " - the reformat has not taken effect.\n")
  else pure ())
  Tool.close fd
  return status

/-- Nothing is in progress: ask the drive for its block size. -/
def idlePoll (host : Host) (fd bus target : Int) (expectedBs : UInt32) (out : SenseOut) :
    Tool Int := do
  (if out.senseKey ≠ 0x00 then
    Tool.printf ("sense key=0x" ++ hex out.senseKey ++ " ASC=0x" ++ hex02 out.asc.toNat ++
      " ASCQ=0x" ++ hex02 out.ascq.toNat ++ " (no format in progress)\n")
  else pure ())
  let (capOk, cap) ← readCapacityRetries host fd bus target readCapTries ⟨0, 0⟩
  if capOk ≠ 0 then
    Tool.printf ("No format in progress, but READ CAPACITY failed " ++ decimal readCapTries ++
      " times - drive not ready.\n")
    Tool.close fd
    return 1
  else
    reportReady host fd expectedBs cap

/-- What a round does with the result of its REQUEST SENSE and the bytes in the
sense buffer. -/
def answeredPoll (host : Host) (fd bus target interval : Int) (expectedBs : UInt32) (rc : Int)
    (state : PollState) : Tool (PollState ⊕ Int) := do
  let decoded := decodeSense state.sense.toList
  if rc ≠ 0 ∨ decoded.1 < 0 then
    (if rc ≠ 0 then
      Tool.printf ("REQUEST SENSE failed (status 0x" ++ hex02 rc ++ ")\n")
    else
      Tool.printf ("Unrecognized sense response code 0x" ++
        hex02 (state.sense[0] &&& 0x7F).toNat ++ " - cannot decode.\n"))
    failedPoll fd interval state
  else
    let state := { state with softErrors := 0 }
    printState decoded.2
    if decoded.2.state ≠ .idle then
      busyPoll fd interval state
    else
      .inr <$> idlePoll host fd bus target expectedBs decoded.2

/-- One round of the poll loop: the state at the next loop head, or the exit status. -/
def pollIteration (host : Host) (fd bus target interval : Int) (expectedBs : UInt32)
    (state : PollState) : Tool (PollState ⊕ Int) := do
  let (rc, sense) ← sendCmd fd bus target requestSenseCdb 6
    (Buffer.clear ⟨host.addressOf .sense, state.sense⟩) 96 mfiFrameDirRead none
  answeredPoll host fd bus target interval expectedBs rc { state with sense := sense.bytes }

/-- The poll loop, for a number of rounds. -/
def pollLoop (host : Host) (fd bus target interval : Int) (expectedBs : UInt32) (rounds : Nat)
    (state : PollState) : Tool (PollState ⊕ Int) :=
  Traced.iterate (pollIteration host fd bus target interval expectedBs) rounds state

end Megaraid
