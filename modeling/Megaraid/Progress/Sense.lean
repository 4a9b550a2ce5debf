import Megaraid.Foundation.Bytes

/-!
# Decoding and classifying sense data

`parse_sense` and `classify` of `mega_progress.c`. The decoder is written over
an arbitrary way of reading a byte of the buffer (`parseSenseM`), so that the
bytes it reads can be observed; `parseSense` reads a memory that answers at
every index.
-/

namespace Megaraid

/-- The output parameters of `parse_sense`. -/
structure SenseOut where
  senseKey : UInt8
  asc : UInt8
  ascq : UInt8
  progress : Int
  deriving DecidableEq, Repr

section Decoder

variable {m : Type → Type} [Monad m] (read : Nat → m UInt8)

/-- `(sense[i] << 8) | sense[i + 1]`. -/
def readProgress (i : Nat) : m Int := do
  let high ← read i
  let low ← read (i + 1)
  return ((high.toNat <<< 8 ||| low.toNat : Nat) : Int)

/-- `sense[i] & mask`, as a condition. -/
def readBit (i : Nat) (mask : UInt8) : m Bool := do
  return (← read i) &&& mask != 0

def readEq (i : Nat) (value : UInt8) : m Bool := do
  return (← read i) == value

/-- What the descriptor loop does with the complete descriptor at index `i`. -/
def readDescriptor (i dlen : Nat) (prog : Int) : m Int := do
  if ← readEq read i 0x02 <&&> pure (decide (dlen ≥ 7)) <&&> readBit read (i + 4) 0x80 then
    readProgress read (i + 5)
  else if ← readEq read i 0x0A <&&> pure (decide (dlen ≥ 8)) <&&> pure (decide (prog < 0)) then
    readProgress read (i + 6)
  else
    return prog

/-- The descriptor loop, from index `i` with the progress found so far. -/
def walkDescriptors (last i : Nat) (prog : Int) : m Int := do
  if i + 1 < last then
    let dlen := 2 + (← read (i + 1)).toNat
    if i + dlen > last then
      return prog
    else
      let prog ← readDescriptor read i dlen prog
      walkDescriptors last (i + dlen) prog
  else
    return prog
  termination_by last - i

/-- The gate at the bottom of `parse_sense`: progress means something for NO
SENSE and NOT READY only. -/
def gateProgress (out : SenseOut) (prog : Int) : SenseOut :=
  if prog ≥ 0 ∧ (out.senseKey = 0x00 ∨ out.senseKey = 0x02) then { out with progress := prog }
  else out

/-- `8 + sense[7]`, bounded by `len`. -/
def readBound (len : Nat) : m Nat := do
  let bound := 8 + (← read 7).toNat
  return if bound > len then len else bound

/-- `(valid > i) ? sense[i] : 0`. -/
def readVisible (valid i : Nat) : m UInt8 :=
  if valid > i then read i else pure 0

def readFixedProgress (valid : Nat) : m Int := do
  if ← pure (decide (valid > 17)) <&&> readBit read 15 0x80 then readProgress read 16
  else return -1

/-- The fixed-format branch. -/
def parseFixed (len : Nat) (out : SenseOut) : m SenseOut := do
  let valid ← readBound read len
  let senseKey := (← read 2) &&& 0x0F
  let asc ← readVisible read valid 12
  let ascq ← readVisible read valid 13
  let prog ← readFixedProgress read valid
  return gateProgress { out with senseKey := senseKey, asc := asc, ascq := ascq } prog

/-- The descriptor-format branch. -/
def parseDescriptor (len : Nat) (out : SenseOut) : m SenseOut := do
  let senseKey := (← read 1) &&& 0x0F
  let asc ← read 2
  let ascq ← read 3
  let last ← readBound read len
  let prog ← walkDescriptors read last 8 (-1)
  return gateProgress { out with senseKey := senseKey, asc := asc, ascq := ascq } prog

/-- `parse_sense`: the return value and the output parameters. -/
def parseSenseM (len : Nat) (out : SenseOut) : m (Int × SenseOut) := do
  let out := { out with progress := -1 }
  if len < 8 then
    return (-1, out)
  else
    let resp := (← read 0) &&& 0x7F
    if resp = 0x70 ∨ resp = 0x71 then
      return (0, ← parseFixed read len out)
    else if resp = 0x72 ∨ resp = 0x73 then
      return (0, ← parseDescriptor read len out)
    else
      return (-1, out)

end Decoder

/-- Reads of a memory that answers at every index. -/
def readMemory (sense : Nat → UInt8) (i : Nat) : Id UInt8 := pure (sense i)

/-- `parse_sense` on a buffer. -/
def parseSense (sense : Nat → UInt8) (len : Nat) (out : SenseOut) : Int × SenseOut :=
  Id.run (parseSenseM (readMemory sense) len out)

/-- `enum drive_state`. -/
inductive DriveState where
  | formatting
  | notReady
  | backgroundOp
  | unitAttention
  | idle
  deriving DecidableEq, Repr

def classify (senseKey asc ascq : UInt8) (progress : Int) : DriveState :=
  if asc = 0x04 ∧ ascq = 0x04 then .formatting
  else if senseKey = 0x02 then .notReady
  else if progress ≥ 0 then .backgroundOp
  else if senseKey = 0x06 then .unitAttention
  else .idle

/-- `classify` on the output parameters of `parse_sense`. -/
def SenseOut.state (out : SenseOut) : DriveState :=
  classify out.senseKey out.asc out.ascq out.progress

end Megaraid
