import Mathlib.Logic.Basic

/-!
# The megasas ioctl packet

The packed structures of `megaraid_common.h`, one field for each C field, and
the buffers whose addresses they carry. Conversions of a C `int` into a
narrower field reduce it modulo the width of the field.
-/

namespace Megaraid

/-- `struct iovec`. -/
structure Iovec where
  iovBase : UInt64
  iovLen : UInt64
  deriving DecidableEq, Repr

/-- `struct megasas_sge32`. -/
structure MegasasSge32 where
  physAddr : UInt32
  length : UInt32
  deriving DecidableEq, Repr

/-- `struct megasas_pthru_frame`; `union megasas_sgl` has the one member `sge32[1]`. -/
structure MegasasPthruFrame where
  cmd : UInt8
  senseLen : UInt8
  cmdStatus : UInt8
  scsiStatus : UInt8
  targetId : UInt8
  lun : UInt8
  cdbLen : UInt8
  sgeCount : UInt8
  context : UInt32
  pad0 : UInt32
  flags : UInt16
  timeout : UInt16
  dataXferLen : UInt32
  senseBufPhysAddrLo : UInt32
  senseBufPhysAddrHi : UInt32
  cdb : Vector UInt8 16
  sgl : MegasasSge32
  deriving DecidableEq, Repr

/-- `MAX_IOCTL_SGE`. -/
abbrev maxIoctlSge : Nat := 16

/-- `struct megasas_iocpacket`. The frame union is only ever used as its
`pthru` member; the rest of its 128 raw bytes stays as `memset` left it. -/
structure MegasasIocpacket where
  hostNo : UInt16
  pad1 : UInt16
  sglOff : UInt32
  sgeCount : UInt32
  senseOff : UInt32
  senseLen : UInt32
  pthru : MegasasPthruFrame
  sgl : Vector Iovec maxIoctlSge
  deriving DecidableEq, Repr

/-- `memset(&ioc, 0, sizeof(ioc))`. -/
def MegasasIocpacket.zero : MegasasIocpacket where
  hostNo := 0
  pad1 := 0
  sglOff := 0
  sgeCount := 0
  senseOff := 0
  senseLen := 0
  pthru :=
    { cmd := 0, senseLen := 0, cmdStatus := 0, scsiStatus := 0, targetId := 0, lun := 0,
      cdbLen := 0, sgeCount := 0, context := 0, pad0 := 0, flags := 0, timeout := 0,
      dataXferLen := 0, senseBufPhysAddrLo := 0, senseBufPhysAddrHi := 0,
      cdb := Vector.replicate 16 0, sgl := ⟨0, 0⟩ }
  sgl := Vector.replicate maxIoctlSge ⟨0, 0⟩

/-- `MFI_CMD_PD_SCSI_IO`. -/
def mfiCmdPdScsiIo : UInt8 := 0x04

/-- `MFI_FRAME_DIR_WRITE`. -/
def mfiFrameDirWrite : Int := 0x0008

/-- `MFI_FRAME_DIR_READ`. -/
def mfiFrameDirRead : Int := 0x0010

/-- `offsetof(struct megasas_pthru_frame, sgl)`: eight bytes of header, `context`
and `pad_0`, `flags`, `timeout` and `data_xfer_len`, the sense address, the CDB. -/
def offsetofSgl : UInt32 := 8 + 8 + 8 + 8 + 16

/-- A local array of a tool: its address and its contents. -/
structure Buffer (n : Nat) where
  addr : UInt64
  bytes : Vector UInt8 n

/-- `memset(buffer, 0, sizeof(buffer))`. -/
def Buffer.clear {n : Nat} (buffer : Buffer n) : Buffer n :=
  { buffer with bytes := Vector.replicate n 0 }

/-- Overwrite the front of a byte array by what a device transferred. -/
def transfer {n : Nat} (bytes : Vector UInt8 n) (written : List UInt8) : Vector UInt8 n :=
  Vector.ofFn fun i => written.getD i bytes[i]

/-- `memcpy(cdb, source, count)` into the front of the CDB field. -/
def memcpyCdb (cdb : Vector UInt8 16) (source : List UInt8) (count : Nat) : Vector UInt8 16 :=
  Vector.ofFn fun i => if i < count then source.getD i 0 else cdb[i]

/-- A cleared array is known by its address. -/
theorem Buffer.clear_congr {n : Nat} {buffer other : Buffer n} (same : buffer.addr = other.addr) :
    buffer.clear = other.clear := by
  rw [clear, clear, same]

/-- A byte of the array after a transfer: as written if the transfer reaches it, else as
before. -/
@[simp] theorem getElem_transfer {n : Nat} (bytes : Vector UInt8 n) (written : List UInt8)
    (i : Nat) (inside : i < n) : (transfer bytes written)[i] = written.getD i bytes[i] := by
  simp [transfer]

/-- A byte of the CDB after the copy. -/
@[simp] theorem getElem_memcpyCdb (cdb : Vector UInt8 16) (source : List UInt8) (count i : Nat)
    (inside : i < 16) :
    (memcpyCdb cdb source count)[i] = if i < count then source.getD i 0 else cdb[i] := by
  simp [memcpyCdb]

end Megaraid
