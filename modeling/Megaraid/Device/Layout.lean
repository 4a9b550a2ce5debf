import Megaraid.Device.SendCmd
import Megaraid.Foundation.Bytes
import Megaraid.Foundation.Packed

/-!
# The packet in memory

`struct megasas_iocpacket` as the 404 bytes a little-endian LP64 machine hands
to the driver, and what the driver finds at its own offsets in the packet that
`send_cmd` builds.
-/

namespace Megaraid

/-! ### Layout -/

def Iovec.chunks (iovec : Iovec) : List (List UInt8) :=
  [littleEndian 8 iovec.iovBase.toNat, littleEndian 8 iovec.iovLen.toNat]

def MegasasSge32.chunks (sge : MegasasSge32) : List (List UInt8) :=
  [littleEndian 4 sge.physAddr.toNat, littleEndian 4 sge.length.toNat]

def MegasasPthruFrame.chunks (pthru : MegasasPthruFrame) : List (List UInt8) :=
  [littleEndian 1 pthru.cmd.toNat, littleEndian 1 pthru.senseLen.toNat,
    littleEndian 1 pthru.cmdStatus.toNat, littleEndian 1 pthru.scsiStatus.toNat,
    littleEndian 1 pthru.targetId.toNat, littleEndian 1 pthru.lun.toNat,
    littleEndian 1 pthru.cdbLen.toNat, littleEndian 1 pthru.sgeCount.toNat,
    littleEndian 4 pthru.context.toNat, littleEndian 4 pthru.pad0.toNat,
    littleEndian 2 pthru.flags.toNat, littleEndian 2 pthru.timeout.toNat,
    littleEndian 4 pthru.dataXferLen.toNat, littleEndian 4 pthru.senseBufPhysAddrLo.toNat,
    littleEndian 4 pthru.senseBufPhysAddrHi.toNat, pthru.cdb.toList] ++ pthru.sgl.chunks

/-- What the frame union holds behind its `pthru` member. -/
def frameTail : List UInt8 := List.replicate 72 0

def MegasasIocpacket.chunks (ioc : MegasasIocpacket) : List (List UInt8) :=
  [littleEndian 2 ioc.hostNo.toNat, littleEndian 2 ioc.pad1.toNat,
    littleEndian 4 ioc.sglOff.toNat, littleEndian 4 ioc.sgeCount.toNat,
    littleEndian 4 ioc.senseOff.toNat, littleEndian 4 ioc.senseLen.toNat] ++
    (ioc.pthru.chunks ++ frameTail :: ioc.sgl.toList.flatMap Iovec.chunks)

/-- The bytes of a packet. -/
def MegasasIocpacket.bytes (ioc : MegasasIocpacket) : List UInt8 := pack ioc.chunks

/-- The widths of the fields of a packet. -/
def packetWidths : List Nat :=
  [2, 2, 4, 4, 4, 4] ++
    ([1, 1, 1, 1, 1, 1, 1, 1, 4, 4, 2, 2, 4, 4, 4, 16, 4, 4] ++ 72 :: List.replicate 32 8)

/-- Every gather element is two fields of eight bytes. -/
theorem length_chunks_iovecs (iovecs : List Iovec) :
    (iovecs.flatMap Iovec.chunks).map List.length = List.replicate (2 * iovecs.length) 8 := by
  induction iovecs with
  | nil => rfl
  | cons iovec iovecs ih =>
      rw [List.flatMap_cons, List.map_append, ih, List.length_cons, Nat.mul_succ]
      simp [Iovec.chunks, List.replicate_succ]

/-- The address and the length of a gather element are adjacent fields. -/
theorem getElem?_chunks_iovecs {iovecs : List Iovec} {j : Nat} {iovec : Iovec}
    (entry : iovecs[j]? = some iovec) :
    (iovecs.flatMap Iovec.chunks)[2 * j]? = some (littleEndian 8 iovec.iovBase.toNat) ∧
    (iovecs.flatMap Iovec.chunks)[2 * j + 1]? = some (littleEndian 8 iovec.iovLen.toNat) := by
  induction iovecs generalizing j with
  | nil => cases entry
  | cons first rest ih =>
      cases j with
      | zero =>
          rw [List.getElem?_cons_zero, Option.some_inj] at entry
          rw [← entry]
          exact ⟨rfl, rfl⟩
      | succ j =>
          rw [List.getElem?_cons_succ] at entry
          exact ih entry

/-- The iovecs follow 25 other chunks. -/
theorem getElem?_chunks_sgl (ioc : MegasasIocpacket) (k : Nat) :
    ioc.chunks[25 + k]? = (ioc.sgl.toList.flatMap Iovec.chunks)[k]? := by
  rw [Nat.add_comm]
  rfl

/-- The fields of a packet have the widths of the driver's structure. -/
theorem length_chunks (ioc : MegasasIocpacket) :
    ioc.chunks.map List.length = packetWidths := by
  have iovecs := length_chunks_iovecs ioc.sgl.toList
  rw [Vector.length_toList] at iovecs
  simp only [MegasasIocpacket.chunks, packetWidths, List.map_append, List.map_cons, iovecs]
  simp [MegasasPthruFrame.chunks, MegasasSge32.chunks, frameTail]
  rfl

/-- A packet takes 404 bytes. -/
theorem length_bytes (ioc : MegasasIocpacket) : ioc.bytes.length = 404 := by
  rw [MegasasIocpacket.bytes, length_pack, length_chunks]
  rfl

/-- The field of an index is found at the sum of the widths before it. -/
theorem readUnsigned_bytes (ioc : MegasasIocpacket) (index : Nat) {offset width value : Nat}
    (placed : ioc.chunks[index]? = some (littleEndian width value))
    (starts : (packetWidths.take index).sum = offset) (fits : value < 256 ^ width) :
    readUnsigned ioc.bytes offset width = value := by
  rw [← starts, ← length_chunks ioc]
  exact readUnsigned_pack placed fits

/-- Every field of a packet is found at its offset in the bytes. -/
structure FieldsFound (ioc : MegasasIocpacket) : Prop where
  hostNo : readUnsigned ioc.bytes 0 2 = ioc.hostNo.toNat
  pad1 : readUnsigned ioc.bytes 2 2 = ioc.pad1.toNat
  sglOff : readUnsigned ioc.bytes 4 4 = ioc.sglOff.toNat
  sgeCount : readUnsigned ioc.bytes 8 4 = ioc.sgeCount.toNat
  senseOff : readUnsigned ioc.bytes 12 4 = ioc.senseOff.toNat
  senseLen : readUnsigned ioc.bytes 16 4 = ioc.senseLen.toNat
  cmd : readUnsigned ioc.bytes 20 1 = ioc.pthru.cmd.toNat
  frameSenseLen : readUnsigned ioc.bytes 21 1 = ioc.pthru.senseLen.toNat
  cmdStatus : readUnsigned ioc.bytes 22 1 = ioc.pthru.cmdStatus.toNat
  scsiStatus : readUnsigned ioc.bytes 23 1 = ioc.pthru.scsiStatus.toNat
  targetId : readUnsigned ioc.bytes 24 1 = ioc.pthru.targetId.toNat
  lun : readUnsigned ioc.bytes 25 1 = ioc.pthru.lun.toNat
  cdbLen : readUnsigned ioc.bytes 26 1 = ioc.pthru.cdbLen.toNat
  frameSgeCount : readUnsigned ioc.bytes 27 1 = ioc.pthru.sgeCount.toNat
  context : readUnsigned ioc.bytes 28 4 = ioc.pthru.context.toNat
  pad0 : readUnsigned ioc.bytes 32 4 = ioc.pthru.pad0.toNat
  flags : readUnsigned ioc.bytes 36 2 = ioc.pthru.flags.toNat
  timeout : readUnsigned ioc.bytes 38 2 = ioc.pthru.timeout.toNat
  dataXferLen : readUnsigned ioc.bytes 40 4 = ioc.pthru.dataXferLen.toNat
  senseBufPhysAddrLo : readUnsigned ioc.bytes 44 4 = ioc.pthru.senseBufPhysAddrLo.toNat
  senseBufPhysAddrHi : readUnsigned ioc.bytes 48 4 = ioc.pthru.senseBufPhysAddrHi.toNat
  cdb : slice ioc.bytes 52 16 = ioc.pthru.cdb.toList
  physAddr : readUnsigned ioc.bytes 68 4 = ioc.pthru.sgl.physAddr.toNat
  length : readUnsigned ioc.bytes 72 4 = ioc.pthru.sgl.length.toNat
  frameTail : readUnsigned ioc.bytes 76 72 = 0
  sgl : ∀ j iovec, ioc.sgl.toList[j]? = some iovec →
    readUnsigned ioc.bytes (148 + 16 * j) 8 = iovec.iovBase.toNat ∧
    readUnsigned ioc.bytes (156 + 16 * j) 8 = iovec.iovLen.toNat

/-- Every field of a packet is found at its offset. -/
theorem fieldsFound (ioc : MegasasIocpacket) : FieldsFound ioc where
  hostNo := readUnsigned_bytes ioc 0 rfl rfl (UInt16.toNat_lt _)
  pad1 := readUnsigned_bytes ioc 1 rfl rfl (UInt16.toNat_lt _)
  sglOff := readUnsigned_bytes ioc 2 rfl rfl (UInt32.toNat_lt _)
  sgeCount := readUnsigned_bytes ioc 3 rfl rfl (UInt32.toNat_lt _)
  senseOff := readUnsigned_bytes ioc 4 rfl rfl (UInt32.toNat_lt _)
  senseLen := readUnsigned_bytes ioc 5 rfl rfl (UInt32.toNat_lt _)
  cmd := readUnsigned_bytes ioc 6 rfl rfl (UInt8.toNat_lt _)
  frameSenseLen := readUnsigned_bytes ioc 7 rfl rfl (UInt8.toNat_lt _)
  cmdStatus := readUnsigned_bytes ioc 8 rfl rfl (UInt8.toNat_lt _)
  scsiStatus := readUnsigned_bytes ioc 9 rfl rfl (UInt8.toNat_lt _)
  targetId := readUnsigned_bytes ioc 10 rfl rfl (UInt8.toNat_lt _)
  lun := readUnsigned_bytes ioc 11 rfl rfl (UInt8.toNat_lt _)
  cdbLen := readUnsigned_bytes ioc 12 rfl rfl (UInt8.toNat_lt _)
  frameSgeCount := readUnsigned_bytes ioc 13 rfl rfl (UInt8.toNat_lt _)
  context := readUnsigned_bytes ioc 14 rfl rfl (UInt32.toNat_lt _)
  pad0 := readUnsigned_bytes ioc 15 rfl rfl (UInt32.toNat_lt _)
  flags := readUnsigned_bytes ioc 16 rfl rfl (UInt16.toNat_lt _)
  timeout := readUnsigned_bytes ioc 17 rfl rfl (UInt16.toNat_lt _)
  dataXferLen := readUnsigned_bytes ioc 18 rfl rfl (UInt32.toNat_lt _)
  senseBufPhysAddrLo := readUnsigned_bytes ioc 19 rfl rfl (UInt32.toNat_lt _)
  senseBufPhysAddrHi := readUnsigned_bytes ioc 20 rfl rfl (UInt32.toNat_lt _)
  cdb := by
    have placed : ioc.chunks[21]? = some ioc.pthru.cdb.toList := rfl
    have read := slice_pack placed
    rw [length_chunks, Vector.length_toList] at read
    exact read
  physAddr := readUnsigned_bytes ioc 22 rfl rfl (UInt32.toNat_lt _)
  length := readUnsigned_bytes ioc 23 rfl rfl (UInt32.toNat_lt _)
  frameTail := by
    have placed : ioc.chunks[24]? = some (littleEndian 72 0) := by
      rw [littleEndian_zero]
      rfl
    exact readUnsigned_bytes ioc 24 placed rfl (Nat.pow_pos (by decide))
  sgl j iovec entry := by
    obtain ⟨inside, _⟩ := List.getElem?_eq_some_iff.mp entry
    rw [Vector.length_toList] at inside
    obtain ⟨base, length⟩ := getElem?_chunks_iovecs entry
    have starts : ∀ j < maxIoctlSge, (packetWidths.take (25 + 2 * j)).sum = 148 + 16 * j ∧
        (packetWidths.take (25 + (2 * j + 1))).sum = 156 + 16 * j := by decide
    refine ⟨?_, ?_⟩
    · refine readUnsigned_bytes ioc (25 + 2 * j) ?_ (starts j inside).1 (UInt64.toNat_lt _)
      rw [getElem?_chunks_sgl, base]
    · refine readUnsigned_bytes ioc (25 + (2 * j + 1)) ?_ (starts j inside).2 (UInt64.toNat_lt _)
      rw [getElem?_chunks_sgl, length]

/-! ### What the driver finds -/

/-- `offsetof(struct megasas_iocpacket, frame)`. -/
def frameOffset : Nat := 20

/-- `offsetof(struct megasas_iocpacket, sgl)`. -/
def userSglOffset : Nat := 148

/-- Where the driver finds the scatter-gather list in the frame. -/
def embeddedSglOffset (bytes : List UInt8) : Nat := frameOffset + readUnsigned bytes 4 4

/-- The bytes that a request makes use of. -/
def UsedByte (len : Int) (i : Nat) : Prop :=
  i < 2 ∨ i = frameOffset ∨ i = frameOffset + 2 ∨ i = frameOffset + 4 ∨ i = frameOffset + 6 ∨
    (frameOffset + 16 ≤ i ∧ i < frameOffset + 18) ∨
    (frameOffset + 32 ≤ i ∧ i < frameOffset + 48) ∨
    (0 < len ∧ ((4 ≤ i ∧ i < 12) ∨ i = frameOffset + 7 ∨
      (frameOffset + 20 ≤ i ∧ i < frameOffset + 24) ∨
      (frameOffset + 48 ≤ i ∧ i < frameOffset + 56) ∨
      (userSglOffset ≤ i ∧ i < userSglOffset + 16)))

/-- What a caller may ask of `send_cmd`: a target id of one byte, a CDB that fits
the frame, a length of type `int`, and a direction of 16 bits. -/
structure RequestFits (target : Int) (cdb : List UInt8) (len dir : Int) : Prop where
  target : 0 ≤ target ∧ target ≤ 255
  cdb : cdb.length ≤ 16
  len : 0 ≤ len ∧ len ≤ 0x7FFFFFFF
  dir : 0 ≤ dir ∧ dir ≤ 0xFFFF

/-- The one scatter-gather element, in the iovec and in the frame. -/
structure CarriesElement (bytes : List UInt8) (addr : UInt64) (len : Int) : Prop where
  counts : readUnsigned bytes 8 4 = 1 ∧ readUnsigned bytes (frameOffset + 7) 1 = 1
  iovBase : readUnsigned bytes userSglOffset 8 = addr.toNat
  iovLen : (readUnsigned bytes (userSglOffset + 8) 8 : Int) = len
  physAddr : readUnsigned bytes (embeddedSglOffset bytes) 4 = addr.toNat % 2 ^ 32
  length : (readUnsigned bytes (embeddedSglOffset bytes + 4) 4 : Int) = len

/-- The bytes of a packet carry a request and nothing else. -/
structure CarriesRequest (bytes : List UInt8) (bus target : Int) (cdb : List UInt8)
    (addr : UInt64) (len dir : Int) : Prop where
  size : bytes.length = 404
  hostNo : (readUnsigned bytes 0 2 : Int) = bus % 65536
  cmd : readUnsigned bytes frameOffset 1 = 0x04
  cmdStatus : readUnsigned bytes (frameOffset + 2) 1 = 0xFF
  target : (readUnsigned bytes (frameOffset + 4) 1 : Int) = target
  cdbLen : readUnsigned bytes (frameOffset + 6) 1 = cdb.length
  cdb : slice bytes (frameOffset + 32) 16 = cdb ++ List.replicate (16 - cdb.length) 0
  flags : (readUnsigned bytes (frameOffset + 16) 2 : Int) = dir
  transfer : (readUnsigned bytes (frameOffset + 20) 4 : Int) = len
  element : 0 < len → CarriesElement bytes addr len
  empty : len = 0 → readUnsigned bytes 8 4 = 0 ∧ readUnsigned bytes (frameOffset + 7) 1 = 0
  cleared : ∀ i, ¬UsedByte len i → bytes.getD i 0 = 0

section Carries

variable (bus target : Int) (cdb : List UInt8) (addr : UInt64) (len dir : Int)

/-- The CDB field: the CDB, and zeros up to 16 bytes. -/
theorem toList_memcpyCdb {cdb : List UInt8} (fits : cdb.length ≤ 16) :
    (memcpyCdb (Vector.replicate 16 0) cdb cdb.length).toList =
      cdb ++ List.replicate (16 - cdb.length) 0 := by
  apply List.ext_getElem
  · simp only [Vector.length_toList, List.length_append, List.length_replicate]
    omega
  · intro i below _
    rw [Vector.length_toList] at below
    rw [Vector.getElem_toList, getElem_memcpyCdb _ _ _ _ below]
    by_cases copied : i < cdb.length
    · rw [if_pos copied, List.getElem_append_left copied, List.getD_eq_getElem _ _ copied]
    · rw [if_neg copied, List.getElem_append_right (Nat.not_lt.mp copied), List.getElem_replicate,
        Vector.getElem_replicate]

/-- The fields of the packet. -/
theorem sendCmdPacket_eq :
    sendCmdPacket bus target cdb cdb.length addr len dir =
      { MegasasIocpacket.zero with
        hostNo := UInt16.ofInt bus
        sglOff := if 0 < len then offsetofSgl else 0
        sgeCount := if 0 < len then 1 else 0
        sgl :=
          if 0 < len then MegasasIocpacket.zero.sgl.set 0 ⟨addr, UInt64.ofInt len⟩
          else MegasasIocpacket.zero.sgl
        pthru := { MegasasIocpacket.zero.pthru with
          cmd := mfiCmdPdScsiIo
          cmdStatus := 0xFF
          targetId := UInt8.ofInt target
          cdbLen := UInt8.ofInt cdb.length
          sgeCount := if 0 < len then 1 else 0
          flags := UInt16.ofInt dir
          dataXferLen := if 0 < len then UInt32.ofInt len else 0
          cdb := memcpyCdb (Vector.replicate 16 0) cdb cdb.length
          sgl := if 0 < len then ⟨addr.toUInt32, UInt32.ofInt len⟩ else ⟨0, 0⟩ } } := by
  unfold sendCmdPacket
  by_cases nonempty : 0 < len
  · simp only [if_pos nonempty]
    rfl
  · simp only [if_neg nonempty]
    rfl

variable {target cdb len dir}

/-- The 32 bits of a length are the length. -/
theorem RequestFits.toNat_len (fits : RequestFits target cdb len dir) :
    ((UInt32.ofInt len).toNat : Int) = len := by
  obtain ⟨lower, upper⟩ := fits.len
  rw [toNat_ofInt_uint32]
  omega

/-- A command with data carries one gather element, for the caller's array. -/
theorem carriesElement_sendCmdPacket (fits : RequestFits target cdb len dir) (nonempty : 0 < len) :
    CarriesElement (sendCmdPacket bus target cdb cdb.length addr len dir).bytes addr len := by
  have upper := fits.len.2
  have found := fieldsFound (sendCmdPacket bus target cdb cdb.length addr len dir)
  have wide : ((UInt64.ofInt len).toNat : Int) = len := by
    simp only [UInt64.ofInt, UInt64.toNat_ofNat']
    omega
  have embedded : embeddedSglOffset (sendCmdPacket bus target cdb cdb.length addr len dir).bytes =
      68 := by
    rw [embeddedSglOffset, found.sglOff, sendCmdPacket_eq]
    simp only [if_pos nonempty]
    rfl
  have sgl : (sendCmdPacket bus target cdb cdb.length addr len dir).sgl.toList[0]? =
      some ⟨addr, UInt64.ofInt len⟩ := by
    rw [sendCmdPacket_eq]
    simp only [if_pos nonempty]
    rfl
  refine ⟨⟨?_, ?_⟩, ?_, ?_, ?_, ?_⟩
  · rw [found.sgeCount, sendCmdPacket_eq]
    simp only [if_pos nonempty]
    rfl
  · refine found.frameSgeCount.trans ?_
    rw [sendCmdPacket_eq]
    simp only [if_pos nonempty]
    rfl
  · exact (found.sgl 0 _ sgl).1
  · exact Eq.trans (congrArg _ (found.sgl 0 _ sgl).2) wide
  · rw [embedded, found.physAddr, sendCmdPacket_eq]
    simp only [if_pos nonempty]
    exact UInt64.toNat_toUInt32 addr
  · rw [embedded, found.length, sendCmdPacket_eq]
    simp only [if_pos nonempty]
    exact fits.toNat_len

/-- Fields no request fills: their offsets and widths. -/
def idleFields : List (Nat × Nat) :=
  [(2, 2), (12, 4), (16, 4), (21, 1), (23, 1), (25, 1), (28, 4), (32, 4), (38, 2), (44, 4),
    (48, 4), (76, 72)]

/-- Fields only a request with data fills, the iovec apart. -/
def dataFields : List (Nat × Nat) := [(4, 4), (8, 4), (27, 1), (40, 4), (68, 4), (72, 4)]

variable (target cdb len dir)

/-- The fields that `send_cmd` leaves alone are zero. -/
theorem idleFields_zero : ∀ field ∈ idleFields,
    readUnsigned (sendCmdPacket bus target cdb cdb.length addr len dir).bytes field.1 field.2 =
      0 := by
  have found := fieldsFound (sendCmdPacket bus target cdb cdb.length addr len dir)
  simp only [idleFields, List.forall_mem_cons, found.pad1, found.senseOff, found.senseLen,
    found.frameSenseLen, found.scsiStatus, found.lun, found.context, found.pad0, found.timeout,
    found.senseBufPhysAddrLo, found.senseBufPhysAddrHi, found.frameTail]
  rw [sendCmdPacket_eq]
  exact ⟨rfl, rfl, rfl, rfl, rfl, rfl, rfl, rfl, rfl, rfl, rfl, trivial, List.forall_mem_nil _⟩

/-- The data fields of a command without data are zero. -/
theorem dataFields_zero (empty : ¬0 < len) : ∀ field ∈ dataFields,
    readUnsigned (sendCmdPacket bus target cdb cdb.length addr len dir).bytes field.1 field.2 =
      0 := by
  have found := fieldsFound (sendCmdPacket bus target cdb cdb.length addr len dir)
  simp only [dataFields, List.forall_mem_cons, found.sglOff, found.sgeCount, found.frameSgeCount,
    found.dataXferLen, found.physAddr, found.length]
  rw [sendCmdPacket_eq]
  simp only [if_neg empty]
  exact ⟨rfl, rfl, rfl, rfl, rfl, rfl, List.forall_mem_nil _⟩

/-- The iovecs behind the first one, and the first one too if there is no data. -/
theorem iovecs_zero {j : Nat} (inside : j < 16) (other : 0 < len → j ≠ 0) :
    (sendCmdPacket bus target cdb cdb.length addr len dir).sgl.toList[j]? = some ⟨0, 0⟩ := by
  have blank : MegasasIocpacket.zero.sgl.toList = List.replicate 16 ⟨0, 0⟩ := rfl
  rw [sendCmdPacket_eq]
  by_cases nonempty : 0 < len
  · simp only [if_pos nonempty, Vector.toList_set, blank]
    rw [List.getElem?_set_ne (other nonempty).symm, List.getElem?_replicate, if_pos inside]
  · simp only [if_neg nonempty, blank]
    rw [List.getElem?_replicate, if_pos inside]

/-- Bytes that the request makes no use of are zero. -/
theorem cleared_sendCmdPacket {i : Nat} (unused : ¬UsedByte len i) :
    (sendCmdPacket bus target cdb cdb.length addr len dir).bytes.getD i 0 = 0 := by
  have found := fieldsFound (sendCmdPacket bus target cdb cdb.length addr len dir)
  have size := length_bytes (sendCmdPacket bus target cdb cdb.length addr len dir)
  unfold UsedByte frameOffset userSglOffset at unused
  by_cases outside : 404 ≤ i
  · exact List.getD_eq_default _ _ (by omega)
  by_cases list : 148 ≤ i
  · have entry :=
      iovecs_zero bus target cdb addr len dir (j := (i - 148) / 16) (by omega) (by omega)
    obtain ⟨base, length⟩ := found.sgl _ _ entry
    by_cases first : i < 148 + 16 * ((i - 148) / 16) + 8
    · exact getD_of_readUnsigned_zero base (by omega) first
    · exact getD_of_readUnsigned_zero length (by omega) (by omega)
  · have field : (∃ field ∈ idleFields, field.1 ≤ i ∧ i < field.1 + field.2) ∨
        ¬0 < len ∧ ∃ field ∈ dataFields, field.1 ≤ i ∧ i < field.1 + field.2 := by
      simp only [idleFields, dataFields, List.mem_cons, exists_eq_or_imp, List.not_mem_nil,
        or_false, exists_eq_left]
      omega
    rcases field with ⟨field, member, lower, upper⟩ | ⟨empty, field, member, lower, upper⟩
    · exact getD_of_readUnsigned_zero (idleFields_zero bus target cdb addr len dir field member)
        lower upper
    · exact getD_of_readUnsigned_zero
        (dataFields_zero bus target cdb addr len dir empty field member) lower upper

variable {target cdb len dir}

/-- The packet of a request carries it and nothing else. -/
theorem carriesRequest_sendCmdPacket (fits : RequestFits target cdb len dir) :
    CarriesRequest (sendCmdPacket bus target cdb cdb.length addr len dir).bytes bus target cdb
      addr len dir where
  size := length_bytes _
  hostNo := by
    rw [(fieldsFound _).hostNo, sendCmdPacket_eq]
    exact toNat_ofInt_uint16 bus
  cmd := by
    refine (fieldsFound _).cmd.trans ?_
    rw [sendCmdPacket_eq]
    rfl
  cmdStatus := by
    refine (fieldsFound _).cmdStatus.trans ?_
    rw [sendCmdPacket_eq]
    rfl
  target := by
    obtain ⟨lower, upper⟩ := fits.target
    refine (congrArg Nat.cast (fieldsFound _).targetId).trans ?_
    rw [sendCmdPacket_eq]
    refine (toNat_ofInt_uint8 target).trans ?_
    omega
  cdbLen := by
    have short := fits.cdb
    refine (fieldsFound _).cdbLen.trans ?_
    rw [sendCmdPacket_eq]
    have length := toNat_ofInt_uint8 cdb.length
    dsimp only
    omega
  cdb := by
    refine (fieldsFound _).cdb.trans ?_
    rw [sendCmdPacket_eq]
    exact toList_memcpyCdb fits.cdb
  flags := by
    obtain ⟨lower, upper⟩ := fits.dir
    refine (congrArg Nat.cast (fieldsFound _).flags).trans ?_
    rw [sendCmdPacket_eq]
    refine (toNat_ofInt_uint16 dir).trans ?_
    omega
  transfer := by
    refine (congrArg Nat.cast (fieldsFound _).dataXferLen).trans ?_
    rw [sendCmdPacket_eq]
    by_cases nonempty : 0 < len
    · simp only [if_pos nonempty]
      exact fits.toNat_len
    · have empty : len = 0 := Int.le_antisymm (Int.not_lt.mp nonempty) fits.len.1
      simp only [if_neg nonempty]
      rw [empty]
      rfl
  element := carriesElement_sendCmdPacket bus addr fits
  empty none := by
    have zero := dataFields_zero bus target cdb addr len dir (by omega)
    exact ⟨zero (8, 4) (by decide), zero (27, 1) (by decide)⟩
  cleared _ unused := cleared_sendCmdPacket bus target cdb addr len dir unused

end Carries

/-- What `send_cmd` makes of the driver's answer. -/
structure ReturnsStatus (reply : DriverReply) (returned : Int) : Prop where
  failed : reply.result < 0 → returned = -1
  answered : 0 ≤ reply.result →
    returned = (reply.cmdStatus.getD 0xFF).toNat ∧ 0 ≤ returned ∧ returned ≤ 255
  good : returned = 0 → 0 ≤ reply.result ∧ reply.cmdStatus = some 0

/-- What `send_cmd` returns is the status that the driver stored, or -1. -/
theorem returnsStatus_sentCommand (fd bus target : Int) (cdb : List UInt8) (cdblen : Int) {n : Nat}
    (data : Buffer n) (len dir : Int) (reply : DriverReply) :
    ReturnsStatus reply (sentCommand fd bus target cdb cdblen data len dir reply).status where
  failed result := by rw [sentCommand_status, if_pos result]
  answered result := by
    have byte := (reply.cmdStatus.getD 0xFF).toNat_lt
    rw [sentCommand_status, if_neg (Int.not_lt.mpr result)]
    exact ⟨rfl, by omega, by omega⟩
  good := (sentCommand_status_eq_zero_iff ..).mp

/-- **`send_cmd` sends the request and nothing else**, and returns what the
driver stored. -/
theorem sendCmd_faithful {target : Int} {cdb : List UInt8} {len dir : Int}
    (fits : RequestFits target cdb len dir) (fd bus : Int) {n : Nat} (data : Buffer n)
    (name : Option String) (driver : Stream' DriverReply) :
    (∃ command,
      commands ((sendCmd fd bus target cdb cdb.length data len dir name).events driver) =
        [command] ∧
      command.fd = fd ∧ CarriesRequest command.ioc.bytes bus target cdb data.addr len dir) ∧
    ReturnsStatus driver.head
      ((sendCmd fd bus target cdb cdb.length data len dir name).value driver).1 := by
  refine ⟨⟨_, sendCmd_commands .., rfl, ?_⟩, ?_⟩
  · exact carriesRequest_sendCmdPacket bus data.addr fits
  · rw [sendCmd_value]
    exact returnsStatus_sentCommand ..

/-- An INQUIRY that the driver answers with the initial status. -/
theorem sendCmd_faithful_inquiry :
    let data : Buffer 96 := ⟨0x7FFC00000010, Vector.replicate 96 0⟩
    let driver : Stream' DriverReply := Stream'.const ⟨0, none, [], ""⟩
    (∃ command,
      commands ((sendCmd 4 1 200 [0x12, 0, 0, 0, 96, 0] 6 data 96 mfiFrameDirRead none).events
        driver) = [command] ∧
      command.fd = 4 ∧
      CarriesRequest command.ioc.bytes 1 200 [0x12, 0, 0, 0, 96, 0] data.addr 96 mfiFrameDirRead) ∧
    ReturnsStatus driver.head
      ((sendCmd 4 1 200 [0x12, 0, 0, 0, 96, 0] 6 data 96 mfiFrameDirRead none).value driver).1 :=
  sendCmd_faithful ⟨by decide, by decide, by decide, by decide⟩ ..

end Megaraid
