import Megaraid.Tools.Addressing
import Megaraid.Tools.Multicall

/-!
# Everything that is sent

There are six commands, `ScsiCommand`, each with a fixed CDB, buffer and direction.
Each tool sends commands of its own short list only, and the one piece of memory that
a packet names is the array of the caller that goes with it: it begins where the array
begins and is as long.
-/

namespace Megaraid

/-- The commands that the tools know. -/
inductive ScsiCommand where
  | inquiry
  | modeSelect (blockSize : Int)
  | formatUnit (immed : Bool)
  /-- FORMAT UNIT without a parameter list. -/
  | formatUnitPlain
  | requestSense
  | readCapacity
  deriving DecidableEq, Repr

namespace ScsiCommand

def cdb : ScsiCommand → List UInt8
  | inquiry => inquiryCdb
  | modeSelect _ => modeSelCdb
  | formatUnit _ => formatDataCdb
  | formatUnitPlain => formatPlainCdb
  | requestSense => requestSenseCdb
  | readCapacity => readCapacityCdb

/-- The caller's array before the call. -/
def data : ScsiCommand → List UInt8
  | inquiry => List.replicate 96 0
  | modeSelect blockSize => (setModeSelBlockLength modeSelTemplate blockSize).toList
  | formatUnit immed => [0x00, if immed then 0x02 else 0x00, 0x00, 0x00]
  | formatUnitPlain => []
  | requestSense => List.replicate 96 0
  | readCapacity => List.replicate 8 0

/-- The local array that a command goes out with. -/
def array : ScsiCommand → Option Local
  | inquiry => some .inqData
  | modeSelect _ => some .modeSelData
  | formatUnit _ => some .formatParam
  | formatUnitPlain => none
  | requestSense => some .sense
  | readCapacity => some .cap

/-- Where the caller's array lies; `NULL` if there is none. -/
def address (host : Host) (scsi : ScsiCommand) : UInt64 := scsi.array.elim 0 host.addressOf

def direction : ScsiCommand → Int
  | inquiry | requestSense | readCapacity => mfiFrameDirRead
  | modeSelect _ | formatUnit _ => mfiFrameDirWrite
  | formatUnitPlain => 0

/-- The command for a drive. -/
def request (scsi : ScsiCommand) (bus target : Int) : Request where
  bus := UInt16.ofInt bus
  target := UInt8.ofInt target
  cdb := memcpyCdb (Vector.replicate 16 0) scsi.cdb scsi.cdb.length
  cdbLen := UInt8.ofInt scsi.cdb.length
  direction := UInt16.ofInt scsi.direction
  transferLength := UInt32.ofInt scsi.data.length
  data := scsi.data

/-- It changes the drive. -/
def Destructive : ScsiCommand → Prop
  | modeSelect _ | formatUnit _ | formatUnitPlain => True
  | _ => False

end ScsiCommand

/-- What a tool may send. -/
def Applet.vocabulary (long : LongWidth) (argv : List String) : Applet → List ScsiCommand
  | .inquiry => [.inquiry]
  | .format512 => [.inquiry, .formatUnit false]
  | .modesel => [.inquiry, .modeSelect (blockSizeOf long argv), .formatUnitPlain]
  | .formatImmed => [.inquiry, .modeSelect (blockSizeOf long argv), .formatUnit true]
  | .progress => [.requestSense, .readCapacity]
  | .checkSize => []

/-- The scatter-gather list of a packet is the caller's array, once for the driver
and once for the controller, or empty if there is none. No other memory is named. -/
structure CoversData (command : Command) : Prop where
  elements : command.ioc.sgeCount = (if command.data = [] then 0 else 1) ∧
    command.ioc.pthru.sgeCount = if command.data = [] then 0 else 1
  /-- Where in the frame the controller's element stands. -/
  offset : command.ioc.sglOff = if command.data = [] then 0 else offsetofSgl
  iovec : (command.ioc.sgl.get 0).iovLen.toNat = command.data.length
  sge : command.ioc.pthru.sgl.length.toNat = command.data.length
  transferred : command.ioc.pthru.dataXferLen.toNat = command.data.length
  /-- The array begins where the caller's does; the controller is told the low half. -/
  base : (command.ioc.sgl.get 0).iovBase = if command.data = [] then 0 else command.address
  address : command.ioc.pthru.sgl.physAddr = (command.ioc.sgl.get 0).iovBase.toUInt32
  alone : ∀ i : Fin maxIoctlSge, i ≠ 0 → command.ioc.sgl.get i = ⟨0, 0⟩
  /-- There is no sense buffer. -/
  noSense : command.ioc.senseLen = 0 ∧ command.ioc.pthru.senseLen = 0 ∧
    command.ioc.pthru.senseBufPhysAddrLo = 0 ∧ command.ioc.pthru.senseBufPhysAddrHi = 0

/-- A command is this one, for this drive, and covers its data, in the array that the
tool keeps for it. -/
structure Command.Is (command : Command) (scsi : ScsiCommand) (host : Host) (bus target : Int) :
    Prop where
  request : command.request = scsi.request bus target
  covers : CoversData command
  located : command.address = scsi.address host

section Sent

variable (host : Host) (fd bus target : Int) (reply : DriverReply)

/-- A cleared packet names no memory. -/
theorem sgl_zero (i : Fin maxIoctlSge) : MegasasIocpacket.zero.sgl.get i = ⟨0, 0⟩ := by
  change (Vector.replicate maxIoctlSge (⟨0, 0⟩ : Iovec))[i.val] = _
  exact Vector.getElem_replicate i.isLt

/-- `send_cmd` describes an array that it is given whole. -/
theorem coversData_sentCommand (cdb : List UInt8) (cdblen : Int) {n : Nat} (data : Buffer n)
    (dir : Int) (small : n < 2 ^ 31) :
    CoversData (sentCommand fd bus target cdb cdblen data n dir reply) := by
  have length : data.bytes.toList.length = n := data.bytes.length_toList
  have narrow := toNat_ofInt_uint32 n
  have wide := toNat_ofInt_uint64 n
  rcases Nat.eq_zero_or_pos n with rfl | some
  · have none : data.bytes.toList = [] := List.eq_nil_of_length_eq_zero length
    have empty : ¬(0 : Int) < ((0 : Nat) : Int) := by decide
    unfold sentCommand sendCmdPacket
    simp only [if_neg empty]
    refine ⟨⟨(if_pos none).symm, (if_pos none).symm⟩, (if_pos none).symm, length.symm,
      length.symm, length.symm, (if_pos none).symm, rfl, fun i _ => ?_, rfl, rfl, rfl, rfl⟩
    exact sgl_zero i
  · have present : data.bytes.toList ≠ [] := List.ne_nil_of_length_pos (length.symm ▸ some)
    have given : (0 : Int) < n := by omega
    unfold sentCommand sendCmdPacket
    simp only [if_pos given]
    refine ⟨?_, ?_, ?_, ?_, ?_, ?_, ?_, fun i other => ?_, rfl, rfl, rfl, rfl⟩
    · exact ⟨(if_neg present).symm, (if_neg present).symm⟩
    · exact (if_neg present).symm
    · simp only [length]
      change (UInt64.ofInt (n : Int)).toNat = n
      omega
    · simp only [length]
      omega
    · simp only [length]
      omega
    · rw [if_neg present]
      rfl
    · rfl
    · have behind : 0 ≠ i.val := fun first => other (Fin.ext first.symm)
      exact (Vector.getElem_set_ne (by decide) i.isLt behind).trans (sgl_zero i)

/-- A command of `send_cmd` is known by its CDB, its array and its direction. -/
theorem sentCommand_is (scsi : ScsiCommand) {n : Nat} (data : Buffer n) (small : n < 2 ^ 31)
    (same : data.bytes.toList = scsi.data) (lies : data.addr = scsi.address host) :
    (sentCommand fd bus target scsi.cdb scsi.cdb.length data n scsi.direction reply).Is scsi host
      bus target := by
  refine ⟨?_, coversData_sentCommand fd bus target reply _ _ data _ small, lies⟩
  have length : scsi.data.length = n := by rw [← same, Vector.length_toList]
  rw [sentCommand_request, ScsiCommand.request, length, same]
  congr 1
  split
  · rfl
  · have empty : n = 0 := by omega
    rw [empty]
    rfl

/-- `identify` sends the INQUIRY of the vocabulary. -/
theorem inquiry_is : (inquiry host fd bus target reply).Is .inquiry host bus target :=
  sentCommand_is host fd bus target reply .inquiry _ (by decide) rfl rfl

/-- The MODE SELECT that is sent is that of the vocabulary. -/
theorem modeSelectSent_is (blockSize : Int) :
    (modeSelectSent host fd bus target blockSize reply).Is (.modeSelect blockSize) host bus
      target :=
  sentCommand_is host fd bus target reply (.modeSelect blockSize) _ (by decide) rfl rfl

/-- `mega_format512` sends a FORMAT UNIT with a parameter list. -/
theorem format512Sent_is :
    (format512Sent host fd bus target reply).Is (.formatUnit false) host bus target :=
  sentCommand_is host fd bus target reply (.formatUnit false) _ (by decide) rfl rfl

/-- `mega_format_immed` sends a FORMAT UNIT whose parameter list asks to return at once. -/
theorem formatImmedSent_is :
    (formatImmedSent host fd bus target reply).Is (.formatUnit true) host bus target :=
  sentCommand_is host fd bus target reply (.formatUnit true) _ (by decide) rfl rfl

/-- `mega_modesel` sends a FORMAT UNIT without data. -/
theorem modeselFormatSent_is :
    (modeselFormatSent fd bus target reply).Is .formatUnitPlain host bus target :=
  sentCommand_is host fd bus target reply .formatUnitPlain nullBuffer (by decide) rfl rfl

/-- A poll sends the REQUEST SENSE of the vocabulary. -/
theorem requestSense_is :
    (requestSense host fd bus target reply).Is .requestSense host bus target :=
  sentCommand_is host fd bus target reply .requestSense _ (by decide) rfl rfl

/-- An attempt sends the READ CAPACITY of the vocabulary. -/
theorem readCapacity_is :
    (readCapacity host fd bus target reply).Is .readCapacity host bus target :=
  sentCommand_is host fd bus target reply .readCapacity _ (by decide) rfl rfl

end Sent

/-! ### What the tools send -/

section Tools

variable (errnoOf : String → Int) (host : Host) (multicall : Bool) (long : LongWidth) (rounds : Nat)
  (argv : List String) (driver : Stream' DriverReply)

/-- Everything sent is of a vocabulary, for one drive. -/
def Keeps (host : Host) (vocabulary : List ScsiCommand) (bus target : Int) (events : List Event) :
    Prop :=
  ∀ command ∈ commands events, ∃ scsi ∈ vocabulary, command.Is scsi host bus target

/-- `mega_inquiry` sends INQUIRY only. -/
theorem megaInquiry_keeps :
    Keeps host [.inquiry] (busOf host argv) (targetOf long argv)
      ((megaInquiry errnoOf host long argv).events driver) := by
  intro command sent
  by_cases ready : ReadyToInquire host long argv
  · rw [megaInquiry_packet ready, List.mem_singleton] at sent
    rw [sent]
    exact ⟨.inquiry, List.mem_cons_self, inquiry_is ..⟩
  · rw [((megaInquiry_starts errnoOf host long argv).stopped ready driver).1] at sent
    cases sent

/-- `mega_format512` sends INQUIRY and FORMAT UNIT only. -/
theorem megaFormat512_keeps :
    Keeps host [.inquiry, .formatUnit false] (busOf host argv) (targetOf long argv)
      ((megaFormat512 host long argv).events driver) := by
  intro command sent
  rcases (megaFormat512_run host long argv driver).mem_commands sent with rfl | select | rfl
  · exact ⟨.inquiry, by simp, inquiry_is ..⟩
  · cases select
  · exact ⟨.formatUnit false, by simp, format512Sent_is ..⟩

/-- `mega_modesel` sends INQUIRY, MODE SELECT and FORMAT UNIT only. -/
theorem megaModesel_keeps :
    Keeps host [.inquiry, .modeSelect (blockSizeOf long argv), .formatUnitPlain] (busOf host argv)
      (targetOf long argv) ((megaModesel host long argv).events driver) := by
  intro command sent
  rcases (megaModesel_run host long argv driver).mem_commands sent with rfl | select | rfl
  · exact ⟨.inquiry, by simp, inquiry_is ..⟩
  · rw [List.mem_singleton.mp select]
    exact ⟨.modeSelect _, by simp, modeSelectSent_is ..⟩
  · exact ⟨.formatUnitPlain, by simp, modeselFormatSent_is ..⟩

/-- `mega_format_immed` sends INQUIRY, MODE SELECT and FORMAT UNIT only. -/
theorem megaFormatImmed_keeps :
    Keeps host [.inquiry, .modeSelect (blockSizeOf long argv), .formatUnit true] (busOf host argv)
      (targetOf long argv) ((megaFormatImmed host multicall long argv).events driver) := by
  intro command sent
  rcases (megaFormatImmed_run host multicall long argv driver).mem_commands sent with
    rfl | select | rfl
  · exact ⟨.inquiry, by simp, inquiry_is ..⟩
  · rw [List.mem_singleton.mp select]
    exact ⟨.modeSelect _, by simp, modeSelectSent_is ..⟩
  · exact ⟨.formatUnit true, by simp, formatImmedSent_is ..⟩

/-- One round of the poll loop. -/
theorem pollIteration_keeps (fd bus target interval : Int) (expectedBs : UInt32)
    (state : PollState) :
    Keeps host [.requestSense, .readCapacity] bus target
      ((pollIteration host fd bus target interval expectedBs state).events driver) := by
  intro command sent
  obtain ⟨attempts, issued, answers, _⟩ :=
    pollIteration_round host fd bus target interval expectedBs state driver
  rw [issued, List.mem_cons] at sent
  rcases sent with rfl | attempt
  · exact ⟨.requestSense, by simp, requestSense_is ..⟩
  · rw [answers] at attempt
    obtain ⟨reply, _, rfl⟩ := List.mem_map.mp attempt
    exact ⟨.readCapacity, by simp, readCapacity_is ..⟩

/-- `mega_progress` sends REQUEST SENSE and READ CAPACITY only. -/
theorem megaProgress_keeps :
    Keeps host [.requestSense, .readCapacity] (busOf host argv) (targetOf long argv)
      ((megaProgress host long rounds argv).events driver) := by
  intro command sent
  by_cases ready : ReadyToWatch host long argv
  · rw [commands_of_starts (megaProgress_starts host long argv rounds) ready,
      Traced.events_map] at sent
    obtain ⟨event, member, named⟩ := List.mem_filterMap.mp sent
    obtain ⟨last, head, _, _, present⟩ := Traced.iterate_mem_events _ member
    exact pollIteration_keeps host _ _ _ _ _ _ head command
      (List.mem_filterMap.mpr ⟨event, present, named⟩)
  · rw [((megaProgress_starts host long argv rounds).stopped ready driver).1] at sent
    cases sent

/-- An applet keeps to its vocabulary. -/
theorem Applet.main_keeps (applet : Applet) :
    Keeps host (applet.vocabulary long argv) (busOf host argv) (targetOf long argv)
      ((applet.main errnoOf host long rounds argv).events driver) := by
  cases applet with
  | inquiry =>
      rw [main, Traced.events_map]
      exact megaInquiry_keeps errnoOf host long argv driver
  | format512 =>
      rw [main, Traced.events_map]
      exact megaFormat512_keeps host long argv driver
  | modesel =>
      rw [main, Traced.events_map]
      exact megaModesel_keeps host long argv driver
  | formatImmed =>
      rw [main, Traced.events_map]
      exact megaFormatImmed_keeps host true long argv driver
  | progress => exact megaProgress_keeps host long rounds argv driver
  | checkSize =>
      intro command sent
      cases sent

/-- A standalone tool keeps to its vocabulary. -/
theorem Applet.standalone_keeps (applet : Applet) :
    Keeps host (applet.vocabulary long argv) (busOf host argv) (targetOf long argv)
      ((applet.standalone errnoOf host long rounds argv).events driver) := by
  by_cases immed : applet = .formatImmed
  · subst immed
    rw [standalone, Traced.events_map]
    exact megaFormatImmed_keeps host false long argv driver
  · rw [standalone_eq_main errnoOf host long rounds immed]
    exact applet.main_keeps errnoOf host long rounds argv driver

/-- The opcodes of MODE SELECT and FORMAT UNIT are in the vocabulary of the formatters only. -/
theorem Applet.formats_of_destructive {applet : Applet} {long : LongWidth} {argv : List String}
    {scsi : ScsiCommand} (known : scsi ∈ applet.vocabulary long argv)
    (destructive : scsi.Destructive) : applet ∈ [.format512, .modesel, .formatImmed] := by
  cases applet with
  | format512 | modesel | formatImmed => decide
  | inquiry =>
      rw [List.mem_singleton.mp known] at destructive
      cases destructive
  | progress =>
      rcases List.mem_pair.mp known with rfl | rfl
      · cases destructive
      · cases destructive
  | checkSize => cases known

/-- The opcode of a request is the first byte of the CDB in the vocabulary. -/
theorem ScsiCommand.request_opcode (scsi : ScsiCommand) (bus target : Int) :
    (scsi.request bus target).opcode = scsi.cdb.getD 0 0 := by
  cases scsi <;> rfl

/-- FORMAT UNIT and MODE SELECT are the opcodes that change a drive. -/
theorem ScsiCommand.destructive_of_opcode {scsi : ScsiCommand} {command : Command} {host : Host}
    {bus target : Int} (is : command.Is scsi host bus target)
    (changes : command.opcode = 0x04 ∨ command.opcode = 0x15) : scsi.Destructive := by
  have opcode : command.opcode = scsi.cdb.getD 0 0 := by
    rw [← scsi.request_opcode bus target, ← is.request]
    rfl
  rw [opcode] at changes
  cases scsi with
  | modeSelect | formatUnit | formatUnitPlain => trivial
  | _ => exact absurd changes (by decide)

/-- A run of the unified binary sends what the applet it runs may send. -/
structure SendsAsTold (argv : List String) (command : Command) (long : LongWidth) (host : Host) :
    Prop where
  told : ∃ (applet : Applet) (called : List String), called <:+ argv ∧
    Runs argv ⟨applet, called.length, called⟩ ∧
    (∃ scsi ∈ applet.vocabulary long called,
      command.Is scsi host (busOf host called) (targetOf long called)) ∧
    (command.opcode = 0x04 ∨ command.opcode = 0x15 →
      applet ∈ [.format512, .modesel, .formatImmed])

/-- **The traffic of the tools.** -/
theorem tools_traffic :
    (∀ applet : Applet, Keeps host (applet.vocabulary long argv) (busOf host argv)
      (targetOf long argv) ((applet.standalone errnoOf host long rounds argv).events driver)) ∧
    ∀ command ∈ commands ((megaraidMain errnoOf host long rounds argv).events driver),
      SendsAsTold argv command long host := by
  refine ⟨fun applet => applet.standalone_keeps errnoOf host long rounds argv driver, ?_⟩
  intro command sent
  rcases megaraidMain_cases errnoOf host long rounds argv with
    ⟨applet, called, suffix, runs, same⟩ | ⟨_, same | same⟩
  · rw [same] at sent
    obtain ⟨scsi, known, is⟩ :=
      applet.main_keeps errnoOf host long rounds called driver command sent
    exact ⟨applet, called, suffix, runs, ⟨scsi, known, is⟩, fun changes =>
      Applet.formats_of_destructive known (ScsiCommand.destructive_of_opcode is changes)⟩
  · have usage := (quiet_megaraidUsage (argv.getD 0 "")).map some
    rw [same, usage.commands] at sent
    cases sent
  · have usage := (quiet_megaraidUsage (argv.getD 0 "")).map some
    rw [same, Traced.events_bind, commands_append, usage.commands] at sent
    cases sent

end Tools

end Megaraid
