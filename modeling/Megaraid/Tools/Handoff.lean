import Megaraid.Formatter.Wire
import Megaraid.Progress.Program

/-!
# From formatting to watching

`mega_format_immed` ends with the `mega_progress` command to run next. Its words
are read back by the parsers of the other program as the target and the block
size of the format, so the block size that is watched for is the one MODE SELECT
asked for.
-/

namespace Megaraid

/-- The interval in the progress command, for the result of FORMAT UNIT. -/
def followUpInterval (rc : Int) : Int := if rc = 0 then 60 else 0

/-- The words of the progress command. -/
def followUpArgv (name device : String) (target blockSize rc : Int) : List String :=
  [name, device, decimal target, decimal (followUpInterval rc), decimal blockSize]

/-- The progress command of a run of `mega_format_immed` fits the run. -/
structure HandsOver (host : Host) (multicall : Bool) (long : LongWidth) (argv : List String)
    (driver : Stream' DriverReply) : Prop where
  /-- A run that is ready and whose INQUIRY succeeds sends MODE SELECT and FORMAT UNIT. -/
  sent : ReadyToSet host long argv → (inquiryOf host long argv (driver.get 0)).status = 0 →
    (∃ select ∈ commands ((megaFormatImmed host multicall long argv).events driver),
      select.opcode = 0x15) ∧
    ∃ format ∈ commands ((megaFormatImmed host multicall long argv).events driver),
      format.IsFormatUnit
  /-- Once FORMAT UNIT was sent, the command is printed, its words separated by blanks. -/
  shown : ∀ format ∈ commands ((megaFormatImmed host multicall long argv).events driver),
    format.IsFormatUnit →
    "  " ++ " ".intercalate (followUpArgv (progressCmd multicall) (argv.getD 1 "")
      (targetOf long argv) (blockSizeOf long argv) format.status) ++ "\n" ∈
        printed ((megaFormatImmed host multicall long argv).events driver)
  /-- `mega_progress` accepts the words and reads them as they were meant. -/
  read : ∀ name (other : LongWidth) rc words,
    words = followUpArgv name (argv.getD 1 "") (targetOf long argv) (blockSizeOf long argv) rc →
    NamesTarget other words ∧ NamesExpected words ∧
    targetOf other words = targetOf long argv ∧
    ((expectedOf words).toNat : Int) = blockSizeOf long argv ∧
    (0 < intervalOf other words ↔ rc = 0)
  /-- A READ CAPACITY that brings a block size ends the watch, with the comparison to
  bytes 9 to 11 of the parameter list of MODE SELECT. -/
  compared : ∀ name (other : LongWidth) rc words,
    words = followUpArgv name (argv.getD 1 "") (targetOf long argv) (blockSizeOf long argv) rc →
    ∀ select ∈ commands ((megaFormatImmed host multicall long argv).events driver),
    select.opcode = 0x15 →
    ∀ (surroundings : Host) rounds answers,
    ∀ command ∈ commands ((megaProgress surroundings other rounds words).events answers),
    command.IsReadCapacity → command.ReportsCapacity →
    (megaProgress surroundings other rounds words).value answers =
      some (if command.blockSize = bigEndian (blockLengthField select.data) then 0 else 2)

/-! ### The words -/

/-- The interval handed on is positive if and only if FORMAT UNIT was accepted. -/
theorem followUpInterval_pos_iff (rc : Int) : 0 < followUpInterval rc ↔ rc = 0 := by
  unfold followUpInterval
  split <;> simp_all

/-- The printed line is the words of the command, with blanks between them. -/
theorem followUpLine_eq (multicall : Bool) (device : String) (target blockSize rc : Int) :
    followUpLine multicall device target (followUpInterval rc) blockSize =
      "  " ++ " ".intercalate (followUpArgv (progressCmd multicall) device target blockSize rc) ++
        "\n" := by
  delta followUpLine
  simp only [followUpArgv, String.intercalate_cons_cons, String.intercalate_singleton,
    String.append_assoc]

section Words

variable (name device : String) (long : LongWidth) (target blockSize rc : Int)

variable {target} in

/-- The words name the target. -/
theorem namesTarget_followUpArgv (lower : 0 ≤ target) (upper : target ≤ 255) :
    NamesTarget long (followUpArgv name device target blockSize rc) ∧
    targetOf long (followUpArgv name device target blockSize rc) = target := by
  obtain ⟨n, rfl⟩ := Int.eq_ofNat_of_zero_le lower
  have read : parseTarget long (decimal n) = n := parseTarget_decimal long (by omega)
  refine ⟨⟨Nat.le_add_left 3 2, ?_⟩, read⟩
  change 0 ≤ parseTarget long (decimal n)
  rw [read]
  exact lower

/-- The words name the interval. -/
theorem intervalOf_followUpArgv :
    intervalOf long (followUpArgv name device target blockSize rc) = followUpInterval rc := by
  change atoi long.bits (decimal (followUpInterval rc)).toList = followUpInterval rc
  unfold followUpInterval
  split
  · exact atoi_decimal long (n := 60) (by decide)
  · exact atoi_decimal long (n := 0) (by decide)

variable {blockSize} in

/-- The words name the block size as the expected one. -/
theorem namesExpected_followUpArgv (lower : 1 ≤ blockSize) (upper : blockSize ≤ 0xFFFFFF) :
    NamesExpected (followUpArgv name device target blockSize rc) ∧
    ((expectedOf (followUpArgv name device target blockSize rc)).toNat : Int) = blockSize := by
  obtain ⟨n, rfl⟩ := Int.eq_ofNat_of_zero_le (Int.le_of_lt lower)
  have read : parseExpectedBlockSize (decimal n) = n :=
    parseExpectedBlockSize_decimal (by omega) (by omega)
  constructor
  · intro _
    change 0 ≤ parseExpectedBlockSize (decimal n)
    rw [read]
    exact Int.le_of_lt lower
  · change ((UInt32.ofInt (parseExpectedBlockSize (decimal n))).toNat : Int) = n
    rw [read, toNat_ofInt_uint32]
    omega

end Words

/-! ### The run -/

section Run

variable (host : Host) (multicall : Bool) (device : String) (fd bus target blockSize : Int)
  (driver : Stream' DriverReply)

/-- The report of a format prints the line. -/
theorem reportFormatImmed_prints (rc : Int) (driver : Stream' DriverReply) :
    followUpLine multicall device target (followUpInterval rc) blockSize ∈
      printed ((reportFormatImmed multicall device target blockSize rc).events driver) := by
  unfold reportFormatImmed followUpInterval
  split <;> simp

/-- What is reported about FORMAT UNIT is reported about its own result. -/
theorem countdownAndFormat_prints {warning : Tool Unit} (warns : Quiet warning) (seconds : Nat)
    (step : String) (cdb : List UInt8) {n : Nat} (param : Buffer n) (dir : Int)
    (name : Option String) {report : Int → Tool Unit} {line : Int → String}
    (reports : ∀ rc driver, line rc ∈ printed ((report rc).events driver)) :
    line (sentCommand fd bus target cdb 6 param n dir driver.head).status ∈
      printed ((countdownAndFormat warning seconds step fd bus target cdb param dir name
        report).events driver) := by
  simp only [countdownAndFormat, Tool.printf, Traced.events_bind, Traced.world_record, warns.world,
    countdown_world, sendCmd_value, printed_append, List.mem_append, reports, true_or, or_true]

/-- Once its drive is identified, `mega_format_immed` prints the line. -/
theorem formatImmedDrive_prints
    (identified : (inquiry host fd bus target driver.head).status = 0) :
    followUpLine multicall device target
        (followUpInterval (formatImmedSent host fd bus target driver.tail.tail.head).status)
        blockSize ∈
      printed ((formatImmedDrive host multicall device fd bus target blockSize).events driver) := by
  let select := modeSelectSent host fd bus target blockSize driver.tail.head
  have told := countdownAndFormat_prints fd bus target driver.tail.tail
    (quiet_warnFormatting blockSize (immedCountdown select.status)) (immedCountdown select.status)
    "\nStep 2: FORMAT UNIT with IMMED=1 (returns immediately)\n" formatDataCdb
    (formatImmedParam host) mfiFrameDirWrite (some "FORMAT UNIT")
    (reportFormatImmed_prints multicall device target blockSize)
  have entered : (identify host fd bus target (some "INQUIRY")).value driver = true := by
    rw [identify_value, identified]
    rfl
  simp only [formatImmedDrive, afterIdentity, formatImmedSteps, Tool.printf, Traced.events_bind,
    Traced.world_record, entered, if_true, identify_world, modeSelect_value, modeSelect_world,
    (quiet_warnModeSelect ..).world, printed_append, List.mem_append]
  exact Or.inr (Or.inr (Or.inr (Or.inr told)))

variable (long : LongWidth) (argv : List String)

/-- The progress command of a run that sent FORMAT UNIT is printed. -/
theorem megaFormatImmed_prints {format : Command}
    (sent : format ∈ commands ((megaFormatImmed host multicall long argv).events driver))
    (formats : format.IsFormatUnit) :
    followUpLine multicall (argv.getD 1 "") (targetOf long argv) (followUpInterval format.status)
        (blockSizeOf long argv) ∈
      printed ((megaFormatImmed host multicall long argv).events driver) := by
  obtain ⟨rfl, ready, identified, _⟩ :=
    (megaFormatImmed_discipline host multicall long argv driver).guarded format sent formats
  obtain ⟨first, _, events, _⟩ := (withBlockSize_starts host long argv quiet_formatImmedUsage
    "open megaraid" (formatImmedDrive host multicall (argv.getD 1 ""))).started ready driver
  have told := formatImmedDrive_prints host multicall (argv.getD 1 "") host.node (busOf host argv)
    (targetOf long argv) (blockSizeOf long argv) driver identified
  change _ ∈ printed ((withBlockSize _ _ _ host long argv).events driver)
  rw [events, printed_append]
  exact List.mem_append_right _ told

/-- The parameter list of MODE SELECT holds the block size. -/
theorem blockLengthField_of_sent {select : Command}
    (sent : select ∈ commands ((megaFormatImmed host multicall long argv).events driver))
    (selects : select.opcode = 0x15) (named : NamesBlockSize long argv) :
    (bigEndian (blockLengthField select.data) : Int) = blockSizeOf long argv := by
  have run := megaFormatImmed_run host multicall long argv driver
  rw [run.modeSelect_eq (formatImmedSent_opcode ..) sent selects]
  have list := parameterList_modeSelectOf host named (driver.get 1)
  exact (list.encoded _).mpr ((denotesBlockSize_iff named _).mp rfl)

/-- A READ CAPACITY that brought a block size decides the exit status of `mega_progress`. -/
theorem megaProgress_of_reports {rounds : Nat} {command : Command}
    (sent : command ∈ commands ((megaProgress host long rounds argv).events driver))
    (capacity : command.IsReadCapacity) (reports : command.ReportsCapacity) :
    (megaProgress host long rounds argv).value driver =
      some (if command.blockSize = (expectedOf argv).toNat then 0 else 2) := by
  have starts := megaProgress_starts host long argv rounds
  by_cases ready : ReadyToWatch host long argv
  · obtain ⟨first, quiet, events, value⟩ := starts.started ready driver
    rw [events, commands_append, quiet, List.nil_append, Traced.events_map] at sent
    rw [value, Traced.value_map, watchOf, exit_of_reports _ _ _ _ _ _ _ sent capacity reports]
    rfl
  · rw [(starts.stopped ready driver).1] at sent
    cases sent

end Run

section Handoff

variable (host : Host) (multicall : Bool) (long : LongWidth) (argv : List String)
  (driver : Stream' DriverReply)

/-- **From formatting to watching.** -/
theorem megaFormatImmed_handsOver (target : NamesTarget long argv)
    (size : NamesBlockSize long argv) : HandsOver host multicall long argv driver where
  sent := by
    intro ready succeeded
    have run := megaFormatImmed_run host multicall long argv driver
    have law := megaFormatImmed_discipline host multicall long argv driver
    exact ⟨⟨_, run.selects ready succeeded, modeSelectSent_opcode ..⟩,
      _, law.issued ready succeeded trivial, formatImmedSent_opcode ..⟩
  shown := by
    intro format sent formats
    rw [← followUpLine_eq]
    exact megaFormatImmed_prints host multicall driver long argv sent formats
  read := by
    rintro name other rc words rfl
    obtain ⟨least, most⟩ := parseTarget_bounds target.2
    obtain ⟨lower, upper⟩ := blockSizeOf_bounds long argv size
    obtain ⟨found, same⟩ := namesTarget_followUpArgv name (argv.getD 1 "") other
      (blockSizeOf long argv) rc least most
    obtain ⟨named, expected⟩ := namesExpected_followUpArgv name (argv.getD 1 "")
      (targetOf long argv) rc lower upper
    refine ⟨found, named, same, expected, ?_⟩
    rw [intervalOf_followUpArgv, followUpInterval_pos_iff]
  compared := by
    rintro name other rc words rfl select set selects surroundings rounds answers command sent
      capacity reports
    obtain ⟨lower, upper⟩ := blockSizeOf_bounds long argv size
    obtain ⟨_, expected⟩ := namesExpected_followUpArgv name (argv.getD 1 "")
      (targetOf long argv) rc lower upper
    have field := blockLengthField_of_sent host multicall driver long argv set selects size
    rw [← Nat.cast_inj.mp (expected.trans field.symm)]
    exact megaProgress_of_reports surroundings answers other _ sent capacity reports

/-- A run for 4096-byte blocks whose commands all succeed. -/
theorem megaFormatImmed_handsOver_4096 :
    HandsOver Host.sample false .lp64 ["./mega_format_immed", "/dev/sda", " +4", "04096"]
      (Stream'.const ⟨0, some 0, [], ""⟩) :=
  megaFormatImmed_handsOver Host.sample false .lp64 _ _ (by decide) (by decide)

end Handoff

end Megaraid
