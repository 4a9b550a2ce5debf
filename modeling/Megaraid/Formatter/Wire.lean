import Megaraid.Formatter.Discipline

/-!
# From the block size argument to the wire

What the third argument of `mega_modesel` and `mega_format_immed` becomes: a
refusal before anything is opened, or the block length field of the MODE SELECT
parameter list. Up to FORMAT UNIT the two programs ask the same of the drive;
they part where MODE SELECT failed.
-/

namespace Megaraid

/-- The integer that the block size argument denotes, 512 when it is absent. -/
inductive DenotesBlockSize (argv : List String) : Int → Prop where
  | absent (short : argv.length ≤ 3) : DenotesBlockSize argv 512
  | given (long : 3 < argv.length) {n : Int} (numeral : Numeral (argv.getD 3 "").toList n) :
      DenotesBlockSize argv n

/-- Two hosts on which the same calls have the same outcomes. The arrays of the
tools may lie elsewhere and may have held something else before. -/
structure SameOutcomes (host other : Host) : Prop where
  openFile : other.openFile = host.openFile
  busNumber : other.busNumber = host.busNumber

/-- The block length field and the rest of the parameter list. -/
structure ParameterList (argv : List String) (data : List UInt8) : Prop where
  length : data.length = 12
  constant : data.take 9 = [0x00, 0x00, 0x00, 0x08, 0x00, 0x00, 0x00, 0x00, 0x00]
  encoded : ∀ n, (bigEndian (blockLengthField data) : Int) = n ↔ DenotesBlockSize argv n

section Argument

variable {long : LongWidth} {argv : List String}

/-- The block size that the programs compute is the one denoted. -/
theorem denotesBlockSize_iff (named : NamesBlockSize long argv) (n : Int) :
    blockSizeOf long argv = n ↔ DenotesBlockSize argv n := by
  unfold blockSizeOf
  constructor
  · rintro rfl
    split
    · rename_i given
      have accepted : parseBlockSize long (argv.getD 3 "") ≠ -1 := by
        have nonneg := named given
        omega
      exact .given given (numeral_of_parseNumber accepted).1
    · rename_i short
      exact .absent (not_lt.mp short)
  · intro denotes
    cases denotes with
    | absent short => rw [if_neg (not_lt.mpr short)]
    | given given numeral =>
        rw [if_pos given]
        have accepted : parseBlockSize long (argv.getD 3 "") ≠ -1 := by
          have nonneg := named given
          omega
        exact (numeral_of_parseNumber accepted).1.unique numeral

/-- The bytes of the parameter list that the tools fill in. -/
theorem parameterList_modeSelData (host : Host) (named : NamesBlockSize long argv) :
    ParameterList argv (modeSelData host (blockSizeOf long argv)).bytes.toList where
  length := rfl
  constant := rfl
  encoded n := by
    obtain ⟨lower, upper⟩ := blockSizeOf_bounds long argv named
    rw [← denotesBlockSize_iff named, modeSelData,
      bigEndian_setModeSelBlockLength _ (Int.le_trans (by decide) lower) upper]

end Argument

/-! ### What is sent -/

/-- What a run asks of the drives, in order. -/
def requests (events : List Event) : List Request := (commands events).map Command.request

/-- The block size argument of a program is refused before anything happens, or
goes into the parameter list. -/
structure SetsBlockSize (host : Host) (long : LongWidth) (argv : List String)
    (program : Tool Int) : Prop where
  refused : ¬NamesBlockSize long argv → ∀ driver,
    program.events driver =
      [.stderr ("Invalid block size '" ++ argv.getD 3 "" ++ "' - expected 1-16777215\n")]
  wired : NamesBlockSize long argv → ∀ driver, ∀ select ∈ commands (program.events driver),
    select.opcode = 0x15 → ParameterList argv select.data
  /-- A program that is ready and whose INQUIRY succeeds does send MODE SELECT. -/
  sent : ReadyToSet host long argv → ∀ driver,
    (inquiryOf host long argv (driver.get 0)).status = 0 →
    ∃ select ∈ commands (program.events driver), select.opcode = 0x15

/-- Runs of the two programs that ask the same up to FORMAT UNIT. -/
structure SameUpToFormat (modesel immed : List Event) : Prop where
  asked : ∀ opcode : UInt8, opcode ≠ 0x04 →
    (requests modesel).filter (·.opcode = opcode) = (requests immed).filter (·.opcode = opcode)
  before : (requests modesel).takeWhile (·.opcode ≠ 0x04) =
    (requests immed).takeWhile (·.opcode ≠ 0x04)
  /-- They differ on FORMAT UNIT exactly where MODE SELECT failed. -/
  parted : ¬((∃ format ∈ commands modesel, format.IsFormatUnit) ↔
      ∃ format ∈ commands immed, format.IsFormatUnit) ↔
    ∃ select ∈ commands modesel, select.opcode = 0x15 ∧ select.status ≠ 0

section Split

variable {ready gate : Prop} {inquiry format : Command} {selects : List Command} {seconds : Nat}
  {events : List Event} {status : Int}

/-- What a formatter asks before FORMAT UNIT. -/
def settings (ready : Prop) [Decidable ready] (inquiry : Command) (selects : List Command) :
    List Request :=
  if ready then
    if inquiry.status = 0 then (inquiry :: selects).map Command.request else [inquiry.request]
  else []

/-- The requests of a format run: the settings, and at most the format behind them. -/
theorem FormatRun.requests_eq [Decidable ready]
    (run : FormatRun ready gate inquiry selects format seconds events status) :
    ∃ last, requests events = settings ready inquiry selects ++ last ∧
      ∀ request ∈ last, request = format.request := by
  classical
  unfold requests settings
  rw [run.commands_eq]
  split_ifs
  · exact ⟨[format.request], by simp, by simp⟩
  · exact ⟨[], by simp, by simp⟩
  · exact ⟨[], by simp, by simp⟩
  · exact ⟨[], by simp, by simp⟩

/-- The settings hold no FORMAT UNIT. -/
theorem opcode_of_mem_settings [Decidable ready]
    (harmless : ∀ command ∈ inquiry :: selects, ¬command.IsFormatUnit) :
    ∀ request ∈ settings ready inquiry selects, request.opcode ≠ 0x04 := by
  have asks := harmless inquiry List.mem_cons_self
  intro request member
  unfold settings at member
  split_ifs at member
  · obtain ⟨command, sent, rfl⟩ := List.mem_map.mp member
    exact harmless command sent
  · rw [List.mem_singleton.mp member]
    exact asks
  · cases member

/-- What is taken while a predicate holds ends where it fails. -/
private theorem takeWhile_append_of_neg {α : Type} {p : α → Bool} {first last : List α}
    (holds : ∀ a ∈ first, p a) (fails : ∀ a ∈ last, ¬p a) :
    (first ++ last).takeWhile p = first := by
  rw [List.takeWhile_append_of_pos holds]
  cases last with
  | nil => exact List.append_nil _
  | cons a rest =>
      rw [List.takeWhile_cons_of_neg (fails a List.mem_cons_self), List.append_nil]

/-- FORMAT UNIT aside, a formatter asks for its settings. -/
theorem FormatRun.requests_settings [Decidable ready]
    (run : FormatRun ready gate inquiry selects format seconds events status)
    (harmless : ∀ command ∈ inquiry :: selects, ¬command.IsFormatUnit)
    (formats : format.IsFormatUnit) :
    (∀ opcode : UInt8, opcode ≠ 0x04 →
      (requests events).filter (·.opcode = opcode) =
        (settings ready inquiry selects).filter (·.opcode = opcode)) ∧
    (requests events).takeWhile (·.opcode ≠ 0x04) = settings ready inquiry selects := by
  obtain ⟨last, asked, only⟩ := run.requests_eq
  have final : ∀ request ∈ last, request.opcode = 0x04 := by
    intro request member
    rw [only request member]
    exact formats
  rw [asked]
  constructor
  · intro opcode other
    have none : last.filter (·.opcode = opcode) = [] := by
      apply List.filter_eq_nil_iff.mpr
      intro request member
      rw [decide_eq_true_iff, final request member]
      exact other.symm
    rw [List.filter_append, none, List.append_nil]
  · apply takeWhile_append_of_neg
    · exact fun request member => decide_eq_true (opcode_of_mem_settings harmless request member)
    · intro request member
      rw [decide_eq_true_iff, not_not]
      exact final request member

/-- A format run sends FORMAT UNIT if and only if its three guards hold. -/
theorem FormatDiscipline.sends_iff
    (law : FormatDiscipline ready gate inquiry selects format seconds events status)
    (formats : format.IsFormatUnit) :
    (∃ command ∈ commands events, command.IsFormatUnit) ↔
      ready ∧ inquiry.status = 0 ∧ gate := by
  constructor
  · rintro ⟨command, sent, formatting⟩
    obtain ⟨_, reached, succeeded, opened, _⟩ := law.guarded command sent formatting
    exact ⟨reached, succeeded, opened⟩
  · rintro ⟨reached, succeeded, opened⟩
    exact ⟨format, law.issued reached succeeded opened, formats⟩

end Split

namespace SameOutcomes

variable {host other : Host} (same : SameOutcomes host other) (long : LongWidth)
  (argv : List String) (reply : DriverReply)
include same

/-- Hosts with the same outcomes give the same bus number. -/
theorem busOf_eq : busOf other argv = busOf host argv := by
  unfold busOf Host.busReply
  rw [same.openFile, same.busNumber]

/-- Hosts with the same outcomes are reached alike. -/
theorem readyToSet_iff : ReadyToSet other long argv ↔ ReadyToSet host long argv := by
  unfold ReadyToSet Host.Reaches Host.busReply Host.node
  rw [same.openFile, same.busNumber]

/-- INQUIRY goes out and returns alike on hosts with the same outcomes. -/
theorem inquiryOf_eq :
    (inquiryOf other long argv reply).request = (inquiryOf host long argv reply).request ∧
    (inquiryOf other long argv reply).status = (inquiryOf host long argv reply).status := by
  unfold inquiryOf inquiry
  simp only [sentCommand_request, sentCommand_status, same.busOf_eq]
  exact ⟨rfl, trivial⟩

/-- MODE SELECT goes out and returns alike on hosts with the same outcomes. -/
theorem modeSelectOf_eq :
    (modeSelectOf other long argv reply).request = (modeSelectOf host long argv reply).request ∧
    (modeSelectOf other long argv reply).status = (modeSelectOf host long argv reply).status := by
  unfold modeSelectOf modeSelectSent
  simp only [sentCommand_request, sentCommand_status, same.busOf_eq]
  exact ⟨rfl, trivial⟩

end SameOutcomes

/-! ### The programs -/

section Programs

variable {host other : Host} {multicall : Bool} {long : LongWidth} {argv : List String}
  {driver : Stream' DriverReply}

/-- Settings with the same guard and the same requests are the same. -/
theorem settings_congr {ready ready' : Prop} [Decidable ready] [Decidable ready']
    {inquiry inquiry' select select' : Command} (reached : ready' ↔ ready)
    (asked : inquiry'.request = inquiry.request ∧ inquiry'.status = inquiry.status)
    (set : select'.request = select.request) :
    settings ready' inquiry' [select'] = settings ready inquiry [select] := by
  unfold settings
  simp only [reached, asked.1, asked.2, set, List.map_cons, List.map_nil]

/-- INQUIRY is no MODE SELECT. -/
theorem inquiryOf_not_select (reply : DriverReply) :
    (inquiryOf host long argv reply).opcode ≠ 0x15 := by
  rw [inquiryOf, inquiry_opcode]
  decide

/-- The only MODE SELECT of a program is the one its arguments ask for. -/
theorem FormatRun.modeSelect_eq {ready gate : Prop} {format : Command} {seconds : Nat}
    {events : List Event} {status : Int} {first second : DriverReply}
    (run : FormatRun ready gate (inquiryOf host long argv first)
      [modeSelectOf host long argv second] format seconds events status)
    (formats : format.opcode = 0x04) {select : Command} (sent : select ∈ commands events)
    (selects : select.opcode = 0x15) : select = modeSelectOf host long argv second := by
  rcases run.mem_commands sent with rfl | member | rfl
  · exact absurd selects (inquiryOf_not_select first)
  · exact List.mem_singleton.mp member
  · rw [formats] at selects
    exact absurd selects (by decide)

/-- Nothing but its arguments, the way to the controller and the INQUIRY keeps a
formatter from MODE SELECT. -/
theorem FormatRun.selects {ready gate : Prop} {inquiry select format : Command} {seconds : Nat}
    {events : List Event} {status : Int}
    (run : FormatRun ready gate inquiry [select] format seconds events status) (reached : ready)
    (succeeded : inquiry.status = 0) : select ∈ commands events := by
  classical
  rw [run.commands_eq, if_pos reached, if_pos succeeded]
  split
  · exact List.mem_cons_of_mem _ List.mem_cons_self
  · exact List.mem_cons_of_mem _ List.mem_cons_self

/-- The data of MODE SELECT are the parameter list for the block size named. -/
theorem parameterList_modeSelectOf (host : Host) (named : NamesBlockSize long argv)
    (reply : DriverReply) :
    ParameterList argv (modeSelectOf host long argv reply).data :=
  parameterList_modeSelData host named

/-- A refused block size is told, and nothing else happens. -/
theorem withBlockSize_refused {usage : String → Tool Unit} {openMegaError : String}
    {drive : (fdMega busNo target blockSize : Int) → Tool Int} (target : NamesTarget long argv)
    (refused : ¬NamesBlockSize long argv) :
    (withBlockSize usage openMegaError drive host long argv).events driver =
      [.stderr ("Invalid block size '" ++ argv.getD 3 "" ++ "' - expected 1-16777215\n")] := by
  have given : argv.length > 3 ∧ blockSizeOf long argv < 0 := by
    unfold NamesBlockSize at refused
    rw [Classical.not_imp, not_le] at refused
    rw [blockSizeOf, if_pos refused.1]
    exact refused
  have silent : (requireTarget usage long argv).events driver = [] := by
    unfold requireTarget
    rw [if_neg (not_lt.mpr target.1), if_neg (not_lt.mpr target.2)]
    rfl
  have stopped : (requireBlockSize long argv).value driver = none := by
    rw [requireBlockSize_value, if_neg refused]
  have told : (requireBlockSize long argv).events driver =
      [.stderr ("Invalid block size '" ++ argv.getD 3 "" ++ "' - expected 1-16777215\n")] := by
    unfold requireBlockSize
    simp only [if_pos given]
    rfl
  have world : (requireTarget usage long argv).world driver = driver := by
    unfold requireTarget
    rw [if_neg (not_lt.mpr target.1), if_neg (not_lt.mpr target.2)]
    rfl
  rw [withBlockSize, Traced.events_bind, silent, requireTarget_value, if_pos target, world,
    Traced.events_bind, told, stopped]
  rfl

/-- What `mega_modesel` sends to set the block size. -/
theorem megaModesel_sets (host : Host) (target : NamesTarget long argv) :
    SetsBlockSize host long argv (megaModesel host long argv) where
  sent ready driver succeeded :=
    ⟨_, (megaModesel_run host long argv driver).selects ready succeeded,
      modeSelectSent_opcode ..⟩
  refused refused _ := withBlockSize_refused target refused
  wired named driver select sent selects := by
    have run := megaModesel_run host long argv driver
    rw [run.modeSelect_eq (modeselFormatSent_opcode ..) sent selects]
    exact parameterList_modeSelectOf host named _

/-- What `mega_format_immed` sends to set the block size. -/
theorem megaFormatImmed_sets (host : Host) (multicall : Bool) (target : NamesTarget long argv) :
    SetsBlockSize host long argv (megaFormatImmed host multicall long argv) where
  sent ready driver succeeded :=
    ⟨_, (megaFormatImmed_run host multicall long argv driver).selects ready succeeded,
      modeSelectSent_opcode ..⟩
  refused refused _ := withBlockSize_refused target refused
  wired named driver select sent selects := by
    have run := megaFormatImmed_run host multicall long argv driver
    rw [run.modeSelect_eq (formatImmedSent_opcode ..) sent selects]
    exact parameterList_modeSelectOf host named _

/-- MODE SELECT fails in a run of `mega_modesel` exactly where the run comes to it. -/
theorem megaModesel_failed_iff (host : Host) (driver : Stream' DriverReply) :
    (∃ select ∈ commands ((megaModesel host long argv).events driver),
      select.opcode = 0x15 ∧ select.status ≠ 0) ↔
    ReadyToSet host long argv ∧ (inquiryOf host long argv (driver.get 0)).status = 0 ∧
      (modeSelectOf host long argv (driver.get 1)).status ≠ 0 := by
  have run := megaModesel_run host long argv driver
  classical
  constructor
  · rintro ⟨select, sent, selects, failed⟩
    rw [run.modeSelect_eq (modeselFormatSent_opcode ..) sent selects] at failed
    rw [run.commands_eq] at sent
    by_cases reached : ReadyToSet host long argv
    · by_cases succeeded : (inquiryOf host long argv (driver.get 0)).status = 0
      · exact ⟨reached, succeeded, failed⟩
      · rw [if_pos reached, if_neg succeeded, List.mem_singleton] at sent
        rw [sent] at selects
        exact absurd selects (inquiryOf_not_select _)
    · rw [if_neg reached] at sent
      cases sent
  · rintro ⟨reached, succeeded, failed⟩
    refine ⟨modeSelectOf host long argv (driver.get 1), ?_, modeSelectSent_opcode .., failed⟩
    rw [run.commands_eq, if_pos reached, if_pos succeeded, if_neg failed]
    exact List.mem_cons_of_mem _ (List.mem_singleton_self _)

/-- The two programs, on hosts with the same outcomes and with the same driver. -/
theorem formatters_sameUpToFormat (same : SameOutcomes host other) (multicall : Bool)
    (long : LongWidth) (argv : List String) (driver : Stream' DriverReply) :
    SameUpToFormat ((megaModesel host long argv).events driver)
      ((megaFormatImmed other multicall long argv).events driver) := by
  classical
  have harmless : ∀ (host : Host), ∀ command ∈ [inquiryOf host long argv (driver.get 0),
      modeSelectOf host long argv (driver.get 1)], ¬command.IsFormatUnit := by
    intro host
    refine List.forall_mem_cons.mpr ⟨?_, ?_⟩
    · apply inquiry_harmless
    · apply modeSelectSent_harmless
  have modesel := (megaModesel_run host long argv driver).requests_settings (harmless host)
    (modeselFormatSent_opcode ..)
  have immed := (megaFormatImmed_run other multicall long argv driver).requests_settings
    (harmless other) (formatImmedSent_opcode ..)
  have agree := settings_congr (same.readyToSet_iff long argv)
    (same.inquiryOf_eq long argv (driver.get 0)) (same.modeSelectOf_eq long argv (driver.get 1)).1
  refine ⟨fun opcode others => ?_, ?_, ?_⟩
  · rw [modesel.1 opcode others, immed.1 opcode others, agree]
  · rw [modesel.2, immed.2, agree]
  · rw [(megaModesel_discipline host long argv driver).sends_iff (modeselFormatSent_opcode ..),
      (megaFormatImmed_discipline other multicall long argv driver).sends_iff
        (formatImmedSent_opcode ..), megaModesel_failed_iff, same.readyToSet_iff,
      (same.inquiryOf_eq long argv (driver.get 0)).2]
    tauto

end Programs

end Megaraid
