import Megaraid.Formatter.Programs

/-!
# The discipline of the formatters

`FormatRun` lists the four ways a formatter can go: it never reaches the drive,
the INQUIRY fails, MODE SELECT closes the way to FORMAT UNIT, or FORMAT UNIT is
sent once after the abort countdown. The three programs differ in the commands
before FORMAT UNIT, in what closes the way, and in the length of the countdown.
-/

namespace Megaraid

/-- FORMAT UNIT, by its operation code. -/
def Command.IsFormatUnit (command : Command) : Prop := command.opcode = 0x04

instance (command : Command) : Decidable command.IsFormatUnit :=
  inferInstanceAs (Decidable (_ = _))

/-- How a formatter can go once the INQUIRY succeeded, given whether FORMAT UNIT
may follow the commands before it (`gate`). -/
inductive FormatTail (gate : Prop) (selects : List Command) (format : Command) (seconds : Nat) :
    List Event → Int → Prop where
  | refused (events : List Event) (sent : commands events = selects) (closed : ¬gate) :
      FormatTail gate selects format seconds events 1
  | formatted (before between after : List Event) (sent : commands before = selects)
      (opened : gate) (quiet : commands between = [])
      (counted : countdownEvents seconds <:+: between) (last : commands after = []) :
      FormatTail gate selects format seconds (before ++ between ++ .firmware format :: after)
        (formatStatus format.status)

/-- How a formatter can go, given whether it reaches the drive (`ready`). -/
inductive FormatRun (ready gate : Prop) (inquiry : Command) (selects : List Command)
    (format : Command) (seconds : Nat) : List Event → Int → Prop where
  | silent (events : List Event) (stopped : ¬ready) (sent : commands events = []) :
      FormatRun ready gate inquiry selects format seconds events 1
  | unidentified (events : List Event) (reached : ready) (sent : commands events = [inquiry])
      (failed : inquiry.status ≠ 0) :
      FormatRun ready gate inquiry selects format seconds events 1
  | identified (first rest : List Event) (status : Int) (reached : ready)
      (sent : commands first = [inquiry]) (succeeded : inquiry.status = 0)
      (tail : FormatTail gate selects format seconds rest status) :
      FormatRun ready gate inquiry selects format seconds (first ++ rest) status

/-- What the law asks of a run of a formatter. -/
structure FormatDiscipline (ready gate : Prop) (inquiry : Command) (selects : List Command)
    (format : Command) (seconds : Nat) (events : List Event) (status : Int) : Prop where
  /-- FORMAT UNIT is issued at most once. -/
  once : ((commands events).filter fun command => command.IsFormatUnit).length ≤ 1
  /-- FORMAT UNIT comes after a successful INQUIRY and the commands in between,
  and the countdown runs after the last of them. -/
  guarded : ∀ command ∈ commands events, command.IsFormatUnit →
    command = format ∧ ready ∧ inquiry.status = 0 ∧ gate ∧
    commands events = inquiry :: selects ++ [format] ∧
    ∃ before between after, events = before ++ between ++ .firmware format :: after ∧
      commands before = inquiry :: selects ∧ commands between = [] ∧
      countdownEvents seconds <:+: between
  /-- Nothing but a failed INQUIRY and the gate keeps a ready program from it. -/
  issued : ready → inquiry.status = 0 → gate → format ∈ commands events
  success : status = 0 ↔ ∃ command ∈ commands events, command.IsFormatUnit ∧ command.status = 0
  failure : status = 0 ∨ status = 1

/-- The exit status of a format is zero if and only if FORMAT UNIT returned 0. -/
theorem formatStatus_eq_zero_iff (rc : Int) : formatStatus rc = 0 ↔ rc = 0 := by
  unfold formatStatus
  split <;> simp_all

section Law

variable {ready gate : Prop} {inquiry format : Command} {selects : List Command} {seconds : Nat}
  {events : List Event} {status : Int}

/-- Harmless commands contain no FORMAT UNIT. -/
theorem filter_formatUnit_eq_nil {sent : List Command}
    (harmless : ∀ command ∈ sent, ¬command.IsFormatUnit) :
    sent.filter (fun command => command.IsFormatUnit) = [] := by
  apply List.filter_eq_nil_iff.mpr
  intro command member
  rw [decide_eq_true_iff]
  exact harmless command member

/-- The law holds of a run that never came to FORMAT UNIT. -/
theorem FormatDiscipline.of_harmless
    (harmless : ∀ command ∈ commands events, ¬command.IsFormatUnit)
    (stopped : ¬(ready ∧ inquiry.status = 0 ∧ gate)) :
    FormatDiscipline ready gate inquiry selects format seconds events 1 where
  once := by
    rw [filter_formatUnit_eq_nil harmless]
    exact Nat.zero_le 1
  guarded := fun command member formats => absurd formats (harmless command member)
  issued := fun reached identified opened => absurd ⟨reached, identified, opened⟩ stopped
  success := by
    refine iff_of_false (by decide) ?_
    rintro ⟨command, member, formats, _⟩
    exact harmless command member formats
  failure := Or.inr rfl

/-- The law holds of a run that sent FORMAT UNIT after the commands before it. -/
theorem FormatDiscipline.of_formatted {before between after : List Event}
    (harmless : ∀ command ∈ inquiry :: selects, ¬command.IsFormatUnit)
    (formats : format.IsFormatUnit) (reached : ready) (succeeded : inquiry.status = 0)
    (opened : gate) (sent : commands before = inquiry :: selects) (quiet : commands between = [])
    (counted : countdownEvents seconds <:+: between) (last : commands after = []) :
    FormatDiscipline ready gate inquiry selects format seconds
      (before ++ between ++ .firmware format :: after) (formatStatus format.status) := by
  have all : commands (before ++ between ++ .firmware format :: after) =
      inquiry :: selects ++ [format] := by
    rw [commands_append, commands_append, commands_cons, sent, quiet, last, List.append_nil]
    rfl
  have only : ∀ command ∈ commands (before ++ between ++ .firmware format :: after),
      command.IsFormatUnit → command = format := by
    intro command member formatting
    rw [all, List.mem_append, List.mem_singleton] at member
    rcases member with earlier | final
    · exact absurd formatting (harmless command earlier)
    · exact final
  have present : format ∈ commands (before ++ between ++ .firmware format :: after) := by
    rw [all]
    exact List.mem_append_right _ (List.mem_singleton_self format)
  refine ⟨?_, ?_, fun _ _ _ => present, ?_, ?_⟩
  · rw [all, List.filter_append, filter_formatUnit_eq_nil harmless, List.nil_append]
    exact List.length_filter_le _ [format]
  · intro command member formatting
    exact ⟨only command member formatting, reached, succeeded, opened, all, before, between,
      after, rfl, sent, quiet, counted⟩
  · rw [formatStatus_eq_zero_iff]
    constructor
    · exact fun accepted => ⟨format, present, formats, accepted⟩
    · rintro ⟨command, member, formatting, accepted⟩
      rwa [only command member formatting] at accepted
  · unfold formatStatus
    split
    · exact Or.inl rfl
    · exact Or.inr rfl

/-- The law holds of every run. -/
theorem FormatRun.discipline
    (run : FormatRun ready gate inquiry selects format seconds events status)
    (asks : ¬inquiry.IsFormatUnit) (sets : ∀ select ∈ selects, ¬select.IsFormatUnit)
    (formats : format.IsFormatUnit) :
    FormatDiscipline ready gate inquiry selects format seconds events status := by
  have harmless : ∀ command ∈ inquiry :: selects, ¬command.IsFormatUnit :=
    List.forall_mem_cons.mpr ⟨asks, sets⟩
  cases run with
  | silent _ stopped sent =>
      refine .of_harmless ?_ fun passed => stopped passed.1
      rw [sent]
      exact List.forall_mem_nil _
  | unidentified _ reached sent failed =>
      refine .of_harmless ?_ fun passed => failed passed.2.1
      rw [sent]
      exact List.forall_mem_singleton.mpr asks
  | identified first rest _ reached asked succeeded tail =>
      cases tail with
      | refused _ sent closed =>
          refine .of_harmless ?_ fun passed => closed passed.2.2
          rw [commands_append, asked, sent]
          exact harmless
      | formatted before between after sent opened quiet counted last =>
          rw [← List.append_assoc, ← List.append_assoc]
          refine .of_formatted harmless formats reached succeeded opened ?_ quiet counted last
          rw [commands_append, asked, sent]
          rfl

/-- The commands of a formatter, by how far it came. -/
theorem FormatRun.commands_eq [Decidable ready] [Decidable gate]
    (run : FormatRun ready gate inquiry selects format seconds events status) :
    commands events =
      if ready then
        if inquiry.status = 0 then
          if gate then inquiry :: selects ++ [format] else inquiry :: selects
        else [inquiry]
      else [] := by
  cases run with
  | silent _ stopped none => rw [if_neg stopped, none]
  | unidentified _ reached asked failed => rw [if_pos reached, if_neg failed, asked]
  | identified first rest _ reached asked succeeded tail =>
      rw [if_pos reached, if_pos succeeded, commands_append, asked]
      cases tail with
      | refused _ set closed =>
          rw [if_neg closed, set]
          rfl
      | formatted before between after set opened quiet _ last =>
          rw [if_pos opened, commands_append, commands_append, commands_cons, set, quiet, last,
            List.append_nil]
          rfl

/-- A formatter sends no other commands. -/
theorem FormatRun.mem_commands
    (run : FormatRun ready gate inquiry selects format seconds events status) {command : Command}
    (sent : command ∈ commands events) :
    command = inquiry ∨ command ∈ selects ∨ command = format := by
  classical
  rw [run.commands_eq] at sent
  split_ifs at sent
  · simpa [or_assoc] using sent
  · exact (List.mem_cons.mp sent).imp_right Or.inl
  · exact Or.inl (List.mem_singleton.mp sent)
  · cases sent

/-- A program goes the way of its part that talks to the drive, if it gets there. -/
theorem FormatRun.of_starts {program drive : Tool Int} {driver : Stream' DriverReply}
    (starts : Starts program ready drive 1)
    (run : FormatRun True gate inquiry selects format seconds (drive.events driver)
      (drive.value driver)) :
    FormatRun ready gate inquiry selects format seconds (program.events driver)
      (program.value driver) := by
  by_cases reached : ready
  · obtain ⟨first, quiet, events, value⟩ := starts.started reached driver
    rw [events, value]
    generalize drive.events driver = rest at run
    generalize drive.value driver = status at run
    cases run with
    | silent _ stopped => exact absurd trivial stopped
    | unidentified _ _ sent failed =>
        exact .unidentified _ reached (by rw [commands_append, quiet, sent]; rfl) failed
    | identified before rest _ _ sent succeeded tail =>
        rw [← List.append_assoc]
        exact .identified _ _ _ reached (by rw [commands_append, quiet, sent]; rfl) succeeded tail
  · obtain ⟨sent, value⟩ := starts.stopped reached driver
    rw [value]
    exact .silent _ reached sent

end Law

/-! ### The programs -/

section Steps

variable {warning : Tool Unit} (seconds : Nat) (step : String) (host : Host) (fd bus target : Int)
  (cdb : List UInt8) {n : Nat} (param : Buffer n) (dir : Int) (name : Option String)
  {report : Int → Tool Unit} (driver : Stream' DriverReply)

/-- The countdown runs right before FORMAT UNIT, with no command in between. -/
theorem countdownAndFormat_run (warns : Quiet warning) (reports : ∀ rc, Quiet (report rc)) :
    let part := countdownAndFormat warning seconds step fd bus target cdb param dir name report
    let format := sentCommand fd bus target cdb 6 param n dir driver.head
    (∃ between after, part.events driver = between ++ .firmware format :: after ∧
      commands between = [] ∧ countdownEvents seconds <:+: between ∧ commands after = []) ∧
    part.value driver = formatStatus format.status := by
  intro part format
  refine ⟨?_, by simp [part, format, countdownAndFormat, warns.world, countdown_world]⟩
  obtain ⟨line, sent, quiet⟩ := sendCmd_events fd bus target cdb 6 param n dir name driver
  refine ⟨warning.events driver ++ countdownEvents seconds ++ [.stdout step],
    line ++ (report format.status).events driver.tail ++ [.close fd], ?_, ?_, ⟨_, _, rfl⟩, ?_⟩
  · simp [part, countdownAndFormat, warns.world, countdown_world, countdown_events, reports,
      Quiet.world]
    rw [sent]
    rfl
  · simp [warns.commands, commands_countdownEvents]
  · simp [quiet, (reports _).commands]

end Steps

section Drive

variable (host : Host) (fd bus target blockSize : Int) (driver : Stream' DriverReply)

/-- FORMAT UNIT of `mega_format512`, with the driver's answer. -/
def format512Sent (reply : DriverReply) : Command :=
  sentCommand fd bus target formatDataCdb 6 (format512Param host) 4 mfiFrameDirWrite reply

/-- FORMAT UNIT of `mega_modesel`, with the driver's answer. -/
def modeselFormatSent (reply : DriverReply) : Command :=
  sentCommand fd bus target formatPlainCdb 6 nullBuffer 0 0 reply

/-- FORMAT UNIT of `mega_format_immed`, with the driver's answer. -/
def formatImmedSent (reply : DriverReply) : Command :=
  sentCommand fd bus target formatDataCdb 6 (formatImmedParam host) 4 mfiFrameDirWrite reply

theorem quiet_warnFormat512 : Quiet warnFormat512 :=
  .bind (.record rfl rfl) fun _ => .bind (.record rfl rfl) fun _ => .record rfl rfl

theorem quiet_reportFormat512 (rc : Int) : Quiet (reportFormat512 target rc) := by
  refine .ite ?_ (.ite (.record rfl rfl) ?_)
  · exact .bind (.record rfl rfl) fun _ => .bind (.record rfl rfl) fun _ => .record rfl rfl
  · exact .bind (.record rfl rfl) fun _ => .ite (.record rfl rfl) (.pure _)

/-- The INQUIRY decides whether the rest of the program runs. -/
theorem afterIdentity_run {line : String} {name : Option String} {rest : Tool Int} {gate : Prop}
    {selects : List Command} {format : Command} {seconds : Nat}
    (tail : FormatTail gate selects format seconds (rest.events driver.tail)
      (rest.value driver.tail)) :
    let part := afterIdentity host fd bus target line name rest
    FormatRun True gate (inquiry host fd bus target driver.head) selects format seconds
      (part.events driver) (part.value driver) := by
  intro part
  have asked := identify_commands host fd bus target driver name
  have moved := identify_world host fd bus target driver name
  by_cases failed : (inquiry host fd bus target driver.head).status ≠ 0
  · have value : part.value driver = 1 := by
      simp [part, afterIdentity, identify_value, failed]
    rw [value]
    refine .unidentified _ trivial ?_ failed
    simp [part, afterIdentity, identify_value, failed, asked]
  · have value : part.value driver = rest.value driver.tail := by
      simp [part, afterIdentity, identify_value, failed, moved]
    have events : part.events driver =
        (.stdout line :: (identify host fd bus target name).events driver) ++
          rest.events driver.tail := by
      simp [part, afterIdentity, identify_value, failed, moved]
    rw [value, events]
    refine .identified _ _ _ trivial ?_ (not_not.mp failed) tail
    rw [commands_cons, asked]
    rfl

/-- The drive part of `mega_format512` is a format run without MODE SELECT. -/
theorem format512Drive_run :
    FormatRun True True (inquiry host fd bus target (driver.get 0)) []
      (format512Sent host fd bus target (driver.get 1)) 5
      ((format512Drive host fd bus target).events driver)
      ((format512Drive host fd bus target).value driver) := by
  apply afterIdentity_run
  obtain ⟨⟨between, after, events, quiet, counted, last⟩, value⟩ :=
    countdownAndFormat_run 5 "\nSending FORMAT UNIT command...\n" fd bus target formatDataCdb
      (format512Param host) mfiFrameDirWrite none driver.tail quiet_warnFormat512
      (quiet_reportFormat512 target)
  rw [value, events]
  exact .formatted [] between after rfl trivial quiet counted last

theorem quiet_warnFormatting (seconds : Nat) : Quiet (warnFormatting blockSize seconds) :=
  .bind (.record rfl rfl) fun _ => .record rfl rfl

theorem quiet_warnModeSelect (rc : Int) : Quiet (warnModeSelect rc blockSize) := by
  refine .ite ?_ (.pure _)
  refine .bind (.record rfl rfl) fun _ => .bind (.record rfl rfl) fun _ => ?_
  exact .bind (.record rfl rfl) fun _ => .bind (.record rfl rfl) fun _ => .record rfl rfl

theorem quiet_reportFormatImmed (multicall : Bool) (device : String) (rc : Int) :
    Quiet (reportFormatImmed multicall device target blockSize rc) := by
  refine .ite ?_ (.bind (.record rfl rfl) fun _ => .record rfl rfl)
  refine .bind (.record rfl rfl) fun _ => .bind (.record rfl rfl) fun _ => ?_
  refine .bind (.record rfl rfl) fun _ => .bind (.record rfl rfl) fun _ => ?_
  exact .bind (.record rfl rfl) fun _ => .record rfl rfl

/-- `mega_modesel` goes on to FORMAT UNIT only after MODE SELECT returned 0. -/
theorem modeselSteps_tail :
    let select := modeSelectSent host fd bus target blockSize driver.head
    FormatTail (select.status = 0) [select] (modeselFormatSent fd bus target driver.tail.head) 5
      ((modeselSteps host fd bus target blockSize).events driver)
      ((modeselSteps host fd bus target blockSize).value driver) := by
  intro select
  have sent := modeSelect_commands host fd bus target blockSize driver
  have moved := modeSelect_world host fd bus target blockSize driver
  have returned := modeSelect_value host fd bus target blockSize driver
  by_cases failed : select.status ≠ 0
  · have value : (modeselSteps host fd bus target blockSize).value driver = 1 := by
      simp [modeselSteps, returned, failed, select]
    rw [value]
    refine .refused _ ?_ failed
    simp [modeselSteps, returned, failed, sent, select]
  · obtain ⟨⟨between, after, events, quiet, counted, last⟩, value⟩ :=
      countdownAndFormat_run 5 "\nStep 2: FORMAT UNIT - apply new settings\n" fd bus target
        formatPlainCdb nullBuffer 0 (some "FORMAT UNIT") driver.tail
        (quiet_warnFormatting blockSize 5) (fun _ => .pure ())
    have taken : (modeselSteps host fd bus target blockSize).value driver =
          formatStatus (modeselFormatSent fd bus target driver.tail.head).status ∧
        (modeselSteps host fd bus target blockSize).events driver =
          (modeSelect host fd bus target blockSize).events driver ++ between ++
            .firmware (modeselFormatSent fd bus target driver.tail.head) :: after := by
      rw [List.append_assoc, modeselFormatSent]
      refine ⟨Eq.trans ?_ value, Eq.trans ?_ (congrArg _ events)⟩
      · simp [modeselSteps, returned, failed, moved, select]
      · simp [modeselSteps, returned, failed, moved, select]
    rw [taken.1, taken.2]
    exact .formatted _ between after sent (not_not.mp failed) quiet counted last

/-- `mega_format_immed` goes on to FORMAT UNIT whatever MODE SELECT returned. -/
theorem formatImmedSteps_tail (multicall : Bool) (device : String) :
    let select := modeSelectSent host fd bus target blockSize driver.head
    FormatTail True [select] (formatImmedSent host fd bus target driver.tail.head)
      (immedCountdown select.status)
      ((formatImmedSteps host multicall device fd bus target blockSize).events driver)
      ((formatImmedSteps host multicall device fd bus target blockSize).value driver) := by
  intro select
  have sent := modeSelect_commands host fd bus target blockSize driver
  have moved := modeSelect_world host fd bus target blockSize driver
  have returned := modeSelect_value host fd bus target blockSize driver
  have warns := quiet_warnModeSelect blockSize select.status
  obtain ⟨⟨between, after, events, quiet, counted, last⟩, value⟩ :=
    countdownAndFormat_run (immedCountdown select.status)
      "\nStep 2: FORMAT UNIT with IMMED=1 (returns immediately)\n" fd bus target formatDataCdb
      (formatImmedParam host) mfiFrameDirWrite (some "FORMAT UNIT") driver.tail
      (quiet_warnFormatting blockSize (immedCountdown select.status))
      (quiet_reportFormatImmed target blockSize multicall device)
  have taken : (formatImmedSteps host multicall device fd bus target blockSize).value driver =
        formatStatus (formatImmedSent host fd bus target driver.tail.head).status ∧
      (formatImmedSteps host multicall device fd bus target blockSize).events driver =
        (modeSelect host fd bus target blockSize).events driver ++
            (warnModeSelect select.status blockSize).events driver.tail ++ between ++
          .firmware (formatImmedSent host fd bus target driver.tail.head) :: after := by
    rw [List.append_assoc, List.append_assoc, formatImmedSent]
    refine ⟨Eq.trans ?_ value, Eq.trans ?_ (congrArg _ (congrArg _ events))⟩
    · simp [formatImmedSteps, returned, moved, select, warns.world]
    · simp [formatImmedSteps, returned, moved, select, warns.world]
  rw [taken.1, taken.2]
  refine .formatted _ between after ?_ trivial quiet counted last
  rw [commands_append, sent, warns.commands]
  rfl

end Drive

section Programs

variable (host : Host) (multicall : Bool) (long : LongWidth) (argv : List String)
  (driver : Stream' DriverReply)

/-- The arguments of `mega_format512` are accepted and the controller opens. -/
def Ready512 : Prop := NamesTarget long argv ∧ host.Reaches (argv.getD 1 "")

/-- The arguments of `mega_modesel` or `mega_format_immed` are accepted and the
controller opens. -/
def ReadyToSet : Prop :=
  NamesTarget long argv ∧ NamesBlockSize long argv ∧ host.Reaches (argv.getD 1 "")

theorem quiet_format512Usage (name : String) : Quiet (format512Usage name) := by
  unfold format512Usage
  repeat refine .bind (.record rfl rfl) fun _ => ?_
  exact .record rfl rfl

theorem quiet_modeselUsage (name : String) : Quiet (modeselUsage name) := by
  unfold modeselUsage
  repeat refine .bind (.record rfl rfl) fun _ => ?_
  exact .record rfl rfl

theorem quiet_formatImmedUsage (name : String) : Quiet (formatImmedUsage name) := by
  unfold formatImmedUsage
  repeat refine .bind (.record rfl rfl) fun _ => ?_
  exact .record rfl rfl

/-- `mega_format512` reaches its drive part exactly when it is ready. -/
theorem megaFormat512_starts :
    Starts (megaFormat512 host long argv) (Ready512 host long argv)
      (format512Drive host host.node (busOf host argv) (targetOf long argv)) 1 := by
  refine .require (quiet_requireTarget _ _ quiet_format512Usage)
    (fun driver => requireTarget_value driver long argv) rfl ?_
  exact .bind (.record rfl rfl) fun _ => .controller rfl

/-- The two tools with a block size reach their drive part exactly when they are ready. -/
theorem withBlockSize_starts {usage : String → Tool Unit} (silent : ∀ name, Quiet (usage name))
    (openMegaError : String) (drive : (fdMega busNo target blockSize : Int) → Tool Int) :
    Starts (withBlockSize usage openMegaError drive host long argv) (ReadyToSet host long argv)
      (drive host.node (busOf host argv) (targetOf long argv) (blockSizeOf long argv)) 1 := by
  refine .require (quiet_requireTarget _ _ silent)
    (fun driver => requireTarget_value driver long argv) rfl ?_
  refine .require (quiet_requireBlockSize _ _) (requireBlockSize_value long argv) rfl ?_
  exact .bind (.record rfl rfl) fun _ => .controller rfl

/-- INQUIRY is no FORMAT UNIT. -/
theorem inquiry_harmless (fd bus target : Int) (reply : DriverReply) :
    ¬(inquiry host fd bus target reply).IsFormatUnit := by
  rw [Command.IsFormatUnit, inquiry_opcode]
  decide

/-- MODE SELECT is no FORMAT UNIT. -/
theorem modeSelectSent_harmless (fd bus target blockSize : Int) (reply : DriverReply) :
    ∀ select ∈ [modeSelectSent host fd bus target blockSize reply], ¬select.IsFormatUnit := by
  rw [List.forall_mem_singleton, Command.IsFormatUnit, modeSelectSent_opcode]
  decide

/-- `mega_format512` formats with FORMAT UNIT. -/
theorem format512Sent_opcode (fd bus target : Int) (reply : DriverReply) :
    (format512Sent host fd bus target reply).opcode = 0x04 :=
  sentCommand_opcode fd bus target _ _ _ _ _ reply (by decide)

/-- `mega_modesel` formats with FORMAT UNIT. -/
theorem modeselFormatSent_opcode (fd bus target : Int) (reply : DriverReply) :
    (modeselFormatSent fd bus target reply).opcode = 0x04 :=
  sentCommand_opcode fd bus target _ _ _ _ _ reply (by decide)

/-- `mega_format_immed` formats with FORMAT UNIT. -/
theorem formatImmedSent_opcode (fd bus target : Int) (reply : DriverReply) :
    (formatImmedSent host fd bus target reply).opcode = 0x04 :=
  sentCommand_opcode fd bus target _ _ _ _ _ reply (by decide)

/-- The INQUIRY to the drive that the arguments name. -/
def inquiryOf (reply : DriverReply) : Command :=
  inquiry host host.node (busOf host argv) (targetOf long argv) reply

/-- The MODE SELECT that the arguments ask for. -/
def modeSelectOf (reply : DriverReply) : Command :=
  modeSelectSent host host.node (busOf host argv) (targetOf long argv) (blockSizeOf long argv) reply

/-- A run of `mega_format512` is a format run without MODE SELECT. -/
theorem megaFormat512_run :
    FormatRun (Ready512 host long argv) True (inquiryOf host long argv (driver.get 0)) []
      (format512Sent host host.node (busOf host argv) (targetOf long argv) (driver.get 1)) 5
      ((megaFormat512 host long argv).events driver)
      ((megaFormat512 host long argv).value driver) :=
  .of_starts (megaFormat512_starts host long argv) (format512Drive_run ..)

/-- A run of `mega_modesel` is a format run that a failed MODE SELECT stops. -/
theorem megaModesel_run :
    FormatRun (ReadyToSet host long argv) ((modeSelectOf host long argv (driver.get 1)).status = 0)
      (inquiryOf host long argv (driver.get 0)) [modeSelectOf host long argv (driver.get 1)]
      (modeselFormatSent host.node (busOf host argv) (targetOf long argv) (driver.get 2)) 5
      ((megaModesel host long argv).events driver)
      ((megaModesel host long argv).value driver) :=
  .of_starts (withBlockSize_starts host long argv quiet_modeselUsage "open" (modeselDrive host))
    (afterIdentity_run _ _ _ _ driver (modeselSteps_tail host _ _ _ _ driver.tail))

/-- A run of `mega_format_immed` is a format run that a failed MODE SELECT only slows. -/
theorem megaFormatImmed_run :
    FormatRun (ReadyToSet host long argv) True
      (inquiryOf host long argv (driver.get 0)) [modeSelectOf host long argv (driver.get 1)]
      (formatImmedSent host host.node (busOf host argv) (targetOf long argv) (driver.get 2))
      (immedCountdown (modeSelectOf host long argv (driver.get 1)).status)
      ((megaFormatImmed host multicall long argv).events driver)
      ((megaFormatImmed host multicall long argv).value driver) :=
  .of_starts (withBlockSize_starts host long argv quiet_formatImmedUsage "open megaraid"
      (formatImmedDrive host multicall (argv.getD 1 "")))
    (afterIdentity_run _ _ _ _ driver
      (formatImmedSteps_tail host _ _ _ _ driver.tail multicall (argv.getD 1 "")))

/-- `mega_modesel` keeps to the law of formatting. -/
theorem megaModesel_discipline :
    FormatDiscipline (ReadyToSet host long argv)
      ((modeSelectOf host long argv (driver.get 1)).status = 0)
      (inquiryOf host long argv (driver.get 0)) [modeSelectOf host long argv (driver.get 1)]
      (modeselFormatSent host.node (busOf host argv) (targetOf long argv) (driver.get 2)) 5
      ((megaModesel host long argv).events driver)
      ((megaModesel host long argv).value driver) := by
  apply (megaModesel_run host long argv driver).discipline
  · apply inquiry_harmless
  · apply modeSelectSent_harmless
  · apply modeselFormatSent_opcode

/-- `mega_format_immed` keeps to the law of formatting. -/
theorem megaFormatImmed_discipline :
    FormatDiscipline (ReadyToSet host long argv) True
      (inquiryOf host long argv (driver.get 0)) [modeSelectOf host long argv (driver.get 1)]
      (formatImmedSent host host.node (busOf host argv) (targetOf long argv) (driver.get 2))
      (immedCountdown (modeSelectOf host long argv (driver.get 1)).status)
      ((megaFormatImmed host multicall long argv).events driver)
      ((megaFormatImmed host multicall long argv).value driver) := by
  apply (megaFormatImmed_run host multicall long argv driver).discipline
  · apply inquiry_harmless
  · apply modeSelectSent_harmless
  · apply formatImmedSent_opcode

end Programs

end Megaraid
