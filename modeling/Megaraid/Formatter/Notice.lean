import Megaraid.Formatter.Discipline
import Megaraid.Formatter.Visible

/-!
# What the operator has seen when FORMAT UNIT goes out

Whoever runs a formatter sees which drive answered, what is about to happen to it
and the seconds running down, in this order and completely, before FORMAT UNIT is
sent: the texts have been printed and, the stream being line-buffered, have arrived.
The drive that was identified is the one that FORMAT UNIT goes to.
-/

namespace Megaraid

open Traced (Emits Triple)

/-! ### The texts -/

/-- How the answer to INQUIRY is shown. -/
def identityTexts (inqData : List UInt8) : List String :=
  ["Found: ", printAscii ((inqData.drop 8).take 8), " ", printAscii ((inqData.drop 16).take 16),
    "\n\n"]

/-- The numbers of the abort countdown. -/
def countdownTexts : (seconds : Nat) → List String
  | 0 => []
  | seconds + 1 => (decimal (seconds + 1 : Nat) ++ "...\n") :: countdownTexts seconds

/-- The last texts of `mega_format512` before FORMAT UNIT. -/
def announcement512 : List String :=
  ["*** FORMAT UNIT AT THE DRIVE'S CURRENT SECTOR SIZE IN 5 SECONDS ***\n",
    "*** This does NOT change 520 -> 512; use mega_format_immed for that ***\n",
    "*** ALL DATA WILL BE DESTROYED - Ctrl+C to abort ***\n\n"] ++ countdownTexts 5 ++
    ["\nSending FORMAT UNIT command...\n"]

/-- The last texts of the other two before FORMAT UNIT. -/
def announcement (blockSize : Int) (seconds : Nat) (step : String) : List String :=
  ["\n*** FORMATTING TO " ++ decimal blockSize ++ "-BYTE SECTORS IN " ++ decimal seconds ++
      " SECONDS ***\n",
    "*** ALL DATA WILL BE DESTROYED - Ctrl+C to abort ***\n\n"] ++ countdownTexts seconds ++ [step]

/-- The warning of `mega_format_immed` about a MODE SELECT that failed. -/
def selectFailureTexts (rc blockSize : Int) : List String :=
  if rc ≠ 0 then
    ["\n*** MODE SELECT FAILED (status 0x" ++ hex02 rc ++ ") ***\n",
      "The drive has NOT accepted " ++ decimal blockSize ++ "-byte sectors. Formatting now will\n",
      "destroy all data and may still leave the drive at its old size.\n",
      "Some drives do take the new size from FORMAT UNIT anyway, so this\n",
      "is not always fatal - but continue only if that is what you want.\n"]
  else []

/-! ### Notice -/

/-- A drive, as a packet names it. -/
structure Drive where
  hostNo : UInt16
  targetId : UInt8
  deriving DecidableEq, Repr

/-- The drive that a command goes to. -/
def Command.drive (command : Command) : Drive :=
  ⟨command.ioc.hostNo, command.ioc.pthru.targetId⟩

/-- The drive behind a host number and a target id, cut to the widths of the packet. -/
def driveOf (bus target : Int) : Drive := ⟨UInt16.ofInt bus, UInt8.ofInt target⟩

/-- An INQUIRY of a drive succeeded, and its answer was shown. -/
def Identified (drive : Drive) (past : List Event) : Prop :=
  ∃ inquiry ∈ commands past, inquiry.opcode = 0x12 ∧ inquiry.status = 0 ∧
    inquiry.drive = drive ∧ identityTexts inquiry.received <:+: printed past

/-- The MODE SELECT for a drive returned this. -/
def Selected (drive : Drive) (rc : Int) (past : List Event) : Prop :=
  ∃ select ∈ commands past, select.opcode = 0x15 ∧ select.status = rc ∧ select.drive = drive

/-- FORMAT UNIT for a drive may go out: its identity was shown, the announcement is
the last thing printed, and all of it has arrived. -/
structure Noticed (drive : Drive) (texts : List String) (past : List Event) : Prop where
  identified : Identified drive past
  announced : texts <:+ printed past
  seen : shown past = outputText past

/-- What `mega_format_immed` has told depends on the result of MODE SELECT. -/
def NoticedImmed (drive : Drive) (blockSize : Int) (past : List Event) : Prop :=
  ∃ rc, Selected drive rc past ∧
    Noticed drive (selectFailureTexts rc blockSize ++
      announcement blockSize (if rc ≠ 0 then 15 else 5)
        "\nStep 2: FORMAT UNIT with IMMED=1 (returns immediately)\n") past

/-- What is due when a FORMAT UNIT goes out, given the command and the record so far. -/
abbrev Due : Type := Command → List Event → Prop

/-- Wherever a run sends FORMAT UNIT, this is due. -/
def DueAtFormat (due : Due) (events : List Event) : Prop :=
  ∀ past format rest, events = past ++ .firmware format :: rest → format.IsFormatUnit →
    due format past

/-- The monitor that asks for it. -/
def notice (due : Due) : Monitor (List Event) Event :=
  .history fun past event => ∀ format ∈ event.command?, format.IsFormatUnit → due format past

/-- An event that is no FORMAT UNIT. -/
def Harmless (event : Event) : Prop := ∀ command ∈ event.command?, ¬command.IsFormatUnit

section Rules

variable {α : Type} {due : Due} {pre : List Event → Prop} {past events : List Event}

/-- A record that the monitor accepts has what is due at each FORMAT UNIT. -/
theorem dueAtFormat_of_accepts (accepted : (notice due).Accepts [] events) :
    DueAtFormat due events := by
  intro past format rest split formats
  have allowed := accepted.allows_at split format rfl formats
  rwa [notice, Monitor.history_after, List.nil_append] at allowed

/-- The monitor accepts a record without FORMAT UNIT. -/
theorem accepts_harmless (harmless : ∀ event ∈ events, Harmless event) :
    (notice due).Accepts past events := by
  induction events generalizing past with
  | nil => trivial
  | cons event events ih =>
      refine ⟨fun format named formats => ?_, ih fun other member => ?_⟩
      · exact absurd formats (harmless event List.mem_cons_self format named)
      · exact harmless other (List.mem_cons_of_mem _ member)

/-- A record without commands has no FORMAT UNIT. -/
theorem harmless_of_commands (sent : commands events = []) : ∀ event ∈ events, Harmless event := by
  intro event member command named
  have listed : command ∈ commands events := List.mem_filterMap.mpr ⟨event, member, named⟩
  rw [sent] at listed
  cases listed

/-- A property of the past that later events cannot undo. -/
def Lasting (pre : List Event → Prop) : Prop := ∀ past later, pre past → pre (past ++ later)

/-- A part without FORMAT UNIT keeps what lasts. -/
theorem harmless_keeps (lasting : Lasting pre) {part : Tool α} (harmless : Emits Harmless part) :
    Triple (notice due) pre part fun _ => pre := by
  refine ⟨fun driver past holds => ⟨accepts_harmless (harmless.holds driver), ?_⟩⟩
  rw [notice, Monitor.history_after]
  exact lasting past _ holds

/-- A part that prints certain texts and sends nothing. -/
structure Tells (part : Tool α) (texts : List String) : Prop where
  sent : ∀ driver, commands (part.events driver) = []
  told : ∀ driver, printed (part.events driver) = texts

/-- A part that prints fixed texts announces them. -/
theorem tells_announces (lasting : Lasting pre) {part : Tool α} {texts : List String}
    (tells : Tells part texts) :
    Triple (notice due) pre part fun _ past => pre past ∧ texts <:+ printed past := by
  refine ⟨fun driver past holds => ?_⟩
  refine ⟨accepts_harmless (harmless_of_commands (tells.sent driver)), ?_⟩
  rw [notice, Monitor.history_after, printed_append, tells.told]
  exact ⟨lasting past _ holds, List.suffix_append _ _⟩

/-- Texts of two parts one after the other. -/
theorem Tells.bind {β : Type} {x : Tool α} {f : α → Tool β} {first second : List String}
    (front : Tells x first) (back : ∀ a, Tells (f a) second) :
    Tells (x >>= f) (first ++ second) where
  sent driver := by rw [Traced.events_bind, commands_append, front.sent, (back _).sent]; rfl
  told driver := by rw [Traced.events_bind, printed_append, front.told, (back _).told]

/-- A `printf` tells its text. -/
theorem Tells.printf (text : String) : Tells (Tool.printf text) [text] :=
  ⟨fun _ => rfl, fun _ => rfl⟩

/-- A part that does nothing tells nothing. -/
theorem Tells.pure (a : α) : Tells (Pure.pure a : Tool α) [] := ⟨fun _ => rfl, fun _ => rfl⟩

end Rules

/-! ### The parts -/

section Parts

variable {due : Due} (host : Host) (fd bus target blockSize : Int)

/-- The drive of a command is the one it was sent to. -/
theorem sentCommand_drive (cdb : List UInt8) (cdblen : Int) {n : Nat} (data : Buffer n)
    (len dir : Int) (reply : DriverReply) :
    (sentCommand fd bus target cdb cdblen data len dir reply).drive = driveOf bus target := by
  rw [Command.drive, sentCommand, sendCmdPacket_hostNo, sendCmdPacket_targetId]
  rfl

/-- Once a drive was identified, it stays so, whatever follows. -/
theorem lasting_identified (drive : Drive) : Lasting (Identified drive) := by
  intro past later ⟨inquiry, sent, asks, good, same, before, after, told⟩
  refine ⟨inquiry, ?_, asks, good, same, before, after ++ printed later, ?_⟩
  · rw [commands_append]
    exact List.mem_append_left _ sent
  · rw [printed_append, ← told, List.append_assoc _ after]

/-- What a successful INQUIRY prints ends with the identity of the drive. -/
theorem identify_tells (name : Option String) (driver : Stream' DriverReply)
    (found : (identify host fd bus target name).value driver = true) :
    (inquiry host fd bus target driver.head).status = 0 ∧
      identityTexts (inquiry host fd bus target driver.head).received <:+
        printed ((identify host fd bus target name).events driver) := by
  rw [identify_value] at found
  split at found
  · cases found
  rename_i passed
  have good := not_not.mp passed
  refine ⟨good, printed ((sendCmd fd bus target inquiryCdb 6 (host.array .inqData 96).clear 96
    mfiFrameDirRead name).events driver), ?_⟩
  have bytes := inquiry_received host fd bus target driver.head
  rw [inquiry] at good
  simp only [identify, Traced.events_bind, sendCmd_value, good, printed_append, bytes]
  rfl

/-- If `identify` finds a drive, that drive was identified. -/
theorem identify_identifies (name : Option String) :
    Triple (notice due) (fun _ => True) (identify host fd bus target name) fun found past =>
      found = true → Identified (driveOf bus target) past := by
  refine ⟨fun driver past _ => ⟨accepts_harmless ?_, fun found => ?_⟩⟩
  · intro event member command named
    have sent : command ∈ commands ((identify host fd bus target name).events driver) :=
      List.mem_filterMap.mpr ⟨event, member, named⟩
    rw [identify_commands, List.mem_singleton] at sent
    rw [sent]
    exact inquiry_harmless host fd bus target driver.head
  · obtain ⟨good, told⟩ := identify_tells host fd bus target name driver found
    rw [notice, Monitor.history_after]
    refine ⟨inquiry host fd bus target driver.head, ?_, inquiry_opcode .., good,
      sentCommand_drive .., ?_⟩
    · rw [commands_append, identify_commands]
      exact List.mem_append_right _ (List.mem_singleton_self _)
    · rw [printed_append]
      exact told.isInfix.trans (List.suffix_append _ _).isInfix

/-- FORMAT UNIT goes out when what is due has come about. -/
theorem sendCmd_due {pre : List Event → Prop}
    (ready : ∀ format past, format.drive = driveOf bus target → pre past → due format past)
    (cdb : List UInt8) (cdblen : Int) {n : Nat} (data : Buffer n) (len dir : Int)
    (name : Option String) :
    Triple (notice due) pre (sendCmd fd bus target cdb cdblen data len dir name)
      fun _ _ => True := by
  refine ⟨fun driver past holds => ⟨?_, trivial⟩⟩
  obtain ⟨after, events, quiet⟩ := sendCmd_events fd bus target cdb cdblen data len dir name driver
  rw [events]
  refine ⟨fun format named _ => ?_, accepts_harmless (harmless_of_commands quiet)⟩
  obtain rfl : sentCommand fd bus target cdb cdblen data len dir driver.head = format :=
    Option.some.inj named
  exact ready _ past (sentCommand_drive ..) holds

/-- The countdown tells the seconds that are left. -/
theorem tells_countdown (seconds : Nat) : Tells (countdown seconds) (countdownTexts seconds) := by
  induction seconds with
  | zero => exact .pure _
  | succ seconds ih =>
      have wait : Tells (Tool.sleep 1) [] := ⟨fun _ => rfl, fun _ => rfl⟩
      exact .bind (.printf _) fun _ => .bind wait fun _ => ih

/-- The warning before a format tells its two lines. -/
theorem tells_warnFormatting (seconds : Nat) :
    Tells (warnFormatting blockSize seconds)
      ["\n*** FORMATTING TO " ++ decimal blockSize ++ "-BYTE SECTORS IN " ++ decimal seconds ++
        " SECONDS ***\n", "*** ALL DATA WILL BE DESTROYED - Ctrl+C to abort ***\n\n"] :=
  .bind (.printf _) fun _ => .printf _

/-- A failed MODE SELECT is told, a successful one is not. -/
theorem tells_warnModeSelect (rc : Int) :
    Tells (warnModeSelect rc blockSize) (selectFailureTexts rc blockSize) := by
  unfold warnModeSelect selectFailureTexts
  split
  · exact .bind (.printf _) fun _ => .bind (.printf _) fun _ => .bind (.printf _) fun _ =>
      .bind (.printf _) fun _ => .printf _
  · exact .pure _

/-- The announcement is made, and then FORMAT UNIT is due. -/
theorem countdownAndFormat_due {pre : List Event → Prop} {warning : Tool Unit}
    {report : Int → Tool Unit} {step : String} {seconds : Nat} {texts : List String}
    (lasting : Lasting pre) (warns : Tells warning texts) (reports : ∀ rc, Quiet (report rc))
    (ready : ∀ format past, format.drive = driveOf bus target → pre past →
      texts ++ countdownTexts seconds ++ [step] <:+ printed past → due format past)
    (cdb : List UInt8) {n : Nat} (param : Buffer n) (dir : Int) (name : Option String) :
    Triple (notice due) pre
      (countdownAndFormat warning seconds step fd bus target cdb param dir name report)
      fun _ _ => True := by
  have announce : Tells (warning >>= fun _ => countdown seconds >>= fun _ => Tool.printf step)
      (texts ++ countdownTexts seconds ++ [step]) := by
    rw [List.append_assoc]
    exact .bind warns fun _ => .bind (tells_countdown seconds) fun _ => .printf step
  have arranged : countdownAndFormat warning seconds step fd bus target cdb param dir name report =
      (warning >>= fun _ => countdown seconds >>= fun _ => Tool.printf step) >>= fun _ =>
        sendCmd fd bus target cdb 6 param n dir name >>= fun sent =>
          report sent.1 >>= fun _ => Tool.close fd >>= fun _ => pure (formatStatus sent.1) := by
    simp only [countdownAndFormat, bind_assoc]
  rw [arranged]
  refine .bind (tells_announces lasting announce) fun _ => ?_
  refine .bind (sendCmd_due fd bus target
    (fun format past same told => ready format past same told.1 told.2) ..) fun _ => ?_
  refine harmless_keeps (fun _ _ _ => trivial) (.bind ⟨fun driver => ?_⟩ fun _ => ?_)
  · exact harmless_of_commands ((reports _).commands driver)
  · refine .bind (.record ?_) fun _ => .pure _
    rintro command ⟨⟩

/-- What comes after the identity of a drive may rely on it. -/
theorem afterIdentity_due {rest : Tool Int} (line : String) (name : Option String)
    (formats : Triple (notice due) (Identified (driveOf bus target)) rest fun _ _ => True) :
    Triple (notice due) (fun _ => True) (afterIdentity host fd bus target line name rest)
      fun _ _ => True := by
  refine .bind (harmless_keeps (fun _ _ _ => trivial) (.record ?_)) fun _ => ?_
  · rintro command ⟨⟩
  refine .bind (identify_identifies ..) fun found => .ite (fun yes => ?_) fun _ => ?_
  · exact formats.strengthen fun past identified => identified yes
  · exact .pure fun _ _ => trivial

/-- Once MODE SELECT returned, its result stays on record. -/
theorem lasting_selected (drive : Drive) (rc : Int) : Lasting (Selected drive rc) := by
  intro past later ⟨select, sent, holds⟩
  refine ⟨select, ?_, holds⟩
  rw [commands_append]
  exact List.mem_append_left _ sent

/-- Two facts that last, last together. -/
theorem Lasting.and {pre other : List Event → Prop} (first : Lasting pre) (second : Lasting other) :
    Lasting fun past => pre past ∧ other past :=
  fun past later holds => ⟨first past later holds.1, second past later holds.2⟩

/-- After MODE SELECT its result for the drive is on record. -/
theorem modeSelect_selects {pre : List Event → Prop} (lasting : Lasting pre) :
    Triple (notice due) pre (modeSelect host fd bus target blockSize) fun rc past =>
      pre past ∧ Selected (driveOf bus target) rc past := by
  refine ⟨fun driver past holds => ⟨accepts_harmless ?_, ?_⟩⟩
  · intro event member command named
    have sent : command ∈ commands ((modeSelect host fd bus target blockSize).events driver) :=
      List.mem_filterMap.mpr ⟨event, member, named⟩
    rw [modeSelect_commands] at sent
    exact modeSelectSent_harmless host fd bus target blockSize driver.head command sent
  · rw [notice, Monitor.history_after]
    refine ⟨lasting past _ holds, modeSelectSent host fd bus target blockSize driver.head, ?_,
      modeSelectSent_opcode .., ?_, sentCommand_drive ..⟩
    · rw [commands_append, modeSelect_commands]
      exact List.mem_append_right _ (List.mem_singleton_self _)
    · rw [modeSelect_value]

/-- `mega_format512` formats the drive it identified, right after the announcement. -/
theorem format512Drive_due :
    Triple (notice fun format past => format.drive = driveOf bus target ∧
        Identified format.drive past ∧ announcement512 <:+ printed past)
      (fun _ => True) (format512Drive host fd bus target) fun _ _ => True := by
  apply afterIdentity_due
  have warns : Tells warnFormat512 _ :=
    .bind (.printf _) fun _ => .bind (.printf _) fun _ => .printf _
  refine countdownAndFormat_due _ _ _ (lasting_identified _) warns
    (quiet_reportFormat512 target) (fun format past same identified told => ?_) ..
  rw [same]
  exact ⟨rfl, identified, told⟩

/-- `mega_modesel` formats the drive it identified and set, right after the announcement. -/
theorem modeselDrive_due :
    Triple (notice fun format past => format.drive = driveOf bus target ∧
        (Identified format.drive past ∧ Selected format.drive 0 past) ∧
        announcement blockSize 5 "\nStep 2: FORMAT UNIT - apply new settings\n" <:+ printed past)
      (fun _ => True) (modeselDrive host fd bus target blockSize) fun _ _ => True := by
  apply afterIdentity_due
  refine .bind (modeSelect_selects _ _ _ _ _ (lasting_identified _)) fun rc => ?_
  refine .ite (fun _ => ?_) fun passed => ?_
  · refine harmless_keeps (fun _ _ _ => trivial) ?_ |>.strengthen fun _ _ => trivial
    refine .bind (.record ?_) fun _ => .bind (.record ?_) fun _ => .pure _
    · rintro command ⟨⟩
    · rintro command ⟨⟩
  · rw [not_not.mp passed]
    refine countdownAndFormat_due _ _ _ ((lasting_identified _).and (lasting_selected _ 0))
      (tells_warnFormatting blockSize 5) (fun _ => .pure ())
      (fun format past same holds told => ?_) ..
    rw [same]
    exact ⟨rfl, holds, told⟩

/-- `mega_format_immed` formats the drive it identified, right after what MODE SELECT gave. -/
theorem formatImmedDrive_due (multicall : Bool) (device : String) :
    Triple (notice fun format past => format.drive = driveOf bus target ∧
        ∃ rc, (Identified format.drive past ∧ Selected format.drive rc past) ∧
        selectFailureTexts rc blockSize ++ announcement blockSize (immedCountdown rc)
          "\nStep 2: FORMAT UNIT with IMMED=1 (returns immediately)\n" <:+ printed past)
      (fun _ => True) (formatImmedDrive host multicall device fd bus target blockSize)
      fun _ _ => True := by
  apply afterIdentity_due
  refine .bind (modeSelect_selects _ _ _ _ _ (lasting_identified _)) fun rc => ?_
  have warns : Tells (warnModeSelect rc blockSize >>= fun _ =>
      warnFormatting blockSize (immedCountdown rc)) _ :=
    .bind (tells_warnModeSelect blockSize rc) fun _ =>
      tells_warnFormatting blockSize (immedCountdown rc)
  have arranged : (do
      warnModeSelect rc blockSize
      countdownAndFormat (warnFormatting blockSize (immedCountdown rc)) (immedCountdown rc)
        "\nStep 2: FORMAT UNIT with IMMED=1 (returns immediately)\n" fd bus target formatDataCdb
        (formatImmedParam host) mfiFrameDirWrite (some "FORMAT UNIT")
        (reportFormatImmed multicall device target blockSize)) =
      countdownAndFormat (warnModeSelect rc blockSize >>= fun _ =>
          warnFormatting blockSize (immedCountdown rc)) (immedCountdown rc)
        "\nStep 2: FORMAT UNIT with IMMED=1 (returns immediately)\n" fd bus target formatDataCdb
        (formatImmedParam host) mfiFrameDirWrite (some "FORMAT UNIT")
        (reportFormatImmed multicall device target blockSize) := by
    simp only [countdownAndFormat, bind_assoc]
  rw [arranged]
  refine countdownAndFormat_due _ _ _ ((lasting_identified _).and (lasting_selected _ rc)) warns
    (quiet_reportFormatImmed target blockSize multicall device)
    (fun format past same holds told => ?_) ..
  rw [same]
  refine ⟨rfl, rc, holds, ?_⟩
  rw [announcement, ← List.append_assoc, ← List.append_assoc]
  exact told

end Parts

/-! ### Whole programs -/

section Programs

variable (host : Host) (multicall : Bool) (long : LongWidth) (argv : List String)
  (driver : Stream' DriverReply)

/-- A program that starts a part after which something is due. -/
theorem dueAtFormat_of_starts {program drive : Tool Int} {ready : Prop} {due : Due}
    (starts : Starts program ready drive 1)
    (triple : Triple (notice due) (fun _ => True) drive fun _ _ => True) :
    DueAtFormat due (program.events driver) := by
  apply dueAtFormat_of_accepts
  by_cases reached : ready
  · obtain ⟨first, quiet, events, _⟩ := starts.started reached driver
    rw [events, Monitor.accepts_append]
    exact ⟨accepts_harmless (harmless_of_commands quiet), (triple.holds driver _ trivial).1⟩
  · exact accepts_harmless (harmless_of_commands (starts.stopped reached driver).1)

/-- What is due when a command goes out has been seen. -/
theorem DueAtFormat.seen {due seen : Due} {events : List Event} (shows : ShowsInTime events)
    (asked : DueAtFormat due events)
    (seeing : ∀ format past, due format past → shown past = outputText past → seen format past) :
    DueAtFormat seen events := by
  intro past format rest split formats
  refine seeing format past (asked past format rest split formats) ?_
  exact shows.arrived past _ rest split (Or.inl (Option.some_ne_none format))

/-- **Notice before destruction**, in every run of a formatter: FORMAT UNIT goes to the
drive of the arguments, and that drive was identified. -/
theorem formatters_give_notice :
    DueAtFormat (fun format past =>
        format.drive = driveOf (busOf host argv) (targetOf long argv) ∧
        Noticed format.drive announcement512 past)
      ((megaFormat512 host long argv).events driver) ∧
    DueAtFormat (fun format past =>
        format.drive = driveOf (busOf host argv) (targetOf long argv) ∧
        Selected format.drive 0 past ∧
        Noticed format.drive
          (announcement (blockSizeOf long argv) 5 "\nStep 2: FORMAT UNIT - apply new settings\n")
          past)
      ((megaModesel host long argv).events driver) ∧
    DueAtFormat (fun format past =>
        format.drive = driveOf (busOf host argv) (targetOf long argv) ∧
        NoticedImmed format.drive (blockSizeOf long argv) past)
      ((megaFormatImmed host multicall long argv).events driver) := by
  refine ⟨?_, ?_, ?_⟩
  · have shows := showsInTime_of_triple (megaFormat512_shows host long argv) driver
    refine (dueAtFormat_of_starts driver (megaFormat512_starts host long argv)
      (format512Drive_due host _ _ _)).seen shows ?_
    exact fun format past told seen => ⟨told.1, told.2.1, told.2.2, seen⟩
  · have shows := showsInTime_of_triple (megaModesel_shows host long argv) driver
    refine (dueAtFormat_of_starts driver
      (withBlockSize_starts host long argv quiet_modeselUsage "open" (modeselDrive host))
      (modeselDrive_due host _ _ _ _)).seen shows ?_
    intro format past ⟨same, ⟨identified, selected⟩, announced⟩ seen
    exact ⟨same, selected, identified, announced, seen⟩
  · have shows := showsInTime_of_triple (megaFormatImmed_shows host multicall long argv) driver
    refine (dueAtFormat_of_starts driver
      (withBlockSize_starts host long argv quiet_formatImmedUsage "open megaraid"
        (formatImmedDrive host multicall (argv.getD 1 "")))
      (formatImmedDrive_due host _ _ _ _ multicall (argv.getD 1 ""))).seen shows ?_
    intro format past ⟨same, rc, ⟨identified, selected⟩, announced⟩ seen
    exact ⟨same, rc, selected, identified, announced, seen⟩

end Programs

end Megaraid
