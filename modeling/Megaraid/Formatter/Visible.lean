import Megaraid.Device.Stdio
import Megaraid.Formatter.Programs

/-!
# The formatters are heard before they act

The formatters make standard output line-buffered before they print anything.
What they print after that are whole lines, but for the identity of the drive,
which is printed in pieces and ended before the next command.
-/

namespace Megaraid

open Traced (Emits Triple)

/-- A text that ends a line. -/
def EndsLine (text : String) : Prop := ∃ front, text.toList = front ++ ['\n']

/-- A literal ends its line if its last character does. -/
theorem EndsLine.literal {chars : List Char} (checked : chars.getLast? = some '\n') :
    EndsLine (String.ofList chars) := by
  obtain ⟨front, split⟩ := List.getLast?_eq_some_iff.mp checked
  exact ⟨front, by rw [String.toList_ofList, split]⟩

/-- A text ends its line if its last part does. -/
theorem EndsLine.append (first : String) {second : String} (ends : EndsLine second) :
    EndsLine (first ++ second) := by
  obtain ⟨front, split⟩ := ends
  exact ⟨first.toList ++ front, by rw [String.toList_append, split, List.append_assoc]⟩

/-- An event that leaves no line unfinished. -/
def Line : Event → Prop
  | .stdout text => EndsLine text
  | .setLineBuffered => False
  | _ => True

/-- An event that leaves standard output alone. -/
def Mute : Event → Prop
  | .stdout _ | .setLineBuffered | .firmware _ | .sleep _ => False
  | _ => True

/-- Lines pass, and none is unfinished. -/
def Settled (io : Stdio) : Prop := io.lineBuffered = true ∧ io.waiting = []

/-- Nothing was printed yet. -/
def Unused (io : Stdio) : Prop := io.used = false ∧ io.waiting = []

section Rules

variable {α : Type}

/-- Whole lines pass at once while the stream is line buffered. -/
theorem lines_settle {part : Tool α} (lines : Emits Line part) :
    Triple stdio Settled part fun _ => Settled := by
  apply Triple.frame lines
  rintro io event ⟨buffered, empty⟩ line
  cases event with
  | stdout text =>
      obtain ⟨front, split⟩ := line
      refine ⟨trivial, ?_, ?_⟩
      · exact (io.write_lineBuffered _).trans buffered
      · change (io.write text.toList).waiting = []
        rw [split]
        exact Stdio.write_waiting buffered front
  | firmware => exact ⟨empty, buffered, empty⟩
  | sleep => exact ⟨empty, buffered, empty⟩
  | setLineBuffered => cases line
  | _ => exact ⟨trivial, buffered, empty⟩

/-- A part that leaves the standard output alone keeps what holds of it. -/
theorem mute_keeps {pre : Stdio → Prop} {part : Tool α} (mute : Emits Mute part) :
    Triple stdio pre part fun _ => pre := by
  apply Triple.frame mute
  intro io event holds silent
  cases event with
  | stdout | setLineBuffered | firmware | sleep => cases silent
  | _ => exact ⟨trivial, holds⟩

/-- A piece of a line. -/
theorem piece_flows (text : String) :
    Triple stdio (fun io => io.lineBuffered = true) (Tool.printf text) fun _ io =>
      io.lineBuffered = true :=
  .record fun io buffered => ⟨trivial, (io.write_lineBuffered _).trans buffered⟩

/-- The end of a line. -/
theorem line_flows {text : String} (ends : EndsLine text) :
    Triple stdio (fun io => io.lineBuffered = true) (Tool.printf text) fun _ => Settled := by
  apply Triple.record
  intro io buffered
  obtain ⟨front, split⟩ := ends
  refine ⟨trivial, (io.write_lineBuffered _).trans buffered, ?_⟩
  change (io.write text.toList).waiting = []
  rw [split]
  exact Stdio.write_waiting buffered front

/-- After `setvbuf` the stream is line buffered, with nothing waiting. -/
theorem setLineBuffered_settles :
    Triple stdio Unused Tool.setLineBuffered fun _ => Settled := by
  apply Triple.record
  rintro io ⟨unused, empty⟩
  refine ⟨unused, ?_⟩
  change Settled (io.step .setLineBuffered)
  rw [Stdio.step, unused]
  exact ⟨rfl, empty⟩

/-- Printing a text that ends its line. -/
theorem line_printf {text : String} (ends : EndsLine text) : Emits Line (Tool.printf text) :=
  .record ends

/-- Printing a literal that ends its line. -/
theorem literal_printf {chars : List Char} (checked : chars.getLast? = some '\n') :
    Emits Line (Tool.printf (String.ofList chars)) := line_printf (.literal checked)

end Rules

/-! ### The parts of the formatters -/

section Parts

variable (host : Host) (fd bus target blockSize : Int)

/-- Opening the controller prints no unfinished line. -/
theorem lines_openController (device openDevError openMegaError : String) :
    Emits Line (openController host device openDevError openMegaError) := by
  refine .bind (.interact fun _ => trivial) fun fdDev => .ite ?_ ?_
  · exact .bind (.record trivial) fun _ => .pure _
  · refine .bind (.interact fun _ => trivial) fun bus => .ite ?_ ?_
    · exact .bind (.record trivial) fun _ => .bind (.record trivial) fun _ => .pure _
    · refine .bind (.record trivial) fun _ => .bind (.interact fun _ => trivial) fun fdMega => ?_
      exact .ite (.bind (.record trivial) fun _ => .pure _) (.pure _)

/-- A command prints no unfinished line. -/
theorem lines_sendCmd (cdb : List UInt8) (cdblen : Int) {n : Nat} (data : Buffer n) (len dir : Int)
    (name : Option String) :
    Emits Line (sendCmd fd bus target cdb cdblen data len dir name) := by
  refine .bind (.interact fun _ => trivial) fun reply => ?_
  cases name with
  | none => exact .ite (.bind (.pure _) fun _ => .pure _) (.bind (.pure _) fun _ => .pure _)
  | some name =>
      refine .ite (.bind (line_printf (.append _ ?_)) fun _ => .pure _) ?_
      · exact .literal rfl
      · exact .bind (line_printf (.append _ (.literal rfl))) fun _ => .pure _

theorem lines_modeSelect : Emits Line (modeSelect host fd bus target blockSize) := by
  refine .bind (line_printf (.append _ (.literal rfl))) fun _ => ?_
  exact .bind (lines_sendCmd ..) fun _ => .pure _

theorem lines_countdown (seconds : Nat) : Emits Line (countdown seconds) := by
  induction seconds with
  | zero => exact .pure _
  | succ seconds ih =>
      refine .bind (line_printf (.append _ (.literal rfl))) fun _ => ?_
      exact .bind (.record trivial) fun _ => ih

theorem lines_warnFormat512 : Emits Line warnFormat512 :=
  .bind (literal_printf rfl) fun _ => .bind (literal_printf rfl) fun _ => literal_printf rfl

theorem lines_reportFormat512 (rc : Int) : Emits Line (reportFormat512 target rc) := by
  refine .ite ?_ (.ite (literal_printf rfl) ?_)
  · refine .bind (literal_printf rfl) fun _ => .bind (literal_printf rfl) fun _ => ?_
    exact line_printf (.append _ (.literal rfl))
  · refine .bind (line_printf (.append _ (.literal rfl))) fun _ => .ite ?_ (.pure _)
    exact line_printf (.append _ (.literal rfl))

theorem lines_warnFormatting (seconds : Nat) : Emits Line (warnFormatting blockSize seconds) :=
  .bind (line_printf (.append _ (.literal rfl))) fun _ => literal_printf rfl

theorem lines_warnModeSelect (rc : Int) : Emits Line (warnModeSelect rc blockSize) := by
  refine .ite ?_ (.pure _)
  refine .bind (line_printf (.append _ (.literal rfl))) fun _ => ?_
  refine .bind (line_printf (.append _ (.literal rfl))) fun _ => ?_
  exact .bind (literal_printf rfl) fun _ => .bind (literal_printf rfl) fun _ => literal_printf rfl

theorem lines_reportFormatImmed (multicall : Bool) (device : String) (rc : Int) :
    Emits Line (reportFormatImmed multicall device target blockSize rc) := by
  refine .ite ?_ ?_
  · refine .bind (literal_printf rfl) fun _ => .bind (literal_printf rfl) fun _ => ?_
    refine .bind (literal_printf rfl) fun _ => ?_
    refine .bind (line_printf (.append _ (.literal rfl))) fun _ => ?_
    exact .bind (literal_printf rfl) fun _ => line_printf (.append _ (.literal rfl))
  · refine .bind (line_printf (.append _ (.literal rfl))) fun _ => ?_
    exact line_printf (.append _ (.literal rfl))

/-- The countdown and the format print whole lines if what they are given is. -/
theorem lines_countdownAndFormat {warning : Tool Unit} {report : Int → Tool Unit} {step : String}
    (warns : Emits Line warning) (reports : ∀ rc, Emits Line (report rc)) (ends : EndsLine step)
    (seconds : Nat) (cdb : List UInt8) {n : Nat} (param : Buffer n) (dir : Int)
    (name : Option String) :
    Emits Line
      (countdownAndFormat warning seconds step fd bus target cdb param dir name report) := by
  refine .bind warns fun _ => .bind (lines_countdown _) fun _ => ?_
  refine .bind (line_printf ends) fun _ => ?_
  refine .bind (lines_sendCmd ..) fun _ => .bind (reports _) fun _ => ?_
  exact .bind (.record trivial) fun _ => .pure _

/-- The identity of the drive is printed in pieces of one line. -/
theorem identify_settles (name : Option String) :
    Triple stdio Settled (identify host fd bus target name) fun _ => Settled := by
  refine .bind (lines_settle (lines_sendCmd ..)) fun (rc, inqData) => .ite (fun _ => ?_) fun _ => ?_
  · refine .bind (lines_settle (literal_printf rfl)) fun _ => ?_
    exact .bind (lines_settle (.record trivial)) fun _ => .pure fun _ settled => settled
  · refine Triple.strengthen ?_ fun io (settled : Settled io) => settled.1
    refine .bind (piece_flows _) fun _ => .bind (piece_flows _) fun _ => ?_
    refine .bind (piece_flows _) fun _ => .bind (piece_flows _) fun _ => ?_
    exact .bind (line_flows (.literal rfl)) fun _ => .pure fun _ settled => settled

/-- What is printed of a drive's identity leaves no line unfinished. -/
theorem afterIdentity_settles {line : String} {rest : Tool Int} (ends : EndsLine line)
    (name : Option String) (settles : Triple stdio Settled rest fun _ => Settled) :
    Triple stdio Settled (afterIdentity host fd bus target line name rest) fun _ => Settled := by
  refine .bind (lines_settle (line_printf ends)) fun _ => .bind (identify_settles ..) fun _ => ?_
  exact .ite (fun _ => settles) fun _ => .pure fun _ settled => settled

/-- The drive part of `mega_format512` leaves no line unfinished. -/
theorem format512Drive_settles :
    Triple stdio Settled (format512Drive host fd bus target) fun _ => Settled := by
  refine afterIdentity_settles _ _ _ _ (.append _ (.literal rfl)) _ (lines_settle ?_)
  exact lines_countdownAndFormat _ _ _ lines_warnFormat512 (lines_reportFormat512 target)
    (.literal rfl) ..

/-- The drive part of `mega_modesel` leaves no line unfinished. -/
theorem modeselDrive_settles :
    Triple stdio Settled (modeselDrive host fd bus target blockSize) fun _ => Settled := by
  refine afterIdentity_settles _ _ _ _ (.append _ (.literal rfl)) _ (lines_settle ?_)
  refine .bind (lines_modeSelect ..) fun rc => .ite ?_ ?_
  · refine .bind (line_printf (.append _ (.literal rfl))) fun _ => ?_
    exact .bind (.record trivial) fun _ => .pure _
  · exact lines_countdownAndFormat _ _ _ (lines_warnFormatting ..) (fun _ => .pure _)
      (.literal rfl) ..

/-- The drive part of `mega_format_immed` leaves no line unfinished. -/
theorem formatImmedDrive_settles (multicall : Bool) (device : String) :
    Triple stdio Settled (formatImmedDrive host multicall device fd bus target blockSize)
      fun _ => Settled := by
  refine afterIdentity_settles _ _ _ _ (.append _ (.literal rfl)) _ (lines_settle ?_)
  refine .bind (lines_modeSelect ..) fun rc => .bind (lines_warnModeSelect ..) fun _ => ?_
  exact lines_countdownAndFormat _ _ _ (lines_warnFormatting ..)
    (fun rc => lines_reportFormatImmed target blockSize multicall device rc) (.literal rfl) ..

end Parts

/-! ### Whole programs -/

section Programs

variable (host : Host) (multicall : Bool) (long : LongWidth) (argv : List String)

/-- The usage text is printed only by a program that stops there. -/
theorem requireTarget_unused {usage : String → Tool Unit}
    (prints : ∀ name, Triple stdio Unused (usage name) fun _ _ => True) :
    Triple stdio Unused (requireTarget usage long argv) fun target io =>
      target ≠ none → Unused io := by
  refine .ite (fun _ => .bind (prints _) fun _ => ?_) fun _ => .ite (fun _ => ?_) fun _ => ?_
  · exact .pure fun _ _ some => absurd rfl some
  · refine .bind (mute_keeps (.record trivial)) fun _ => ?_
    exact .pure fun _ unused _ => unused
  · exact .pure fun _ unused _ => unused

/-- Reading the block size leaves the standard output alone. -/
theorem mute_requireBlockSize : Emits Mute (requireBlockSize long argv) := by
  refine .ite (.bind (.record trivial) fun _ => .pure _) ?_
  exact .bind (.ite (.record trivial) (.pure _)) fun _ => .pure _

/-- A usage text, printed before the stream is line-buffered. -/
theorem usage_prints {usage : Tool Unit}
    (prints : Emits (fun event => ∃ text, event = .stdout text) usage) :
    Triple stdio Unused usage fun _ _ => True := by
  refine Triple.strengthen (Triple.frame prints ?_) fun _ _ => trivial
  rintro io event - ⟨text, rfl⟩
  exact ⟨trivial, trivial⟩

/-- From `setvbuf` on, up to the part that talks to the drive. -/
theorem buffered_shows {openDevError openMegaError : String} {f : Option (Int × Int) → Tool Int}
    (stops : f none = pure 1) (settles : ∀ reached, Triple stdio Settled (f (some reached)) fun _ =>
      Settled) :
    Triple stdio Unused (do
      Tool.setLineBuffered
      openController host (argv.getD 1 "") openDevError openMegaError >>= f) fun _ _ => True := by
  refine .bind setLineBuffered_settles fun _ => ?_
  refine .bind (lines_settle (lines_openController ..)) fun reached => ?_
  cases reached with
  | none =>
      rw [stops]
      exact .pure fun _ _ => trivial
  | some reached => exact (settles reached).weaken fun _ _ _ => trivial

/-- The two tools with a block size keep to the stream's discipline. -/
theorem withBlockSize_shows {usage : String → Tool Unit} {openMegaError : String}
    {drive : (fdMega busNo target blockSize : Int) → Tool Int}
    (prints : ∀ name, Triple stdio Unused (usage name) fun _ _ => True)
    (settles : ∀ fdMega busNo target blockSize,
      Triple stdio Settled (drive fdMega busNo target blockSize) fun _ => Settled) :
    Triple stdio Unused (withBlockSize usage openMegaError drive host long argv)
      fun _ _ => True := by
  refine .bind (requireTarget_unused long argv prints) fun target => ?_
  cases target with
  | none => exact .pure fun _ _ => trivial
  | some target =>
      refine Triple.strengthen ?_ fun io unused => unused (Option.some_ne_none target)
      refine .bind (mute_keeps (mute_requireBlockSize ..)) fun blockSize => ?_
      cases blockSize with
      | none => exact .pure fun _ _ => trivial
      | some blockSize => exact buffered_shows host argv rfl fun reached => settles ..

/-- `mega_format512` keeps to the stream's discipline. -/
theorem megaFormat512_shows :
    Triple stdio Unused (megaFormat512 host long argv) fun _ _ => True := by
  refine .bind (requireTarget_unused long argv fun name => usage_prints ?_) fun target => ?_
  · repeat refine .bind (.record ⟨_, rfl⟩) fun _ => ?_
    exact .record ⟨_, rfl⟩
  cases target with
  | none => exact .pure fun _ _ => trivial
  | some target =>
      refine Triple.strengthen ?_ fun io unused => unused (Option.some_ne_none target)
      exact buffered_shows host argv rfl fun reached => format512Drive_settles ..

/-- `mega_modesel` keeps to the stream's discipline. -/
theorem megaModesel_shows :
    Triple stdio Unused (megaModesel host long argv) fun _ _ => True := by
  refine withBlockSize_shows host long argv (fun name => usage_prints ?_) fun _ _ _ _ =>
    modeselDrive_settles ..
  repeat refine .bind (.record ⟨_, rfl⟩) fun _ => ?_
  exact .record ⟨_, rfl⟩

/-- `mega_format_immed` keeps to the stream's discipline. -/
theorem megaFormatImmed_shows :
    Triple stdio Unused (megaFormatImmed host multicall long argv) fun _ _ => True := by
  refine withBlockSize_shows host long argv (fun name => usage_prints ?_) fun _ _ _ _ =>
    formatImmedDrive_settles ..
  repeat refine .bind (.record ⟨_, rfl⟩) fun _ => ?_
  exact .record ⟨_, rfl⟩

/-- A program that keeps to the stream's discipline shows its texts in time. -/
theorem showsInTime_of_triple {program : Tool Int}
    (shows : Triple stdio Unused program fun _ _ => True) (driver : Stream' DriverReply) :
    ShowsInTime (program.events driver) :=
  showsInTime_of_accepts (shows.holds driver .fresh ⟨rfl, rfl⟩).1

/-- **Line buffering.** When a formatter sends a command or waits, what it has
printed has been seen, even through a pipe. -/
theorem formatters_show_in_time (driver : Stream' DriverReply) :
    ShowsInTime ((megaFormat512 host long argv).events driver) ∧
    ShowsInTime ((megaModesel host long argv).events driver) ∧
    ShowsInTime ((megaFormatImmed host multicall long argv).events driver) :=
  ⟨showsInTime_of_triple (megaFormat512_shows host long argv) driver,
    showsInTime_of_triple (megaModesel_shows host long argv) driver,
    showsInTime_of_triple (megaFormatImmed_shows host multicall long argv) driver⟩

end Programs

end Megaraid
