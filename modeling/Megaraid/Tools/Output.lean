import Megaraid.Foundation.Monitor
import Megaraid.Progress.Texts
import Megaraid.Tools.Multicall

/-!
# What reaches the terminal

The drive chooses the bytes of its INQUIRY data, its sense data and its capacity,
and the texts of the tools are put together from them. No byte of the drive gets
through as a character: what a tool writes is printable ASCII and newlines, apart
from what its arguments, `strerror` and `%.2f` contribute.
-/

namespace Megaraid

open Traced (Emits Triple)

/-- The text that an event puts on the terminal. After its own text `perror` writes a
colon, a blank, the `strerror` text of `errno` and a newline. -/
def Event.text? : Event → Option String
  | .stdout text | .stderr text => some text
  | .perror text error => some (text ++ ": " ++ error ++ "\n")
  | _ => none

/-- The characters of the `strerror` text that a call to the kernel leaves behind if
it fails. -/
def Event.Blames : Event → Char → Prop
  | .openFile _ _ fd error, c => fd < 0 ∧ c ∈ error.toList
  | .getBusNumber _ reply, c => reply.result < 0 ∧ c ∈ reply.error.toList
  | .firmware command, c => command.reply.result < 0 ∧ c ∈ command.reply.error.toList
  | _, _ => False

/-- The characters that may appear from now on; a call that fails adds those of its
`strerror` text. -/
def screen : Monitor (Char → Prop) Event where
  allows may event := ∀ text ∈ event.text?, MadeOf may text
  step may event := fun c => may c ∨ event.Blames c

/-- A part that writes nothing but these characters and `strerror` texts. -/
def Writes {α : Type} (ok : Char → Prop) (part : Tool α) : Prop :=
  Triple screen (fun may => ∀ c, ok c → may c) part fun _ may => ∀ c, ok c → may c

/-- An event that puts no other characters on the terminal. -/
def Shows (ok : Char → Prop) (event : Event) : Prop := ∀ text ∈ event.text?, MadeOf ok text

section Parts

variable {α : Type} {ok : Char → Prop}

/-- One part after the other. -/
theorem Writes.bind {β : Type} {x : Tool α} {f : α → Tool β} (first : Writes ok x)
    (second : ∀ a, Writes ok (f a)) : Writes ok (x >>= f) := Triple.bind first second

/-- A part that does nothing writes nothing. -/
theorem Writes.pure (a : α) : Writes ok (Pure.pure a : Tool α) :=
  Triple.pure fun _ covers => covers

/-- Both branches write such characters only. -/
theorem Writes.ite {condition : Prop} [Decidable condition] {x y : Tool α} (whenTrue : Writes ok x)
    (whenFalse : Writes ok y) : Writes ok (if condition then x else y) :=
  Triple.ite (fun _ => whenTrue) fun _ => whenFalse

/-- Mapping the value leaves what is written. -/
theorem Writes.map {β : Type} (f : α → β) {x : Tool α} (writes : Writes ok x) :
    Writes ok (f <$> x) := Triple.map writes

/-- A part whose events are such texts writes nothing else. -/
theorem Writes.of_shows {x : Tool α} (shows : Emits (Shows ok) x) : Writes ok x := by
  apply Triple.frame shows
  intro may event covers spoken
  refine ⟨fun text written => (spoken text written).mono covers, fun c holds => ?_⟩
  exact Or.inl (covers c holds)

/-- Printing such a text. -/
theorem shows_printf {text : String} (made : MadeOf ok text) :
    Emits (Shows ok) (Tool.printf text) := by
  apply Emits.record
  rintro written ⟨⟩
  exact made

/-- Printing such a text to the standard error. -/
theorem shows_stderr {text : String} (made : MadeOf ok text) :
    Emits (Shows ok) (Tool.fprintfStderr text) := by
  apply Emits.record
  rintro written ⟨⟩
  exact made

theorem shows_silent {event : Event} (silent : event.text? = none) :
    Emits (Shows ok) (Traced.record event : Tool Unit) := by
  apply Emits.record
  intro text written
  rw [silent] at written
  cases written

theorem shows_busyPoll (fd interval : Int) (state : PollState) :
    Emits (Shows ok) (busyPoll fd interval state) :=
  .ite (.bind (shows_silent rfl) fun _ => .pure _) (.bind (shows_silent rfl) fun _ => .pure _)

end Parts

/-! ### Calls that can fail -/

section Calls

variable {ok : Char → Prop}

/-- A call to the kernel prints nothing; if it fails, the characters of its `strerror`
text may appear from then on. -/
theorem call_writes {α : Type} {answer : Stream' DriverReply → α × Stream' DriverReply}
    {event : α → Event} {failed : α → Prop} {error : α → String}
    (silent : ∀ a, (event a).text? = none)
    (blames : ∀ a, failed a → ∀ c ∈ (error a).toList, (event a).Blames c) :
    Triple screen (fun may => ∀ c, ok c → may c) (Traced.interact answer event) fun a may =>
      (∀ c, ok c → may c) ∧ (failed a → MadeOf may (error a)) := by
  apply Triple.interact
  intro a may covers
  refine ⟨?_, fun c holds => Or.inl (covers c holds), fun fails c member => ?_⟩
  · intro text written
    rw [silent a] at written
    cases written
  · exact Or.inr (blames a fails c member)

/-- The device or the ioctl node is opened. -/
theorem openFile_writes (host : Host) (path : String) (nonblock : Bool) :
    Triple screen (fun may => ∀ c, ok c → may c) (Tool.openFile host path nonblock) fun fd may =>
      (∀ c, ok c → may c) ∧ (fd < 0 → MadeOf may (host.openError path nonblock)) :=
  call_writes (fun _ => rfl) fun _ fails _ member => ⟨fails, member⟩

/-- The device is asked for its host number. -/
theorem getBusNumber_writes (host : Host) (fd : Int) :
    Triple screen (fun may => ∀ c, ok c → may c) (Tool.getBusNumber host fd) fun reply may =>
      (∀ c, ok c → may c) ∧ (reply.result < 0 → MadeOf may reply.error) :=
  call_writes (fun _ => rfl) fun _ fails _ member => ⟨fails, member⟩

/-- The passthrough ioctl itself. -/
theorem firmware_writes (fd : Int) (ioc : MegasasIocpacket) {n : Nat} (data : Buffer n) :
    Triple screen (fun may => ∀ c, ok c → may c) (Tool.firmware fd ioc data) fun reply may =>
      (∀ c, ok c → may c) ∧ (reply.result < 0 → MadeOf may reply.error) :=
  call_writes (fun _ => rfl) fun _ fails _ member => ⟨fails, member⟩

variable (plain : ∀ c, isPlain c → ok c)
include plain

/-- A line that ends with the `strerror` text of a failed call. -/
theorem blame_writes {event : Event} {before error : String}
    (spoken : event.text? = some (before ++ error ++ "\n")) (made : MadeOf ok before) :
    Triple screen (fun may => (∀ c, ok c → may c) ∧ MadeOf may error)
      (Traced.record event : Tool Unit) fun _ may => ∀ c, ok c → may c := by
  apply Triple.record
  intro may ⟨covers, blamed⟩
  refine ⟨fun text written => ?_, fun c holds => Or.inl (covers c holds)⟩
  rw [spoken] at written
  obtain rfl : before ++ error ++ "\n" = text := Option.some.inj written
  have known : MadeOf may before := made.mono covers
  have ended : MadeOf may "\n" := MadeOf.mono (.literal plain rfl) covers
  exact (known.append blamed).append ended

/-- `perror` after a failed call. -/
theorem perror_writes {text : String} (made : MadeOf ok text) (error : String) :
    Triple screen (fun may => (∀ c, ok c → may c) ∧ MadeOf may error) (Tool.perror text error)
      fun _ may => ∀ c, ok c → may c :=
  blame_writes plain rfl (made.append (.literal plain rfl))

/-- A call, and `perror` with the end of the program if it failed. -/
theorem orPerror_writes {α β : Type} {call : Tool α} {failed : α → Prop} [DecidablePred failed]
    {error : α → String} {text : String} {stop go : α → Tool β}
    (called : Triple screen (fun may => ∀ c, ok c → may c) call fun a may =>
      (∀ c, ok c → may c) ∧ (failed a → MadeOf may (error a)))
    (made : MadeOf ok text) (stops : ∀ a, Writes ok (stop a)) (goes : ∀ a, Writes ok (go a)) :
    Writes ok (call >>= fun a =>
      if failed a then Tool.perror text (error a) >>= fun _ => stop a else go a) := by
  apply Triple.bind called
  intro a
  apply Triple.ite
  · intro fails
    apply Triple.bind _ fun _ => stops a
    apply (perror_writes plain made (error a)).strengthen
    exact fun may covers => ⟨covers.1, covers.2 fails⟩
  · intro _
    exact (goes a).strengthen fun may covers => covers.1

end Calls

section Texts

variable {ok : Char → Prop} (plain : ∀ c, isPlain c → ok c)
include plain

/-! ### Conversions -/

/-- A character of a numeral is a plain one. -/
theorem numeral_of_plain (c : Char) (numeral : isNumeral c) : ok c :=
  plain c (isPlain_of_isNumeral numeral)

theorem madeOf_hex (n : UInt8) : MadeOf ok (hex n) := .of_hex (numeral_of_plain plain) n

theorem madeOf_hex02 (n : Int) : MadeOf ok (hex02 n) := .of_hex02 (numeral_of_plain plain) n

theorem madeOf_decimal (n : Int) : MadeOf ok (decimal n) := .of_decimal (numeral_of_plain plain) n

theorem madeOf_percent (progress : Int) : MadeOf ok (percent progress) :=
  .of_percent (numeral_of_plain plain) (.literal plain rfl) progress

/-- `print_ascii` lets printable ASCII through and nothing else, whatever the bytes. -/
theorem madeOf_printAscii (bytes : List UInt8) : MadeOf ok (printAscii bytes) := by
  apply MadeOf.ofList
  intro c member
  obtain ⟨b, _, rfl⟩ := List.mem_map.mp member
  apply plain
  split
  · rename_i printable
    have lower : 0x20 ≤ b.toNat := UInt8.le_iff_toNat_le.mp printable.1
    have upper : b.toNat < 0x7f := UInt8.lt_iff_toNat_lt.mp printable.2
    have checked : ∀ n < 0x7f, 0x20 ≤ n → isPlain (Char.ofNat n) := by decide
    exact checked _ upper lower
  · rfl

/-! ### Lines -/

/-- Printing a plain literal. -/
theorem shows_line {chars : List Char} (checked : chars.all isPlain = true) :
    Emits (Shows ok) (Tool.printf (String.ofList chars)) :=
  shows_printf (.literal plain checked)

theorem shows_format512Usage {name : String} (named : MadeOf ok name) :
    Emits (Shows ok) (format512Usage name) := by
  refine .bind (shows_line plain rfl) fun _ => ?_
  refine .bind (shows_printf (.between plain named rfl rfl)) fun _ => ?_
  repeat refine .bind (shows_line plain rfl) fun _ => ?_
  exact shows_line plain rfl

theorem shows_modeselUsage {name : String} (named : MadeOf ok name) :
    Emits (Shows ok) (modeselUsage name) := by
  refine .bind (shows_line plain rfl) fun _ => ?_
  refine .bind (shows_printf (.between plain named rfl rfl)) fun _ => ?_
  repeat refine .bind (shows_line plain rfl) fun _ => ?_
  exact shows_line plain rfl

theorem shows_formatImmedUsage {name : String} (named : MadeOf ok name) :
    Emits (Shows ok) (formatImmedUsage name) := by
  refine .bind (shows_line plain rfl) fun _ => ?_
  refine .bind (shows_printf (.between plain named rfl rfl)) fun _ => ?_
  repeat refine .bind (shows_line plain rfl) fun _ => ?_
  exact shows_line plain rfl

theorem shows_progressUsage {name : String} (named : MadeOf ok name) :
    Emits (Shows ok) (progressUsage name) := by
  refine .bind (shows_line plain rfl) fun _ => ?_
  refine .bind (shows_printf (.between plain named rfl rfl)) fun _ => ?_
  repeat refine .bind (shows_line plain rfl) fun _ => ?_
  exact shows_line plain rfl

theorem shows_megaraidUsage {prog : String} (named : MadeOf ok prog) :
    Emits (Shows ok) (megaraidUsage prog) := by
  refine .bind (shows_line plain rfl) fun _ => ?_
  refine .bind (shows_printf (.between plain named rfl rfl)) fun _ => ?_
  refine .bind (shows_line plain rfl) fun _ => .bind ?_ fun _ => ?_
  · refine .forM (fun applet => shows_printf ?_) applets
    have name : MadeOf ok applet.name := by cases applet <;> exact .literal plain rfl
    have summary : MadeOf ok applet.summary := by cases applet <;> exact .literal plain rfl
    exact .append (.append (.between plain (name.padded (plain ' ' rfl) _) rfl rfl) summary)
      (.literal plain rfl)
  · refine .bind (shows_printf (.between plain named rfl rfl)) fun _ => ?_
    repeat refine .bind (shows_line plain rfl) fun _ => ?_
    exact .pure _

theorem shows_requireTarget {usage : String → Tool Unit} {long : LongWidth} {argv : List String}
    (given : ∀ i, MadeOf ok (argv.getD i "")) (usages : ∀ name, MadeOf ok name →
      Emits (Shows ok) (usage name)) : Emits (Shows ok) (requireTarget usage long argv) := by
  refine .ite (.bind (usages _ (given 0)) fun _ => .pure _) (.ite ?_ (.pure _))
  exact .bind (shows_stderr (.between plain (given 2) rfl rfl)) fun _ => .pure _

theorem shows_warnUnusual (blockSize : Int) : Emits (Shows ok) (warnUnusual blockSize) := by
  refine .ite (shows_stderr ?_) (.pure _)
  refine .append (.append (.between plain (madeOf_decimal plain _) rfl rfl) ?_) ?_
  · exact .literal plain rfl
  · exact .literal plain rfl

theorem shows_requireBlockSize {long : LongWidth} {argv : List String}
    (given : ∀ i, MadeOf ok (argv.getD i "")) :
    Emits (Shows ok) (requireBlockSize long argv) := by
  refine .ite (.bind (shows_stderr (.between plain (given 3) rfl rfl)) fun _ => .pure _) ?_
  exact .bind (shows_warnUnusual plain _) fun _ => .pure _

theorem shows_warnUnusualExpected (expectedBs : UInt32) :
    Emits (Shows ok) (warnUnusualExpected expectedBs) := by
  refine .ite (shows_stderr ?_) (.pure _)
  refine .append (.append (.between plain (madeOf_decimal plain _) rfl rfl) ?_) ?_
  · exact .literal plain rfl
  · exact .literal plain rfl

theorem shows_progressRequest {long : LongWidth} {argv : List String}
    (given : ∀ i, MadeOf ok (argv.getD i "")) (target : Int) :
    Emits (Shows ok) (progressRequest long argv target) := by
  refine .ite (.ite ?_ ?_) (.pure _)
  · exact .bind (shows_stderr (.between plain (given 4) rfl rfl)) fun _ => .pure _
  · exact .bind (shows_warnUnusualExpected plain _) fun _ => .pure _

/-- Opening the controller writes its two messages, with `strerror` texts behind them. -/
theorem openController_writes {device openDevError openMegaError : String} (host : Host)
    (dev : MadeOf ok openDevError) (mega : MadeOf ok openMegaError) :
    Writes ok (openController host device openDevError openMegaError) := by
  apply orPerror_writes plain (openFile_writes host device true) dev
  · exact fun _ => .pure _
  intro fdDev
  apply orPerror_writes plain (getBusNumber_writes host fdDev) (.literal plain rfl)
  · exact fun _ => .bind (.of_shows (shows_silent rfl)) fun _ => .pure _
  intro bus
  apply Writes.bind (.of_shows (shows_silent rfl))
  intro _
  apply orPerror_writes plain (openFile_writes host _ false) mega
  · exact fun _ => .pure _
  · exact fun _ => .pure _

/-- Opening the controller for `mega_inquiry` writes plain and `strerror` texts. -/
theorem openForInquiry_writes (host : Host) (device : String) (target : Int) :
    Writes ok (openForInquiry host device target) := by
  apply orPerror_writes plain (openFile_writes host device true) (.literal plain rfl)
  · exact fun _ => .pure _
  intro fdDev
  apply orPerror_writes plain (getBusNumber_writes host fdDev) (.literal plain rfl)
  · exact fun _ => .bind (.of_shows (shows_silent rfl)) fun _ => .pure _
  intro bus
  have number : MadeOf ok ("Bus: " ++ decimal bus.busNo ++ ", Target: ") :=
    .between plain (madeOf_decimal plain _) rfl rfl
  have line : MadeOf ok ("Bus: " ++ decimal bus.busNo ++ ", Target: " ++ decimal target ++ "\n") :=
    (number.append (madeOf_decimal plain _)).append (.literal plain rfl)
  apply Writes.bind (.of_shows (shows_printf line))
  intro _
  apply Writes.bind (.of_shows (shows_silent rfl))
  intro _
  apply orPerror_writes plain (openFile_writes host _ false) (.literal plain rfl)
  · exact fun _ => .pure _
  · exact fun _ => .pure _

/-! ### What the formatters print -/

theorem shows_warnFormat512 : Emits (Shows ok) warnFormat512 :=
  .bind (shows_line plain rfl) fun _ => .bind (shows_line plain rfl) fun _ => shows_line plain rfl

theorem shows_reportFormat512 (target rc : Int) : Emits (Shows ok) (reportFormat512 target rc) := by
  refine .ite ?_ (.ite (shows_line plain rfl) ?_)
  · refine .bind (shows_line plain rfl) fun _ => .bind (shows_line plain rfl) fun _ => ?_
    exact shows_printf (.between plain (madeOf_decimal plain _) rfl rfl)
  · refine .bind (shows_printf (.between plain (madeOf_hex02 plain _) rfl rfl)) fun _ => ?_
    refine .ite (shows_printf ?_) (.pure _)
    exact .append (.append (.literal plain rfl) (.literal plain rfl)) (.literal plain rfl)

theorem shows_warnFormatting (blockSize : Int) (seconds : Nat) :
    Emits (Shows ok) (warnFormatting blockSize seconds) := by
  refine .bind (shows_printf ?_) fun _ => shows_line plain rfl
  refine .append (.append ?_ (madeOf_decimal plain _)) (.literal plain rfl)
  exact .between plain (madeOf_decimal plain _) rfl rfl

theorem shows_warnModeSelect (rc blockSize : Int) :
    Emits (Shows ok) (warnModeSelect rc blockSize) := by
  refine .ite ?_ (.pure _)
  refine .bind (shows_printf (.between plain (madeOf_hex02 plain _) rfl rfl)) fun _ => ?_
  refine .bind (shows_printf (.between plain (madeOf_decimal plain _) rfl rfl)) fun _ => ?_
  refine .bind (shows_line plain rfl) fun _ => .bind (shows_line plain rfl) fun _ => ?_
  exact shows_line plain rfl

/-- The line for the follow-up is the device name and plain texts. -/
theorem madeOf_followUpLine {device : String} (named : MadeOf ok device) (multicall : Bool)
    (target interval blockSize : Int) :
    MadeOf ok (followUpLine multicall device target interval blockSize) := by
  have blank : MadeOf ok " " := .literal plain rfl
  have command : MadeOf ok (progressCmd multicall) := by
    cases multicall <;> exact .literal plain rfl
  have number : ∀ n, MadeOf ok (decimal n) := madeOf_decimal plain
  unfold followUpLine
  exact (((((((((MadeOf.literal plain rfl).append command).append blank).append named).append
    blank).append (number _)).append blank).append (number _)).append blank).append (number _)
    |>.append (.literal plain rfl)

theorem shows_reportFormatImmed {device : String} (named : MadeOf ok device) (multicall : Bool)
    (target blockSize rc : Int) :
    Emits (Shows ok) (reportFormatImmed multicall device target blockSize rc) := by
  have next : ∀ interval, Emits (Shows ok)
      (Tool.printf (followUpLine multicall device target interval blockSize)) := fun interval =>
    shows_printf (madeOf_followUpLine plain named multicall target interval blockSize)
  refine .ite ?_ (.bind (shows_printf ?_) fun _ => next 0)
  swap
  · exact .between plain (madeOf_hex02 plain _) rfl rfl
  refine .bind (shows_line plain rfl) fun _ => .bind (shows_line plain rfl) fun _ => ?_
  refine .bind (shows_line plain rfl) fun _ => .bind (next 60) fun _ => ?_
  refine .bind (shows_line plain rfl) fun _ => ?_
  exact shows_printf (.between plain (madeOf_decimal plain _) rfl rfl)

theorem shows_countdown (seconds : Nat) : Emits (Shows ok) (countdown seconds) := by
  induction seconds with
  | zero => exact .pure _
  | succ seconds ih =>
      refine .bind (shows_printf ?_) fun _ => .bind (shows_silent rfl) fun _ => ih
      exact .append (madeOf_decimal plain _) (.literal plain rfl)

/-! ### What the poller prints -/

theorem shows_printState (out : SenseOut) : Emits (Shows ok) (printState out) := by
  have codes : ∀ {before after : List Char}, before.all isPlain = true → after.all isPlain = true →
      Emits (Shows ok) (Tool.printf (String.ofList before ++ hex02 out.asc.toNat ++ " ASCQ=0x" ++
        hex02 out.ascq.toNat ++ String.ofList after)) := by
    intro before after opens closes
    have asc : MadeOf ok (String.ofList before ++ hex02 out.asc.toNat ++ " ASCQ=0x") :=
      .between plain (madeOf_hex02 plain _) opens rfl
    exact shows_printf (.append (asc.append (madeOf_hex02 plain _)) (.literal plain closes))
  have progress : ∀ {before : List Char}, before.all isPlain = true →
      Emits (Shows ok) (Tool.printf (String.ofList before ++ percent out.progress ++ "% (" ++
        decimal out.progress ++ "/65536)\n")) := by
    intro before opens
    have done : MadeOf ok (String.ofList before ++ percent out.progress ++ "% (") :=
      .between plain (madeOf_percent plain _) opens rfl
    exact shows_printf (.append (done.append (madeOf_decimal plain _)) (.literal plain rfl))
  unfold printState
  split
  · exact .ite (progress rfl) (shows_line plain rfl)
  · exact codes rfl rfl
  · exact progress rfl
  · exact codes rfl rfl
  · exact .pure _

theorem shows_reportReady {host : Host} (sizes : ∀ lba bs, MadeOf ok (host.terabytes lba bs))
    (fd : Int) (expectedBs : UInt32) (cap : CapacityOut) :
    Emits (Shows ok) (reportReady host fd expectedBs cap) := by
  refine .bind (shows_printf (.between plain (madeOf_decimal plain _) rfl rfl)) fun _ => ?_
  refine .bind (.ite (shows_line plain rfl) (shows_printf ?_)) fun _ => ?_
  · refine .append (.append ?_ (sizes _ _)) (.literal plain rfl)
    exact .between plain (madeOf_decimal plain _) rfl rfl
  · refine .bind (.ite (shows_printf ?_) (.pure _)) fun _ => ?_
    · refine .append (.append ?_ (madeOf_decimal plain _)) (.literal plain rfl)
      exact .between plain (madeOf_decimal plain _) rfl rfl
    · exact .bind (shows_silent rfl) fun _ => .pure _

theorem shows_failedPoll (fd interval : Int) (state : PollState) :
    Emits (Shows ok) (failedPoll fd interval state) := by
  refine .ite ?_ ?_
  · refine .bind (shows_printf ?_) fun _ => .bind (shows_silent rfl) fun _ => .pure _
    refine .append (.append (.append (.append ?_ (madeOf_decimal plain _)) ?_) ?_) ?_
    · exact .between plain (madeOf_decimal plain _) rfl rfl
    · exact .literal plain rfl
    · exact madeOf_decimal plain _
    · exact .literal plain rfl
  · exact .bind (shows_line plain rfl) fun _ => .bind (shows_silent rfl) fun _ => .pure _

theorem shows_checkSizeMain : Emits (Shows ok) checkSizeMain := by
  repeat refine .bind (shows_printf (.between plain (madeOf_decimal plain _) rfl rfl)) fun _ => ?_
  exact .pure _

end Texts

/-! ### Commands and what follows them -/

section Commands

variable {ok : Char → Prop} (plain : ∀ c, isPlain c → ok c)
include plain

/-- A command writes its name, with a `strerror` text behind it, and nothing else. -/
theorem sendCmd_writes (fd bus target : Int) (cdb : List UInt8) (cdblen : Int) {n : Nat}
    (data : Buffer n) (len dir : Int) {name : Option String}
    (named : ∀ text ∈ name, MadeOf ok text) :
    Writes ok (sendCmd fd bus target cdb cdblen data len dir name) := by
  refine Triple.bind (firmware_writes fd _ _) fun reply => Triple.ite (fun failed => ?_) fun _ => ?_
  · cases name with
    | none =>
        refine Triple.consequence ?_ (fun _ covers => covers.1) fun _ _ covers => covers
        exact Writes.bind (.pure ()) fun _ => .pure _
    | some name =>
        have made : MadeOf ok (name ++ ": ioctl failed: ") :=
          (named name rfl).append (.literal plain rfl)
        have line : Triple screen (fun may => (∀ c, ok c → may c) ∧ MadeOf may reply.error)
            (Tool.printf (name ++ ": ioctl failed: " ++ reply.error ++ "\n"))
            fun _ may => ∀ c, ok c → may c := blame_writes plain rfl made
        apply (line.strengthen fun may covers => ⟨covers.1, covers.2 failed⟩).bind
        exact fun _ => Writes.pure _
  · refine Triple.consequence ?_ (fun _ covers => covers.1) fun _ _ covers => covers
    cases name with
    | none => exact Writes.bind (.pure _) fun _ => .pure _
    | some name =>
        refine Writes.bind (.of_shows (shows_printf ?_)) fun _ => .pure _
        have padded : MadeOf ok (padRight12 name) := (named name rfl).padded (plain ' ' rfl) _
        exact ((padded.append (.literal plain rfl)).append (madeOf_hex02 plain _)).append
          (.literal plain rfl)

/-- `identify` writes the identity and `strerror` texts. -/
theorem identify_writes (host : Host) (fd bus target : Int) {name : Option String}
    (named : ∀ text ∈ name, MadeOf ok text) :
    Writes ok (identify host fd bus target name) := by
  refine .bind (sendCmd_writes plain fd bus target _ _ _ _ _ named) fun (rc, inqData) => .ite ?_ ?_
  · refine .bind (.of_shows (shows_line plain rfl)) fun _ => ?_
    exact .bind (.of_shows (shows_silent rfl)) fun _ => .pure _
  · refine .bind (.of_shows (shows_line plain rfl)) fun _ => ?_
    refine .bind (.of_shows (shows_printf (madeOf_printAscii plain _))) fun _ => ?_
    refine .bind (.of_shows (shows_line plain rfl)) fun _ => ?_
    refine .bind (.of_shows (shows_printf (madeOf_printAscii plain _))) fun _ => ?_
    exact .bind (.of_shows (shows_line plain rfl)) fun _ => .pure _

/-- What follows the identity of a drive writes its line, its name and what its rest writes. -/
theorem afterIdentity_writes (host : Host) (fd bus target : Int) {line : String}
    {name : Option String} {rest : Tool Int} (made : MadeOf ok line)
    (named : ∀ text ∈ name, MadeOf ok text) (writes : Writes ok rest) :
    Writes ok (afterIdentity host fd bus target line name rest) := by
  refine .bind (.of_shows (shows_printf made)) fun _ => ?_
  exact .bind (identify_writes plain host fd bus target named) fun _ => .ite writes (.pure _)

/-- MODE SELECT writes plain and `strerror` texts. -/
theorem modeSelect_writes (host : Host) (fd bus target blockSize : Int) :
    Writes ok (modeSelect host fd bus target blockSize) := by
  refine .bind (.of_shows (shows_printf ?_)) fun _ => .bind ?_ fun _ => .pure _
  · exact .between plain (madeOf_decimal plain _) rfl rfl
  · apply sendCmd_writes plain
    rintro text ⟨⟩
    exact .literal plain rfl

/-- The countdown and FORMAT UNIT write what they are given. -/
theorem countdownAndFormat_writes {warning : Tool Unit} {report : Int → Tool Unit} {step : String}
    {name : Option String} (warns : Emits (Shows ok) warning) (made : MadeOf ok step)
    (reports : ∀ rc, Emits (Shows ok) (report rc)) (named : ∀ text ∈ name, MadeOf ok text)
    (seconds : Nat) (fd bus target : Int) (cdb : List UInt8) {n : Nat} (param : Buffer n)
    (dir : Int) : Writes ok
      (countdownAndFormat warning seconds step fd bus target cdb param dir name report) := by
  refine .bind (.of_shows warns) fun _ => .bind (.of_shows (shows_countdown plain _)) fun _ => ?_
  refine .bind (.of_shows (shows_printf made)) fun _ => ?_
  refine .bind (sendCmd_writes plain fd bus target _ _ _ _ _ named) fun _ => ?_
  refine .bind (.of_shows (reports _)) fun _ => ?_
  exact .bind (.of_shows (shows_silent rfl)) fun _ => .pure _

/-- Behind its arguments `mega_format512` writes plain and `strerror` texts. -/
theorem format512Drive_writes (host : Host) (fd bus target : Int) :
    Writes ok (format512Drive host fd bus target) := by
  refine afterIdentity_writes plain host fd bus target ?_ ?_ ?_
  · refine .append (.append ?_ (madeOf_decimal plain _)) (.literal plain rfl)
    exact .between plain (madeOf_decimal plain _) rfl rfl
  · rintro text ⟨⟩
  · refine countdownAndFormat_writes plain (shows_warnFormat512 plain) (.literal plain rfl)
      (shows_reportFormat512 plain target) ?_ ..
    rintro text ⟨⟩

/-- Behind its arguments `mega_modesel` writes plain and `strerror` texts. -/
theorem modeselDrive_writes (host : Host) (fd bus target blockSize : Int) :
    Writes ok (modeselDrive host fd bus target blockSize) := by
  refine afterIdentity_writes plain host fd bus target ?_ ?_ ?_
  · refine .append (.append ?_ (madeOf_decimal plain _)) (.literal plain rfl)
    exact .between plain (madeOf_decimal plain _) rfl rfl
  · rintro text ⟨⟩
    exact .literal plain rfl
  · refine .bind (modeSelect_writes plain ..) fun rc => .ite ?_ ?_
    · refine .bind (.of_shows (shows_printf ?_)) fun _ => ?_
      · exact .between plain (madeOf_hex02 plain _) rfl rfl
      · exact .bind (.of_shows (shows_silent rfl)) fun _ => .pure _
    · refine countdownAndFormat_writes plain (shows_warnFormatting plain blockSize 5)
        (.literal plain rfl) (fun _ => .pure ()) ?_ ..
      rintro text ⟨⟩
      exact .literal plain rfl

/-- Behind its arguments `mega_format_immed` writes the device name, plain and `strerror`
texts. -/
theorem formatImmedDrive_writes {device : String} (known : MadeOf ok device) (host : Host)
    (multicall : Bool) (fd bus target blockSize : Int) :
    Writes ok (formatImmedDrive host multicall device fd bus target blockSize) := by
  refine afterIdentity_writes plain host fd bus target ?_ ?_ ?_
  · refine .append (.append ?_ (madeOf_decimal plain _)) (.literal plain rfl)
    exact .between plain (madeOf_decimal plain _) rfl rfl
  · rintro text ⟨⟩
    exact .literal plain rfl
  · refine .bind (modeSelect_writes plain ..) fun rc => ?_
    refine .bind (.of_shows (shows_warnModeSelect plain rc blockSize)) fun _ => ?_
    refine countdownAndFormat_writes plain (shows_warnFormatting plain ..) (.literal plain rfl)
      (shows_reportFormatImmed plain known multicall target blockSize) ?_ ..
    rintro text ⟨⟩
    exact .literal plain rfl

/-- The READ CAPACITY attempts write nothing but `strerror` texts. -/
theorem readCapacityRetries_writes (host : Host) (fd bus target : Int) (left : Nat)
    (out : CapacityOut) : Writes ok (readCapacityRetries host fd bus target left out) := by
  induction left generalizing out with
  | zero => exact .pure _
  | succ left ih =>
      refine .bind (.bind (sendCmd_writes plain fd bus target _ _ _ _ _ ?_) fun (rc, cap) => ?_)
        fun (capOk, out) => .ite (.pure _) ?_
      · rintro text ⟨⟩
      · exact .ite (.pure _) (.ite (.pure _) (.pure _))
      · exact .bind (.ite (.of_shows (shows_silent rfl)) (.pure _)) fun _ => ih out

/-- An idle poll writes the capacity, plain and `strerror` texts. -/
theorem idlePoll_writes {host : Host} (sizes : ∀ lba bs, MadeOf ok (host.terabytes lba bs))
    (fd bus target : Int) (expectedBs : UInt32) (out : SenseOut) :
    Writes ok (idlePoll host fd bus target expectedBs out) := by
  refine .bind (.ite (.of_shows (shows_printf ?_)) (.pure _)) fun _ => ?_
  · have key : MadeOf ok ("sense key=0x" ++ hex out.senseKey ++ " ASC=0x") :=
      .between plain (madeOf_hex plain _) rfl rfl
    refine .append (.append (.append (key.append (madeOf_hex02 plain _)) ?_) ?_) ?_
    · exact .literal plain rfl
    · exact madeOf_hex02 plain _
    · exact .literal plain rfl
  · refine .bind (readCapacityRetries_writes plain ..) fun (capOk, cap) => .ite ?_ ?_
    · refine .bind (.of_shows (shows_printf (.between plain (madeOf_decimal plain _) rfl rfl))) ?_
      exact fun _ => .bind (.of_shows (shows_silent rfl)) fun _ => .pure _
    · exact .of_shows (shows_reportReady plain sizes fd expectedBs cap)

/-- One round of the poll loop. -/
theorem pollIteration_writes {host : Host} (sizes : ∀ lba bs, MadeOf ok (host.terabytes lba bs))
    (fd bus target interval : Int) (expectedBs : UInt32) (state : PollState) :
    Writes ok (pollIteration host fd bus target interval expectedBs state) := by
  refine .bind (sendCmd_writes plain fd bus target _ _ _ _ _ ?_) fun (rc, sense) => .ite ?_ ?_
  · rintro text ⟨⟩
  · refine .bind (.of_shows (.ite ?_ ?_)) fun _ => .of_shows (shows_failedPoll plain ..)
    · exact shows_printf (.between plain (madeOf_hex02 plain _) rfl rfl)
    · exact shows_printf (.between plain (madeOf_hex02 plain _) rfl rfl)
  · refine .bind (.of_shows (shows_printState plain _)) fun _ => .ite ?_ ?_
    · exact .of_shows (shows_busyPoll ..)
    · exact .map _ (idlePoll_writes plain sizes ..)

/-- The line of `mega_inquiry` about its ioctl. -/
theorem printIoctl_writes (errnoOf : String → Int) (reply : DriverReply) (cmdStatus : UInt8) :
    Triple screen (fun may => (∀ c, ok c → may c) ∧ (reply.result < 0 → MadeOf may reply.error))
      (printIoctl errnoOf reply cmdStatus) fun _ may => ∀ c, ok c → may c := by
  refine Triple.ite (fun failed => ?_) fun _ => ?_
  · apply Triple.record
    rintro may ⟨covers, blamed⟩
    refine ⟨?_, fun c holds => Or.inl (covers c holds)⟩
    rintro text ⟨⟩
    have wider : ∀ c, isPlain c → may c := fun c printable => covers c (plain c printable)
    have result : MadeOf may ("ioctl=" ++ decimal reply.result ++ " errno=") :=
      .between wider (madeOf_decimal wider _) rfl rfl
    refine .append (.append (.append (.append (.append ?_ ?_) (blamed failed)) ?_) ?_) ?_
    · exact result.append (madeOf_decimal wider _)
    · exact .literal wider rfl
    · exact .literal wider rfl
    · exact madeOf_hex02 wider _
    · exact .literal wider rfl
  · refine Triple.consequence ?_ (fun _ covers => covers.1) fun _ _ covers => covers
    refine Writes.of_shows (shows_printf ?_)
    refine .append (.append ?_ (madeOf_hex02 plain _)) (.literal plain rfl)
    exact .between plain (madeOf_decimal plain _) rfl rfl

/-- `mega_inquiry` writes the identity, plain and `strerror` texts. -/
theorem inquiryDrive_writes (errnoOf : String → Int) (host : Host) (fd bus target : Int) :
    Writes ok (inquiryDrive errnoOf host fd bus target) := by
  refine Triple.bind (firmware_writes fd _ _) fun reply => ?_
  refine Triple.bind (printIoctl_writes plain errnoOf reply _) fun _ => Writes.ite ?_ ?_
  · refine .bind (.of_shows (shows_line plain rfl)) fun _ => ?_
    refine .bind (.of_shows (shows_printf (madeOf_printAscii plain _))) fun _ => ?_
    refine .bind (.of_shows (shows_line plain rfl)) fun _ => ?_
    refine .bind (.of_shows (shows_printf (madeOf_printAscii plain _))) fun _ => ?_
    refine .bind (.of_shows (shows_line plain rfl)) fun _ => ?_
    exact .bind (.of_shows (shows_silent rfl)) fun _ => .pure _
  · refine .bind (.of_shows (shows_line plain rfl)) fun _ => ?_
    exact .bind (.of_shows (shows_silent rfl)) fun _ => .pure _

end Commands

/-! ### Whole programs -/

section Programs

variable {ok : Char → Prop} (plain : ∀ c, isPlain c → ok c) {argv : List String}
  (given : ∀ arg ∈ argv, MadeOf ok arg)

/-- An argument that is missing is empty, so it is made of anything. -/
theorem madeOf_getD (given : ∀ arg ∈ argv, MadeOf ok arg) (i : Nat) :
    MadeOf ok (argv.getD i "") := by
  rcases Nat.lt_or_ge i argv.length with inside | outside
  · rw [List.getD_eq_getElem _ _ inside]
    exact given _ (List.getElem_mem inside)
  · rw [List.getD_eq_default _ _ outside]
    intro c member
    cases member

include plain given

/-- The arguments, the way to the controller, and a part that writes properly. -/
theorem withBlockSize_writes {usage : String → Tool Unit} {openMegaError : String}
    {drive : (fdMega busNo target blockSize : Int) → Tool Int}
    (usages : ∀ name, MadeOf ok name → Emits (Shows ok) (usage name))
    (mega : MadeOf ok openMegaError)
    (writes : ∀ fdMega busNo target blockSize, Writes ok (drive fdMega busNo target blockSize))
    (host : Host) (long : LongWidth) :
    Writes ok (withBlockSize usage openMegaError drive host long argv) := by
  have args := madeOf_getD given
  refine .bind (.of_shows (shows_requireTarget plain args usages)) fun target => ?_
  cases target with
  | none => exact .pure _
  | some target =>
      refine .bind (.of_shows (shows_requireBlockSize plain args)) fun blockSize => ?_
      cases blockSize with
      | none => exact .pure _
      | some blockSize =>
          refine .bind (.of_shows (shows_silent rfl)) fun _ => ?_
          refine .bind (openController_writes plain host ?_ mega) fun reached => ?_
          · exact .literal plain rfl
          cases reached with
          | none => exact .pure _
          | some reached => exact writes ..

/-- `mega_format512` writes its arguments, plain and `strerror` texts. -/
theorem megaFormat512_writes (host : Host) (long : LongWidth) :
    Writes ok (megaFormat512 host long argv) := by
  have args := madeOf_getD given
  refine .bind (.of_shows (shows_requireTarget plain args ?_)) fun target => ?_
  · exact fun name named => shows_format512Usage plain named
  cases target with
  | none => exact .pure _
  | some target =>
      refine .bind (.of_shows (shows_silent rfl)) fun _ => ?_
      refine .bind (openController_writes plain host ?_ ?_) fun reached => ?_
      · exact .literal plain rfl
      · exact .literal plain rfl
      cases reached with
      | none => exact .pure _
      | some reached => exact format512Drive_writes plain host ..

/-- `mega_modesel` writes its arguments, plain and `strerror` texts. -/
theorem megaModesel_writes (host : Host) (long : LongWidth) :
    Writes ok (megaModesel host long argv) := by
  refine withBlockSize_writes plain given ?_ (.literal plain rfl) ?_ host long
  · exact fun name named => shows_modeselUsage plain named
  · exact fun fdMega busNo target blockSize => modeselDrive_writes plain host ..

/-- `mega_format_immed` writes its arguments, plain and `strerror` texts. -/
theorem megaFormatImmed_writes (host : Host) (multicall : Bool) (long : LongWidth) :
    Writes ok (megaFormatImmed host multicall long argv) := by
  refine withBlockSize_writes plain given ?_ (.literal plain rfl) ?_ host long
  · exact fun name named => shows_formatImmedUsage plain named
  · exact fun fdMega busNo target blockSize =>
      formatImmedDrive_writes plain (madeOf_getD given 1) host multicall ..

/-- `mega_progress` writes its arguments, the capacity, plain and `strerror` texts. -/
theorem megaProgress_writes {host : Host} (sizes : ∀ lba bs, MadeOf ok (host.terabytes lba bs))
    (long : LongWidth) (rounds : Nat) : Writes ok (megaProgress host long rounds argv) := by
  have args := madeOf_getD given
  refine .bind (.of_shows (shows_requireTarget plain args ?_)) fun target => ?_
  · exact fun name named => shows_progressUsage plain named
  cases target with
  | none => exact .pure _
  | some target =>
      refine .bind (.of_shows (shows_progressRequest plain args target)) fun request => ?_
      cases request with
      | none => exact .pure _
      | some request =>
          refine .bind (openController_writes plain host ?_ ?_) fun reached => ?_
          · exact .literal plain rfl
          · exact .literal plain rfl
          cases reached with
          | none => exact .pure _
          | some reached =>
              exact .map _ (Triple.loop (pollIteration_writes plain sizes _ _ _ _ _) rounds _)

/-- `mega_inquiry` writes its arguments, plain and `strerror` texts. -/
theorem megaInquiry_writes (errnoOf : String → Int) (host : Host) (long : LongWidth) :
    Writes ok (megaInquiry errnoOf host long argv) := by
  have args := madeOf_getD given
  refine .bind (.of_shows (shows_requireTarget plain args ?_)) fun target => ?_
  · exact fun name named => shows_printf (.between plain named rfl rfl)
  cases target with
  | none => exact .pure _
  | some target =>
      refine .bind (openForInquiry_writes plain host _ target) fun reached => ?_
      cases reached with
      | none => exact .pure _
      | some reached => exact inquiryDrive_writes plain errnoOf host ..

variable {host : Host} (sizes : ∀ lba bs, MadeOf ok (host.terabytes lba bs))
  (errnoOf : String → Int) (long : LongWidth) (rounds : Nat)
include sizes

/-- An applet writes its arguments, the capacity, plain and `strerror` texts. -/
theorem Applet.main_writes (applet : Applet) :
    Writes ok (applet.main errnoOf host long rounds argv) := by
  cases applet with
  | inquiry => exact .map _ (megaInquiry_writes plain given errnoOf host long)
  | format512 => exact .map _ (megaFormat512_writes plain given host long)
  | modesel => exact .map _ (megaModesel_writes plain given host long)
  | formatImmed => exact .map _ (megaFormatImmed_writes plain given host true long)
  | progress => exact megaProgress_writes plain given sizes long rounds
  | checkSize => exact .map _ (.of_shows (shows_checkSizeMain plain))

/-- A standalone tool writes its arguments, the capacity, plain and `strerror` texts. -/
theorem Applet.standalone_writes (applet : Applet) :
    Writes ok (applet.standalone errnoOf host long rounds argv) := by
  by_cases immed : applet = .formatImmed
  · subst immed
    exact .map _ (megaFormatImmed_writes plain given host false long)
  · rw [Applet.standalone_eq_main errnoOf host long rounds immed]
    exact applet.main_writes plain given sizes errnoOf long rounds

/-- The unified binary writes its arguments, the capacity, plain and `strerror` texts. -/
theorem megaraidMain_writes : Writes ok (megaraidMain errnoOf host long rounds argv) := by
  have args := madeOf_getD given
  have usage : Writes ok (some <$> megaraidUsage (argv.getD 0 "")) :=
    (Writes.of_shows (shows_megaraidUsage plain (args 0))).map some
  rcases megaraidMain_cases errnoOf host long rounds argv with
    ⟨applet, called, suffix, _, runs⟩ | ⟨_, runs | runs⟩
  · rw [runs]
    exact applet.main_writes plain (fun arg member => given arg (suffix.subset member)) sizes
      errnoOf long rounds
  · rw [runs]
    exact usage
  · rw [runs]
    exact .bind (.of_shows (shows_stderr (.between plain (args 1) rfl rfl))) fun _ => usage

end Programs

/-! ### What a reader of the terminal sees -/

/-- Where a character on the terminal can come from. The `strerror` text is that of a
call that failed earlier in the run. -/
inductive Source (host : Host) (argv : List String) (past : List Event) (c : Char) : Prop
  | plain (printable : isPlain c = true)
  | argument (arg : String) (present : arg ∈ argv) (member : c ∈ arg.toList)
  | strerror (call : Event) (made : call ∈ past) (blamed : call.Blames c)
  | terabytes (lastLba blockSize : UInt32) (member : c ∈ (host.terabytes lastLba blockSize).toList)

/-- Every character that a run puts on the terminal has a source. -/
def SourcedOutput (host : Host) (argv : List String) (events : List Event) : Prop :=
  ∀ past event rest text, events = past ++ event :: rest → event.text? = some text →
    ∀ c ∈ text.toList, Source host argv past c

/-- The characters that a record allows are the first ones and those of its failed calls. -/
theorem screen_after (may : Char → Prop) (past : List Event) (c : Char) :
    screen.after may past c ↔ may c ∨ ∃ call ∈ past, call.Blames c := by
  induction past generalizing may with
  | nil => simp
  | cons event past ih =>
      rw [Monitor.after_cons, ih]
      simp only [screen, List.exists_mem_cons_iff, or_assoc]

/-- A part that writes properly has sources for its output. -/
theorem Writes.sourced {α : Type} {host : Host} {argv : List String} {part : Tool α}
    (writes : ∀ ok : Char → Prop, (∀ c, isPlain c → ok c) → (∀ arg ∈ argv, MadeOf ok arg) →
      (∀ lba bs, MadeOf ok (host.terabytes lba bs)) → Writes ok part)
    (driver : Stream' DriverReply) : SourcedOutput host argv (part.events driver) := by
  intro past event rest text split written c member
  have writes := writes (Source host argv []) (fun c printable => .plain printable)
    (fun arg present c member => .argument arg present member)
    (fun lba bs c member => .terabytes lba bs member)
  have accepted := (writes.holds driver (Source host argv []) fun c source => source).1
  have allowed := accepted.allows_at split text written c member
  rcases (screen_after _ past c).mp allowed with source | ⟨call, made, blamed⟩
  · cases source with
    | plain printable => exact .plain printable
    | argument arg present member => exact .argument arg present member
    | strerror call made => cases made
    | terabytes lastLba blockSize member => exact .terabytes lastLba blockSize member
  · exact .strerror call made blamed

/-- **No character of the drive's choosing reaches the terminal**, in any run of a
tool or of the unified binary. -/
theorem output_sourced (errnoOf : String → Int) (host : Host) (long : LongWidth) (rounds : Nat)
    (argv : List String) (driver : Stream' DriverReply) :
    SourcedOutput host argv ((megaraidMain errnoOf host long rounds argv).events driver) ∧
    ∀ applet : Applet,
      SourcedOutput host argv ((applet.standalone errnoOf host long rounds argv).events driver) :=
  ⟨Writes.sourced (fun _ plain given sizes =>
      megaraidMain_writes plain given sizes errnoOf long rounds) driver,
    fun applet => Writes.sourced (fun _ plain given sizes =>
      applet.standalone_writes plain given sizes errnoOf long rounds) driver⟩

end Megaraid
