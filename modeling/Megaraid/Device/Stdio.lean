import Megaraid.Device.Controller
import Megaraid.Foundation.Basename
import Megaraid.Foundation.Monitor

/-!
# What a reader of standard output has seen

Standard output may be a pipe. The C library then keeps what is written in a
buffer, and nothing of it is sure to arrive before the program exits, unless the
stream was line-buffered before its first use: then everything up to the last
newline arrives at once. `Stdio` follows a record of events with these rules.
-/

namespace Megaraid

/-- Standard output: whether it was written to, whether it is line-buffered, what
has arrived at the reader and what waits in the buffer. -/
structure Stdio where
  used : Bool
  lineBuffered : Bool
  delivered : List Char
  waiting : List Char

namespace Stdio

def fresh : Stdio := ⟨false, false, [], []⟩

/-- `printf` on this stream. -/
def write (io : Stdio) (text : List Char) : Stdio :=
  let buffer := io.waiting ++ text
  if io.lineBuffered then
    let kept := behindLast '\n' buffer
    ⟨true, true, io.delivered ++ buffer.take (buffer.length - kept.length), kept⟩
  else
    ⟨true, false, io.delivered, buffer⟩

/-- `setvbuf(stdout, NULL, _IOLBF, 0)`, which must come before any output, and the
other events of a run. -/
def step (io : Stdio) : Event → Stdio
  | .stdout text => io.write text.toList
  | .setLineBuffered => if io.used then io else { io with lineBuffered := true }
  | _ => io

/-- Nothing waits when a run sends a command or sleeps, and the buffering is not
changed after the first output. -/
def allows (io : Stdio) : Event → Prop
  | .firmware _ => io.waiting = []
  | .sleep _ => io.waiting = []
  | .setLineBuffered => io.used = false
  | _ => True

end Stdio

/-- The monitor of standard output. -/
def stdio : Monitor Stdio Event where
  allows := Stdio.allows
  step := Stdio.step

/-- What has arrived at the reader after a record. -/
def shown (events : List Event) : List Char := (events.foldl Stdio.step .fresh).delivered

/-- What a record wrote to standard output. -/
def outputText (events : List Event) : List Char := (printed events).flatMap String.toList

/-- Whenever a run sends a command or sleeps, everything it has written so far has
arrived; the stream was made line-buffered before any output, if at all. -/
structure ShowsInTime (events : List Event) : Prop where
  arrived : ∀ past event rest, events = past ++ event :: rest →
    event.command? ≠ none ∨ event.sleep? ≠ none → shown past = outputText past
  orderly : ∀ past rest, events = past ++ .setLineBuffered :: rest → outputText past = []

/-! ### Lines -/

/-- Nothing is behind a separator at the end. -/
theorem behindLast_concat {α : Type} [DecidableEq α] (c : α) (front : List α) :
    behindLast c (front ++ [c]) = [] :=
  lastPart_iff.mp ⟨List.not_mem_nil, Or.inr ⟨front, rfl⟩⟩

/-- What lies behind the last separator is the end of the string. -/
theorem take_append_behindLast {α : Type} [DecidableEq α] (c : α) (s : List α) :
    s.take (s.length - (behindLast c s).length) ++ behindLast c s = s := by
  have part : LastPart c s (behindLast c s) := lastPart_iff.mpr rfl
  have behind : behindLast c s <:+ s := by
    rcases part.whole with same | ⟨front, split⟩
    · exact ⟨[], same.symm⟩
    · exact ⟨front ++ [c], by rw [List.append_assoc]; exact split.symm⟩
  obtain ⟨front, split⟩ := behind
  generalize behindLast c s = last at split ⊢
  rw [← split, List.length_append, Nat.add_sub_cancel, List.take_left]

namespace Stdio

variable (io : Stdio) (text : List Char)

/-- A write uses the stream. -/
@[simp] theorem write_used : (io.write text).used = true := by
  unfold write
  split <;> rfl

/-- A write leaves the buffering mode. -/
@[simp] theorem write_lineBuffered : (io.write text).lineBuffered = io.lineBuffered := by
  unfold write
  split
  · rename_i buffered
    exact buffered.symm
  · rename_i plain
    exact (Bool.not_eq_true _ ▸ plain).symm

/-- Writing loses nothing and invents nothing. -/
theorem write_text : (io.write text).delivered ++ (io.write text).waiting =
    io.delivered ++ io.waiting ++ text := by
  unfold write
  split
  · rw [List.append_assoc, take_append_behindLast, List.append_assoc]
  · rw [List.append_assoc]

/-- A whole line passes through a line-buffered stream. -/
theorem write_waiting {io : Stdio} (buffered : io.lineBuffered = true) (front : List Char) :
    (io.write (front ++ ['\n'])).waiting = [] := by
  unfold write
  rw [if_pos buffered, ← List.append_assoc]
  exact behindLast_concat '\n' _

end Stdio

/-! ### What the monitor means -/

/-- A printed text is part of the output. -/
theorem outputText_stdout (past : List Event) (text : String) :
    outputText (past ++ [.stdout text]) = outputText past ++ text.toList := by
  rw [outputText, printed_append, List.flatMap_append]
  exact congrArg _ (List.append_nil _)

/-- An event that prints nothing leaves the output. -/
theorem outputText_silent (past : List Event) {event : Event} (silent : event.stdout? = none) :
    outputText (past ++ [event]) = outputText past := by
  rw [outputText, printed_append, printed_cons, silent, outputText]
  exact congrArg _ (List.append_nil _)

/-- What was written has arrived or waits, and nothing was written to an unused stream. -/
structure Stdio.Holds (past : List Event) (io : Stdio) : Prop where
  text : io.delivered ++ io.waiting = outputText past
  unused : io.used = false → outputText past = []

/-- An event that prints nothing keeps what holds of the stream. -/
theorem Stdio.Holds.silent {past : List Event} {io other : Stdio} {event : Event}
    (holds : io.Holds past) (silent : event.stdout? = none)
    (text : other.delivered ++ other.waiting = io.delivered ++ io.waiting)
    (used : other.used = io.used) : other.Holds (past ++ [event]) := by
  have same := outputText_silent past silent
  refine ⟨?_, fun unused => ?_⟩
  · rw [same, text, holds.text]
  · rw [same]
    exact holds.unused (used ▸ unused)

/-- One event of the record keeps the account. -/
theorem Stdio.Holds.step {past : List Event} {io : Stdio} (holds : io.Holds past) (event : Event) :
    (io.step event).Holds (past ++ [event]) := by
  cases event with
  | stdout text =>
      refine ⟨?_, fun unused => ?_⟩
      · rw [outputText_stdout, ← holds.text]
        exact io.write_text _
      · rw [Stdio.step, io.write_used] at unused
        cases unused
  | setLineBuffered =>
      rw [Stdio.step]
      split
      · exact holds.silent rfl rfl rfl
      · exact holds.silent rfl rfl rfl
  | _ => exact holds.silent rfl rfl rfl

/-- A record that the stream's monitor accepts shows its texts in time. -/
theorem showsInTime_of_accepts {events : List Event} (accepted : stdio.Accepts .fresh events) :
    ShowsInTime events := by
  have held : ∀ {past event rest}, events = past ++ event :: rest →
      (stdio.after .fresh past).Holds past := by
    intro past event rest split
    rw [split] at accepted
    exact accepted.of_append.invariant (fun past io => io.Holds past) ⟨rfl, fun _ => rfl⟩
      fun past io event holds _ => holds.step event
  refine ⟨fun past event rest split waits => ?_, fun past rest split => ?_⟩
  · have allowed := accepted.allows_at split
    have empty : (stdio.after .fresh past).waiting = [] := by
      cases event with
      | firmware => exact allowed
      | sleep => exact allowed
      | _ => simp at waits
    have text := (held split).text
    rw [empty, List.append_nil] at text
    exact text
  · exact (held split).unused (accepted.allows_at split)

end Megaraid
