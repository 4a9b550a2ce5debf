import Megaraid.Foundation.Simulation
import Megaraid.Tools.Multicall

/-!
# One binary for six

The unified binary links the source files of the tools. Whatever applet a command line
runs, the binary does what the tool of that applet does under any name of its own:
the same packets from the same arrays, the same pauses, the same texts and the same
exit status, but for the name in the usage text and the poller that `mega_format_immed`
recommends.
-/

namespace Megaraid

open Traced (Simulates)

/-- An event of an applet that was called by one name and an event of the tool that was
called by another. -/
inductive SameButNames (called name : String) : Event → Event → Prop where
  | same (event : Event) : SameButNames called name event event
  | usage (arguments : String) :
      SameButNames called name (.stdout ("Usage: " ++ called ++ arguments))
        (.stdout ("Usage: " ++ name ++ arguments))
  | followUp (device : String) (target interval blockSize : Int) :
      SameButNames called name (.stdout (followUpLine true device target interval blockSize))
        (.stdout (followUpLine false device target interval blockSize))

section Names

variable (errnoOf : String → Int) (host : Host) (long : LongWidth) (rounds : Nat)
  (called name : String)

/-- What does not depend on the name. -/
theorem sameButNames {α : Type} (tool : Tool α) :
    Simulates Eq (SameButNames called name) Eq tool tool :=
  .refl .same tool

/-- A usage text mentions the name. -/
def MentionsName (usage : String → Tool Unit) : Prop :=
  ∀ called name, Simulates Eq (SameButNames called name) Eq (usage called) (usage name)

theorem mentionsName_inquiry : MentionsName inquiryUsage := fun _ _ =>
  .record (.usage " <block_device> <target_id>\n")

theorem mentionsName_format512 : MentionsName format512Usage := fun called name =>
  .bind (sameButNames called name _) fun _ _ _ =>
    .bind (.record (.usage " <block_device> <target_id>\n")) fun _ _ _ =>
      sameButNames called name _

theorem mentionsName_modesel : MentionsName modeselUsage := fun called name =>
  .bind (sameButNames called name _) fun _ _ _ =>
    .bind (.record (.usage " <block_device> <target_id> [block_size]\n")) fun _ _ _ =>
      sameButNames called name _

theorem mentionsName_formatImmed : MentionsName formatImmedUsage := fun called name =>
  .bind (sameButNames called name _) fun _ _ _ =>
    .bind (.record (.usage " <block_device> <target_id> [block_size]\n")) fun _ _ _ =>
      sameButNames called name _

theorem mentionsName_progress : MentionsName progressUsage := fun called name =>
  .bind (sameButNames called name _) fun _ _ _ =>
    .bind (.record (.usage
        " <block_device> <target_id> [interval_seconds] [expected_block_size]\n")) fun _ _ _ =>
      sameButNames called name _

/-- The argument handling that the tools share. -/
theorem requireTarget_named {usage : String → Tool Unit} (mentions : MentionsName usage)
    (args : List String) :
    Simulates Eq (SameButNames called name) Eq (requireTarget usage long (called :: args))
      (requireTarget usage long (name :: args)) := by
  apply Simulates.ite
  · intro _
    exact .bind (mentions called name) fun _ _ _ => sameButNames called name _
  · intro _
    exact sameButNames called name _

/-- The end of a formatter, with another report. -/
theorem countdownAndFormat_named (warning : Tool Unit) (seconds : Nat) (step : String)
    (fd bus target : Int) (cdb : List UInt8) {n : Nat} (param : Buffer n) (dir : Int)
    (command : Option String) {report report' : Int → Tool Unit}
    (reports : ∀ rc, Simulates Eq (SameButNames called name) Eq (report rc) (report' rc)) :
    Simulates Eq (SameButNames called name) Eq
      (countdownAndFormat warning seconds step fd bus target cdb param dir command report)
      (countdownAndFormat warning seconds step fd bus target cdb param dir command report') := by
  apply Simulates.bind_eq (sameButNames called name _)
  intro _
  apply Simulates.bind_eq (sameButNames called name _)
  intro _
  apply Simulates.bind_eq (sameButNames called name _)
  intro _
  apply Simulates.bind_eq (sameButNames called name _)
  intro ⟨rc, data⟩
  exact .bind (reports rc) fun _ _ _ => sameButNames called name _

/-- The reports of `mega_format_immed` differ in the name of the follow-up tool. -/
theorem reportFormatImmed_named (device : String) (target blockSize rc : Int) :
    Simulates Eq (SameButNames called name) Eq (reportFormatImmed true device target blockSize rc)
      (reportFormatImmed false device target blockSize rc) := by
  apply Simulates.ite
  · intro _
    apply Simulates.bind_eq (sameButNames called name _)
    intro _
    apply Simulates.bind_eq (sameButNames called name _)
    intro _
    apply Simulates.bind_eq (sameButNames called name _)
    intro _
    exact .bind (.record (.followUp device target 60 blockSize)) fun _ _ _ =>
      sameButNames called name _
  · intro _
    exact .bind (sameButNames called name _) fun _ _ _ =>
      .record (.followUp device target 0 blockSize)

/-- With its drive `mega_format_immed` does the same under both names. -/
theorem formatImmedDrive_named (device : String) (fd bus target blockSize : Int) :
    Simulates Eq (SameButNames called name) Eq
      (formatImmedDrive host true device fd bus target blockSize)
      (formatImmedDrive host false device fd bus target blockSize) := by
  apply Simulates.bind_eq (sameButNames called name _)
  intro _
  apply Simulates.bind_eq (sameButNames called name _)
  intro found
  apply Simulates.ite
  · intro _
    apply Simulates.bind_eq (sameButNames called name _)
    intro rc
    apply Simulates.bind_eq (sameButNames called name _)
    intro _
    exact countdownAndFormat_named called name _ _ _ _ _ _ _ _ _ _ fun rc =>
      reportFormatImmed_named called name device target blockSize rc
  · intro _
    exact sameButNames called name _

/-- The two tools with a block size do the same under both names if their drive parts do. -/
theorem withBlockSize_named {usage : String → Tool Unit} (mentions : MentionsName usage)
    (openMegaError : String) {drive drive' : (fdMega busNo target blockSize : Int) → Tool Int}
    (drives : ∀ fdMega busNo target blockSize, Simulates Eq (SameButNames called name) Eq
      (drive fdMega busNo target blockSize) (drive' fdMega busNo target blockSize))
    (args : List String) :
    Simulates Eq (SameButNames called name) Eq
      (withBlockSize usage openMegaError drive host long (called :: args))
      (withBlockSize usage openMegaError drive' host long (name :: args)) := by
  apply Simulates.bind_eq (requireTarget_named long called name mentions args)
  intro target
  cases target with
  | none => exact sameButNames called name _
  | some target =>
      apply Simulates.bind_eq (sameButNames called name (requireBlockSize long (name :: args)))
      intro blockSize
      cases blockSize with
      | none => exact sameButNames called name _
      | some blockSize =>
          apply Simulates.bind_eq (sameButNames called name _)
          intro _
          apply Simulates.bind_eq (sameButNames called name
            (openController host ((name :: args).getD 1 "") "open dev" openMegaError))
          intro opened
          cases opened with
          | none => exact sameButNames called name _
          | some opened =>
              obtain ⟨fdMega, busNo⟩ := opened
              exact drives fdMega busNo target blockSize

/-- An applet under one name is its tool under another. -/
theorem Applet.main_named (applet : Applet) (args : List String) :
    Simulates Eq (SameButNames called name) Eq
      (applet.main errnoOf host long rounds (called :: args))
      (applet.standalone errnoOf host long rounds (name :: args)) := by
  have exits : ∀ status status' : Int, status = status' → some status = some status' :=
    fun _ _ => congrArg some
  cases applet with
  | inquiry =>
      apply Simulates.map _ exits
      apply Simulates.bind_eq (requireTarget_named long called name mentionsName_inquiry args)
      intro target
      cases target with
      | none => exact sameButNames called name _
      | some target => exact sameButNames called name _
  | format512 =>
      apply Simulates.map _ exits
      apply Simulates.bind_eq (requireTarget_named long called name mentionsName_format512 args)
      intro target
      cases target with
      | none => exact sameButNames called name _
      | some target => exact sameButNames called name _
  | modesel =>
      apply Simulates.map _ exits
      exact withBlockSize_named host long called name mentionsName_modesel _
        (fun _ _ _ _ => sameButNames called name _) args
  | formatImmed =>
      apply Simulates.map _ exits
      exact withBlockSize_named host long called name mentionsName_formatImmed _
        (fun _ _ _ _ => formatImmedDrive_named host called name ..) args
  | progress =>
      apply Simulates.bind_eq (requireTarget_named long called name mentionsName_progress args)
      intro target
      cases target with
      | none => exact sameButNames called name _
      | some target => exact sameButNames called name _
  | checkSize => exact sameButNames called name _

/-- Without any argument, not even a name, an applet sees an empty name. -/
theorem Applet.main_nil (applet : Applet) :
    applet.main errnoOf host long rounds [] = applet.main errnoOf host long rounds [""] := by
  cases applet with
  | _ => rfl

/-- **The binary is its tools.** A command line either runs an applet, and then does
what the tool of that applet does under any name, or it runs nothing. -/
theorem megaraidMain_simulates (argv : List String) :
    (∃ (applet : Applet) (called : List String), called <:+ argv ∧
      Runs argv ⟨applet, called.length, called⟩ ∧
      ∀ name, Simulates Eq (SameButNames (called.getD 0 "") name) Eq
        (megaraidMain errnoOf host long rounds argv)
        (applet.standalone errnoOf host long rounds (name :: called.drop 1))) ∨
    RunsNothing argv := by
  rcases runs_or_nothing argv with ⟨applet, called, suffix, runs⟩ | nothing
  · refine Or.inl ⟨applet, called, suffix, runs, fun name => ?_⟩
    rw [megaraidMain_of_runs errnoOf host long rounds runs]
    cases called with
    | nil =>
        rw [applet.main_nil]
        exact applet.main_named errnoOf host long rounds "" name []
    | cons called args => exact applet.main_named errnoOf host long rounds called name args
  · exact Or.inr nothing

end Names

end Megaraid
