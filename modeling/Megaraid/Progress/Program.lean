import Megaraid.Device.Controller
import Megaraid.Progress.Exits

/-!
# mega_progress

`main` of `mega_progress.c` around its poll loop: the argument handling and the
way to the controller.
-/

namespace Megaraid

/-- What the arguments of `mega_progress` ask for. -/
structure ProgressRequest where
  device : String
  target : Int
  interval : Int
  expectedBs : UInt32
  deriving DecidableEq, Repr

def progressUsage (name : String) : Tool Unit := do
  Tool.printf "MegaRAID FORMAT UNIT progress poller\n"
  Tool.printf ("Usage: " ++ name ++
    " <block_device> <target_id> [interval_seconds] [expected_block_size]\n")
  Tool.printf "  With no interval, reports once and exits.\n"
  Tool.printf "  With an interval, polls until the format completes.\n"
  Tool.printf "  expected_block_size defaults to 512; pass 4096 if that's the target size.\n\n"
  Tool.printf "Exit status: 0 = ready at the expected block size, 2 = ready but at a\n"
  Tool.printf "             different size, 3 = not confirmed complete, 1 = error.\n"

/-- The warning about an expected block size no controller is known to accept. -/
def warnUnusualExpected (expectedBs : UInt32) : Tool Unit :=
  if isUnusualBlockSize expectedBs.toNat then
    Tool.fprintfStderr ("WARNING: " ++ decimal expectedBs.toNat ++
      " is not 512 or 4096 - those are the only sizes this repo has\n" ++
      "         confirmed a MegaRAID/PERC controller will accept (see README).\n" ++
      "         Continuing anyway; Ctrl+C now if that was a typo.\n")
  else pure ()

/-- The arguments after the target id. -/
def progressRequest (long : LongWidth) (argv : List String) (target : Int) :
    Tool (Option ProgressRequest) := do
  let interval := if argv.length > 3 then atoi long.bits (argv.getD 3 "").toList else 0
  if argv.length > 4 then
    let bs := parseExpectedBlockSize (argv.getD 4 "")
    if bs < 0 then
      Tool.fprintfStderr ("Invalid expected block size '" ++ argv.getD 4 "" ++
        "' - expected 1-4294967294\n")
      return none
    else
      warnUnusualExpected (UInt32.ofInt bs)
      return some ⟨argv.getD 1 "", target, interval, UInt32.ofInt bs⟩
  else
    return some ⟨argv.getD 1 "", target, interval, 512⟩

/-- The watch that `mega_progress` keeps once its arguments are settled: the exit
status, or `none` while the loop still runs after the given number of rounds. -/
def watchDrive (host : Host) (rounds : Nat) (request : ProgressRequest) : Tool (Option Int) := do
  match ← openController host request.device "open dev" "open megaraid" with
  | none => return some 1
  | some (fdMega, busNo) =>
      Sum.getRight? <$> pollLoop host fdMega busNo request.target request.interval
        request.expectedBs rounds ⟨(host.array .sense 96).bytes, 0⟩

/-- `main` of `mega_progress.c`, for a number of rounds of the poll loop. -/
def megaProgress (host : Host) (long : LongWidth) (rounds : Nat) (argv : List String) :
    Tool (Option Int) := do
  match ← requireTarget progressUsage long argv with
  | none => return some 1
  | some target =>
      match ← progressRequest long argv target with
      | none => return some 1
      | some request => watchDrive host rounds request

/-! ### What the arguments ask for -/

/-- The arguments name an expected block size, or leave it at 512. -/
def NamesExpected (argv : List String) : Prop :=
  argv.length > 4 → 0 ≤ parseExpectedBlockSize (argv.getD 4 "")

instance (argv : List String) : Decidable (NamesExpected argv) :=
  inferInstanceAs (Decidable (_ → _))

/-- The interval of the arguments, 0 unless one is given. -/
def intervalOf (long : LongWidth) (argv : List String) : Int :=
  if argv.length > 3 then atoi long.bits (argv.getD 3 "").toList else 0

/-- The expected block size of the arguments, 512 unless one is given. -/
def expectedOf (argv : List String) : UInt32 :=
  if argv.length > 4 then UInt32.ofInt (parseExpectedBlockSize (argv.getD 4 "")) else 512

/-- What accepted arguments ask for. -/
def requestOf (long : LongWidth) (argv : List String) : ProgressRequest :=
  ⟨argv.getD 1 "", targetOf long argv, intervalOf long argv, expectedOf argv⟩

/-- The arguments of `mega_progress` are accepted and the controller opens. -/
def ReadyToWatch (host : Host) (long : LongWidth) (argv : List String) : Prop :=
  NamesTarget long argv ∧ NamesExpected argv ∧ host.Reaches (argv.getD 1 "")

section Arguments

variable (host : Host) (long : LongWidth) (argv : List String) (driver : Stream' DriverReply)

/-- The request is handed on if the arguments name an expected size or none. -/
theorem progressRequest_value :
    (progressRequest long argv (targetOf long argv)).value driver =
      if NamesExpected argv then some (requestOf long argv) else none := by
  unfold progressRequest requestOf expectedOf intervalOf
  by_cases given : argv.length > 4
  · by_cases refused : parseExpectedBlockSize (argv.getD 4 "") < 0
    · have unnamed : ¬NamesExpected argv := fun named => absurd refused (not_lt.mpr (named given))
      simp only [if_pos given, if_pos refused, if_neg unnamed]
      rfl
    · have named : NamesExpected argv := fun _ => not_lt.mp refused
      simp only [if_pos given, if_neg refused, if_pos named]
      rfl
  · have named : NamesExpected argv := fun more => absurd more given
    simp only [if_neg given, if_pos named]
    rfl

theorem quiet_progressRequest (target : Int) : Quiet (progressRequest long argv target) := by
  refine .ite (.ite ?_ ?_) (.pure _)
  · exact .bind (.record rfl rfl) fun _ => .pure _
  · exact .bind (.ite (.record rfl rfl) (.pure _)) fun _ => .pure _

theorem quiet_progressUsage (name : String) : Quiet (progressUsage name) := by
  unfold progressUsage
  repeat refine .bind (.record rfl rfl) fun _ => ?_
  exact .record rfl rfl

/-- The poll loop of `mega_progress` on the drive that the arguments name. -/
def watchOf (rounds : Nat) : Tool (PollState ⊕ Int) :=
  pollLoop host host.node (busOf host argv) (targetOf long argv) (intervalOf long argv)
    (expectedOf argv) rounds ⟨(host.array .sense 96).bytes, 0⟩

/-- `mega_progress` starts to watch exactly when it is ready. -/
theorem megaProgress_starts (rounds : Nat) :
    Starts (megaProgress host long rounds argv) (ReadyToWatch host long argv)
      (Sum.getRight? <$> watchOf host long argv rounds) (some 1) := by
  refine .require (quiet_requireTarget _ _ quiet_progressUsage)
    (fun driver => requireTarget_value driver long argv) rfl ?_
  refine .require (quiet_progressRequest _ _ _) (progressRequest_value long argv) rfl ?_
  exact .controller rfl

end Arguments

end Megaraid
