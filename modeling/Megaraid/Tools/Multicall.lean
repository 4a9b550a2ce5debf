import Megaraid.Foundation.Basename
import Megaraid.Progress.Program
import Megaraid.Tools.Inquiry

/-!
# megaraid_tool

`main` of `megaraid_tool.c` picks one of six applets, by the name it was invoked
under or by its first argument. What the applets do is a parameter of the
dispatch (`Launch` is what it hands to an applet), so that a statement about the
choice holds whatever the chosen applet does with it.
-/

namespace Megaraid

/-! ### The table -/

/-- The entries of `applets`. -/
inductive Applet where
  | inquiry
  | format512
  | modesel
  | formatImmed
  | progress
  | checkSize
  deriving DecidableEq, Repr

namespace Applet

/-- Subcommand name. -/
def name : Applet → String
  | inquiry => "inquiry"
  | format512 => "format512"
  | modesel => "modesel"
  | formatImmed => "format_immed"
  | progress => "progress"
  | checkSize => "check_size"

def summary : Applet → String
  | inquiry => "identify a drive via SCSI INQUIRY"
  | format512 => "FORMAT UNIT at the drive's current sector size"
  | modesel => "MODE SELECT + FORMAT UNIT (blocking - SSDs only)"
  | formatImmed => "MODE SELECT + FORMAT UNIT with IMMED (background, HDD-safe)"
  | progress => "poll background FORMAT UNIT progress"
  | checkSize => "validate the MegaRAID ioctl struct layout"

/-- Name of the standalone binary. -/
def toolName : Applet → String
  | inquiry => "mega_inquiry"
  | format512 => "mega_format512"
  | modesel => "mega_modesel"
  | formatImmed => "mega_format_immed"
  | progress => "mega_progress"
  | checkSize => "check_size"

end Applet

def applets : List Applet :=
  [.inquiry, .format512, .modesel, .formatImmed, .progress, .checkSize]

/-- `find_by_name`. -/
def findByName (name : String) : Option Applet := applets.find? fun applet => name = applet.name

/-- `find_by_progname`. -/
def findByProgname (argv0 : String) : Option Applet :=
  findByName (String.ofList (stripPrefix "mega_".toList (behindLast '/' argv0.toList)))

/-! ### The dispatch -/

/-- A call of an applet's `run`. -/
structure Launch where
  applet : Applet
  argc : Int
  argv : List String
  deriving DecidableEq, Repr

/-- `%-14s`. -/
def padRight14 (s : String) : String :=
  String.ofList (s.toList ++ List.replicate (14 - s.toList.length) ' ')

/-- `usage` of `megaraid_tool.c`. -/
def megaraidUsage (prog : String) : Tool Int := do
  Tool.printf "MegaRAID 520-to-512/4096 byte sector format tools (unified binary)\n"
  Tool.printf ("Usage: " ++ prog ++ " <command> [args...]\n\n")
  Tool.printf "Commands:\n"
  applets.forM fun applet =>
    Tool.printf ("  " ++ padRight14 applet.name ++ " " ++ applet.summary ++ "\n")
  Tool.printf ("\nRun \"" ++ prog ++
    " <command>\" with no further arguments for that command's own\n")
  Tool.printf "usage/help text. Each command is also its own standalone tool (see\n"
  Tool.printf "README.md) - this binary just links the same source files together.\n"
  return 1

/-- `main` of `megaraid_tool.c`, for applets that do what `run` says. -/
def megaraidTool (run : Launch → Tool (Option Int)) (argc : Int) (argv : List String) :
    Tool (Option Int) :=
  match findByProgname (argv.getD 0 "") with
  | some applet => run ⟨applet, argc, argv⟩
  | none =>
      if argc < 2 then
        some <$> megaraidUsage (argv.getD 0 "")
      else
        match findByName (argv.getD 1 "") with
        | none => do
            Tool.fprintfStderr ("Unknown command '" ++ argv.getD 1 "" ++ "'\n\n")
            some <$> megaraidUsage (argv.getD 0 "")
        | some applet => run ⟨applet, argc - 1, argv.drop 1⟩

/-! ### The applets -/

/-- `main` of `check_size.c`, here under its name in the unified binary. -/
def checkSizeMain : Tool Int := do
  Tool.printf ("sizeof(megasas_iocpacket) = " ++ decimal packetWidths.sum ++
    " (expected 0x194 = 404)\n")
  Tool.printf ("sizeof(megasas_pthru_frame) = " ++ decimal ((packetWidths.drop 6).take 18).sum ++
    "\n")
  Tool.printf ("sizeof(iovec) = " ++ decimal ((packetWidths.drop 25).take 2).sum ++ "\n")
  Tool.printf ("offsetof sgl_off = " ++ decimal (packetWidths.take 2).sum ++ "\n")
  Tool.printf ("offsetof frame = " ++ decimal frameOffset ++ "\n")
  Tool.printf ("offsetof sgl = " ++ decimal userSglOffset ++ "\n")
  return 0

section Applets

variable (errnoOf : String → Int) (host : Host) (long : LongWidth) (rounds : Nat)

/-- The `main` that an entry of the table points to, on a well-formed `argv`. -/
def Applet.main (applet : Applet) (argv : List String) : Tool (Option Int) :=
  match applet with
  | .inquiry => some <$> megaInquiry errnoOf host long argv
  | .format512 => some <$> megaFormat512 host long argv
  | .modesel => some <$> megaModesel host long argv
  | .formatImmed => some <$> megaFormatImmed host true long argv
  | .progress => megaProgress host long rounds argv
  | .checkSize => some <$> checkSizeMain

/-- `main` of the tool itself, built without `MEGA_MULTICALL`. -/
def Applet.standalone (applet : Applet) (argv : List String) : Tool (Option Int) :=
  match applet with
  | .formatImmed => some <$> megaFormatImmed host false long argv
  | other => other.main errnoOf host long rounds argv

/-- `a->run(argc, argv)`. -/
def Launch.run (launch : Launch) : Tool (Option Int) :=
  launch.applet.main errnoOf host long rounds (launch.argv.take launch.argc.toNat)

/-- The whole binary. -/
def megaraidMain (argv : List String) : Tool (Option Int) :=
  megaraidTool (Launch.run errnoOf host long rounds) argv.length argv

end Applets

/-! ### The names -/

/-- A program path designates what is behind its last slash, with one leading
`mega_` off. -/
def Designates (prog t : String) : Prop :=
  ∃ base, LastPart '/' prog.toList base ∧ Strips "mega_".toList base t.toList

/-- The program path designates an applet. -/
def NamesApplet (prog : String) : Prop := ∃ applet : Applet, Designates prog applet.name

/-- `find_by_name` compares the whole name. -/
theorem findByName_eq_some_iff {name : String} {applet : Applet} :
    findByName name = some applet ↔ name = applet.name := by
  constructor
  · intro found
    have matched := List.find?_some found
    exact of_decide_eq_true matched
  · rintro rfl
    cases applet <;> decide

/-- A name is not found if and only if no applet has it. -/
theorem findByName_eq_none_iff {name : String} :
    findByName name = none ↔ ∀ applet : Applet, name ≠ applet.name := by
  simp only [Option.eq_none_iff_forall_ne_some, ne_eq, findByName_eq_some_iff]

/-- What a program name designates is its last part without the prefix. -/
theorem designates_iff {prog t : String} :
    Designates prog t ↔
      t = String.ofList (stripPrefix "mega_".toList (behindLast '/' prog.toList)) := by
  simp only [Designates, lastPart_iff, strips_iff, exists_eq_left']
  constructor
  · intro same
    rw [same, String.ofList_toList]
  · rintro rfl
    exact String.toList_ofList.symm

/-- `find_by_progname` looks for the name that the program path designates. -/
theorem findByProgname_eq_some_iff {prog : String} {applet : Applet} :
    findByProgname prog = some applet ↔ Designates prog applet.name := by
  rw [findByProgname, findByName_eq_some_iff, designates_iff, eq_comm]

/-- Only one `mega_` comes off. -/
example : findByProgname "/opt/mega_mega_inquiry" = none := by decide

/-- A program name is not found if and only if it names no applet. -/
theorem findByProgname_eq_none_iff {prog : String} :
    findByProgname prog = none ↔ ¬NamesApplet prog := by
  simp only [NamesApplet, not_exists, Option.eq_none_iff_forall_ne_some, ne_eq,
    findByProgname_eq_some_iff]

/-- No applet's name begins with `mega_`, so that a program path designates an
applet by its name or by that name behind one `mega_`. -/
theorem designates_name_iff {prog : String} {applet : Applet} :
    Designates prog applet.name ↔
      LastPart '/' prog.toList applet.name.toList ∨
        LastPart '/' prog.toList ("mega_" ++ applet.name).toList := by
  rw [String.toList_append]
  constructor
  · rintro ⟨base, part, strips⟩
    rcases strips.eq_or_eq with rfl | rfl
    · exact Or.inl part
    · exact Or.inr part
  · rintro (part | part)
    · refine ⟨_, part, .kept _ ?_⟩
      cases applet <;> decide
    · exact ⟨_, part, .off _⟩

/-- The tool an applet was made from, by its name alone or in a directory. -/
def InvokesTool (applet : Applet) (path : String) : Prop :=
  path = applet.toolName ∨ ∃ directory, path = directory ++ "/" ++ applet.toolName

/-- The path of a tool designates its applet. -/
theorem designates_of_invokesTool {applet : Applet} {path : String}
    (invokes : InvokesTool applet path) : Designates path applet.name := by
  have alone : LastPart '/' applet.toolName.toList applet.toolName.toList := by
    refine ⟨?_, Or.inl rfl⟩
    cases applet <;> decide
  have strips : Strips "mega_".toList applet.toolName.toList applet.name.toList := by
    rw [strips_iff]
    cases applet <;> decide
  refine ⟨applet.toolName.toList, ?_, strips⟩
  rcases invokes with rfl | ⟨directory, rfl⟩
  · exact alone
  · rw [String.append_assoc, String.toList_append, String.toList_append]
    exact alone.of_append directory.toList

/-! ### What runs -/

/-- The command line runs the applet of a launch, whatever the applets do. -/
def Runs (argv : List String) (launch : Launch) : Prop :=
  ∀ run, megaraidTool run argv.length argv = run launch

/-- The command line runs no applet: whatever the applets do, the same happens, no
command is sent, and the exit status is 1. -/
def RunsNothing (argv : List String) : Prop :=
  ∃ refusal : Tool (Option Int), (∀ run, megaraidTool run argv.length argv = refusal) ∧
    Quiet refusal ∧ ∀ driver, refusal.value driver = some 1

/-- A command line runs one launch at most. -/
theorem Runs.unique {argv : List String} {one other : Launch} (first : Runs argv one)
    (second : Runs argv other) : one = other := by
  let detect : Launch → Tool (Option Int) := fun launch =>
    pure (some (if launch = one then 0 else 1))
  have same : detect one = detect other := (first detect).symm.trans (second detect)
  have driver : Stream' DriverReply := Stream'.const ⟨0, none, [], ""⟩
  have values := congrArg (fun tool => Traced.value tool driver) same
  by_contra differs
  simp [detect, Ne.symm differs] at values

/-- Arguments that run nothing run no applet. -/
theorem RunsNothing.not_runs {argv : List String} (nothing : RunsNothing argv) (launch : Launch) :
    ¬Runs argv launch := by
  intro runs
  obtain ⟨refusal, same, _, exits⟩ := nothing
  have driver : Stream' DriverReply := Stream'.const ⟨0, none, [], ""⟩
  have value := exits driver
  rw [← same fun _ => pure (some 0), runs, Traced.value_pure] at value
  cases value

/-- Designated applets see the command line as it is. -/
theorem runs_of_designates {prog : String} {applet : Applet}
    (designates : Designates prog applet.name) (args : List String) :
    Runs (prog :: args) ⟨applet, (prog :: args).length, prog :: args⟩ := by
  intro run
  have found : findByProgname ((prog :: args).getD 0 "") = some applet :=
    findByProgname_eq_some_iff.mpr designates
  rw [megaraidTool, found]

/-- The argument count of the applet leaves out the dispatcher's name. -/
theorem argc_shifted (prog : String) (args : List String) :
    ((prog :: args).length : Int) - 1 = args.length := by
  rw [List.length_cons]
  omega

/-- Behind another program path the first argument decides. -/
theorem megaraidTool_unnamed {prog : String} (unnamed : ¬NamesApplet prog)
    (run : Launch → Tool (Option Int)) (command : String) (rest : List String) :
    megaraidTool run (prog :: command :: rest).length (prog :: command :: rest) =
      match findByName command with
      | none => do
          Tool.fprintfStderr ("Unknown command '" ++ command ++ "'\n\n")
          some <$> megaraidUsage prog
      | some applet => run ⟨applet, (command :: rest).length, command :: rest⟩ := by
  have none : findByProgname ((prog :: command :: rest).getD 0 "") = none :=
    findByProgname_eq_none_iff.mpr unnamed
  have enough : ¬((prog :: command :: rest).length : Int) < 2 := by
    rw [List.length_cons, List.length_cons]
    omega
  rw [megaraidTool, none]
  simp only [if_neg enough, argc_shifted]
  rfl

/-- The applet that the first argument names sees the command line without the
program path. -/
theorem runs_of_command {prog : String} (unnamed : ¬NamesApplet prog) (applet : Applet)
    (args : List String) :
    Runs (prog :: applet.name :: args)
      ⟨applet, (applet.name :: args).length, applet.name :: args⟩ := by
  intro run
  rw [megaraidTool_unnamed unnamed, findByName_eq_some_iff.mpr rfl]

theorem quiet_megaraidUsage (prog : String) : Quiet (megaraidUsage prog) := by
  refine .bind (.record rfl rfl) fun _ => .bind (.record rfl rfl) fun _ => ?_
  refine .bind (.record rfl rfl) fun _ => .bind (.forM (fun _ => .record rfl rfl) _) fun _ => ?_
  refine .bind (.record rfl rfl) fun _ => .bind (.record rfl rfl) fun _ => ?_
  exact .bind (.record rfl rfl) fun _ => .pure _

/-- Without an applet's name in the program path or behind it nothing runs. -/
theorem runsNothing {prog : String} {args : List String} (unnamed : ¬NamesApplet prog)
    (noCommand : ∀ (applet : Applet) rest, args ≠ applet.name :: rest) :
    RunsNothing (prog :: args) := by
  have usage : Quiet (some <$> megaraidUsage prog) := (quiet_megaraidUsage prog).map some
  cases args with
  | nil =>
      have none : findByProgname ([prog].getD 0 "") = none :=
        findByProgname_eq_none_iff.mpr unnamed
      refine ⟨some <$> megaraidUsage prog, fun run => ?_, usage, fun driver => rfl⟩
      rw [megaraidTool, none]
      rfl
  | cons command rest =>
      have unknown : findByName command = none :=
        findByName_eq_none_iff.mpr fun applet same => noCommand applet rest (by rw [same])
      refine ⟨Tool.fprintfStderr ("Unknown command '" ++ command ++ "'\n\n") >>= fun _ =>
        some <$> megaraidUsage prog, fun run => ?_, .bind (.record rfl rfl) fun _ => usage,
        fun driver => rfl⟩
      rw [megaraidTool_unnamed unnamed, unknown]

/-- An applet that sees the whole command line was picked by the program path. -/
theorem designates_of_runs {prog : String} {args : List String} {applet : Applet}
    (runs : Runs (prog :: args) ⟨applet, (prog :: args).length, prog :: args⟩) :
    Designates prog applet.name := by
  by_cases named : NamesApplet prog
  · obtain ⟨other, designates⟩ := named
    have same := runs.unique (runs_of_designates designates args)
    rw [Launch.mk.injEq] at same
    rw [same.1]
    exact designates
  by_cases command : ∃ (other : Applet) (rest : List String), args = other.name :: rest
  · obtain ⟨other, rest, rfl⟩ := command
    have same := congrArg Launch.argv (runs.unique (runs_of_command named other rest))
    exact (List.cons_ne_self _ _ same).elim
  · have noCommand : ∀ (other : Applet) rest, args ≠ other.name :: rest :=
      fun other rest same => command ⟨other, rest, same⟩
    exact ((runsNothing named noCommand).not_runs _ runs).elim

/-- What `megaraid_tool` does with a program path and the arguments behind it. -/
structure Dispatches (prog : String) (args : List String) : Prop where
  designated : ∃! t, Designates prog t
  /-- The applet of the program path runs with `argc` and `argv` unchanged. -/
  byProgname : ∀ applet : Applet, Designates prog applet.name →
    Runs (prog :: args) ⟨applet, (prog :: args).length, prog :: args⟩
  /-- Else that of the first argument runs with both shifted by one. -/
  byCommand : ¬NamesApplet prog → ∀ (applet : Applet) (rest : List String),
    args = applet.name :: rest → Runs (prog :: args) ⟨applet, (prog :: args).length - 1, args⟩
  otherwise : ¬NamesApplet prog →
    (∀ (applet : Applet) (rest : List String), args ≠ applet.name :: rest) →
    RunsNothing (prog :: args)
  /-- A tool's own path and the command of its applet run the same. -/
  dropIn : ¬NamesApplet prog → ∀ (applet : Applet) (path : String), InvokesTool applet path →
    Runs (path :: args) ⟨applet, args.length + 1, path :: args⟩ ∧
      Runs (prog :: applet.name :: args) ⟨applet, args.length + 1, applet.name :: args⟩
  /-- The program paths that pick an applet. -/
  selected : ∀ applet : Applet,
    Runs (prog :: args) ⟨applet, (prog :: args).length, prog :: args⟩ ↔
      LastPart '/' prog.toList applet.name.toList ∨
        LastPart '/' prog.toList ("mega_" ++ applet.name).toList

/-- **The dispatch of `megaraid_tool`**, for every program path and all arguments. -/
theorem megaraidTool_dispatches (prog : String) (args : List String) : Dispatches prog args where
  designated := by
    simp only [designates_iff]
    exact existsUnique_eq
  byProgname applet designates := runs_of_designates designates args
  byCommand unnamed applet rest same := by
    subst same
    rw [argc_shifted]
    exact runs_of_command unnamed applet rest
  otherwise := runsNothing
  dropIn unnamed applet path invokes := by
    constructor
    · exact runs_of_designates (designates_of_invokesTool invokes) args
    · exact runs_of_command unnamed applet args
  selected applet := by
    rw [← designates_name_iff]
    constructor
    · exact designates_of_runs
    · exact fun designates => runs_of_designates designates args

/-- A command line runs an applet on itself or on its tail, or it runs nothing and ends
in the usage text. -/
theorem runs_cases (argv : List String) :
    (∃ (applet : Applet) (called : List String), called <:+ argv ∧
      Runs argv ⟨applet, called.length, called⟩) ∨
    RunsNothing argv ∧
      ((∀ run, megaraidTool run argv.length argv = some <$> megaraidUsage (argv.getD 0 "")) ∨
      ∀ run, megaraidTool run argv.length argv = (do
        Tool.fprintfStderr ("Unknown command '" ++ argv.getD 1 "" ++ "'\n\n")
        some <$> megaraidUsage (argv.getD 0 ""))) := by
  have usage : Quiet (some <$> megaraidUsage (argv.getD 0 "")) := (quiet_megaraidUsage _).map some
  cases designated : findByProgname (argv.getD 0 "") with
  | some applet =>
      refine Or.inl ⟨applet, argv, List.suffix_rfl, fun run => ?_⟩
      rw [megaraidTool, designated]
  | none =>
      by_cases few : (argv.length : Int) < 2
      · have refused : ∀ run, megaraidTool run argv.length argv =
            some <$> megaraidUsage (argv.getD 0 "") := by
          intro run
          rw [megaraidTool, designated]
          exact if_pos few
        exact Or.inr ⟨⟨_, refused, usage, fun _ => rfl⟩, Or.inl refused⟩
      cases named : findByName (argv.getD 1 "") with
      | none =>
          have unknown : ∀ run, megaraidTool run argv.length argv = (do
              Tool.fprintfStderr ("Unknown command '" ++ argv.getD 1 "" ++ "'\n\n")
              some <$> megaraidUsage (argv.getD 0 "")) := by
            intro run
            rw [megaraidTool, designated]
            simp only [if_neg few, named]
          exact Or.inr ⟨⟨_, unknown, .bind (.record rfl rfl) fun _ => usage, fun _ => rfl⟩,
            Or.inr unknown⟩
      | some applet =>
          have argc : (argv.length : Int) - 1 = (argv.drop 1).length := by
            rw [List.length_drop]
            omega
          refine Or.inl ⟨applet, argv.drop 1, List.drop_suffix 1 argv, fun run => ?_⟩
          rw [megaraidTool, designated]
          simp only [if_neg few, named, argc]

/-- A command line runs an applet, or it runs nothing. -/
theorem runs_or_nothing (argv : List String) :
    (∃ (applet : Applet) (called : List String), called <:+ argv ∧
      Runs argv ⟨applet, called.length, called⟩) ∨ RunsNothing argv :=
  (runs_cases argv).imp_right And.left

/-! ### The whole binary -/

section Binary

variable (errnoOf : String → Int) (host : Host) (long : LongWidth) (rounds : Nat)

/-- The unified binary does what the applet that runs does. -/
theorem megaraidMain_of_runs {argv called : List String} {applet : Applet}
    (runs : Runs argv ⟨applet, called.length, called⟩) :
    megaraidMain errnoOf host long rounds argv =
      applet.main errnoOf host long rounds called := by
  rw [megaraidMain, runs, Launch.run, Int.toNat_natCast, List.take_length]

/-- Only `mega_format_immed` depends on `MEGA_MULTICALL`. -/
theorem Applet.standalone_eq_main {applet : Applet} (other : applet ≠ .formatImmed)
    (argv : List String) : applet.standalone errnoOf host long rounds argv =
      applet.main errnoOf host long rounds argv := by
  cases applet with
  | formatImmed => exact absurd rfl other
  | _ => rfl

/-- What a command line of the binary does, by `runs_cases`. -/
theorem megaraidMain_cases (argv : List String) :
    (∃ (applet : Applet) (called : List String), called <:+ argv ∧
      Runs argv ⟨applet, called.length, called⟩ ∧
      megaraidMain errnoOf host long rounds argv = applet.main errnoOf host long rounds called) ∨
    RunsNothing argv ∧
      (megaraidMain errnoOf host long rounds argv = some <$> megaraidUsage (argv.getD 0 "") ∨
      megaraidMain errnoOf host long rounds argv = (do
        Tool.fprintfStderr ("Unknown command '" ++ argv.getD 1 "" ++ "'\n\n")
        some <$> megaraidUsage (argv.getD 0 ""))) := by
  rcases runs_cases argv with ⟨applet, called, suffix, runs⟩ | ⟨nothing, usage | unknown⟩
  · exact Or.inl ⟨applet, called, suffix, runs, megaraidMain_of_runs errnoOf host long rounds runs⟩
  · exact Or.inr ⟨nothing, Or.inl (usage _)⟩
  · exact Or.inr ⟨nothing, Or.inr (unknown _)⟩

end Binary

end Megaraid
