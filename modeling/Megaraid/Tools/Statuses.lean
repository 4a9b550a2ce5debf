import Megaraid.Progress.Exits
import Megaraid.Tools.Addressing
import Megaraid.Tools.Multicall

/-!
# Exit statuses

Scripts go by the exit status. A tool exits with 0 exactly if the last command it sent
is the one that decides about it, INQUIRY, FORMAT UNIT or READ CAPACITY, and that
command went well; a refused command line, an unreachable controller or a failure on
the way never looks like success.
-/

namespace Megaraid

/-- The command that decides about an applet, when it went well. -/
def Applet.Decides (argv : List String) (last : Command) : Applet → Prop
  | .inquiry => last.opcode = 0x12 ∧ last.reply.result = 0 ∧ last.reply.cmdStatus = some 0
  | .format512 | .modesel | .formatImmed => last.opcode = 0x04 ∧ last.status = 0
  | .progress =>
      last.opcode = 0x25 ∧ last.ReportsCapacity ∧ last.blockSize = (expectedOf argv).toNat
  | .checkSize => False

/-- What an exit status tells about a run. There is none while the poller still polls. -/
structure StatusTells (long : LongWidth) (rounds : Nat) (argv : List String) (applet : Applet)
    (events : List Event) (status : Option Int) : Prop where
  success : status = some 0 ↔ applet = .checkSize ∨
    ∃ last, (commands events).getLast? = some last ∧ applet.Decides argv last
  range : ∀ code, status = some code →
    code = 0 ∨ code = 1 ∨ applet = .progress ∧ (code = 2 ∨ code = 3)
  running : status = none → applet = .progress ∧ (rounds = 0 ∨ 0 < intervalOf long argv)

section Tools

variable (errnoOf : String → Int) (host : Host) (multicall : Bool) (long : LongWidth) (rounds : Nat)
  (argv : List String) (driver : Stream' DriverReply)

/-- A program with exit statuses 0 and 1 only. -/
theorem statusTells_of_binary {applet : Applet} {tool : Tool Int}
    (other : applet ≠ .checkSize)
    (success : tool.value driver = 0 ↔ ∃ last,
      (commands (tool.events driver)).getLast? = some last ∧ applet.Decides argv last)
    (range : tool.value driver = 0 ∨ tool.value driver = 1) :
    StatusTells long rounds argv applet ((some <$> tool).events driver)
      ((some <$> tool).value driver) where
  success := by
    rw [Traced.events_map, Traced.value_map, Option.some_inj, success, or_iff_right other]
  range code same := by
    rw [Traced.value_map, Option.some_inj] at same
    rw [← same]
    exact range.imp_right Or.inl
  running none := by
    rw [Traced.value_map] at none
    cases none

/-- The status of `mega_inquiry` tells how INQUIRY went. -/
theorem megaInquiry_tells :
    StatusTells long rounds argv .inquiry ((some <$> megaInquiry errnoOf host long argv).events
      driver) ((some <$> megaInquiry errnoOf host long argv).value driver) := by
  have starts := megaInquiry_starts errnoOf host long argv
  by_cases ready : ReadyToInquire host long argv
  · obtain ⟨first, _, _, value⟩ := starts.started ready driver
    rw [inquiryDrive_value] at value
    apply statusTells_of_binary
    · decide
    · rw [megaInquiry_packet ready, value]
      have opcode : (inquiryOf host long argv driver.head).opcode = 0x12 := inquiry_opcode ..
      constructor
      · intro exits
        have good : driver.head.result = 0 ∧ driver.head.cmdStatus = some 0 := by
          by_contra failed
          rw [if_neg failed] at exits
          cases exits
        exact ⟨_, rfl, opcode, good⟩
      · rintro ⟨last, sent, _, good⟩
        obtain rfl := Option.some.inj sent
        exact if_pos good
    · rw [value]
      split
      · exact Or.inl rfl
      · exact Or.inr rfl
  · obtain ⟨sent, value⟩ := starts.stopped ready driver
    apply statusTells_of_binary
    · decide
    · rw [value, sent]
      exact iff_of_false (by decide) fun ⟨_, final, _⟩ => by cases final
    · exact Or.inr value

/-- FORMAT UNIT decides about a formatter. -/
theorem FormatRun.decides {ready gate : Prop} {inquiry format : Command} {selects : List Command}
    {seconds : Nat} {events : List Event} {status : Int}
    (run : FormatRun ready gate inquiry selects format seconds events status)
    (asks : ¬inquiry.IsFormatUnit) (sets : ∀ select ∈ selects, ¬select.IsFormatUnit)
    (formats : format.IsFormatUnit) :
    (status = 0 ↔ ∃ last, (commands events).getLast? = some last ∧ last.opcode = 0x04 ∧
      last.status = 0) ∧ (status = 0 ∨ status = 1) := by
  have discipline := run.discipline asks sets formats
  refine ⟨?_, discipline.failure⟩
  rw [discipline.success]
  constructor
  · intro ⟨command, sent, formatting, accepted⟩
    obtain ⟨rfl, _, _, _, all, _⟩ := discipline.guarded command sent formatting
    refine ⟨command, ?_, formatting, accepted⟩
    rw [all, List.getLast?_concat]
  · intro ⟨last, final, formatting, accepted⟩
    exact ⟨last, List.mem_of_getLast? final, formatting, accepted⟩

/-- The status of `mega_format512` tells how its last command went. -/
theorem megaFormat512_tells :
    StatusTells long rounds argv .format512 ((some <$> megaFormat512 host long argv).events driver)
      ((some <$> megaFormat512 host long argv).value driver) := by
  have decides := (megaFormat512_run host long argv driver).decides (inquiry_harmless _ _ _ _ _)
    (List.forall_mem_nil _) (format512Sent_opcode ..)
  exact statusTells_of_binary long rounds argv driver (by decide) decides.1 decides.2

/-- The status of `mega_modesel` tells how its last command went. -/
theorem megaModesel_tells :
    StatusTells long rounds argv .modesel ((some <$> megaModesel host long argv).events driver)
      ((some <$> megaModesel host long argv).value driver) := by
  have decides := (megaModesel_run host long argv driver).decides (inquiry_harmless _ _ _ _ _)
    (modeSelectSent_harmless _ _ _ _ _ _) (modeselFormatSent_opcode ..)
  exact statusTells_of_binary long rounds argv driver (by decide) decides.1 decides.2

/-- The status of `mega_format_immed` tells how its last command went. -/
theorem megaFormatImmed_tells :
    StatusTells long rounds argv .formatImmed
      ((some <$> megaFormatImmed host multicall long argv).events driver)
      ((some <$> megaFormatImmed host multicall long argv).value driver) := by
  have decides := (megaFormatImmed_run host multicall long argv driver).decides
    (inquiry_harmless _ _ _ _ _) (modeSelectSent_harmless _ _ _ _ _ _) (formatImmedSent_opcode ..)
  exact statusTells_of_binary long rounds argv driver (by decide) decides.1 decides.2

/-- READ CAPACITY decides about the poller. -/
theorem watchOf_decides :
    (watchOf host long argv rounds).value driver = .inr 0 ↔ ∃ last,
      (commands ((watchOf host long argv rounds).events driver)).getLast? = some last ∧
      Applet.progress.Decides argv last := by
  constructor
  · intro exited
    obtain ⟨last, ends, compared⟩ := endsReady_of_exit host host.node (busOf host argv)
      (targetOf long argv) (intervalOf long argv) (expectedOf argv) _ exited (Or.inl rfl)
    obtain ⟨final, reports⟩ := ends.last_reports
    obtain ⟨_, _, _, _, _, _, _, _, capacity, _⟩ := ends
    refine ⟨last, final, capacity, reports, ?_⟩
    by_contra differs
    rw [if_neg differs] at compared
    cases compared
  · intro ⟨last, final, capacity, reports, same⟩
    have exits := exit_of_reports host host.node (busOf host argv) (targetOf long argv)
      (intervalOf long argv) (expectedOf argv) _ (List.mem_of_getLast? final) capacity reports
    rw [if_pos same] at exits
    exact exits

/-- Without an interval the poller returns. -/
theorem watchOf_running {head : PollState}
    (running : (watchOf host long argv rounds).value driver = .inl head) :
    rounds = 0 ∨ 0 < intervalOf long argv := by
  by_contra neither
  obtain ⟨some, once⟩ := not_or.mp neither
  obtain ⟨⟨status, returned⟩, same⟩ := pollLoop_once host host.node (busOf host argv)
    (targetOf long argv) (intervalOf long argv) (expectedOf argv) (host.array .sense 96).bytes
    driver (not_lt.mp once) (Nat.pos_of_ne_zero some)
  rw [watchOf, Traced.value, same] at running
  exact Sum.inl_ne_inr (running.symm.trans returned)

/-- The status of `mega_progress` tells how the watch ended. -/
theorem megaProgress_tells :
    StatusTells long rounds argv .progress ((megaProgress host long rounds argv).events driver)
      ((megaProgress host long rounds argv).value driver) := by
  have starts := megaProgress_starts host long argv rounds
  by_cases ready : ReadyToWatch host long argv
  · obtain ⟨_, _, _, value⟩ := starts.started ready driver
    rw [Traced.value_map] at value
    have sent : commands ((megaProgress host long rounds argv).events driver) =
        commands ((watchOf host long argv rounds).events driver) := by
      rw [commands_of_starts starts ready, Traced.events_map]
    constructor
    · rw [value, sent, or_iff_right Applet.noConfusion, Sum.getRight?_eq_some_iff]
      exact watchOf_decides ..
    · intro code same
      rw [value, Sum.getRight?_eq_some_iff] at same
      have statuses := statuses_of_exit host host.node (busOf host argv) (targetOf long argv)
        (intervalOf long argv) (expectedOf argv) _ same
      tauto
    · intro none
      rw [value, Sum.getRight?_eq_none_iff, Sum.isLeft_iff] at none
      obtain ⟨head, running⟩ := none
      exact ⟨rfl, watchOf_running host long rounds argv driver running⟩
  · obtain ⟨sent, value⟩ := starts.stopped ready driver
    constructor
    · rw [value, sent]
      apply iff_of_false
      · decide
      · rintro (none | ⟨_, final, _⟩)
        · cases none
        · cases final
    · intro code same
      rw [value] at same
      exact Or.inr (Or.inl (Option.some.inj same).symm)
    · intro none
      rw [value] at none
      cases none

/-- `check_size` always succeeds. -/
theorem checkSizeMain_tells :
    StatusTells long rounds argv .checkSize ((some <$> checkSizeMain).events driver)
      ((some <$> checkSizeMain).value driver) where
  success := iff_of_true rfl (Or.inl rfl)
  range _ same := Or.inl (Option.some.inj same).symm
  running none := by cases none

/-- The status of an applet tells how its last command went. -/
theorem Applet.main_tells (applet : Applet) :
    StatusTells long rounds argv applet ((applet.main errnoOf host long rounds argv).events driver)
      ((applet.main errnoOf host long rounds argv).value driver) := by
  cases applet with
  | inquiry => exact megaInquiry_tells errnoOf host long rounds argv driver
  | format512 => exact megaFormat512_tells host long rounds argv driver
  | modesel => exact megaModesel_tells host long rounds argv driver
  | formatImmed => exact megaFormatImmed_tells host true long rounds argv driver
  | progress => exact megaProgress_tells host long rounds argv driver
  | checkSize => exact checkSizeMain_tells long rounds argv driver

/-- **Exit statuses.** -/
theorem exit_statuses :
    (∀ applet : Applet, StatusTells long rounds argv applet
      ((applet.standalone errnoOf host long rounds argv).events driver)
      ((applet.standalone errnoOf host long rounds argv).value driver)) ∧
    ((∃ (applet : Applet) (called : List String), called <:+ argv ∧
        Runs argv ⟨applet, called.length, called⟩ ∧
        StatusTells long rounds called applet
          ((megaraidMain errnoOf host long rounds argv).events driver)
          ((megaraidMain errnoOf host long rounds argv).value driver)) ∨
      RunsNothing argv) := by
  refine ⟨fun applet => ?_, ?_⟩
  · by_cases immed : applet = .formatImmed
    · subst immed
      exact megaFormatImmed_tells host false long rounds argv driver
    · rw [applet.standalone_eq_main errnoOf host long rounds immed argv]
      exact applet.main_tells errnoOf host long rounds argv driver
  · rcases runs_or_nothing argv with ⟨applet, called, suffix, runs⟩ | nothing
    · refine Or.inl ⟨applet, called, suffix, runs, ?_⟩
      rw [megaraidMain_of_runs errnoOf host long rounds runs]
      exact applet.main_tells errnoOf host long rounds called driver
    · exact Or.inr nothing

end Tools

end Megaraid
