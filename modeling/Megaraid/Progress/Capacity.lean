import Mathlib.Data.List.GetD
import Megaraid.Progress.Round

/-!
# The READ CAPACITY phase

What `mega_progress` does once nothing is in progress, for each sequence of
answers to its attempts. The first attempt that succeeds and brings a block size
decides the exit status and the lines printed; what earlier attempts left in
`last_lba` and `bs` has no part in them.
-/

namespace Megaraid

open Traced (Emits)

/-- The line about a sense key other than NO SENSE. -/
def senseLines (out : SenseOut) : List String :=
  if out.senseKey ≠ 0x00 then
    ["sense key=0x" ++ hex out.senseKey ++ " ASC=0x" ++ hex02 out.asc.toNat ++ " ASCQ=0x" ++
      hex02 out.ascq.toNat ++ " (no format in progress)\n"]
  else []

/-- The line about three failed attempts. -/
def exhaustedLine : String :=
  "No format in progress, but READ CAPACITY failed " ++ decimal readCapTries ++
    " times - drive not ready.\n"

/-- The lines about a last block and a block size, with the block count as an
exact integer. -/
def capacityLines (host : Host) (expected lastLba blockSize : Nat) : List String :=
  ["Drive ready: block size " ++ decimal blockSize ++ " bytes",
    if lastLba = 0xFFFFFFFF then ", capacity exceeds READ CAPACITY(10) range\n"
    else ", " ++ decimal (lastLba + 1 : Nat) ++ " blocks (" ++
      host.terabytes (UInt32.ofNat lastLba) (UInt32.ofNat blockSize) ++ " TB)\n"] ++
  if blockSize = expected then []
  else ["NOTE: block size is " ++ decimal blockSize ++ ", not " ++ decimal expected ++
    " - the reformat has not taken effect.\n"]

section Phase

variable (host : Host) (fd bus target : Int) (expectedBs : UInt32) (out : SenseOut)
  (driver : Stream' DriverReply)

/-- The attempt that the driver's answer of a number belongs to. -/
def attemptAt (n : Nat) : Command := readCapacity host fd bus target (driver.get n)

/-- The READ CAPACITY phase, for the driver's answers to its attempts. -/
structure CapacityDecision : Prop where
  /-- An attempt's buffer is what the driver wrote to it, and zeros. -/
  buffer : ∀ n, (attemptAt host fd bus target driver n).received =
    (driver.get n).written.take 8 ++ List.replicate (8 - (driver.get n).written.length) 0
  /-- The first attempt that brings a capacity ends the phase and decides it. -/
  reported : ∀ n < readCapTries,
    (∀ m < n, ¬(attemptAt host fd bus target driver m).ReportsCapacity) →
    (attemptAt host fd bus target driver n).ReportsCapacity →
    commands ((idlePoll host fd bus target expectedBs out).events driver) =
        (List.range (n + 1)).map (attemptAt host fd bus target driver) ∧
      (idlePoll host fd bus target expectedBs out).value driver =
        (if (attemptAt host fd bus target driver n).blockSize = expectedBs.toNat then 0 else 2) ∧
      printed ((idlePoll host fd bus target expectedBs out).events driver) =
        senseLines out ++ capacityLines host expectedBs.toNat
          (attemptAt host fd bus target driver n).lastLba
          (attemptAt host fd bus target driver n).blockSize
  /-- The block count that is printed fits 32 bits. -/
  count : ∀ n, (attemptAt host fd bus target driver n).lastLba ≠ 0xFFFFFFFF →
    1 ≤ (attemptAt host fd bus target driver n).lastLba + 1 ∧
      (attemptAt host fd bus target driver n).lastLba + 1 ≤ 2 ^ 32 - 1
  /-- Three failures are all that is reported, with status 1. -/
  exhausted : (∀ n < readCapTries, ¬(attemptAt host fd bus target driver n).ReportsCapacity) →
    commands ((idlePoll host fd bus target expectedBs out).events driver) =
        (List.range readCapTries).map (attemptAt host fd bus target driver) ∧
      (idlePoll host fd bus target expectedBs out).value driver = 1 ∧
      printed ((idlePoll host fd bus target expectedBs out).events driver) =
        senseLines out ++ [exhaustedLine]

end Phase

/-! ### The attempts -/

section Attempts

variable (host : Host) (fd bus target : Int) (left : Nat) (cap : CapacityOut)

/-- What an attempt receives: the bytes written, with zeros behind them. -/
theorem received_attemptAt (driver : Stream' DriverReply) (n : Nat) :
    (attemptAt host fd bus target driver n).received =
      (driver.get n).written.take 8 ++
        List.replicate (8 - (driver.get n).written.length) 0 := by
  have received := received_sentCommand fd bus target readCapacityCdb 10 (host.array .cap 8).clear 8
    mfiFrameDirRead (driver.get n) (by decide)
  refine received.trans (List.ext_getElem ?_ fun i below _ => ?_)
  · simp only [Vector.length_toList, List.length_append, List.length_take, List.length_replicate]
    omega
  · rw [Vector.length_toList] at below
    rw [Vector.getElem_toList, getElem_transfer _ _ _ below, Buffer.clear, Vector.getElem_replicate]
    by_cases written : i < ((driver.get n).written.take 8).length
    · rw [List.getElem_append_left written]
      exact List.getD_eq_getElem _ _ written
    · rw [List.getElem_append_right (Nat.not_lt.mp written), List.getElem_replicate]
      exact List.getD_eq_default _ _ (Nat.not_lt.mp written)

/-- A last logical block address has 32 bits. -/
theorem lastLba_lt (command : Command) : command.lastLba < 2 ^ 32 := by
  have a := (command.received.getD 0 0).toNat_lt
  have b := (command.received.getD 1 0).toNat_lt
  have c := (command.received.getD 2 0).toNat_lt
  have d := (command.received.getD 3 0).toNat_lt
  simp only [Command.lastLba, bigEndian, List.foldl_cons, List.foldl_nil]
  omega

section Step

variable (driver : Stream' DriverReply)

/-- An attempt that brings a capacity ends the attempts. -/
theorem readCapacityRetries_stop
    (reports : (attemptAt host fd bus target driver 0).ReportsCapacity) :
    commands ((readCapacityRetries host fd bus target (left + 1) cap).events driver) =
      [attemptAt host fd bus target driver 0] ∧
    ∃ found, (readCapacityRetries host fd bus target (left + 1) cap).value driver = (0, found) ∧
      found.lastLba.toNat = (attemptAt host fd bus target driver 0).lastLba ∧
      found.blockSize.toNat = (attemptAt host fd bus target driver 0).blockSize := by
  rw [readCapacityRetries_succ_commands, readCapacityRetries_succ_value]
  rcases readCapacity10_value host fd bus target cap driver with
    ⟨succeeded, _, lastLba, blockSize⟩ | ⟨_, refused⟩
  · simp only [succeeded, if_true]
    exact ⟨rfl, _, Prod.ext succeeded rfl, lastLba, blockSize⟩
  · exact absurd reports refused

/-- Any other attempt is followed by the rest, whatever it left in the outputs. -/
theorem readCapacityRetries_next
    (refused : ¬(attemptAt host fd bus target driver 0).ReportsCapacity) :
    ∃ kept, commands ((readCapacityRetries host fd bus target (left + 1) cap).events driver) =
        attemptAt host fd bus target driver 0 ::
          commands ((readCapacityRetries host fd bus target left kept).events driver.tail) ∧
      (readCapacityRetries host fd bus target (left + 1) cap).value driver =
        (readCapacityRetries host fd bus target left kept).value driver.tail := by
  rw [readCapacityRetries_succ_commands, readCapacityRetries_succ_value]
  rcases readCapacity10_value host fd bus target cap driver with ⟨_, reports, _⟩ | ⟨failed, _⟩
  · exact absurd reports refused
  · simp only [failed, show ¬(-1 : Int) = 0 by decide, if_false]
    exact ⟨_, rfl, rfl⟩

end Step

/-- The first attempt and the later ones are the attempts. -/
theorem attemptAt_cons (driver : Stream' DriverReply) (count : Nat) :
    attemptAt host fd bus target driver 0 ::
        (List.range count).map (attemptAt host fd bus target driver.tail) =
      (List.range (count + 1)).map (attemptAt host fd bus target driver) := by
  rw [List.range_succ_eq_map, List.map_cons, List.map_map]
  rfl

/-- The attempts up to the first one that brings a capacity. -/
theorem readCapacityRetries_reported (driver : Stream' DriverReply) {n : Nat} (few : n < left)
    (refused : ∀ m < n, ¬(attemptAt host fd bus target driver m).ReportsCapacity)
    (reports : (attemptAt host fd bus target driver n).ReportsCapacity) :
    commands ((readCapacityRetries host fd bus target left cap).events driver) =
      (List.range (n + 1)).map (attemptAt host fd bus target driver) ∧
    ∃ found, (readCapacityRetries host fd bus target left cap).value driver = (0, found) ∧
      found.lastLba.toNat = (attemptAt host fd bus target driver n).lastLba ∧
      found.blockSize.toNat = (attemptAt host fd bus target driver n).blockSize := by
  obtain ⟨left, rfl⟩ := Nat.exists_eq_add_one_of_ne_zero (Nat.ne_zero_of_lt few)
  induction n generalizing left cap driver with
  | zero => exact readCapacityRetries_stop host fd bus target left cap driver reports
  | succ n ih =>
      obtain ⟨kept, issued, value⟩ := readCapacityRetries_next host fd bus target left cap driver
        (refused 0 (Nat.succ_pos n))
      obtain ⟨rest, rfl⟩ := Nat.exists_eq_add_one_of_ne_zero
        (Nat.ne_zero_of_lt (Nat.lt_of_succ_lt_succ few))
      obtain ⟨later, found⟩ := ih kept driver.tail
        (fun m before => refused (m + 1) (Nat.succ_lt_succ before)) reports rest
        (Nat.lt_of_succ_lt_succ few)
      rw [issued, value, later, attemptAt_cons]
      exact ⟨rfl, found⟩

/-- If every attempt fails, all of them are made and -1 is returned. -/
theorem readCapacityRetries_exhausted (driver : Stream' DriverReply)
    (refused : ∀ n < left, ¬(attemptAt host fd bus target driver n).ReportsCapacity) :
    commands ((readCapacityRetries host fd bus target left cap).events driver) =
      (List.range left).map (attemptAt host fd bus target driver) ∧
    ((readCapacityRetries host fd bus target left cap).value driver).1 = -1 := by
  induction left generalizing cap driver with
  | zero => exact ⟨rfl, rfl⟩
  | succ left ih =>
      obtain ⟨kept, issued, value⟩ := readCapacityRetries_next host fd bus target left cap driver
        (refused 0 (Nat.succ_pos left))
      obtain ⟨later, failed⟩ := ih kept driver.tail fun n before =>
        refused (n + 1) (Nat.succ_lt_succ before)
      rw [issued, value, later, attemptAt_cons]
      exact ⟨rfl, failed⟩

/-! ### What is printed -/

/-- A part without texts prints nothing. -/
theorem printed_of_emits {α : Type} {part : Tool α} (silent : Emits (·.stdout? = none) part)
    (driver : Stream' DriverReply) : printed (part.events driver) = [] :=
  List.filterMap_eq_nil_iff.mpr (silent.holds driver)

/-- A command without a name prints nothing. -/
theorem sendCmd_silent (cdb : List UInt8) (cdblen : Int) {n : Nat} (data : Buffer n)
    (len dir : Int) :
    Emits (·.stdout? = none) (sendCmd fd bus target cdb cdblen data len dir none) := by
  refine .bind (.interact fun _ => rfl) fun reply => .ite ?_ ?_
  · exact .bind (.pure _) fun _ => .pure _
  · exact .bind (.pure _) fun _ => .pure _

/-- The READ CAPACITY attempts print nothing. -/
theorem readCapacityRetries_silent :
    Emits (·.stdout? = none) (readCapacityRetries host fd bus target left cap) := by
  induction left generalizing cap with
  | zero => exact .pure _
  | succ left ih =>
      refine .bind ?_ fun (capOk, cap) => .ite (.pure _) ?_
      · exact .bind (sendCmd_silent ..) fun _ => .ite (.pure _) (.ite (.pure _) (.pure _))
      · exact .bind (.ite (.record rfl) (.pure _)) fun _ => ih cap

end Attempts

section Report

variable (host : Host) (fd bus target : Int) (expectedBs : UInt32) (out : SenseOut)
  (cap : CapacityOut) (driver : Stream' DriverReply)

/-- The block count is printed without wrapping round. -/
theorem reportReady_printed :
    printed ((reportReady host fd expectedBs cap).events driver) =
      capacityLines host expectedBs.toNat cap.lastLba.toNat cap.blockSize.toNat := by
  have saturated : cap.lastLba = 0xFFFFFFFF ↔ cap.lastLba.toNat = 0xFFFFFFFF := by
    rw [← UInt32.toNat_inj]
    rfl
  have exact : cap.lastLba.toNat ≠ 0xFFFFFFFF →
      (cap.lastLba + 1).toNat = cap.lastLba.toNat + 1 := by
    intro below
    have bound := cap.lastLba.toNat_lt
    rw [UInt32.toNat_add, UInt32.toNat_one]
    omega
  have different : checkExpectedBlockSize cap.blockSize expectedBs ≠ 0 ↔
      ¬cap.blockSize.toNat = expectedBs.toNat := by
    unfold checkExpectedBlockSize
    rw [UInt32.toNat_inj]
    split <;> simp_all
  by_cases full : cap.lastLba.toNat = 0xFFFFFFFF
  · simp [reportReady, capacityLines, saturated, different, full, apply_ite printed]
  · simp [reportReady, capacityLines, saturated, different, full, exact full, apply_ite printed]

/-- What an idle poll prints depends on its attempts only. -/
theorem idlePoll_printed :
    printed ((idlePoll host fd bus target expectedBs out).events driver) =
      let result := (readCapacityRetries host fd bus target readCapTries ⟨0, 0⟩).value driver
      senseLines out ++ if result.1 ≠ 0 then [exhaustedLine]
        else capacityLines host expectedBs.toNat result.2.lastLba.toNat
          result.2.blockSize.toNat := by
  have silent := printed_of_emits
    (readCapacityRetries_silent host fd bus target readCapTries ⟨0, 0⟩)
  have sense : printed ((if out.senseKey ≠ 0x00 then
      Tool.printf ("sense key=0x" ++ hex out.senseKey ++ " ASC=0x" ++ hex02 out.asc.toNat ++
        " ASCQ=0x" ++ hex02 out.ascq.toNat ++ " (no format in progress)\n")
      else pure ()).events driver) = senseLines out := by
    unfold senseLines
    split <;> rfl
  have exhausted : "No format in progress, but READ CAPACITY failed " ++ decimal readCapTries ++
      " times - drive not ready.\n" = exhaustedLine := rfl
  have world : (if out.senseKey ≠ 0x00 then
      Tool.printf ("sense key=0x" ++ hex out.senseKey ++ " ASC=0x" ++ hex02 out.asc.toNat ++
        " ASCQ=0x" ++ hex02 out.ascq.toNat ++ " (no format in progress)\n")
      else pure ()).world driver = driver := by
    split <;> rfl
  rw [idlePoll, Traced.events_bind, printed_append, sense, world, Traced.events_bind,
    printed_append, silent, List.nil_append, exhausted]
  generalize (readCapacityRetries host fd bus target readCapTries ⟨0, 0⟩).value driver = result
  generalize (readCapacityRetries host fd bus target readCapTries ⟨0, 0⟩).world driver = rest
  obtain ⟨capOk, cap⟩ := result
  by_cases failed : capOk ≠ 0
  · simp only [if_pos failed]
    rfl
  · simp only [if_neg failed, reportReady_printed]

/-- **The READ CAPACITY phase.** -/
theorem idlePoll_decides : CapacityDecision host fd bus target expectedBs out driver where
  buffer := received_attemptAt host fd bus target driver
  reported n few refused reports := by
    obtain ⟨issued, found, value, lastLba, blockSize⟩ :=
      readCapacityRetries_reported host fd bus target readCapTries ⟨0, 0⟩ driver few refused reports
    rw [idlePoll_commands, idlePoll_value, idlePoll_printed, value]
    refine ⟨issued, ?_, ?_⟩
    · rw [if_neg (not_not.mpr rfl), checkExpectedBlockSize_eq blockSize]
    · change senseLines out ++ (if ¬(0 : Int) = 0 then [exhaustedLine]
        else capacityLines host expectedBs.toNat found.lastLba.toNat found.blockSize.toNat) = _
      rw [if_neg (not_not.mpr rfl), lastLba, blockSize]
  count n below := by
    have bound := lastLba_lt (attemptAt host fd bus target driver n)
    omega
  exhausted refused := by
    obtain ⟨issued, failed⟩ :=
      readCapacityRetries_exhausted host fd bus target readCapTries ⟨0, 0⟩ driver refused
    have nonzero : ((readCapacityRetries host fd bus target readCapTries ⟨0, 0⟩).value driver).1 ≠
        0 := by
      rw [failed]
      decide
    rw [idlePoll_commands, idlePoll_value, idlePoll_printed]
    exact ⟨issued, if_pos nonzero, congrArg _ (if_pos nonzero)⟩

end Report

end Megaraid
