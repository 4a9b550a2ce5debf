import Megaraid.Progress.Descriptors

/-!
# The completion decision

`parse_sense` followed by `classify`, on raw bytes. Everything the decision
depends on is the visible ASC/ASCQ pair, the sense key, and whether a progress
indication is visible; both sense formats give the same verdict on the same
information.
-/

namespace Megaraid

/-- The sense key in the header. -/
def headerKey (sense : Nat → UInt8) : UInt8 :=
  if FixedFormat sense then sense 2 &&& 0x0F else sense 1 &&& 0x0F

/-- The ASC/ASCQ pair visible below the declared length. -/
def visiblePair (sense : Nat → UInt8) (len : Nat) : UInt8 × UInt8 :=
  if FixedFormat sense then
    (if 12 < visibleLength sense len then sense 12 else 0,
      if 13 < visibleLength sense len then sense 13 else 0)
  else (sense 2, sense 3)

/-- A progress indication is visible below the declared length. -/
def ProgressVisible (sense : Nat → UInt8) (len : Nat) : Prop :=
  if FixedFormat sense then 17 < visibleLength sense len ∧ sense 15 &&& 0x80 ≠ 0
  else ∃ record ∈ descriptors sense len, record.HasSksv ∨ record.IsAnotherProgress

/-- Fixed-format data give a progress if and only if its field is visible with SKSV set. -/
theorem fixedProgress_nonneg_iff (sense : Nat → UInt8) (valid : Nat) :
    0 ≤ fixedProgress sense valid ↔ 17 < valid ∧ sense 15 &&& 0x80 ≠ 0 := by
  unfold fixedProgress
  split
  · rename_i shown
    exact ⟨fun _ => shown, fun _ => Int.natCast_nonneg _⟩
  · rename_i hidden
    exact ⟨fun nonneg => absurd nonneg (by decide), fun shown => absurd shown hidden⟩

/-- A descriptor list gives a progress if and only if one of its records carries one. -/
theorem listProgress_nonneg_iff (records : List Record) :
    0 ≤ listProgress records ↔
      ∃ record ∈ records, record.HasSksv ∨ record.IsAnotherProgress := by
  unfold listProgress
  cases last : (records.filter Record.HasSksv).getLast? with
  | some record =>
      have member := List.mem_of_getLast? last
      rw [List.mem_filter, decide_eq_true_eq] at member
      exact ⟨fun _ => ⟨record, member.1, Or.inl member.2⟩, fun _ => Int.natCast_nonneg _⟩
  | none =>
      have without : ∀ record ∈ records, ¬record.HasSksv := by
        rw [List.getLast?_eq_none_iff, List.filter_eq_nil_iff] at last
        simpa only [decide_eq_true_eq] using last
      cases first : records.find? Record.IsAnotherProgress with
      | some record =>
          have shown : record.IsAnotherProgress := by simpa using List.find?_some first
          exact ⟨fun _ => ⟨record, List.mem_of_find?_eq_some first, Or.inr shown⟩,
            fun _ => Int.natCast_nonneg _⟩
      | none =>
          simp only [List.find?_eq_none, decide_eq_true_eq] at first
          refine ⟨fun nonneg => absurd nonneg (by decide), ?_⟩
          rintro ⟨record, member, sksv | another⟩
          · exact absurd sksv (without record member)
          · exact absurd another (first record member)

/-- The gate lets a progress pass for two sense keys only. -/
theorem gatedProgress_nonneg_iff (senseKey : UInt8) (prog : Int) :
    0 ≤ gatedProgress senseKey prog ↔ 0 ≤ prog ∧ (senseKey = 0x00 ∨ senseKey = 0x02) := by
  unfold gatedProgress
  split
  · rename_i passed
    exact ⟨fun _ => passed, fun _ => passed.1⟩
  · rename_i blocked
    exact ⟨fun nonneg => absurd nonneg (by decide), fun passed => absurd passed blocked⟩

/-- What a successful decode hands to `classify`. -/
theorem parseSense_decoded {sense : Nat → UInt8} {len : Nat} {out : SenseOut}
    (decoded : (parseSense sense len out).1 = 0) :
    ∃ prog, (0 ≤ prog ↔ ProgressVisible sense len) ∧
      (parseSense sense len out).2 = ⟨headerKey sense, (visiblePair sense len).1,
        (visiblePair sense len).2, gatedProgress (headerKey sense) prog⟩ := by
  by_cases refused : len < 8 ∨ ¬FixedFormat sense ∧ ¬DescriptorFormat sense
  · rw [parseSense_refused sense len out refused] at decoded
    cases decoded
  · simp only [not_or, Nat.not_lt, not_and_or, not_not] at refused
    obtain ⟨long, format⟩ := refused
    unfold headerKey visiblePair ProgressVisible
    by_cases fixed : FixedFormat sense
    · simp only [if_pos fixed]
      exact ⟨_, fixedProgress_nonneg_iff _ _, by rw [parseSense_fixed out long fixed]⟩
    · simp only [if_neg fixed]
      exact ⟨_, listProgress_nonneg_iff _,
        by rw [parseSense_descriptor out long (format.resolve_left fixed)]⟩

/-- FORMATTING needs 04/04 and nothing else. -/
theorem classify_eq_formatting_iff (senseKey asc ascq : UInt8) (progress : Int) :
    classify senseKey asc ascq progress = .formatting ↔ asc = 0x04 ∧ ascq = 0x04 := by
  unfold classify
  split_ifs <;> simp_all

/-- BACKGROUND needs a progress, another key than NOT READY and another pair than 04/04. -/
theorem classify_eq_backgroundOp_iff (senseKey asc ascq : UInt8) (progress : Int) :
    classify senseKey asc ascq progress = .backgroundOp ↔
      ¬(asc = 0x04 ∧ ascq = 0x04) ∧ senseKey ≠ 0x02 ∧ 0 ≤ progress := by
  unfold classify
  split_ifs <;> simp_all

/-- IDLE is what remains once the other four states are ruled out. -/
theorem classify_eq_idle_iff (senseKey asc ascq : UInt8) (progress : Int) :
    classify senseKey asc ascq progress = .idle ↔
      ¬(asc = 0x04 ∧ ascq = 0x04) ∧ senseKey ≠ 0x02 ∧ ¬0 ≤ progress ∧ senseKey ≠ 0x06 := by
  unfold classify
  split_ifs <;> simp_all

/-- A decoded reply means IDLE in exactly these cases. -/
theorem state_eq_idle_iff {sense : Nat → UInt8} {len : Nat} {out : SenseOut}
    (decoded : (parseSense sense len out).1 = 0) :
    (parseSense sense len out).2.state = .idle ↔
      visiblePair sense len ≠ (0x04, 0x04) ∧ headerKey sense ≠ 0x02 ∧ headerKey sense ≠ 0x06 ∧
        ¬(headerKey sense = 0x00 ∧ ProgressVisible sense len) := by
  obtain ⟨prog, visible, fields⟩ := parseSense_decoded decoded
  rw [fields, SenseOut.state, Ne, Prod.ext_iff, classify_eq_idle_iff, gatedProgress_nonneg_iff,
    visible]
  tauto

/-- A decoded reply means FORMATTING if and only if 04/04 is visible. -/
theorem state_eq_formatting_iff {sense : Nat → UInt8} {len : Nat} {out : SenseOut}
    (decoded : (parseSense sense len out).1 = 0) :
    (parseSense sense len out).2.state = .formatting ↔ visiblePair sense len = (0x04, 0x04) := by
  obtain ⟨prog, _, fields⟩ := parseSense_decoded decoded
  rw [fields, SenseOut.state, classify_eq_formatting_iff, Prod.ext_iff]

/-- **The completion decision on raw bytes.** A decoded reply counts as idle
exactly when no visible byte of it speaks of a running operation, of a unit
that is not ready, or of a unit attention. -/
theorem state_parseSense {sense : Nat → UInt8} {len : Nat} {out : SenseOut}
    (decoded : (parseSense sense len out).1 = 0) :
    ((parseSense sense len out).2.state = .idle ↔
      visiblePair sense len ≠ (0x04, 0x04) ∧ headerKey sense ≠ 0x02 ∧ headerKey sense ≠ 0x06 ∧
        ¬(headerKey sense = 0x00 ∧ ProgressVisible sense len)) ∧
    ((parseSense sense len out).2.state = .formatting ↔ visiblePair sense len = (0x04, 0x04)) ∧
    ((parseSense sense len out).2.state = .backgroundOp → headerKey sense = 0x00) := by
  refine ⟨state_eq_idle_iff decoded, state_eq_formatting_iff decoded, fun background => ?_⟩
  obtain ⟨prog, _, fields⟩ := parseSense_decoded decoded
  rw [fields, SenseOut.state, classify_eq_backgroundOp_iff, gatedProgress_nonneg_iff]
    at background
  tauto

/-- A fixed-format NOT READY reply with FORMAT IN PROGRESS and a quarter of the progress. -/
def formattingReply : Nat → UInt8 :=
  ([0x70, 0, 0x02, 0, 0, 0, 0, 0x0A, 0, 0, 0, 0, 0x04, 0x04, 0, 0x80, 0x40, 0x00].getD · 0)

/-- The decision on a reply whose pair and progress are visible. -/
theorem state_parseSense_formatting :
    (parseSense formattingReply 96 ⟨0, 0, 0, -1⟩).2.state = .formatting ∧
    (parseSense formattingReply 96 ⟨0, 0, 0, -1⟩).2.state ≠ .idle ∧
    (parseSense formattingReply 96 ⟨0, 0, 0, -1⟩).2.progress = 0x4000 := by
  have decoded : (parseSense formattingReply 96 ⟨0, 0, 0, -1⟩).1 = 0 := by decide
  obtain ⟨idle, formatting, _⟩ := state_parseSense decoded
  have pair : visiblePair formattingReply 96 = (0x04, 0x04) := by decide
  exact ⟨formatting.mpr pair, fun done => (idle.mp done).1 pair, by decide⟩

/-! ### Another progress indication -/

/-- Descriptors of another progress indication that report FORMAT IN PROGRESS. -/
def Record.ReportsFormat (record : Record) : Prop :=
  record.IsAnotherProgress ∧ record.byte 3 = 0x04 ∧ record.byte 4 = 0x04

/-- A RECOVERED ERROR header over a descriptor that reports FORMAT IN PROGRESS. -/
def recoveredWhileFormatting : Record := ⟨0x0A, [0x02, 0x04, 0x04, 0x00, 0x20, 0x00], by decide⟩

def recoveredReply : Nat → UInt8 :=
  ([0x72, 0x01, 0, 0, 0, 0, 0, 8, 0x0A, 6, 0x02, 0x04, 0x04, 0x00, 0x20, 0x00].getD · 0)

/-- The one descriptor of the recovered reply. -/
theorem descriptors_recoveredReply : descriptors recoveredReply 96 = [recoveredWhileFormatting] :=
  descriptors_of_encodeAll (by decide) (by decide) (by decide)

/-- Under a header with another sense key the progress of such a descriptor is
dropped, and the reply counts as idle. -/
theorem idle_with_reportsFormat :
    ¬∀ (sense : Nat → UInt8) (len : Nat) (out : SenseOut), 8 ≤ len → DescriptorFormat sense →
      (∃ record ∈ descriptors sense len, record.ReportsFormat) →
      (parseSense sense len out).2.state ≠ .idle := by
  intro noHidden
  have format : DescriptorFormat recoveredReply := by decide
  apply noHidden recoveredReply 96 ⟨0, 0, 0, -1⟩ (by decide) format
  · rw [descriptors_recoveredReply]
    exact ⟨_, List.mem_singleton_self _, by decide, by decide, by decide⟩
  · rw [parseSense_descriptor _ (by decide) format, descriptors_recoveredReply]
    decide

/-- **Format in progress in a descriptor.** A reply with such a descriptor
counts as idle exactly when the header's sense key gates its progress away and
the header does not say 04/04 itself. -/
theorem state_idle_iff_of_reportsFormat {sense : Nat → UInt8} {len : Nat} (out : SenseOut)
    (long : 8 ≤ len) (format : DescriptorFormat sense)
    (reported : ∃ record ∈ descriptors sense len, record.ReportsFormat) :
    (parseSense sense len out).2.state = .idle ↔
      (sense 1 &&& 0x0F ≠ 0x00 ∧ sense 1 &&& 0x0F ≠ 0x02 ∧ sense 1 &&& 0x0F ≠ 0x06) ∧
        (sense 2, sense 3) ≠ (0x04, 0x04) := by
  have decoded : (parseSense sense len out).1 = 0 := by rw [parseSense_descriptor out long format]
  have notFixed := format.not_fixed
  obtain ⟨record, member, another, _⟩ := reported
  have visible : ProgressVisible sense len := by
    unfold ProgressVisible
    rw [if_neg notFixed]
    exact ⟨record, member, Or.inr another⟩
  rw [state_eq_idle_iff decoded, visiblePair, headerKey, if_neg notFixed, if_neg notFixed]
  tauto

/-- The recovered reply means IDLE, as its header and pair have it. -/
theorem state_recoveredReply :
    (parseSense recoveredReply 96 ⟨0, 0, 0, -1⟩).2.state = .idle ↔
      (recoveredReply 1 &&& 0x0F ≠ 0x00 ∧ recoveredReply 1 &&& 0x0F ≠ 0x02 ∧
        recoveredReply 1 &&& 0x0F ≠ 0x06) ∧
      (recoveredReply 2, recoveredReply 3) ≠ (0x04, 0x04) := by
  apply state_idle_iff_of_reportsFormat _ (by decide) (by decide)
  rw [descriptors_recoveredReply]
  exact ⟨_, List.mem_singleton_self _, by decide, by decide, by decide⟩

end Megaraid
