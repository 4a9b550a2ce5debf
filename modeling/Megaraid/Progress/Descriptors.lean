import Mathlib.Data.List.Induction
import Megaraid.Foundation.Records
import Megaraid.Progress.Sense

/-!
# The descriptor walk

What `parse_sense` computes, without the reads: one equation for each of its
three outcomes. In descriptor format the loop is a fold over the complete
descriptors of the list the drive declared (`walkDescriptors_eq_foldl`), and
the fold finds the last sense-key-specific descriptor with SKSV, else the first
descriptor of another progress indication (`foldl_nextProgress`).
-/

namespace Megaraid

/-- Length of the buffer as declared by the drive, bounded by its actual length. -/
def visibleLength (sense : Nat → UInt8) (len : Nat) : Nat := min len (8 + (sense 7).toNat)

/-- A reply of 8 bytes shows its header. -/
theorem eight_le_visibleLength {len : Nat} (sense : Nat → UInt8) (long : 8 ≤ len) :
    8 ≤ visibleLength sense len :=
  Nat.le_min.mpr ⟨long, Nat.le_add_right 8 _⟩

def responseCode (sense : Nat → UInt8) : UInt8 := sense 0 &&& 0x7F

def FixedFormat (sense : Nat → UInt8) : Prop :=
  responseCode sense = 0x70 ∨ responseCode sense = 0x71

def DescriptorFormat (sense : Nat → UInt8) : Prop :=
  responseCode sense = 0x72 ∨ responseCode sense = 0x73

instance (sense : Nat → UInt8) : Decidable (FixedFormat sense) :=
  inferInstanceAs (Decidable (_ ∨ _))

instance (sense : Nat → UInt8) : Decidable (DescriptorFormat sense) :=
  inferInstanceAs (Decidable (_ ∨ _))

/-- Whether the format is fixed is read off the response code. -/
theorem fixedFormat_congr {sense other : Nat → UInt8}
    (same : responseCode other = responseCode sense) : FixedFormat other ↔ FixedFormat sense := by
  rw [FixedFormat, same, FixedFormat]

/-- Whether the format has descriptors is read off the response code. -/
theorem descriptorFormat_congr {sense other : Nat → UInt8}
    (same : responseCode other = responseCode sense) :
    DescriptorFormat other ↔ DescriptorFormat sense := by
  rw [DescriptorFormat, same, DescriptorFormat]

/-- The two formats exclude each other. -/
theorem DescriptorFormat.not_fixed {sense : Nat → UInt8} (format : DescriptorFormat sense) :
    ¬FixedFormat sense := by
  unfold FixedFormat
  rcases format with code | code <;> rw [code] <;> decide

/-- The complete descriptors of the declared list. -/
def descriptors (sense : Nat → UInt8) (len : Nat) : List Record :=
  cut (window sense 8 (visibleLength sense len))

/-- A sense-key-specific descriptor with SKSV set. -/
def Record.HasSksv (record : Record) : Prop :=
  record.kind = 0x02 ∧ 7 ≤ record.totalLength ∧ record.byte 4 &&& 0x80 ≠ 0

/-- A complete descriptor of another progress indication. -/
def Record.IsAnotherProgress (record : Record) : Prop :=
  record.kind = 0x0A ∧ 8 ≤ record.totalLength

instance (record : Record) : Decidable record.HasSksv :=
  inferInstanceAs (Decidable (_ ∧ _ ∧ _))

instance (record : Record) : Decidable record.IsAnotherProgress :=
  inferInstanceAs (Decidable (_ ∧ _))

def Record.sksProgress (record : Record) : Nat := bigEndian [record.byte 5, record.byte 6]

def Record.anotherProgress (record : Record) : Nat := bigEndian [record.byte 6, record.byte 7]

/-- The progress of a sense-key-specific descriptor is not negative. -/
theorem Record.sksProgress_nonneg (record : Record) : ¬(record.sksProgress : Int) < 0 := by
  omega

/-- The progress of another progress indication is not negative. -/
theorem Record.anotherProgress_nonneg (record : Record) : ¬(record.anotherProgress : Int) < 0 := by
  omega

/-- The accumulator of the walk after one more descriptor. -/
def nextProgress (prog : Int) (record : Record) : Int :=
  if record.HasSksv then record.sksProgress
  else if record.IsAnotherProgress ∧ prog < 0 then record.anotherProgress
  else prog

/-- Progress of a descriptor list: the last one carrying SKSV, else the first
other progress indication. -/
def listProgress (records : List Record) : Int :=
  match (records.filter Record.HasSksv).getLast? with
  | some record => record.sksProgress
  | none =>
      match records.find? Record.IsAnotherProgress with
      | some record => record.anotherProgress
      | none => -1

/-- Progress of the fixed format. -/
def fixedProgress (sense : Nat → UInt8) (valid : Nat) : Int :=
  if 17 < valid ∧ sense 15 &&& 0x80 ≠ 0 then (bigEndian [sense 16, sense 17] : Nat) else -1

/-- The sense-key gate. -/
def gatedProgress (senseKey : UInt8) (prog : Int) : Int :=
  if 0 ≤ prog ∧ (senseKey = 0x00 ∨ senseKey = 0x02) then prog else -1

/-- The gate keeps the header and decides about the progress. -/
theorem gateProgress_eq (senseKey asc ascq : UInt8) (prog : Int) :
    gateProgress ⟨senseKey, asc, ascq, -1⟩ prog =
      ⟨senseKey, asc, ascq, gatedProgress senseKey prog⟩ := by
  simp only [gateProgress, gatedProgress]
  split <;> rfl

/-- Reading a buffer in memory. -/
@[simp] theorem run_readMemory (sense : Nat → UInt8) (i : Nat) :
    Id.run (readMemory sense i) = sense i := by
  rw [readMemory, Id.run_pure]

/-- The progress read from memory is the big-endian pair. -/
theorem readProgress_memory (sense : Nat → UInt8) (i : Nat) :
    Id.run (readProgress (readMemory sense) i) = (bigEndian [sense i, sense (i + 1)] : Nat) := by
  simp only [readProgress, run_readMemory, Id.run_bind, Id.run_pure, bigEndian, List.foldl_cons,
    List.foldl_nil, Nat.zero_mul, Nat.zero_add, shiftLeft_or_byte]

/-- The conjunction of two pure conditions. -/
theorem run_andM (x y : Id Bool) : Id.run (x <&&> y) = (Id.run x && Id.run y) := by
  simp only [andM, Id.run_bind]
  cases Id.run x <;> rfl

/-- One step of the loop, on a record in memory. -/
theorem readDescriptor_memory (sense : Nat → UInt8) (i : Nat) (prog : Int) :
    Id.run (readDescriptor (readMemory sense) i (2 + (sense (i + 1)).toNat) prog) =
      nextProgress prog (recordAt sense i) := by
  have length := totalLength_recordAt sense i
  have kind : (recordAt sense i).kind = sense i := rfl
  have sksv : (recordAt sense i).HasSksv ↔
      sense i = 0x02 ∧ 2 + (sense (i + 1)).toNat ≥ 7 ∧ sense (i + 4) &&& 0x80 ≠ 0 := by
    unfold Record.HasSksv
    rw [kind, length]
    refine and_congr_right fun _ => and_congr_right fun enough => ?_
    rw [byte_recordAt sense (by omega)]
  have another : (recordAt sense i).IsAnotherProgress ↔
      sense i = 0x0A ∧ 2 + (sense (i + 1)).toNat ≥ 8 := by
    unfold Record.IsAnotherProgress
    rw [kind, length]
  simp only [readDescriptor, readEq, readBit, Id.run_bind, run_andM, apply_ite Id.run,
    readProgress_memory, run_readMemory, Id.run_pure, Bool.and_eq_true, beq_iff_eq,
    decide_eq_true_eq, bne_iff_ne, nextProgress, sksv, another, and_assoc]
  split
  · rename_i found
    rw [Record.sksProgress, byte_recordAt sense (by omega), byte_recordAt sense (by omega)]
  · split
    · rename_i found
      rw [Record.anotherProgress, byte_recordAt sense (by omega),
        byte_recordAt sense (by omega)]
    · rfl

/-- The loop folds over the complete records from its index on. -/
theorem walkDescriptors_eq_foldl (sense : Nat → UInt8) (last i : Nat) (prog : Int) :
    Id.run (walkDescriptors (readMemory sense) last i prog) =
      (cut (window sense i last)).foldl nextProgress prog := by
  induction remaining : last - i using Nat.strongRecOn generalizing i prog with
  | _ _ ih =>
      rw [walkDescriptors]
      by_cases header : i + 1 < last
      · by_cases fits : i + (2 + (sense (i + 1)).toNat) ≤ last
        · rw [cut_window_step sense fits, List.foldl_cons, if_pos header, ← readDescriptor_memory]
          simp only [Id.run_bind, run_readMemory]
          rw [if_neg (by omega), Id.run_bind]
          exact ih _ (by omega) _ _ rfl
        · rw [cut_window_stop sense (Or.inr (by omega)), List.foldl_nil, if_pos header]
          simp only [Id.run_bind, run_readMemory]
          rw [if_pos (by omega), Id.run_pure]
      · rw [cut_window_stop sense (Or.inl (by omega)), List.foldl_nil, if_neg header, Id.run_pure]

/-- A record at the end is one more step of the reference. -/
theorem listProgress_append (records : List Record) (record : Record) :
    listProgress (records ++ [record]) = nextProgress (listProgress records) record := by
  by_cases sksv : record.HasSksv
  · simp [listProgress, nextProgress, sksv]
  · have kept : (records ++ [record]).filter Record.HasSksv = records.filter Record.HasSksv := by
      simp [sksv]
    rw [listProgress, kept, listProgress]
    cases (records.filter Record.HasSksv).getLast? with
    | some last => simp [nextProgress, sksv, last.sksProgress_nonneg]
    | none =>
        cases found : records.find? Record.IsAnotherProgress with
        | some first => simp [nextProgress, sksv, found, first.anotherProgress_nonneg]
        | none =>
            by_cases another : record.IsAnotherProgress <;>
              simp [nextProgress, sksv, found, another]

/-- The walk keeps the last descriptor with SKSV, else the first other progress
indication: the accumulator is the progress of the list walked so far. -/
theorem foldl_nextProgress (records : List Record) :
    records.foldl nextProgress (-1) = listProgress records := by
  induction records using List.reverseRecOn with
  | nil => rfl
  | append_singleton records record ih =>
      rw [List.foldl_append, ih, List.foldl_cons, List.foldl_nil, listProgress_append]

/-! ### The three outcomes of the decoder -/

variable (sense : Nat → UInt8) (len : Nat) (out : SenseOut)

/-- The bound read from memory is the visible length. -/
theorem readBound_memory :
    Id.run (readBound (readMemory sense) len) = visibleLength sense len := by
  simp only [readBound, visibleLength, Id.run_bind, Id.run_pure, run_readMemory]
  split <;> omega

/-- A byte that is not visible is read as zero. -/
theorem readVisible_memory (valid i : Nat) :
    Id.run (readVisible (readMemory sense) valid i) = if i < valid then sense i else 0 := by
  simp only [readVisible, apply_ite Id.run, run_readMemory, Id.run_pure, gt_iff_lt]

/-- The fixed-format progress read from memory. -/
theorem readFixedProgress_memory (valid : Nat) :
    Id.run (readFixedProgress (readMemory sense) valid) = fixedProgress sense valid := by
  simp only [readFixedProgress, readBit, Id.run_bind, run_andM, apply_ite Id.run,
    readProgress_memory, run_readMemory, Id.run_pure, Bool.and_eq_true, decide_eq_true_eq,
    bne_iff_ne, fixedProgress, gt_iff_lt]

/-- A refused reply leaves all but the progress alone. -/
theorem parseSense_refused
    (refused : len < 8 ∨ ¬FixedFormat sense ∧ ¬DescriptorFormat sense) :
    parseSense sense len out = (-1, { out with progress := -1 }) := by
  unfold parseSense parseSenseM
  by_cases short : len < 8
  · rw [if_pos short, Id.run_pure]
  · obtain ⟨fixed, descriptor⟩ := refused.resolve_left short
    unfold FixedFormat responseCode at fixed
    unfold DescriptorFormat responseCode at descriptor
    simp only [if_neg short, Id.run_bind, run_readMemory]
    rw [if_neg fixed, if_neg descriptor, Id.run_pure]

variable {sense len}

/-- A fixed-format reply, field by field. -/
theorem parseSense_fixed (long : 8 ≤ len) (format : FixedFormat sense) :
    parseSense sense len out = (0,
      ⟨sense 2 &&& 0x0F, if 12 < visibleLength sense len then sense 12 else 0,
        if 13 < visibleLength sense len then sense 13 else 0,
        gatedProgress (sense 2 &&& 0x0F) (fixedProgress sense (visibleLength sense len))⟩) := by
  unfold FixedFormat responseCode at format
  unfold parseSense parseSenseM
  simp only [if_neg (Nat.not_lt.mpr long), Id.run_bind, run_readMemory]
  rw [if_pos format]
  simp only [parseFixed, Id.run_bind, Id.run_pure, run_readMemory, readBound_memory,
    readVisible_memory, readFixedProgress_memory, gateProgress_eq]

/-- A descriptor-format reply, field by field. -/
theorem parseSense_descriptor (long : 8 ≤ len) (format : DescriptorFormat sense) :
    parseSense sense len out = (0,
      ⟨sense 1 &&& 0x0F, sense 2, sense 3,
        gatedProgress (sense 1 &&& 0x0F) (listProgress (descriptors sense len))⟩) := by
  have notFixed := format.not_fixed
  unfold FixedFormat responseCode at notFixed
  unfold DescriptorFormat responseCode at format
  unfold parseSense parseSenseM
  simp only [if_neg (Nat.not_lt.mpr long), Id.run_bind, run_readMemory]
  rw [if_neg notFixed, if_pos format]
  simp only [parseDescriptor, Id.run_bind, Id.run_pure, run_readMemory, readBound_memory,
    walkDescriptors_eq_foldl, foldl_nextProgress, gateProgress_eq, descriptors]

/-- A reply in one of the two formats is decoded. -/
theorem parseSense_recognised (long : 8 ≤ len)
    (format : FixedFormat sense ∨ DescriptorFormat sense) : (parseSense sense len out).1 = 0 := by
  rcases format with fixed | descriptor
  · rw [parseSense_fixed out long fixed]
  · rw [parseSense_descriptor out long descriptor]

/-- `parse_sense` returns 0 or -1. -/
theorem parseSense_result (sense : Nat → UInt8) (len : Nat) :
    (parseSense sense len out).1 = 0 ∨ (parseSense sense len out).1 = -1 := by
  by_cases refused : len < 8 ∨ ¬FixedFormat sense ∧ ¬DescriptorFormat sense
  · rw [parseSense_refused sense len out refused]
    exact Or.inr rfl
  · simp only [not_or, Nat.not_lt, not_and_or, not_not] at refused
    exact Or.inl (parseSense_recognised out refused.1 refused.2)

/-! ### The declared list -/

/-- The progress of a descriptor list under a sense key. -/
def referenceProgress (senseKey : UInt8) (records : List Record) : Int :=
  if senseKey ≠ 0x00 ∧ senseKey ≠ 0x02 then -1 else listProgress records

/-- The progress of a list is -1 or more. -/
theorem listProgress_lower (records : List Record) : -1 ≤ listProgress records := by
  unfold listProgress
  split
  · omega
  · split <;> omega

/-- The gate after the reference of the list is the whole reference. -/
theorem gatedProgress_listProgress (senseKey : UInt8) (records : List Record) :
    gatedProgress senseKey (listProgress records) = referenceProgress senseKey records := by
  have lower := listProgress_lower records
  unfold gatedProgress referenceProgress
  by_cases key : senseKey = 0x00 ∨ senseKey = 0x02
  · rw [if_neg (show ¬(senseKey ≠ 0x00 ∧ senseKey ≠ 0x02) by tauto)]
    by_cases found : 0 ≤ listProgress records
    · rw [if_pos ⟨found, key⟩]
    · rw [if_neg (fun passed => found passed.1)]
      omega
  · rw [if_pos (not_or.mp key), if_neg (fun passed => key passed.2)]

/-- Descriptors laid out from byte 8, with byte 7 their total length, are
recovered whatever follows them. -/
theorem descriptors_of_encodeAll {records : List Record}
    (declared : (sense 7).toNat = (encodeAll records).length)
    (inside : 8 + (encodeAll records).length ≤ len)
    (placed : ∀ i < (encodeAll records).length, sense (8 + i) = (encodeAll records).getD i 0) :
    descriptors sense len = records := by
  have bound : visibleLength sense len = 8 + (encodeAll records).length := by
    unfold visibleLength
    omega
  have cutAll := cut_encodeAll_append records []
  rw [List.append_nil, cut_nil, List.append_nil] at cutAll
  rw [descriptors, bound, window_eq_of_getD placed, cutAll]

/-- **The descriptor walk.** -/
theorem parseSense_descriptor_progress (long : 8 ≤ len) (format : DescriptorFormat sense) :
    (parseSense sense len out).1 = 0 ∧
    (parseSense sense len out).2.progress =
      referenceProgress (sense 1 &&& 0x0F) (descriptors sense len) ∧
    ∀ records : List Record, (encodeAll records).length ≤ 255 →
      8 + (encodeAll records).length ≤ len → (sense 7).toNat = (encodeAll records).length →
      (∀ i < (encodeAll records).length, sense (8 + i) = (encodeAll records).getD i 0) →
      descriptors sense len = records ∧
      ∀ prog, Id.run (walkDescriptors (readMemory sense) (visibleLength sense len) 8 prog) =
        records.foldl nextProgress prog := by
  rw [parseSense_descriptor out long format]
  refine ⟨rfl, gatedProgress_listProgress _ _, ?_⟩
  intro records _ inside declared placed
  have same := descriptors_of_encodeAll declared inside placed
  refine ⟨same, fun prog => ?_⟩
  rw [walkDescriptors_eq_foldl]
  exact congrArg (List.foldl nextProgress prog) same

/-- Information, another progress indication, and a sense-key-specific descriptor. -/
def severalDescriptors : List Record :=
  [⟨0x00, [0x80, 0, 0, 0, 0, 1], by decide⟩,
    ⟨0x0A, [0x02, 0x04, 0x04, 0x00, 0x10, 0x00], by decide⟩,
    ⟨0x02, [0, 0, 0x80, 0x33, 0x34, 0], by decide⟩]

/-- A NOT READY reply with these descriptors. -/
def severalReply : Nat → UInt8 :=
  ([0x72, 0x02, 0x04, 0x04, 0, 0, 0, 24, 0x00, 6, 0x80, 0, 0, 0, 0, 1, 0x0A, 6, 0x02, 0x04, 0x04,
    0x00, 0x10, 0x00, 0x02, 6, 0, 0, 0x80, 0x33, 0x34, 0].getD · 0)

/-- The walk over three descriptors, of which the last one sets the progress. -/
theorem parseSense_descriptor_progress_several :
    (parseSense severalReply 96 ⟨0, 0, 0, -1⟩).1 = 0 ∧
    (parseSense severalReply 96 ⟨0, 0, 0, -1⟩).2.progress = 0x3334 ∧
    descriptors severalReply 96 = severalDescriptors ∧
    ∀ prog, Id.run (walkDescriptors (readMemory severalReply) (visibleLength severalReply 96) 8
      prog) = severalDescriptors.foldl nextProgress prog := by
  obtain ⟨accepted, progress, walk⟩ := parseSense_descriptor_progress ⟨0, 0, 0, -1⟩
    (show 8 ≤ 96 by decide) (show DescriptorFormat severalReply by decide)
  obtain ⟨list, steps⟩ :=
    walk severalDescriptors (by decide) (by decide) (by decide) (by decide)
  rw [list] at progress
  exact ⟨accepted, progress, list, steps⟩

end Megaraid
