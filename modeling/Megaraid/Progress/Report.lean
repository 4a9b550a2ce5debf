import Megaraid.Progress.Decision
import Megaraid.Progress.Formats

/-!
# Sense reports

What a drive tells in its sense data: a sense key, an ASC/ASCQ pair and perhaps a
progress, which means something under NO SENSE and NOT READY only. Every reply that
`parse_sense` accepts is exactly one such report, and every report can be spelled in
each of the formats that `parse_sense` knows a progress indication in.
-/

namespace Megaraid

/-- What sense data tells. -/
@[ext] structure SenseReport where
  senseKey : UInt8
  asc : UInt8
  ascq : UInt8
  /-- How far the drive is, of 65536. -/
  progress : Option UInt16
  nibble : senseKey.toNat < 16
  meaningful : progress.isSome → senseKey = 0x00 ∨ senseKey = 0x02

namespace SenseReport

/-- The report as `parse_sense` returns it. -/
def out (report : SenseReport) : SenseOut where
  senseKey := report.senseKey
  asc := report.asc
  ascq := report.ascq
  progress := match report.progress with
    | some progress => (progress.toNat : Int)
    | none => -1

/-- Different reports decode to different outputs. -/
theorem out_injective : Function.Injective out := by
  intro report other same
  simp only [out, SenseOut.mk.injEq] at same
  obtain ⟨senseKey, asc, ascq, progress⟩ := same
  ext1
  · exact senseKey
  · exact asc
  · exact ascq
  · cases some : report.progress with
    | none =>
        cases other' : other.progress with
        | none => rfl
        | some value =>
            rw [some, other'] at progress
            simp only at progress
            omega
    | some value =>
        cases other' : other.progress with
        | none =>
            rw [some, other'] at progress
            simp only at progress
            omega
        | some value' =>
            rw [some, other'] at progress
            exact congrArg Option.some (UInt16.toNat_inj.mp (Int.ofNat.inj progress))

/-- A nibble is below 16. -/
theorem toNat_nibble_lt (byte : UInt8) : (byte &&& 0x0F).toNat < 16 := by
  rw [UInt8.toNat_and]
  exact Nat.and_lt_two_pow (n := 4) _ (by decide)

/-- The report that the output parameters of `parse_sense` stand for. -/
def ofOut (out : SenseOut) : SenseReport where
  senseKey := out.senseKey &&& 0x0F
  asc := out.asc
  ascq := out.ascq
  progress :=
    if 0 ≤ out.progress ∧ (out.senseKey &&& 0x0F = 0x00 ∨ out.senseKey &&& 0x0F = 0x02) then
      some (UInt16.ofInt out.progress)
    else none
  nibble := toNat_nibble_lt out.senseKey
  meaningful := by
    split
    · rename_i given
      exact fun _ => given.2
    · exact fun given => absurd given (by decide)

end SenseReport

/-! ### What is accepted is a report -/

/-- A big-endian pair is at most 65535. -/
theorem bigEndian_pair_le (high low : UInt8) : bigEndian [high, low] ≤ 65535 := by
  have high_lt := high.toNat_lt
  have low_lt := low.toNat_lt
  simp only [bigEndian, List.foldl_cons, List.foldl_nil]
  omega

/-- The gate raises no progress. -/
theorem gatedProgress_le (senseKey : UInt8) {prog : Int} (bound : prog ≤ 65535) :
    gatedProgress senseKey prog ≤ 65535 := by
  unfold gatedProgress
  split
  · exact bound
  · decide

/-- A progress indication is a 16-bit number. -/
theorem parseSense_progress_le (sense : Nat → UInt8) (len : Nat) (out : SenseOut) :
    (parseSense sense len out).2.progress ≤ 65535 := by
  by_cases refused : len < 8 ∨ ¬FixedFormat sense ∧ ¬DescriptorFormat sense
  · rw [parseSense_refused sense len out refused]
    exact Int.le_trans (Int.negSucc_le_zero 0) (Int.natCast_nonneg 65535)
  · simp only [not_or, Nat.not_lt, not_and_or, not_not] at refused
    rcases refused with ⟨long, fixed | descriptor⟩
    · rw [parseSense_fixed out long fixed]
      apply gatedProgress_le
      unfold fixedProgress
      split
      · exact Int.ofNat_le.mpr (bigEndian_pair_le _ _)
      · decide
    · rw [parseSense_descriptor out long descriptor]
      apply gatedProgress_le
      unfold listProgress
      split
      · exact Int.ofNat_le.mpr (bigEndian_pair_le _ _)
      · split
        · exact Int.ofNat_le.mpr (bigEndian_pair_le _ _)
        · decide

/-- The sense key is a nibble. -/
theorem headerKey_nibble (sense : Nat → UInt8) : headerKey sense &&& 0x0F = headerKey sense := by
  have masked : ∀ byte : UInt8, byte &&& 0x0F &&& 0x0F = byte &&& 0x0F := by
    intro byte
    rw [UInt8.and_assoc]
    rfl
  unfold headerKey
  split <;> exact masked _

section Accepted

variable {sense : Nat → UInt8} {len : Nat} {out : SenseOut}

/-- Nothing is lost between the output parameters and the report. -/
theorem out_ofOut (decoded : (parseSense sense len out).1 = 0) :
    (SenseReport.ofOut (parseSense sense len out).2).out = (parseSense sense len out).2 := by
  have bound := parseSense_progress_le sense len out
  obtain ⟨prog, _, told⟩ := parseSense_decoded decoded
  rw [told] at bound ⊢
  simp only [SenseReport.ofOut, SenseReport.out, headerKey_nibble, SenseOut.mk.injEq, true_and]
  by_cases given : 0 ≤ prog ∧ (headerKey sense = 0x00 ∨ headerKey sense = 0x02)
  · have same : gatedProgress (headerKey sense) prog = prog := if_pos given
    simp only [same] at bound ⊢
    rw [if_pos given]
    have wrapped := toNat_ofInt_uint16 prog
    rw [Int.emod_eq_of_lt given.1 (by omega)] at wrapped
    exact wrapped
  · have none : gatedProgress (headerKey sense) prog = -1 := if_neg given
    simp only [none]
    rw [if_neg (by omega)]

/-- An accepted reply is one report. -/
theorem existsUnique_report (decoded : (parseSense sense len out).1 = 0) :
    ∃! report : SenseReport, (parseSense sense len out).2 = report.out :=
  ⟨_, (out_ofOut decoded).symm, fun _ same =>
    SenseReport.out_injective (same.symm.trans (out_ofOut decoded).symm)⟩

end Accepted

/-! ### Spelling a report -/

/-- The ways to put a report: with its progress in the fixed sense-key-specific field,
in a sense-key-specific descriptor, or in a descriptor of another progress indication. -/
inductive SenseFormat where
  | fixed
  | sksDescriptor
  | progressDescriptor
  deriving DecidableEq, Repr

namespace SenseReport

variable (report : SenseReport)

/-- The SKSV bit. -/
def sksv : UInt8 := if report.progress.isSome then 0x80 else 0x00

/-- The two bytes of the progress, if there is one. -/
def high : UInt8 := ((report.progress.getD 0) >>> 8).toUInt8

def low : UInt8 := (report.progress.getD 0).toUInt8

def sksRecord : Record := ⟨0x02, [0, 0, report.sksv, report.high, report.low, 0], by simp⟩

/-- Another progress indication carries a sense key and a pair of its own. -/
def progressRecord : Record :=
  ⟨0x0A, [report.senseKey, report.asc, report.ascq, 0, report.high, report.low], by simp⟩

/-- A reply in descriptor format. -/
def described (records : List Record) : List UInt8 :=
  [0x72, report.senseKey, report.asc, report.ascq, 0, 0, 0,
    UInt8.ofNat (encodeAll records).length] ++ encodeAll records

end SenseReport

/-- The report as bytes. -/
def SenseFormat.spell (report : SenseReport) : SenseFormat → List UInt8
  | .fixed =>
      [0x70, 0, report.senseKey, 0, 0, 0, 0, 10, 0, 0, 0, 0, report.asc, report.ascq, 0,
        report.sksv, report.high, report.low]
  | .sksDescriptor => report.described [report.sksRecord]
  | .progressDescriptor =>
      report.described (if report.progress.isSome then [report.progressRecord] else [])

/-- The buffer begins with the bytes. -/
def Spells (sense : Nat → UInt8) (bytes : List UInt8) : Prop :=
  ∀ i < bytes.length, sense i = bytes.getD i 0

namespace SenseReport

variable (report : SenseReport)

/-- The progress of the report as `parse_sense` counts it. -/
def counted : Int := report.out.progress

/-- The sense key of a report has no bits but its own. -/
theorem masked : report.senseKey &&& 0x0F = report.senseKey := by
  apply UInt8.toNat_inj.mp
  rw [UInt8.toNat_and]
  exact Nat.and_two_pow_sub_one_of_lt_two_pow (n := 4) report.nibble

/-- A report without progress counts as -1. -/
theorem counted_none (silent : report.progress = none) : report.counted = -1 := by
  simp only [counted, out, silent]

/-- The two bytes spell the progress. -/
theorem bigEndian_progress (given : report.progress.isSome) :
    ((bigEndian [report.high, report.low] : Nat) : Int) = report.counted := by
  obtain ⟨progress, same⟩ := Option.isSome_iff_exists.mp given
  have bound := progress.toNat_lt
  simp only [counted, out, high, low, same, Option.getD_some, bigEndian, List.foldl_cons,
    List.foldl_nil, UInt16.toNat_toUInt8, UInt16.toNat_shiftRight, Nat.shiftRight_eq_div_pow]
  rw [show UInt16.toNat 8 % 16 = 8 from rfl]
  omega

/-- The gate lets the progress of a report pass. -/
theorem gated_counted : gatedProgress report.senseKey report.counted = report.counted := by
  unfold gatedProgress
  cases given : report.progress with
  | none =>
      rw [report.counted_none given]
      rfl
  | some progress =>
      have some : report.progress.isSome := by rw [given]; rfl
      have counts := report.bigEndian_progress some
      rw [if_pos ⟨by omega, report.meaningful some⟩]

/-- The fields both formats carry. -/
def fields : SenseFields where
  senseKey := report.senseKey
  asc := report.asc
  ascq := report.ascq
  sks0 := report.sksv
  sks1 := report.high
  sks2 := report.low

/-- SKSV is set if and only if there is a progress. -/
theorem sksv_set_iff : report.sksv &&& 0x80 ≠ 0 ↔ report.progress.isSome := by
  unfold sksv
  split
  · rename_i given
    exact ⟨fun _ => given, fun _ => by decide⟩
  · rename_i silent
    exact ⟨fun set => absurd rfl set, fun given => absurd given silent⟩

/-- The fields of a report carry its progress. -/
theorem fields_progress : report.fields.progress = report.counted := by
  rw [SenseFields.progress, fields]
  by_cases given : report.progress.isSome
  · rw [if_pos (report.sksv_set_iff.mpr given)]
    exact report.bigEndian_progress given
  · rw [if_neg (fun set => given (report.sksv_set_iff.mp set))]
    exact (report.counted_none (Option.not_isSome_iff_eq_none.mp given)).symm

end SenseReport

/-! ### What is spelled is heard -/

section Heard

variable {report : SenseReport} {sense : Nat → UInt8} {len : Nat}

/-- What spells a text spells its front. -/
theorem Spells.front {front rest : List UInt8} (spelled : Spells sense (front ++ rest)) :
    Spells sense front := by
  intro i inside
  have whole := spelled i (by rw [List.length_append]; omega)
  rwa [List.getD_append _ _ _ _ inside] at whole

/-- What spells a text spells the rest behind the front. -/
theorem Spells.rest {front rest : List UInt8} (spelled : Spells sense (front ++ rest)) :
    ∀ i < rest.length, sense (front.length + i) = rest.getD i 0 := by
  intro i inside
  have whole := spelled (front.length + i) (by rw [List.length_append]; omega)
  rwa [List.getD_append_right _ _ _ _ (Nat.le_add_right _ _), Nat.add_sub_cancel_left] at whole

/-- A reply in fixed format is heard as its report. -/
theorem parseSense_spelled_fixed (out : SenseOut)
    (spelled : Spells sense (SenseFormat.fixed.spell report)) (inside : 18 ≤ len) :
    parseSense sense len out = (0, report.out) := by
  have byte : ∀ i < 18, sense i = (SenseFormat.fixed.spell report).getD i 0 := spelled
  have code : sense 0 = 0x70 := byte 0 (by decide)
  have count : sense 7 = 10 := byte 7 (by decide)
  have carries : FixedCarries sense len report.fields :=
    { format := Or.inl (by rw [responseCode, code]; decide)
      declared := by rw [count]; decide
      inside := inside
      senseKey := by rw [byte 2 (by decide)]; exact report.masked
      asc := byte 12 (by decide)
      ascq := byte 13 (by decide)
      sks0 := byte 15 (by decide)
      sks1 := byte 16 (by decide)
      sks2 := byte 17 (by decide) }
  have shown := carries.visible
  rw [parseSense_fixed out (by omega) carries.format, carries.progress_eq, if_pos (by omega),
    if_pos (by omega), carries.senseKey, carries.asc, carries.ascq, report.fields_progress]
  exact congrArg (fun progress => (0, SenseOut.mk _ _ _ progress)) report.gated_counted

/-- A reply in descriptor format is heard as its report if its list tells the progress. -/
theorem parseSense_described {records : List Record} (out : SenseOut)
    (short : (encodeAll records).length < 256)
    (told : listProgress records = report.counted)
    (spelled : Spells sense (report.described records))
    (inside : (report.described records).length ≤ len) :
    parseSense sense len out = (0, report.out) := by
  have byte := spelled.front
  have size : (report.described records).length = 8 + (encodeAll records).length := by
    rw [SenseReport.described, List.length_append]
    rfl
  have code : sense 0 = 0x72 := byte 0 (by simp)
  have format : DescriptorFormat sense := Or.inl (by rw [responseCode, code]; decide)
  have declared : (sense 7).toNat = (encodeAll records).length := by
    rw [byte 7 (by simp)]
    exact UInt8.toNat_ofNat_of_lt' short
  have list : descriptors sense len = records :=
    descriptors_of_encodeAll declared (by omega) spelled.rest
  rw [parseSense_descriptor out (by omega) format, list, told, byte 1 (by simp),
    byte 2 (by simp), byte 3 (by simp)]
  have key : report.senseKey &&& 0x0F = report.senseKey := report.masked
  simp only [List.getD_cons_succ, List.getD_cons_zero, key, report.gated_counted]
  rfl

/-- The sense-key-specific descriptor carries the fields of its report. -/
theorem carriesSks_sksRecord : report.sksRecord.CarriesSks report.fields where
  kind := rfl
  complete := by simp [Record.totalLength, SenseReport.sksRecord]
  sks0 := rfl
  sks1 := rfl
  sks2 := rfl

/-- The sense-key-specific descriptor gives the progress of its report. -/
theorem listProgress_sksRecord : listProgress [report.sksRecord] = report.counted := by
  rw [← foldl_nextProgress, List.foldl_cons, List.foldl_nil,
    carriesSks_sksRecord.sets_progress, report.fields_progress]

/-- Another progress indication gives the progress of its report. -/
theorem listProgress_progressRecord (given : report.progress.isSome) :
    listProgress [report.progressRecord] = report.counted := by
  have kind : report.progressRecord.kind ≠ 0x02 := (by decide : (0x0A : UInt8) ≠ 0x02)
  have noSksv : ¬report.progressRecord.HasSksv := fun sksv => kind sksv.1
  have another : report.progressRecord.IsAnotherProgress := ⟨rfl, Nat.le_refl 8⟩
  rw [← foldl_nextProgress, List.foldl_cons, List.foldl_nil, nextProgress, if_neg noSksv,
    if_pos ⟨another, by decide⟩]
  exact report.bigEndian_progress given

end Heard

/-- No spelling is longer than 18 bytes. -/
theorem SenseFormat.length_spell (format : SenseFormat) (report : SenseReport) :
    (format.spell report).length ≤ 18 := by
  cases format with
  | fixed => exact Nat.le_refl 18
  | sksDescriptor => exact (by decide : 16 ≤ 18)
  | progressDescriptor =>
      rw [spell]
      split
      · exact (by decide : 16 ≤ 18)
      · exact (by decide : 8 ≤ 18)

/-- A spelled report is heard as it was, whatever lies behind it in the buffer. -/
theorem parseSense_spelled (format : SenseFormat) (report : SenseReport) {sense : Nat → UInt8}
    {len : Nat} (out : SenseOut) (spelled : Spells sense (format.spell report))
    (inside : (format.spell report).length ≤ len) :
    parseSense sense len out = (0, report.out) := by
  cases format with
  | fixed => exact parseSense_spelled_fixed out spelled inside
  | sksDescriptor =>
      have short : (encodeAll [report.sksRecord]).length < 256 := (by decide : 8 < 256)
      exact parseSense_described out short listProgress_sksRecord spelled inside
  | progressDescriptor =>
      rw [SenseFormat.spell] at spelled inside
      split at spelled
      · rename_i given
        rw [if_pos given] at inside
        have short : (encodeAll [report.progressRecord]).length < 256 := (by decide : 8 < 256)
        exact parseSense_described out short (listProgress_progressRecord given) spelled inside
      · rename_i silent
        rw [if_neg silent] at inside
        have told : listProgress [] = report.counted :=
          (report.counted_none (Option.not_isSome_iff_eq_none.mp silent)).symm
        exact parseSense_described out (by decide) told spelled inside

/-- **Sense data is reports.** What is accepted is one report, and each report is heard
from every format. -/
theorem parseSense_reports :
    (∀ sense len out, (parseSense sense len out).1 = 0 →
      ∃! report : SenseReport, (parseSense sense len out).2 = report.out) ∧
    ∀ (format : SenseFormat) (report : SenseReport) sense len out,
      Spells sense (format.spell report) → (format.spell report).length ≤ len →
        parseSense sense len out = (0, report.out) :=
  ⟨fun _ _ _ decoded => existsUnique_report decoded,
    fun format report _ _ out spelled inside => parseSense_spelled format report out spelled inside⟩

end Megaraid
