import Megaraid.Progress.Descriptors

/-!
# The two sense formats carry the same information

A fixed-format reply and a descriptor-format reply with the same sense key,
ASC, ASCQ and sense-key-specific bytes decode alike, wherever the
sense-key-specific descriptor stands among unrelated ones.
-/

namespace Megaraid

/-- The information both formats carry: header fields and the three
sense-key-specific bytes. -/
structure SenseFields where
  senseKey : UInt8
  asc : UInt8
  ascq : UInt8
  sks0 : UInt8
  sks1 : UInt8
  sks2 : UInt8

/-- A fixed-format buffer with all of its fields inside the declared length. -/
structure FixedCarries (sense : Nat → UInt8) (len : Nat) (fields : SenseFields) : Prop where
  format : FixedFormat sense
  declared : 10 ≤ (sense 7).toNat
  inside : 18 ≤ len
  senseKey : sense 2 &&& 0x0F = fields.senseKey
  asc : sense 12 = fields.asc
  ascq : sense 13 = fields.ascq
  sks0 : sense 15 = fields.sks0
  sks1 : sense 16 = fields.sks1
  sks2 : sense 17 = fields.sks2

/-- A descriptor-format buffer with the header fields. -/
structure HeaderCarries (sense : Nat → UInt8) (len : Nat) (fields : SenseFields) : Prop where
  format : DescriptorFormat sense
  inside : 8 ≤ len
  senseKey : sense 1 &&& 0x0F = fields.senseKey
  asc : sense 2 = fields.asc
  ascq : sense 3 = fields.ascq

/-- A descriptor that has nothing to do with progress. -/
def Record.Unrelated (record : Record) : Prop := record.kind ≠ 0x02 ∧ record.kind ≠ 0x0A

/-- The sense-key-specific descriptor of the fields. -/
structure Record.CarriesSks (record : Record) (fields : SenseFields) : Prop where
  kind : record.kind = 0x02
  complete : 7 ≤ record.totalLength
  sks0 : record.byte 4 = fields.sks0
  sks1 : record.byte 5 = fields.sks1
  sks2 : record.byte 6 = fields.sks2

/-- The descriptor list of the fields: one sense-key-specific descriptor among
unrelated ones, or, when SKSV is clear, possibly none. -/
def ListCarries (records : List Record) (fields : SenseFields) : Prop :=
  (∃ before record after, records = before ++ record :: after ∧ record.CarriesSks fields ∧
    ∀ other ∈ before ++ after, other.Unrelated) ∨
  (fields.sks0 &&& 0x80 = 0 ∧ ∀ other ∈ records, other.Unrelated)

/-- Progress of the three sense-key-specific bytes. -/
def SenseFields.progress (fields : SenseFields) : Int :=
  if fields.sks0 &&& 0x80 ≠ 0 then (bigEndian [fields.sks1, fields.sks2] : Nat) else -1

/-- The progress field of a fixed-format reply is visible. -/
theorem FixedCarries.visible {sense : Nat → UInt8} {len : Nat} {fields : SenseFields}
    (carries : FixedCarries sense len fields) : 17 < visibleLength sense len := by
  have declared := carries.declared
  have inside := carries.inside
  unfold visibleLength
  omega

/-- A fixed-format reply gives the progress it carries. -/
theorem FixedCarries.progress_eq {sense : Nat → UInt8} {len : Nat} {fields : SenseFields}
    (carries : FixedCarries sense len fields) :
    fixedProgress sense (visibleLength sense len) = fields.progress := by
  simp only [fixedProgress, carries.visible, true_and, carries.sks0, carries.sks1, carries.sks2,
    SenseFields.progress]

/-- An unrelated record changes no progress. -/
theorem Record.Unrelated.keeps_progress {record : Record} (unrelated : record.Unrelated)
    (prog : Int) : nextProgress prog record = prog := by
  have noSksv : ¬record.HasSksv := fun sksv => unrelated.1 sksv.1
  have noOther : ¬record.IsAnotherProgress := fun another => unrelated.2 another.1
  rw [nextProgress, if_neg noSksv, if_neg (fun both => noOther both.1)]

/-- Unrelated records change no progress. -/
theorem foldl_unrelated {records : List Record} (unrelated : ∀ record ∈ records, record.Unrelated)
    (prog : Int) : records.foldl nextProgress prog = prog := by
  induction records with
  | nil => rfl
  | cons record records ih =>
      rw [List.foldl_cons, (unrelated record (List.mem_cons_self ..)).keeps_progress]
      exact ih fun other member => unrelated other (List.mem_cons_of_mem _ member)

/-- The first descriptor with a progress sets it. -/
theorem Record.CarriesSks.sets_progress {record : Record} {fields : SenseFields}
    (carries : record.CarriesSks fields) : nextProgress (-1) record = fields.progress := by
  have noOther : ¬record.IsAnotherProgress := by
    rintro ⟨kind, _⟩
    rw [carries.kind] at kind
    exact absurd kind (by decide)
  have sksv : record.HasSksv ↔ fields.sks0 &&& 0x80 ≠ 0 := by
    unfold Record.HasSksv
    rw [carries.sks0]
    exact ⟨fun has => has.2.2, fun set => ⟨carries.kind, carries.complete, set⟩⟩
  unfold nextProgress SenseFields.progress Record.sksProgress
  rw [if_neg (fun both : record.IsAnotherProgress ∧ _ => noOther both.1), carries.sks1,
    carries.sks2]
  simp only [sksv]

/-- A list with one related record gives the progress that this record carries. -/
theorem ListCarries.progress_eq {records : List Record} {fields : SenseFields}
    (carries : ListCarries records fields) : listProgress records = fields.progress := by
  rw [← foldl_nextProgress]
  rcases carries with ⟨before, record, after, rfl, carried, unrelated⟩ | ⟨clear, unrelated⟩
  · have others := List.forall_mem_append.mp unrelated
    rw [List.foldl_append, List.foldl_cons, foldl_unrelated others.1, carried.sets_progress,
      foldl_unrelated others.2]
  · rw [foldl_unrelated unrelated, SenseFields.progress, if_neg (fun set => set clear)]

/-- **Fixed and descriptor formats agree.** -/
theorem parseSense_fixed_eq_descriptor {fixed descriptor : Nat → UInt8} {fixedLen descLen : Nat}
    {fields : SenseFields} (out other : SenseOut) (ofFixed : FixedCarries fixed fixedLen fields)
    (ofHeader : HeaderCarries descriptor descLen fields)
    (ofList : ListCarries (descriptors descriptor descLen) fields) :
    parseSense fixed fixedLen out = parseSense descriptor descLen other ∧
      (parseSense fixed fixedLen out).2.state = (parseSense descriptor descLen other).2.state := by
  have shown := ofFixed.visible
  have same : parseSense fixed fixedLen out = parseSense descriptor descLen other := by
    rw [parseSense_fixed out (by have := ofFixed.inside; omega) ofFixed.format,
      parseSense_descriptor other ofHeader.inside ofHeader.format, if_pos (by omega),
      if_pos (by omega), ofFixed.progress_eq, ofList.progress_eq, ofFixed.senseKey,
      ofFixed.asc, ofFixed.ascq, ofHeader.senseKey, ofHeader.asc, ofHeader.ascq]
  exact ⟨same, by rw [same]⟩

/-- An information descriptor in front of the sense-key-specific one. -/
def informationDescriptor : Record := ⟨0x00, [0x80, 0, 0, 0, 0, 0], by decide⟩

def progressDescriptor : Record := ⟨0x02, [0, 0, 0x80, 0x6B, 0x84, 0], by decide⟩

def fixedReply : Nat → UInt8 :=
  ([0xF0, 0, 0x02, 0, 0, 0, 0, 0x0A, 0, 0, 0, 0, 0x04, 0x01, 0, 0x80, 0x6B, 0x84].getD · 0)

def descriptorReply : Nat → UInt8 :=
  ([0x72, 0x02, 0x04, 0x01, 0, 0, 0, 16, 0x00, 6, 0x80, 0, 0, 0, 0, 0, 0x02, 6, 0, 0, 0x80, 0x6B,
    0x84, 0].getD · 0)

/-- The two sample replies are decoded alike. -/
theorem fixedReply_eq_descriptorReply :
    parseSense fixedReply 18 ⟨0, 0, 0, -1⟩ = parseSense descriptorReply 96 ⟨0, 0, 0, -1⟩ ∧
      (parseSense fixedReply 18 ⟨0, 0, 0, -1⟩).2.state =
        (parseSense descriptorReply 96 ⟨0, 0, 0, -1⟩).2.state := by
  have list : descriptors descriptorReply 96 = [informationDescriptor, progressDescriptor] :=
    descriptors_of_encodeAll (by decide) (by decide) (by decide)
  have ofFixed : FixedCarries fixedReply 18 ⟨0x02, 0x04, 0x01, 0x80, 0x6B, 0x84⟩ := by
    constructor <;> decide
  apply parseSense_fixed_eq_descriptor _ _ ofFixed
  · constructor <;> decide
  · rw [list]
    refine Or.inl ⟨[informationDescriptor], progressDescriptor, [], rfl, ?_, ?_⟩
    · constructor <;> decide
    · rintro other member
      cases List.mem_singleton.mp member
      exact ⟨by decide, by decide⟩

end Megaraid
