import Megaraid.Progress.Decision

/-!
# More sense data

Two replies of which the second shows everything the first one shows, and
perhaps more. The pair, the progress field and the complete descriptors that
were visible stay visible: the shorter descriptor list is a prefix of the longer
one. So evidence of a running operation is never lost, whatever progress value
the longer list replaces the shorter one's by.
-/

namespace Megaraid

/-- `other` shows every byte below the visible length of `sense`, byte 7 aside. -/
structure ShowsMore (sense : Nat → UInt8) (len : Nat) (other : Nat → UInt8) (length : Nat) :
    Prop where
  longer : visibleLength sense len ≤ visibleLength other length
  agree : ∀ i < visibleLength sense len, i ≠ 7 → other i = sense i

section ShowsMore

variable {sense other : Nat → UInt8} {len length : Nat}

namespace ShowsMore

variable (more : ShowsMore sense len other length) (long : 8 ≤ len)
include more long

/-- The header is the same but for the declared length. -/
theorem header (i : Nat) (inside : i < 7) : other i = sense i := by
  refine more.agree i ?_ (Nat.ne_of_lt inside)
  exact Nat.lt_of_lt_of_le inside (Nat.le_trans (by decide) (eight_le_visibleLength sense long))

/-- The response code is the same. -/
theorem responseCode_eq : responseCode other = responseCode sense :=
  congrArg (· &&& 0x7F) (more.header long 0 (by decide))

/-- The format is the same. -/
theorem fixedFormat_iff : FixedFormat other ↔ FixedFormat sense :=
  fixedFormat_congr (more.responseCode_eq long)

/-- The sense key is the same. -/
theorem headerKey_eq : headerKey other = headerKey sense := by
  unfold headerKey
  simp only [more.fixedFormat_iff long, more.header long 1 (by decide),
    more.header long 2 (by decide)]

/-- The descriptors of the shorter reply are the first ones of the longer reply. -/
theorem descriptors_prefix : descriptors sense len <+: descriptors other length := by
  have lower := eight_le_visibleLength sense long
  have same : window sense 8 (visibleLength sense len) =
      window other 8 (visibleLength sense len) :=
    window_congr fun i first last => (more.agree i last (by omega)).symm
  unfold descriptors
  rw [window_append other lower more.longer, ← same]
  exact cut_prefix_cut_append _ _

/-- A visible FORMAT IN PROGRESS stays visible. -/
theorem visiblePair_formatting (shown : visiblePair sense len = (0x04, 0x04)) :
    visiblePair other length = (0x04, 0x04) := by
  have longer := more.longer
  unfold visiblePair at shown ⊢
  simp only [more.fixedFormat_iff long]
  by_cases fixed : FixedFormat sense
  · rw [if_pos fixed, Prod.mk.injEq] at shown ⊢
    have asc : 12 < visibleLength sense len := by
      by_contra hidden
      rw [if_neg hidden] at shown
      exact absurd shown.1 (by decide)
    have ascq : 13 < visibleLength sense len := by
      by_contra hidden
      rw [if_neg hidden] at shown
      exact absurd shown.2 (by decide)
    rw [if_pos asc, if_pos ascq] at shown
    rw [if_pos (by omega), if_pos (by omega), more.agree 12 asc (by decide),
      more.agree 13 ascq (by decide)]
    exact shown
  · rw [if_neg fixed] at shown ⊢
    rw [more.header long 2 (by decide), more.header long 3 (by decide)]
    exact shown

/-- A visible progress indication stays visible, if perhaps with another value. -/
theorem progressVisible (shown : ProgressVisible sense len) : ProgressVisible other length := by
  unfold ProgressVisible at shown ⊢
  simp only [more.fixedFormat_iff long]
  by_cases fixed : FixedFormat sense
  · rw [if_pos fixed] at shown ⊢
    obtain ⟨inside, sksv⟩ := shown
    refine ⟨Nat.lt_of_lt_of_le inside more.longer, ?_⟩
    rw [more.agree 15 (by omega) (by decide)]
    exact sksv
  · rw [if_neg fixed] at shown ⊢
    obtain ⟨record, member, progress⟩ := shown
    exact ⟨record, (more.descriptors_prefix long).subset member, progress⟩

end ShowsMore

/-- **More sense data never turns busy into idle.** -/
theorem state_of_showsMore (more : ShowsMore sense len other length) (long : 8 ≤ len)
    (longer : 8 ≤ length) (recognised : FixedFormat sense ∨ DescriptorFormat sense)
    (out out' : SenseOut) :
    ((parseSense sense len out).2.state ≠ .idle →
      (parseSense other length out').2.state ≠ .idle) ∧
    ((parseSense sense len out).2.state = .formatting →
      (parseSense other length out').2.state = .formatting) := by
  have decoded : (parseSense sense len out).1 = 0 := parseSense_recognised out long recognised
  have recognisedToo : FixedFormat other ∨ DescriptorFormat other := by
    rw [more.fixedFormat_iff long, descriptorFormat_congr (more.responseCode_eq long)]
    exact recognised
  have decodedToo : (parseSense other length out').1 = 0 :=
    parseSense_recognised out' longer recognisedToo
  have formatting := more.visiblePair_formatting long
  have progress := more.progressVisible long
  constructor
  · intro busy idle
    rw [state_eq_idle_iff decodedToo, more.headerKey_eq long] at idle
    obtain ⟨pair, ready, attention, silent⟩ := idle
    rw [Ne, state_eq_idle_iff decoded] at busy
    exact busy ⟨fun shown => pair (formatting shown), ready, attention,
      fun ⟨key, shown⟩ => silent ⟨key, progress shown⟩⟩
  · rw [state_eq_formatting_iff decoded, state_eq_formatting_iff decodedToo]
    exact formatting

end ShowsMore

/-- One reply seen up to its another-progress descriptor, and then with a
sense-key-specific descriptor behind it, whose progress takes the other's place. -/
theorem state_of_showsMore_sksv :
    let sense : Nat → UInt8 :=
      ([0x72, 0, 0, 0, 0, 0, 0, 8, 0x0A, 6, 0, 0, 0, 0, 0x20, 0].getD · 0)
    let other : Nat → UInt8 :=
      ([0x72, 0, 0, 0, 0, 0, 0, 16, 0x0A, 6, 0, 0, 0, 0, 0x20, 0,
        0x02, 6, 0, 0, 0x80, 0x40, 0, 0].getD · 0)
    ((parseSense sense 96 ⟨0, 0, 0, -1⟩).2.state ≠ .idle →
      (parseSense other 96 ⟨0, 0, 0, -1⟩).2.state ≠ .idle) ∧
    ((parseSense sense 96 ⟨0, 0, 0, -1⟩).2.state = .formatting →
      (parseSense other 96 ⟨0, 0, 0, -1⟩).2.state = .formatting) :=
  state_of_showsMore ⟨by decide, by decide⟩ (by decide) (by decide) (by decide) _ _

end Megaraid
