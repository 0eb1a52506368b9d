/-
Segments as they may be spelled. Where a segment has a small letter, its
spelling has a letter of either case or the Kelvin sign, and where it has an
underscore the spelling may have a dash. What is not of ASCII apart from that
sign has no place in a spelling (`isPlain_of_isSpelledTail`), and a spelling
that is brought into small letters and underscores, character by character,
is a segment exactly if it spells one (`isSegment_map`).

Codes and reasons are normalized in the same way but for the marks that they
replace once the letters are small. Whatever the marks, a plain text is
normalized character by character (`map_lower_of_plain`), and only a plain
text comes out settled (`isPlain_of_settled_map`).
-/
import FaultStatus.Proofs.Spelling
import FaultStatus.Proofs.Text.Utf8

namespace FaultStatus

open Text

/-- A letter of a spelling: one of ASCII, of either case, or the Kelvin
sign. -/
def isSpelledLetter (c : Char) : Bool := c.isAlpha || c == kelvinSign

/-- A character that may follow the first one of a spelled segment. -/
def isSpelledTail (c : Char) : Bool :=
  isSpelledLetter c || c.isDigit || c == '_' || c == '-'

/-- A letter, then letters, digits, underscores and dashes. -/
def isSpelledSegment : List Char → Bool
  | [] => false
  | c :: rest => isSpelledLetter c && rest.all isSpelledTail

variable {c : Char}

theorem isSegmentTail_of_not_plain (h : ¬ IsPlain c) :
    isSegmentTail c = false := by
  rw [Bool.eq_false_iff]
  intro htail
  exact h (IsSettled.isPlain (Or.inl htail))

theorem isLower_of_not_plain (h : ¬ IsPlain c) : c.isLower = false := by
  have htail := isSegmentTail_of_not_plain h
  simp only [isSegmentTail, Bool.or_eq_false_iff] at htail
  exact htail.1.1

theorem isPlain_of_isSpelledTail (h : isSpelledTail c = true) :
    IsPlain c := by
  simp only [isSpelledTail, isSpelledLetter, Bool.or_eq_true,
    beq_iff_eq] at h
  rcases h with (((halpha | rfl) | hdigit) | rfl) | rfl
  · rcases (Bool.or_eq_true _ _).mp halpha with hupper | hlower
    · have hlast := UInt32.le_iff_toNat_le.1 (of_decide_eq_true hupper).2
      left
      exact Nat.lt_of_le_of_lt hlast (by decide)
    · exact IsSettled.isPlain (Or.inl (by simp [isSegmentTail, hlower]))
  · exact Or.inr rfl
  · exact IsSettled.isPlain (Or.inl (by simp [isSegmentTail, hdigit]))
  · decide
  · decide

theorem isSpelledTail_of_not_plain (h : ¬ IsPlain c) :
    isSpelledTail c = false := by
  rw [Bool.eq_false_iff]
  intro htail
  exact h (isPlain_of_isSpelledTail htail)

/-- A way of respelling that takes the letters of spellings, and them alone,
to small letters, and the same for what follows a first letter, takes the
spelled segments to segments, and them alone. -/
theorem isSegment_map {respell : Char → Char}
    (hletter : ∀ c, (respell c).isLower = isSpelledLetter c)
    (htail : ∀ c, isSegmentTail (respell c) = isSpelledTail c)
    (cs : List Char) : isSegment (cs.map respell) = isSpelledSegment cs := by
  cases cs with
  | nil => rfl
  | cons c rest =>
      simp only [List.map_cons, isSegment, isSpelledSegment, hletter,
        List.all_map, Function.comp_def, htail]

-- ============================================= small letters, then marks

namespace Text

variable {mark : Char → Char} {cs : List Char}

theorem map_lower_of_plain (h : ∀ c ∈ cs, IsPlain c) :
    (lower cs).map mark = cs.map fun c => mark (smallLetter c) := by
  unfold lower
  rw [lowerAfter_of_plain h, List.map_map]
  rfl

/-- Marks that bring nothing into a canonical text but what was in ASCII
leave it to plain texts to become canonical. -/
theorem isPlain_of_settled_map
    (hmark : ∀ c, IsSettled (mark c) → c.toNat < 128)
    (h : ∀ d ∈ (lower cs).map mark, IsSettled d) : ∀ c ∈ cs, IsPlain c := by
  have hascii : ∀ d ∈ lower cs, d.toNat < 128 := by
    intro d hd
    exact hmark d (h _ (List.mem_map_of_mem hd))
  exact ascii_lowerAfter_iff.1 hascii

/-- A text of settled characters has as many bytes as characters. -/
theorem utf8ByteSize_of_settled (h : ∀ c ∈ cs, IsSettled c) :
    (String.ofList cs).utf8ByteSize = cs.length := by
  rw [String.utf8ByteSize_ofList]
  apply utf8Len_ascii
  intro c hc
  have hrange := (h c hc).toNat_range
  omega

end Text

end FaultStatus
