/-
Canonical texts are their own spelling. The characters of canonical codes
and reasons are small letters, digits, underscores and full stops of ASCII
(`IsSettled`), and no step of the normalization changes a text of these:
none of them is blank, none a capital, none a dash or a slash. So a
canonical text is parsed as itself, and as the parser checks what it
returns, the canonical codes and reasons are exactly those that are parsed
from some text.
-/
import FaultStatus.Code
import FaultStatus.Proofs.Text.Trimmed
import FaultStatus.Reason

namespace FaultStatus

-- ==================================================== settled characters

namespace Text

/-- A character that may stand in a canonical text. -/
def IsSettled (c : Char) : Prop := isSegmentTail c = true ∨ c = separator

theorem IsSettled.toNat_range {c : Char} (h : IsSettled c) :
    c.toNat = 0x2e ∨ (0x30 ≤ c.toNat ∧ c.toNat ≤ 0x39) ∨ c.toNat = 0x5f
      ∨ (0x61 ≤ c.toNat ∧ c.toNat ≤ 0x7a) := by
  rcases h with h | rfl
  · simp only [isSegmentTail, Bool.or_eq_true, beq_iff_eq] at h
    rcases h with (h | h) | rfl
    · obtain ⟨hlow, hhigh⟩ := (Bool.and_eq_true _ _).mp h
      have hlow := UInt32.le_iff_toNat_le.1 (of_decide_eq_true hlow)
      have hhigh := UInt32.le_iff_toNat_le.1 (of_decide_eq_true hhigh)
      exact Or.inr (Or.inr (Or.inr ⟨hlow, hhigh⟩))
    · obtain ⟨hlow, hhigh⟩ := (Bool.and_eq_true _ _).mp h
      have hlow := UInt32.le_iff_toNat_le.1 (of_decide_eq_true hlow)
      have hhigh := UInt32.le_iff_toNat_le.1 (of_decide_eq_true hhigh)
      exact Or.inr (Or.inl ⟨hlow, hhigh⟩)
    · exact Or.inr (Or.inr (Or.inl rfl))
  · exact Or.inl rfl

theorem IsSettled.ne {c d : Char} (h : IsSettled c)
    (hd : d.toNat < 0x2e ∨ d.toNat = 0x2f ∨ 0x7a < d.toNat) : c ≠ d := by
  have hrange := h.toNat_range
  intro heq
  rw [heq] at hrange
  omega

theorem IsSettled.not_isBlank {c : Char} (h : IsSettled c) :
    isBlank c = false := by
  have hrange := h.toNat_range
  simp only [isBlank, blankRanges, covers, Bool.or_false]
  simp only [Bool.and_eq_false_iff, Bool.or_eq_false_iff,
    decide_eq_false_iff_not]
  omega

theorem IsSettled.isPlain {c : Char} (h : IsSettled c) : IsPlain c := by
  have hrange := h.toNat_range
  left
  omega

theorem IsSettled.smallLetter {c : Char} (h : IsSettled c) :
    smallLetter c = c := by
  have hrange := h.toNat_range
  exact smallLetter_of_not_capital (h.ne (by decide)) (by omega)

theorem IsSettled.isSmall {c : Char} (h : IsSettled c) : IsSmall c := by
  refine ⟨h.ne (by decide), ?_⟩
  rw [h.isPlain.lowerChar, h.smallLetter]

/-- A text of settled characters is already trimmed and in small
letters. -/
theorem lower_trim_of_settled {cs : List Char}
    (h : ∀ c ∈ cs, IsSettled c) : lower (trim cs) = cs := by
  have htrimmed : IsTrimmed cs :=
    ⟨fun c hc => (h c (List.mem_of_head? hc)).not_isBlank,
      fun c hc => (h c (List.mem_of_getLast? hc)).not_isBlank⟩
  rw [htrimmed.trim_eq]
  exact lowerAfter_of_small (fun c hc => (h c hc).isSmall) false

end Text

open Text

variable {ε α : Type}

/-- A check, and then a value that does not depend on it. -/
theorem eq_ok_of_check {check : Except ε Unit} {a b : α}
    (h : (do check; return a) = Except.ok b) : check = .ok () ∧ a = b := by
  cases check with
  | error e => cases h
  | ok _ =>
      cases h
      exact ⟨rfl, rfl⟩

theorem check_eq_ok {check : Except ε Unit} {a : α} (h : check = .ok ()) :
    (do check; return a) = Except.ok a := by
  rw [h]
  rfl

theorem check_eq_error {check : Except ε Unit} {a : α} {e : ε}
    (h : check = .error e) : (do check; return a) = Except.error e := by
  rw [h]
  rfl

theorem isSettled_of_isSegment {cs : List Char} (h : isSegment cs = true) :
    ∀ c ∈ cs, IsSettled c := by
  cases cs with
  | nil => cases h
  | cons head rest =>
      simp only [isSegment, Bool.and_eq_true, List.all_eq_true] at h
      intro c hc
      rcases List.mem_cons.1 hc with rfl | hc
      · exact Or.inl (by simp [isSegmentTail, h.1])
      · exact Or.inl (h.2 c hc)

-- ================================================================== codes

namespace Code

/-- A code whose text is canonical as it stands. -/
def IsCanonical (code : Code) : Prop := validate code.text = .ok ()

theorem normalize_of_isSegment {s : String}
    (h : isSegment s.toList = true) : normalize s = s := by
  have hsettled := isSettled_of_isSegment h
  unfold normalize normalizeChars
  have hdashes : ∀ c ∈ s.toList, (if c = '-' then '_' else c) = id c :=
    fun c hc => if_neg ((hsettled c hc).ne (by decide))
  rw [lower_trim_of_settled hsettled, List.map_congr_left hdashes,
    List.map_id, String.ofList_toList]

theorem isSegment_of_validate {s : String} (h : validate s = .ok ()) :
    isSegment s.toList = true := by
  unfold validate at h
  split at h
  · cases h
  · split at h
    next hseg => exact hseg
    next => cases h

/-- A canonical code is parsed from its own text. -/
theorem IsCanonical.parse_text {code : Code} (h : code.IsCanonical) :
    parse code.text = .ok code := by
  have hnormal := normalize_of_isSegment (isSegment_of_validate h)
  unfold parse
  rw [hnormal, h]
  rfl

theorem isCanonical_of_parse {s : String} {code : Code}
    (h : parse s = .ok code) : code.IsCanonical := by
  obtain ⟨hvalid, rfl⟩ := eq_ok_of_check h
  exact hvalid

theorem isCanonical_iff {code : Code} :
    code.IsCanonical ↔ ∃ s, parse s = .ok code :=
  ⟨fun h => ⟨code.text, h.parse_text⟩, fun ⟨_, h⟩ => isCanonical_of_parse h⟩

end Code

-- ================================================================ reasons

theorem mem_piece_of_mem_intercalate {c : Char} {rows : List (List Char)}
    (h : c ∈ [separator].intercalate rows) :
    c = separator ∨ ∃ row ∈ rows, c ∈ row := by
  induction rows with
  | nil => cases h
  | cons row rows ih =>
      cases rows with
      | nil => exact Or.inr ⟨row, List.mem_cons_self, by simpa using h⟩
      | cons next rows =>
          rw [List.intercalate_cons_cons] at h
          simp only [List.mem_append, List.mem_singleton] at h
          rcases h with (h | h) | h
          · exact Or.inr ⟨row, List.mem_cons_self, h⟩
          · exact Or.inl h
          · rcases ih h with h | ⟨other, hmem, hc⟩
            · exact Or.inl h
            · exact Or.inr ⟨other, List.mem_cons_of_mem row hmem, hc⟩

namespace Reason

/-- A reason whose text is canonical as it stands. -/
def IsCanonical (reason : Reason) : Prop := validate reason.text = .ok ()

theorem isSettled_of_pieces {s : String}
    (h : ∀ piece ∈ pieces s, isSegment piece.toList = true) :
    ∀ c ∈ s.toList, IsSettled c := by
  intro c hc
  have hjoin : [separator].intercalate (s.toList.splitOn separator)
      = s.toList := List.intercalate_splitOn separator
  rw [← hjoin] at hc
  rcases mem_piece_of_mem_intercalate hc with rfl | ⟨row, hrow, hc⟩
  · exact Or.inr rfl
  · have hseg := h (String.ofList row) (List.mem_map_of_mem hrow)
    rw [String.toList_ofList] at hseg
    exact isSettled_of_isSegment hseg c hc

theorem validate_eq_ok_iff {s : String} (hs : s ≠ "") :
    validate s = .ok () ↔ (3 ≤ s.utf8ByteSize ∧ s.utf8ByteSize ≤ 128)
      ∧ (pieces s).length ≤ 4
      ∧ ∀ piece ∈ pieces s, isSegment piece.toList = true := by
  unfold validate minLength maxLength maxSegments
  rw [if_neg hs]
  split_ifs with hlength hform
  · simp only [false_iff]
    intro ⟨hinside, _⟩
    omega
  · simp only [true_iff]
    exact ⟨by omega, hform.1, List.all_eq_true.1 hform.2⟩
  · simp only [false_iff]
    intro ⟨_, hcount, hall⟩
    exact hform ⟨hcount, List.all_eq_true.2 hall⟩

theorem isSettled_of_validate {s : String} (h : validate s = .ok ()) :
    ∀ c ∈ s.toList, IsSettled c := by
  by_cases hempty : s = ""
  · intro c hc
    rw [hempty] at hc
    cases hc
  · obtain ⟨-, -, hpieces⟩ := (validate_eq_ok_iff hempty).1 h
    exact isSettled_of_pieces hpieces

theorem normalize_of_settled {s : String}
    (h : ∀ c ∈ s.toList, IsSettled c) : normalize s = s := by
  unfold normalize normalizeChars
  rw [lower_trim_of_settled h]
  have hmarks : ∀ c ∈ s.toList, normalizeMark c = id c := by
    intro c hc
    rw [normalizeMark, if_neg ((h c hc).ne (by decide)),
      if_neg ((h c hc).ne (by decide))]
    rfl
  rw [List.map_congr_left hmarks, List.map_id, String.ofList_toList]

/-- A canonical reason that is not empty is pieces that are segments. -/
theorem IsCanonical.isSegment_pieces {reason : Reason}
    (h : reason.IsCanonical) (hne : reason ≠ empty) :
    ∀ piece ∈ pieces reason.text, isSegment piece.toList = true := by
  have htext : reason.text ≠ "" := fun heq => hne (congrArg mk heq)
  obtain ⟨-, -, hform⟩ := (validate_eq_ok_iff htext).1 h
  exact hform

/-- A canonical reason is parsed from its own text. -/
theorem IsCanonical.parse_text {reason : Reason} (h : reason.IsCanonical) :
    parse reason.text = .ok reason := by
  have hnormal := normalize_of_settled (isSettled_of_validate h)
  unfold parse
  rw [hnormal, h]
  rfl

theorem isCanonical_of_parse {s : String} {reason : Reason}
    (h : parse s = .ok reason) : reason.IsCanonical := by
  obtain ⟨hvalid, rfl⟩ := eq_ok_of_check h
  exact hvalid

theorem isCanonical_iff {reason : Reason} :
    reason.IsCanonical ↔ ∃ s, parse s = .ok reason :=
  ⟨fun h => ⟨reason.text, h.parse_text⟩,
    fun ⟨_, h⟩ => isCanonical_of_parse h⟩

end Reason

end FaultStatus
