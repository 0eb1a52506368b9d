/-
The texts that spell a code, and which one. Between blanks, a code is spelled
by 3 to 64 characters: a letter of either case or the Kelvin sign, then such
letters, digits, underscores and dashes (`IsSpelling`). The code is that text
with each character respelled (`respell`), and every other text fails for its
length or, this being right, for its form (`Reads`, `parse_spellings`).

The length that is judged is that of the lowered text, in bytes. Lowering can
change the number of bytes, and of characters, but of a text that is lowered
to a canonical one it changes neither: such a text is plain, and has a
character for every byte of the code (`isPlain_of_validate`).
-/
import FaultStatus.Proofs.Segment.Spelled

namespace FaultStatus.Code

open Text

-- ============================================================ the spellings

/-- The canonical spelling of one character: letters become small, dashes
underscores. -/
def respell (c : Char) : Char :=
  if smallLetter c = '-' then '_' else smallLetter c

/-- The text spells a code. -/
structure IsSpelling (cs : List Char) : Prop where
  segment : isSpelledSegment cs = true
  length : 3 ≤ cs.length ∧ cs.length ≤ 64

/-- What a text is read as. -/
inductive Reads (s : String) : Except CodeError Code → Prop where
  | spelled (spells : IsSpelling (trim s.toList)) :
      Reads s (.ok ⟨String.ofList ((trim s.toList).map respell)⟩)
  /-- The normalized text has too few or too many bytes. -/
  | wrongLength (no_spelling : ¬ IsSpelling (trim s.toList))
      (length : (normalize s).utf8ByteSize < 3
        ∨ 64 < (normalize s).utf8ByteSize) :
      Reads s (.error (.invalidLength (normalize s).utf8ByteSize))
  | wrongForm (no_spelling : ¬ IsSpelling (trim s.toList))
      (length : 3 ≤ (normalize s).utf8ByteSize
        ∧ (normalize s).utf8ByteSize ≤ 64) :
      Reads s (.error (.invalidFormat (normalize s)))

-- ====================================================== single characters

variable {c : Char}

theorem respell_of_not_plain (h : ¬ IsPlain c) : respell c = c := by
  have hdash : c ≠ '-' := by
    rintro rfl
    exact h (by decide)
  rw [respell, smallLetter_of_not_plain h, if_neg hdash]

theorem isLower_respell : ∀ c, (respell c).isLower = isSpelledLetter c := by
  refine forall_char ?_ ?_ fun c hother => ?_
  · decide +kernel
  · decide +kernel
  · have htail := isSpelledTail_of_not_plain hother
    simp only [isSpelledTail, Bool.or_eq_false_iff] at htail
    rw [respell_of_not_plain hother, isLower_of_not_plain hother,
      htail.1.1.1]

theorem isSegmentTail_respell :
    ∀ c, isSegmentTail (respell c) = isSpelledTail c := by
  refine forall_char ?_ ?_ fun c hother => ?_
  · decide +kernel
  · decide +kernel
  · rw [respell_of_not_plain hother, isSegmentTail_of_not_plain hother,
      isSpelledTail_of_not_plain hother]

theorem ascii_of_isSettled_mark
    (h : IsSettled (if c = '-' then '_' else c)) : c.toNat < 128 := by
  split_ifs at h with hdash
  · rw [hdash]
    decide
  · have hrange := h.toNat_range
    omega

-- ========================================================== canonical texts

variable {s : String}

theorem validate_eq_ok_iff :
    validate s = .ok () ↔ (3 ≤ s.utf8ByteSize ∧ s.utf8ByteSize ≤ 64)
      ∧ isSegment s.toList = true := by
  unfold validate minLength maxLength
  split_ifs with hlength hsegment
  · simp only [false_iff]
    intro ⟨hinside, _⟩
    omega
  · simp only [true_iff]
    exact ⟨by omega, hsegment⟩
  · simp only [false_iff]
    intro ⟨_, hform⟩
    exact hsegment hform

theorem validate_of_length
    (h : s.utf8ByteSize < 3 ∨ 64 < s.utf8ByteSize) :
    validate s = .error (.invalidLength s.utf8ByteSize) :=
  if_pos h

theorem validate_of_form (h : validate s ≠ .ok ())
    (hlength : 3 ≤ s.utf8ByteSize ∧ s.utf8ByteSize ≤ 64) :
    validate s = .error (.invalidFormat s) := by
  unfold validate minLength maxLength at h ⊢
  split_ifs at h ⊢
  · omega
  · exact absurd rfl h
  · rfl

-- ======================================================== respelled texts

variable {cs : List Char}

theorem isPlain_of_isSpelledSegment (h : isSpelledSegment cs = true) :
    ∀ c ∈ cs, IsPlain c := by
  cases cs with
  | nil => cases h
  | cons head rest =>
      simp only [isSpelledSegment, Bool.and_eq_true, List.all_eq_true] at h
      intro c hc
      apply isPlain_of_isSpelledTail
      rcases List.mem_cons.1 hc with rfl | hc
      · simp [isSpelledTail, h.1]
      · exact h.2 c hc

/-- The spellings of codes are the texts that are canonical once they are
respelled. -/
theorem validate_respell_iff :
    validate (String.ofList (cs.map respell)) = .ok () ↔ IsSpelling cs := by
  have hsegment : isSegment (cs.map respell) = isSpelledSegment cs :=
    isSegment_map isLower_respell isSegmentTail_respell cs
  have hbytes : isSpelledSegment cs = true →
      (String.ofList (cs.map respell)).utf8ByteSize = cs.length := by
    intro hspelled
    rw [utf8ByteSize_of_settled
      (isSettled_of_isSegment (hsegment.trans hspelled)), List.length_map]
  rw [validate_eq_ok_iff, String.toList_ofList, hsegment]
  constructor
  · intro ⟨hlength, hspelled⟩
    rw [hbytes hspelled] at hlength
    exact ⟨hspelled, hlength⟩
  · intro ⟨hspelled, hlength⟩
    rw [hbytes hspelled]
    exact ⟨hlength, hspelled⟩

-- ======================================================= normalized texts

/-- A plain text is normalized character by character. -/
theorem normalize_of_plain (h : ∀ c ∈ trim s.toList, IsPlain c) :
    normalize s = String.ofList ((trim s.toList).map respell) := by
  unfold normalize normalizeChars
  rw [map_lower_of_plain h]
  rfl

/-- Only a plain text becomes canonical. -/
theorem isPlain_of_validate (h : validate (normalize s) = .ok ()) :
    ∀ c ∈ trim s.toList, IsPlain c := by
  have hsettled := isSettled_of_isSegment (isSegment_of_validate h)
  unfold normalize normalizeChars at hsettled
  rw [String.toList_ofList] at hsettled
  exact isPlain_of_settled_map (fun _ => ascii_of_isSettled_mark) hsettled

theorem validate_normalize_iff :
    validate (normalize s) = .ok () ↔ IsSpelling (trim s.toList) := by
  constructor
  · intro hvalid
    rw [normalize_of_plain (isPlain_of_validate hvalid)] at hvalid
    exact validate_respell_iff.1 hvalid
  · intro hspells
    rw [normalize_of_plain (isPlain_of_isSpelledSegment hspells.segment)]
    exact validate_respell_iff.2 hspells

-- ================================================================ parsing

theorem parse_of_validate_ok (h : validate (normalize s) = .ok ()) :
    parse s = .ok ⟨normalize s⟩ :=
  check_eq_ok h

theorem parse_of_validate_error {e : CodeError}
    (h : validate (normalize s) = .error e) : parse s = .error e :=
  check_eq_error h

theorem exists_parse_iff :
    (∃ code, parse s = .ok code) ↔ IsSpelling (trim s.toList) := by
  rw [← validate_normalize_iff]
  constructor
  · intro ⟨code, hcode⟩
    exact (eq_ok_of_check hcode).1
  · intro hvalid
    exact ⟨_, parse_of_validate_ok hvalid⟩

theorem Reads.parse_eq {result : Except CodeError Code}
    (h : Reads s result) : parse s = result := by
  cases h with
  | spelled spells =>
      rw [parse_of_validate_ok (validate_normalize_iff.2 spells),
        normalize_of_plain (isPlain_of_isSpelledSegment spells.segment)]
  | wrongLength no_spelling length =>
      exact parse_of_validate_error (validate_of_length length)
  | wrongForm no_spelling length =>
      have hinvalid := mt validate_normalize_iff.1 no_spelling
      exact parse_of_validate_error (validate_of_form hinvalid length)

theorem exists_reads (s : String) : ∃ result, Reads s result := by
  by_cases hspells : IsSpelling (trim s.toList)
  · exact ⟨_, .spelled hspells⟩
  · by_cases hlength : (normalize s).utf8ByteSize < 3
        ∨ 64 < (normalize s).utf8ByteSize
    · exact ⟨_, .wrongLength hspells hlength⟩
    · exact ⟨_, .wrongForm hspells (by omega)⟩

theorem parse_eq_iff {result : Except CodeError Code} :
    parse s = result ↔ Reads s result := by
  constructor
  · rintro rfl
    obtain ⟨result, hreads⟩ := exists_reads s
    rwa [hreads.parse_eq]
  · exact Reads.parse_eq

-- ========================================================= accepted codes

/-- The code is a segment of 3 to 64 characters and is parsed as itself. -/
structure IsStable (code : Code) : Prop where
  wellFormed : isSegment code.text.toList = true
  length : 3 ≤ code.text.length ∧ code.text.length ≤ 64
  again : parse code.text = .ok code

theorem isStable_of_parse {code : Code} (h : parse s = .ok code) :
    code.IsStable := by
  have hcanonical := isCanonical_of_parse h
  obtain ⟨hlength, hsegment⟩ := validate_eq_ok_iff.1 hcanonical
  refine ⟨hsegment, ?_, hcanonical.parse_text⟩
  have hbytes := utf8ByteSize_of_settled (isSettled_of_isSegment hsegment)
  rw [String.ofList_toList, String.length_toList] at hbytes
  rwa [hbytes] at hlength

/-- A text is accepted if and only if it spells a code between blanks, and
every text is read as `Reads` says. The codes that are accepted are stable,
and two texts are read as one code exactly if they are normalized to one
text. -/
theorem parse_spellings (s : String) :
    ((∃ code, parse s = .ok code) ↔ IsSpelling (trim s.toList))
      ∧ (∀ result, parse s = result ↔ Reads s result)
      ∧ (∀ code, parse s = .ok code → code.IsStable)
      ∧ ∀ other code code', parse s = .ok code → parse other = .ok code' →
          (code = code' ↔ normalize s = normalize other) := by
  refine ⟨exists_parse_iff, fun _ => parse_eq_iff,
    fun _ => isStable_of_parse, fun other code code' hcode hcode' => ?_⟩
  obtain ⟨-, rfl⟩ := eq_ok_of_check hcode
  obtain ⟨-, rfl⟩ := eq_ok_of_check hcode'
  rw [mk.injEq]

example : parse "\u2003\u212aey-Not_Found9 " = .ok ⟨"key_not_found9"⟩ := by
  decide +kernel

end FaultStatus.Code
