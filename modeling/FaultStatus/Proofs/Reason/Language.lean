/-
The texts that spell a reason, and which one. Around a reason there may be
blanks; what stands between them has one to four spelled segments with full
stops or slashes between them, and 3 to 128 characters (`IsSpelling`). The
reason is then that text with each character respelled (`respell`), and every
other text fails for its length or, this being right, for its form (`Reads`,
`parse_reads`).

Lowering is not a matter of single characters, and bytes are not characters.
But neither shows in a text that is accepted: a canonical text is in ASCII,
so what is lowered to one is plain (`isPlain_of_validate`), and of a plain
text every character stands for itself.
-/
import FaultStatus.Proofs.Pattern.Grammar
import FaultStatus.Proofs.Segment.Spelled

namespace FaultStatus

theorem splitOnP_map {α β : Type} (f : α → β) (p : β → Bool) (xs : List α) :
    (xs.map f).splitOnP p = (xs.splitOnP fun x => p (f x)).map (·.map f) := by
  induction xs with
  | nil => rfl
  | cons x xs ih =>
      rw [List.map_cons, List.splitOnP_cons_eq_if_modifyHead,
        List.splitOnP_cons_eq_if_modifyHead, ih]
      by_cases hx : p (f x) = true
      · rw [if_pos hx, if_pos hx]
        rfl
      · rw [if_neg hx, if_neg hx]
        cases xs.splitOnP fun x => p (f x) <;> rfl

namespace Reason

open Text

-- ============================================================ the spellings

/-- The canonical spelling of one character: letters become small, slashes
full stops and dashes underscores. -/
def respell (c : Char) : Char := normalizeMark (smallLetter c)

/-- A character between two pieces of a spelling. -/
def isSpelledSeparator (c : Char) : Bool := c == '.' || c == '/'

/-- The text spells a reason that refines something. -/
structure IsSpelling (cs : List Char) : Prop where
  count : 1 ≤ (cs.splitOnP isSpelledSeparator).length
    ∧ (cs.splitOnP isSpelledSeparator).length ≤ 4
  segments : ∀ piece ∈ cs.splitOnP isSpelledSeparator,
    isSpelledSegment piece = true
  length : 3 ≤ cs.length ∧ cs.length ≤ 128

/-- What a text is read as. -/
inductive Reads (s : String) : Except ReasonError Reason → Prop where
  /-- A blank text spells the empty reason. -/
  | blank (blank : trim s.toList = []) : Reads s (.ok empty)
  | spelled (spells : IsSpelling (trim s.toList)) :
      Reads s (.ok ⟨String.ofList ((trim s.toList).map respell)⟩)
  /-- The normalized text has too few or too many bytes. -/
  | wrongLength (not_blank : trim s.toList ≠ [])
      (no_spelling : ¬ IsSpelling (trim s.toList))
      (length : (normalize s).utf8ByteSize < 3
        ∨ 128 < (normalize s).utf8ByteSize) :
      Reads s (.error (.invalidLength (normalize s).utf8ByteSize))
  | wrongForm (not_blank : trim s.toList ≠ [])
      (no_spelling : ¬ IsSpelling (trim s.toList))
      (length : 3 ≤ (normalize s).utf8ByteSize
        ∧ (normalize s).utf8ByteSize ≤ 128) :
      Reads s (.error (.invalidFormat (normalize s)))

-- ====================================================== single characters

variable {c : Char}

theorem respell_of_not_plain (h : ¬ IsPlain c) : respell c = c := by
  have hslash : c ≠ '/' := by
    rintro rfl
    exact h (by decide)
  have hdash : c ≠ '-' := by
    rintro rfl
    exact h (by decide)
  rw [respell, smallLetter_of_not_plain h, normalizeMark, if_neg hslash,
    if_neg hdash]

theorem isLower_respell : ∀ c, (respell c).isLower = isSpelledLetter c := by
  refine forall_char ?_ ?_ fun c hother => ?_
  · decide +kernel
  · decide +kernel
  · have htail := isSpelledTail_of_not_plain hother
    simp only [isSpelledTail, Bool.or_eq_false_iff] at htail
    rw [respell_of_not_plain hother, isLower_of_not_plain hother,
      htail.1.1.1]

theorem isSegmentTail_respell :
    ∀ c, isSegmentTail (respell c) = isSpelledTail c := by
  refine forall_char ?_ ?_ fun c hother => ?_
  · decide +kernel
  · decide +kernel
  · rw [respell_of_not_plain hother, isSegmentTail_of_not_plain hother,
      isSpelledTail_of_not_plain hother]

theorem respell_eq_separator :
    ∀ c, (respell c == separator) = isSpelledSeparator c := by
  refine forall_char ?_ ?_ fun c hother => ?_
  · decide +kernel
  · decide +kernel
  · rw [respell_of_not_plain hother, isSpelledSeparator]
    have hslash : (c == '/') = false := by
      rw [beq_eq_false_iff_ne]
      rintro rfl
      exact hother (by decide)
    rw [hslash, Bool.or_false]
    rfl

theorem isPlain_of_isSettled_respell (h : IsSettled (respell c)) :
    IsPlain c := by
  by_cases hplain : IsPlain c
  · exact hplain
  · rw [respell_of_not_plain hplain] at h
    exact h.isPlain

theorem ascii_of_isSettled_normalizeMark (h : IsSettled (normalizeMark c)) :
    c.toNat < 128 := by
  unfold normalizeMark at h
  split_ifs at h with hslash hdash
  · rw [hslash]
    decide
  · rw [hdash]
    decide
  · have hrange := h.toNat_range
    omega

-- ========================================================== canonical texts

theorem validate_of_length {s : String} (hs : s ≠ "")
    (h : s.utf8ByteSize < 3 ∨ 128 < s.utf8ByteSize) :
    validate s = .error (.invalidLength s.utf8ByteSize) := by
  rw [validate, if_neg hs]
  exact if_pos h

theorem validate_of_form {s : String} (h : validate s ≠ .ok ())
    (hlength : 3 ≤ s.utf8ByteSize ∧ s.utf8ByteSize ≤ 128) :
    validate s = .error (.invalidFormat s) := by
  unfold validate minLength maxLength at h ⊢
  split_ifs at h ⊢
  · exact absurd rfl h
  · omega
  · exact absurd rfl h
  · rfl

-- ======================================================== respelled texts

variable {cs : List Char}

theorem pieces_respell (cs : List Char) :
    pieces (String.ofList (cs.map respell))
      = (cs.splitOnP isSpelledSeparator).map fun piece =>
          String.ofList (piece.map respell) := by
  unfold pieces
  rw [String.toList_ofList, List.splitOn_eq_splitOnP, splitOnP_map,
    List.map_map, funext respell_eq_separator]
  rfl

theorem isSegment_pieces_respell :
    (∀ piece ∈ pieces (String.ofList (cs.map respell)),
        isSegment piece.toList = true)
      ↔ ∀ piece ∈ cs.splitOnP isSpelledSeparator,
          isSpelledSegment piece = true := by
  rw [pieces_respell]
  simp only [List.forall_mem_map, String.toList_ofList,
    isSegment_map isLower_respell isSegmentTail_respell]

theorem isSettled_respell
    (h : ∀ piece ∈ cs.splitOnP isSpelledSeparator,
      isSpelledSegment piece = true) : ∀ c ∈ cs.map respell, IsSettled c := by
  have hsettled := isSettled_of_pieces (isSegment_pieces_respell.2 h)
  rwa [String.toList_ofList] at hsettled

/-- The spellings are the texts that are canonical once they are
respelled. -/
theorem validate_respell_iff (hcs : cs ≠ []) :
    validate (String.ofList (cs.map respell)) = .ok () ↔ IsSpelling cs := by
  have hne : String.ofList (cs.map respell) ≠ "" := by
    simpa using hcs
  have hone : 1 ≤ (cs.splitOnP isSpelledSeparator).length :=
    List.length_pos_iff.2 (List.splitOnP_ne_nil _ _)
  rw [validate_eq_ok_iff hne, isSegment_pieces_respell, pieces_respell,
    List.length_map]
  constructor
  · intro ⟨hlength, hcount, hsegments⟩
    rw [utf8ByteSize_of_settled (isSettled_respell hsegments),
      List.length_map] at hlength
    exact ⟨⟨hone, hcount⟩, hsegments, hlength⟩
  · intro ⟨hcount, hsegments, hlength⟩
    rw [utf8ByteSize_of_settled (isSettled_respell hsegments),
      List.length_map]
    exact ⟨hlength, hcount.2, hsegments⟩

theorem IsSpelling.isPlain (h : IsSpelling cs) : ∀ c ∈ cs, IsPlain c := by
  intro c hc
  apply isPlain_of_isSettled_respell
  exact isSettled_respell h.segments _ (List.mem_map_of_mem hc)

-- ======================================================= normalized texts

variable {s : String}

/-- A plain text is normalized character by character. -/
theorem normalize_of_plain (h : ∀ c ∈ trim s.toList, IsPlain c) :
    normalize s = String.ofList ((trim s.toList).map respell) := by
  unfold normalize normalizeChars
  rw [map_lower_of_plain h]
  rfl

/-- Only a plain text becomes canonical. -/
theorem isPlain_of_validate (h : validate (normalize s) = .ok ()) :
    ∀ c ∈ trim s.toList, IsPlain c := by
  have hsettled := isSettled_of_validate h
  unfold normalize normalizeChars at hsettled
  rw [String.toList_ofList] at hsettled
  exact isPlain_of_settled_map
    (fun _ => ascii_of_isSettled_normalizeMark) hsettled

theorem normalize_eq_empty_iff : normalize s = "" ↔ trim s.toList = [] := by
  constructor
  · intro hempty
    have hplain := isPlain_of_validate (by rw [hempty]; rfl)
    rw [normalize_of_plain hplain] at hempty
    simpa using hempty
  · intro hblank
    unfold normalize normalizeChars
    rw [hblank]
    rfl

theorem validate_normalize_iff (h : trim s.toList ≠ []) :
    validate (normalize s) = .ok () ↔ IsSpelling (trim s.toList) := by
  constructor
  · intro hvalid
    rw [normalize_of_plain (isPlain_of_validate hvalid)] at hvalid
    exact (validate_respell_iff h).1 hvalid
  · intro hspells
    rw [normalize_of_plain hspells.isPlain]
    exact (validate_respell_iff h).2 hspells

-- ================================================================ parsing

theorem parse_of_validate_ok (h : validate (normalize s) = .ok ()) :
    parse s = .ok ⟨normalize s⟩ :=
  check_eq_ok h

theorem parse_of_validate_error {e : ReasonError}
    (h : validate (normalize s) = .error e) : parse s = .error e :=
  check_eq_error h

theorem IsSpelling.ne_nil (h : IsSpelling cs) : cs ≠ [] := by
  rintro rfl
  exact absurd h.length.1 (by decide)

theorem Reads.parse_eq {result : Except ReasonError Reason}
    (h : Reads s result) : parse s = result := by
  cases h with
  | blank blank =>
      have hempty := normalize_eq_empty_iff.2 blank
      rw [parse_of_validate_ok (by rw [hempty]; rfl), hempty]
      rfl
  | spelled spells =>
      have hvalid := (validate_normalize_iff spells.ne_nil).2 spells
      rw [parse_of_validate_ok hvalid, normalize_of_plain spells.isPlain]
  | wrongLength not_blank no_spelling length =>
      have hne := mt normalize_eq_empty_iff.1 not_blank
      exact parse_of_validate_error (validate_of_length hne length)
  | wrongForm not_blank no_spelling length =>
      have hinvalid := mt (validate_normalize_iff not_blank).1 no_spelling
      exact parse_of_validate_error (validate_of_form hinvalid length)

theorem exists_reads (s : String) : ∃ result, Reads s result := by
  by_cases hblank : trim s.toList = []
  · exact ⟨_, .blank hblank⟩
  · by_cases hspells : IsSpelling (trim s.toList)
    · exact ⟨_, .spelled hspells⟩
    · by_cases hlength : (normalize s).utf8ByteSize < 3
          ∨ 128 < (normalize s).utf8ByteSize
      · exact ⟨_, .wrongLength hblank hspells hlength⟩
      · exact ⟨_, .wrongForm hblank hspells (by omega)⟩

theorem parse_eq_iff {result : Except ReasonError Reason} :
    parse s = result ↔ Reads s result := by
  constructor
  · rintro rfl
    obtain ⟨result, hreads⟩ := exists_reads s
    rwa [hreads.parse_eq]
  · exact Reads.parse_eq

-- ======================================================= accepted reasons

/-- The reason is canonical, is parsed as itself, and its segments, joined
again, are its text. -/
structure IsStable (reason : Reason) : Prop where
  canonical : validate reason.text = .ok ()
  again : parse reason.text = .ok reason
  count : reason ≠ empty →
    1 ≤ reason.segments.length ∧ reason.segments.length ≤ 4
  wellFormed : ∀ segment ∈ reason.segments, isSegment segment.toList = true
  joined : joinPieces reason.segments = reason.text

theorem segments_eq_pieces {reason : Reason}
    (h : ∀ piece ∈ pieces reason.text, isSegment piece.toList = true) :
    reason.segments = pieces reason.text := by
  unfold segments
  rw [List.filter_eq_self]
  intro piece hmem
  have hsegment := h piece hmem
  cases hempty : piece.isEmpty with
  | false => rfl
  | true =>
      rw [String.isEmpty_iff.1 hempty] at hsegment
      cases hsegment

theorem isStable_of_parse {reason : Reason} (h : parse s = .ok reason) :
    reason.IsStable := by
  have hcanonical := isCanonical_of_parse h
  by_cases hempty : reason = empty
  · subst hempty
    exact ⟨hcanonical, hcanonical.parse_text, fun hne => absurd rfl hne,
      by decide +kernel, by decide +kernel⟩
  · have htext : reason.text ≠ "" := fun heq => hempty (congrArg mk heq)
    obtain ⟨-, hcount, hform⟩ := (validate_eq_ok_iff htext).1 hcanonical
    have hsegments := segments_eq_pieces hform
    have hone : 1 ≤ (pieces reason.text).length := by
      unfold pieces
      rw [List.length_map]
      exact List.length_pos_iff.2 (List.splitOn_ne_nil _ _)
    refine ⟨hcanonical, hcanonical.parse_text, fun _ => ?_, ?_, ?_⟩
    · rw [hsegments]
      exact ⟨hone, hcount⟩
    · rw [hsegments]
      exact hform
    · rw [hsegments]
      exact joinPieces_pieces reason.text

/-- What is parsed from a text: blanks alone spell the empty reason, and every
text is read as `Reads` says; the reasons that are accepted are stable. -/
theorem parse_reads (s : String) :
    (parse s = .ok empty ↔ trim s.toList = [])
      ∧ (∀ result, parse s = result ↔ Reads s result)
      ∧ ∀ reason, parse s = .ok reason → reason.IsStable := by
  refine ⟨⟨fun hempty => ?_, fun hblank => Reads.parse_eq (.blank hblank)⟩,
    fun _ => parse_eq_iff, fun _ => isStable_of_parse⟩
  rw [← normalize_eq_empty_iff]
  obtain ⟨-, hnormal⟩ := eq_ok_of_check hempty
  exact congrArg text hnormal

example : parse " \u212aafka/Main-Pool\n" = .ok ⟨"kafka.main_pool"⟩ := by
  decide +kernel

end Reason

end FaultStatus
