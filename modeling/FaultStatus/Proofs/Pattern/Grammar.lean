/-
The grammar of patterns. A text is a pattern if it is not empty, each of
its pieces is the wildcard or a segment, and one of them at least is a
segment (`Pattern.Acceptable`); the texts that `Pattern.parse` reads are
exactly these (`exists_parse_iff`). What it reads is the text again, piece
by piece (`parse_eq_ok_iff`), so that no two texts stand for one pattern
(`parse_injective`).
-/
import FaultStatus.Pattern
import FaultStatus.Proofs.FirstError

namespace FaultStatus

-- ========================================================== dotted texts

/-- The pieces of a text, joined again, are the text. -/
theorem joinPieces_pieces (text : String) :
    joinPieces (pieces text) = text := by
  apply String.toList_inj.1
  unfold joinPieces pieces
  rw [String.toList_intercalate, List.map_map, String.toList_singleton]
  have hid : (fun cs => (String.ofList cs).toList) = id := by
    funext cs
    exact String.toList_ofList
  rw [show (String.toList ∘ String.ofList) = id from hid, List.map_id,
    List.intercalate_splitOn]

namespace Piece

/-- A piece as patterns hold it: a literal is a segment. -/
def Sound : Piece → Prop
  | literal segment => isSegment segment.toList = true
  | wildcard => True

theorem parse_eq_ok_iff {text : String} {piece : Piece} :
    parse text = .ok piece ↔ piece.text = text ∧ piece.Sound := by
  unfold parse
  refine ⟨fun h => ?_, fun ⟨htext, hsound⟩ => ?_⟩
  · split at h
    · cases h
    · split at h
      next hwild =>
        cases h
        exact ⟨hwild.symm, trivial⟩
      next =>
        split at h
        next hseg =>
          cases h
          exact ⟨rfl, hseg⟩
        next => cases h
  · subst htext
    cases piece with
    | wildcard => rfl
    | literal segment =>
      have hseg : isSegment segment.toList = true := hsound
      have hne : segment ≠ "" := by
        intro heq
        rw [heq] at hseg
        exact absurd hseg (by decide)
      have hlit : segment ≠ wildcardText := by
        intro heq
        rw [heq] at hseg
        exact absurd hseg (by decide)
      rw [text, if_neg hne, if_neg hlit, if_pos hseg]

/-- A text is a piece if it is the wildcard or a segment. -/
theorem exists_parse_iff {text : String} :
    (∃ piece, parse text = .ok piece)
      ↔ text = wildcardText ∨ isSegment text.toList = true := by
  refine ⟨fun ⟨piece, h⟩ => ?_, fun h => ?_⟩
  · obtain ⟨htext, hsound⟩ := parse_eq_ok_iff.1 h
    subst htext
    cases piece with
    | wildcard => exact Or.inl rfl
    | literal segment => exact Or.inr hsound
  · rcases h with hwild | hseg
    · exact ⟨.wildcard, parse_eq_ok_iff.2 ⟨hwild.symm, trivial⟩⟩
    · exact ⟨.literal text, parse_eq_ok_iff.2 ⟨rfl, hseg⟩⟩

end Piece

namespace Pattern

-- ============================================================ the parser

/-- A pattern as the parser yields it: its literals are segments, and it
has one. -/
structure Sound (pattern : Pattern) : Prop where
  /-- Every literal is a segment. -/
  pieces_sound : ∀ piece ∈ pattern.pieces, piece.Sound
  /-- Not all pieces are the wildcard. -/
  not_all_wildcard : ∃ piece ∈ pattern.pieces, piece ≠ .wildcard

/-- The parser on a text that is not empty, step by step. -/
theorem parse_of_ne_empty {text : String} (h : text ≠ "") :
    parse text =
      match (FaultStatus.pieces text).mapM Piece.parse with
      | .error e => .error e
      | .ok row =>
        if row.all (· = .wildcard) then .error .allWildcard
        else .ok ⟨row⟩ := by
  unfold parse
  rw [if_neg h]
  cases (FaultStatus.pieces text).mapM Piece.parse with
  | error e => rfl
  | ok row =>
    show (if row.all (· = .wildcard) = true then _ else _)
      = (if row.all (· = .wildcard) = true then _ else _)
    by_cases hall : row.all (· = .wildcard) = true
    · rw [if_pos hall, if_pos hall]
      rfl
    · rw [if_neg hall, if_neg hall]
      rfl

theorem mapM_parse_eq_ok_iff {texts : List String} {row : List Piece} :
    texts.mapM Piece.parse = .ok row
      ↔ row.map Piece.text = texts ∧ ∀ piece ∈ row, piece.Sound := by
  rw [FirstError.mapM_eq_ok_iff]
  refine ⟨fun h => ?_, fun h => ?_⟩
  · induction h with
    | nil => exact ⟨rfl, fun piece hp => absurd hp List.not_mem_nil⟩
    | cons hpiece _ ih =>
      obtain ⟨htext, hsound⟩ := Piece.parse_eq_ok_iff.1 hpiece
      refine ⟨?_, ?_⟩
      · rw [List.map_cons, htext, ih.1]
      · exact List.forall_mem_cons.2 ⟨hsound, ih.2⟩
  · obtain ⟨htexts, hsound⟩ := h
    subst htexts
    induction row with
    | nil => exact List.Forall₂.nil
    | cons piece row ih =>
      rw [List.map_cons]
      obtain ⟨hpiece, hrow⟩ := List.forall_mem_cons.1 hsound
      exact .cons (Piece.parse_eq_ok_iff.2 ⟨rfl, hpiece⟩) (ih hrow)

/-- What the parser reads is what the text says, piece by piece. -/
theorem parse_eq_ok_iff {text : String} {pattern : Pattern} :
    parse text = .ok pattern
      ↔ pattern.pieces.map Piece.text = FaultStatus.pieces text
        ∧ pattern.Sound := by
  by_cases hne : text = ""
  · subst hne
    refine ⟨fun h => ?_, fun ⟨htexts, hsound⟩ => ?_⟩
    · cases h
    · -- the one piece of the empty text is empty, which no sound piece is
      have hmem : "" ∈ pattern.pieces.map Piece.text := by
        rw [htexts]
        decide
      obtain ⟨piece, hp, htext⟩ := List.mem_map.1 hmem
      have hparse := Piece.parse_eq_ok_iff.2
        ⟨htext, hsound.pieces_sound piece hp⟩
      cases hparse
  · rw [parse_of_ne_empty hne]
    have hany : ∀ row : List Piece, row.all (· = .wildcard) = true
        ↔ ¬ ∃ piece ∈ row, piece ≠ .wildcard := by
      intro row
      simp
    cases hrow : (FaultStatus.pieces text).mapM Piece.parse with
    | error e =>
      refine ⟨fun h => ?_, fun ⟨htexts, hsound⟩ => ?_⟩
      · cases h
      · rw [mapM_parse_eq_ok_iff.2 ⟨htexts, hsound.pieces_sound⟩] at hrow
        cases hrow
    | ok row =>
      obtain ⟨htexts, hpieces⟩ := mapM_parse_eq_ok_iff.1 hrow
      show (if row.all (· = .wildcard) = true then Except.error _
        else Except.ok (Pattern.mk row)) = _ ↔ _
      refine ⟨fun h => ?_, fun ⟨htexts', hsound⟩ => ?_⟩
      · split at h
        · cases h
        · next hall =>
          cases h
          rw [hany, not_not] at hall
          exact ⟨htexts, hpieces, hall⟩
      · rw [mapM_parse_eq_ok_iff.2 ⟨htexts', hsound.pieces_sound⟩] at hrow
        cases hrow
        rw [if_neg]
        rw [hany, not_not]
        exact hsound.not_all_wildcard

/-- A pattern is written as the text it was read from. -/
theorem text_of_parse {text : String} {pattern : Pattern}
    (h : parse text = .ok pattern) : pattern.text = text := by
  obtain ⟨htexts, -⟩ := parse_eq_ok_iff.1 h
  rw [Pattern.text, htexts, joinPieces_pieces]

/-- No two texts stand for one pattern. -/
theorem parse_injective {text other : String} {pattern : Pattern}
    (h : parse text = .ok pattern) (h' : parse other = .ok pattern) :
    text = other := by
  rw [← text_of_parse h, text_of_parse h']

-- =========================================================== the grammar

/-- A text that stands for a pattern. -/
structure Acceptable (text : String) : Prop where
  /-- There is a text. -/
  nonempty : text ≠ ""
  /-- Each piece is the wildcard or a segment. -/
  pieces_sound : ∀ piece ∈ FaultStatus.pieces text,
    piece = wildcardText ∨ isSegment piece.toList = true
  /-- Not all pieces are the wildcard. -/
  not_all_wildcard : ∃ piece ∈ FaultStatus.pieces text, piece ≠ wildcardText

/-- The parser reads the texts of the grammar and no others. -/
theorem exists_parse_iff {text : String} :
    (∃ pattern, parse text = .ok pattern) ↔ Acceptable text := by
  refine ⟨fun ⟨pattern, h⟩ => ?_, fun h => ?_⟩
  · obtain ⟨htexts, hsound⟩ := parse_eq_ok_iff.1 h
    refine ⟨fun hempty => ?_, fun text hmem => ?_, ?_⟩
    · rw [hempty] at h
      cases h
    · rw [← htexts] at hmem
      obtain ⟨piece, hp, htext⟩ := List.mem_map.1 hmem
      exact Piece.exists_parse_iff.1 ⟨piece, Piece.parse_eq_ok_iff.2
        ⟨htext, hsound.pieces_sound piece hp⟩⟩
    · obtain ⟨piece, hp, hne⟩ := hsound.not_all_wildcard
      refine ⟨piece.text, ?_, fun htext => ?_⟩
      · rw [← htexts]
        exact List.mem_map_of_mem hp
      · have hparse := Piece.parse_eq_ok_iff.2
          ⟨htext, hsound.pieces_sound piece hp⟩
        cases hparse
        exact hne rfl
  · cases hrow : (FaultStatus.pieces text).mapM Piece.parse with
    | error e =>
      obtain ⟨before, piece, after, hsplit, -, hbad⟩ :=
        FirstError.mapM_eq_error_iff.1 hrow
      have hmem : piece ∈ FaultStatus.pieces text := by
        rw [hsplit]
        exact List.mem_append_right _ List.mem_cons_self
      obtain ⟨read, hread⟩ :=
        Piece.exists_parse_iff.2 (h.pieces_sound piece hmem)
      rw [hread] at hbad
      cases hbad
    | ok row =>
      obtain ⟨htexts, hpieces⟩ := mapM_parse_eq_ok_iff.1 hrow
      refine ⟨⟨row⟩, parse_eq_ok_iff.2 ⟨htexts, hpieces, ?_⟩⟩
      obtain ⟨text', hmem, hne⟩ := h.not_all_wildcard
      rw [← htexts] at hmem
      obtain ⟨piece, hp, htext⟩ := List.mem_map.1 hmem
      refine ⟨piece, hp, fun hwild => hne ?_⟩
      rw [← htext, hwild]
      rfl

end Pattern

end FaultStatus
