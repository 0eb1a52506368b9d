/-
What is wrong with a text that is no pattern. Several things may be wrong at
once, as in `*..B`; the text is refused for one of them only
(`Pattern.Fault`): the empty text for being empty, any other for its leftmost
piece that is neither the wildcard nor a segment, and if there is no such
piece, for having no segment. The parser reports this fault and no other
(`parse_eq_error_iff`).
-/
import FaultStatus.Proofs.Pattern.Grammar

namespace FaultStatus

namespace Piece

/-- A text that stands for a piece. -/
def Stands (text : String) : Prop :=
  text = wildcardText ∨ isSegment text.toList = true

theorem parse_eq_error_iff {text : String} {e : PatternError} :
    parse text = .error e
      ↔ (text = "" ∧ e = .emptySegment)
        ∨ (text ≠ "" ∧ ¬ Stands text ∧ e = .invalidSegment text) := by
  by_cases hstands : Stands text
  · obtain ⟨piece, hpiece⟩ := exists_parse_iff.2 hstands
    have hne : text ≠ "" := by
      intro hempty
      rw [hempty] at hpiece
      cases hpiece
    simp [hpiece, hne, hstands]
  · have hwild : text ≠ wildcardText := fun h => hstands (Or.inl h)
    have hseg : isSegment text.toList ≠ true := fun h => hstands (Or.inr h)
    unfold parse
    rw [if_neg hwild, if_neg hseg]
    by_cases hempty : text = ""
    · simp [hempty, eq_comm]
    · simp [hempty, hstands, eq_comm]

end Piece

namespace Pattern

open Piece (Stands)

/-- The fault that a text is refused for. -/
inductive Fault (text : String) : PatternError → Prop where
  /-- There is no text. -/
  | empty (no_text : text = "") : Fault text .empty
  /-- The leftmost piece at fault is empty. -/
  | emptySegment {before after : List String} (some_text : text ≠ "")
      (place : FaultStatus.pieces text = before ++ "" :: after)
      (leftmost : ∀ piece ∈ before, Stands piece) :
      Fault text .emptySegment
  /-- The leftmost piece at fault has a character that it must not have. -/
  | invalidSegment {before after : List String} {piece : String}
      (some_text : text ≠ "")
      (place : FaultStatus.pieces text = before ++ piece :: after)
      (leftmost : ∀ piece ∈ before, Stands piece)
      (some_piece : piece ≠ "") (invalid : ¬ Stands piece) :
      Fault text (.invalidSegment piece)
  /-- No piece is at fault, but none is a segment either. -/
  | allWildcard (some_text : text ≠ "")
      (wild : ∀ piece ∈ FaultStatus.pieces text, piece = wildcardText) :
      Fault text .allWildcard

theorem parse_eq_error_of_piece {text piece : String} {e : PatternError}
    {before after : List String} (some_text : text ≠ "")
    (place : FaultStatus.pieces text = before ++ piece :: after)
    (leftmost : ∀ p ∈ before, Stands p) (h : Piece.parse piece = .error e) :
    parse text = .error e := by
  have hrow : (FaultStatus.pieces text).mapM Piece.parse = .error e := by
    apply FirstError.mapM_eq_error_iff.2
    refine ⟨before, piece, after, place, ?_, h⟩
    intro p hp
    exact Piece.exists_parse_iff.2 (leftmost p hp)
  rw [parse_of_ne_empty some_text, hrow]

theorem mapM_parse_of_wild {texts : List String}
    (h : ∀ piece ∈ texts, piece = wildcardText) :
    texts.mapM Piece.parse
      = .ok (List.replicate texts.length .wildcard) := by
  apply mapM_parse_eq_ok_iff.2
  constructor
  · rw [List.map_replicate]
    exact (List.eq_replicate_of_mem h).symm
  · intro piece hp
    rw [List.eq_of_mem_replicate hp]
    trivial

theorem Fault.parse_eq {text : String} {e : PatternError} (h : Fault text e) :
    parse text = .error e := by
  cases h with
  | empty no_text =>
      rw [no_text]
      rfl
  | emptySegment some_text place leftmost =>
      exact parse_eq_error_of_piece some_text place leftmost rfl
  | invalidSegment some_text place leftmost some_piece invalid =>
      apply parse_eq_error_of_piece some_text place leftmost
      exact Piece.parse_eq_error_iff.2 (Or.inr ⟨some_piece, invalid, rfl⟩)
  | allWildcard some_text wild =>
      rw [parse_of_ne_empty some_text, mapM_parse_of_wild wild]
      simp

theorem fault_of_parse {text : String} {e : PatternError}
    (h : parse text = .error e) : Fault text e := by
  by_cases hne : text = ""
  · subst hne
    cases h
    exact .empty rfl
  · rw [parse_of_ne_empty hne] at h
    cases hrow : (FaultStatus.pieces text).mapM Piece.parse with
    | error e' =>
        rw [hrow] at h
        cases h
        obtain ⟨before, piece, after, place, hbefore, hpiece⟩ :=
          FirstError.mapM_eq_error_iff.1 hrow
        have leftmost : ∀ p ∈ before, Stands p := by
          intro p hp
          exact Piece.exists_parse_iff.1 (hbefore p hp)
        rcases Piece.parse_eq_error_iff.1 hpiece with
          ⟨rfl, rfl⟩ | ⟨some_piece, invalid, rfl⟩
        · exact .emptySegment hne place leftmost
        · exact .invalidSegment hne place leftmost some_piece invalid
    | ok row =>
        simp only [hrow] at h
        split at h
        next hall =>
          cases h
          obtain ⟨htexts, -⟩ := mapM_parse_eq_ok_iff.1 hrow
          refine .allWildcard hne ?_
          intro piece hp
          rw [← htexts] at hp
          obtain ⟨p, hmem, rfl⟩ := List.mem_map.1 hp
          have hwild := List.all_eq_true.1 hall p hmem
          rw [of_decide_eq_true hwild]
          rfl
        next => cases h

/-- A text is refused for its fault and for no other. -/
theorem parse_eq_error_iff {text : String} {e : PatternError} :
    parse text = .error e ↔ Fault text e :=
  ⟨fault_of_parse, Fault.parse_eq⟩

/-- A text with faults of every kind is refused for the leftmost. -/
example : Fault "*..B" .emptySegment :=
  parse_eq_error_iff.1 (by decide +kernel)

end Pattern

end FaultStatus
