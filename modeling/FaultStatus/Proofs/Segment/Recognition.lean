/-
Patterns and paths are read by two recognisers of segments. What is
inserted is split first and judged piece by piece (`isSegment`); what is
looked up is scanned in place (`segmentEnd?`), from offsets of which the
scan itself knows nothing. Were the two to differ on any text, a rule could
be stored that no path ever reaches.

They do not differ (`scan_recognizes_pieces`). The offsets in question are
those at which a piece begins: the start of the path and the place behind
each separator (`StartsPiece`). There the scan has a piece of the path
ahead of it, up to the next separator or the end
(`StartsPiece.exists_ahead`), and it is then as good as `isSegment`
(`segmentEnd?_eq_some_iff`). All that is left is what this comes to for
whole paths, for a separator at the end and for reasons.
-/
import FaultStatus.Proofs.Reason.Language
import FaultStatus.Proofs.Segment.LeadingRun

namespace FaultStatus

open Text (RestAt leadByte)
open String (utf8Len)

variable {path : String} {off : Nat} {cs : List Char}

-- =================================================== where pieces begin

/-- A piece of the path begins at the offset. -/
inductive StartsPiece (path : String) : Nat → Prop where
  | first : StartsPiece path 0
  /-- The byte before it is a separator. -/
  | later {i : Nat} (inside : i < path.toByteArray.size)
      (after_separator : path.toByteArray[i] = separator.toUInt8) :
      StartsPiece path (i + 1)

theorem pieceAhead_mem_splitOn (cs : List Char) :
    pieceAhead cs ∈ cs.splitOn separator := by
  rcases splitOn_separator_cases cs with ⟨-, hsplit⟩ | ⟨rest, -, hsplit⟩
  · rw [hsplit]
    exact List.mem_singleton_self _
  · rw [hsplit]
    exact List.mem_cons_self

/-- Where a piece begins, one of the pieces of the path is ahead. -/
theorem StartsPiece.exists_ahead (h : StartsPiece path off) :
    ∃ cs, RestAt path off cs ∧ String.ofList (pieceAhead cs) ∈ pieces path := by
  cases h with
  | first =>
    refine ⟨path.toList, RestAt.start path, ?_⟩
    exact List.mem_map_of_mem (pieceAhead_mem_splitOn _)
  | @later i inside after_separator =>
    have hascii : path.toByteArray[i].toNat < 128 := by
      rw [after_separator]
      decide
    obtain ⟨c, cs, hrest, hbyte⟩ := Text.exists_restAt_of_ascii inside hascii
    have hc : c = separator := by
      rw [after_separator] at hbyte
      rw [← beq_iff_eq, ← leadByte_beq c (by decide), hbyte, beq_self_eq_true]
    subst hc
    refine ⟨cs, hrest.advance_ascii (by decide), ?_⟩
    obtain ⟨read, htext, -⟩ := hrest
    unfold pieces
    rw [htext, List.splitOn_append_cons_self]
    apply List.mem_map_of_mem
    exact List.mem_append_right _ (pieceAhead_mem_splitOn cs)

-- ========================================================== whole paths

/-- A separator at the end adds a piece, but no segment. -/
theorem leadingRun_append_separator (path : String) :
    leadingRun (path ++ String.singleton separator) = leadingRun path := by
  have hlonger : path ++ String.singleton separator = prolong path "" := by
    rw [prolong, String.append_empty]
  have hlast : pieces "" = [""] := by decide
  unfold leadingRun
  rw [hlonger, pieces_prolong, hlast, List.takeWhile_append]
  split
  next hall =>
    rw [(List.takeWhile_prefix _).eq_of_length hall]
    exact List.append_nil _
  next => rfl

/-- The leading run of a reason that is not empty is the reason. -/
theorem Reason.IsCanonical.leadingRun_text {reason : Reason}
    (h : reason.IsCanonical) (hne : reason ≠ empty) :
    leadingRun reason.text = reason.segments := by
  have hform := h.isSegment_pieces hne
  rw [leadingRun_of_segments hform, segments_eq_pieces hform]

/-- The scan in place and the judgement on a piece by itself recognise the
same segments. Where a piece of the path begins, the scan finds an end if and
only if the piece that is ahead there is a segment, and it finds the end of
that piece. From the start of the path on, it finds the longest run of pieces
that are segments, which a separator at the end makes no longer, and which is
all of a reason that is not empty. -/
theorem scan_recognizes_pieces (path : String) :
    (∀ off, StartsPiece path off →
        ∃ ahead, RestAt path off ahead
          ∧ String.ofList (pieceAhead ahead) ∈ pieces path
          ∧ ∀ stop, segmentEnd? path.toByteArray off = some stop
              ↔ isSegment (pieceAhead ahead) = true
                ∧ stop = off + utf8Len (pieceAhead ahead))
      ∧ leadingSegments path = (pieces path).takeWhile (isSegment ·.toList)
      ∧ leadingSegments (path ++ String.singleton separator)
        = leadingSegments path
      ∧ ∀ reason : Reason, reason.text = path → reason.IsCanonical →
          reason ≠ .empty → leadingSegments path = reason.segments := by
  simp only [leadingSegments_eq_leadingRun]
  refine ⟨fun off hoff => ?_, rfl, leadingRun_append_separator path, ?_⟩
  · obtain ⟨ahead, hrest, hpiece⟩ := hoff.exists_ahead
    refine ⟨ahead, hrest, hpiece, fun stop => ?_⟩
    rw [segmentEnd?_eq_some_iff hrest]
    apply and_congr_right
    intro hseg
    rw [Text.utf8Len_ascii (isSegment_ascii hseg)]
  · intro reason htext hcanonical hne
    subst htext
    exact hcanonical.leadingRun_text hne

end FaultStatus
