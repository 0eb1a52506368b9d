/-
The scan of a path agrees with its pieces. `leadingSegments` finds the
leading segments byte by byte within the path; `pieces` splits the whole
path first, and `isSegment` judges each piece by itself. Both come to the
same (`leadingSegments_eq_leadingRun`), on any text: with empty pieces,
with separators at the end, with characters of several bytes.

The argument follows the scan from the inside out, with `RestAt` as the
invariant: at each byte that the scan stops at, a character begins.

- One byte: the classes of bytes are those of characters
  (`isHeadByte_leadByte`, `isTailByte_leadByte`).
- One piece: the scan reaches the end of the piece that it starts in if
  and only if the piece is a segment (`segmentEnd?_eq`).
- All pieces: as a segment is followed by a separator or by the end, the
  next start is that of the next piece (`map_text_spansFrom`).
-/
import FaultStatus.Proofs.Text.Utf8
import FaultStatus.Segment
import Mathlib.Data.List.TakeWhile

namespace FaultStatus

open Text (RestAt leadByte)
open String (utf8Len)

variable {path : String} {i : Nat} {c : Char} {cs : List Char}

-- ====================================================== classes of bytes

/-- A character of ASCII as a byte keeps its number. -/
theorem toNat_toUInt8_ascii {a : Char} (ha : a.toNat < 128) :
    a.toUInt8.toNat = a.toNat := by
  show a.toNat % 256 = a.toNat
  omega

/-- A range within ASCII holds a character if and only if it holds its
leading byte. -/
theorem leadByte_mem_range (c : Char) {lo hi : Char}
    (hlo : lo.toNat < 128) (hhi : hi.toNat < 128) :
    (decide (lo.toUInt8 ≤ leadByte c) && decide (leadByte c ≤ hi.toUInt8))
      = (decide (lo ≤ c) && decide (c ≤ hi)) := by
  rw [Bool.eq_iff_iff]
  simp only [Bool.and_eq_true, decide_eq_true_eq, UInt8.le_iff_toNat_le,
    Char.le_def, UInt32.le_iff_toNat_le, Char.toNat_val,
    toNat_toUInt8_ascii hlo, toNat_toUInt8_ascii hhi]
  rcases Nat.lt_or_ge c.toNat 128 with h | h
  · rw [Text.leadByte_ascii h]
  · have := Text.leadByte_of_not_ascii h
    omega

/-- A character of ASCII is known by its leading byte. -/
theorem leadByte_beq (c : Char) {a : Char} (ha : a.toNat < 128) :
    (leadByte c == a.toUInt8) = (c == a) := by
  rw [Bool.eq_iff_iff, beq_iff_eq, beq_iff_eq, ← UInt8.toNat_inj,
    toNat_toUInt8_ascii ha, ← Char.toNat_inj]
  rcases Nat.lt_or_ge c.toNat 128 with h | h
  · rw [Text.leadByte_ascii h]
  · have := Text.leadByte_of_not_ascii h
    omega

theorem isHeadByte_leadByte (c : Char) :
    isHeadByte (leadByte c) = c.isLower :=
  leadByte_mem_range c (by decide) (by decide)

theorem isTailByte_leadByte (c : Char) :
    isTailByte (leadByte c) = isSegmentTail c := by
  have hdigit : (decide ('0'.toUInt8 ≤ leadByte c)
      && decide (leadByte c ≤ '9'.toUInt8)) = c.isDigit :=
    leadByte_mem_range c (by decide) (by decide)
  unfold isTailByte isSegmentTail
  rw [isHeadByte_leadByte, hdigit, leadByte_beq c (by decide)]

-- ======================================================== a single piece

/-- The characters up to the next separator, or all if there is none. -/
def pieceAhead (cs : List Char) : List Char :=
  cs.takeWhile (· != separator)

/-- A path is a piece and, unless that is the last one, a separator and a
path again. -/
theorem splitOn_separator_cases (cs : List Char) :
    (cs = pieceAhead cs ∧ cs.splitOn separator = [pieceAhead cs])
      ∨ ∃ rest, cs = pieceAhead cs ++ separator :: rest
          ∧ cs.splitOn separator
            = pieceAhead cs :: rest.splitOn separator := by
  have hnone : separator ∉ pieceAhead cs := by
    intro hmem
    have hall : (pieceAhead cs).all (· != separator) = true :=
      List.all_takeWhile
    have := List.all_eq_true.1 hall separator hmem
    simp at this
  have hsplit : pieceAhead cs ++ cs.dropWhile (· != separator) = cs :=
    List.takeWhile_append_dropWhile
  cases hdrop : cs.dropWhile (· != separator) with
  | nil =>
    left
    rw [hdrop, List.append_nil] at hsplit
    refine ⟨hsplit.symm, ?_⟩
    rw [hsplit] at hnone ⊢
    exact List.splitOn_eq_singleton hnone
  | cons d rest =>
    right
    have hd : d = separator := by
      have hhead := List.head?_dropWhile_not (· != separator) cs
      rw [hdrop] at hhead
      simpa using hhead
    subst hd
    rw [hdrop] at hsplit
    refine ⟨rest, hsplit.symm, ?_⟩
    rw [← List.splitOn_append_cons_self_of_not_mem hnone, hsplit]

theorem isSegmentTail_ascii (h : isSegmentTail c = true) :
    c.toNat < 128 := by
  unfold isSegmentTail at h
  simp only [Bool.or_eq_true, beq_iff_eq] at h
  rcases h with (h | h) | rfl
  · have hle : c.toNat ≤ 'z'.toNat :=
      of_decide_eq_true ((Bool.and_eq_true _ _).mp h).2
    have hz : 'z'.toNat = 122 := rfl
    omega
  · have hle : c.toNat ≤ '9'.toNat :=
      of_decide_eq_true ((Bool.and_eq_true _ _).mp h).2
    have h9 : '9'.toNat = 57 := rfl
    omega
  · decide

theorem isSegment_ascii {piece : List Char} (h : isSegment piece = true) :
    ∀ c ∈ piece, c.toNat < 128 := by
  cases piece with
  | nil => cases h
  | cons d tail =>
    simp only [isSegment, Bool.and_eq_true, List.all_eq_true] at h
    intro c hc
    apply isSegmentTail_ascii
    rcases List.mem_cons.1 hc with rfl | hc
    · simp [isSegmentTail, h.1]
    · exact h.2 c hc

/-- From within a piece the scan reaches the end of the piece if and only
if all of its characters ahead may stand in a segment. -/
theorem tailEnd?_eq (h : RestAt path i cs) :
    tailEnd? path.toByteArray i
      = if (pieceAhead cs).all isSegmentTail then
          some (i + (pieceAhead cs).length)
        else none := by
  induction cs generalizing i with
  | nil =>
    have hend : ¬ i < path.toByteArray.size := by
      rw [h.lt_size_iff]
      exact fun hne => hne rfl
    rw [tailEnd?, dif_neg hend]
    rfl
  | cons c cs ih =>
    have hlt : i < path.toByteArray.size :=
      h.lt_size_iff.2 (List.cons_ne_nil c cs)
    rw [tailEnd?, dif_pos hlt, h.getElem_eq hlt, isTailByte_leadByte,
      leadByte_beq c (by decide)]
    by_cases hsep : c = separator
    · simp [pieceAhead, hsep]
    · have hpiece : pieceAhead (c :: cs) = c :: pieceAhead cs := by
        simp [pieceAhead, hsep]
      rw [hpiece, if_neg (by simpa using hsep), List.all_cons,
        List.length_cons]
      by_cases htail : isSegmentTail c = true
      · have hnext := h.advance_ascii (isSegmentTail_ascii htail)
        rw [if_pos htail, ih hnext, htail, Bool.true_and, Nat.add_assoc,
          Nat.add_comm 1]
      · rw [if_neg htail, Bool.eq_false_of_not_eq_true htail]
        rfl

/-- From the start of a piece the scan reaches its end if and only if the
piece is a segment. -/
theorem segmentEnd?_eq (h : RestAt path i cs) :
    segmentEnd? path.toByteArray i
      = if isSegment (pieceAhead cs) then
          some (i + (pieceAhead cs).length)
        else none := by
  cases cs with
  | nil =>
    have hend : ¬ i < path.toByteArray.size := by
      rw [h.lt_size_iff]
      exact fun hne => hne rfl
    rw [segmentEnd?, dif_neg hend]
    rfl
  | cons c cs =>
    have hlt : i < path.toByteArray.size :=
      h.lt_size_iff.2 (List.cons_ne_nil c cs)
    rw [segmentEnd?, dif_pos hlt, h.getElem_eq hlt, isHeadByte_leadByte]
    by_cases hsep : c = separator
    · subst hsep
      rfl
    · have hpiece : pieceAhead (c :: cs) = c :: pieceAhead cs := by
        simp [pieceAhead, hsep]
      rw [hpiece, isSegment, List.length_cons]
      by_cases hhead : c.isLower = true
      · have htail : isSegmentTail c = true := by
          simp [isSegmentTail, hhead]
        have hnext := h.advance_ascii (isSegmentTail_ascii htail)
        rw [if_pos hhead, tailEnd?_eq hnext, hhead, Bool.true_and,
          Nat.add_assoc, Nat.add_comm 1]
      · rw [if_neg hhead, Bool.eq_false_of_not_eq_true hhead]
        rfl

/-- On a boundary, the scan finds an end if and only if the piece ahead is
a segment, and then the end of that piece. -/
theorem segmentEnd?_eq_some_iff (h : RestAt path i cs) {stop : Nat} :
    segmentEnd? path.toByteArray i = some stop
      ↔ isSegment (pieceAhead cs) = true
        ∧ stop = i + (pieceAhead cs).length := by
  rw [segmentEnd?_eq h]
  split
  next hseg =>
    rw [Option.some_inj, eq_comm]
    exact (and_iff_right hseg).symm
  next hseg => simp [hseg]

/-- Wherever the scan finds a segment it has started on a boundary, with
the segment ahead: the byte that it read first is one of ASCII. -/
theorem exists_restAt_of_segmentEnd? {stop : Nat}
    (h : segmentEnd? path.toByteArray i = some stop) :
    ∃ cs, RestAt path i cs ∧ isSegment (pieceAhead cs) = true
      ∧ stop = i + (pieceAhead cs).length := by
  have hrest : ∃ cs, RestAt path i cs := by
    unfold segmentEnd? at h
    split at h
    next hlt =>
      split at h
      next hhead =>
        simp only [isHeadByte, Bool.and_eq_true, decide_eq_true_eq,
          UInt8.le_iff_toNat_le] at hhead
        have hz : 'z'.toUInt8.toNat = 122 := rfl
        have hascii : path.toByteArray[i].toNat < 128 := by omega
        obtain ⟨c, cs, hrest, -⟩ := Text.exists_restAt_of_ascii hlt hascii
        exact ⟨c :: cs, hrest⟩
      next => cases h
    next => cases h
  obtain ⟨cs, hrest⟩ := hrest
  exact ⟨cs, hrest, (segmentEnd?_eq_some_iff hrest).1 h⟩

-- ============================================================ all pieces

/-- What is ahead is the piece ahead and what comes behind it. -/
theorem restAt_piece (h : RestAt path i cs) :
    RestAt path i (pieceAhead cs ++ cs.dropWhile (· != separator)) := by
  rwa [pieceAhead, List.takeWhile_append_dropWhile]

/-- The span of a segment covers the segment. -/
theorem text_span_eq (h : RestAt path i cs)
    (hseg : isSegment (pieceAhead cs) = true) :
    Span.text path ⟨i, i + (pieceAhead cs).length⟩
      = String.ofList (pieceAhead cs) := by
  rw [← Text.utf8Len_ascii (isSegment_ascii hseg)]
  exact (restAt_piece h).extract_eq

/-- After a segment the scan goes on at a boundary, and what it has ahead
of it there are the pieces after the segment. -/
theorem restAt_nextStart (h : RestAt path i cs)
    (hseg : isSegment (pieceAhead cs) = true) :
    ∃ rest,
      RestAt path
        (nextStart path.toByteArray (i + (pieceAhead cs).length)) rest
      ∧ rest.length < cs.length
      ∧ (cs.splitOn separator).takeWhile isSegment
        = pieceAhead cs :: (rest.splitOn separator).takeWhile isSegment := by
  have hbytes : utf8Len (pieceAhead cs) = (pieceAhead cs).length :=
    Text.utf8Len_ascii (isSegment_ascii hseg)
  rcases splitOn_separator_cases cs with
    ⟨hcs, hsplit⟩ | ⟨rest, hcs, hsplit⟩
  · -- the last piece: the next start is the end, where no segment starts
    have hpath : RestAt path i (pieceAhead cs ++ []) := by
      rwa [List.append_nil, ← hcs]
    have hend := hpath.advance
    refine ⟨[], ?_, ?_, ?_⟩
    · rw [nextStart, ← hbytes, if_neg]
      · exact hend
      · rw [hend.lt_size_iff]
        exact fun hne => hne rfl
    · cases cs with
      | nil => cases hseg
      | cons c cs => exact Nat.succ_pos _
    · rw [hsplit, List.takeWhile_cons_of_pos hseg]
      rfl
  · have hpath : RestAt path i (pieceAhead cs ++ separator :: rest) := by
      rwa [← hcs]
    have hsep := hpath.advance
    refine ⟨rest, ?_, ?_, ?_⟩
    · rw [nextStart, ← hbytes, if_pos]
      · exact hsep.advance_ascii (by decide)
      · rw [hsep.lt_size_iff]
        exact List.cons_ne_nil separator rest
    · rw [hcs, List.length_append, List.length_cons]
      omega
    · rw [hsplit, List.takeWhile_cons_of_pos hseg]

/-- The segments found from a boundary on are the leading ones among the
pieces from there on. -/
theorem map_text_spansFrom (h : RestAt path i cs) :
    (spansFrom path.toByteArray i).map (·.text path)
      = ((cs.splitOn separator).takeWhile isSegment).map String.ofList := by
  induction hn : cs.length using Nat.strongRecOn generalizing i cs with
  | ind n ih =>
    rw [spansFrom]
    by_cases hseg : isSegment (pieceAhead cs) = true
    · obtain ⟨rest, hnext, hlen, hrun⟩ := restAt_nextStart h hseg
      rw [segmentEnd?_eq h, if_pos hseg]
      simp only [List.map_cons]
      rw [text_span_eq h hseg, ih rest.length (hn ▸ hlen) hnext rfl, hrun,
        List.map_cons]
    · -- the scan ends at a piece that is no segment
      rw [segmentEnd?_eq h, if_neg hseg]
      rcases splitOn_separator_cases cs with
        ⟨-, hsplit⟩ | ⟨rest, -, hsplit⟩
      · rw [hsplit, List.takeWhile_cons_of_neg hseg]
        rfl
      · rw [hsplit, List.takeWhile_cons_of_neg hseg]
        rfl

/-- The longest run of segments at the start of the pieces of a path. -/
def leadingRun (path : String) : List String :=
  (pieces path).takeWhile (isSegment ·.toList)

/-- The scan in place and the split of the whole path find the same leading
run of segments. -/
theorem leadingSegments_eq_leadingRun (path : String) :
    leadingSegments path = leadingRun path := by
  rw [leadingSegments, map_text_spansFrom (RestAt.start path), leadingRun,
    pieces, List.takeWhile_map]
  congr 2
  funext piece
  exact (congrArg isSegment String.toList_ofList).symm

/-- Where all pieces are segments, the leading run is all of them. -/
theorem leadingRun_of_segments
    (h : ∀ piece ∈ pieces path, isSegment piece.toList = true) :
    leadingRun path = pieces path :=
  List.takeWhile_eq_self_iff.2 h

-- ========================================================== longer paths

/-- The path with more text behind a separator. -/
def prolong (path more : String) : String :=
  path ++ String.singleton separator ++ more

theorem pieces_prolong (path more : String) :
    pieces (prolong path more) = pieces path ++ pieces more := by
  unfold pieces prolong
  simp only [String.toList_append, String.toList_singleton,
    List.append_assoc, List.singleton_append]
  rw [List.splitOn_append_cons_self, List.map_append]

/-- The leading run goes on into the added text only if all of the path is
segments; it never gets shorter. -/
theorem leadingRun_prefix (path more : String) :
    ∃ rest, leadingRun (prolong path more) = leadingRun path ++ rest := by
  unfold leadingRun
  rw [pieces_prolong, List.takeWhile_append]
  split
  next hall =>
    refine ⟨(pieces more).takeWhile (isSegment ·.toList), ?_⟩
    congr 1
    exact ((List.takeWhile_prefix _).eq_of_length hall).symm
  next => exact ⟨[], (List.append_nil _).symm⟩

end FaultStatus
