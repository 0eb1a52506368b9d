/-
Which of two patterns is the more specific one. A deeper pattern is more
specific than a shallower one; of two patterns of one depth it is the one
that has a segment where they first differ and the other has the wildcard
(`Pattern.MoreSpecific`).

Not any two patterns compare: `a.*` and `b.*` do not. But of patterns that
fit one path the first difference is always one of a segment and the
wildcard. `Piece.rowsFor` lists all rows of pieces that fit a path, and
does so in an order in which, of two rows of one length, the more specific
one comes first (`rowsFor_pairwise`). This is the order in which a look-up
comes by them.
-/
import FaultStatus.Pattern
import Mathlib.Data.List.Basic

namespace FaultStatus

namespace Piece

-- ======================================================= the first place

/-- The rows agree up to some place, where the one has a segment and the
other the wildcard. -/
def Narrower (row other : List Piece) : Prop :=
  ∃ front segment back back',
    row = front ++ literal segment :: back
      ∧ other = front ++ wildcard :: back'

theorem narrower_head (segment : String) (row other : List Piece) :
    Narrower (literal segment :: row) (wildcard :: other) :=
  ⟨[], segment, row, other, rfl, rfl⟩

theorem Narrower.cons {row other : List Piece} (piece : Piece)
    (h : Narrower row other) : Narrower (piece :: row) (piece :: other) := by
  obtain ⟨front, segment, back, back', rfl, rfl⟩ := h
  exact ⟨piece :: front, segment, back, back', rfl, rfl⟩

/-- Where rows first differ only one of them has the segment. -/
theorem Narrower.asymm {row other : List Piece} (h : Narrower row other) :
    ¬ Narrower other row := by
  obtain ⟨front, segment, back, back', rfl, rfl⟩ := h
  intro ⟨front', segment', behind, behind', hother, hrow⟩
  induction front generalizing front' with
  | nil =>
    cases front' with
    | nil => cases hother
    | cons piece front' =>
      cases hother
      cases hrow
  | cons piece front ih =>
    cases front' with
    | nil =>
      cases hother
      cases hrow
    | cons piece' front' =>
      exact ih front' (List.cons.inj hother).2 (List.cons.inj hrow).2

-- ==================================================== the rows of a path

/-- The rows of pieces that fit leading ones of the segments. At each place
the row that ends comes first, then the rows that go on with the segment
itself, then those that go on with the wildcard. -/
def rowsFor : List String → List (List Piece)
  | [] => [[]]
  | segment :: ahead =>
    [] :: ((rowsFor ahead).map (literal segment :: ·)
      ++ (rowsFor ahead).map (wildcard :: ·))

/-- The rows listed for a path are those that fit it. -/
theorem mem_rowsFor {segments : List String} {row : List Piece} :
    row ∈ rowsFor segments ↔ admitAll row segments = true := by
  induction segments generalizing row with
  | nil => cases row <;> simp [rowsFor, admitAll]
  | cons segment ahead ih =>
    rw [rowsFor]
    cases row with
    | nil => simp [admitAll]
    | cons piece row =>
      have hmem : ∀ p : Piece,
          piece :: row ∈ (rowsFor ahead).map (p :: ·)
            ↔ p = piece ∧ row ∈ rowsFor ahead := by
        intro p
        rw [List.mem_map]
        refine ⟨fun ⟨row', hrow', heq⟩ => ?_, fun ⟨heq, hrow⟩ => ?_⟩
        · cases heq
          exact ⟨rfl, hrow'⟩
        · subst heq
          exact ⟨row, hrow, rfl⟩
      rw [List.mem_cons, List.mem_append, hmem, hmem, ih]
      cases piece with
      | literal s =>
        simp only [admitAll, admits, reduceCtorEq, false_and, or_false,
          false_or, literal.injEq, Bool.and_eq_true, beq_iff_eq,
          eq_comm (a := segment)]
      | wildcard => simp [admitAll, admits]

/-- Of two rows of one length the one that is listed first is narrower. -/
theorem rowsFor_pairwise (segments : List String) :
    (rowsFor segments).Pairwise fun row later =>
      row ≠ later ∧ (later.length = row.length → Narrower row later) := by
  induction segments with
  | nil => exact List.pairwise_singleton _ _
  | cons segment ahead ih =>
    have hbranch : ∀ p : Piece,
        ((rowsFor ahead).map (p :: ·)).Pairwise fun row later =>
          row ≠ later ∧ (later.length = row.length → Narrower row later) := by
      intro p
      rw [List.pairwise_map]
      refine ih.imp fun ⟨hne, hnarrow⟩ => ?_
      refine ⟨fun heq => hne (List.cons.inj heq).2, fun hlen => ?_⟩
      exact (hnarrow (Nat.succ.inj hlen)).cons p
    rw [rowsFor, List.pairwise_cons, List.pairwise_append]
    refine ⟨?_, hbranch _, hbranch _, ?_⟩
    · -- the row that ends here is shorter than all others
      intro row hrow
      have hcons : ∃ piece tail, row = piece :: tail := by
        rcases List.mem_append.1 hrow with h | h
        · obtain ⟨tail, -, rfl⟩ := List.mem_map.1 h
          exact ⟨_, _, rfl⟩
        · obtain ⟨tail, -, rfl⟩ := List.mem_map.1 h
          exact ⟨_, _, rfl⟩
      obtain ⟨piece, tail, rfl⟩ := hcons
      exact ⟨List.cons_ne_nil piece tail |>.symm,
        fun hlen => absurd hlen (Nat.succ_ne_zero tail.length)⟩
    · intro row hrow later hlater
      obtain ⟨tail, -, rfl⟩ := List.mem_map.1 hrow
      obtain ⟨tail', -, rfl⟩ := List.mem_map.1 hlater
      refine ⟨?_, fun _ => narrower_head segment tail tail'⟩
      intro heq
      cases heq

end Piece

-- ============================================================= the order

namespace Pattern

/-- The pattern is deeper than the other, or as deep and narrower. -/
def MoreSpecific (pattern other : Pattern) : Prop :=
  other.depth < pattern.depth
    ∨ other.depth = pattern.depth
      ∧ Piece.Narrower pattern.pieces other.pieces

theorem MoreSpecific.asymm {pattern other : Pattern}
    (h : pattern.MoreSpecific other) : ¬ other.MoreSpecific pattern := by
  intro hother
  rcases hother with hdeep | ⟨hdepth, hnarrow⟩
  · rcases h with h | ⟨h, -⟩
    · exact absurd h (Nat.lt_asymm hdeep)
    · exact absurd h (Nat.ne_of_gt hdeep)
  · rcases h with h | ⟨-, h⟩
    · exact absurd hdepth (Nat.ne_of_gt h)
    · exact h.asymm hnarrow

end Pattern

end FaultStatus
