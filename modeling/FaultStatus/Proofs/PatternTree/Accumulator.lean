/-
What the walk does to the best entry that it is handed. The best entry so
far goes through every node of the walk and through both branches at each,
one after the other, and is replaced on the way by entries that lie strictly
deeper. So it might matter in many ways what the walk starts with. It does
not: the walk can be taken to start with nothing, and what it finds is then
compared with the best entry once (`walk_eq_orDeeper`).

The comparison keeps the first of two findings unless the second lies
strictly deeper (`orDeeper`). It is associative, with nothing as its
identity, so that the findings at a node, in the branch of the segment and
in the branch of the wildcard may be combined in any grouping, but in this
order only. The walk is a fold over all that it comes by (`walk_eq_foldl`),
and `List.foldl_assoc` then takes the best entry out of the fold.

Which entry a walk from nothing finds is known already (`walk_eq_some`): the
one of the most specific row of pieces, which is the first of the deepest.
-/
import FaultStatus.Proofs.PatternTree.InPlace

namespace FaultStatus.PatternTree.Node

open Piece (rowsFor)

variable {α : Type} {depth : Nat} {best : Option (Nat × Entry α)}

-- ======================================================== the comparison

/-- The first of two findings, unless the second lies strictly deeper. -/
def orDeeper : Option (Nat × Entry α) → Option (Nat × Entry α) →
    Option (Nat × Entry α)
  | best, none => best
  | none, some found => some found
  | some kept, some found =>
    if kept.1 < found.1 then some found else some kept

/-- What lies at the depth is strictly deeper than the best entry. -/
def Improves (best : Option (Nat × Entry α)) (depth : Nat) : Prop :=
  ∀ kept ∈ best, kept.1 < depth

theorem orDeeper_none_left (a : Option (Nat × Entry α)) :
    orDeeper none a = a := by
  cases a <;> rfl

theorem orDeeper_some_of_improves {entry : Entry α}
    (h : Improves best depth) :
    orDeeper best (some (depth, entry)) = some (depth, entry) := by
  cases best with
  | none => rfl
  | some kept => exact if_pos (h kept rfl)

theorem orDeeper_some_of_not_improves {entry : Entry α}
    (h : ¬ Improves best depth) :
    orDeeper best (some (depth, entry)) = best := by
  cases best with
  | none => exact absurd (fun kept hkept => nomatch hkept) h
  | some kept =>
    refine if_neg fun hdeep => h fun other hother => ?_
    cases hother
    exact hdeep

/-- Findings may be combined in any grouping. -/
theorem orDeeper_assoc (a b c : Option (Nat × Entry α)) :
    orDeeper (orDeeper a b) c = orDeeper a (orDeeper b c) := by
  cases c with
  | none => rfl
  | some found =>
    cases b with
    | none => rw [orDeeper_none_left]; rfl
    | some second =>
      cases a with
      | none => rw [orDeeper_none_left, orDeeper_none_left]
      | some first =>
        simp only [orDeeper]
        by_cases hfirst : first.1 < second.1
        · rw [if_pos hfirst]
          by_cases hsecond : second.1 < found.1
          · have htrans : first.1 < found.1 := by omega
            simp only [if_pos hsecond, if_pos htrans]
          · simp only [if_neg hsecond, if_pos hfirst]
        · rw [if_neg hfirst]
          by_cases hsecond : second.1 < found.1
          · simp only [if_pos hsecond]
          · have hfound : ¬ first.1 < found.1 := by omega
            simp only [if_neg hsecond, if_neg hfound, if_neg hfirst]

instance : Std.Associative (orDeeper (α := α)) := ⟨orDeeper_assoc⟩

/-- What a node holds is compared as any other finding. -/
theorem deeper_eq_orDeeper (depth : Nat) (stored : Option (Entry α))
    (best : Option (Nat × Entry α)) :
    deeper depth stored best = orDeeper best (stored.map (depth, ·)) := by
  cases stored with
  | none => rw [deeper_none]; rfl
  | some entry => cases best <;> rfl

-- ============================================================== the walk

variable {node : Node α} {segments : List String}

/-- What the walk is handed can be compared at the end. -/
theorem walk_eq_orDeeper (node : Node α) (depth : Nat)
    (best : Option (Nat × Entry α)) (segments : List String) :
    node.walk depth best segments
      = orDeeper best (node.walk depth none segments) := by
  have hfold : ∀ start : Option (Nat × Entry α),
      node.walk depth start segments
        = ((rowsFor segments).map fun row =>
            (node.entryAt? row).map (depth + row.length, ·)).foldl
          orDeeper start := by
    intro start
    rw [walk_eq_foldl, List.foldl_map]
    simp only [deeper_eq_orDeeper]
  rw [hfold, hfold none]
  exact (List.foldl_assoc : _ = orDeeper best (List.foldl orDeeper none _))

/-- What the walk finds in the branch of a piece when it starts there with
nothing. -/
def found? (node : Node α) (depth : Nat) (ahead : List String)
    (piece : Piece) : Option (Nat × Entry α) :=
  (node.child? piece).bind (·.walk (depth + 1) none ahead)

/-- The findings of a walk are those at the node, in the branch of the
segment and in the branch of the wildcard. -/
theorem walk_none_cons (node : Node α) (depth : Nat) (segment : String)
    (ahead : List String) :
    node.walk depth none (segment :: ahead)
      = orDeeper (node.stored.map (depth, ·))
          (orDeeper (node.found? depth ahead (.literal segment))
            (node.found? depth ahead .wildcard)) := by
  have hbranch : ∀ (piece : Piece) (best : Option (Nat × Entry α)),
      (node.child? piece).elim best (·.walk (depth + 1) best ahead)
        = orDeeper best (node.found? depth ahead piece) := by
    intro piece best
    unfold found?
    cases node.child? piece with
    | none => rfl
    | some child => exact child.walk_eq_orDeeper (depth + 1) best ahead
  rw [walk_cons, hbranch, hbranch, deeper_eq_orDeeper, orDeeper_none_left,
    orDeeper_assoc]

-- ==================================================== the first of deepest

/-- An entry lies at the end of the row, which fits the segments. -/
structure Offers (node : Node α) (segments : List String)
    (row : List Piece) : Prop where
  fits : Piece.admitAll row segments = true
  stored : node.entryAt? row ≠ none

/-- The entry at the end of the row is the first of the deepest that fit the
segments, where a segment comes before the wildcard. -/
structure Foremost (node : Node α) (segments : List String)
    (row : List Piece) (entry : Entry α) : Prop where
  fits : Piece.admitAll row segments = true
  stored : node.entryAt? row = some entry
  first : ∀ other, node.Offers segments other → other ≠ row →
    Pattern.MoreSpecific ⟨row⟩ ⟨other⟩

/-- A walk from nothing finds nothing where nothing is offered, and else the
foremost entry. -/
theorem walk_none_cases (node : Node α) (depth : Nat)
    (segments : List String) :
    (node.walk depth none segments = none
        ∧ ∀ row, ¬ node.Offers segments row)
      ∨ ∃ row entry, node.Foremost segments row entry
          ∧ node.walk depth none segments
            = some (depth + row.length, entry) := by
  cases hwalk : node.walk depth none segments with
  | none =>
    refine Or.inl ⟨rfl, fun row hoffers => ?_⟩
    apply hoffers.stored
    exact walk_eq_none_iff.1 hwalk row (Piece.mem_rowsFor.2 hoffers.fits)
  | some found =>
    obtain ⟨d, entry⟩ := found
    obtain ⟨row, hrow, hentry, hd, hmost⟩ := walk_eq_some hwalk
    refine Or.inr ⟨row, entry, ⟨Piece.mem_rowsFor.1 hrow, hentry, ?_⟩, ?_⟩
    · intro other hother hne
      exact hmost other (Piece.mem_rowsFor.2 hother.fits) hne hother.stored
    · rw [hd]

theorem Foremost.length_le {row other : List Piece} {entry : Entry α}
    (h : node.Foremost segments row entry)
    (hother : node.Offers segments other) : other.length ≤ row.length := by
  by_cases hsame : other = row
  · exact Nat.le_of_eq (congrArg List.length hsame)
  · rcases h.first other hother hsame with hdeep | ⟨hdepth, -⟩
    · exact Nat.le_of_lt hdeep
    · exact Nat.le_of_eq hdepth

/-- A best entry that nothing on the way improves is left as it is. -/
theorem walk_of_not_improves
    (h : ∀ row, node.Offers segments row →
      ¬ Improves best (depth + row.length)) :
    node.walk depth best segments = best := by
  rw [walk_eq_orDeeper]
  rcases walk_none_cases node depth segments with
    ⟨hnone, -⟩ | ⟨row, entry, hfirst, hsome⟩
  · rw [hnone]
    rfl
  · rw [hsome]
    apply orDeeper_some_of_not_improves
    apply h row
    refine ⟨hfirst.fits, ?_⟩
    rw [hfirst.stored]
    exact Option.some_ne_none entry

/-- A best entry that something on the way improves gives way to the
foremost entry. -/
theorem walk_of_improves {row : List Piece} (hoffers : node.Offers segments row)
    (h : Improves best (depth + row.length)) :
    ∃ first entry, node.Foremost segments first entry
      ∧ Improves best (depth + first.length)
      ∧ node.walk depth best segments
        = some (depth + first.length, entry) := by
  rcases walk_none_cases node depth segments with
    ⟨-, hnone⟩ | ⟨first, entry, hfirst, hsome⟩
  · exact absurd hoffers (hnone row)
  · have hdeep : Improves best (depth + first.length) := by
      intro kept hkept
      have := h kept hkept
      have := hfirst.length_le hoffers
      omega
    refine ⟨first, entry, hfirst, hdeep, ?_⟩
    rw [walk_eq_orDeeper, hsome, orDeeper_some_of_improves hdeep]

/-- Whatever the walk in place is handed, at whatever node, depth and offset:
it is left as it is if no entry that fits the path from there on lies strictly
deeper, and else replaced by the first of the deepest, a segment before the
wildcard. This is to compare it once with what the walk finds when it starts
with nothing, and the comparison may be grouped in any way over what is at the
node and in its two branches. -/
theorem walkInPlace_accumulates (path : String) (node : Node α)
    (off depth : Nat) (best : Option (Nat × Entry α)) :
    let ahead := segmentsFrom path off
    let alone := node.walk depth none ahead
    ((∀ row, node.Offers ahead row → ¬ Improves best (depth + row.length)) →
        node.walkInPlace path off depth best = .ok best)
      ∧ (∀ row, node.Offers ahead row → Improves best (depth + row.length) →
          ∃ first entry, node.Foremost ahead first entry
            ∧ Improves best (depth + first.length)
            ∧ node.walkInPlace path off depth best
              = .ok (some (depth + first.length, entry)))
      ∧ node.walkInPlace path off depth none = .ok alone
      ∧ node.walkInPlace path off depth best = .ok (orDeeper best alone)
      ∧ (∀ a b c : Option (Nat × Entry α),
          orDeeper (orDeeper a b) c = orDeeper a (orDeeper b c))
      ∧ ∀ stop, segmentEnd? path.toByteArray off = some stop →
          let next := segmentsFrom path (nextStart path.toByteArray stop)
          alone = orDeeper (node.stored.map (depth, ·))
            (orDeeper
              (node.found? depth next (.literal (Span.text path ⟨off, stop⟩)))
              (node.found? depth next .wildcard)) := by
  intro ahead alone
  simp only [walkInPlace_eq_ok, Except.ok.injEq]
  refine ⟨fun h => walk_of_not_improves h, fun row hoffers h => ?_, rfl, ?_,
    orDeeper_assoc, fun stop hend => ?_⟩
  · exact walk_of_improves hoffers h
  · exact node.walk_eq_orDeeper depth best ahead
  · show node.walk depth none (segmentsFrom path off) = _
    rw [segmentsFrom_of_some hend, walk_none_cons]

end FaultStatus.PatternTree.Node
