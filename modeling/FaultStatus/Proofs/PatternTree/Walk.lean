/-
The walk through a tree of patterns. It branches twice at each node and
carries the best entry so far through both branches. Flattened, this is a
fold over a plain list: the rows of pieces that fit the segments, in the
order of `Piece.rowsFor`, each with the entry at its end if there is one
(`walk_eq_foldl`).

Of such a fold it is plain what remains: the first of the deepest entries
(`foldl_deeper_eq_some`). As the order of the rows puts the more specific
one of two rows of one length first, the first of the deepest is the most
specific of all (`best?_eq_some`).
-/
import FaultStatus.PatternTree
import FaultStatus.Proofs.Pattern.Specificity
import Mathlib.Data.List.Induction

namespace FaultStatus.PatternTree

open Piece (rowsFor)

variable {α : Type}

-- ============================================================ flattening

namespace Node

theorem deeper_none (depth : Nat) (best : Option (Nat × Entry α)) :
    deeper depth none best = best := by
  cases best <;> rfl

theorem walk_cons (node : Node α) (depth : Nat)
    (best : Option (Nat × Entry α)) (segment : String)
    (ahead : List String) :
    let here := deeper depth node.stored best
    let literal := (node.child? (.literal segment)).elim here
      (·.walk (depth + 1) here ahead)
    node.walk depth best (segment :: ahead)
      = (node.child? .wildcard).elim literal
          (·.walk (depth + 1) literal ahead) := by
  rw [walk]
  cases node.child? (.literal segment) <;>
    cases node.child? .wildcard <;> rfl

/-- The walk comes by the rows that fit, one after the other. -/
theorem walk_eq_foldl (node : Node α) (depth : Nat)
    (best : Option (Nat × Entry α)) (segments : List String) :
    node.walk depth best segments
      = (rowsFor segments).foldl
          (fun best row =>
            deeper (depth + row.length) (node.entryAt? row) best) best := by
  induction segments generalizing node depth best with
  | nil => rfl
  | cons segment ahead ih =>
    -- one branch: the child's rows with the piece in front, or none at all
    have hbranch : ∀ (piece : Piece) (best : Option (Nat × Entry α)),
        (node.child? piece).elim best (·.walk (depth + 1) best ahead)
        = ((rowsFor ahead).map (piece :: ·)).foldl
            (fun best row =>
              deeper (depth + row.length) (node.entryAt? row) best)
            best := by
      intro piece best
      rw [List.foldl_map]
      cases hchild : node.child? piece with
      | none =>
        simp only [entryAt?, hchild, Option.bind_none, deeper_none,
          List.foldl_fixed, Option.elim_none]
      | some child =>
        rw [Option.elim_some, ih]
        congr 1
        funext best row
        rw [entryAt?, hchild, Option.bind_some, List.length_cons,
          Nat.add_assoc, Nat.add_comm 1]
    rw [rowsFor, List.foldl_cons, List.foldl_append, ← hbranch, ← hbranch,
      walk_cons]
    rfl

-- ========================================================== what remains

variable {f : List Piece → Option (Entry α)} {depth : Nat}
  {rows : List (List Piece)}

/-- Nothing remains if and only if there is no entry. -/
theorem foldl_deeper_eq_none_iff :
    rows.foldl (fun best row => deeper (depth + row.length) (f row) best)
        none = none
      ↔ ∀ row ∈ rows, f row = none := by
  induction rows using List.reverseRecOn with
  | nil => simp
  | append_singleton rows row ih =>
    rw [List.foldl_append, List.foldl_cons, List.foldl_nil,
      List.forall_mem_append, List.forall_mem_singleton, ← ih]
    cases hrow : f row with
    | none =>
      rw [deeper_none]
      exact ⟨fun h => ⟨h, rfl⟩, fun h => h.1⟩
    | some entry =>
      refine ⟨fun h => ?_, fun h => ?_⟩
      · cases hbest : rows.foldl (fun best row =>
            deeper (depth + row.length) (f row) best) none with
        | none =>
          rw [hbest] at h
          cases h
        | some kept =>
          rw [hbest] at h
          unfold deeper at h
          dsimp only at h
          split at h <;> cases h
      · cases h.2

/-- The row ends at the first one of the deepest entries. -/
structure FirstDeepest (f : List Piece → Option (Entry α))
    (rows before : List (List Piece)) (row : List Piece)
    (after : List (List Piece)) : Prop where
  place : rows = before ++ row :: after
  earlier : ∀ r ∈ before, f r ≠ none → r.length < row.length
  later : ∀ r ∈ after, f r ≠ none → r.length ≤ row.length

namespace FirstDeepest

variable {before after : List (List Piece)} {row : List Piece}

theorem of_none (h : ∀ r ∈ rows, f r = none) (last : List Piece) :
    FirstDeepest f (rows ++ [last]) rows last [] :=
  ⟨rfl, fun r hr hne => absurd (h r hr) hne,
    fun _ hr => absurd hr List.not_mem_nil⟩

/-- It stays the first of the deepest before one that is no deeper. -/
theorem append (h : FirstDeepest f rows before row after)
    (last : List Piece)
    (hlast : f last ≠ none → last.length ≤ row.length) :
    FirstDeepest f (rows ++ [last]) before row (after ++ [last]) := by
  refine ⟨?_, h.earlier, ?_⟩
  · rw [h.place, List.append_assoc, List.cons_append]
  · rw [List.forall_mem_append, List.forall_mem_singleton]
    exact ⟨h.later, hlast⟩

/-- It gives way to one that is deeper. -/
theorem of_deeper (h : FirstDeepest f rows before row after)
    {last : List Piece} (hlast : row.length < last.length) :
    FirstDeepest f (rows ++ [last]) rows last [] := by
  refine ⟨rfl, fun r hr hne => ?_, fun _ hr => absurd hr List.not_mem_nil⟩
  rw [h.place] at hr
  rcases List.mem_append.1 hr with hr | hr
  · exact Nat.lt_trans (h.earlier r hr hne) hlast
  · rcases List.mem_cons.1 hr with heq | hr
    · rwa [heq]
    · exact Nat.lt_of_le_of_lt (h.later r hr hne) hlast

end FirstDeepest

/-- What remains is the first one of the deepest entries. -/
theorem foldl_deeper_eq_some {d : Nat} {entry : Entry α}
    (h : rows.foldl (fun best row => deeper (depth + row.length) (f row) best)
      none = some (d, entry)) :
    ∃ before row after, FirstDeepest f rows before row after
      ∧ f row = some entry ∧ d = depth + row.length := by
  induction rows using List.reverseRecOn generalizing d entry with
  | nil => cases h
  | append_singleton rows last ih =>
    rw [List.foldl_append, List.foldl_cons, List.foldl_nil] at h
    cases hlast : f last with
    | none =>
      rw [hlast, deeper_none] at h
      obtain ⟨before, row, after, hfirst, hentry, hd⟩ := ih h
      have hstays := hfirst.append last fun hne => absurd hlast hne
      exact ⟨before, row, after ++ [last], hstays, hentry, hd⟩
    | some found =>
      rw [hlast] at h
      cases hbest : rows.foldl (fun best row =>
          deeper (depth + row.length) (f row) best) none with
      | none =>
        rw [hbest] at h
        cases h
        have hnone := foldl_deeper_eq_none_iff.1 hbest
        exact ⟨rows, last, [], .of_none hnone last, hlast, rfl⟩
      | some kept =>
        obtain ⟨dk, ek⟩ := kept
        obtain ⟨before, row, after, hfirst, hentry, hd⟩ := ih hbest
        rw [hbest] at h
        unfold deeper at h
        dsimp only at h
        by_cases hdeep : dk < depth + last.length
        · rw [if_pos hdeep] at h
          cases h
          have hlt : row.length < last.length := by omega
          exact ⟨rows, last, [], hfirst.of_deeper hlt, hlast, rfl⟩
        · rw [if_neg hdeep] at h
          cases h
          have hstays := hfirst.append last fun _ => by omega
          exact ⟨before, row, after ++ [last], hstays, hentry, hd⟩

/-- Of the rows that fit a path, the first of the deepest is the most
specific. -/
theorem FirstDeepest.moreSpecific {segments : List String}
    {before after : List (List Piece)} {row other : List Piece}
    (h : FirstDeepest f (rowsFor segments) before row after)
    (hother : other ∈ rowsFor segments) (hne : other ≠ row)
    (hsome : f other ≠ none) : Pattern.MoreSpecific ⟨row⟩ ⟨other⟩ := by
  have hsorted := Piece.rowsFor_pairwise segments
  rw [h.place, List.pairwise_append, List.pairwise_cons] at hsorted
  rw [h.place] at hother
  rcases List.mem_append.1 hother with hother | hother
  · exact Or.inl (h.earlier other hother hsome)
  · rcases List.mem_cons.1 hother with heq | hother
    · exact absurd heq hne
    · have hle := h.later other hother hsome
      rcases Nat.lt_or_eq_of_le hle with hlt | heq
      · exact Or.inl hlt
      · exact Or.inr ⟨heq, (hsorted.2.1.1 other hother).2 heq⟩

theorem walk_eq_none_iff {node : Node α} {segments : List String} :
    node.walk depth none segments = none
      ↔ ∀ row ∈ rowsFor segments, node.entryAt? row = none := by
  rw [walk_eq_foldl, foldl_deeper_eq_none_iff]

/-- A walk that starts with nothing finds the entry of the most specific
row, at that row's depth. -/
theorem walk_eq_some {node : Node α} {segments : List String} {d : Nat}
    {entry : Entry α}
    (h : node.walk depth none segments = some (d, entry)) :
    ∃ row ∈ rowsFor segments, node.entryAt? row = some entry
      ∧ d = depth + row.length
      ∧ ∀ other ∈ rowsFor segments, other ≠ row →
          node.entryAt? other ≠ none →
          Pattern.MoreSpecific ⟨row⟩ ⟨other⟩ := by
  rw [walk_eq_foldl] at h
  obtain ⟨before, row, after, hfirst, hentry, hd⟩ := foldl_deeper_eq_some h
  refine ⟨row, ?_, hentry, hd, fun other => hfirst.moreSpecific⟩
  rw [hfirst.place]
  exact List.mem_append_right _ List.mem_cons_self

end Node

-- ======================================================== the best entry

variable {tree : PatternTree α} {path : String}

/-- A look-up finds nothing if no row that fits ends at an entry. -/
theorem best?_eq_none_iff :
    tree.best? path = none
      ↔ ∀ row ∈ rowsFor (leadingSegments path),
          tree.root.entryAt? row = none := by
  rw [best?, Option.map_eq_none_iff, Node.walk_eq_none_iff]

/-- What a look-up finds is at the end of the most specific row of those
that fit and end at an entry. -/
theorem best?_eq_some {entry : Entry α} (h : tree.best? path = some entry) :
    ∃ row ∈ rowsFor (leadingSegments path),
      tree.root.entryAt? row = some entry
      ∧ ∀ other ∈ rowsFor (leadingSegments path), other ≠ row →
          tree.root.entryAt? other ≠ none →
          Pattern.MoreSpecific ⟨row⟩ ⟨other⟩ := by
  rw [best?, Option.map_eq_some_iff] at h
  obtain ⟨⟨d, e⟩, hwalk, rfl⟩ := h
  obtain ⟨row, hrow, hentry, -, hmost⟩ := Node.walk_eq_some hwalk
  exact ⟨row, hrow, hentry, hmost⟩

end FaultStatus.PatternTree
