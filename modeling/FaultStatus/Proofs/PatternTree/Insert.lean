/-
What a row of insertions leaves in a tree of patterns. An insertion is a
text and a value; one whose text is no pattern is refused and changes
nothing (`insert_of_parse_error`). After any row of insertions into the empty
tree, accepted and refused ones mixed, the tree holds an entry for each
text that was accepted, at the row of pieces that the text stands for, and
with the value of the last insertion for that text
(`entryAt?_insertAll`).

The invariant of the induction over the row is this very statement. It
needs that no two texts stand for one pattern: a tree keeps the text of the
first insertion, and the statement has that of the last.
-/
import FaultStatus.PatternTree
import FaultStatus.Proofs.Pattern.Grammar
import Mathlib.Data.List.Induction

namespace FaultStatus.PatternTree

variable {α : Type}

-- ========================================================= one insertion

variable {tree : PatternTree α} {text : String} {value : α}

/-- A text that is no pattern is refused for what is wrong with it, and the
tree that comes back is the one that was there. -/
theorem insert_of_parse_error {e : PatternError}
    (h : Pattern.parse text = .error e) (tree : PatternTree α) (value : α) :
    tree.insert text value = (.error e, tree) := by
  unfold insert
  rw [h]

/-- A text that is a pattern is accepted, whatever the tree holds. -/
theorem insert_of_parse_ok {pattern : Pattern}
    (h : Pattern.parse text = .ok pattern) (tree : PatternTree α)
    (value : α) :
    tree.insert text value
      = (.ok (),
        { root := tree.root.insert text value pattern.pieces
          size :=
            if (tree.root.entryAt? pattern.pieces).isSome then tree.size
            else tree.size + 1 }) := by
  unfold insert
  rw [h]

theorem insert_fst_eq_ok_iff :
    (tree.insert text value).1 = .ok ()
      ↔ ∃ pattern, Pattern.parse text = .ok pattern := by
  cases hparse : Pattern.parse text with
  | error e =>
    rw [insert_of_parse_error hparse]
    refine ⟨fun h => ?_, fun ⟨pattern, h⟩ => ?_⟩ <;> cases h
  | ok pattern =>
    rw [insert_of_parse_ok hparse]
    exact ⟨fun _ => ⟨pattern, rfl⟩, fun _ => rfl⟩

/-- An insertion fails as the reading of its text does, whatever the tree
holds already. -/
theorem insert_fst_eq_error_iff {e : PatternError} :
    (tree.insert text value).1 = .error e
      ↔ Pattern.parse text = .error e := by
  cases hparse : Pattern.parse text with
  | error e' =>
    rw [insert_of_parse_error hparse]
    refine ⟨fun h => ?_, fun h => ?_⟩ <;>
    · cases h
      rfl
  | ok pattern =>
    rw [insert_of_parse_ok hparse]
    refine ⟨fun h => ?_, fun h => ?_⟩ <;> cases h

-- ======================================================= many insertions

/-- The tree after an insertion of a value under a text, be it accepted or
refused. -/
def attempt (tree : PatternTree α) (call : String × α) : PatternTree α :=
  (tree.insert call.1 call.2).2

/-- The tree after a row of insertions, from first to last. -/
def insertAll (tree : PatternTree α) (calls : List (String × α)) :
    PatternTree α :=
  calls.foldl attempt tree

/-- The value of the last insertion for a text, if there is one. -/
def lastFor? (calls : List (String × α)) (text : String) : Option α :=
  (calls.filter (·.1 = text)).getLast?.map (·.2)

theorem insertAll_cons (tree : PatternTree α) (call : String × α)
    (calls : List (String × α)) :
    tree.insertAll (call :: calls) = (tree.attempt call).insertAll calls := by
  unfold insertAll
  rw [List.foldl_cons]

theorem insertAll_append_singleton (tree : PatternTree α)
    (calls : List (String × α)) (call : String × α) :
    tree.insertAll (calls ++ [call])
      = (tree.insertAll calls).attempt call := by
  unfold insertAll
  rw [List.foldl_append, List.foldl_cons, List.foldl_nil]

theorem lastFor?_append_singleton (calls : List (String × α))
    (call : String × α) (text : String) :
    lastFor? (calls ++ [call]) text
      = if call.1 = text then some call.2 else lastFor? calls text := by
  unfold lastFor?
  rw [List.filter_append]
  by_cases h : call.1 = text
  · simp [h]
  · simp [h]

theorem lastFor?_ne_none_iff {calls : List (String × α)} {text : String} :
    lastFor? calls text ≠ none ↔ ∃ call ∈ calls, call.1 = text := by
  unfold lastFor?
  rw [ne_eq, Option.map_eq_none_iff, List.getLast?_eq_none_iff,
    List.filter_eq_nil_iff]
  simp

-- ======================================================= the tree's view

theorem entryAt?_empty (row : List Piece) :
    (empty : PatternTree α).root.entryAt? row = none := by
  cases row <;> rfl

/-- A refused insertion changes nothing. -/
theorem attempt_of_parse_error {call : String × α} {e : PatternError}
    (h : Pattern.parse call.1 = .error e) (tree : PatternTree α) :
    tree.attempt call = tree :=
  congrArg Prod.snd (insert_of_parse_error h tree call.2)

/-- An accepted insertion writes at its own row of pieces alone. -/
theorem entryAt?_attempt {call : String × α} {pattern : Pattern}
    (h : Pattern.parse call.1 = .ok pattern) (tree : PatternTree α)
    (row : List Piece) :
    (tree.attempt call).root.entryAt? row =
      if row = pattern.pieces then
        some (Node.store call.1 call.2 (tree.root.entryAt? pattern.pieces))
      else tree.root.entryAt? row := by
  unfold attempt
  rw [insert_of_parse_ok h]
  exact Node.entryAt?_insert call.1 call.2 pattern.pieces row tree.root

/-- After a row of insertions there is an entry at a row of pieces if and
only if its text stands for the row, and it holds the value of the last
insertion for the text. -/
theorem entryAt?_insertAll (calls : List (String × α)) (row : List Piece)
    (entry : Entry α) :
    (empty.insertAll calls).root.entryAt? row = some entry
      ↔ Pattern.parse entry.pattern = .ok ⟨row⟩
        ∧ lastFor? calls entry.pattern = some entry.value := by
  induction calls using List.reverseRecOn generalizing row entry with
  | nil =>
    refine ⟨fun h => ?_, fun h => ?_⟩
    · have hnone := entryAt?_empty (α := α) row
      exact absurd (hnone.symm.trans h) (Option.some_ne_none entry).symm
    · exact absurd h.2 (Option.some_ne_none entry.value).symm
  | append_singleton calls call ih =>
    rw [insertAll_append_singleton, lastFor?_append_singleton]
    cases hparse : Pattern.parse call.1 with
    | error e =>
      rw [attempt_of_parse_error hparse, ih]
      by_cases htext : call.1 = entry.pattern
      · -- both sides are false: the text is no pattern
        rw [← htext, hparse]
        refine ⟨fun h => ?_, fun h => ?_⟩ <;> cases h.1
      · rw [if_neg htext]
    | ok pattern =>
      rw [entryAt?_attempt hparse]
      by_cases hrow : row = pattern.pieces
      · subst hrow
        have hstore : Node.store call.1 call.2
            ((empty.insertAll calls).root.entryAt? pattern.pieces)
            = { value := call.2, pattern := call.1 } := by
          cases hold : (empty.insertAll calls).root.entryAt?
              pattern.pieces with
          | none => rfl
          | some old =>
            have hsame : old.pattern = call.1 :=
              Pattern.parse_injective ((ih _ _).1 hold).1 hparse
            show Entry.mk call.2 old.pattern = _
            rw [hsame]
        rw [if_pos rfl, hstore, Option.some_inj]
        refine ⟨fun h => ?_, fun ⟨htext, hlast⟩ => ?_⟩
        · subst h
          exact ⟨hparse, if_pos rfl⟩
        · have hsame := Pattern.parse_injective hparse htext
          rw [if_pos hsame, Option.some_inj] at hlast
          rw [hsame, hlast]
      · rw [if_neg hrow, ih]
        have hother : Pattern.parse entry.pattern = .ok ⟨row⟩ →
            call.1 ≠ entry.pattern := by
          intro htext hsame
          rw [← hsame, hparse] at htext
          cases htext
          exact hrow rfl
        refine ⟨fun ⟨htext, hlast⟩ => ?_, fun ⟨htext, hlast⟩ => ?_⟩
        · rw [if_neg (hother htext)]
          exact ⟨htext, hlast⟩
        · rw [if_neg (hother htext)] at hlast
          exact ⟨htext, hlast⟩

end FaultStatus.PatternTree
