/-
What a look-up owes. The patterns that were inserted compete for a path:
those that fit its leading run of segments take part (`Competes`), and the
most specific of them wins (`Wins`). A look-up in a tree finds the winner
with the value of its last insertion, or nothing if no pattern takes part
(`lookupWithPattern_insertAll`).

The two sides never meet before this file. The walk knows rows of pieces in
the order in which it comes by them (`best?_eq_some`); the insertions leave
entries at rows of pieces (`entryAt?_insertAll`). A pattern that competes
is a row that is listed for the path and ends at an entry
(`competes_iff`), and that is all that there is to join.
-/
import FaultStatus.Proofs.PatternTree.Insert
import FaultStatus.Proofs.PatternTree.Walk
import FaultStatus.Proofs.Segment.LeadingRun

namespace FaultStatus.PatternTree

open Piece (rowsFor)

variable {α : Type}

-- ======================================================= the competition

/-- A pattern that was inserted and fits the segments. -/
structure Competes (calls : List (String × α)) (segments : List String)
    (pattern : Pattern) : Prop where
  /-- The pattern was inserted. -/
  stored : ∃ call ∈ calls, Pattern.parse call.1 = .ok pattern
  /-- The pattern fits leading ones of the segments. -/
  fits : pattern.admits segments = true

/-- The most specific pattern of those that were inserted and fit the
segments. -/
structure Wins (calls : List (String × α)) (segments : List String)
    (pattern : Pattern) : Prop where
  /-- The pattern competes itself. -/
  competes : Competes calls segments pattern
  /-- It is more specific than any other that does. -/
  most_specific : ∀ other, Competes calls segments other →
    other ≠ pattern → pattern.MoreSpecific other

variable {calls : List (String × α)} {segments : List String}
  {pattern other : Pattern}

/-- No two patterns win. -/
theorem Wins.unique (h : Wins calls segments pattern)
    (h' : Wins calls segments other) : pattern = other := by
  by_cases hne : pattern = other
  · exact hne
  · have hfirst := h.most_specific other h'.competes (Ne.symm hne)
    have hsecond := h'.most_specific pattern h.competes hne
    exact absurd hsecond hfirst.asymm

/-- A pattern was inserted if and only if some insertion is one for its
text. -/
theorem stored_iff :
    (∃ call ∈ calls, Pattern.parse call.1 = .ok pattern)
      ↔ Pattern.parse pattern.text = .ok pattern
        ∧ lastFor? calls pattern.text ≠ none := by
  rw [lastFor?_ne_none_iff]
  refine ⟨fun ⟨call, hmem, hparse⟩ => ?_, fun ⟨hparse, call, hmem, h⟩ => ?_⟩
  · have htext := Pattern.text_of_parse hparse
    rw [htext]
    exact ⟨hparse, call, hmem, rfl⟩
  · rw [← h] at hparse
    exact ⟨call, hmem, hparse⟩

/-- A pattern competes if and only if its row is listed for the segments
and ends at an entry of the tree. -/
theorem competes_iff :
    Competes calls segments pattern
      ↔ pattern.pieces ∈ rowsFor segments
        ∧ (empty.insertAll calls).root.entryAt? pattern.pieces ≠ none := by
  rw [Piece.mem_rowsFor]
  refine ⟨fun ⟨hstored, hfits⟩ => ⟨hfits, ?_⟩,
    fun ⟨hfits, hentry⟩ => ⟨?_, hfits⟩⟩
  · obtain ⟨hparse, hlast⟩ := stored_iff.1 hstored
    obtain ⟨value, hvalue⟩ := Option.ne_none_iff_exists'.1 hlast
    have hentry := (entryAt?_insertAll calls pattern.pieces
      { value, pattern := pattern.text }).2 ⟨hparse, hvalue⟩
    rw [hentry]
    exact Option.some_ne_none _
  · obtain ⟨entry, hentry⟩ := Option.ne_none_iff_exists'.1 hentry
    obtain ⟨hparse, hlast⟩ := (entryAt?_insertAll calls _ _).1 hentry
    have hsome : lastFor? calls entry.pattern ≠ none := by
      rw [hlast]
      exact Option.some_ne_none _
    obtain ⟨call, hmem, htext⟩ := lastFor?_ne_none_iff.1 hsome
    rw [← htext] at hparse
    exact ⟨call, hmem, hparse⟩

-- =========================================================== the look-up

variable {path : String}

/-- A look-up finds nothing if and only if no pattern competes. -/
theorem lookupWithPattern_eq_none_iff :
    (empty.insertAll calls).lookupWithPattern path = none
      ↔ ∀ pattern, ¬ Competes calls (leadingRun path) pattern := by
  rw [lookupWithPattern, Option.map_eq_none_iff, best?_eq_none_iff,
    leadingSegments_eq_leadingRun]
  refine ⟨fun h pattern hcompetes => ?_, fun h row hrow => ?_⟩
  · obtain ⟨hrow, hentry⟩ := competes_iff.1 hcompetes
    exact hentry (h pattern.pieces hrow)
  · by_cases hentry : (empty.insertAll calls).root.entryAt? row = none
    · exact hentry
    · exact absurd (competes_iff.2 ⟨hrow, hentry⟩) (h ⟨row⟩)

/-- A store that nothing was inserted into finds nothing. -/
theorem lookupWithPattern_nil :
    ((empty : PatternTree α).insertAll []).lookupWithPattern path = none := by
  apply lookupWithPattern_eq_none_iff.2
  intro pattern hcompetes
  obtain ⟨call, hmem, -⟩ := hcompetes.stored
  cases hmem

/-- What a look-up finds is the winner with its last value. -/
theorem wins_of_lookupWithPattern {value : α} {text : String}
    (h : (empty.insertAll calls).lookupWithPattern path
      = some (value, text)) :
    ∃ pattern, Wins calls (leadingRun path) pattern
      ∧ pattern.text = text ∧ lastFor? calls text = some value := by
  rw [lookupWithPattern, Option.map_eq_some_iff] at h
  obtain ⟨entry, hbest, hentry⟩ := h
  obtain ⟨row, hrow, hat, hmost⟩ := best?_eq_some hbest
  rw [leadingSegments_eq_leadingRun] at hrow hmost
  obtain ⟨hparse, hlast⟩ := (entryAt?_insertAll calls row entry).1 hat
  cases hentry
  refine ⟨⟨row⟩, ⟨?_, ?_⟩, Pattern.text_of_parse hparse, hlast⟩
  · refine competes_iff.2 ⟨hrow, ?_⟩
    rw [hat]
    exact Option.some_ne_none entry
  · intro other hother hne
    obtain ⟨hlisted, hsome⟩ := competes_iff.1 hother
    refine hmost other.pieces hlisted ?_ hsome
    intro heq
    exact hne (congrArg Pattern.mk heq)

/-- A look-up finds a value and a text if and only if the text is that of
the winner and the value its last one. -/
theorem lookupWithPattern_eq_some_iff {value : α} {text : String} :
    (empty.insertAll calls).lookupWithPattern path = some (value, text)
      ↔ ∃ pattern, Wins calls (leadingRun path) pattern
          ∧ pattern.text = text ∧ lastFor? calls text = some value := by
  refine ⟨wins_of_lookupWithPattern,
    fun ⟨pattern, hwins, htext, hlast⟩ => ?_⟩
  cases hlook : (empty.insertAll calls).lookupWithPattern path with
  | none =>
    have hnone := lookupWithPattern_eq_none_iff.1 hlook pattern
    exact absurd hwins.competes hnone
  | some found =>
    obtain ⟨found, foundText⟩ := found
    obtain ⟨pattern', hwins', htext', hlast'⟩ :=
      wins_of_lookupWithPattern hlook
    have hsame := hwins.unique hwins'
    subst hsame
    have htexts : text = foundText := htext.symm.trans htext'
    subst htexts
    have hvalues : some value = some found := hlast.symm.trans hlast'
    cases hvalues
    rfl

-- ================================================ the order of insertion

/-- Insertions that agree for each single text leave the same competition,
in whatever order the texts come. -/
theorem competes_congr {calls' : List (String × α)}
    (h : ∀ text, lastFor? calls' text = lastFor? calls text) :
    Competes calls' segments pattern ↔ Competes calls segments pattern := by
  refine ⟨fun ⟨hstored, hfits⟩ => ⟨?_, hfits⟩,
    fun ⟨hstored, hfits⟩ => ⟨?_, hfits⟩⟩
  · rw [stored_iff] at hstored ⊢
    rwa [h] at hstored
  · rw [stored_iff] at hstored ⊢
    rwa [h]

/-- Only the last value of each text matters to a look-up. -/
theorem lookupWithPattern_congr {calls' : List (String × α)}
    (h : ∀ text, lastFor? calls' text = lastFor? calls text) :
    (empty.insertAll calls').lookupWithPattern path
      = (empty.insertAll calls).lookupWithPattern path := by
  apply Option.ext
  intro found
  obtain ⟨value, text⟩ := found
  have hwins : ∀ pattern, Wins calls' (leadingRun path) pattern
      ↔ Wins calls (leadingRun path) pattern := by
    intro pattern
    refine ⟨fun ⟨hcompetes, hmost⟩ => ⟨?_, fun other hother => ?_⟩,
      fun ⟨hcompetes, hmost⟩ => ⟨?_, fun other hother => ?_⟩⟩
    · exact (competes_congr h).1 hcompetes
    · exact hmost other ((competes_congr h).2 hother)
    · exact (competes_congr h).2 hcompetes
    · exact hmost other ((competes_congr h).1 hother)
  rw [lookupWithPattern_eq_some_iff, lookupWithPattern_eq_some_iff]
  simp only [hwins, h]

/-- After any row of insertions, a look-up of any path finds nothing if no
inserted pattern fits the leading run of segments of the path; else it finds
the most specific one of those that fit, with the value of its last
insertion. Insertions of different patterns may change places. -/
theorem lookupWithPattern_insertAll (calls : List (String × α))
    (path : String) :
    ((empty.insertAll calls).lookupWithPattern path = none
        ↔ ∀ pattern, ¬ Competes calls (leadingRun path) pattern)
      ∧ (∀ value text,
          (empty.insertAll calls).lookupWithPattern path
              = some (value, text)
            ↔ ∃ pattern, Wins calls (leadingRun path) pattern
                ∧ pattern.text = text
                ∧ lastFor? calls text = some value)
      ∧ ∀ calls' : List (String × α),
          (∀ text, calls'.filter (·.1 = text) = calls.filter (·.1 = text)) →
          (empty.insertAll calls').lookupWithPattern path
            = (empty.insertAll calls).lookupWithPattern path := by
  refine ⟨lookupWithPattern_eq_none_iff,
    fun value text => lookupWithPattern_eq_some_iff, fun calls' h => ?_⟩
  apply lookupWithPattern_congr
  intro text
  unfold lastFor?
  rw [h text]

/-- At equal depth the segment that comes first wins, not the last
insertion. -/
example :
    (empty.insertAll [("a.*", 1), ("*.b", 2)]).lookupWithPattern "a.b.C"
      = some (1, "a.*") := by
  decide +kernel

end FaultStatus.PatternTree
