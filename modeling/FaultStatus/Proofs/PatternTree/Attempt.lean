/-
One more insertion, after any others. An insertion either is refused, and
then the tree that comes back is the one that was there, or it is accepted,
and then the pattern's own entry is written (`entryAt?_attempt_self`) and
no other. A look-up can differ only where the new pattern takes the lead:
where it fits the path and no pattern that is more specific had been found
there (`Leads`). There the look-up now finds the new pattern with its value
(`lookupWithPattern_of_leads`); everywhere else it finds what it found
before (`lookupWithPattern_of_not_leads`). Both outcomes together are what
an insertion owes (`SameAnswers`, `Takes`).

Nothing of this is about the walk or the nodes. It follows from what a
look-up owes after a row of insertions, applied to the row and to the row
with one more at its end: that the later row has a winner at all is what
makes the new pattern the winner where nothing else can be it
(`wins_of_leads`).
-/
import FaultStatus.Proofs.Pattern.Fault
import FaultStatus.Proofs.PatternTree.Lookup

namespace FaultStatus.PatternTree

variable {α : Type} {calls : List (String × α)} {call : String × α}
  {pattern other : Pattern} {segments : List String} {path : String}

-- ======================================================= the competition

theorem competes_append_singleton :
    Competes (calls ++ [call]) segments other
      ↔ Competes calls segments other
        ∨ (Pattern.parse call.1 = .ok other
          ∧ other.admits segments = true) := by
  constructor
  · intro ⟨⟨c, hmem, hparse⟩, hfits⟩
    rcases List.mem_append.1 hmem with hmem | hmem
    · exact Or.inl ⟨⟨c, hmem, hparse⟩, hfits⟩
    · rw [List.mem_singleton.1 hmem] at hparse
      exact Or.inr ⟨hparse, hfits⟩
  · intro h
    rcases h with ⟨⟨c, hmem, hparse⟩, hfits⟩ | ⟨hparse, hfits⟩
    · exact ⟨⟨c, List.mem_append_left _ hmem, hparse⟩, hfits⟩
    · exact ⟨⟨call, by simp, hparse⟩, hfits⟩

/-- Where any pattern competes, one wins. -/
theorem exists_wins (h : Competes calls (leadingRun path) pattern) :
    ∃ winner, Wins calls (leadingRun path) winner := by
  cases hlook : (empty.insertAll calls).lookupWithPattern path with
  | none => exact absurd h (lookupWithPattern_eq_none_iff.1 hlook pattern)
  | some found =>
      obtain ⟨value, text⟩ := found
      obtain ⟨winner, hwins, -⟩ := wins_of_lookupWithPattern hlook
      exact ⟨winner, hwins⟩

/-- The pattern that a look-up finds is the one that wins. -/
theorem wins_of_parse {text : String} {value : α}
    (hparse : Pattern.parse text = .ok pattern)
    (h : (empty.insertAll calls).lookupWithPattern path
      = some (value, text)) : Wins calls (leadingRun path) pattern := by
  obtain ⟨winner, hwinner, htext, -⟩ := wins_of_lookupWithPattern h
  obtain ⟨hread, -⟩ := stored_iff.1 hwinner.competes.stored
  rw [htext, hparse] at hread
  cases hread
  exact hwinner

/-- The pattern fits the segments, and the one that wins so far, if any
does, is not more specific. -/
structure Leads (calls : List (String × α)) (segments : List String)
    (pattern : Pattern) : Prop where
  fits : pattern.admits segments = true
  unbeaten : ∀ winner, Wins calls segments winner →
    ¬ winner.MoreSpecific pattern

/-- The winner is in the lead itself, so that it can be inserted again. -/
theorem Wins.leads (h : Wins calls segments pattern) :
    Leads calls segments pattern := by
  refine ⟨h.competes.fits, fun winner hwinner hmore => ?_⟩
  rw [hwinner.unique h] at hmore
  exact hmore.asymm hmore

/-- What a look-up finds so far decides whether a pattern leads. -/
theorem leads_iff :
    Leads calls (leadingRun path) pattern
      ↔ pattern.admits (leadingRun path) = true
        ∧ ∀ value text winner,
            (empty.insertAll calls).lookupWithPattern path
              = some (value, text) →
            Pattern.parse text = .ok winner →
            ¬ winner.MoreSpecific pattern := by
  constructor
  · intro h
    refine ⟨h.fits, fun value text winner hlook hparse => ?_⟩
    exact h.unbeaten winner (wins_of_parse hparse hlook)
  · intro ⟨hfits, hunbeaten⟩
    refine ⟨hfits, fun winner hwins => ?_⟩
    obtain ⟨hread, hlast⟩ := stored_iff.1 hwins.competes.stored
    obtain ⟨value, hvalue⟩ := Option.ne_none_iff_exists'.1 hlast
    refine hunbeaten value winner.text winner ?_ hread
    exact lookupWithPattern_eq_some_iff.2 ⟨winner, hwins, rfl, hvalue⟩

section OneMore

variable (hparse : Pattern.parse call.1 = .ok pattern)

include hparse

/-- A pattern in the lead wins once it is inserted. -/
theorem wins_of_leads (h : Leads calls (leadingRun path) pattern) :
    Wins (calls ++ [call]) (leadingRun path) pattern := by
  have hcompetes : Competes (calls ++ [call]) (leadingRun path) pattern :=
    competes_append_singleton.2 (Or.inr ⟨hparse, h.fits⟩)
  obtain ⟨winner, hwinner⟩ := exists_wins hcompetes
  by_cases hsame : winner = pattern
  · rwa [hsame] at hwinner
  · -- any other winner would have won before, and so not be the leader
    exfalso
    have hbeats := hwinner.most_specific pattern hcompetes (Ne.symm hsame)
    refine h.unbeaten winner ⟨?_, ?_⟩ hbeats
    · rcases competes_append_singleton.1 hwinner.competes with
        hold | ⟨hnew, -⟩
      · exact hold
      · rw [hparse] at hnew
        cases hnew
        exact absurd rfl hsame
    · intro other hother hne
      apply hwinner.most_specific other _ hne
      exact competes_append_singleton.2 (Or.inl hother)

/-- If the new pattern does not take the lead, the winner stays. -/
theorem wins_append_iff_of_not_leads
    (h : ¬ Leads calls (leadingRun path) pattern) :
    Wins (calls ++ [call]) (leadingRun path) other
      ↔ Wins calls (leadingRun path) other := by
  have hstays : ∀ winner, Wins calls (leadingRun path) winner →
      Wins (calls ++ [call]) (leadingRun path) winner := by
    intro winner hwinner
    refine ⟨competes_append_singleton.2 (Or.inl hwinner.competes), ?_⟩
    intro other hother hne
    rcases competes_append_singleton.1 hother with hold | ⟨hnew, hfits⟩
    · exact hwinner.most_specific other hold hne
    · rw [hparse] at hnew
      cases hnew
      -- the new pattern fits, so that something more specific has won
      by_contra hless
      apply h
      refine ⟨hfits, fun winner' hwinner' hmore => hless ?_⟩
      rwa [hwinner.unique hwinner']
  constructor
  · intro hwins
    rcases competes_append_singleton.1 hwins.competes with
      hold | ⟨hnew, hfits⟩
    · obtain ⟨winner, hwinner⟩ := exists_wins hold
      rwa [hwins.unique (hstays winner hwinner)]
    · rw [hparse] at hnew
      cases hnew
      exfalso
      apply h
      refine ⟨hfits, fun winner hwinner hmore => ?_⟩
      rw [hwins.unique (hstays winner hwinner)] at hmore
      exact hmore.asymm hmore
  · exact hstays other

-- =========================================================== the look-up

/-- Where the new pattern takes the lead, it is found with its value. -/
theorem lookupWithPattern_of_leads
    (h : Leads calls (leadingRun path) pattern) :
    (empty.insertAll (calls ++ [call])).lookupWithPattern path
      = some (call.2, call.1) := by
  apply lookupWithPattern_eq_some_iff.2
  refine ⟨pattern, wins_of_leads hparse h, Pattern.text_of_parse hparse, ?_⟩
  rw [lastFor?_append_singleton, if_pos rfl]

/-- Where it does not, the look-up finds what it found before. -/
theorem lookupWithPattern_of_not_leads
    (h : ¬ Leads calls (leadingRun path) pattern) :
    (empty.insertAll (calls ++ [call])).lookupWithPattern path
      = (empty.insertAll calls).lookupWithPattern path := by
  apply Option.ext
  intro ⟨value, text⟩
  rw [lookupWithPattern_eq_some_iff, lookupWithPattern_eq_some_iff]
  simp only [wins_append_iff_of_not_leads hparse h]
  -- a winner that is written as the new pattern is the new pattern
  have hlast : ∀ winner, Wins calls (leadingRun path) winner →
      winner.text = text →
      lastFor? (calls ++ [call]) text = lastFor? calls text := by
    intro winner hwinner htext
    rw [lastFor?_append_singleton, if_neg]
    intro hcall
    obtain ⟨hread, -⟩ := stored_iff.1 hwinner.competes.stored
    rw [htext, ← hcall, hparse] at hread
    cases hread
    exact h hwinner.leads
  constructor
  · intro ⟨winner, hwinner, htext, hvalue⟩
    rw [hlast winner hwinner htext] at hvalue
    exact ⟨winner, hwinner, htext, hvalue⟩
  · intro ⟨winner, hwinner, htext, hvalue⟩
    rw [← hlast winner hwinner htext] at hvalue
    exact ⟨winner, hwinner, htext, hvalue⟩

/-- A pattern that was inserted before keeps its place in every look-up, and
gets the new value. -/
theorem lookupWithPattern_of_known (hknown : ∃ c ∈ calls, c.1 = call.1) :
    (empty.insertAll (calls ++ [call])).lookupWithPattern path
      = ((empty.insertAll calls).lookupWithPattern path).map fun found =>
          if found.2 = call.1 then (call.2, found.2) else found := by
  have hstored : ∃ c ∈ calls, Pattern.parse c.1 = .ok pattern := by
    obtain ⟨c, hmem, htext⟩ := hknown
    exact ⟨c, hmem, by rw [htext, hparse]⟩
  cases hlook : (empty.insertAll calls).lookupWithPattern path with
  | none =>
      have hnone := lookupWithPattern_eq_none_iff.1 hlook pattern
      rw [lookupWithPattern_of_not_leads hparse, hlook]
      · rfl
      · intro hleads
        exact hnone ⟨hstored, hleads.fits⟩
  | some found =>
      obtain ⟨value, text⟩ := found
      by_cases hcall : text = call.1
      · subst hcall
        have hwins := wins_of_parse hparse hlook
        rw [lookupWithPattern_of_leads hparse hwins.leads]
        simp
      · obtain ⟨winner, hwinner, htext, -⟩ := wins_of_lookupWithPattern hlook
        have hother : winner ≠ pattern := by
          intro hsame
          apply hcall
          rw [← htext, hsame, Pattern.text_of_parse hparse]
        rw [lookupWithPattern_of_not_leads hparse, hlook]
        · simp [hcall]
        · intro hleads
          apply hleads.unbeaten winner hwinner
          exact hwinner.most_specific pattern ⟨hstored, hleads.fits⟩
            (Ne.symm hother)

-- ============================================================== the size

theorem isSome_entryAt?_insertAll :
    ((empty.insertAll calls).root.entryAt? pattern.pieces).isSome = true
      ↔ ∃ c ∈ calls, c.1 = call.1 := by
  rw [← lastFor?_ne_none_iff, Option.isSome_iff_exists,
    Option.ne_none_iff_exists']
  constructor
  · intro ⟨entry, hentry⟩
    obtain ⟨hread, hlast⟩ := (entryAt?_insertAll calls _ entry).1 hentry
    rw [Pattern.parse_injective hread hparse] at hlast
    exact ⟨entry.value, hlast⟩
  · intro ⟨value, hlast⟩
    refine ⟨{ value, pattern := call.1 }, ?_⟩
    exact (entryAt?_insertAll calls _ _).2 ⟨hparse, hlast⟩

/-- The size counts a pattern once. -/
theorem size_attempt :
    ((empty.insertAll calls).attempt call).size
      = if ∃ c ∈ calls, c.1 = call.1 then (empty.insertAll calls).size
        else (empty.insertAll calls).size + 1 := by
  unfold attempt
  rw [insert_of_parse_ok hparse]
  simp only [isSome_entryAt?_insertAll hparse]

-- ============================================================= the entries

/-- The pattern's own entry has the new value, whether there was one before
or not. -/
theorem entryAt?_attempt_self :
    ((empty.insertAll calls).attempt call).root.entryAt? pattern.pieces
      = some { value := call.2, pattern := call.1 } := by
  rw [← insertAll_append_singleton]
  apply (entryAt?_insertAll _ _ _).2
  refine ⟨hparse, ?_⟩
  rw [lastFor?_append_singleton, if_pos rfl]

end OneMore

-- ======================================================== both outcomes

/-- Two trees that give the same answers. -/
structure SameAnswers (tree next : PatternTree α) : Prop where
  size : next.size = tree.size
  lookupWithPattern : ∀ path,
    next.lookupWithPattern path = tree.lookupWithPattern path

/-- What becomes of the tree of some insertions when a value is stored under
one more pattern, which is written as the text. -/
structure Takes (calls : List (String × α)) (pattern : Pattern)
    (text : String) (value : α) (next : PatternTree α) : Prop where
  /-- The pattern's own entry has the value, be it new or in the place of
  another. -/
  entry : next.root.entryAt? pattern.pieces
    = some { value, pattern := text }
  /-- No other entry is touched. -/
  others : ∀ row, row ≠ pattern.pieces →
    next.root.entryAt? row = (empty.insertAll calls).root.entryAt? row
  /-- Where the pattern takes the lead, it is found with the value. -/
  found : ∀ path, Leads calls (leadingRun path) pattern →
    next.lookupWithPattern path = some (value, text)
  /-- Elsewhere the look-up finds what it found before. -/
  kept : ∀ path, ¬ Leads calls (leadingRun path) pattern →
    next.lookupWithPattern path
      = (empty.insertAll calls).lookupWithPattern path
  /-- A pattern is counted once. -/
  grows : next.size = (empty.insertAll calls).size + 1
    ↔ text ∉ calls.map Prod.fst
  /-- A pattern that was there before keeps its places, with the value. -/
  replaced : text ∈ calls.map Prod.fst →
    next.size = (empty.insertAll calls).size
      ∧ ∀ path, next.lookupWithPattern path
        = ((empty.insertAll calls).lookupWithPattern path).map
            fun found => if found.2 = text then (value, found.2) else found

theorem takes_attempt {text : String}
    (htext : Pattern.parse text = .ok pattern) (value : α) :
    Takes calls pattern text value
      ((empty.insertAll calls).attempt (text, value)) := by
  have hparse : Pattern.parse (text, value).1 = .ok pattern := htext
  have hknown : text ∈ calls.map Prod.fst ↔ ∃ c ∈ calls, c.1 = text :=
    List.mem_map
  refine ⟨entryAt?_attempt_self hparse, fun row hrow => ?_,
    fun path hleads => ?_, fun path hleads => ?_, ?_,
    fun h => ⟨?_, fun path => ?_⟩⟩
  · rw [entryAt?_attempt hparse, if_neg hrow]
  · rw [← insertAll_append_singleton]
    exact lookupWithPattern_of_leads hparse hleads
  · rw [← insertAll_append_singleton]
    exact lookupWithPattern_of_not_leads hparse hleads
  · rw [size_attempt hparse, hknown]
    split_ifs with h
    · exact ⟨fun hsize => by omega, fun hnot => absurd h hnot⟩
    · exact ⟨fun _ => h, fun _ => rfl⟩
  · rw [size_attempt hparse, if_pos (hknown.1 h)]
  · rw [← insertAll_append_singleton]
    exact lookupWithPattern_of_known hparse (hknown.1 h)

/-- After any insertions, one more is accepted if and only if its text is
acceptable, and else refused for the text's fault. The tree that comes back
from a refused one gives the same answers as the one before; that from an
accepted one has taken the value, at the pattern that the text stands
for. -/
theorem insert_after_insertAll (calls : List (String × α)) (text : String)
    (value : α) :
    (((empty.insertAll calls).insert text value).1 = .ok ()
        ↔ Pattern.Acceptable text)
      ∧ (∀ e, ((empty.insertAll calls).insert text value).1 = .error e
          ↔ Pattern.Fault text e)
      ∧ (∀ e next,
          (empty.insertAll calls).insert text value = (.error e, next) →
            SameAnswers (empty.insertAll calls) next)
      ∧ ∀ next,
          (empty.insertAll calls).insert text value = (.ok (), next) →
            ∃ pattern, Pattern.parse text = .ok pattern
              ∧ pattern.text = text
              ∧ Takes calls pattern text value next := by
  refine ⟨?_, fun e => ?_, fun e next hnext => ?_, fun next hnext => ?_⟩
  · rw [insert_fst_eq_ok_iff, Pattern.exists_parse_iff]
  · rw [insert_fst_eq_error_iff, Pattern.parse_eq_error_iff]
  · have hparse : Pattern.parse text = .error e :=
      insert_fst_eq_error_iff.1 (congrArg Prod.fst hnext)
    rw [insert_of_parse_error hparse] at hnext
    cases hnext
    exact ⟨rfl, fun path => rfl⟩
  · obtain ⟨pattern, hparse⟩ :=
      insert_fst_eq_ok_iff.1 (congrArg Prod.fst hnext)
    have hlast : next = (empty.insertAll calls).attempt (text, value) :=
      (congrArg Prod.snd hnext).symm
    rw [hlast]
    exact ⟨pattern, hparse, Pattern.text_of_parse hparse,
      takes_attempt hparse value⟩

/-- A pattern twice and then a text that is none: the second value stays. -/
example :
    let tree := empty.insertAll [("a.b", 1), ("a.b", 2), ("a.B", 3)]
    tree.lookup "a.b.c" = some 2 ∧ tree.size = 1 := by
  decide +kernel

end FaultStatus.PatternTree
