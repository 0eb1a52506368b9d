/-
Refined reasons. A reason is refined by a separator and more text behind it.
This never loses a match: the answer stays as it was, or a pattern gives it
that is deeper than the leading run of segments of the first reason was long
(`explanation_refined`).

The text behind the separator can only prolong the leading run
(`leadingRun_prefix`), and a pattern that is no deeper than the first run
fits the second if and only if it fits the first. So if the winner against
the second run is such a pattern, it has already won against the first one,
over the same competitors and maybe fewer (`Wins.of_append`); if it is not,
it is deeper than the first run.
-/
import FaultStatus.Proofs.Snapshot.Agreement

namespace FaultStatus

-- ============================================================ longer runs

namespace Piece

variable {row : List Piece} {segments : List String}

theorem length_le_of_admitAll (h : admitAll row segments = true) :
    row.length ≤ segments.length := by
  induction row generalizing segments with
  | nil => exact Nat.zero_le _
  | cons piece row ih =>
      cases segments with
      | nil => cases h
      | cons segment ahead =>
          simp only [admitAll, Bool.and_eq_true] at h
          have hrow := ih h.2
          simp only [List.length_cons]
          omega

/-- Segments beyond the depth of a row do not matter to it. -/
theorem admitAll_append (more : List String)
    (h : row.length ≤ segments.length) :
    admitAll row (segments ++ more) = admitAll row segments := by
  induction row generalizing segments with
  | nil => simp [admitAll]
  | cons piece row ih =>
      cases segments with
      | nil => simp at h
      | cons segment ahead =>
          simp only [List.length_cons, Nat.add_le_add_iff_right] at h
          simp only [List.cons_append, admitAll, ih h]

end Piece

theorem Pattern.length_pieces_of_parse {text : String} {pattern : Pattern}
    (h : parse text = .ok pattern) :
    (FaultStatus.pieces text).length = pattern.depth := by
  obtain ⟨htexts, -⟩ := parse_eq_ok_iff.1 h
  rw [← htexts, List.length_map, depth]

-- ================================================== winners of longer runs

namespace PatternTree

variable {α : Type} {calls : List (String × α)}
  {segments more : List String} {pattern : Pattern}

theorem Competes.depth_le (h : Competes calls segments pattern) :
    pattern.depth ≤ segments.length :=
  Piece.length_le_of_admitAll h.fits

theorem competes_append_iff (h : pattern.depth ≤ segments.length) :
    Competes calls (segments ++ more) pattern
      ↔ Competes calls segments pattern := by
  have hfits : pattern.admits (segments ++ more) = pattern.admits segments :=
    Piece.admitAll_append more h
  constructor
  · intro ⟨hstored, hlonger⟩
    exact ⟨hstored, hfits ▸ hlonger⟩
  · intro ⟨hstored, hshorter⟩
    exact ⟨hstored, hfits ▸ hshorter⟩

/-- What competes against a run competes against each longer one. -/
theorem Competes.append (h : Competes calls segments pattern)
    (more : List String) : Competes calls (segments ++ more) pattern :=
  (competes_append_iff h.depth_le).2 h

/-- A winner that a run is long enough for has already won there. -/
theorem Wins.of_append (h : Wins calls (segments ++ more) pattern)
    (hdepth : pattern.depth ≤ segments.length) :
    Wins calls segments pattern := by
  refine ⟨(competes_append_iff hdepth).1 h.competes, ?_⟩
  intro other hother hne
  exact h.most_specific other (hother.append more) hne

/-- Along a path whose leading run is longer, a look-up finds the same, or a
pattern that is deeper than the shorter run. -/
theorem lookupWithPattern_longer {path longer : String}
    (h : leadingRun longer = leadingRun path ++ more) :
    (empty.insertAll calls).lookupWithPattern longer
        = (empty.insertAll calls).lookupWithPattern path
      ∨ ∃ value text,
          (empty.insertAll calls).lookupWithPattern longer
            = some (value, text)
          ∧ (leadingRun path).length < (pieces text).length := by
  cases hlook : (empty.insertAll calls).lookupWithPattern longer with
  | none =>
      left
      symm
      apply lookupWithPattern_eq_none_iff.2
      intro pattern hcompetes
      apply lookupWithPattern_eq_none_iff.1 hlook pattern
      rw [h]
      exact hcompetes.append more
  | some found =>
      obtain ⟨value, text⟩ := found
      obtain ⟨winner, hwins, htext, hlast⟩ :=
        wins_of_lookupWithPattern hlook
      obtain ⟨hparse, -⟩ := stored_iff.1 hwins.competes.stored
      rw [htext] at hparse
      rw [h] at hwins
      by_cases hdepth : winner.depth ≤ (leadingRun path).length
      · left
        symm
        apply lookupWithPattern_eq_some_iff.2
        exact ⟨winner, hwins.of_append hdepth, htext, hlast⟩
      · right
        refine ⟨value, text, rfl, ?_⟩
        rw [Pattern.length_pieces_of_parse hparse]
        omega

end PatternTree

-- ========================================================= refined reasons

/-- The reason, refined by further text. -/
def Reason.refine (reason : Reason) (more : String) : Reason :=
  ⟨prolong reason.text more⟩

/-- The answer is that of a pattern with more pieces than there are
segments. -/
def Resolution.DeeperThan {V : Type} (answer : Resolution V)
    (segments : List String) : Prop :=
  ∃ text, answer.source = .prefixHit text
    ∧ segments.length < (pieces text).length

/-- If look-ups find the same, or something deep, so do the answers. -/
theorem ResolutionTable.explain_of_lookup {V : Type}
    {table : ResolutionTable V} {code : Code} {reason longer : Reason}
    {segments : List String}
    (h : table.trees[code]?.bind (·.lookupWithPattern longer.text)
        = table.trees[code]?.bind (·.lookupWithPattern reason.text)
      ∨ ∃ value text,
          table.trees[code]?.bind (·.lookupWithPattern longer.text)
            = some (value, text)
          ∧ segments.length < (pieces text).length) :
    table.explain code longer = table.explain code reason
      ∨ (table.explain code longer).DeeperThan segments := by
  unfold explain
  cases table.overrides[code]? with
  | some value => exact Or.inl rfl
  | none =>
      rcases h with hsame | ⟨value, text, hfound, hdeep⟩
      · rw [hsame]
        exact Or.inl rfl
      · rw [hfound]
        exact Or.inr ⟨text, rfl, hdeep⟩

namespace Snapshot

variable {snapshot : Snapshot} {rules : Ruleset}

/-- The tree of a code is what its rules come to, wherever the snapshot
comes from. -/
theorem trees_of_comesFrom (h : snapshot.ComesFrom rules) (family : Family)
    (code : Code) :
    (snapshot.get family).trees[code]?
      = (rules.get family).prefixRules[code]?.map fun list =>
          PatternTree.empty.insertAll (list.map PrefixRule.insertion) := by
  cases h with
  | built built =>
      obtain ⟨-, -, -, -, htrees⟩ :=
        RuleTable.compile_eq_ok (Ruleset.build_eq_ok built family)
      exact htrees code
  | builtIn snapshot_eq rules_eq =>
      rw [snapshot_eq, rules_eq]
      cases family <;> rfl

theorem lookup_refined (h : snapshot.ComesFrom rules) (family : Family)
    (code : Code) (reason : Reason) (more : String) :
    (snapshot.get family).trees[code]?.bind
          (·.lookupWithPattern (reason.refine more).text)
        = (snapshot.get family).trees[code]?.bind
            (·.lookupWithPattern reason.text)
      ∨ ∃ value text,
          (snapshot.get family).trees[code]?.bind
              (·.lookupWithPattern (reason.refine more).text)
            = some (value, text)
          ∧ (leadingRun reason.text).length < (pieces text).length := by
  rw [trees_of_comesFrom h]
  cases (rules.get family).prefixRules[code]? with
  | none => exact Or.inl rfl
  | some list =>
      obtain ⟨rest, hrun⟩ := leadingRun_prefix reason.text more
      exact PatternTree.lookupWithPattern_longer hrun

/-- A pattern that gives an answer has no more pieces than the reason has
leading segments. -/
theorem length_pieces_le (h : snapshot.ComesFrom rules) {family : Family}
    {code : Code} {reason : Reason} {text : String}
    (hsource : ((snapshot.explanation code reason).answers.get
      family).source = .prefixHit text) :
    (pieces text).length ≤ (leadingRun reason.text).length := by
  obtain ⟨front, rest, hsplit, hfits⟩ := (ruleHit_of_comesFrom h hsource).fits
  rw [hsplit, List.length_append, hfits.length_eq]
  omega

/-- A refined reason has the answer of the first one, or that of a pattern
with more pieces than the first one had leading segments. So where a pattern
gave the answer, one that is at least as deep still does. -/
theorem explanation_refined (h : snapshot.ComesFrom rules) (family : Family)
    (code : Code) (reason : Reason) (more : String) :
    ((snapshot.explanation code (reason.refine more)).answers.get family
          = (snapshot.explanation code reason).answers.get family
        ∨ ((snapshot.explanation code (reason.refine more)).answers.get
            family).DeeperThan (leadingRun reason.text))
      ∧ ∀ text, ((snapshot.explanation code reason).answers.get
            family).source = .prefixHit text →
          ∃ text', ((snapshot.explanation code
                (reason.refine more)).answers.get family).source
              = .prefixHit text'
            ∧ (pieces text).length ≤ (pieces text').length := by
  have hcases :
      (snapshot.explanation code (reason.refine more)).answers.get family
          = (snapshot.explanation code reason).answers.get family
        ∨ ((snapshot.explanation code (reason.refine more)).answers.get
            family).DeeperThan (leadingRun reason.text) := by
    rw [get_answers_explanation, get_answers_explanation]
    exact ResolutionTable.explain_of_lookup
      (lookup_refined h family code reason more)
  refine ⟨hcases, fun text hsource => ?_⟩
  rcases hcases with hsame | ⟨text', hsource', hdeep⟩
  · rw [hsame]
    exact ⟨text, hsource, Nat.le_refl _⟩
  · refine ⟨text', hsource', ?_⟩
    have hle := length_pieces_le h hsource
    omega

/-- A short pattern, and a longer one that needs a third segment. -/
def shortAndLong : Ruleset :=
  (Ruleset.initial.addPrefix .http .timeout "storage" 503).addPrefix
    .http .timeout "storage.*.read" 504

theorem explanation_shortAndLong :
    ∃ snapshot : Snapshot, shortAndLong.build.value = .ok snapshot
      ∧ (snapshot.explanation .timeout ⟨"storage.pg"⟩).answers.http.source
          = .prefixHit "storage"
      ∧ ∃ text, (snapshot.explanation .timeout
            (Reason.refine ⟨"storage.pg"⟩ "read.Row")).answers.http.source
              = .prefixHit text
          ∧ (pieces "storage").length ≤ (pieces text).length := by
  have hsource : shortAndLong.build.value.map (fun snapshot =>
      (snapshot.explanation .timeout ⟨"storage.pg"⟩).answers.http.source)
      = .ok (.prefixHit "storage") := by
    decide +kernel
  cases hbuild : shortAndLong.build.value with
  | error e =>
      rw [hbuild] at hsource
      cases hsource
  | ok snapshot =>
      rw [hbuild] at hsource
      have hshort := Except.ok.inj hsource
      obtain ⟨-, hdeep⟩ := explanation_refined (.built hbuild) .http .timeout
        ⟨"storage.pg"⟩ "read.Row"
      exact ⟨snapshot, rfl, hshort, hdeep "storage" hshort⟩

end Snapshot

end FaultStatus
