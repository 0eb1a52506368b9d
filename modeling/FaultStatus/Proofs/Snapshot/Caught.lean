/-
Rules that are written as a reason. Such a rule catches the reason, in
whatever spelling the rule has it and the reason is asked for in, and
whatever other rules there are (`explanation_addPrefix_reason`). The reason
may go on after that: some pattern that is as deep still answers.

The rule's text is brought into the spelling of reasons when it is compiled,
as the reason's is when it is parsed, so that the pattern is the row of the
reason's own segments (`Pattern.ofSegments`). No pattern that fits these
segments is more specific: to be deeper it would need more of them, and where
it first differs it has the wildcard (`Pattern.moreSpecific_ofSegments`). So
the last rule leads (`PatternTree.leads_ofSegments`), whatever has been
inserted before it.
-/
import FaultStatus.Proofs.PatternTree.Attempt
import FaultStatus.Proofs.Reason.Language
import FaultStatus.Proofs.Compile.Faults
import FaultStatus.Proofs.Snapshot.Refinement
import Mathlib.Data.List.TakeWhile

namespace FaultStatus

-- ========================================================= rows of segments

namespace Piece

variable {row : List Piece} {segments : List String}

theorem admitAll_map_literal (segments : List String) :
    admitAll (segments.map literal) segments = true := by
  induction segments with
  | nil => rfl
  | cons segment ahead ih => simp [admitAll, admits, ih]

/-- Where a row of the segments' own length first differs from them it has
the wildcard. -/
theorem eq_map_literal_or_narrower (h : admitAll row segments = true)
    (hlength : row.length = segments.length) :
    row = segments.map literal ∨ Narrower (segments.map literal) row := by
  induction row generalizing segments with
  | nil =>
      rw [List.length_eq_zero_iff.1 hlength.symm]
      exact Or.inl rfl
  | cons piece row ih =>
      cases segments with
      | nil => cases hlength
      | cons segment ahead =>
          simp only [admitAll, Bool.and_eq_true] at h
          obtain ⟨hpiece, hrow⟩ := h
          cases piece with
          | wildcard => exact Or.inr (narrower_head segment _ _)
          | literal s =>
              have hs : s = segment := of_decide_eq_true hpiece
              rw [hs, List.map_cons]
              rcases ih hrow (Nat.succ.inj hlength) with heq | hnarrow
              · left
                rw [heq]
              · exact Or.inr (hnarrow.cons _)

end Piece

namespace Pattern

variable {pattern : Pattern} {segments : List String} {text : String}

/-- The pattern that is the segments themselves. -/
def ofSegments (segments : List String) : Pattern :=
  ⟨segments.map .literal⟩

theorem admits_ofSegments (segments : List String) :
    (ofSegments segments).admits segments = true :=
  Piece.admitAll_map_literal segments

/-- Of the patterns that fit the segments none is more specific than the
segments themselves. -/
theorem moreSpecific_ofSegments (h : pattern.admits segments = true)
    (hne : pattern ≠ ofSegments segments) :
    (ofSegments segments).MoreSpecific pattern := by
  have hdepth : (ofSegments segments).depth = segments.length :=
    List.length_map _
  rcases Nat.lt_or_eq_of_le (Piece.length_le_of_admitAll h) with
    hless | hequal
  · left
    rw [hdepth]
    exact hless
  · right
    refine ⟨hequal.trans hdepth.symm, ?_⟩
    rcases Piece.eq_map_literal_or_narrower h hequal with heq | hnarrow
    · exact absurd (congrArg mk heq) hne
    · exact hnarrow

/-- A text of segments stands for these segments. -/
theorem parse_of_segments
    (h : ∀ piece ∈ FaultStatus.pieces text, isSegment piece.toList = true) :
    parse text = .ok (ofSegments (FaultStatus.pieces text)) := by
  refine parse_eq_ok_iff.2 ⟨?_, ?_, ?_⟩
  · rw [ofSegments, List.map_map]
    exact List.map_id _
  · exact List.forall_mem_map.2 h
  · -- there is always a piece, and here it is a segment
    have hone : FaultStatus.pieces text ≠ [] := by
      unfold FaultStatus.pieces
      rw [ne_eq, List.map_eq_nil_iff]
      exact List.splitOn_ne_nil _ _
    obtain ⟨piece, hpiece⟩ := List.exists_mem_of_ne_nil _ hone
    exact ⟨.literal piece, List.mem_map_of_mem hpiece, by simp⟩

end Pattern

namespace PatternTree

variable {α : Type}

/-- Nothing that was inserted before is ahead of the segments themselves. -/
theorem leads_ofSegments (calls : List (String × α))
    (segments : List String) :
    Leads calls segments (.ofSegments segments) := by
  refine ⟨Pattern.admits_ofSegments segments, fun winner hwins hmore => ?_⟩
  by_cases hsame : winner = .ofSegments segments
  · rw [hsame] at hmore
    exact hmore.asymm hmore
  · exact hmore.asymm
      (Pattern.moreSpecific_ofSegments hwins.competes.fits hsame)

/-- A path of segments that is inserted last is found at itself. -/
theorem lookupWithPattern_self (calls : List (String × α)) (value : α)
    {path : String}
    (h : ∀ piece ∈ pieces path, isSegment piece.toList = true) :
    (empty.insertAll (calls ++ [(path, value)])).lookupWithPattern path
      = some (value, path) := by
  have hparse : Pattern.parse (path, value).1 = .ok (.ofSegments (pieces path))
    := Pattern.parse_of_segments h
  have hleads : Leads calls (leadingRun path) (.ofSegments (pieces path)) := by
    rw [leadingRun_of_segments h]
    exact leads_ofSegments calls (pieces path)
  exact lookupWithPattern_of_leads hparse hleads

end PatternTree

-- ============================================================ one more rule

/-- A rule whose pattern is segments is accepted. -/
theorem PrefixRule.accepted_of_segments {V : Type} {rule : PrefixRule V}
    (h : ∀ piece ∈ pieces (Reason.normalize rule.pattern),
      isSegment piece.toList = true) : rule.Accepted :=
  Pattern.exists_parse_iff.1 ⟨_, Pattern.parse_of_segments h⟩

namespace RuleTable

variable {V : Type} {rules : RuleTable V} {family : Family} {code : Code}
  {pattern : String} {value : V}

theorem prefixRules_addPrefix_self :
    (rules.addPrefix code pattern value).prefixRules[code]?
      = some (rules.prefixRulesFor code
          ++ [PrefixRule.mk pattern value]) :=
  Std.TreeMap.getElem?_insert_self

theorem mem_prefixRulesFor_addPrefix {other : Code} {rule : PrefixRule V}
    (h : rule ∈ (rules.addPrefix code pattern value).prefixRulesFor other) :
    rule ∈ rules.prefixRulesFor other ∨ rule = { pattern, value } := by
  unfold addPrefix prefixRulesFor at h
  unfold prefixRulesFor
  rw [Std.TreeMap.getD_insert] at h
  split at h
  next hcode =>
    rw [Std.LawfulEqOrd.eq_of_compare hcode] at h
    rcases List.mem_append.1 h with h | h
    · exact Or.inl h
    · exact Or.inr (List.mem_singleton.1 h)
  next => exact Or.inl h

/-- If the rule added last is written as a path of segments, and the code has
no override, it answers at that path. -/
theorem explain_addPrefix_of_segments {table : ResolutionTable V}
    {reason : Reason}
    (h : ((rules.addPrefix code pattern value).compile family).run.value
      = .ok table)
    (hoverride : rules.overrideFor? code = none)
    (hwritten : Reason.normalize pattern = reason.text)
    (hsegments : ∀ piece ∈ pieces reason.text,
      isSegment piece.toList = true) :
    table.explain code reason
      = { value, source := .prefixHit reason.text } := by
  obtain ⟨-, hoverrides, -, -, htrees⟩ := compile_eq_ok h
  have hnone : table.overrides[code]? = none := by
    rw [hoverrides]
    exact hoverride
  have hfound : table.trees[code]?.bind (·.lookupWithPattern reason.text)
      = some (value, reason.text) := by
    rw [htrees, prefixRules_addPrefix_self, Option.map_some,
      Option.bind_some, List.map_append, List.map_singleton,
      PrefixRule.insertion, hwritten]
    exact PatternTree.lookupWithPattern_self _ value hsegments
  unfold ResolutionTable.explain
  rw [hnone, hfound]

end RuleTable

namespace Ruleset

variable {rules : Ruleset} {family : Family} {code : Code} {pattern : String}
  {value : family.Value}

/-- Rules that are built are built with one more rule that is accepted. -/
theorem exists_build_addPrefix {old : Snapshot}
    (h : rules.build.value = .ok old)
    (haccepted : PrefixRule.Accepted { pattern, value }) :
    ∃ new, (rules.addPrefix family code pattern value).build.value = .ok new := by
  apply exists_build_eq_ok_iff.2
  intro family' code'
  have hold := faultAt?_of_build h family' code'
  unfold faultAt? at hold ⊢
  rw [firstFault?_eq_none_iff] at hold ⊢
  by_cases hfamily : family' = family
  · subst hfamily
    rw [addPrefix, PerFamily.get_modify_self]
    intro rule hrule
    rcases RuleTable.mem_prefixRulesFor_addPrefix hrule with hmem | rfl
    · exact hold rule hmem
    · exact haccepted
  · rwa [addPrefix, PerFamily.get_modify_of_ne _ _ hfamily]

end Ruleset

-- ===================================================== a reason as a pattern

/-- The segments of a reason that is not empty are its pieces. -/
theorem Reason.isSegment_pieces_of_parse {s : String} {reason : Reason}
    (h : parse s = .ok reason) (hne : reason ≠ empty) :
    ∀ piece ∈ pieces reason.text, isSegment piece.toList = true :=
  (isCanonical_of_parse h).isSegment_pieces hne

namespace Snapshot

/-- Where a reason is answered by its own pattern, it is answered by one that
is as deep at least when it goes on. -/
theorem exists_prefixHit_refine {snapshot : Snapshot} {rules : Ruleset}
    (h : snapshot.ComesFrom rules) {family : Family} {code : Code}
    {reason : Reason}
    (hform : ∀ piece ∈ pieces reason.text, isSegment piece.toList = true)
    (hself : ((snapshot.explanation code reason).answers.get family).source
      = .prefixHit reason.text) (more : String) :
    ∃ text, ((snapshot.explanation code (reason.refine more)).answers.get
        family).source = .prefixHit text
      ∧ reason.segments.length ≤ (pieces text).length := by
  have hrefined := ResolutionTable.explain_of_lookup
    (lookup_refined h family code reason more)
  rw [← get_answers_explanation, ← get_answers_explanation] at hrefined
  rw [Reason.segments_eq_pieces hform]
  rcases hrefined with hsame | ⟨text, hsource, hdeep⟩
  · rw [hsame]
    exact ⟨reason.text, hself, Nat.le_refl _⟩
  · rw [leadingRun_of_segments hform] at hdeep
    exact ⟨text, hsource, Nat.le_of_lt hdeep⟩

/-- If rules are built, they are built with one more rule that is written as
a reason, in any spelling. If the code has no override, the reason, however
it is spelled when it is asked for, is then answered by this rule, and with
more behind it by a pattern that has as many pieces at least as the reason has
segments. -/
theorem explanation_addPrefix_reason {rules : Ruleset} {old : Snapshot}
    {s : String} {reason : Reason} (hbuilt : rules.build.value = .ok old)
    (hreason : Reason.parse s = .ok reason) (hne : reason ≠ .empty)
    (family : Family) (code : Code) (value : family.Value) :
    ∃ new, (rules.addPrefix family code s value).build.value = .ok new
      ∧ ((rules.get family).overrideFor? code = none →
          (∀ spelling, Reason.parse spelling = Reason.parse s →
              ∃ asked, Reason.parse spelling = .ok asked
                ∧ (new.explanation code asked).answers.get family
                  = { value, source := .prefixHit reason.text })
            ∧ ∀ more, ∃ text,
                ((new.explanation code (reason.refine more)).answers.get
                    family).source = .prefixHit text
                  ∧ reason.segments.length ≤ (pieces text).length) := by
  have hform := Reason.isSegment_pieces_of_parse hreason hne
  obtain ⟨-, htext⟩ := eq_ok_of_check hreason
  have hwritten : Reason.normalize s = reason.text :=
    congrArg Reason.text htext
  have haccepted : PrefixRule.Accepted (PrefixRule.mk s value) :=
    PrefixRule.accepted_of_segments (hwritten ▸ hform)
  obtain ⟨new, hbuild⟩ : ∃ new,
      (rules.addPrefix family code s value).build.value = .ok new :=
    Ruleset.exists_build_addPrefix hbuilt haccepted
  have hself : (rules.get family).overrideFor? code = none →
      (new.explanation code reason).answers.get family
        = { value, source := .prefixHit reason.text } := by
    intro hoverride
    have hcompile := Ruleset.build_eq_ok hbuild family
    rw [Ruleset.addPrefix, PerFamily.get_modify_self] at hcompile
    rw [get_answers_explanation]
    exact RuleTable.explain_addPrefix_of_segments hcompile hoverride hwritten
      hform
  refine ⟨new, hbuild, fun hoverride => ⟨fun spelling hspelling => ?_,
    fun more => ?_⟩⟩
  · exact ⟨reason, hspelling.trans hreason, hself hoverride⟩
  · exact exists_prefixHit_refine (.built hbuild) hform
      (congrArg Resolution.source (hself hoverride)) more

/-- Two rules that catch a reason with wildcards. -/
def wideRules : Ruleset :=
  (Ruleset.initial.addPrefix .grpc .timeout "storage.*" .unavailable
    ).addPrefix .grpc .timeout "*.pg_main" .internal

theorem explanation_wideRules :
    ∃ old new, wideRules.build.value = .ok old
      ∧ (old.explanation .timeout ⟨"storage.pg_main"⟩).answers.grpc.source
          = .prefixHit "storage.*"
      ∧ (wideRules.addPrefix .grpc .timeout " Storage/PG-Main "
          .aborted).build.value = .ok new
      ∧ (new.explanation .timeout ⟨"storage.pg_main"⟩).answers.grpc
          = { value := .aborted, source := .prefixHit "storage.pg_main" }
      ∧ ∃ text, (new.explanation .timeout
            (Reason.refine ⟨"storage.pg_main"⟩ "read")).answers.grpc.source
              = .prefixHit text
          ∧ 2 ≤ (pieces text).length := by
  obtain ⟨old, hold, hsource⟩ : ∃ old, wideRules.build.value = .ok old
      ∧ (old.explanation .timeout ⟨"storage.pg_main"⟩).answers.grpc.source
          = .prefixHit "storage.*" :=
    FirstError.exists_of_map_eq_ok (by decide +kernel)
  have hreason : Reason.parse " Storage/PG-Main "
      = .ok ⟨"storage.pg_main"⟩ := by
    decide +kernel
  obtain ⟨new, hnew, hcaught⟩ := explanation_addPrefix_reason hold hreason
    (by decide) .grpc .timeout .aborted
  obtain ⟨hspelled, hrefined⟩ := hcaught (by decide +kernel)
  obtain ⟨asked, hasked, hanswer⟩ := hspelled " Storage/PG-Main " rfl
  rw [hreason] at hasked
  cases hasked
  obtain ⟨text, htext, hdeep⟩ := hrefined "read"
  have htwo : (Reason.segments ⟨"storage.pg_main"⟩).length = 2 := by
    decide +kernel
  exact ⟨old, new, hold, hsource, hnew, hanswer, text, htext,
    htwo ▸ hdeep⟩

end Snapshot

end FaultStatus
