/-
The scope of one more directive. If rules are built with a directive added
at their end, they are built without it too, and the two snapshots differ in
the directive's own scope alone (`explanation_apply`): for each code of its
scope the directive offers an answer (`RuleChange.offer?`), which is given
exactly where it displaces the answer before (`Source.Displaces`); all other
answers are as they were.

An answer is the first that four tiers have (`Resolution.ofTiers`), and a
change puts something into one tier only. For three of them this is all. The
patterns of a code are a tier that can hold many answers at once: there the
new pattern has to take the lead over those that fit the reason, which is
what `PatternTree.Leads` and the two look-ups of `PatternTree/Attempt` are
about.
-/
import FaultStatus.Proofs.PatternTree.Attempt
import FaultStatus.Proofs.Ruleset.Slots
import FaultStatus.Proofs.Snapshot.Agreement

namespace FaultStatus

-- ========================================================== what is offered

/-- The answer that a change holds ready for a code. -/
def RuleChange.offer? {V : Type} (code : Code) :
    RuleChange V → Option (Resolution V)
  | .setDefault c value =>
    if c = code then some { value, source := .default } else none
  | .setOverride c value =>
    if c = code then some { value, source := .override } else none
  | .addPrefix c pattern value =>
    if c = code then
      some { value, source := .prefixHit (Reason.normalize pattern) }
    else none
  | .setFallback value => some { value, source := .fallback }

/-- The answer that a directive holds ready for a code in a family. -/
def Directive.offer? (family : Family) (code : Code)
    (directive : Directive) : Option (Resolution family.Value) :=
  (directive.changeIn? family).bind (RuleChange.offer? code)

/-- An offer from the first source takes the place of an answer from the
second, the reason being given. -/
inductive Source.Displaces (reason : Reason) : Source → Source → Prop where
  /-- An override displaces every answer. -/
  | override {old : Source} : Displaces reason .override old
  /-- A pattern that fits the reason displaces all but an override and the
  answer of a pattern that is more specific. -/
  | prefixHit {text : String} {pattern : Pattern} {old : Source}
      (reads : Pattern.parse text = .ok pattern)
      (fits : pattern.admits (leadingRun reason.text) = true)
      (no_override : old ≠ .override)
      (unbeaten : ∀ text' winner, old = .prefixHit text' →
        Pattern.parse text' = .ok winner → ¬ winner.MoreSpecific pattern) :
      Displaces reason (.prefixHit text) old
  /-- A default displaces a default or a fallback. -/
  | default {old : Source} (later : old = .default ∨ old = .fallback) :
      Displaces reason .default old
  /-- A fallback displaces a fallback. -/
  | fallback : Displaces reason .fallback .fallback

section Amends

variable {V : Type}

/-- An offer, if there is one, becomes the answer exactly where it displaces
the answer before; everywhere else this answer stays. -/
structure Resolution.Amends (offer : Option (Resolution V)) (reason : Reason)
    (before after : Resolution V) : Prop where
  taken : ∀ offered, offer = some offered →
    (after = offered ↔ offered.source.Displaces reason before.source)
  kept : (∀ offered, offer = some offered →
    ¬ offered.source.Displaces reason before.source) → after = before

variable {reason : Reason} {before after offered : Resolution V}

theorem Resolution.amends_none (reason : Reason) (before : Resolution V) :
    Amends none reason before before :=
  ⟨fun _ h => (Option.some_ne_none _ h.symm).elim, fun _ => rfl⟩

/-- It is enough to see that the offer is taken where it displaces the
answer before, and that it is no other answer where it does not. -/
theorem Resolution.amends_some
    (htaken : offered.source.Displaces reason before.source →
      after = offered)
    (hkept : ¬ offered.source.Displaces reason before.source →
      after = before ∧ before ≠ offered) :
    Amends (some offered) reason before after := by
  by_cases hdisplaces : offered.source.Displaces reason before.source
  · constructor
    · intro answer hanswer
      cases hanswer
      exact ⟨fun _ => hdisplaces, htaken⟩
    · intro hnone
      exact absurd hdisplaces (hnone offered rfl)
  · obtain ⟨hsame, hother⟩ := hkept hdisplaces
    constructor
    · intro answer hanswer
      cases hanswer
      rw [hsame]
      exact ⟨fun h => absurd h hother, fun h => absurd h hdisplaces⟩
    · intro _
      exact hsame

-- ============================================================== the tiers

namespace Resolution

variable (override default : Option V) (found : Option (V × String))
  (fallback value : V) (reason : Reason)

theorem amends_override :
    Amends (some { value, source := .override }) reason
      (ofTiers override found default fallback)
      (ofTiers (some value) found default fallback) := by
  apply amends_some
  · intro _
    rfl
  · intro hnot
    exact absurd .override hnot

theorem amends_default :
    Amends (some { value, source := .default }) reason
      (ofTiers override found default fallback)
      (ofTiers override found (some value) fallback) := by
  apply amends_some
  · intro hdisplaces
    cases hdisplaces with
    | default later =>
        cases override with
        | some _ => simp [ofTiers] at later
        | none =>
            cases found with
            | some _ => simp [ofTiers] at later
            | none => rfl
  · intro hnot
    cases override with
    | some _ => simp [ofTiers]
    | none =>
        cases found with
        | some _ => simp [ofTiers]
        | none =>
            exfalso
            apply hnot
            cases default with
            | some _ => exact .default (Or.inl rfl)
            | none => exact .default (Or.inr rfl)

theorem amends_fallback :
    Amends (some { value, source := .fallback }) reason
      (ofTiers override found default fallback)
      (ofTiers override found default value) := by
  apply amends_some
  · intro hdisplaces
    cases override with
    | some _ => cases hdisplaces
    | none =>
        cases found with
        | some _ => cases hdisplaces
        | none =>
            cases default with
            | some _ => cases hdisplaces
            | none => rfl
  · intro hnot
    cases override with
    | some _ => simp [ofTiers]
    | none =>
        cases found with
        | some _ => simp [ofTiers]
        | none =>
            cases default with
            | some _ => simp [ofTiers]
            | none => exact absurd .fallback hnot

theorem source_ofTiers_eq_prefixHit_iff {text : String} :
    (ofTiers none found default fallback).source = .prefixHit text
      ↔ ∃ value, found = some (value, text) := by
  cases found with
  | some found => simp [ofTiers, Prod.ext_iff]
  | none => cases default <;> simp [ofTiers]

theorem source_ofTiers_none_ne_override :
    (ofTiers none found default fallback).source ≠ .override := by
  cases found <;> cases default <;> simp [ofTiers]

open PatternTree in
/-- A pattern is offered by its insertion into the tree of its code. -/
theorem amends_prefixHit {calls : List (String × V)} {text : String}
    {pattern : Pattern} (hparse : Pattern.parse text = .ok pattern) :
    Amends (some { value, source := .prefixHit text }) reason
      (ofTiers override
        ((empty.insertAll calls).lookupWithPattern reason.text)
        default fallback)
      (ofTiers override
        ((empty.insertAll (calls ++ [(text, value)])).lookupWithPattern
          reason.text)
        default fallback) := by
  cases override with
  | some _ =>
      apply amends_some
      · intro hdisplaces
        cases hdisplaces with
        | prefixHit reads fits no_override unbeaten =>
            exact absurd rfl no_override
      · intro _
        exact ⟨rfl, by simp [ofTiers]⟩
  | none =>
      -- without an override, to displace the answer is to take the lead
      have hleads : Source.Displaces reason (.prefixHit text)
            (ofTiers none
              ((empty.insertAll calls).lookupWithPattern reason.text)
              default fallback).source
          ↔ Leads calls (leadingRun reason.text) pattern := by
        rw [leads_iff]
        constructor
        · intro hdisplaces
          cases hdisplaces with
          | prefixHit reads fits no_override unbeaten =>
              rw [hparse] at reads
              cases reads
              refine ⟨fits, fun _ text' winner hlook => ?_⟩
              exact unbeaten text' winner (by rw [hlook]; rfl)
        · intro ⟨hfits, hunbeaten⟩
          refine .prefixHit hparse hfits
            (source_ofTiers_none_ne_override _ _ _) ?_
          intro text' winner hsource
          obtain ⟨value', hlook⟩ :=
            (source_ofTiers_eq_prefixHit_iff _ _ _).1 hsource
          exact hunbeaten value' text' winner hlook
      apply amends_some
      · intro hdisplaces
        have hlook : (empty.insertAll (calls ++ [(text, value)])
              ).lookupWithPattern reason.text = some (value, text) :=
          lookupWithPattern_of_leads hparse (hleads.1 hdisplaces)
        rw [hlook]
        rfl
      · intro hnot
        have hnone : ¬ Leads calls (leadingRun reason.text) pattern :=
          fun h => hnot (hleads.2 h)
        rw [lookupWithPattern_of_not_leads hparse hnone]
        refine ⟨rfl, fun hsame => hnone ?_⟩
        obtain ⟨value', hlook⟩ := (source_ofTiers_eq_prefixHit_iff _ _ _).1
          (congrArg Resolution.source hsame)
        exact (wins_of_parse hparse hlook).leads

end Resolution

end Amends

-- =========================================================== one change

section Tiers

variable {V : Type} {code : Code} {change : RuleChange V}

/-- A change that offers nothing to a code writes to none of its tiers. -/
theorem RuleChange.silent_of_offer? (h : change.offer? code = none) :
    change.override? code = none ∧ change.prefixRule? code = none
      ∧ change.default? code = none ∧ change.fallback? = none := by
  cases change with
  | setDefault c value =>
      have hcode : c ≠ code := by simpa [offer?] using h
      simp [override?, prefixRule?, default?, fallback?, hcode]
  | setOverride c value =>
      have hcode : c ≠ code := by simpa [offer?] using h
      simp [override?, prefixRule?, default?, fallback?, hcode]
  | addPrefix c pattern value =>
      have hcode : c ≠ code := by simpa [offer?] using h
      simp [override?, prefixRule?, default?, fallback?, hcode]
  | setFallback value => cases h

/-- The tiers of a code with a change written to them. -/
theorem RuleChange.amends_ofTiers (override default : Option V)
    (calls : List (String × V)) (fallback : V) (reason : Reason)
    (hread : ∀ rule, change.prefixRule? code = some rule → rule.Accepted) :
    Resolution.Amends (change.offer? code) reason
      (.ofTiers override
        ((PatternTree.empty.insertAll calls).lookupWithPattern reason.text)
        default fallback)
      (.ofTiers ((change.override? code).or override)
        ((PatternTree.empty.insertAll
          (calls ++ ((change.prefixRule? code).map
            PrefixRule.insertion).toList)).lookupWithPattern reason.text)
        ((change.default? code).or default)
        (change.fallback?.getD fallback)) := by
  cases hoffer : change.offer? code with
  | none =>
      obtain ⟨hoverride, hprefix, hdefault, hfallback⟩ :=
        silent_of_offer? hoffer
      rw [hoverride, hprefix, hdefault, hfallback, Option.map_none,
        Option.toList_none, List.append_nil, Option.none_or, Option.none_or]
      exact Resolution.amends_none _ _
  | some offered =>
      -- the change is about the code, and writes to a single tier
      cases change with
      | setDefault c value =>
          simp only [offer?, Option.ite_none_right_eq_some,
            Option.some.injEq] at hoffer
          obtain ⟨rfl, rfl⟩ := hoffer
          simp only [default?, override?, fallback?, prefixRule?, if_true,
            Option.none_or, Option.some_or, Option.map_none,
            Option.toList_none, List.append_nil]
          exact Resolution.amends_default _ _ _ _ _ _
      | setOverride c value =>
          simp only [offer?, Option.ite_none_right_eq_some,
            Option.some.injEq] at hoffer
          obtain ⟨rfl, rfl⟩ := hoffer
          simp only [default?, override?, fallback?, prefixRule?, if_true,
            Option.none_or, Option.some_or, Option.map_none,
            Option.toList_none, List.append_nil]
          exact Resolution.amends_override _ _ _ _ _ _
      | addPrefix c pattern value =>
          simp only [offer?, Option.ite_none_right_eq_some,
            Option.some.injEq] at hoffer
          obtain ⟨rfl, rfl⟩ := hoffer
          obtain ⟨read, hparse⟩ := Pattern.exists_parse_iff.2
            (hread { pattern, value } (by simp [prefixRule?]))
          simp only [default?, override?, fallback?, prefixRule?, if_true,
            Option.none_or, Option.map_some, Option.toList_some]
          exact Resolution.amends_prefixHit _ _ _ _ _ hparse
      | setFallback value =>
          cases hoffer
          simp only [default?, override?, fallback?, prefixRule?,
            Option.none_or, Option.getD_some, Option.map_none,
            Option.toList_none, List.append_nil]
          exact Resolution.amends_fallback _ _ _ _ _ _

end Tiers

section Change

variable {family : Family} (changes : List (RuleChange family.Value))
  (change : RuleChange family.Value) (code : Code)

theorem lastOverride?_append_singleton :
    lastOverride? (changes ++ [change]) code
      = (change.override? code).or (lastOverride? changes code) := by
  unfold lastOverride?
  rw [List.filterMap_append, List.getLast?_append]
  cases hset : change.override? code <;> simp [hset]

theorem defaultIn?_append_singleton :
    defaultIn? (changes ++ [change]) code
      = (change.default? code).or (defaultIn? changes code) := by
  unfold defaultIn? lastDefault?
  rw [List.filterMap_append, List.getLast?_append, Option.or_assoc]
  cases hset : change.default? code <;> simp [hset]

theorem lastFallback?_append_singleton :
    lastFallback? (changes ++ [change])
      = change.fallback?.or (lastFallback? changes) := by
  unfold lastFallback?
  rw [List.filterMap_append, List.getLast?_append]
  cases hset : change.fallback? <;> simp [hset]

theorem patternsFor_append_singleton :
    patternsFor (changes ++ [change]) code
      = patternsFor changes code
        ++ ((change.prefixRule? code).map PrefixRule.insertion).toList := by
  unfold patternsFor addedRules
  rw [List.filterMap_append, List.map_append]
  cases hset : change.prefixRule? code <;> simp [hset]

variable {changes change} {old new : ResolutionTable family.Value}

/-- The answers of a family before and after one more change to it. -/
theorem RuleTable.amends_explain
    (hold : ((afterChanges changes).compile family).run.value = .ok old)
    (hnew : ((afterChanges (changes ++ [change])).compile family).run.value
      = .ok new)
    (reason : Reason) :
    Resolution.Amends (change.offer? code) reason (old.explain code reason)
      (new.explain code reason) := by
  -- what is compiled has no pattern that is not accepted
  have hread : ∀ rule, change.prefixRule? code = some rule →
      rule.Accepted := by
    intro rule hrule
    obtain ⟨haccepted, -⟩ := compile_eq_ok hnew
    apply haccepted code
    rw [prefixRulesFor_afterChanges]
    simp [addedRules, hrule]
  rw [explain_compile hold, explain_compile hnew,
    lastOverride?_append_singleton, defaultIn?_append_singleton,
    lastFallback?_append_singleton, patternsFor_append_singleton,
    Option.getD_or]
  exact RuleChange.amends_ofTiers _ _ _ _ reason hread

end Change

-- ======================================================== one directive

theorem changesIn_append_singleton (family : Family)
    (history : List Directive) (directive : Directive) :
    changesIn family (history ++ [directive])
      = changesIn family history
        ++ (directive.changeIn? family).toList := by
  unfold changesIn
  rw [List.filterMap_append]
  cases hchange : directive.changeIn? family <;> simp [hchange]

namespace Directive

variable {family : Family} {code : Code} {directive : Directive}

/-- To the other family a directive offers nothing. -/
theorem offer?_of_family_ne (h : directive.status.family ≠ family) :
    directive.offer? family code = none := by
  have hchange : directive.changeIn? family = none := by
    cases directive with
    | setDefault _ status | setOverride _ status | addPrefix _ _ status
    | setFallback status =>
        cases status <;> cases family <;> first | rfl | exact absurd rfl h
  unfold offer?
  rw [hchange]
  rfl

/-- To a code that it is not about a directive offers no more than a
fallback. -/
theorem source_of_offer? {offered : Resolution family.Value}
    (h : directive.offer? family code = some offered)
    (hcode : directive.code? ≠ some code) :
    offered.source = .fallback := by
  obtain ⟨change, hchange, hoffer⟩ := Option.bind_eq_some_iff.1 h
  cases directive with
  | setDefault c status | setOverride c status | addPrefix c _ status =>
      obtain ⟨value, -, rfl⟩ := Option.map_eq_some_iff.1 hchange
      have hne : c ≠ code := fun heq => hcode (congrArg some heq)
      simp [RuleChange.offer?, hne] at hoffer
  | setFallback status =>
      obtain ⟨value, -, rfl⟩ := Option.map_eq_some_iff.1 hchange
      cases hoffer
      rfl

end Directive

/-- The second snapshot answers as the first one does with the directive
behind it: the answers of the directive's scope are amended by what it
offers, and those of the other family, and those of other codes that are no
fallbacks, are the same. -/
structure Snapshot.AmendedBy (directive : Directive)
    (old new : Snapshot) : Prop where
  amends : ∀ family code reason,
    Resolution.Amends (directive.offer? family code) reason
      ((old.explanation code reason).answers.get family)
      ((new.explanation code reason).answers.get family)
  other_family : ∀ family code reason, directive.status.family ≠ family →
    (new.explanation code reason).answers.get family
      = (old.explanation code reason).answers.get family
  other_code : ∀ family code reason, directive.code? ≠ some code →
    ((old.explanation code reason).answers.get family).source ≠ .fallback →
    (new.explanation code reason).answers.get family
      = (old.explanation code reason).answers.get family

/-- That other families and codes keep their answers is a consequence. -/
theorem Snapshot.amendedBy_of_amends {directive : Directive}
    {old new : Snapshot}
    (h : ∀ family code reason,
      Resolution.Amends (directive.offer? family code) reason
        ((old.explanation code reason).answers.get family)
        ((new.explanation code reason).answers.get family)) :
    AmendedBy directive old new := by
  refine ⟨h, fun family code reason hfamily => ?_,
    fun family code reason hcode hsource => ?_⟩
  · apply (h family code reason).kept
    intro offered hoffered
    rw [Directive.offer?_of_family_ne hfamily] at hoffered
    cases hoffered
  · apply (h family code reason).kept
    intro offered hoffered hdisplaces
    rw [Directive.source_of_offer? hoffered hcode] at hdisplaces
    apply hsource
    generalize ((old.explanation code reason).answers.get family).source
      = source at hdisplaces
    cases hdisplaces
    rfl

namespace Ruleset

variable {calls : List Call} {directive : Directive}

theorem get_apply_afterCalls (family : Family) :
    ((afterCalls calls).apply directive).get family
      = RuleTable.afterChanges (changesIn family (history calls)
          ++ (directive.changeIn? family).toList) := by
  rw [afterCalls_eq_applyAll, ← changesIn_append_singleton,
    ← get_applyAll_initial]
  unfold applyAll
  rw [List.foldl_append]
  rfl

/-- What is compiled with one more directive is compiled without it. -/
theorem exists_build_of_apply {new : Snapshot}
    (h : ((afterCalls calls).apply directive).build.value = .ok new) :
    ∃ old, (afterCalls calls).build.value = .ok old := by
  rw [exists_build_eq_ok_iff]
  intro family code
  have hnone := faultAt?_of_build h family code
  unfold faultAt? at hnone ⊢
  rw [firstFault?_eq_none_iff] at hnone ⊢
  intro rule hmem
  apply hnone
  rw [get_afterCalls, RuleTable.prefixRulesFor_afterChanges] at hmem
  rw [get_apply_afterCalls, RuleTable.prefixRulesFor_afterChanges]
  unfold addedRules at hmem ⊢
  rw [List.filterMap_append]
  exact List.mem_append_left _ hmem

/-- If rules are built with one more directive, they are built without it,
and the directive changes the answers of its own scope alone. -/
theorem explanation_apply {new : Snapshot}
    (h : ((afterCalls calls).apply directive).build.value = .ok new) :
    ∃ old, (afterCalls calls).build.value = .ok old
      ∧ Snapshot.AmendedBy directive old new := by
  obtain ⟨old, hold⟩ := exists_build_of_apply h
  refine ⟨old, hold, ?_⟩
  apply Snapshot.amendedBy_of_amends
  intro family code reason
  rw [Snapshot.get_answers_explanation, Snapshot.get_answers_explanation]
  have hbefore := build_eq_ok hold family
  have hafter := build_eq_ok h family
  rw [get_afterCalls] at hbefore
  rw [get_apply_afterCalls] at hafter
  cases hchange : directive.changeIn? family with
  | none =>
      rw [hchange, Option.toList_none, List.append_nil, hbefore] at hafter
      rw [Except.ok.inj hafter]
      have hoffer : directive.offer? family code = none := by
        unfold Directive.offer?
        rw [hchange]
        rfl
      rw [hoffer]
      exact Resolution.amends_none _ _
  | some change =>
      rw [hchange, Option.toList_some] at hafter
      have hoffer : directive.offer? family code = change.offer? code := by
        unfold Directive.offer?
        rw [hchange]
        rfl
      rw [hoffer]
      exact RuleTable.amends_explain code hbefore hafter reason

/-- A pattern that ends in the wildcard. -/
def anyStorage : List Call := [.addPrefix .http .timeout "storage.*" 503]

/-- A pattern of the same depth that has a segment there. -/
def pgStorage : Directive := .addPrefix .timeout "Storage/Pg" (.http 504)

theorem explanation_apply_pgStorage :
    ∃ old new : Snapshot, (afterCalls anyStorage).build.value = .ok old
      ∧ ((afterCalls anyStorage).apply pgStorage).build.value = .ok new
      ∧ Snapshot.AmendedBy pgStorage old new
      ∧ (new.explanation .timeout ⟨"storage.pg.read"⟩).answers.http
          = { value := 504, source := .prefixHit "storage.pg" } := by
  have hanswer : ((afterCalls anyStorage).apply pgStorage).build.value.map
      (fun new =>
        (new.explanation .timeout ⟨"storage.pg.read"⟩).answers.http)
      = .ok { value := 504, source := .prefixHit "storage.pg" } := by
    decide +kernel
  cases hbuild : ((afterCalls anyStorage).apply pgStorage).build.value with
  | error e =>
      rw [hbuild] at hanswer
      cases hanswer
  | ok new =>
      rw [hbuild] at hanswer
      obtain ⟨old, hold, hamended⟩ := explanation_apply hbuild
      exact ⟨old, new, hold, rfl, hamended, Except.ok.inj hanswer⟩

end Ruleset

end FaultStatus
