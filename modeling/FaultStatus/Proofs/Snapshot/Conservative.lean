/-
Snapshots of configurations beside the built-in one. A code answers by the
slots that belong to it and by the fallback of the family, so that histories
with the same last writes to these slots answer it alike unless both have
nothing but a fallback to give (`Ruleset.get_answers_congr`). The built-in
snapshot answers as the one that is built from the initial rules
(`answersAs_builtIn`), that is, after an empty history. A configuration that
does not name a code has written to its slots what an empty history has, and
a fallback belongs to no code's slots at all: both cases are that one lemma.
-/
import FaultStatus.Proofs.Ruleset.Contents
import FaultStatus.Proofs.Snapshot.Scope

namespace FaultStatus

-- ========================================================= unnamed codes

/-- The directive says something about this very code in the family. -/
def Directive.Names (family : Family) (code : Code) (directive : Directive) :
    Prop :=
  directive.status.family = family ∧ directive.code? = some code

instance (family : Family) (code : Code) (directive : Directive) :
    Decidable (directive.Names family code) := by
  unfold Directive.Names
  infer_instance

section SameWrites

variable {family : Family} {code : Code}

theorem sameWrites_nil_of_unnamed {directives : List Directive}
    (h : ∀ d ∈ directives, ¬ d.Names family code) :
    SameWrites family code directives [] := by
  intro slot hfamily hcode
  by_contra hwritten
  obtain ⟨d, hmem, rfl⟩ := lastWrite?_ne_none_iff.1 hwritten
  apply h d hmem
  rw [Directive.family_slot] at hfamily
  rw [Directive.code?_slot] at hcode
  exact ⟨hfamily, hcode⟩

/-- A fallback is written to no code's slots. -/
theorem sameWrites_setFallback (before after : List Directive)
    (status : StatusValue) :
    SameWrites family code (before ++ .setFallback status :: after)
      (before ++ after) := by
  intro slot _ hcode
  have hslot : (Directive.setFallback status).slot ≠ slot := by
    rintro rfl
    cases hcode
  rw [List.append_cons, lastWrite?_append, lastWrite?_append_singleton,
    if_neg hslot, ← lastWrite?_append]

end SameWrites

-- ===================================================== answers to one code

/-- Tiers with a default do not look at the fallback. -/
theorem Resolution.ofTiers_of_default {V : Type} {override : Option V}
    {found : Option (V × String)} {value fallback fallback' : V} :
    ofTiers override found (some value) fallback
      = ofTiers override found (some value) fallback' := by
  cases override with
  | some _ => rfl
  | none => cases found <;> rfl

namespace Ruleset

variable {xs ys : List Directive} {s s' : Snapshot} {family : Family}
  {code : Code}

/-- Where the last writes to a code's slots are the same, so are the answers,
if the code has a default or the fallback is the same as well. -/
theorem get_answers_congr (hxs : (initial.applyAll xs).build.value = .ok s)
    (hys : (initial.applyAll ys).build.value = .ok s')
    (hsame : SameWrites family code xs ys)
    (h : code ∈ (Defaults.table family).map Prod.fst
      ∨ lastFallback? (changesIn family xs)
        = lastFallback? (changesIn family ys))
    (reason : Reason) :
    (s.explanation code reason).answers.get family
      = (s'.explanation code reason).answers.get family := by
  rw [Snapshot.get_answers_explanation, Snapshot.get_answers_explanation,
    explain_of_sameWrites hxs hsame,
    explain_of_sameWrites hys fun _ _ _ => rfl]
  rcases h with hbuiltin | hfallback
  · obtain ⟨value, hvalue⟩ : ∃ value,
        defaultIn? (changesIn family ys) code = some value := by
      rw [← Option.ne_none_iff_exists', defaultIn?, ne_eq,
        Option.or_eq_none_iff, ← getElem?_defaults_initial]
      exact fun hnone =>
        defaultFor?_initial_ne_none_iff.2 hbuiltin hnone.2
    rw [hvalue]
    exact Resolution.ofTiers_of_default
  · rw [hfallback]

/-- A code without a built-in default that nothing is said about is answered
by the fallback. -/
theorem get_answers_of_unnamed
    (hxs : (initial.applyAll xs).build.value = .ok s)
    (hsame : SameWrites family code xs [])
    (htable : code ∉ (Defaults.table family).map Prod.fst)
    {value : family.Value}
    (hset : lastFallback? (changesIn family xs) = some value)
    (reason : Reason) :
    (s.explanation code reason).answers.get family
      = { value, source := .fallback } := by
  have hlookup : (Defaults.table family).lookup code = none := by
    rw [← getElem?_defaults_initial]
    exact not_not.1 fun hsome =>
      htable (defaultFor?_initial_ne_none_iff.1 hsome)
  rw [Snapshot.get_answers_explanation,
    explain_of_sameWrites hxs hsame, defaultIn?, hlookup, hset]
  have hlook : (PatternTree.empty.insertAll (patternsFor
        (changesIn family []) code)).lookupWithPattern reason.text = none :=
    PatternTree.lookupWithPattern_nil
  rw [hlook]
  rfl

theorem exists_build_setFallback (before after : List Directive)
    (status : StatusValue) :
    (∃ s, (initial.applyAll (before ++ .setFallback status :: after)).build.value
        = .ok s)
      ↔ ∃ s, (initial.applyAll (before ++ after)).build.value = .ok s := by
  have hfault : ∀ family code,
      (initial.applyAll (before ++ .setFallback status :: after)).faultAt?
          family code
        = (initial.applyAll (before ++ after)).faultAt? family code := by
    intro family code
    have hnone : addedRules (changesIn family [.setFallback status]) code
        = [] := by
      cases status <;> cases family <;> rfl
    rw [faultAt?_applyAll, faultAt?_applyAll, List.append_cons,
      addedRules_append, addedRules_append, addedRules_append, hnone,
      List.append_nil]
  rw [exists_build_eq_ok_iff, exists_build_eq_ok_iff]
  simp only [hfault]

end Ruleset

-- =================================================== the built-in snapshot

namespace Snapshot

/-- Whatever is asked, both snapshots answer alike. -/
structure AnswersAs (snapshot other : Snapshot) : Prop where
  explanation : ∀ code reason,
    snapshot.explanation code reason = other.explanation code reason
  tells : ∀ code reason,
    StatusSource.Tells (fun _ => snapshot) (other.explanation code reason)
  fallback : ∀ family,
    (snapshot.get family).fallback = (other.get family).fallback

/-- Nothing was added to the initial rules, and so they answer as the
built-in snapshot does. -/
theorem answersAs_builtIn {snapshot : Snapshot}
    (h : Ruleset.initial.build.value = .ok snapshot) :
    snapshot.AnswersAs builtIn := by
  have hget : ∀ family code reason,
      (snapshot.get family).explain code reason
        = (builtIn.get family).explain code reason := by
    intro family code reason
    obtain ⟨-, hoverrides, hdefaults, hfallback, htrees⟩ :=
      RuleTable.compile_eq_ok (Ruleset.build_eq_ok h family)
    unfold ResolutionTable.explain
    rw [hoverrides, hdefaults, hfallback, htrees]
    cases family <;> rfl
  have hexplanation : ∀ code reason,
      snapshot.explanation code reason = builtIn.explanation code reason :=
    fun code reason =>
      explanation_eq_of_explain_eq fun family => hget family code reason
  refine ⟨hexplanation, fun code reason => ?_, fun family => ?_⟩
  · rw [← hexplanation]
    exact ⟨snapshot.httpStatus_eq code reason,
      snapshot.grpcStatus_eq code reason, snapshot.status_eq code reason,
      rfl⟩
  · obtain ⟨-, -, -, hfallback, -⟩ :=
      RuleTable.compile_eq_ok (Ruleset.build_eq_ok h family)
    rw [hfallback]
    cases family <;> rfl

theorem exists_build_initial :
    ∃ snapshot, Ruleset.initial.build.value = .ok snapshot := by
  apply Ruleset.exists_build_eq_ok_iff.2
  intro family code
  exact Ruleset.faultAt?_applyAll [] family code

/-- For a code that no directive names in the family, the snapshot answers as
the built-in one does; only where that has nothing but its fallback to give,
a fallback of the directives takes its place. -/
structure Extends (directives : List Directive) (snapshot : Snapshot) :
    Prop where
  kept : ∀ family code reason,
    (∀ d ∈ directives, ¬ d.Names family code) →
    (code ∈ (Defaults.table family).map Prod.fst
      ∨ lastFallback? (changesIn family directives) = none) →
    (snapshot.explanation code reason).answers.get family
      = (builtIn.explanation code reason).answers.get family
  fallback : ∀ family code reason value,
    (∀ d ∈ directives, ¬ d.Names family code) →
    code ∉ (Defaults.table family).map Prod.fst →
    lastFallback? (changesIn family directives) = some value →
    (snapshot.explanation code reason).answers.get family
      = { value, source := .fallback }

theorem extends_of_build {directives : List Directive}
    {snapshot : Snapshot}
    (h : (Ruleset.initial.applyAll directives).build.value = .ok snapshot) :
    snapshot.Extends directives := by
  constructor
  · intro family code reason hunnamed hkept
    obtain ⟨first, hfirst⟩ := exists_build_initial
    have hempty : (Ruleset.initial.applyAll []).build.value = .ok first := hfirst
    rw [← (answersAs_builtIn hfirst).explanation]
    exact Ruleset.get_answers_congr h hempty
      (sameWrites_nil_of_unnamed hunnamed) hkept reason
  · intro family code reason value hunnamed htable hset
    exact Ruleset.get_answers_of_unnamed h
      (sameWrites_nil_of_unnamed hunnamed) htable hset reason

/-- Configurations extend the built-in snapshot: what they do not name is
answered as before. The built-in snapshot, the initial rules and the empty
configuration answer alike; and to set a fallback, whatever calls there are
before and after, keeps rules buildable or not and every answer to a code
that has a built-in default. -/
theorem ofDirectives_extends :
    (∀ directives snapshot,
        (ofDirectives directives).value = .ok snapshot →
          snapshot.Extends directives)
      ∧ (∃ snapshot, Ruleset.initial.build.value = .ok snapshot
          ∧ (ofDirectives []).value = .ok snapshot
          ∧ snapshot.AnswersAs builtIn)
      ∧ ∀ calls calls' before after status,
          Ruleset.history calls = before ++ .setFallback status :: after →
          Ruleset.history calls' = before ++ after →
          ((∃ s, (Ruleset.afterCalls calls).build.value = .ok s)
              ↔ ∃ s, (Ruleset.afterCalls calls').build.value = .ok s)
            ∧ ∀ s s', (Ruleset.afterCalls calls).build.value = .ok s →
                (Ruleset.afterCalls calls').build.value = .ok s' →
                ∀ family code reason,
                  code ∈ (Defaults.table family).map Prod.fst →
                  (s.explanation code reason).answers.get family
                    = (s'.explanation code reason).answers.get family := by
  refine ⟨fun directives snapshot h => ?_, ?_, ?_⟩
  · exact extends_of_build h
  · obtain ⟨snapshot, h⟩ := exists_build_initial
    exact ⟨snapshot, h, h, answersAs_builtIn h⟩
  · intro calls calls' before after status hcalls hcalls'
    rw [Ruleset.afterCalls_eq_applyAll, Ruleset.afterCalls_eq_applyAll,
      hcalls, hcalls']
    refine ⟨Ruleset.exists_build_setFallback before after status, ?_⟩
    intro s s' hs hs' family code reason htable
    exact Ruleset.get_answers_congr hs hs'
      (sameWrites_setFallback before after status) (Or.inl htable) reason

/-- An override, and a fallback that is thought over. -/
def teapotRules : List Directive :=
  [.setOverride .timeout (.http 408), .setFallback (.http 418),
    .setFallback (.http 421)]

/-- The same without the first thought. -/
def plainTeapotRules : List Directive :=
  [.setOverride .timeout (.http 408), .setFallback (.http 421)]

theorem explanation_teapotRules :
    ∃ s s' : Snapshot, (ofDirectives teapotRules).value = .ok s
      ∧ (ofDirectives plainTeapotRules).value = .ok s'
      ∧ (s.explanation ⟨"teapot"⟩ .empty).answers.http
          = { value := 421, source := .fallback }
      ∧ (s.explanation .timeout .empty).answers.grpc
          = (builtIn.explanation .timeout .empty).answers.grpc
      ∧ (s.explanation .timeout .empty).answers.http
          = (s'.explanation .timeout .empty).answers.http
      ∧ s.httpStatus .timeout .empty = 408 := by
  obtain ⟨hextends, -, hfallback⟩ := ofDirectives_extends
  obtain ⟨hbuilt, hsame⟩ := hfallback [.applyAll teapotRules]
    [.applyAll plainTeapotRules] [.setOverride .timeout (.http 408)]
    [.setFallback (.http 421)] (.http 418) rfl rfl
  obtain ⟨s, hs, hhttp⟩ : ∃ s, (ofDirectives teapotRules).value = .ok s
      ∧ s.httpStatus .timeout .empty = 408 :=
    FirstError.exists_of_map_eq_ok (by decide +kernel)
  obtain ⟨s', hs'⟩ := hbuilt.1 ⟨s, hs⟩
  have hteapot := (hextends teapotRules s hs).fallback .http ⟨"teapot"⟩
    .empty 421 (by decide) (by decide) rfl
  have htimeout := (hextends teapotRules s hs).kept .grpc .timeout .empty
    (by decide) (Or.inr rfl)
  exact ⟨s, s', hs, hs', hteapot, htimeout,
    hsame s s' hs hs' .http .timeout .empty (by decide), hhttp⟩

end Snapshot

end FaultStatus
