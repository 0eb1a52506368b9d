/-
What an answer owes to the history of the rules. In each family the changes
of a history, the built-in table and the built-in fallback settle the answer
to every code and reason: the last override of the code; else the last value
of the pattern that wins, among those added for the code, against the leading
segments of the reason; else the last default of the code or the built-in
one; else the last fallback or the built-in one (`Owed`). The answers of
rules that were built are those that are owed (`explanation_eq_iff_owed`).

A compiled table is looked at through four views, one for each tier, and each
view is given by the changes alone (`overrides_compile` and its siblings). An
answer is the first that these tiers have (`RuleTable.explain_compile`), and
nothing else of the table is needed to see that it is what is owed.
-/
import FaultStatus.Proofs.Compile.Tables
import FaultStatus.Proofs.PatternTree.Lookup
import FaultStatus.Proofs.Ruleset.History

namespace FaultStatus

-- ==================================================== the built-in rules

namespace Defaults

/-- The built-in defaults of a family. -/
def table : (family : Family) → List (Code × family.Value)
  | .http => http
  | .grpc => grpc

/-- The built-in fallback of a family. -/
def fallback : (family : Family) → family.Value
  | .http => httpFallback
  | .grpc => grpcFallback

/-- No code stands twice in a table. -/
theorem table_distinct (family : Family) :
    (table family).Pairwise fun a b => ¬ compare a.1 b.1 = .eq := by
  cases family with
  | http =>
    show http.Pairwise _
    decide +kernel
  | grpc =>
    show grpc.Pairwise _
    decide +kernel

end Defaults

/-- The built-in rules hold the entries of the table. -/
theorem getElem?_defaults_initial (family : Family) (code : Code) :
    (Ruleset.initial.get family).defaults[code]?
      = (Defaults.table family).lookup code := by
  have htable : (Ruleset.initial.get family).defaults
      = .ofList (Defaults.table family) := by
    cases family with
    | http => rfl
    | grpc => rfl
  have hget := RuleTable.getElem?_ofList_eq_some_iff
    (Defaults.table_distinct family) code
  rw [htable]
  cases hlookup : (Defaults.table family).lookup code with
  | none =>
    apply Option.eq_none_iff_forall_ne_some.2
    intro value hsome
    have hne := List.lookup_eq_none_iff.1 hlookup _ ((hget value).1 hsome)
    simp at hne
  | some value =>
    obtain ⟨before, after, hsplit, -⟩ := List.lookup_eq_some_iff.1 hlookup
    apply (hget value).2
    rw [hsplit]
    exact List.mem_append_right _ List.mem_cons_self

-- ========================================================== what is owed

section Owed

variable {family : Family} (changes : List (RuleChange family.Value))
  (code : Code)

/-- The patterns that were added for the code, in canonical spelling and
each with its value. -/
def patternsFor : List (String × family.Value) :=
  (addedRules changes code).map PrefixRule.insertion

/-- The default of the code: the last that was set, or the built-in one. -/
def defaultIn? : Option family.Value :=
  (lastDefault? changes code).or ((Defaults.table family).lookup code)

/-- The answer that changes to the built-in rules of a family owe to a code
and a reason. -/
inductive Owed (reason : Reason) : Resolution family.Value → Prop where
  /-- An override was set for the code. -/
  | override {value : family.Value}
      (set : lastOverride? changes code = some value) :
      Owed reason { value, source := .override }
  /-- There is no override, but a pattern that wins against the reason. -/
  | prefixHit {pattern : Pattern} {value : family.Value}
      (no_override : lastOverride? changes code = none)
      (wins : PatternTree.Wins (patternsFor changes code)
        (leadingRun reason.text) pattern)
      (last : PatternTree.lastFor? (patternsFor changes code) pattern.text
        = some value) :
      Owed reason { value, source := .prefixHit pattern.text }
  /-- No pattern fits the reason either, but the code has a default. -/
  | default {value : family.Value}
      (no_override : lastOverride? changes code = none)
      (no_pattern : ∀ pattern, ¬ PatternTree.Competes
        (patternsFor changes code) (leadingRun reason.text) pattern)
      (set : defaultIn? changes code = some value) :
      Owed reason { value, source := .default }
  /-- The code has no default either. -/
  | fallback
      (no_override : lastOverride? changes code = none)
      (no_pattern : ∀ pattern, ¬ PatternTree.Competes
        (patternsFor changes code) (leadingRun reason.text) pattern)
      (no_default : defaultIn? changes code = none) :
      Owed reason
        { value := (lastFallback? changes).getD (Defaults.fallback family)
          source := .fallback }

end Owed

-- ================================================== the views of a table

namespace RuleTable

variable {family : Family} {changes : List (RuleChange family.Value)}
  {table : ResolutionTable family.Value}
  (h : ((afterChanges changes).compile family).run.value = .ok table)

include h

theorem overrides_compile (code : Code) :
    table.overrides[code]? = lastOverride? changes code := by
  obtain ⟨-, hoverrides, -, -, -⟩ := compile_eq_ok h
  have hempty : (Ruleset.initial.get family).overrides[code]? = none := by
    cases family with
    | http => rfl
    | grpc => rfl
  rw [hoverrides, afterChanges, overrides_foldl_change, hempty,
    Option.or_none]

theorem defaults_compile (code : Code) :
    table.defaults[code]? = defaultIn? changes code := by
  obtain ⟨-, -, hdefaults, -, -⟩ := compile_eq_ok h
  rw [hdefaults, afterChanges, defaults_foldl_change,
    getElem?_defaults_initial]
  rfl

theorem fallback_compile :
    table.fallback
      = (lastFallback? changes).getD (Defaults.fallback family) := by
  obtain ⟨-, -, -, hfallback, -⟩ := compile_eq_ok h
  rw [hfallback, afterChanges, fallback_foldl_change]
  cases family with
  | http => rfl
  | grpc => rfl

theorem trees_compile (code : Code) (path : String) :
    table.trees[code]?.bind (·.lookupWithPattern path)
      = (PatternTree.empty.insertAll
          (patternsFor changes code)).lookupWithPattern path := by
  obtain ⟨-, -, -, -, htrees⟩ := compile_eq_ok h
  rw [htrees, patternsFor, ← prefixRulesFor_afterChanges, prefixRulesFor,
    Std.TreeMap.getD_eq_getD_getElem?]
  cases (afterChanges changes).prefixRules[code]? with
  | some list => rfl
  | none =>
    -- a code without patterns has no tree, and an empty one finds nothing
    exact PatternTree.lookupWithPattern_nil.symm

end RuleTable

-- ============================================================== the tiers

/-- The first answer that the tiers have: an override, what the patterns
give, a default, the fallback. -/
def Resolution.ofTiers {V : Type} (override : Option V)
    (found : Option (V × String)) (default : Option V) (fallback : V) :
    Resolution V :=
  match override with
  | some value => { value, source := .override }
  | none =>
    match found with
    | some (value, pattern) => { value, source := .prefixHit pattern }
    | none =>
      match default with
      | some value => { value, source := .default }
      | none => { value := fallback, source := .fallback }

theorem ResolutionTable.explain_eq_ofTiers {V : Type}
    (table : ResolutionTable V) (code : Code) (reason : Reason) :
    table.explain code reason
      = .ofTiers table.overrides[code]?
          (table.trees[code]?.bind (·.lookupWithPattern reason.text))
          table.defaults[code]? table.fallback := rfl

/-- The tiers of compiled rules. -/
theorem RuleTable.explain_compile {family : Family}
    {changes : List (RuleChange family.Value)}
    {table : ResolutionTable family.Value}
    (h : ((afterChanges changes).compile family).run.value = .ok table)
    (code : Code) (reason : Reason) :
    table.explain code reason
      = .ofTiers (lastOverride? changes code)
          ((PatternTree.empty.insertAll
            (patternsFor changes code)).lookupWithPattern reason.text)
          (defaultIn? changes code)
          ((lastFallback? changes).getD (Defaults.fallback family)) := by
  rw [ResolutionTable.explain_eq_ofTiers, overrides_compile h,
    trees_compile h, defaults_compile h, fallback_compile h]

-- =========================================================== the answers

namespace ResolutionTable

variable {family : Family} {changes : List (RuleChange family.Value)}
  {table : ResolutionTable family.Value}

/-- A compiled table answers what is owed. -/
theorem owed_explain
    (h : ((RuleTable.afterChanges changes).compile family).run.value
      = .ok table)
    (code : Code) (reason : Reason) :
    Owed changes code reason (table.explain code reason) := by
  rw [RuleTable.explain_compile h]
  unfold Resolution.ofTiers
  cases hoverride : lastOverride? changes code with
  | some value => exact .override hoverride
  | none =>
    dsimp only
    cases hlook : (PatternTree.empty.insertAll
        (patternsFor changes code)).lookupWithPattern reason.text with
    | some found =>
      obtain ⟨value, text⟩ := found
      obtain ⟨pattern, hwins, htext, hlast⟩ :=
        PatternTree.wins_of_lookupWithPattern hlook
      subst htext
      exact .prefixHit hoverride hwins hlast
    | none =>
      have hnone := PatternTree.lookupWithPattern_eq_none_iff.1 hlook
      dsimp only
      cases hdefault : defaultIn? changes code with
      | some value => exact .default hoverride hnone hdefault
      | none => exact .fallback hoverride hnone hdefault

/-- What is owed is answered. -/
theorem explain_of_owed
    (h : ((RuleTable.afterChanges changes).compile family).run.value
      = .ok table)
    {code : Code} {reason : Reason} {resolution : Resolution family.Value}
    (howed : Owed changes code reason resolution) :
    table.explain code reason = resolution := by
  rw [RuleTable.explain_compile h]
  unfold Resolution.ofTiers
  cases howed with
  | override set => rw [set]
  | prefixHit no_override wins last =>
    have hlook := PatternTree.lookupWithPattern_eq_some_iff.2
      ⟨_, wins, rfl, last⟩
    rw [no_override, hlook]
  | default no_override no_pattern set =>
    have hlook := PatternTree.lookupWithPattern_eq_none_iff.2 no_pattern
    rw [no_override, hlook, set]
  | fallback no_override no_pattern no_default =>
    have hlook := PatternTree.lookupWithPattern_eq_none_iff.2 no_pattern
    rw [no_override, hlook, no_default]

theorem explain_eq_iff_owed
    (h : ((RuleTable.afterChanges changes).compile family).run.value
      = .ok table)
    {code : Code} {reason : Reason} {resolution : Resolution family.Value} :
    table.explain code reason = resolution
      ↔ Owed changes code reason resolution := by
  refine ⟨fun heq => ?_, explain_of_owed h⟩
  rw [← heq]
  exact owed_explain h code reason

end ResolutionTable

/-- Snapshots whose tables explain alike give the same explanations. -/
theorem Snapshot.explanation_eq_of_explain_eq {s s' : Snapshot} {code : Code}
    {reason : Reason}
    (h : ∀ family, (s.get family).explain code reason
      = (s'.get family).explain code reason) :
    s.explanation code reason = s'.explanation code reason := by
  have hhttp : s.http.explain code reason = s'.http.explain code reason :=
    h .http
  have hgrpc : s.grpc.explain code reason = s'.grpc.explain code reason :=
    h .grpc
  unfold explanation
  rw [hhttp, hgrpc]

namespace Ruleset

/-- After any calls, if the rules can be built, the explanation of a code
and a reason gives in each family the answer that is owed and no other. -/
theorem explanation_eq_iff_owed {calls : List Call} {snapshot : Snapshot}
    (h : (afterCalls calls).build.value = .ok snapshot) (family : Family)
    (code : Code) (reason : Reason) (resolution : Resolution family.Value) :
    (snapshot.explanation code reason).answers.get family = resolution
      ↔ Owed (changesIn family (history calls)) code reason resolution := by
  have hanswer : (snapshot.explanation code reason).answers.get family
      = (snapshot.get family).explain code reason := by
    cases family with
    | http => rfl
    | grpc => rfl
  have hcompile := build_eq_ok h family
  rw [get_afterCalls] at hcompile
  rw [hanswer]
  exact ResolutionTable.explain_eq_iff_owed hcompile

/-- Calls that spell one pattern in two ways, beside a wider pattern. -/
def respellingCalls : List Call :=
  [.addPrefix .http .timeout "storage.pg" 503,
    .applyAll [.addPrefix .timeout "storage/*" (.http 502),
      .setOverride .timeout (.grpc .aborted)],
    .addPrefix .http .timeout " Storage/PG " 599]

/-- The last value of the narrow pattern is owed, and the override in the
other family. -/
theorem explanation_after_respelling :
    ∃ snapshot, (afterCalls respellingCalls).build.value = .ok snapshot
      ∧ Owed (changesIn .http (history respellingCalls)) .timeout
          ⟨"storage.pg.connect"⟩
          { value := 599, source := .prefixHit "storage.pg" }
      ∧ Owed (changesIn .grpc (history respellingCalls)) .timeout
          ⟨"storage.pg.connect"⟩
          { value := .aborted, source := .override } := by
  have hhttp : (afterCalls respellingCalls).build.value.map (fun snapshot =>
        (snapshot.explanation .timeout ⟨"storage.pg.connect"⟩).answers.http)
      = .ok { value := 599, source := .prefixHit "storage.pg" } := by
    decide +kernel
  have hgrpc : (afterCalls respellingCalls).build.value.map (fun snapshot =>
        (snapshot.explanation .timeout ⟨"storage.pg.connect"⟩).answers.grpc)
      = .ok { value := .aborted, source := .override } := by
    decide +kernel
  cases hbuild : (afterCalls respellingCalls).build.value with
  | error e =>
    rw [hbuild] at hhttp
    cases hhttp
  | ok snapshot =>
    rw [hbuild] at hhttp hgrpc
    exact ⟨snapshot, rfl,
      (explanation_eq_iff_owed hbuild .http _ _ _).1 (Except.ok.inj hhttp),
      (explanation_eq_iff_owed hbuild .grpc _ _ _).1 (Except.ok.inj hgrpc)⟩

end Ruleset

end FaultStatus
