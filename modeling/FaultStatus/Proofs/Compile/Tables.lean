/-
What compiling the rules of a family comes to. A rule is accepted if its
pattern, in canonical spelling, stands for one (`PrefixRule.Accepted`); that
alone decides, and no rule before it has a say. A code's rules are compiled
if all are accepted, and then its tree is what a row of insertions leaves
(`ofRules_eq_ok`); else the first one that is not accepted ends the
compilation (`ofRules_eq_error`).

A family's table holds what its rules hold, part for part, with a tree in
the place of each code's patterns (`RuleTable.compile_eq_ok`). The trees are
compiled in ascending order of their codes, so that a family fails at the
first code at which any rule is not accepted (`RuleTable.compile_eq_error`).
Both families are compiled one after the other (`Ruleset.build_eq_ok`,
`Ruleset.build_eq_error`). What the log is told on the way has no say in any
of this: the loops come to what the values of their steps come to.
-/
import FaultStatus.Compile
import FaultStatus.Proofs.PatternTree.Insert
import Std.Data.TreeMap.Lemmas

namespace FaultStatus

variable {V : Type}

-- =================================================== the rules of a code

/-- The pattern of the rule, in canonical spelling, is one. -/
def PrefixRule.Accepted (rule : PrefixRule V) : Prop :=
  Pattern.Acceptable (Reason.normalize rule.pattern)

/-- The insertion that a rule comes to. -/
def PrefixRule.insertion (rule : PrefixRule V) : String × V :=
  (Reason.normalize rule.pattern, rule.value)

namespace PatternTree

variable {family : Family} {code : Code}

theorem addRule_eq_ok {tree tree' : PatternTree V} {rule : PrefixRule V}
    (h : (addRule family code tree rule).run.value = .ok tree') :
    rule.Accepted ∧ tree' = tree.attempt rule.insertion := by
  unfold addRule at h
  cases hparse : Pattern.parse (Reason.normalize rule.pattern) with
  | error cause =>
    rw [insert_of_parse_error hparse] at h
    cases h
  | ok pattern =>
    refine ⟨Pattern.exists_parse_iff.1 ⟨pattern, hparse⟩, ?_⟩
    unfold attempt PrefixRule.insertion
    rw [insert_of_parse_ok hparse] at h ⊢
    cases h
    rfl

theorem addRule_eq_error {tree : PatternTree V} {rule : PrefixRule V}
    {e : BuildError}
    (h : (addRule family code tree rule).run.value = .error e) :
    Pattern.parse (Reason.normalize rule.pattern) = .error e.cause
      ∧ e.family = family ∧ e.code = code ∧ e.pattern = rule.pattern := by
  unfold addRule at h
  cases hparse : Pattern.parse (Reason.normalize rule.pattern) with
  | error cause =>
    rw [insert_of_parse_error hparse] at h
    cases h
    exact ⟨rfl, rfl, rfl, rfl⟩
  | ok pattern =>
    rw [insert_of_parse_ok hparse] at h
    cases h

theorem foldlM_addRule_eq_ok {tree tree' : PatternTree V}
    {rules : List (PrefixRule V)}
    (h : rules.foldlM
        (fun tree rule => (addRule family code tree rule).run.value) tree
      = .ok tree') :
    (∀ rule ∈ rules, rule.Accepted)
      ∧ tree' = tree.insertAll (rules.map PrefixRule.insertion) := by
  induction rules generalizing tree with
  | nil =>
    cases h
    exact ⟨fun rule hmem => absurd hmem List.not_mem_nil, rfl⟩
  | cons rule rules ih =>
    rw [List.foldlM_cons] at h
    cases hfirst : (addRule family code tree rule).run.value with
    | error e =>
      rw [hfirst] at h
      cases h
    | ok next =>
      rw [hfirst] at h
      obtain ⟨haccepted, hnext⟩ := addRule_eq_ok hfirst
      obtain ⟨hrest, htree⟩ := ih h
      refine ⟨fun r hmem => ?_, ?_⟩
      · rcases List.mem_cons.1 hmem with heq | hmem
        · rwa [heq]
        · exact hrest r hmem
      · rw [htree, hnext, List.map_cons, insertAll_cons]

/-- If a code's rules are compiled, all of them are accepted, and the tree
is that of their insertions. -/
theorem ofRules_eq_ok {tree : PatternTree V} {rules : List (PrefixRule V)}
    (h : (ofRules family code rules).run.value = .ok tree) :
    (∀ rule ∈ rules, rule.Accepted)
      ∧ tree = empty.insertAll (rules.map PrefixRule.insertion) := by
  rw [ofRules, Logged.value_run_foldlM] at h
  exact foldlM_addRule_eq_ok h

/-- If a code's rules are not compiled, the error is that of the first rule
that is not accepted. -/
theorem ofRules_eq_error {rules : List (PrefixRule V)} {e : BuildError}
    (h : (ofRules family code rules).run.value = .error e) :
    ∃ before rule after, rules = before ++ rule :: after
      ∧ (∀ r ∈ before, r.Accepted)
      ∧ Pattern.parse (Reason.normalize rule.pattern) = .error e.cause
      ∧ e.family = family ∧ e.code = code ∧ e.pattern = rule.pattern := by
  rw [ofRules, Logged.value_run_foldlM] at h
  obtain ⟨before, rule, after, tree, hsplit, hbefore, hrule⟩ :=
    FirstError.foldlM_eq_error_iff.1 h
  exact ⟨before, rule, after, hsplit, (foldlM_addRule_eq_ok hbefore).1,
    addRule_eq_error hrule⟩

end PatternTree

-- ================================================= the codes of a family

namespace RuleTable

variable {family : Family} {rules : RuleTable V}

/-- A code's patterns in the table of the rules. -/
theorem mem_toList_of_mem_prefixRulesFor {code : Code}
    {rule : PrefixRule V} (h : rule ∈ rules.prefixRulesFor code) :
    (code, rules.prefixRulesFor code) ∈ rules.prefixRules.toList := by
  rw [Std.TreeMap.mem_toList_iff_getElem?_eq_some]
  unfold prefixRulesFor at h ⊢
  rw [Std.TreeMap.getD_eq_getD_getElem?] at h ⊢
  cases hget : rules.prefixRules[code]? with
  | none =>
    rw [hget] at h
    exact absurd h List.not_mem_nil
  | some list => rfl

/-- A step of the compilation: the rules of one code. -/
def compileCode (family : Family) (entry : Code × List (PrefixRule V)) :
    ExceptT BuildError Logged (Code × PatternTree V) :=
  return (entry.1, ← PatternTree.ofRules family entry.1 entry.2)

/-- The table of a family's rules and of the trees of their patterns. -/
def tableOf (rules : RuleTable V) (trees : List (Code × PatternTree V)) :
    ResolutionTable V where
  overrides := rules.overrides
  trees := .ofList trees
  defaults := rules.defaults
  fallback := rules.fallback

/-- The compilation step by step: all codes, then the table as a whole. -/
theorem compile_eq_mapM (family : Family) (rules : RuleTable V) :
    rules.compile family = do
      let trees ← rules.prefixRules.toList.mapM (compileCode family)
      return rules.tableOf trees := rfl

theorem value_compileCode (family : Family)
    (entry : Code × List (PrefixRule V)) :
    (compileCode family entry).run.value
      = (PatternTree.ofRules family entry.1 entry.2).run.value.map
          (entry.1, ·) := by
  unfold compileCode
  rw [Logged.value_run_bind]
  cases (PatternTree.ofRules family entry.1 entry.2).run.value <;> rfl

theorem value_compile (family : Family) (rules : RuleTable V) :
    (rules.compile family).run.value
      = (rules.prefixRules.toList.mapM fun entry =>
          (compileCode family entry).run.value).map rules.tableOf := by
  rw [compile_eq_mapM, Logged.value_run_bind, Logged.value_run_mapM]
  cases rules.prefixRules.toList.mapM fun entry =>
    (compileCode family entry).run.value <;> rfl

theorem compileCode_eq_ok {entry : Code × List (PrefixRule V)}
    {result : Code × PatternTree V}
    (h : (compileCode family entry).run.value = .ok result) :
    (∀ rule ∈ entry.2, rule.Accepted)
      ∧ result
        = (entry.1, PatternTree.empty.insertAll
            (entry.2.map PrefixRule.insertion)) := by
  rw [value_compileCode] at h
  obtain ⟨tree, hrules, hresult⟩ := FirstError.exists_of_map_eq_ok h
  obtain ⟨haccepted, htree⟩ := PatternTree.ofRules_eq_ok hrules
  rw [← hresult, htree]
  exact ⟨haccepted, rfl⟩

theorem compileCode_eq_error {entry : Code × List (PrefixRule V)}
    {e : BuildError}
    (h : (compileCode family entry).run.value = .error e) :
    (PatternTree.ofRules family entry.1 entry.2).run.value = .error e := by
  rw [value_compileCode] at h
  cases hrules : (PatternTree.ofRules family entry.1 entry.2).run.value with
  | error e' =>
    rw [hrules] at h
    cases h
    rfl
  | ok tree =>
    rw [hrules] at h
    cases h

/-- A table of entries with different codes holds these entries. -/
theorem getElem?_ofList_eq_some_iff {A : Type} {entries : List (Code × A)}
    (h : entries.Pairwise fun a b => ¬ compare a.1 b.1 = .eq) (code : Code)
    (a : A) :
    (Std.TreeMap.ofList entries : CodeMap A)[code]? = some a
      ↔ (code, a) ∈ entries := by
  have hmem : ∀ a, (code, a) ∈ entries →
      (Std.TreeMap.ofList entries : CodeMap A)[code]? = some a := fun a =>
    Std.TreeMap.getElem?_ofList_of_mem Std.ReflCmp.compare_self h
  refine ⟨fun hsome => ?_, hmem a⟩
  by_cases hcode : code ∈ entries.map Prod.fst
  · obtain ⟨⟨c, a'⟩, hentry, rfl⟩ := List.mem_map.1 hcode
    rw [hmem a' hentry] at hsome
    rwa [← Option.some.inj hsome]
  · have hnone : (Std.TreeMap.ofList entries : CodeMap A)[code]? = none := by
      apply Std.TreeMap.getElem?_ofList_of_contains_eq_false
      rw [← Bool.not_eq_true, List.contains_iff_mem]
      exact hcode
    rw [hnone] at hsome
    cases hsome

/-- A table rebuilt from its entries, each of them mapped. -/
theorem getElem?_ofList_map {A B : Type} (map : CodeMap A) (f : A → B)
    (code : Code) :
    (Std.TreeMap.ofList (map.toList.map fun entry => (entry.1, f entry.2))
      : CodeMap B)[code]? = map[code]?.map f := by
  have hdistinct : (map.toList.map fun entry => (entry.1, f entry.2)).Pairwise
      fun a b => ¬ compare a.1 b.1 = .eq := by
    rw [List.pairwise_map]
    exact Std.TreeMap.distinct_keys_toList
  apply Option.ext
  intro b
  rw [getElem?_ofList_eq_some_iff hdistinct, Option.map_eq_some_iff]
  refine ⟨fun hmem => ?_, fun ⟨a, hget, hb⟩ => ?_⟩
  · obtain ⟨⟨c, a⟩, hentry, heq⟩ := List.mem_map.1 hmem
    cases heq
    exact ⟨a, Std.TreeMap.mem_toList_iff_getElem?_eq_some.1 hentry, rfl⟩
  · subst hb
    have hentry := Std.TreeMap.mem_toList_iff_getElem?_eq_some.2 hget
    exact List.mem_map.2 ⟨(code, a), hentry, rfl⟩

/-- A compiled family: all rules are accepted, and each part of the table
comes from the same part of the rules. -/
theorem compile_eq_ok {table : ResolutionTable V}
    (h : (rules.compile family).run.value = .ok table) :
    (∀ code, ∀ rule ∈ rules.prefixRulesFor code, rule.Accepted)
      ∧ table.overrides = rules.overrides
      ∧ table.defaults = rules.defaults
      ∧ table.fallback = rules.fallback
      ∧ ∀ code : Code, table.trees[code]?
          = rules.prefixRules[code]?.map fun list =>
              PatternTree.empty.insertAll
                (list.map PrefixRule.insertion) := by
  rw [value_compile] at h
  obtain ⟨trees, htrees, rfl⟩ := FirstError.exists_of_map_eq_ok h
  obtain ⟨haccepted, hmap⟩ :=
    FirstError.mapM_eq_ok_imp (fun _ _ => compileCode_eq_ok) htrees
  refine ⟨fun code rule hmem => ?_, rfl, rfl, rfl, fun code => ?_⟩
  · exact haccepted _ (mem_toList_of_mem_prefixRulesFor hmem) rule hmem
  · show (Std.TreeMap.ofList trees : CodeMap _)[code]? = _
    rw [hmap]
    exact getElem?_ofList_map rules.prefixRules
      (fun list => PatternTree.empty.insertAll
        (list.map PrefixRule.insertion)) code

/-- A family that is not compiled: the error is that of the first rule that
is not accepted, at the first code that has one. -/
theorem compile_eq_error {e : BuildError}
    (h : (rules.compile family).run.value = .error e) :
    e.family = family
      ∧ (∃ before rule after,
          rules.prefixRulesFor e.code = before ++ rule :: after
          ∧ (∀ r ∈ before, r.Accepted)
          ∧ Pattern.parse (Reason.normalize rule.pattern) = .error e.cause
          ∧ e.pattern = rule.pattern)
      ∧ ∀ code, compare code e.code = .lt →
          ∀ rule ∈ rules.prefixRulesFor code, rule.Accepted := by
  rw [value_compile] at h
  cases htrees : rules.prefixRules.toList.mapM fun entry =>
      (compileCode family entry).run.value with
  | ok trees =>
    rw [htrees] at h
    cases h
  | error e' =>
    rw [htrees] at h
    cases h
    obtain ⟨before, entry, after, hsplit, hbefore, hentry⟩ :=
      FirstError.mapM_eq_error_iff.1 htrees
    obtain ⟨front, rule, back, hrules, hfront, hparse, hfamily, hcode,
      hpattern⟩ := PatternTree.ofRules_eq_error (compileCode_eq_error hentry)
    have hlist : rules.prefixRulesFor e.code = entry.2 := by
      have hmem : entry ∈ rules.prefixRules.toList := by
        rw [hsplit]
        exact List.mem_append_right _ List.mem_cons_self
      have hget := Std.TreeMap.mem_toList_iff_getElem?_eq_some.1 hmem
      rw [hcode, prefixRulesFor, Std.TreeMap.getD_eq_getD_getElem?, hget]
      rfl
    refine ⟨hfamily, ⟨front, rule, back, ?_, hfront, hparse, hpattern⟩, ?_⟩
    · rw [hlist, hrules]
    · intro code hlt r hr
      have hmem := mem_toList_of_mem_prefixRulesFor hr
      have hordered := Std.TreeMap.ordered_keys_toList
        (t := rules.prefixRules)
      rw [hsplit] at hmem hordered
      rw [List.pairwise_append, List.pairwise_cons] at hordered
      rcases List.mem_append.1 hmem with hmem | hmem
      · obtain ⟨result, hresult⟩ := hbefore _ hmem
        exact (compileCode_eq_ok hresult).1 r hr
      · -- at or behind the entry that fails no code is less than its code
        exfalso
        rw [hcode] at hlt
        rcases List.mem_cons.1 hmem with heq | hmem
        · have hkey : code = entry.1 := congrArg Prod.fst heq
          have hself : compare entry.1 entry.1 = .eq := Std.compare_self
          rw [hkey, hself] at hlt
          cases hlt
        · have hgt := hordered.2.1.1 _ hmem
          have hswap := Std.OrientedCmp.gt_of_lt hgt
          rw [hlt] at hswap
          cases hswap

end RuleTable

-- ========================================================= both families

namespace Ruleset

variable {rules : Ruleset}

theorem value_build (rules : Ruleset) :
    rules.build.value = do
      let http ← (rules.http.compile .http).run.value
      let grpc ← (rules.grpc.compile .grpc).run.value
      return { http, grpc } := by
  unfold build
  rw [Logged.value_run_bind]
  refine bind_congr fun http => ?_
  rw [Logged.value_run_bind]
  rfl

theorem build_eq_ok {snapshot : Snapshot}
    (h : rules.build.value = .ok snapshot) (family : Family) :
    ((rules.get family).compile family).run.value
      = .ok (snapshot.get family) := by
  rw [value_build] at h
  cases hhttp : (rules.http.compile .http).run.value with
  | error e =>
    rw [hhttp] at h
    cases h
  | ok http =>
    rw [hhttp] at h
    cases hgrpc : (rules.grpc.compile .grpc).run.value with
    | error e =>
      rw [hgrpc] at h
      cases h
    | ok grpc =>
      rw [hgrpc] at h
      cases h
      cases family with
      | http => exact hhttp
      | grpc => exact hgrpc

/-- Rules that are not built: the error is that of the first rule that is
not accepted, at the first code of the first family that has one. -/
theorem build_eq_error {e : BuildError} (h : rules.build.value = .error e) :
    (∃ before rule after,
        (rules.get e.family).prefixRulesFor e.code = before ++ rule :: after
        ∧ (∀ r ∈ before, r.Accepted)
        ∧ Pattern.parse (Reason.normalize rule.pattern) = .error e.cause
        ∧ e.pattern = rule.pattern)
      ∧ (∀ code, compare code e.code = .lt →
          ∀ rule ∈ (rules.get e.family).prefixRulesFor code, rule.Accepted)
      ∧ (e.family = .grpc → ∀ code,
          ∀ rule ∈ rules.http.prefixRulesFor code, rule.Accepted) := by
  rw [value_build] at h
  cases hhttp : (rules.http.compile .http).run.value with
  | error e' =>
    rw [hhttp] at h
    cases h
    obtain ⟨hfamily, hrule, hless⟩ := RuleTable.compile_eq_error hhttp
    rw [hfamily]
    refine ⟨hrule, hless, fun hgrpc => ?_⟩
    cases hgrpc
  | ok http =>
    rw [hhttp] at h
    cases hgrpc : (rules.grpc.compile .grpc).run.value with
    | ok grpc =>
      rw [hgrpc] at h
      cases h
    | error e' =>
      rw [hgrpc] at h
      cases h
      obtain ⟨hfamily, hrule, hless⟩ := RuleTable.compile_eq_error hgrpc
      rw [hfamily]
      exact ⟨hrule, hless, fun _ => (RuleTable.compile_eq_ok hhttp).1⟩

end Ruleset

end FaultStatus
