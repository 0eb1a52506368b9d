/-
Which rule a compilation fails at. What a history says about patterns is a
row of written rules, those of both families and of all codes mixed as they
were added. A rule offends if its text, in canonical spelling, is no
pattern, and rules come before one another by their families, then by the
bytes of their codes, whenever they were added (`WrittenRule.Before`). Rules
are built unless one of them offends, and what is reported is the offending
rule that comes first, in this order and then in that of the history
(`build_eq_error_iff`).

The tables keep the rules of each family and code apart, and an error names
a rule of one of these lists. Such a list is a filter of the written rules
(`map_pattern_prefixRulesFor`), so a place in it is a place in the whole row;
what else stands before or after there belongs to other codes or families
and is told from the error's rule by the order alone.
-/
import FaultStatus.Proofs.Compile.Tables
import FaultStatus.Proofs.Ruleset.History
import FaultStatus.Proofs.Text.ByteOrder

namespace FaultStatus

-- ========================================================= written rules

/-- A rule on the reasons of a code as it was written, whatever status it
leads to. -/
structure WrittenRule where
  /-- The family of the rule. -/
  family : Family
  /-- The code of the rule. -/
  code : Code
  /-- The text of the pattern, not yet brought into canonical spelling. -/
  pattern : String

namespace WrittenRule

/-- The pattern of the rule, in canonical spelling, is none. -/
def Offends (rule : WrittenRule) : Prop :=
  ¬ Pattern.Acceptable (Reason.normalize rule.pattern)

/-- The rule has to be looked at earlier than the other, whichever was added
first: HTTP before gRPC, and the codes of a family by their bytes. -/
inductive Before (rule other : WrittenRule) : Prop where
  /-- The rule is one for HTTP and the other one for gRPC. -/
  | family (http : rule.family = .http) (grpc : other.family = .grpc)
  /-- In one family, the code of the rule is less. -/
  | code (same : rule.family = other.family)
      (less : Text.bytes rule.code.text < Text.bytes other.code.text)

theorem not_offends_of_mem_map {V : Type} {list : List (PrefixRule V)}
    {rule : WrittenRule} (h : ∀ r ∈ list, r.Accepted)
    (hmem : rule.pattern ∈ list.map (·.pattern)) : ¬ rule.Offends := by
  obtain ⟨r, hr, heq⟩ := List.mem_map.1 hmem
  have haccepted := h r hr
  rw [PrefixRule.Accepted, heq] at haccepted
  exact not_not_intro haccepted

/-- Of two rules for different families or codes, one comes before the
other. -/
theorem before_or_before {rule other : WrittenRule}
    (h : ¬ (other.family = rule.family ∧ other.code = rule.code)) :
    rule.Before other ∨ other.Before rule := by
  by_cases hfamily : other.family = rule.family
  · cases hcompare : compare rule.code other.code with
    | lt =>
      exact .inl (.code hfamily.symm (Code.compare_eq_lt_iff.1 hcompare))
    | eq =>
      have heq := Std.LawfulEqOrd.eq_of_compare hcompare
      exact absurd ⟨hfamily, heq.symm⟩ h
    | gt =>
      have hgt := Std.OrientedCmp.lt_of_gt hcompare
      exact .inr (.code hfamily (Code.compare_eq_lt_iff.1 hgt))
  · cases hrule : rule.family with
    | http =>
      cases hother : other.family with
      | http => exact absurd (hother.trans hrule.symm) hfamily
      | grpc => exact .inl (.family hrule hother)
    | grpc =>
      cases hother : other.family with
      | http => exact .inr (.family hother hrule)
      | grpc => exact absurd (hother.trans hrule.symm) hfamily

end WrittenRule

/-- The rule on reasons that a directive adds, if it adds one. -/
def Directive.writtenRule? : Directive → Option WrittenRule
  | .addPrefix code pattern status =>
    some { family := status.family, code, pattern }
  | _ => none

/-- The rules on reasons that calls add, in the order in which they come. -/
def Ruleset.writtenRules (calls : List Ruleset.Call) : List WrittenRule :=
  (Ruleset.history calls).filterMap Directive.writtenRule?

-- ===================================================== the first offence

/-- An offending rule at its place among the others: no rule that offends
comes before it. -/
structure FirstOffence (rules before : List WrittenRule)
    (rule : WrittenRule) (after : List WrittenRule) : Prop where
  /-- The place of the rule. -/
  place : rules = before ++ rule :: after
  /-- The rule offends. -/
  offends : rule.Offends
  /-- Of the rules that were added earlier, those that offend come after. -/
  earlier : ∀ other ∈ before, other.Offends → rule.Before other
  /-- Of the rules that were added later, none that offends comes before. -/
  later : ∀ other ∈ after, other.Offends → ¬ other.Before rule

/-- The error tells of the rule as it was written, and of what is wrong with
its pattern. -/
structure BuildError.Reports (error : BuildError) (rule : WrittenRule) :
    Prop where
  family : error.family = rule.family
  code : error.code = rule.code
  pattern : error.pattern = rule.pattern
  /-- An insertion fails in this very way, whatever the tree holds. -/
  cause : ∀ {α : Type} (tree : PatternTree α) (value : α),
    (tree.insert (Reason.normalize rule.pattern) value).1
      = .error error.cause

variable {rules : List WrittenRule} {rule rule' : WrittenRule}

section Unique

variable {before before' after after' : List WrittenRule}

/-- Two rules that are first cannot stand apart. -/
theorem FirstOffence.not_mem_after
    (h : FirstOffence rules before rule after)
    (h' : FirstOffence rules before' rule' after') (hmem : rule ∈ before') :
    rule' ∉ after := by
  intro hafter
  have hless := h'.earlier rule hmem h.offends
  exact h.later rule' hafter h'.offends hless

theorem FirstOffence.unique (h : FirstOffence rules before rule after)
    (h' : FirstOffence rules before' rule' after') : rule = rule' := by
  have hplaces := h.place.symm.trans h'.place
  rcases List.append_eq_append_iff.1 hplaces with
    ⟨mid, hbefore, hafter⟩ | ⟨mid, hbefore, hafter⟩
  · cases mid with
    | nil => exact (List.cons.inj hafter).1
    | cons first mid =>
      obtain ⟨hfirst, hrest⟩ := List.cons.inj hafter
      have hnot := h.not_mem_after h' (by simp [hbefore, hfirst])
      exact absurd (by simp [hrest]) hnot
  · cases mid with
    | nil => exact (List.cons.inj hafter).1.symm
    | cons first mid =>
      obtain ⟨hfirst, hrest⟩ := List.cons.inj hafter
      have hnot := h'.not_mem_after h (by simp [hbefore, hfirst])
      exact absurd (by simp [hrest]) hnot

end Unique

/-- An error tells of one rule in one way. -/
theorem BuildError.Reports.unique {error error' : BuildError}
    (h : error.Reports rule) (h' : error'.Reports rule) : error = error' := by
  have hcauses : (Except.error error.cause : Except PatternError Unit)
      = .error error'.cause :=
    (h.cause .empty ()).symm.trans (h'.cause .empty ())
  have hcause : error.cause = error'.cause := Except.error.inj hcauses
  obtain ⟨family, code, pattern, cause⟩ := error
  obtain ⟨family', code', pattern', cause'⟩ := error'
  rw [BuildError.mk.injEq]
  exact ⟨h.family.trans h'.family.symm, h.code.trans h'.code.symm,
    h.pattern.trans h'.pattern.symm, hcause⟩

-- =========================================== the rules of a table, again

/-- The written rules of one family and one code. -/
def WrittenRule.isFor (family : Family) (code : Code) (rule : WrittenRule) :
    Bool :=
  rule.family = family ∧ rule.code = code

/-- What the changes of a history add for a code is what it says of this
family and code. -/
theorem map_pattern_addedRules (history : List Directive) (family : Family)
    (code : Code) :
    (addedRules (changesIn family history) code).map (·.pattern)
      = ((history.filterMap Directive.writtenRule?).filter
          (WrittenRule.isFor family code)).map (·.pattern) := by
  rw [addedRules, changesIn, List.filterMap_filterMap, List.map_filterMap,
    List.filter_filterMap, List.map_filterMap]
  congr 1
  funext directive
  cases directive with
  | setDefault c status => cases status <;> cases family <;> rfl
  | setOverride c status => cases status <;> cases family <;> rfl
  | setFallback status => cases status <;> cases family <;> rfl
  | addPrefix c pattern status =>
    by_cases h : c = code <;> cases status <;> cases family <;>
      simp [Directive.changeIn?, Directive.writtenRule?, StatusValue.in?,
        StatusValue.family, RuleChange.prefixRule?, Option.filter_some,
        WrittenRule.isFor, h]

/-- A place in a filtered and mapped row is a place in the row itself. -/
theorem exists_place_of_map_filter {α β : Type} {p : α → Bool} {f : α → β}
    {row : List α} {front back : List β} {b : β}
    (h : (row.filter p).map f = front ++ b :: back) :
    ∃ before a after, row = before ++ a :: after
      ∧ p a = true ∧ f a = b ∧ (before.filter p).map f = front := by
  obtain ⟨kept, rest, hkept, hfront, hrest⟩ := List.map_eq_append_iff.1 h
  obtain ⟨a, rest, rfl, hb, -⟩ := List.map_eq_cons_iff.1 hrest
  obtain ⟨first, second, rfl, hfirst, hsecond⟩ :=
    List.filter_eq_append_iff.1 hkept
  obtain ⟨skipped, after, rfl, hskipped, ha, -⟩ :=
    List.filter_eq_cons_iff.1 hsecond
  refine ⟨first ++ skipped, a, after, ?_, ha, hb, ?_⟩
  · rw [List.append_assoc]
  · rw [List.filter_append, List.filter_eq_nil_iff.2 hskipped,
      List.append_nil, hfirst, hfront]

namespace Ruleset

theorem map_pattern_prefixRulesFor (calls : List Call) (family : Family)
    (code : Code) :
    (((afterCalls calls).get family).prefixRulesFor code).map (·.pattern)
      = ((writtenRules calls).filter (WrittenRule.isFor family code)).map
          (·.pattern) := by
  rw [get_afterCalls, RuleTable.prefixRulesFor_afterChanges,
    map_pattern_addedRules]
  rfl

variable {calls : List Call}

theorem not_offends_of_accepted (hmem : rule ∈ writtenRules calls)
    (h : ∀ r ∈ ((afterCalls calls).get rule.family).prefixRulesFor rule.code,
      r.Accepted) : ¬ rule.Offends := by
  have hfor : WrittenRule.isFor rule.family rule.code rule = true :=
    decide_eq_true ⟨rfl, rfl⟩
  apply WrittenRule.not_offends_of_mem_map h
  rw [map_pattern_prefixRulesFor]
  exact List.mem_map_of_mem (List.mem_filter.2 ⟨hmem, hfor⟩)

theorem not_offends_of_build_eq_ok {snapshot : Snapshot}
    (h : (afterCalls calls).build.value = .ok snapshot)
    (hmem : rule ∈ writtenRules calls) : ¬ rule.Offends :=
  not_offends_of_accepted hmem
    ((RuleTable.compile_eq_ok (build_eq_ok h rule.family)).1 rule.code)

/-- Whatever comes before the rule of the error does not offend. -/
theorem not_offends_of_before {e : BuildError}
    (h : (afterCalls calls).build.value = .error e)
    (hfamily : rule.family = e.family) (hcode : rule.code = e.code)
    {other : WrittenRule}
    (hmem : other ∈ writtenRules calls) (hbefore : other.Before rule) :
    ¬ other.Offends := by
  obtain ⟨-, hless, hhttp⟩ := build_eq_error h
  cases hbefore with
  | family http grpc =>
    apply not_offends_of_accepted hmem
    rw [http]
    exact hhttp (hfamily.symm.trans grpc) other.code
  | code same less =>
    apply not_offends_of_accepted hmem
    rw [same, hfamily]
    apply hless
    rw [← hcode]
    exact Code.compare_eq_lt_iff.2 less

theorem exists_firstOffence_of_build_eq_error {e : BuildError}
    (h : (afterCalls calls).build.value = .error e) :
    ∃ before rule after,
      FirstOffence (writtenRules calls) before rule after
        ∧ e.Reports rule := by
  obtain ⟨⟨front, r, back, hlist, hfront, hparse, hpattern⟩, -, -⟩ :=
    build_eq_error h
  have hpatterns := map_pattern_prefixRulesFor calls e.family e.code
  rw [hlist, List.map_append, List.map_cons] at hpatterns
  obtain ⟨before, rule, after, hplace, hfor, hrule, hkept⟩ :=
    exists_place_of_map_filter hpatterns.symm
  obtain ⟨hfamily, hcode⟩ := of_decide_eq_true hfor
  have hnone : ∀ other ∈ writtenRules calls, other.Before rule →
      ¬ other.Offends := fun other hmem hbefore =>
    not_offends_of_before h hfamily hcode hmem hbefore
  refine ⟨before, rule, after, ⟨hplace, ?_, ?_, ?_⟩, ?_⟩
  · intro hacceptable
    obtain ⟨pattern, hok⟩ := Pattern.exists_parse_iff.2 hacceptable
    rw [hrule, hparse] at hok
    cases hok
  · intro other hmem hoffends
    have hrules : other ∈ writtenRules calls := by
      rw [hplace]
      exact List.mem_append_left _ hmem
    by_cases hsame : other.family = rule.family ∧ other.code = rule.code
    · -- the rules of the same code that stand before it are accepted
      have hother : WrittenRule.isFor e.family e.code other = true :=
        decide_eq_true ⟨hsame.1.trans hfamily, hsame.2.trans hcode⟩
      have hpattern : other.pattern ∈ front.map (·.pattern) := by
        rw [← hkept]
        exact List.mem_map_of_mem (List.mem_filter.2 ⟨hmem, hother⟩)
      exact absurd hoffends
        (WrittenRule.not_offends_of_mem_map hfront hpattern)
    · rcases WrittenRule.before_or_before hsame with hlater | hearlier
      · exact hlater
      · exact absurd hoffends (hnone other hrules hearlier)
  · intro other hmem hoffends hbefore
    have hrules : other ∈ writtenRules calls := by
      rw [hplace]
      exact List.mem_append_right _ (List.mem_cons_of_mem _ hmem)
    exact hnone other hrules hbefore hoffends
  · refine ⟨hfamily.symm, hcode.symm, ?_, fun tree value => ?_⟩
    · rw [hpattern, hrule]
    · rw [hrule]
      exact PatternTree.insert_fst_eq_error_iff.2 hparse

/-- Rules are built unless a rule on reasons offends; whatever else was set
does not matter. If one does, the error reports the first that does, as it
was written, with what is wrong with its pattern alone. -/
theorem build_eq_error_iff (calls : List Call) :
    ((∃ error, (afterCalls calls).build.value = .error error)
        ↔ ∃ rule ∈ writtenRules calls, rule.Offends)
      ∧ ∀ error, (afterCalls calls).build.value = .error error
          ↔ ∃ before rule after,
              FirstOffence (writtenRules calls) before rule after
                ∧ error.Reports rule := by
  refine ⟨⟨fun ⟨error, h⟩ => ?_, fun ⟨rule, hmem, hoffends⟩ => ?_⟩,
    fun error => ⟨exists_firstOffence_of_build_eq_error,
      fun ⟨before, rule, after, hfirst, hreports⟩ => ?_⟩⟩
  · obtain ⟨before, rule, after, hfirst, -⟩ :=
      exists_firstOffence_of_build_eq_error h
    refine ⟨rule, ?_, hfirst.offends⟩
    rw [hfirst.place]
    exact List.mem_append_right _ List.mem_cons_self
  · cases hbuild : (afterCalls calls).build.value with
    | error error => exact ⟨error, rfl⟩
    | ok snapshot =>
      exact absurd hoffends (not_offends_of_build_eq_ok hbuild hmem)
  · cases hbuild : (afterCalls calls).build.value with
    | ok snapshot =>
      have hmem : rule ∈ writtenRules calls := by
        rw [hfirst.place]
        exact List.mem_append_right _ List.mem_cons_self
      exact absurd hfirst.offends
        (not_offends_of_build_eq_ok hbuild hmem)
    | error error' =>
      obtain ⟨before', rule', after', hfirst', hreports'⟩ :=
        exists_firstOffence_of_build_eq_error hbuild
      have hsame := hfirst.unique hfirst'
      subst hsame
      rw [hreports.unique hreports']

/-- Of three rules that offend, the one for HTTP is reported, and of two for
HTTP the one whose code comes first. -/
example :
    (afterCalls
        [.addPrefix .grpc .canceled "*" .aborted,
          .addPrefix .http .timeout "a..b" 503,
          .addPrefix .http .internal "Storage.PG!" 500]).build.value.map
        (fun _ => ())
      = .error
        { family := .http, code := .internal, pattern := "Storage.PG!"
          cause := .invalidSegment "pg!" } := by
  decide +kernel

end Ruleset

end FaultStatus
