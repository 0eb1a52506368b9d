/-
Rules and their history. Rules are collected by calls, one after the other,
each for one family or by directives. What a call does is what certain
directives do (`Call.directives`), so that the history of a ruleset is a
list of directives, whoever made the calls (`afterCalls_eq_applyAll`).

A directive changes one family and leaves the other alone. The rules of a
family are therefore the fold of the changes that the history holds for
that family (`get_applyAll`), and each part of them can be read off these
changes: the last default, override or fallback that was set
(`defaults_foldl_change` and its siblings), and all patterns that were
added, in their order (`prefixRulesFor_foldl_change`).
-/
import Std.Data.TreeMap.Lemmas
import FaultStatus.Directive
import Mathlib.Data.List.Induction

namespace FaultStatus

-- =================================================== changes to a family

/-- A change to the rules of one family. -/
inductive RuleChange (V : Type) where
  | setDefault (code : Code) (value : V)
  | setOverride (code : Code) (value : V)
  | addPrefix (code : Code) (pattern : String) (value : V)
  | setFallback (value : V)

/-- The rules of a family after a change. -/
def RuleTable.change {V : Type} (rules : RuleTable V) :
    RuleChange V → RuleTable V
  | .setDefault code value => rules.setDefault code value
  | .setOverride code value => rules.setOverride code value
  | .addPrefix code pattern value => rules.addPrefix code pattern value
  | .setFallback value => rules.setFallback value

/-- The status itself, if it belongs to the family. -/
def StatusValue.in? : (family : Family) → StatusValue → Option family.Value
  | .http, .http status => some status
  | .grpc, .grpc status => some status
  | .http, .grpc _ => none
  | .grpc, .http _ => none

/-- A status of a family, together with the family. -/
def StatusValue.ofFamily : (family : Family) → family.Value → StatusValue
  | .http, status => .http status
  | .grpc, status => .grpc status

/-- The change that a directive makes to a family, if it is about it. -/
def Directive.changeIn? (family : Family) :
    Directive → Option (RuleChange family.Value)
  | .setDefault code status => (status.in? family).map (.setDefault code)
  | .setOverride code status => (status.in? family).map (.setOverride code)
  | .addPrefix code pattern status =>
    (status.in? family).map (.addPrefix code pattern)
  | .setFallback status => (status.in? family).map .setFallback

/-- The changes that a history makes to a family. -/
def changesIn (family : Family) (history : List Directive) :
    List (RuleChange family.Value) :=
  history.filterMap (Directive.changeIn? family)

namespace Ruleset

theorem get_apply (rules : Ruleset) (directive : Directive)
    (family : Family) :
    (rules.apply directive).get family
      = ((directive.changeIn? family).map (rules.get family).change).getD
          (rules.get family) := by
  cases directive with
  | setDefault code status => cases status <;> cases family <;> rfl
  | setOverride code status => cases status <;> cases family <;> rfl
  | addPrefix code pattern status => cases status <;> cases family <;> rfl
  | setFallback status => cases status <;> cases family <;> rfl

theorem applyAll_append (rules : Ruleset) (xs ys : List Directive) :
    rules.applyAll (xs ++ ys) = (rules.applyAll xs).applyAll ys :=
  List.foldl_append

/-- The rules of a family come from the changes to that family alone. -/
theorem get_applyAll (rules : Ruleset) (history : List Directive)
    (family : Family) :
    (rules.applyAll history).get family
      = (changesIn family history).foldl RuleTable.change
          (rules.get family) := by
  induction history generalizing rules with
  | nil => rfl
  | cons directive history ih =>
    show ((rules.apply directive).applyAll history).get family = _
    rw [ih, get_apply, changesIn, changesIn, List.filterMap_cons]
    cases directive.changeIn? family with
    | none => rfl
    | some change => rfl

-- ================================================================= calls

/-- A call on a ruleset: to a setter of one family, or with directives. -/
inductive Call where
  | setDefault (family : Family) (code : Code) (value : family.Value)
  | setOverride (family : Family) (code : Code) (value : family.Value)
  | addPrefix (family : Family) (code : Code) (pattern : String)
      (value : family.Value)
  | setFallback (family : Family) (value : family.Value)
  | apply (directive : Directive)
  | applyAll (directives : List Directive)

/-- The rules after a call. -/
def call (rules : Ruleset) : Call → Ruleset
  | .setDefault family code value => rules.setDefault family code value
  | .setOverride family code value => rules.setOverride family code value
  | .addPrefix family code pattern value =>
    rules.addPrefix family code pattern value
  | .setFallback family value => rules.setFallback family value
  | .apply directive => rules.apply directive
  | .applyAll directives => rules.applyAll directives

/-- The rules after calls on the initial ones. -/
def afterCalls (calls : List Call) : Ruleset := calls.foldl call initial

/-- What a call does, as directives. -/
def Call.directives : Call → List Directive
  | .setDefault family code value =>
    [.setDefault code (.ofFamily family value)]
  | .setOverride family code value =>
    [.setOverride code (.ofFamily family value)]
  | .addPrefix family code pattern value =>
    [.addPrefix code pattern (.ofFamily family value)]
  | .setFallback family value => [.setFallback (.ofFamily family value)]
  | .apply directive => [directive]
  | .applyAll directives => directives

/-- The directives that calls amount to, from first to last. -/
def history (calls : List Call) : List Directive :=
  calls.flatMap Call.directives

theorem call_eq_applyAll (rules : Ruleset) (call : Call) :
    rules.call call = rules.applyAll call.directives := by
  cases call with
  | setDefault family code value => cases family <;> rfl
  | setOverride family code value => cases family <;> rfl
  | addPrefix family code pattern value => cases family <;> rfl
  | setFallback family value => cases family <;> rfl
  | apply directive => rfl
  | applyAll directives => rfl

/-- Any calls do what their history does. -/
theorem afterCalls_eq_applyAll (calls : List Call) :
    afterCalls calls = initial.applyAll (history calls) := by
  unfold afterCalls
  generalize initial = rules
  induction calls generalizing rules with
  | nil => rfl
  | cons call calls ih =>
    rw [List.foldl_cons, ih, call_eq_applyAll, history, history,
      List.flatMap_cons, applyAll_append]

end Ruleset

-- =============================================== reading off the changes

variable {V : Type}

namespace RuleChange

/-- What the change sets as the default of the code. -/
def default? (code : Code) : RuleChange V → Option V
  | .setDefault c value => if c = code then some value else none
  | _ => none

/-- What the change sets as the override of the code. -/
def override? (code : Code) : RuleChange V → Option V
  | .setOverride c value => if c = code then some value else none
  | _ => none

/-- The pattern that the change adds to those of the code. -/
def prefixRule? (code : Code) : RuleChange V → Option (PrefixRule V)
  | .addPrefix c pattern value =>
    if c = code then some { pattern, value } else none
  | _ => none

/-- What the change sets as the fallback. -/
def fallback? : RuleChange V → Option V
  | .setFallback value => some value
  | _ => none

end RuleChange

/-- The default of the code that was set last. -/
def lastDefault? (changes : List (RuleChange V)) (code : Code) : Option V :=
  (changes.filterMap (RuleChange.default? code)).getLast?

/-- The override of the code that was set last. -/
def lastOverride? (changes : List (RuleChange V)) (code : Code) :
    Option V :=
  (changes.filterMap (RuleChange.override? code)).getLast?

/-- The fallback that was set last. -/
def lastFallback? (changes : List (RuleChange V)) : Option V :=
  (changes.filterMap RuleChange.fallback?).getLast?

/-- The patterns that were added to those of the code, in their order. -/
def addedRules (changes : List (RuleChange V)) (code : Code) :
    List (PrefixRule V) :=
  changes.filterMap (RuleChange.prefixRule? code)

theorem addedRules_append (xs ys : List Directive) (family : Family)
    (code : Code) :
    addedRules (changesIn family (xs ++ ys)) code
      = addedRules (changesIn family xs) code
        ++ addedRules (changesIn family ys) code := by
  unfold addedRules changesIn
  rw [List.filterMap_append, List.filterMap_append]

namespace RuleTable

/-- A part of the rules that each change either sets or leaves alone holds,
after many changes, what was set last. -/
theorem foldl_change_last (view : RuleTable V → Option V)
    (slot : RuleChange V → Option V)
    (hstep : ∀ rules change,
      view (rules.change change) = (slot change).or (view rules))
    (rules : RuleTable V) (changes : List (RuleChange V)) :
    view (changes.foldl change rules)
      = (changes.filterMap slot).getLast?.or (view rules) := by
  induction changes using List.reverseRecOn with
  | nil => rfl
  | append_singleton changes last ih =>
    rw [List.foldl_append, List.foldl_cons, List.foldl_nil, hstep, ih,
      List.filterMap_append, List.getLast?_append, Option.or_assoc]
    cases hslot : slot last with
    | none => simp [hslot]
    | some value => simp [hslot]

theorem getElem?_insert_eq_or {α : Type} (map : CodeMap α) (c code : Code)
    (value : α) :
    (map.insert c value)[code]?
      = (if c = code then some value else none).or map[code]? := by
  rw [Std.TreeMap.getElem?_insert]
  by_cases h : c = code
  · rw [if_pos h, if_pos (Std.LawfulEqOrd.compare_eq_iff_eq.2 h)]
    rfl
  · rw [if_neg h, if_neg fun hc => h (Std.LawfulEqOrd.compare_eq_iff_eq.1 hc)]
    rfl

variable (rules : RuleTable V) (changes : List (RuleChange V)) (code : Code)

theorem defaults_foldl_change :
    (changes.foldl change rules).defaults[code]?
      = (lastDefault? changes code).or rules.defaults[code]? := by
  refine foldl_change_last (fun rules => rules.defaults[code]?)
    (RuleChange.default? code) ?_ rules changes
  intro rules change
  cases change with
  | setDefault c value =>
    exact getElem?_insert_eq_or rules.defaults c code value
  | setOverride c value => rfl
  | addPrefix c pattern value => rfl
  | setFallback value => rfl

theorem overrides_foldl_change :
    (changes.foldl change rules).overrides[code]?
      = (lastOverride? changes code).or rules.overrides[code]? := by
  refine foldl_change_last (fun rules => rules.overrides[code]?)
    (RuleChange.override? code) ?_ rules changes
  intro rules change
  cases change with
  | setDefault c value => rfl
  | setOverride c value =>
    exact getElem?_insert_eq_or rules.overrides c code value
  | addPrefix c pattern value => rfl
  | setFallback value => rfl

theorem fallback_foldl_change :
    (changes.foldl change rules).fallback
      = (lastFallback? changes).getD rules.fallback := by
  have hview := foldl_change_last (fun rules => some rules.fallback)
    RuleChange.fallback? ?_ rules changes
  · have hor : (lastFallback? changes).or (some rules.fallback)
        = some ((lastFallback? changes).getD rules.fallback) := by
      cases lastFallback? changes <;> rfl
    exact Option.some.inj (hview.trans hor)
  · intro rules change
    cases change <;> rfl

/-- The patterns of a code are kept in the order in which they came. -/
theorem prefixRulesFor_foldl_change :
    (changes.foldl change rules).prefixRulesFor code
      = rules.prefixRulesFor code ++ addedRules changes code := by
  induction changes using List.reverseRecOn with
  | nil => exact (List.append_nil _).symm
  | append_singleton changes last ih =>
    rw [List.foldl_append, List.foldl_cons, List.foldl_nil, addedRules,
      List.filterMap_append, ← List.append_assoc]
    rw [addedRules] at ih
    rw [← ih]
    generalize changes.foldl change rules = rules
    cases last with
    | setDefault c value => exact (List.append_nil _).symm
    | setOverride c value => exact (List.append_nil _).symm
    | setFallback value => exact (List.append_nil _).symm
    | addPrefix c pattern value =>
      show (rules.addPrefix c pattern value).prefixRulesFor code = _
      simp only [addPrefix, prefixRulesFor,
        Std.TreeMap.getD_eq_getD_getElem?, getElem?_insert_eq_or]
      by_cases h : c = code
      · subst h
        simp [RuleChange.prefixRule?]
      · simp [RuleChange.prefixRule?, h]

end RuleTable

-- ========================================= changes to the built-in rules

/-- The rules of a family after changes to the built-in ones. -/
def RuleTable.afterChanges {family : Family}
    (changes : List (RuleChange family.Value)) : RuleTable family.Value :=
  changes.foldl change (Ruleset.initial.get family)

theorem RuleTable.prefixRulesFor_afterChanges {family : Family}
    (changes : List (RuleChange family.Value)) (code : Code) :
    (afterChanges changes).prefixRulesFor code = addedRules changes code := by
  have hempty : (Ruleset.initial.get family).prefixRulesFor code = [] := by
    cases family with
    | http => rfl
    | grpc => rfl
  rw [afterChanges, prefixRulesFor_foldl_change, hempty, List.nil_append]

/-- What any calls leave in a family comes from the changes to it. -/
theorem Ruleset.get_afterCalls (calls : List Call) (family : Family) :
    (afterCalls calls).get family
      = RuleTable.afterChanges (changesIn family (history calls)) := by
  rw [afterCalls_eq_applyAll, get_applyAll]
  rfl

end FaultStatus
