/-
Slots: the places that directives write to. There is one per family for the
fallback, one per family and code for the default and for the override, and
one per family, code and pattern in canonical spelling. A directive writes
its status to one slot, and what was written to a slot last is all that
answers can see of a history (`explanation_congr`): each of the four tiers
looks at slots of one kind, for the pattern tier as many as there are
patterns. All but the slot of the fallback belong to a code, and other codes
do not see them (`explain_of_sameWrites`).

Faults are another matter: which pattern is reported depends on the order in
which the patterns of one code came, across their slots
(`faultAt?_applyAll`).
-/
import FaultStatus.Proofs.Compile.Faults
import FaultStatus.Proofs.Resolution

namespace FaultStatus

/-- A place that directives write to. -/
inductive Slot where
  | default (family : Family) (code : Code)
  | override (family : Family) (code : Code)
  /-- The text is that of the pattern in canonical spelling. -/
  | pattern (family : Family) (code : Code) (text : String)
  | fallback (family : Family)
  deriving DecidableEq, Repr

def Slot.family : Slot → Family
  | default family _ => family
  | override family _ => family
  | pattern family _ _ => family
  | fallback family => family

/-- The code that a slot belongs to, if it belongs to one. -/
def Slot.code? : Slot → Option Code
  | default _ code => some code
  | override _ code => some code
  | pattern _ code _ => some code
  | fallback _ => none

namespace Directive

/-- The slot that the directive writes to. -/
def slot : Directive → Slot
  | setDefault code status => .default status.family code
  | setOverride code status => .override status.family code
  | addPrefix code pattern status =>
    .pattern status.family code (Reason.normalize pattern)
  | setFallback status => .fallback status.family

/-- The status that the directive writes there. -/
def status : Directive → StatusValue
  | setDefault _ status => status
  | setOverride _ status => status
  | addPrefix _ _ status => status
  | setFallback status => status

/-- The code that a directive is about, if it is about one. -/
def code? : Directive → Option Code
  | setDefault code _ => some code
  | setOverride code _ => some code
  | addPrefix code _ _ => some code
  | setFallback _ => none

theorem family_slot (directive : Directive) :
    directive.slot.family = directive.status.family := by
  cases directive <;> rfl

theorem code?_slot (directive : Directive) :
    directive.slot.code? = directive.code? := by
  cases directive <;> rfl

end Directive

/-- What was written to a slot last. -/
def lastWrite? (history : List Directive) (slot : Slot) :
    Option StatusValue :=
  (history.filter (·.slot = slot)).getLast?.map Directive.status

theorem lastWrite?_append (xs ys : List Directive) (slot : Slot) :
    lastWrite? (xs ++ ys) slot
      = (lastWrite? ys slot).or (lastWrite? xs slot) := by
  unfold lastWrite?
  rw [List.filter_append, List.getLast?_append]
  cases (ys.filter (·.slot = slot)).getLast? <;> rfl

theorem lastWrite?_append_singleton (history : List Directive)
    (directive : Directive) (slot : Slot) :
    lastWrite? (history ++ [directive]) slot
      = if directive.slot = slot then some directive.status
        else lastWrite? history slot := by
  rw [lastWrite?_append, lastWrite?]
  by_cases h : directive.slot = slot <;> simp [h]

-- ======================================================= tiers and slots

section Tiers

variable {family : Family}

theorem StatusValue.isSome_in? {status : StatusValue}
    (h : status.family = family) : (status.in? family).isSome = true := by
  subst h
  cases status <;> rfl

/-- A row that holds one value per write to a slot ends in the last
write. -/
theorem getLast?_filterMap_eq_lastWrite? (family : Family) (slot : Slot)
    (hfamily : slot.family = family)
    {written : Directive → Option family.Value}
    (hwritten : ∀ d,
      written d = if d.slot = slot then d.status.in? family else none)
    (history : List Directive) :
    (history.filterMap written).getLast?
      = (lastWrite? history slot).bind (·.in? family) := by
  induction history using List.reverseRecOn with
  | nil => rfl
  | append_singleton history last ih =>
      rw [List.filterMap_append, List.getLast?_append, ih,
        lastWrite?_append_singleton]
      by_cases hslot : last.slot = slot
      · have hlast := last.family_slot
        rw [hslot, hfamily] at hlast
        obtain ⟨value, hvalue⟩ :=
          Option.isSome_iff_exists.1 (StatusValue.isSome_in? hlast.symm)
        simp [hwritten, hslot, hvalue]
      · simp [hwritten, hslot]

variable (history : List Directive) (code : Code)

theorem lastDefault?_eq_lastWrite? :
    lastDefault? (changesIn family history) code
      = (lastWrite? history (.default family code)).bind
          (·.in? family) := by
  unfold lastDefault? changesIn
  rw [List.filterMap_filterMap]
  refine getLast?_filterMap_eq_lastWrite? family (.default family code)
    rfl (fun d => ?_) history
  cases d <;> rename_i status <;> cases status <;> cases family <;>
    simp [Directive.changeIn?, StatusValue.in?, Directive.slot,
      Directive.status, StatusValue.family, RuleChange.default?]

theorem lastOverride?_eq_lastWrite? :
    lastOverride? (changesIn family history) code
      = (lastWrite? history (.override family code)).bind
          (·.in? family) := by
  unfold lastOverride? changesIn
  rw [List.filterMap_filterMap]
  refine getLast?_filterMap_eq_lastWrite? family (.override family code)
    rfl (fun d => ?_) history
  cases d <;> rename_i status <;> cases status <;> cases family <;>
    simp [Directive.changeIn?, StatusValue.in?, Directive.slot,
      Directive.status, StatusValue.family, RuleChange.override?]

theorem lastFallback?_eq_lastWrite? :
    lastFallback? (changesIn family history)
      = (lastWrite? history (.fallback family)).bind (·.in? family) := by
  unfold lastFallback? changesIn
  rw [List.filterMap_filterMap]
  refine getLast?_filterMap_eq_lastWrite? family (.fallback family)
    rfl (fun d => ?_) history
  cases d <;> rename_i status <;> cases status <;> cases family <;>
    simp [Directive.changeIn?, StatusValue.in?, Directive.slot,
      Directive.status, StatusValue.family, RuleChange.fallback?]

theorem lastFor?_patternsFor_eq_lastWrite? (text : String) :
    PatternTree.lastFor? (patternsFor (changesIn family history) code) text
      = (lastWrite? history (.pattern family code text)).bind
          (·.in? family) := by
  unfold PatternTree.lastFor? patternsFor addedRules changesIn
  rw [List.filterMap_filterMap, List.map_filterMap, List.filter_filterMap,
    ← List.getLast?_map, List.map_filterMap]
  refine getLast?_filterMap_eq_lastWrite? family
    (.pattern family code text) rfl (fun d => ?_) history
  cases d with
  | addPrefix c pattern status =>
      by_cases hcode : c = code <;>
      by_cases htext : Reason.normalize pattern = text <;>
      cases status <;> cases family <;>
        simp [Directive.changeIn?, StatusValue.in?, Directive.slot,
          Directive.status, StatusValue.family, RuleChange.prefixRule?,
          PrefixRule.insertion, Option.filter_some, hcode, htext]
  | setDefault _ status | setOverride _ status | setFallback status =>
      cases status <;> cases family <;> rfl

end Tiers

-- ============================================== what answers and errors see

/-- The last writes to the code's slots in the family are the same. -/
def SameWrites (family : Family) (code : Code) (xs ys : List Directive) :
    Prop :=
  ∀ slot : Slot, slot.family = family → slot.code? = some code →
    lastWrite? xs slot = lastWrite? ys slot

namespace Ruleset

theorem get_applyAll_initial (history : List Directive) (family : Family) :
    (initial.applyAll history).get family
      = RuleTable.afterChanges (changesIn family history) :=
  get_applyAll initial history family

variable {xs ys : List Directive} {s s' : Snapshot} {family : Family}
  {code : Code}

/-- Of a code's answer only the fallback does not come from its slots. -/
theorem explain_of_sameWrites (hxs : (initial.applyAll xs).build.value = .ok s)
    (hsame : SameWrites family code xs ys) (reason : Reason) :
    (s.get family).explain code reason
      = .ofTiers (lastOverride? (changesIn family ys) code)
          ((PatternTree.empty.insertAll (patternsFor
            (changesIn family ys) code)).lookupWithPattern reason.text)
          (defaultIn? (changesIn family ys) code)
          ((lastFallback? (changesIn family xs)).getD
            (Defaults.fallback family)) := by
  have hx := build_eq_ok hxs family
  rw [get_applyAll_initial] at hx
  have hlook : (PatternTree.empty.insertAll (patternsFor
        (changesIn family xs) code)).lookupWithPattern reason.text
      = (PatternTree.empty.insertAll (patternsFor
        (changesIn family ys) code)).lookupWithPattern reason.text := by
    apply PatternTree.lookupWithPattern_congr
    intro text
    rw [lastFor?_patternsFor_eq_lastWrite?,
      lastFor?_patternsFor_eq_lastWrite?,
      hsame (.pattern family code text) rfl rfl]
  rw [RuleTable.explain_compile hx, hlook, lastOverride?_eq_lastWrite?,
    lastOverride?_eq_lastWrite?, hsame (.override family code) rfl rfl,
    defaultIn?, defaultIn?, lastDefault?_eq_lastWrite?,
    lastDefault?_eq_lastWrite?, hsame (.default family code) rfl rfl]

/-- Histories with the same last writes answer alike. -/
theorem explanation_congr (hxs : (initial.applyAll xs).build.value = .ok s)
    (hys : (initial.applyAll ys).build.value = .ok s')
    (hlast : ∀ slot, lastWrite? xs slot = lastWrite? ys slot)
    (code : Code) (reason : Reason) :
    s.explanation code reason = s'.explanation code reason := by
  apply Snapshot.explanation_eq_of_explain_eq
  intro family
  rw [explain_of_sameWrites hxs fun slot _ _ => hlast slot,
    explain_of_sameWrites hys fun _ _ _ => rfl,
    lastFallback?_eq_lastWrite?, lastFallback?_eq_lastWrite?, hlast]

/-- The faults of a family and a code are those of the patterns that the
history adds there, in their order. -/
theorem faultAt?_applyAll (history : List Directive) (family : Family)
    (code : Code) :
    (initial.applyAll history).faultAt? family code
      = firstFault? (addedRules (changesIn family history) code) := by
  unfold faultAt?
  rw [get_applyAll_initial, RuleTable.prefixRulesFor_afterChanges]

end Ruleset

end FaultStatus
