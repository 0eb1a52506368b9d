/-
What there is in rules. A code has an override if the slot for it was written
to, and a default if that slot was or if the code is in the built-in table;
and a code has a pattern if the slot of this pattern was written to
(`Ruleset.WrittenBy`). Neither what was written nor in which order has a say
in any of it.

No more than this is needed to tell whether rules are built, since each
pattern is accepted or not for itself (`exists_build_iff_patterns`), and to
tell what the counts of the tables are, since these count what there is.
Histories that write to the same slots are therefore built alike and counted
alike (`exists_build_congr`, `counts_congr`).
-/
import FaultStatus.Proofs.Compile.Counts
import FaultStatus.Proofs.Ruleset.Slots

namespace FaultStatus

-- ========================================================== written slots

/-- Some directive writes to the slot. -/
def Written (history : List Directive) (slot : Slot) : Prop :=
  ∃ d ∈ history, d.slot = slot

section LastWrite

variable {history : List Directive} {slot : Slot} {family : Family}

theorem lastWrite?_ne_none_iff :
    lastWrite? history slot ≠ none ↔ Written history slot := by
  unfold lastWrite? Written
  rw [ne_eq, Option.map_eq_none_iff, List.getLast?_eq_none_iff,
    List.filter_eq_nil_iff]
  simp

/-- What is written to a slot is a status of the slot's family. -/
theorem family_of_lastWrite? {status : StatusValue}
    (h : lastWrite? history slot = some status) :
    status.family = slot.family := by
  unfold lastWrite? at h
  obtain ⟨d, hlast, rfl⟩ := Option.map_eq_some_iff.1 h
  have hslot := (List.mem_filter.1 (List.mem_of_getLast? hlast)).2
  rw [← d.family_slot, of_decide_eq_true hslot]

theorem lastWrite?_bind_ne_none_iff (hfamily : slot.family = family) :
    (lastWrite? history slot).bind (·.in? family) ≠ none
      ↔ Written history slot := by
  rw [← lastWrite?_ne_none_iff]
  cases hlast : lastWrite? history slot with
  | none => simp
  | some status =>
      have hin := StatusValue.isSome_in?
        ((family_of_lastWrite? hlast).trans hfamily)
      simp [Option.ne_none_iff_isSome, hin]

variable {code : Code}

theorem lastOverride?_ne_none_iff :
    lastOverride? (changesIn family history) code ≠ none
      ↔ Written history (.override family code) := by
  rw [lastOverride?_eq_lastWrite?]
  exact lastWrite?_bind_ne_none_iff rfl

theorem lastDefault?_ne_none_iff :
    lastDefault? (changesIn family history) code ≠ none
      ↔ Written history (.default family code) := by
  rw [lastDefault?_eq_lastWrite?]
  exact lastWrite?_bind_ne_none_iff rfl

theorem lastFor?_patternsFor_ne_none_iff {text : String} :
    PatternTree.lastFor? (patternsFor (changesIn family history) code) text
        ≠ none
      ↔ Written history (.pattern family code text) := by
  rw [lastFor?_patternsFor_eq_lastWrite?]
  exact lastWrite?_bind_ne_none_iff rfl

end LastWrite

-- =============================================== rules, by what was written

namespace Ruleset

/-- There is in the rules what the history writes, and the built-in
defaults. -/
structure WrittenBy (rules : Ruleset) (history : List Directive) :
    Prop where
  overrides : ∀ family code, (rules.get family).overrideFor? code ≠ none
    ↔ Written history (.override family code)
  defaults : ∀ family code, (rules.get family).defaultFor? code ≠ none
    ↔ Written history (.default family code)
      ∨ code ∈ (Defaults.table family).map Prod.fst
  patterns : ∀ family code text,
    (code, text) ∈ (rules.get family).patterns
      ↔ Written history (.pattern family code text)

variable {rules rules' : Ruleset} {family : Family} {code : Code}

theorem overrides_initial : (initial.get family).overrides[code]? = none := by
  cases family <;> rfl

theorem defaultFor?_initial_ne_none_iff :
    (initial.get family).defaultFor? code ≠ none
      ↔ code ∈ (Defaults.table family).map Prod.fst := by
  rw [RuleTable.defaultFor?, getElem?_defaults_initial, ne_eq,
    List.lookup_eq_none_iff]
  simp

theorem writtenBy_applyAll (history : List Directive) :
    (initial.applyAll history).WrittenBy history := by
  refine ⟨fun family code => ?_, fun family code => ?_,
    fun family code text => ?_⟩
  · rw [RuleTable.overrideFor?, get_applyAll,
      RuleTable.overrides_foldl_change, overrides_initial, Option.or_none,
      lastOverride?_ne_none_iff]
  · rw [← lastDefault?_ne_none_iff, ← defaultFor?_initial_ne_none_iff]
    unfold RuleTable.defaultFor?
    rw [get_applyAll, RuleTable.defaults_foldl_change, ne_eq,
      Option.or_eq_none_iff, not_and_or]
  · rw [← lastFor?_patternsFor_ne_none_iff,
      PatternTree.lastFor?_ne_none_iff, get_applyAll_initial]
    unfold RuleTable.patterns patternsFor
    simp [RuleTable.prefixRulesFor_afterChanges, PrefixRule.insertion]

/-- Rules are built if all patterns in them are acceptable. -/
theorem exists_build_iff_patterns :
    (∃ snapshot, rules.build.value = .ok snapshot)
      ↔ ∀ family code text, (code, text) ∈ (rules.get family).patterns →
          Pattern.Acceptable text := by
  rw [exists_build_eq_ok_iff]
  unfold faultAt?
  simp only [firstFault?_eq_none_iff]
  constructor
  · rintro h family code text ⟨rule, hrule, rfl⟩
    exact h family code rule hrule
  · intro h family code rule hrule
    exact h family code _ ⟨rule, hrule, rfl⟩

section Congr

variable {xs ys : List Directive}
  (h : rules.WrittenBy xs) (h' : rules'.WrittenBy ys)
  (hwritten : ∀ slot, Written xs slot ↔ Written ys slot)

include h h' hwritten

theorem exists_build_congr :
    (∃ snapshot, rules.build.value = .ok snapshot)
      ↔ ∃ snapshot, rules'.build.value = .ok snapshot := by
  rw [exists_build_iff_patterns, exists_build_iff_patterns]
  simp only [h.patterns, h'.patterns, hwritten]

theorem counts_congr {s s' : Snapshot} (hs : rules.build.value = .ok s)
    (hs' : rules'.build.value = .ok s') (family : Family) :
    (s.get family).counts = (s'.get family).counts := by
  have hcounts := RuleTable.measure_of_compile (build_eq_ok hs family)
  have hcounts' := RuleTable.measure_of_compile (build_eq_ok hs' family)
  refine hcounts.eq_of_same hcounts' (fun code => ?_) ?_ (fun code => ?_)
  · rw [h.overrides, h'.overrides, hwritten]
  · ext ⟨code, text⟩
    rw [h.patterns, h'.patterns, hwritten]
  · rw [h.defaults, h'.defaults, hwritten]

end Congr

end Ruleset

end FaultStatus
