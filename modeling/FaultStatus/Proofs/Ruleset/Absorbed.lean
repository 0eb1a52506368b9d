/-
Configuration that is overwritten. If every directive of one list writes to
a slot that some directive of a later list writes to too, the first list is
absorbed: with it and without it the rules are built or not, answer alike and
are counted alike (`applyAll_absorbed`).

Of a history all this depends on the last write to each slot alone
(`explanation_congr`), or on no more than which slots were written to at all
(`exists_build_congr`, `counts_congr`), and these are the same with the
first list and without it (`lastWrite?_absorbed`).

The rows of rules that are stored do differ, since a pattern is added once
more for each time that it is written. The error of rules that are not built
goes by these rows, and so it may well be another. But where a list is applied
twice, each row has the same rules a second time behind them, and the first
fault of the row stays the first.
-/
import FaultStatus.Proofs.Ruleset.Contents

namespace FaultStatus

-- ============================================================ last writes

/-- What is written to a slot and then written there again leaves no
trace. -/
theorem lastWrite?_absorbed {xs ys : List Directive}
    (h : ∀ d ∈ xs, ∃ d' ∈ ys, d'.slot = d.slot)
    (history : List Directive) (slot : Slot) :
    lastWrite? (history ++ xs ++ ys) slot
      = lastWrite? (history ++ ys) slot := by
  rw [lastWrite?_append, lastWrite?_append history ys,
    lastWrite?_append history xs]
  by_cases hys : lastWrite? ys slot = none
  · have hxs : lastWrite? xs slot = none := by
      by_contra hwritten
      obtain ⟨d, hd, rfl⟩ := lastWrite?_ne_none_iff.1 hwritten
      exact lastWrite?_ne_none_iff.2 (h d hd) hys
    rw [hys, hxs]
    rfl
  · obtain ⟨status, hstatus⟩ := Option.ne_none_iff_exists'.1 hys
    rw [hstatus, Option.some_or, Option.some_or]

namespace Ruleset

-- ============================================================ stored rows

/-- A second round of the same rules has no fault that comes first. -/
theorem faultAt?_applied_twice (history ys : List Directive)
    (family : Family) (code : Code) :
    (initial.applyAll (history ++ ys ++ ys)).faultAt? family code
      = (initial.applyAll (history ++ ys)).faultAt? family code := by
  rw [faultAt?_applyAll, faultAt?_applyAll]
  simp only [addedRules_append, firstFault?, List.findSome?_append,
    Option.or_assoc, Option.or_self]

theorem addedRules_ne_nil {xs : List Directive} {code : Code}
    {pattern : String} {status : StatusValue}
    (h : .addPrefix code pattern status ∈ xs) :
    addedRules (changesIn status.family xs) code ≠ [] := by
  have hown : (status.in? status.family).isSome = true :=
    StatusValue.isSome_in? rfl
  obtain ⟨value, hvalue⟩ := Option.isSome_iff_exists.1 hown
  have hrule : PrefixRule.mk pattern value
      ∈ addedRules (changesIn status.family xs) code := by
    unfold addedRules changesIn
    rw [List.filterMap_filterMap]
    refine List.mem_filterMap.2 ⟨_, h, ?_⟩
    simp [Directive.changeIn?, hvalue, RuleChange.prefixRule?]
  exact List.ne_nil_of_mem hrule

/-- A pattern that is added makes the row of its code longer. -/
theorem prefixRulesFor_ne_of_mem (rules : Ruleset) {xs : List Directive}
    {code : Code} {pattern : String} {status : StatusValue}
    (h : .addPrefix code pattern status ∈ xs) (ys : List Directive) :
    (((rules.applyAll xs).applyAll ys).get status.family).prefixRulesFor code
      ≠ ((rules.applyAll ys).get status.family).prefixRulesFor code := by
  intro hsame
  have hlength := congrArg List.length hsame
  have hadded := List.length_pos_iff.2 (addedRules_ne_nil h)
  simp only [get_applyAll, RuleTable.prefixRulesFor_foldl_change,
    List.length_append] at hlength
  omega

-- =========================================================== absorbed lists

/-- A list of directives whose slots are all written to by a later list makes
no difference to whether the rules are built, to any explanation or to the
counts. If the lists are the same, it makes none to the error either. What
it adds to the stored patterns stays there. -/
theorem applyAll_absorbed (calls : List Call) (xs ys : List Directive)
    (h : ∀ d ∈ xs, ∃ d' ∈ ys, d'.slot = d.slot) :
    ((∃ s, (((afterCalls calls).applyAll xs).applyAll ys).build.value = .ok s)
        ↔ ∃ s, ((afterCalls calls).applyAll ys).build.value = .ok s)
      ∧ (∀ s s',
          (((afterCalls calls).applyAll xs).applyAll ys).build.value = .ok s →
          ((afterCalls calls).applyAll ys).build.value = .ok s' →
          (∀ code reason,
              s.explanation code reason = s'.explanation code reason)
            ∧ ∀ family, (s.get family).counts = (s'.get family).counts)
      ∧ (xs = ys → ∀ error,
          (((afterCalls calls).applyAll xs).applyAll ys).build.value
              = .error error
            ↔ ((afterCalls calls).applyAll ys).build.value = .error error)
      ∧ ∀ code pattern status, .addPrefix code pattern status ∈ xs →
          (((afterCalls calls).applyAll xs).applyAll ys |>.get
              status.family).prefixRulesFor code
            ≠ ((afterCalls calls).applyAll ys |>.get
                status.family).prefixRulesFor code := by
  have hlast := lastWrite?_absorbed h (history calls)
  have hwritten : ∀ slot, Written (history calls ++ xs ++ ys) slot
      ↔ Written (history calls ++ ys) slot := by
    intro slot
    rw [← lastWrite?_ne_none_iff, hlast, lastWrite?_ne_none_iff]
  have honce : (afterCalls calls).applyAll ys
      = initial.applyAll (history calls ++ ys) := by
    rw [afterCalls_eq_applyAll, applyAll_append]
  have hboth : ((afterCalls calls).applyAll xs).applyAll ys
      = initial.applyAll (history calls ++ xs ++ ys) := by
    rw [afterCalls_eq_applyAll, applyAll_append, applyAll_append]
  refine ⟨?_, fun s s' hs hs' => ?_, ?_, fun code pattern status hmem => ?_⟩
  · simp only [honce, hboth]
    exact exists_build_congr (writtenBy_applyAll _) (writtenBy_applyAll _)
      hwritten
  · rw [hboth] at hs
    rw [honce] at hs'
    exact ⟨explanation_congr hs hs' hlast, counts_congr
      (writtenBy_applyAll _) (writtenBy_applyAll _) hwritten hs hs'⟩
  · rintro rfl error
    rw [hboth, honce]
    exact build_eq_error_congr (faultAt?_applied_twice _ _)
  · exact prefixRulesFor_ne_of_mem _ hmem ys

/-- A code with a pattern of its own, before any configuration. -/
def ownPattern : List Call := [.addPrefix .http .timeout "storage" 500]

def firstDraft : List Directive :=
  [.addPrefix .timeout " Storage/PG " (.http 502),
    .setOverride .internal (.grpc .aborted)]

/-- Writes to both slots of the first draft, and to one more. -/
def secondDraft : List Directive :=
  [.setOverride .internal (.grpc .unavailable),
    .setDefault .conflict (.http 423),
    .addPrefix .timeout "storage.pg" (.http 503)]

theorem explanation_secondDraft :
    ∃ s s',
      (((afterCalls ownPattern).applyAll firstDraft).applyAll
          secondDraft).build.value = .ok s
        ∧ ((afterCalls ownPattern).applyAll secondDraft).build.value = .ok s'
        ∧ (∀ code reason,
            s.explanation code reason = s'.explanation code reason)
        ∧ (∀ family, (s.get family).counts = (s'.get family).counts)
        ∧ s'.http.counts.prefixes = 2 := by
  have hslots : ∀ d ∈ firstDraft, ∃ d' ∈ secondDraft, d'.slot = d.slot := by
    decide +kernel
  obtain ⟨hiff, hsame, -⟩ := applyAll_absorbed ownPattern _ _ hslots
  obtain ⟨s', hs', hcount⟩ : ∃ s' : Snapshot,
      ((afterCalls ownPattern).applyAll secondDraft).build.value = .ok s'
        ∧ s'.http.counts.prefixes = 2 :=
    FirstError.exists_of_map_eq_ok (by decide +kernel)
  obtain ⟨s, hs⟩ := hiff.2 ⟨s', hs'⟩
  obtain ⟨hexplanation, hcounts⟩ := hsame s s' hs hs'
  exact ⟨s, s', hs, hs', hexplanation, hcounts, hcount⟩

end Ruleset

end FaultStatus
