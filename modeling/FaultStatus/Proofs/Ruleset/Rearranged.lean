/-
Rearranged configurations. Two directives conflict if they write to the same
slot; directives that do not may change places. A configuration that is
rearranged in such a way is built if and only if the first one is, and it
then answers alike (`ofDirectives_rearranged`): to keep the order of
conflicting directives is to keep the writes to each slot in their order,
and so the last of them.

Of a configuration that is not built one more thing is seen, which is the
fault that comes first among the patterns of one code. So the error is the
same only if the patterns of each code keep their order too, those of
different slots among themselves (`SharesRow`).
-/
import FaultStatus.Proofs.Rearrangement
import FaultStatus.Proofs.Ruleset.Slots
import Mathlib.Data.Fin.VecNotation

namespace FaultStatus

-- ================================================ how directives may relate

namespace Directive

/-- The directives write to the same slot. -/
def Conflicts (directive other : Directive) : Prop :=
  directive.slot = other.slot

instance (directive other : Directive) :
    Decidable (directive.Conflicts other) :=
  inferInstanceAs (Decidable (directive.slot = other.slot))

/-- The directives add patterns, be they alike or not, to those of one code
in one family. -/
inductive SharesRow : Directive → Directive → Prop where
  | patterns {code : Code} {pattern pattern' : String}
      {status status' : StatusValue} (same : status.family = status'.family) :
      SharesRow (.addPrefix code pattern status)
        (.addPrefix code pattern' status')

end Directive

section Keeps

variable {xs ys : List Directive} {σ : Rearrangement xs ys}

/-- The writes to a slot keep their order, and so does the last one. -/
theorem lastWrite?_of_keeps (h : σ.Keeps Directive.Conflicts) (slot : Slot) :
    lastWrite? xs slot = lastWrite? ys slot := by
  have hwrites : xs.filter (·.slot = slot) = ys.filter (·.slot = slot) := by
    apply Rearrangement.Keeps.filter_eq (σ := σ)
    refine h.mono fun d d' hslots => ?_
    obtain ⟨hd, hd'⟩ := hslots
    exact (of_decide_eq_true hd).trans (of_decide_eq_true hd').symm
  unfold lastWrite?
  rw [hwrites]

/-- What adds a pattern for a code in a family. -/
theorem Directive.eq_addPrefix_of_prefixRule? {family : Family} {code : Code}
    {directive : Directive}
    (h : ((directive.changeIn? family).bind
      (RuleChange.prefixRule? code)).isSome = true) :
    ∃ pattern status, directive = .addPrefix code pattern status
      ∧ status.family = family := by
  cases directive with
  | addPrefix c pattern status =>
      have hcode : c = code := by
        by_contra hne
        cases status <;> cases family <;>
          simp [changeIn?, StatusValue.in?, RuleChange.prefixRule?, hne] at h
      subst hcode
      refine ⟨pattern, status, rfl, ?_⟩
      cases status <;> cases family <;>
        first | rfl | simp [changeIn?, StatusValue.in?] at h
  | setDefault _ status | setOverride _ status | setFallback status =>
      cases status <;> cases family <;>
        simp [changeIn?, StatusValue.in?, RuleChange.prefixRule?] at h

theorem addedRules_of_keeps (h : σ.Keeps Directive.SharesRow)
    (family : Family) (code : Code) :
    addedRules (changesIn family xs) code
      = addedRules (changesIn family ys) code := by
  unfold addedRules changesIn
  rw [List.filterMap_filterMap, List.filterMap_filterMap]
  refine h.filterMap_eq fun d d' hd hd' => ?_
  obtain ⟨pattern, status, rfl, hfamily⟩ :=
    Directive.eq_addPrefix_of_prefixRule? hd
  obtain ⟨pattern', status', rfl, hfamily'⟩ :=
    Directive.eq_addPrefix_of_prefixRule? hd'
  exact .patterns (hfamily.trans hfamily'.symm)

end Keeps

-- ======================================================== configurations

namespace Ruleset

variable {xs ys : List Directive}

/-- Whether there is a fault depends on the directives alone and not on
their order. -/
theorem faultAt?_eq_none_congr (h : ∀ d, d ∈ xs ↔ d ∈ ys) (family : Family)
    (code : Code) :
    (initial.applyAll xs).faultAt? family code = none
      ↔ (initial.applyAll ys).faultAt? family code = none := by
  have hrules : ∀ rule, rule ∈ addedRules (changesIn family xs) code
      ↔ rule ∈ addedRules (changesIn family ys) code := by
    intro rule
    unfold addedRules changesIn
    simp only [List.mem_filterMap, h]
  rw [faultAt?_applyAll, faultAt?_applyAll, firstFault?_eq_none_iff,
    firstFault?_eq_none_iff]
  simp only [hrules]

end Ruleset

namespace Snapshot

/-- A configuration is built if and only if it is after a rearrangement that
keeps the order of conflicting directives, and both then give the same
explanation of every code and reason. If the patterns of each code keep
their order as well, both fail with the same error. -/
theorem ofDirectives_rearranged {xs ys : List Directive}
    (σ : Rearrangement xs ys) (h : σ.Keeps Directive.Conflicts) :
    ((∃ snapshot, (ofDirectives xs).value = .ok snapshot)
        ↔ ∃ snapshot, (ofDirectives ys).value = .ok snapshot)
      ∧ (∀ snapshot snapshot', (ofDirectives xs).value = .ok snapshot →
          (ofDirectives ys).value = .ok snapshot' → ∀ code reason,
            snapshot.explanation code reason
              = snapshot'.explanation code reason)
      ∧ (σ.Keeps Directive.SharesRow → ∀ error,
          (ofDirectives xs).value = .error error
            ↔ (ofDirectives ys).value = .error error) := by
  unfold ofDirectives
  refine ⟨?_, fun snapshot snapshot' hxs hys code reason => ?_,
    fun hrows error => ?_⟩
  · rw [Ruleset.exists_build_eq_ok_iff, Ruleset.exists_build_eq_ok_iff]
    have hnone := Ruleset.faultAt?_eq_none_congr fun d => σ.mem_iff (a := d)
    simp only [hnone]
  · exact Ruleset.explanation_congr hxs hys (lastWrite?_of_keeps h) code
      reason
  · refine Ruleset.build_eq_error_congr fun family code => ?_
    rw [Ruleset.faultAt?_applyAll, Ruleset.faultAt?_applyAll,
      addedRules_of_keeps hrows]

/-- A pattern spelled in two ways, and a wider one between them. -/
def twoSpellings : List Directive :=
  [.addPrefix .timeout "storage.pg" (.http 503),
    .addPrefix .timeout "storage.*" (.http 502),
    .addPrefix .timeout " Storage/PG " (.http 599),
    .setOverride .internal (.grpc .aborted)]

/-- The same, the wider pattern and the override having moved. -/
def twoSpellingsMoved : List Directive :=
  [.setOverride .internal (.grpc .aborted),
    .addPrefix .timeout "storage.*" (.http 502),
    .addPrefix .timeout "storage.pg" (.http 503),
    .addPrefix .timeout " Storage/PG " (.http 599)]

def twoSpellingsMove : Rearrangement twoSpellings twoSpellingsMoved where
  place := show Fin 4 ≃ Fin 4 from
    { toFun := ![2, 1, 3, 0]
      invFun := ![3, 1, 0, 2]
      left_inv := fun i => by revert i; decide
      right_inv := fun i => by revert i; decide }
  same := by decide

theorem explanation_twoSpellings :
    ∃ snapshot snapshot', (ofDirectives twoSpellings).value = .ok snapshot
      ∧ (ofDirectives twoSpellingsMoved).value = .ok snapshot'
      ∧ ∀ code reason, snapshot.explanation code reason
          = snapshot'.explanation code reason := by
  have hkeeps : twoSpellingsMove.Keeps Directive.Conflicts := by
    decide +kernel
  have hbuilt : (ofDirectives twoSpellings).value.toOption.isSome = true := by
    decide +kernel
  obtain ⟨hiff, hsame, -⟩ := ofDirectives_rearranged twoSpellingsMove hkeeps
  cases hxs : (ofDirectives twoSpellings).value with
  | error e =>
      rw [hxs] at hbuilt
      cases hbuilt
  | ok snapshot =>
      obtain ⟨snapshot', hys⟩ := hiff.1 ⟨snapshot, hxs⟩
      exact ⟨snapshot, snapshot', rfl, hys, hsame snapshot snapshot' hxs hys⟩

end Snapshot

end FaultStatus
