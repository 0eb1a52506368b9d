/-
Faults of patterns, and the one that a compilation reports. The rules of a
family and a code have a first fault or none (`Ruleset.faultAt?`), and this
is all that a compilation asks of them: it succeeds if there is no fault
anywhere (`exists_build_eq_ok_iff`), and else it reports the fault of the
least family and code that has one (`build_eq_error_iff_firstFault`).

Two rulesets with the same faults therefore fail in the same way, whatever
else they hold and in whatever order they got it
(`build_eq_error_congr`).
-/
import FaultStatus.Proofs.Compile.Tables

namespace FaultStatus

variable {V : Type}

-- ==================================================== the faults of a row

/-- What is wrong with the pattern of a rule, if anything is. -/
def PrefixRule.fault? (rule : PrefixRule V) : Option PatternError :=
  match Pattern.parse (Reason.normalize rule.pattern) with
  | .error cause => some cause
  | .ok _ => none

/-- The first pattern of a row with a fault, as it was written, and the
fault. -/
def firstFault? (rules : List (PrefixRule V)) :
    Option (String × PatternError) :=
  rules.findSome? fun rule => rule.fault?.map (rule.pattern, ·)

theorem PrefixRule.fault?_eq_none_iff {rule : PrefixRule V} :
    rule.fault? = none ↔ rule.Accepted := by
  unfold Accepted fault?
  rw [← Pattern.exists_parse_iff]
  cases Pattern.parse (Reason.normalize rule.pattern) <;> simp

theorem firstFault?_eq_none_iff {rules : List (PrefixRule V)} :
    firstFault? rules = none ↔ ∀ rule ∈ rules, rule.Accepted := by
  unfold firstFault?
  simp only [List.findSome?_eq_none_iff, Option.map_eq_none_iff,
    PrefixRule.fault?_eq_none_iff]

theorem firstFault?_of_split {before after : List (PrefixRule V)}
    {rule : PrefixRule V} {cause : PatternError}
    (hbefore : ∀ r ∈ before, r.Accepted)
    (hparse : Pattern.parse (Reason.normalize rule.pattern)
      = .error cause) :
    firstFault? (before ++ rule :: after) = some (rule.pattern, cause) := by
  have hnone : firstFault? before = none :=
    firstFault?_eq_none_iff.2 hbefore
  have hfault : rule.fault? = some cause := by
    unfold PrefixRule.fault?
    rw [hparse]
  unfold firstFault? at hnone ⊢
  rw [List.findSome?_append, hnone, List.findSome?_cons, hfault]
  rfl

-- ============================================= the faults of both families

namespace Ruleset

variable {rules rules' : Ruleset} {e e' : BuildError}

/-- The first fault in the patterns of a family and a code. -/
def faultAt? (rules : Ruleset) (family : Family) (code : Code) :
    Option (String × PatternError) :=
  firstFault? ((rules.get family).prefixRulesFor code)

/-- The error tells of the first fault: HTTP comes before gRPC, and the
codes of a family in ascending order. -/
structure FirstFault (rules : Ruleset) (e : BuildError) : Prop where
  found : rules.faultAt? e.family e.code = some (e.pattern, e.cause)
  codes_before : ∀ code, compare code e.code = .lt →
    rules.faultAt? e.family code = none
  http_before : e.family = .grpc → ∀ code,
    rules.faultAt? .http code = none

/-- In different families or codes two errors cannot both be first. -/
theorem FirstFault.place_eq (h : FirstFault rules e)
    (h' : FirstFault rules e') : e.family = e'.family ∧ e.code = e'.code := by
  have hfamily : e.family = e'.family := by
    cases hfam : e.family <;> cases hfam' : e'.family
    · rfl
    · have hnone := h'.http_before hfam' e.code
      have hfound := h.found
      rw [hfam, hnone] at hfound
      cases hfound
    · have hnone := h.http_before hfam e'.code
      have hfound := h'.found
      rw [hfam', hnone] at hfound
      cases hfound
    · rfl
  refine ⟨hfamily, ?_⟩
  cases hcode : compare e.code e'.code with
  | eq => exact Std.LawfulEqOrd.eq_of_compare hcode
  | lt =>
      have hnone := h'.codes_before e.code hcode
      have hfound := h.found
      rw [hfamily, hnone] at hfound
      cases hfound
  | gt =>
      have hnone := h.codes_before e'.code (Std.OrientedCmp.lt_of_gt hcode)
      have hfound := h'.found
      rw [← hfamily, hnone] at hfound
      cases hfound

theorem FirstFault.unique (h : FirstFault rules e)
    (h' : FirstFault rules e') : e = e' := by
  obtain ⟨hfamily, hcode⟩ := h.place_eq h'
  have hfound := h.found
  rw [hfamily, hcode, h'.found] at hfound
  obtain ⟨family, code, pattern, cause⟩ := e
  obtain ⟨family', code', pattern', cause'⟩ := e'
  simp only [Option.some.injEq, Prod.mk.injEq] at hfound
  simp only [BuildError.mk.injEq]
  exact ⟨hfamily, hcode, hfound.1.symm, hfound.2.symm⟩

theorem firstFault_of_build (h : rules.build.value = .error e) :
    FirstFault rules e := by
  obtain ⟨⟨before, rule, after, hrules, hbefore, hparse, hpattern⟩, hcodes,
    hhttp⟩ := build_eq_error h
  refine ⟨?_, fun code hlt => ?_, fun hgrpc code => ?_⟩
  · unfold faultAt?
    rw [hrules, firstFault?_of_split hbefore hparse, hpattern]
  · exact firstFault?_eq_none_iff.2 (hcodes code hlt)
  · exact firstFault?_eq_none_iff.2 (hhttp hgrpc code)

theorem faultAt?_of_build {snapshot : Snapshot}
    (h : rules.build.value = .ok snapshot) (family : Family) (code : Code) :
    rules.faultAt? family code = none :=
  firstFault?_eq_none_iff.2
    ((RuleTable.compile_eq_ok (build_eq_ok h family)).1 code)

/-- Rules are compiled if there is no fault in them. -/
theorem exists_build_eq_ok_iff :
    (∃ snapshot, rules.build.value = .ok snapshot)
      ↔ ∀ family code, rules.faultAt? family code = none := by
  constructor
  · rintro ⟨snapshot, h⟩
    exact faultAt?_of_build h
  · intro hnone
    cases hbuild : rules.build.value with
    | ok snapshot => exact ⟨snapshot, rfl⟩
    | error e =>
        have hfound := (firstFault_of_build hbuild).found
        rw [hnone] at hfound
        cases hfound

/-- Else the first fault is reported. -/
theorem build_eq_error_iff_firstFault :
    rules.build.value = .error e ↔ FirstFault rules e := by
  refine ⟨firstFault_of_build, fun h => ?_⟩
  cases hbuild : rules.build.value with
  | ok snapshot =>
      have hfound := h.found
      rw [faultAt?_of_build hbuild] at hfound
      cases hfound
  | error e' => rw [h.unique (firstFault_of_build hbuild)]

theorem FirstFault.transfer (h : FirstFault rules e)
    (heq : ∀ family code,
      rules.faultAt? family code = rules'.faultAt? family code) :
    FirstFault rules' e := by
  refine ⟨?_, fun code hlt => ?_, fun hgrpc code => ?_⟩
  · rw [← heq, h.found]
  · rw [← heq, h.codes_before code hlt]
  · rw [← heq, h.http_before hgrpc code]

/-- Rules with the same faults fail in the same way. -/
theorem build_eq_error_congr
    (heq : ∀ family code,
      rules.faultAt? family code = rules'.faultAt? family code) :
    rules.build.value = .error e ↔ rules'.build.value = .error e := by
  rw [build_eq_error_iff_firstFault, build_eq_error_iff_firstFault]
  refine ⟨fun h => h.transfer heq, fun h => h.transfer ?_⟩
  intro family code
  exact (heq family code).symm

end Ruleset

end FaultStatus
