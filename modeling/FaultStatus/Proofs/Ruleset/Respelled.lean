/-
Rules whose patterns are brought into canonical spelling beforehand. A
compilation reads a rule only through its insertion (`mapError_ofRules`),
and as normalizing twice is normalizing once, the insertion of a respelled
rule is that of the rule as it was written. Of an error everything stays but
the pattern, which is reported as it stands in the rules
(`BuildError.blame`).
-/
import FaultStatus.Proofs.Compile.Tables
import FaultStatus.Proofs.Normalization
import Std.Data.TreeMap.AdditionalOperations

namespace FaultStatus

variable {V : Type}

-- ========================================================= respelled rules

/-- The rule with its pattern in canonical spelling. -/
def PrefixRule.respelled (rule : PrefixRule V) : PrefixRule V :=
  { rule with pattern := Reason.normalize rule.pattern }

theorem PrefixRule.insertion_respelled (rule : PrefixRule V) :
    rule.respelled.insertion = rule.insertion := by
  unfold insertion respelled
  rw [Reason.normalize_normalize]

/-- A code's rules, those at the chosen places respelled. -/
def PrefixRule.respellRow (chosen : Nat → Bool)
    (rules : List (PrefixRule V)) : List (PrefixRule V) :=
  rules.mapIdx fun place rule =>
    if chosen place then rule.respelled else rule

/-- A family's rules, the patterns at the chosen places of the codes' lists
respelled. -/
def RuleTable.respell (chosen : Code → Nat → Bool) (rules : RuleTable V) :
    RuleTable V :=
  { rules with
    prefixRules := rules.prefixRules.map fun code list =>
      PrefixRule.respellRow (chosen code) list }

/-- The rules of both families, the chosen patterns respelled. -/
def Ruleset.respell (chosen : Family → Code → Nat → Bool) (rules : Ruleset) :
    Ruleset where
  http := rules.http.respell (chosen .http)
  grpc := rules.grpc.respell (chosen .grpc)

theorem PrefixRule.map_insertion_respellRow (chosen : Nat → Bool)
    (rules : List (PrefixRule V)) :
    (respellRow chosen rules).map insertion = rules.map insertion := by
  unfold respellRow
  induction rules generalizing chosen with
  | nil => rfl
  | cons rule rules ih =>
    have hfirst : (if chosen 0 then rule.respelled else rule).insertion
        = rule.insertion := by
      split_ifs
      · exact rule.insertion_respelled
      · rfl
    rw [List.mapIdx_cons, List.map_cons, List.map_cons, hfirst,
      ih fun place => chosen (place + 1)]

-- ======================================================= what an error blames

/-- What an error tells besides the pattern as it was written. -/
def BuildError.blame (error : BuildError) : Family × Code × PatternError :=
  (error.family, error.code, error.cause)

/-- The rules of a code are stored, or blamed, by their insertions. -/
theorem PatternTree.mapError_ofRules (family : Family) (code : Code)
    (rules : List (PrefixRule V)) :
    (ofRules family code rules).run.value.mapError BuildError.blame
      = (rules.map PrefixRule.insertion).foldlM
          (fun tree insertion =>
            ((tree.insert insertion.1 insertion.2).1.map fun _ =>
              tree.attempt insertion).mapError (family, code, ·))
          empty := by
  have hstep : ∀ (tree : PatternTree V) (rule : PrefixRule V),
      (addRule family code tree rule).run.value.mapError BuildError.blame
        = ((tree.insert rule.insertion.1 rule.insertion.2).1.map fun _ =>
            tree.attempt rule.insertion).mapError (family, code, ·) := by
    intro tree rule
    unfold addRule attempt PrefixRule.insertion
    cases hparse : Pattern.parse (Reason.normalize rule.pattern) with
    | error cause =>
      rw [insert_of_parse_error hparse]
      rfl
    | ok pattern =>
      rw [insert_of_parse_ok hparse]
      rfl
  rw [ofRules, Logged.value_run_foldlM, FirstError.mapError_foldlM,
    List.foldlM_map]
  simp only [hstep]

namespace RuleTable

theorem mapError_compileCode_respellRow (family : Family) (code : Code)
    (chosen : Nat → Bool) (list : List (PrefixRule V)) :
    (compileCode family
        (code, PrefixRule.respellRow chosen list)).run.value.mapError
          BuildError.blame
      = (compileCode family (code, list)).run.value.mapError
          BuildError.blame := by
  rw [value_compileCode, value_compileCode, FirstError.mapError_map,
    FirstError.mapError_map, PatternTree.mapError_ofRules,
    PatternTree.mapError_ofRules, PrefixRule.map_insertion_respellRow]

theorem mapError_compile_respell (family : Family)
    (chosen : Code → Nat → Bool) (rules : RuleTable V) :
    ((rules.respell chosen).compile family).run.value.mapError
        BuildError.blame
      = (rules.compile family).run.value.mapError BuildError.blame := by
  have htrees : ((rules.respell chosen).prefixRules.toList.mapM fun entry =>
        (compileCode family entry).run.value).mapError BuildError.blame
      = (rules.prefixRules.toList.mapM fun entry =>
          (compileCode family entry).run.value).mapError
            BuildError.blame := by
    rw [FirstError.mapError_mapM, FirstError.mapError_mapM, respell,
      Std.TreeMap.toList_map, List.mapM_map]
    simp only [Function.comp_def, mapError_compileCode_respellRow]
  rw [value_compile, value_compile, FirstError.mapError_map,
    FirstError.mapError_map, htrees]
  rfl

end RuleTable

namespace Ruleset

theorem mapError_build_respell (chosen : Family → Code → Nat → Bool)
    (rules : Ruleset) :
    (rules.respell chosen).build.value.mapError BuildError.blame
      = rules.build.value.mapError BuildError.blame := by
  rw [value_build, value_build, respell]
  rw [FirstError.mapError_bind, FirstError.mapError_bind,
    RuleTable.mapError_compile_respell]
  refine bind_congr fun http => ?_
  rw [FirstError.mapError_bind, FirstError.mapError_bind,
    RuleTable.mapError_compile_respell]

/-- Texts are normalized once and for all, so rules may be respelled: they
are built into the same snapshot, which answers and explains everything in
the same way, or fail at a rule of the same family and code for the same
cause. -/
theorem build_respell :
    (∀ s, Code.normalize (Code.normalize s) = Code.normalize s)
      ∧ (∀ s, Reason.normalize (Reason.normalize s) = Reason.normalize s)
      ∧ ∀ (rules : Ruleset) (chosen : Family → Code → Nat → Bool),
          (∀ snapshot, (rules.respell chosen).build.value = .ok snapshot
            ↔ rules.build.value = .ok snapshot)
          ∧ ∀ blame,
              (∃ error, (rules.respell chosen).build.value = .error error
                ∧ error.blame = blame)
              ↔ ∃ error, rules.build.value = .error error
                ∧ error.blame = blame := by
  refine ⟨Code.normalize_normalize, Reason.normalize_normalize,
    fun rules chosen => ⟨fun snapshot => ?_, fun blame => ?_⟩⟩
  · rw [← FirstError.mapError_eq_ok_iff BuildError.blame,
      mapError_build_respell, FirstError.mapError_eq_ok_iff]
  · rw [← FirstError.mapError_eq_error_iff, mapError_build_respell,
      FirstError.mapError_eq_error_iff]

end Ruleset

end FaultStatus
