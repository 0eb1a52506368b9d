/-
Compiling rules into a snapshot. The pattern of each rule is brought into
the spelling of reasons and stored in the tree of its code. The first rule
whose pattern is none ends the compilation: HTTP comes before gRPC, the
codes of a family come in ascending order, and the rules of a code in the
order in which they were added. The log is told of that rule where it is
met, and of the tables once both are there.
-/
import FaultStatus.Log

namespace FaultStatus

namespace PatternTree

variable {V : Type}

/-- The tree after one more rule. The log is told of a rule that is
refused. -/
def addRule (family : Family) (code : Code) (tree : PatternTree V)
    (rule : PrefixRule V) : ExceptT BuildError Logged (PatternTree V) := do
  match tree.insert (Reason.normalize rule.pattern) rule.value with
  | (.ok (), tree) => return tree
  | (.error cause, _) =>
    Logged.tell (.ruleRejected family code rule.pattern cause)
    throw { family, code, pattern := rule.pattern, cause }

/-- The tree of a code's rules. -/
def ofRules (family : Family) (code : Code) (rules : List (PrefixRule V)) :
    ExceptT BuildError Logged (PatternTree V) :=
  rules.foldlM (addRule family code) empty

end PatternTree

/-- Compiles the rules of one family. -/
def RuleTable.compile {V : Type} (family : Family) (rules : RuleTable V) :
    ExceptT BuildError Logged (ResolutionTable V) := do
  let trees ← rules.prefixRules.toList.mapM fun (code, list) =>
    return (code, ← PatternTree.ofRules family code list)
  return {
    overrides := rules.overrides
    trees := .ofList trees
    defaults := rules.defaults
    fallback := rules.fallback }

/-- Compiles the rules of both families and tells the log what there is in
them. -/
def Ruleset.build (rules : Ruleset) :
    Logged (Except BuildError Snapshot) := ExceptT.run do
  let http ← rules.http.compile .http
  let grpc ← rules.grpc.compile .grpc
  Logged.tell (.built http.counts grpc.counts)
  return { http, grpc }

/-- Compiles the rules that a configuration adds to the built-in ones. -/
def Snapshot.ofDirectives (directives : List Directive) :
    Logged (Except BuildError Snapshot) :=
  (Ruleset.initial.applyAll directives).build

end FaultStatus
