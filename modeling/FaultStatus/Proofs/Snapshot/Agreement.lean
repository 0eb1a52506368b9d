/-
One answer along every way of asking. A snapshot is asked for a status, for
both, for an explanation or for its written form, either itself or through a
holder, and the ways that lead to a status alone are ladders of their own
beside the one that explains (`value_explain`). All of them tell what the
explanation says (`Tells`, `answers_agree`).

An explanation that names a pattern has a rule to show for it: one for this
very code and family that spells the pattern, after which no other rule does,
and whose pieces the leading segments of the reason fit (`RuleHit`).
-/
import FaultStatus.Holder
import FaultStatus.Proofs.Compile.Tables
import FaultStatus.Proofs.PatternTree.Lookup

namespace FaultStatus

variable {V : Type}

-- ====================================================== the two ladders

theorem PatternTree.lookup_eq_map (tree : PatternTree V) (path : String) :
    tree.lookup path = (tree.lookupWithPattern path).map Prod.fst := by
  unfold lookup lookupWithPattern
  rw [Option.map_map]
  rfl

/-- The short way leads to the status that is explained. -/
theorem ResolutionTable.value_explain (table : ResolutionTable V)
    (code : Code) (reason : Reason) :
    (table.explain code reason).value = table.resolve code reason := by
  have hlook : table.trees[code]?.bind (·.lookup reason.text)
      = (table.trees[code]?.bind
          (·.lookupWithPattern reason.text)).map Prod.fst := by
    cases table.trees[code]? with
    | none => rfl
    | some tree => exact tree.lookup_eq_map reason.text
  unfold explain resolve
  rw [hlook, Std.TreeMap.getD_eq_getD_getElem?]
  cases table.overrides[code]? with
  | some value => rfl
  | none =>
      cases table.trees[code]?.bind (·.lookupWithPattern reason.text) with
      | some found => rfl
      | none => cases table.defaults[code]? <;> rfl

-- ================================================== what a hit rests on

/-- Each piece of the text is the wildcard or the segment at its place, there
being no more pieces than segments. -/
def Pattern.TextFits (text : String) (segments : List String) : Prop :=
  ∃ front rest, segments = front ++ rest
    ∧ List.Forall₂ (fun piece segment => piece = wildcardText
        ∨ piece = segment) (FaultStatus.pieces text) front

/-- Among the rules of a code, the last that spells the pattern leads to the
value, and the segments fit the pattern. -/
structure RuleHit (rules : List (PrefixRule V)) (segments : List String)
    (text : String) (value : V) : Prop where
  last : ∃ before rule after, rules = before ++ rule :: after
    ∧ Reason.normalize rule.pattern = text ∧ rule.value = value
    ∧ ∀ later ∈ after, Reason.normalize later.pattern ≠ text
  fits : Pattern.TextFits text segments

theorem Piece.forall₂_of_admitAll {row : List Piece} {segments : List String}
    (h : admitAll row segments = true) :
    ∃ front rest, segments = front ++ rest
      ∧ List.Forall₂ (fun piece segment => piece.text = wildcardText
          ∨ piece.text = segment) row front := by
  induction row generalizing segments with
  | nil => exact ⟨[], segments, rfl, .nil⟩
  | cons piece row ih =>
      cases segments with
      | nil => cases h
      | cons segment ahead =>
          simp only [admitAll, Bool.and_eq_true] at h
          obtain ⟨front, rest, rfl, hrow⟩ := ih h.2
          refine ⟨segment :: front, rest, rfl, .cons ?_ hrow⟩
          cases piece with
          | wildcard => exact Or.inl rfl
          | literal s =>
              have hs := h.1
              simp only [admits, beq_iff_eq] at hs
              exact Or.inr hs

theorem Pattern.textFits_of_admits {text : String} {pattern : Pattern}
    {segments : List String} (hparse : parse text = .ok pattern)
    (hadmits : pattern.admits segments = true) :
    TextFits text segments := by
  obtain ⟨htexts, -⟩ := parse_eq_ok_iff.1 hparse
  obtain ⟨front, rest, hsplit, hrow⟩ := Piece.forall₂_of_admitAll hadmits
  refine ⟨front, rest, hsplit, ?_⟩
  rw [← htexts, List.forall₂_map_left_iff]
  exact hrow

/-- The last insertion for a text, at its place among the others. -/
theorem PatternTree.exists_place_of_lastFor? {calls : List (String × V)}
    {text : String} {value : V} (h : lastFor? calls text = some value) :
    ∃ before after, calls = before ++ (text, value) :: after
      ∧ ∀ later ∈ after, later.1 ≠ text := by
  induction calls using List.reverseRecOn with
  | nil => cases h
  | append_singleton calls last ih =>
      rw [lastFor?_append_singleton] at h
      by_cases hlast : last.1 = text
      · rw [if_pos hlast] at h
        obtain ⟨text', value'⟩ := last
        cases h
        cases hlast
        exact ⟨calls, [], rfl, fun later hmem =>
          absurd hmem List.not_mem_nil⟩
      · rw [if_neg hlast] at h
        obtain ⟨before, after, rfl, hafter⟩ := ih h
        refine ⟨before, after ++ [last], by simp, fun later hmem => ?_⟩
        rcases List.mem_append.1 hmem with hmem | hmem
        · exact hafter later hmem
        · rw [List.mem_singleton.1 hmem]
          exact hlast

theorem ruleHit_of_lookupWithPattern {rules : List (PrefixRule V)}
    {path text : String} {value : V}
    (h : (PatternTree.empty.insertAll
        (rules.map PrefixRule.insertion)).lookupWithPattern path
      = some (value, text)) :
    RuleHit rules (leadingRun path) text value := by
  obtain ⟨pattern, hwins, htext, hlast⟩ :=
    PatternTree.wins_of_lookupWithPattern h
  constructor
  · obtain ⟨before, after, hsplit, hafter⟩ :=
      PatternTree.exists_place_of_lastFor? hlast
    obtain ⟨front, back, rfl, -, hback⟩ := List.map_eq_append_iff.1 hsplit
    obtain ⟨rule, back, rfl, hrule, rfl⟩ := List.map_eq_cons_iff.1 hback
    cases hrule
    exact ⟨front, rule, back, rfl, rfl, rfl, fun later hmem =>
      hafter later.insertion (List.mem_map_of_mem hmem)⟩
  · obtain ⟨hparse, -⟩ := PatternTree.stored_iff.1 hwins.competes.stored
    rw [htext] at hparse
    exact Pattern.textFits_of_admits hparse hwins.competes.fits

theorem ResolutionTable.lookup_of_prefixHit {table : ResolutionTable V}
    {code : Code} {reason : Reason} {text : String}
    (h : (table.explain code reason).source = .prefixHit text) :
    table.trees[code]?.bind (·.lookupWithPattern reason.text)
      = some ((table.explain code reason).value, text) := by
  unfold explain at h ⊢
  cases hoverride : table.overrides[code]? with
  | some value =>
      rw [hoverride] at h
      cases h
  | none =>
      cases hlook :
          table.trees[code]?.bind (·.lookupWithPattern reason.text) with
      | some found =>
          rw [hoverride, hlook] at h
          cases h
          rfl
      | none =>
          rw [hoverride, hlook] at h
          cases hdefault : table.defaults[code]? <;>
          · rw [hdefault] at h
            cases h

theorem RuleTable.ruleHit_of_compile {family : Family} {rules : RuleTable V}
    {table : ResolutionTable V}
    (h : (rules.compile family).run.value = .ok table)
    {code : Code} {reason : Reason} {text : String}
    (hsource : (table.explain code reason).source = .prefixHit text) :
    RuleHit (rules.prefixRulesFor code) (leadingRun reason.text) text
      (table.explain code reason).value := by
  have hlook := ResolutionTable.lookup_of_prefixHit hsource
  obtain ⟨-, -, -, -, htrees⟩ := compile_eq_ok h
  rw [htrees] at hlook
  unfold prefixRulesFor
  rw [Std.TreeMap.getD_eq_getD_getElem?]
  cases hrules : rules.prefixRules[code]? with
  | none =>
      rw [hrules] at hlook
      cases hlook
  | some list =>
      rw [hrules] at hlook
      exact ruleHit_of_lookupWithPattern hlook

-- ================================================== every way of asking

/-- Whatever a source is asked about the code and the reason of the
explanation, it tells what the explanation says, if the states are those at
the looks of the question. -/
structure StatusSource.Tells {σ : Type} [StatusSource σ] (states : Nat → σ)
    (explanation : Explanation) : Prop where
  http : (httpStatus explanation.code explanation.reason).run states
    = explanation.answers.http.value
  grpc : (grpcStatus explanation.code explanation.reason).run states
    = explanation.answers.grpc.value
  status : (status explanation.code explanation.reason).run states
    = { http := explanation.answers.http.value
        grpc := explanation.answers.grpc.value }
  explain : (explain explanation.code explanation.reason).run states
    = explanation.render

namespace Snapshot

/-- The snapshot comes from the rules: it is built from them, or both are
those that nothing was added to. -/
inductive ComesFrom (snapshot : Snapshot) (rules : Ruleset) : Prop where
  | built (built : rules.build.value = .ok snapshot)
  | builtIn (snapshot_eq : snapshot = .builtIn) (rules_eq : rules = .initial)

variable (snapshot : Snapshot) (code : Code) (reason : Reason)

theorem get_answers_explanation (family : Family) :
    (snapshot.explanation code reason).answers.get family
      = (snapshot.get family).explain code reason := by
  cases family <;> rfl

theorem httpStatus_eq : snapshot.httpStatus code reason
    = (snapshot.explanation code reason).answers.http.value :=
  (snapshot.http.value_explain code reason).symm

theorem grpcStatus_eq : snapshot.grpcStatus code reason
    = (snapshot.explanation code reason).answers.grpc.value :=
  (snapshot.grpc.value_explain code reason).symm

theorem status_eq : snapshot.status code reason
    = { http := (snapshot.explanation code reason).answers.http.value
        grpc := (snapshot.explanation code reason).answers.grpc.value } := by
  unfold status
  rw [httpStatus_eq, grpcStatus_eq]

variable {snapshot code reason} {rules : Ruleset}

theorem ruleHit_of_comesFrom (h : snapshot.ComesFrom rules)
    {family : Family} {text : String}
    (hsource : ((snapshot.explanation code reason).answers.get
      family).source = .prefixHit text) :
    RuleHit ((rules.get family).prefixRulesFor code)
      (leadingRun reason.text) text
      ((snapshot.explanation code reason).answers.get family).value := by
  rw [get_answers_explanation] at hsource ⊢
  cases h with
  | built built =>
      exact RuleTable.ruleHit_of_compile
        (Ruleset.build_eq_ok built family) hsource
  | builtIn snapshot_eq rules_eq =>
      -- there are no patterns yet, and so no hits
      subst snapshot_eq
      have hlook := ResolutionTable.lookup_of_prefixHit hsource
      cases family <;> cases hlook

/-- A snapshot, whatever it comes from, answers alike by itself and through a
holder that holds it when it is asked, by status and by explanation, and
where the explanation names a pattern there is a rule for it. -/
theorem answers_agree (snapshot : Snapshot) (code : Code)
    (reason : Reason) :
    snapshot.httpStatus code reason
        = (snapshot.explanation code reason).answers.http.value
      ∧ snapshot.grpcStatus code reason
        = (snapshot.explanation code reason).answers.grpc.value
      ∧ snapshot.status code reason
        = { http := snapshot.httpStatus code reason
            grpc := snapshot.grpcStatus code reason }
      ∧ (∀ {V : Type} (tree : PatternTree V) (path : String),
          tree.lookup path = (tree.lookupWithPattern path).map Prod.fst)
      ∧ StatusSource.Tells (fun _ => snapshot)
          (snapshot.explanation code reason)
      ∧ (∀ holders : Nat → Holder, (holders 0).current = snapshot →
          StatusSource.Tells holders (snapshot.explanation code reason))
      ∧ ∀ rules, snapshot.ComesFrom rules → ∀ family text,
          ((snapshot.explanation code reason).answers.get family).source
              = .prefixHit text →
            RuleHit ((rules.get family).prefixRulesFor code)
              (leadingRun reason.text) text
              ((snapshot.explanation code reason).answers.get
                family).value := by
  have hhttp := snapshot.httpStatus_eq code reason
  have hgrpc := snapshot.grpcStatus_eq code reason
  have hstatus := snapshot.status_eq code reason
  refine ⟨hhttp, hgrpc, rfl, fun tree path => tree.lookup_eq_map path, ?_,
    fun holders hfirst => ?_, fun rules hfrom family text hsource => ?_⟩
  · exact ⟨hhttp, hgrpc, hstatus, rfl⟩
  · -- a holder is looked at once, whatever it holds later
    subst hfirst
    exact ⟨hhttp, hgrpc, hstatus, rfl⟩
  · exact ruleHit_of_comesFrom hfrom hsource

/-- A pattern spelled in two ways, and a wider one after it. -/
def spelledTwice : Ruleset :=
  ((Ruleset.initial.addPrefix .http .timeout "storage.pg" 503).addPrefix
    .http .timeout " Storage/PG " 599).addPrefix .http .timeout "storage.*" 502

theorem ruleHit_spelledTwice :
    ∃ snapshot : Snapshot, spelledTwice.build.value = .ok snapshot
      ∧ RuleHit (spelledTwice.http.prefixRulesFor .timeout)
          (leadingRun "storage.pg.Connect") "storage.pg"
          (snapshot.httpStatus .timeout ⟨"storage.pg.Connect"⟩) := by
  have hsource : spelledTwice.build.value.map (fun snapshot =>
      (snapshot.explanation .timeout
        ⟨"storage.pg.Connect"⟩).answers.http.source)
      = .ok (.prefixHit "storage.pg") := by
    decide +kernel
  cases hbuild : spelledTwice.build.value with
  | error e =>
      rw [hbuild] at hsource
      cases hsource
  | ok snapshot =>
      rw [hbuild] at hsource
      obtain ⟨hhttp, -, -, -, -, -, hhit⟩ :=
        answers_agree snapshot .timeout ⟨"storage.pg.Connect"⟩
      refine ⟨snapshot, rfl, ?_⟩
      rw [hhttp]
      exact hhit spelledTwice (.built hbuild) .http "storage.pg"
        (Except.ok.inj hsource)

end Snapshot

end FaultStatus
