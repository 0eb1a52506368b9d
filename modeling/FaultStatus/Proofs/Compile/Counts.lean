/-
What the counts of a compiled table count. A table is asked for the sizes of
its parts, and the prefixes are the sizes of all its trees, one added to the
other. These are the numbers of things in the rules (`TableCounts.Measure`):
codes that have an override, codes that have a default, and patterns in
canonical spelling, each together with its code
(`RuleTable.measure_of_compile`).

A pattern that a code has twice, in whatever spellings, is in the code's tree
once, so that a tree's size is the number of different texts inserted
(`PatternTree.encard_stored`), provided all of them are patterns, which they
are in rules that are compiled. Patterns of different codes differ even if
their texts do not, which is why sizes add up (`encard_pairs`).
-/
import FaultStatus.Proofs.Compile.Tables
import FaultStatus.Proofs.PatternTree.Shape
import Mathlib.Data.Set.Card

namespace FaultStatus

-- ========================================================== pairs by key

section Pairs

variable {κ τ : Type} {texts : κ → Set τ} {size : κ → Nat}

/-- Things of different keys add up. -/
theorem encard_pairs {keys : List κ} (hkeys : keys.Nodup)
    (hsize : ∀ k, (texts k).encard = size k) :
    {pair : κ × τ | pair.1 ∈ keys ∧ pair.2 ∈ texts pair.1}.encard
      = keys.foldl (fun n k => n + size k) 0 := by
  induction keys using List.reverseRecOn with
  | nil => simp
  | append_singleton keys k ih =>
      obtain ⟨hold, -, hnew⟩ := List.nodup_append.1 hkeys
      have hsplit : {pair : κ × τ | pair.1 ∈ keys ++ [k]
            ∧ pair.2 ∈ texts pair.1}
          = {pair | pair.1 ∈ keys ∧ pair.2 ∈ texts pair.1}
            ∪ Prod.mk k '' texts k := by
        ext ⟨k', text⟩
        simp only [List.mem_append, List.mem_singleton, Set.mem_ofPred_eq,
          Set.mem_union, Set.mem_image, Prod.mk.injEq]
        constructor
        · rintro ⟨hmem | rfl, htext⟩
          · exact Or.inl ⟨hmem, htext⟩
          · exact Or.inr ⟨text, htext, rfl, rfl⟩
        · rintro (⟨hmem, htext⟩ | ⟨text, htext, rfl, rfl⟩)
          · exact ⟨Or.inl hmem, htext⟩
          · exact ⟨Or.inr rfl, htext⟩
      have hdisjoint : Disjoint
          {pair : κ × τ | pair.1 ∈ keys ∧ pair.2 ∈ texts pair.1}
          (Prod.mk k '' texts k) := by
        rw [Set.disjoint_left]
        rintro _ ⟨hmem, -⟩ ⟨text, -, rfl⟩
        exact hnew k hmem k List.mem_cons_self rfl
      rw [hsplit, Set.encard_union_eq hdisjoint, ih hold,
        (Prod.mk_right_injective k).encard_image, hsize, List.foldl_append]
      simp

end Pairs

/-- A table has as many entries as there are codes that it has one for. -/
theorem encard_codes {A : Type} (map : CodeMap A) :
    {code : Code | map[code]? ≠ none}.encard = map.size := by
  have hkeys : {code : Code | map[code]? ≠ none}
      = (map.keys.toFinset : Set Code) := by
    ext code
    rw [Finset.mem_coe, List.mem_toFinset, Std.TreeMap.mem_keys,
      Std.TreeMap.mem_iff_isSome_getElem?, Option.isSome_iff_ne_none]
    rfl
  rw [hkeys, Set.encard_coe_eq_coe_finsetCard,
    List.toFinset_card_of_nodup Std.TreeMap.nodup_keys,
    Std.TreeMap.length_keys]

-- ======================================================== the size of a tree

namespace PatternTree

variable {V : Type}

/-- The patterns that were inserted, each in the one text that stands for
it. -/
def stored (calls : List (String × V)) : Set String :=
  {text | Pattern.Acceptable text ∧ text ∈ calls.map Prod.fst}

/-- A tree counts the patterns that were inserted, each once. -/
theorem encard_stored (calls : List (String × V)) :
    (stored calls).encard = (empty.insertAll calls).size := by
  have htexts : stored calls = (((empty.insertAll calls).root.entries.map
      (·.2.pattern)).toFinset : Set String) := by
    ext text
    rw [Finset.mem_coe, List.mem_toFinset, mem_entries_insertAll,
      accepted_iff, Pattern.exists_parse_iff, lastFor?_ne_none_iff,
      ← List.mem_map]
    rfl
  rw [htexts, Set.encard_coe_eq_coe_finsetCard,
    List.toFinset_card_of_nodup (nodup_texts_insertAll calls),
    List.length_map, (wellFormed_insertAll calls).size_eq]

end PatternTree

-- =============================================================== the counts

section Measure

variable {V : Type}

/-- A code and a pattern of it, in canonical spelling. -/
def RuleTable.patterns (rules : RuleTable V) : Set (Code × String) :=
  {pair | ∃ rule ∈ rules.prefixRulesFor pair.1,
    Reason.normalize rule.pattern = pair.2}

/-- The counts are those of what is in the rules. -/
structure TableCounts.Measure (counts : TableCounts) (rules : RuleTable V) :
    Prop where
  overrides : {code | rules.overrideFor? code ≠ none}.encard
    = counts.overrides
  prefixes : rules.patterns.encard = counts.prefixes
  defaults : {code | rules.defaultFor? code ≠ none}.encard = counts.defaults

namespace RuleTable

variable {rules : RuleTable V} {family : Family} {table : ResolutionTable V}

/-- The insertions that a code's rules come to. -/
def insertionsFor (rules : RuleTable V) (code : Code) : List (String × V) :=
  (rules.prefixRulesFor code).map PrefixRule.insertion

/-- A tree of a compiled table is that of its code's insertions. -/
theorem tree_eq_insertAll
    (h : (rules.compile family).run.value = .ok table) {code : Code}
    {tree : PatternTree V} (htree : table.trees[code]? = some tree) :
    tree = .insertAll .empty (rules.insertionsFor code) := by
  obtain ⟨-, -, -, -, htrees⟩ := compile_eq_ok h
  rw [htrees, Option.map_eq_some_iff] at htree
  obtain ⟨list, hlist, rfl⟩ := htree
  rw [insertionsFor, prefixRulesFor, Std.TreeMap.getD_eq_getD_getElem?,
    hlist]
  rfl

/-- A code with rules has a tree. -/
theorem mem_keys_trees
    (h : (rules.compile family).run.value = .ok table) {code : Code}
    {rule : PrefixRule V} (hrule : rule ∈ rules.prefixRulesFor code) :
    code ∈ table.trees.keys := by
  obtain ⟨-, -, -, -, htrees⟩ := compile_eq_ok h
  have hlist := Std.TreeMap.mem_toList_iff_getElem?_eq_some.1
    (mem_toList_of_mem_prefixRulesFor hrule)
  rw [Std.TreeMap.mem_keys, Std.TreeMap.mem_iff_isSome_getElem?, htrees,
    hlist]
  rfl

theorem prefixCount_eq_foldl
    (h : (rules.compile family).run.value = .ok table) :
    table.prefixCount = table.trees.keys.foldl (fun n code =>
      n + (PatternTree.empty.insertAll (rules.insertionsFor code)).size)
        0 := by
  unfold ResolutionTable.prefixCount
  rw [Std.TreeMap.foldl_eq_foldl_toList,
    ← Std.TreeMap.map_fst_toList_eq_keys, List.foldl_map]
  apply List.foldl_ext
  intro n entry hentry
  rw [tree_eq_insertAll h
    (Std.TreeMap.mem_toList_iff_getElem?_eq_some.1 hentry)]

theorem patterns_eq (h : (rules.compile family).run.value = .ok table) :
    rules.patterns = {pair | pair.1 ∈ table.trees.keys
      ∧ pair.2 ∈ PatternTree.stored (rules.insertionsFor pair.1)} := by
  obtain ⟨haccepted, -⟩ := compile_eq_ok h
  ext ⟨code, text⟩
  unfold patterns PatternTree.stored insertionsFor
  simp only [Set.mem_ofPred_eq, List.map_map, List.mem_map]
  constructor
  · rintro ⟨rule, hrule, rfl⟩
    exact ⟨mem_keys_trees h hrule, haccepted code rule hrule, rule, hrule,
      rfl⟩
  · rintro ⟨-, -, rule, hrule, rfl⟩
    exact ⟨rule, hrule, rfl⟩

theorem measure_of_compile (h : (rules.compile family).run.value = .ok table) :
    table.counts.Measure rules := by
  obtain ⟨-, hoverrides, hdefaults, -⟩ := compile_eq_ok h
  refine ⟨?_, ?_, ?_⟩
  · unfold overrideFor?
    rw [← hoverrides]
    exact encard_codes table.overrides
  · rw [patterns_eq h, encard_pairs Std.TreeMap.nodup_keys fun code =>
      PatternTree.encard_stored (rules.insertionsFor code)]
    exact congrArg Nat.cast (prefixCount_eq_foldl h).symm
  · unfold defaultFor?
    rw [← hdefaults]
    exact encard_codes table.defaults

end RuleTable

/-- Rules that have the same codes and patterns have the same counts. -/
theorem TableCounts.Measure.eq_of_same {counts counts' : TableCounts}
    {rules rules' : RuleTable V} (h : counts.Measure rules)
    (h' : counts'.Measure rules')
    (hoverrides : ∀ code,
      rules.overrideFor? code ≠ none ↔ rules'.overrideFor? code ≠ none)
    (hpatterns : rules.patterns = rules'.patterns)
    (hdefaults : ∀ code,
      rules.defaultFor? code ≠ none ↔ rules'.defaultFor? code ≠ none) :
    counts = counts' := by
  have hoverride := h.overrides
  have hpattern := h.prefixes
  have hdefault := h.defaults
  rw [Set.ext hoverrides, h'.overrides, Nat.cast_inj] at hoverride
  rw [hpatterns, h'.prefixes, Nat.cast_inj] at hpattern
  rw [Set.ext hdefaults, h'.defaults, Nat.cast_inj] at hdefault
  cases counts
  cases counts'
  rw [TableCounts.mk.injEq]
  exact ⟨hoverride.symm, hpattern.symm, hdefault.symm⟩

end Measure

end FaultStatus
