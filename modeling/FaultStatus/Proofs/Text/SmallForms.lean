/-
Small forms stay as they are. A character of a small form is either the
character that was lowered, which then has no other small form, or it comes
out of the table of small letters or is one of the few that have a rule of
their own; and of these none is a capital, a sigma in want of its place, or a
blank (`mem_smallAt_cases`). So a small form can be lowered again wherever it
stands and whatever is put next to it (`lowerAfter_of_small`).

That no small letter is a capital is a property of the table. It is computed
run by run: the small letters of a run lie outside the other runs, or in the
gaps of one that holds every second number (`CapitalRun.Interleaves`).
-/
import FaultStatus.Proofs.Text.SmallLetters
import FaultStatus.Text.Blank

namespace FaultStatus.Text

-- ====================================================== the table of capitals

/-- The capitals of the other run leave every second number out, and the
small letters of the run can only be there. -/
def CapitalRun.Interleaves (run other : CapitalRun) : Prop :=
  other.stride = 2 ∧ (run.stride = 2 ∨ run.first = run.last)
    ∧ (run.small + other.first) % 2 = 1

instance (run other : CapitalRun) : Decidable (run.Interleaves other) := by
  unfold CapitalRun.Interleaves
  infer_instance

/-- Whether no small letter of the run is a capital of ascending runs. As
there are many runs, the numbers are compared by `Nat.blt`. -/
def CapitalRun.clearOf (run : CapitalRun) : List CapitalRun → Bool
  | [] => true
  | other :: rest =>
    Nat.blt (run.small + (run.last - run.first)) other.first
      || ((Nat.blt other.last run.small || run.Interleaves other)
        && run.clearOf rest)

theorem clearOf_capitalRuns :
    ∀ run ∈ capitalRuns, run.clearOf capitalRuns = true := by
  decide +kernel

/-- The small letters of a run have no small letters in the runs that it is
clear of. -/
theorem smallOf_of_clearOf {run : CapitalRun} {runs : List CapitalRun}
    (h : run.clearOf runs = true) {k : Nat} (hk : k ≤ run.last - run.first)
    (hstride : k % run.stride = 0) :
    smallOf runs (run.small + k) = run.small + k := by
  induction runs with
  | nil => rfl
  | cons other rest ih =>
      simp only [CapitalRun.clearOf, Bool.or_eq_true, Bool.and_eq_true,
        Nat.blt_eq, decide_eq_true_eq] at h
      rw [smallOf]
      split_ifs with hbefore hin hcapital
      · rfl
      · -- the letter would have to stand between two capitals and on one
        exfalso
        rcases h with hout | ⟨hout | hgaps, -⟩
        · omega
        · omega
        · obtain ⟨htwo, hpace, hparity⟩ := hgaps
          rw [htwo] at hcapital
          rcases hpace with hpace | hpace
          · rw [hpace] at hstride
            omega
          · omega
      · rfl
      · rcases h with hout | ⟨-, hrest⟩
        · omega
        · exact ih hrest

/-- The small letters of a run keep away from the two capitals with a rule of
their own, U+0130 and U+03A3, and from the blanks. -/
theorem small_outside : ∀ run ∈ capitalRuns,
    ∀ range ∈ (0x130, 0x130) :: (0x3a3, 0x3a3) :: blankRanges,
      run.small + (run.last - run.first) < range.1
        ∨ range.2 < run.small := by
  decide +kernel

theorem exists_range_of_covers {ranges : List (Nat × Nat)} {n : Nat}
    (h : covers ranges n = true) :
    ∃ range ∈ ranges, range.1 ≤ n ∧ n ≤ range.2 := by
  induction ranges with
  | nil => cases h
  | cons range rest ih =>
      simp only [covers, Bool.and_eq_true, Bool.or_eq_true,
        decide_eq_true_eq] at h
      obtain ⟨hfirst, hlast | hrest⟩ := h
      · exact ⟨range, List.mem_cons_self, hfirst, hlast⟩
      · obtain ⟨other, hmem, hother⟩ := ih hrest
        exact ⟨other, List.mem_cons_of_mem range hmem, hother⟩

-- =========================================================== small characters

/-- A character that is its own small form, wherever it stands. -/
def IsSmall (c : Char) : Prop := c ≠ 'Σ' ∧ lowerChar c = [c]

instance (c : Char) : Decidable (IsSmall c) := by
  unfold IsSmall
  infer_instance

/-- A small letter of a run is small, and no blank. -/
theorem isSmall_of_run {run : CapitalRun} (hrun : run ∈ capitalRuns) {k : Nat}
    (hk : k ≤ run.last - run.first) (hstride : k % run.stride = 0) {d : Char}
    (hd : d.toNat = run.small + k) : IsSmall d ∧ isBlank d = false := by
  have houtside := small_outside run hrun
  have hapart : ∀ range ∈ (0x130, 0x130) :: (0x3a3, 0x3a3) :: blankRanges,
      ¬ (range.1 ≤ d.toNat ∧ d.toNat ≤ range.2) := by
    intro range hrange ⟨hfirst, hlast⟩
    rcases houtside range hrange with hout | hout
    · omega
    · omega
  have hdotted : d ≠ 'İ' := by
    rintro rfl
    exact hapart _ List.mem_cons_self (by decide)
  have hsigma : d ≠ 'Σ' := by
    rintro rfl
    exact hapart _ (List.mem_cons_of_mem _ List.mem_cons_self) (by decide)
  refine ⟨⟨hsigma, ?_⟩, ?_⟩
  · rw [lowerChar, if_neg hdotted, hd,
      smallOf_of_clearOf (clearOf_capitalRuns run hrun) hk hstride, ← hd,
      Char.ofNat_toNat]
  · rw [← Bool.not_eq_true]
    intro hblank
    obtain ⟨range, hrange, hin⟩ := exists_range_of_covers hblank
    exact hapart range
      (List.mem_cons_of_mem _ (List.mem_cons_of_mem _ hrange)) hin

/-- The small form of a character in its place, `rest` being what follows. -/
def smallAt (afterCased : Bool) (c : Char) (rest : List Char) : List Char :=
  if c = 'Σ' then
    [if afterCased && !startsCased rest then 'ς' else 'σ']
  else lowerChar c

theorem lowerAfter_cons (afterCased : Bool) (c : Char) (rest : List Char) :
    lowerAfter afterCased (c :: rest) = smallAt afterCased c rest
      ++ lowerAfter (if isCaseIgnorable c then afterCased else isCased c)
        rest := rfl

variable {afterCased : Bool} {c d : Char} {rest : List Char}

theorem smallAt_ne_nil : smallAt afterCased c rest ≠ [] := by
  unfold smallAt lowerChar
  split_ifs <;> exact List.cons_ne_nil _ _

/-- A small form consists of the character itself, or of small characters
that are no blanks. -/
theorem mem_smallAt_cases (h : d ∈ smallAt afterCased c rest) :
    (d = c ∧ IsSmall c) ∨ (IsSmall d ∧ isBlank d = false) := by
  unfold smallAt at h
  split_ifs at h with hsigma hfinal
  · right
    rw [List.mem_singleton.1 h]
    decide +kernel
  · right
    rw [List.mem_singleton.1 h]
    decide +kernel
  · unfold lowerChar at h
    split_ifs at h with hdotted
    · right
      rcases List.mem_cons.1 h with rfl | h
      · decide +kernel
      · rw [List.mem_singleton.1 h]
        decide +kernel
    · have hd := List.mem_singleton.1 h
      rcases smallOf_cases capitalRuns c.toNat with
        hsame | ⟨run, hrun, hfirst, hlast, hstride, hsmall⟩
      · left
        rw [hsame, Char.ofNat_toNat] at hd
        refine ⟨hd, hsigma, ?_⟩
        rw [lowerChar, if_neg hdotted, hsame, Char.ofNat_toNat]
      · right
        refine isSmall_of_run hrun (by omega) hstride ?_
        rw [hd, toNat_ofNat_smallOf, hsmall]

theorem isSmall_of_mem_smallAt (h : d ∈ smallAt afterCased c rest) :
    IsSmall d := by
  rcases mem_smallAt_cases h with ⟨rfl, hsmall⟩ | ⟨hsmall, -⟩
  · exact hsmall
  · exact hsmall

theorem isBlank_of_mem_smallAt (h : d ∈ smallAt afterCased c rest)
    (hblank : isBlank d = true) : isBlank c = true := by
  rcases mem_smallAt_cases h with ⟨rfl, -⟩ | ⟨-, hnot⟩
  · exact hblank
  · rw [hnot] at hblank
    cases hblank

-- ================================================================ small texts

variable {cs : List Char}

theorem isSmall_of_mem_lowerAfter (h : d ∈ lowerAfter afterCased cs) :
    IsSmall d := by
  induction cs generalizing afterCased with
  | nil => cases h
  | cons c rest ih =>
      rw [lowerAfter_cons, List.mem_append] at h
      rcases h with h | h
      · exact isSmall_of_mem_smallAt h
      · exact ih h

/-- Small characters are lowered to themselves, whatever stands around
them. -/
theorem lowerAfter_of_small (h : ∀ c ∈ cs, IsSmall c) (afterCased : Bool) :
    lowerAfter afterCased cs = cs := by
  induction cs generalizing afterCased with
  | nil => rfl
  | cons c rest ih =>
      obtain ⟨⟨hsigma, hself⟩, hrest⟩ := List.forall_mem_cons.1 h
      rw [lowerAfter_cons, smallAt, if_neg hsigma, hself, ih hrest]
      rfl

end FaultStatus.Text
