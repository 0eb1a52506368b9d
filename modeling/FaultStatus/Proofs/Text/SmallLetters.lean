/-
Which texts have small forms in ASCII. The table of capitals is in runs, and
a run either lies outside ASCII with its capitals and small letters alike, or
it is that of A to Z, or it holds the Kelvin sign alone, whose small letter
is k. So of all characters outside ASCII the Kelvin sign is the one that
lowering brings into it (`small_of_not_plain`), the dotted capital I keeping
its dot and a sigma staying Greek.

Texts of ASCII and Kelvin signs (`IsPlain`) are lowered character by
character; the small form of any other text has a character outside ASCII
(`ascii_lowerAfter_iff`).
-/
import FaultStatus.Text.Lowercase
import Mathlib.Tactic.SplitIfs

namespace FaultStatus.Text

-- ====================================================== the table of capitals

/-- A number is its own small letter, or it is that of a capital in a run and
its small letter lies as far into the small letters of the run. -/
theorem smallOf_cases (runs : List CapitalRun) (n : Nat) :
    smallOf runs n = n
      ∨ ∃ run ∈ runs, run.first ≤ n ∧ n ≤ run.last
          ∧ (n - run.first) % run.stride = 0
          ∧ smallOf runs n = run.small + (n - run.first) := by
  induction runs with
  | nil => exact Or.inl rfl
  | cons run rest ih =>
      rw [smallOf]
      split_ifs with hbefore hin hcapital
      · exact Or.inl rfl
      · exact Or.inr ⟨run, List.mem_cons_self, by omega, hin, hcapital, rfl⟩
      · exact Or.inl rfl
      · rcases ih with hsame | ⟨other, hmem, hother⟩
        · exact Or.inl hsame
        · exact Or.inr ⟨other, List.mem_cons_of_mem run hmem, hother⟩

/-- The small letters of a run are characters, none of them a surrogate. -/
theorem isValidChar_small : ∀ run ∈ capitalRuns,
    run.small + (run.last - run.first) < 0xd800
      ∨ (0xdfff < run.small
          ∧ run.small + (run.last - run.first) < 0x110000) := by
  decide +kernel

/-- Outside ASCII, one capital has a small letter of ASCII. -/
theorem small_not_ascii : ∀ run ∈ capitalRuns,
    128 ≤ run.small ∨ run.last < 128
      ∨ (run.first = 0x212a ∧ run.last = 0x212a) := by
  decide +kernel

theorem isValidChar_smallOf (c : Char) :
    (smallOf capitalRuns c.toNat).isValidChar := by
  rcases smallOf_cases capitalRuns c.toNat with
    hsame | ⟨run, hrun, hfirst, hlast, -, hsmall⟩
  · rw [hsame]
    exact c.valid
  · rw [hsmall]
    have hvalid := isValidChar_small run hrun
    unfold Nat.isValidChar
    omega

theorem toNat_ofNat_smallOf (c : Char) :
    (Char.ofNat (smallOf capitalRuns c.toNat)).toNat
      = smallOf capitalRuns c.toNat := by
  rw [Char.ofNat, dif_pos (isValidChar_smallOf c)]
  rfl

-- ========================================================= plain characters

/-- The sign U+212A, a capital of the small letter k. -/
def kelvinSign : Char := '\u212a'

/-- A character whose small form is in ASCII. -/
def IsPlain (c : Char) : Prop := c.toNat < 128 ∨ c = kelvinSign

instance (c : Char) : Decidable (IsPlain c) := by
  unfold IsPlain
  infer_instance

/-- The small form of a plain character. -/
def smallLetter (c : Char) : Char := if c = kelvinSign then 'k' else c.toLower

/-- What holds of ASCII, of the Kelvin sign and of the characters that are
not plain holds of all. -/
theorem forall_char {P : Char → Prop} (ascii : ∀ n < 128, P (Char.ofNat n))
    (kelvin : P kelvinSign) (other : ∀ c, ¬ IsPlain c → P c) (c : Char) :
    P c := by
  by_cases hplain : IsPlain c
  · rcases hplain with hascii | rfl
    · have hc := ascii c.toNat hascii
      rwa [Char.ofNat_toNat] at hc
    · exact kelvin
  · exact other c hplain

variable {c : Char}

theorem not_ascii_of_not_plain (h : ¬ IsPlain c) : 128 ≤ c.toNat := by
  unfold IsPlain at h
  omega

theorem IsPlain.ne {d : Char} (h : IsPlain c) (hd : ¬ IsPlain d) : c ≠ d := by
  intro heq
  rw [heq] at h
  exact hd h

theorem smallOf_ascii : ∀ n < 128,
    Char.ofNat (smallOf capitalRuns n) = (Char.ofNat n).toLower := by
  decide +kernel

theorem IsPlain.lowerChar (h : IsPlain c) :
    lowerChar c = [smallLetter c] := by
  rw [Text.lowerChar, if_neg (h.ne (by decide))]
  rcases h with hascii | rfl
  · have hkelvin : c ≠ kelvinSign := by
      intro heq
      rw [heq] at hascii
      exact absurd hascii (by decide)
    have hsmall := smallOf_ascii c.toNat hascii
    rw [Char.ofNat_toNat] at hsmall
    rw [hsmall, smallLetter, if_neg hkelvin]
  · decide +kernel

theorem smallLetter_of_not_capital (hkelvin : c ≠ kelvinSign)
    (h : c.toNat < 0x41 ∨ 0x5a < c.toNat) : smallLetter c = c := by
  rw [smallLetter, if_neg hkelvin]
  refine dif_neg fun hcapital => ?_
  have hfirst : 0x41 ≤ c.toNat := UInt32.le_iff_toNat_le.1 hcapital.1
  have hlast : c.toNat ≤ 0x5a := UInt32.le_iff_toNat_le.1 hcapital.2
  omega

theorem smallLetter_of_not_plain (h : ¬ IsPlain c) : smallLetter c = c := by
  have hascii := not_ascii_of_not_plain h
  have hkelvin : c ≠ kelvinSign := fun heq => h (Or.inr heq)
  exact smallLetter_of_not_capital hkelvin (by omega)

/-- Lowering brings no character into ASCII that is not plain. -/
theorem small_of_not_plain (h : ¬ IsPlain c) :
    128 ≤ smallOf capitalRuns c.toNat := by
  have hascii := not_ascii_of_not_plain h
  rcases smallOf_cases capitalRuns c.toNat with
    hsame | ⟨run, hrun, hfirst, hlast, -, hsmall⟩
  · omega
  · rcases small_not_ascii run hrun with hout | hin | ⟨hone, hend⟩
    · omega
    · omega
    · -- the run of the Kelvin sign holds nothing else
      exfalso
      apply h
      right
      have hnumber : c.toNat = kelvinSign.toNat := by
        show c.toNat = 0x212a
        omega
      exact Char.toNat_inj.1 hnumber

theorem exists_mem_lowerChar_of_not_plain (h : ¬ IsPlain c) :
    ∃ d ∈ Text.lowerChar c, 128 ≤ d.toNat := by
  unfold Text.lowerChar
  split_ifs with hdotted
  · exact ⟨'\u0307', by simp, by decide⟩
  · refine ⟨_, List.mem_singleton_self _, ?_⟩
    rw [toNat_ofNat_smallOf]
    exact small_of_not_plain h

-- ============================================================== plain texts

theorem ascii_smallLetter : IsPlain c → (smallLetter c).toNat < 128 := by
  refine forall_char (P := fun c => IsPlain c → (smallLetter c).toNat < 128)
    ?_ ?_ ?_ c
  · decide +kernel
  · decide +kernel
  · intro c hnot hplain
    exact absurd hplain hnot

/-- The small form of a plain text, character by character. -/
theorem lowerAfter_of_plain {cs : List Char} (h : ∀ c ∈ cs, IsPlain c)
    (afterCased : Bool) : lowerAfter afterCased cs = cs.map smallLetter := by
  induction cs generalizing afterCased with
  | nil => rfl
  | cons c cs ih =>
      have hc := h c List.mem_cons_self
      rw [lowerAfter, if_neg (hc.ne (by decide)), hc.lowerChar,
        ih fun d hd => h d (List.mem_cons_of_mem c hd)]
      rfl

/-- A small form is in ASCII if and only if the text is plain. -/
theorem ascii_lowerAfter_iff {cs : List Char} {afterCased : Bool} :
    (∀ d ∈ lowerAfter afterCased cs, d.toNat < 128)
      ↔ ∀ c ∈ cs, IsPlain c := by
  constructor
  · intro hascii
    induction cs generalizing afterCased with
    | nil =>
        intro c hc
        cases hc
    | cons c cs ih =>
        rw [lowerAfter] at hascii
        simp only [List.mem_append] at hascii
        intro d hd
        rcases List.mem_cons.1 hd with rfl | hd
        · by_cases hplain : IsPlain d
          · exact hplain
          · exfalso
            by_cases hsigma : d = 'Σ'
            · -- both small sigmas are outside ASCII
              rw [if_pos hsigma] at hascii
              have hsmall := hascii _ (Or.inl (List.mem_singleton_self _))
              split_ifs at hsmall <;> exact absurd hsmall (by decide)
            · rw [if_neg hsigma] at hascii
              obtain ⟨e, hmem, he⟩ := exists_mem_lowerChar_of_not_plain hplain
              have hsmall := hascii e (Or.inl hmem)
              omega
        · exact ih (fun e he => hascii e (Or.inr he)) d hd
  · intro hplain d hd
    rw [lowerAfter_of_plain hplain] at hd
    obtain ⟨c, hc, rfl⟩ := List.mem_map.1 hd
    exact ascii_smallLetter (hplain c hc)

end FaultStatus.Text
