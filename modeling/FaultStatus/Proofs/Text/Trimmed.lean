/-
Trimmed texts: those without blanks at their ends. To trim a text leaves one
of these (`isTrimmed_trim`), which is not trimmed any further
(`IsTrimmed.trim_eq`), and no small form of it has a blank at an end either,
as blanks are small forms of blanks only (`IsTrimmed.lower`).
-/
import FaultStatus.Proofs.Text.SmallForms
import Mathlib.Data.List.Basic

namespace FaultStatus.Text

/-- A text without blanks at its ends. -/
structure IsTrimmed (cs : List Char) : Prop where
  head : ∀ c, cs.head? = some c → isBlank c = false
  last : ∀ c, cs.getLast? = some c → isBlank c = false

theorem dropWhile_isBlank_of_head {cs : List Char}
    (h : ∀ c, cs.head? = some c → isBlank c = false) :
    cs.dropWhile isBlank = cs := by
  cases cs with
  | nil => rfl
  | cons c rest =>
      rw [List.dropWhile_cons, h c rfl]
      rfl

theorem head?_dropWhile_isBlank {cs : List Char} {c : Char}
    (h : (cs.dropWhile isBlank).head? = some c) : isBlank c = false := by
  have hhead := List.head?_dropWhile_not isBlank cs
  rw [h] at hhead
  exact hhead

theorem getLast?_of_getLast?_dropWhile {cs : List Char} {c : Char}
    (h : (cs.dropWhile isBlank).getLast? = some c) :
    cs.getLast? = some c := by
  rw [← List.takeWhile_append_dropWhile (p := isBlank) (l := cs),
    List.getLast?_append, h]
  rfl

theorem isTrimmed_trim (cs : List Char) : IsTrimmed (trim cs) := by
  unfold trim
  constructor
  · intro c hc
    rw [List.head?_reverse] at hc
    have hlast := getLast?_of_getLast?_dropWhile hc
    rw [List.getLast?_reverse] at hlast
    exact head?_dropWhile_isBlank hlast
  · intro c hc
    rw [List.getLast?_reverse] at hc
    exact head?_dropWhile_isBlank hc

namespace IsTrimmed

variable {cs : List Char} (h : IsTrimmed cs)

include h

theorem trim_eq : trim cs = cs := by
  have hreverse : ∀ c, cs.reverse.head? = some c → isBlank c = false := by
    intro c hc
    rw [List.head?_reverse] at hc
    exact h.last c hc
  rw [trim, dropWhile_isBlank_of_head h.head,
    dropWhile_isBlank_of_head hreverse, List.reverse_reverse]

theorem map {mark : Char → Char}
    (hmark : ∀ c, isBlank (mark c) = true → isBlank c = true) :
    IsTrimmed (cs.map mark) := by
  have hnot : ∀ c, isBlank c = false → isBlank (mark c) = false := by
    intro c hc
    rw [Bool.eq_false_iff] at hc ⊢
    exact mt (hmark c) hc
  constructor
  · intro d hd
    rw [List.head?_map] at hd
    obtain ⟨c, hc, rfl⟩ := Option.map_eq_some_iff.1 hd
    exact hnot c (h.head c hc)
  · intro d hd
    rw [List.getLast?_map] at hd
    obtain ⟨c, hc, rfl⟩ := Option.map_eq_some_iff.1 hd
    exact hnot c (h.last c hc)

end IsTrimmed

variable {cs : List Char} {d : Char} {afterCased : Bool}

/-- A blank at the beginning of a small form was there before. -/
theorem exists_head?_of_lowerAfter
    (h : (lowerAfter afterCased cs).head? = some d)
    (hblank : isBlank d = true) :
    ∃ c, cs.head? = some c ∧ isBlank c = true := by
  cases cs with
  | nil => cases h
  | cons c rest =>
      rw [lowerAfter_cons, List.head?_append_of_ne_nil _ smallAt_ne_nil] at h
      exact ⟨c, rfl, isBlank_of_mem_smallAt (List.mem_of_head? h) hblank⟩

/-- So was one at the end. -/
theorem exists_getLast?_of_lowerAfter
    (h : (lowerAfter afterCased cs).getLast? = some d)
    (hblank : isBlank d = true) :
    ∃ c, cs.getLast? = some c ∧ isBlank c = true := by
  induction cs generalizing afterCased with
  | nil => cases h
  | cons c rest ih =>
      rw [lowerAfter_cons] at h
      cases rest with
      | nil =>
          rw [lowerAfter, List.append_nil] at h
          exact ⟨c, rfl,
            isBlank_of_mem_smallAt (List.mem_of_getLast? h) hblank⟩
      | cons next rest =>
          rw [List.getLast?_append_of_ne_nil] at h
          · obtain ⟨e, he, hend⟩ := ih h
            exact ⟨e, by rw [List.getLast?_cons_cons, he], hend⟩
          · rw [lowerAfter_cons]
            exact List.append_ne_nil_of_left_ne_nil smallAt_ne_nil _

theorem IsTrimmed.lower (h : IsTrimmed cs) : IsTrimmed (lower cs) := by
  constructor
  · intro d hd
    rw [Bool.eq_false_iff]
    intro hblank
    obtain ⟨c, hc, hc'⟩ := exists_head?_of_lowerAfter hd hblank
    rw [h.head c hc] at hc'
    cases hc'
  · intro d hd
    rw [Bool.eq_false_iff]
    intro hblank
    obtain ⟨c, hc, hc'⟩ := exists_getLast?_of_lowerAfter hd hblank
    rw [h.last c hc] at hc'
    cases hc'

end FaultStatus.Text
