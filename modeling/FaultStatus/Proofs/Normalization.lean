/-
Normalizing twice is normalizing once. The three steps leave a text on which
none of them has anything left to do: it has no blanks at its ends
(`IsTrimmed`), since small forms have none but the blanks that were there; it
is made of small characters, which are lowered to themselves whatever stands
around them; and its marks are settled characters, which no step changes
(`SettlesMarks`). That marks are replaced last, and may come to stand between
letters as case-ignorable full stops, therefore has no effect on the letters.
-/
import FaultStatus.Proofs.Spelling

namespace FaultStatus

namespace Text

-- ================================================================== marks

/-- A way of replacing characters that brings in settled ones only, and lets
these be. -/
structure SettlesMarks (mark : Char → Char) : Prop where
  settles : ∀ c, mark c = c ∨ IsSettled (mark c)
  keeps : ∀ c, IsSettled c → mark c = c

namespace SettlesMarks

variable {mark : Char → Char} (h : SettlesMarks mark)

include h

theorem mark_mark (c : Char) : mark (mark c) = mark c := by
  rcases h.settles c with hsame | hsettled
  · rw [hsame, hsame]
  · exact h.keeps _ hsettled

theorem isSmall_mark {c : Char} (hc : IsSmall c) : IsSmall (mark c) := by
  rcases h.settles c with hsame | hsettled
  · rwa [hsame]
  · exact hsettled.isSmall

theorem isBlank_of_mark (c : Char) (hblank : isBlank (mark c) = true) :
    isBlank c = true := by
  rcases h.settles c with hsame | hsettled
  · rwa [hsame] at hblank
  · rw [hsettled.not_isBlank] at hblank
    cases hblank

/-- A text that was trimmed, lowered and marked is not changed by any of it
again. -/
theorem normalized_again (cs : List Char) :
    (Text.lower (trim ((Text.lower (trim cs)).map mark))).map mark
      = (Text.lower (trim cs)).map mark := by
  have htrimmed : IsTrimmed ((Text.lower (trim cs)).map mark) :=
    (isTrimmed_trim cs).lower.map h.isBlank_of_mark
  have hsmall : ∀ c ∈ (Text.lower (trim cs)).map mark, IsSmall c := by
    intro d hd
    obtain ⟨c, hc, rfl⟩ := List.mem_map.1 hd
    exact h.isSmall_mark (isSmall_of_mem_lowerAfter hc)
  have hmark : mark ∘ mark = mark := funext h.mark_mark
  rw [htrimmed.trim_eq, Text.lower, lowerAfter_of_small hsmall,
    List.map_map, hmark]

end SettlesMarks

end Text

open Text

-- ======================================================= codes and reasons

theorem Code.settlesMarks :
    SettlesMarks fun c => if c = '-' then '_' else c := by
  constructor
  · intro c
    by_cases hdash : c = '-'
    · rw [if_pos hdash]
      exact Or.inr (Or.inl rfl)
    · exact Or.inl (if_neg hdash)
  · intro c hc
    exact if_neg (hc.ne (by decide))

theorem Reason.settlesMarks : SettlesMarks normalizeMark := by
  constructor
  · intro c
    unfold normalizeMark
    split_ifs with hslash hdash
    · exact Or.inr (Or.inr rfl)
    · exact Or.inr (Or.inl rfl)
    · exact Or.inl rfl
  · intro c hc
    rw [normalizeMark, if_neg (hc.ne (by decide)),
      if_neg (hc.ne (by decide))]

theorem Code.normalize_normalize (s : String) :
    normalize (normalize s) = normalize s := by
  unfold normalize
  rw [String.toList_ofList]
  exact congrArg String.ofList (Code.settlesMarks.normalized_again s.toList)

theorem Reason.normalize_normalize (s : String) :
    normalize (normalize s) = normalize s := by
  unfold normalize
  rw [String.toList_ofList]
  exact congrArg String.ofList
    (Reason.settlesMarks.normalized_again s.toList)

/-- The full stop that a slash becomes is passed over where a sigma looks for
its neighbours, as no slash is; the sigma is as small as before. -/
example : Reason.normalize "ΑΣ/Α" = "ας.α"
    ∧ Reason.normalize "ας.α" = "ας.α" := by
  decide +kernel

end FaultStatus
