/-
Two orders of texts that are one: by characters and by the bytes of UTF-8.
The bytes of a character are the digits of its number, the greatest first,
and the first of them grows with how many there are. So the lesser of two
characters has the lesser byte where their bytes first differ
(`utf8EncodeChar_append_lt`), and of two texts the one that comes first by
its characters comes first by its bytes (`lt_iff_bytes_lt`).
-/
import FaultStatus.Code
import FaultStatus.Proofs.Text.Utf8

namespace FaultStatus

namespace Text

open String (utf8EncodeChar)

-- ========================================================= one character

/-- A character has one byte to four, by its number. -/
theorem utf8EncodeChar_cases (c : Char) :
    c.toNat < 0x80 ∧ utf8EncodeChar c = [.ofNat c.toNat]
      ∨ (0x80 ≤ c.toNat ∧ c.toNat < 0x800)
        ∧ utf8EncodeChar c
          = [.ofNat (c.toNat / 64 + 0xc0), .ofNat (c.toNat % 64 + 0x80)]
      ∨ (0x800 ≤ c.toNat ∧ c.toNat < 0x10000)
        ∧ utf8EncodeChar c
          = [.ofNat (c.toNat / 4096 + 0xe0),
            .ofNat (c.toNat / 64 % 64 + 0x80), .ofNat (c.toNat % 64 + 0x80)]
      ∨ (0x10000 ≤ c.toNat ∧ c.toNat < 0x110000)
        ∧ utf8EncodeChar c
          = [.ofNat (c.toNat / 262144 + 0xf0),
            .ofNat (c.toNat / 4096 % 64 + 0x80),
            .ofNat (c.toNat / 64 % 64 + 0x80), .ofNat (c.toNat % 64 + 0x80)]
      := by
  have hmax : c.toNat < 0x110000 := by
    rcases c.valid with h | h
    · exact Nat.lt_trans h (by omega)
    · exact h.2
  by_cases h1 : c.toNat ≤ 0x7f
  · exact .inl ⟨by omega, if_pos h1⟩
  · by_cases h2 : c.toNat ≤ 0x7ff
    · refine .inr (.inl ⟨by omega, (if_neg h1).trans ((if_pos h2).trans ?_)⟩)
      show [UInt8.ofNat (c.toNat / 64 % 32 + 0xc0), _] = _
      rw [Nat.mod_eq_of_lt (by omega)]
      rfl
    · by_cases h3 : c.toNat ≤ 0xffff
      · refine .inr (.inr (.inl ⟨by omega,
          (if_neg h1).trans ((if_neg h2).trans ((if_pos h3).trans ?_))⟩))
        show [UInt8.ofNat (c.toNat / 4096 % 16 + 0xe0), _, _] = _
        rw [Nat.mod_eq_of_lt (by omega)]
        rfl
      · refine .inr (.inr (.inr ⟨by omega,
          (if_neg h1).trans ((if_neg h2).trans ((if_neg h3).trans ?_))⟩))
        show [UInt8.ofNat (c.toNat / 262144 % 8 + 0xf0), _, _, _] = _
        rw [Nat.mod_eq_of_lt (by omega)]
        rfl

theorem cons_ofNat_lt_cons_ofNat {m n : Nat} (hm : m < 256) (hn : n < 256)
    {more rest : List UInt8} :
    UInt8.ofNat m :: more < UInt8.ofNat n :: rest
      ↔ m < n ∨ m = n ∧ more < rest := by
  rw [List.cons_lt_cons_iff, UInt8.lt_iff_toNat_lt, ← UInt8.toNat_inj,
    UInt8.toNat_ofNat_of_lt' hm, UInt8.toNat_ofNat_of_lt' hn]

/-- The bytes of the lesser of two characters are less, whatever follows
them. -/
theorem utf8EncodeChar_append_lt {c d : Char} (h : c < d)
    (more rest : List UInt8) :
    utf8EncodeChar c ++ more < utf8EncodeChar d ++ rest := by
  have hlt : c.toNat < d.toNat := h
  rcases utf8EncodeChar_cases c with
    ⟨hc, hcs⟩ | ⟨hc, hcs⟩ | ⟨hc, hcs⟩ | ⟨hc, hcs⟩ <;>
  rcases utf8EncodeChar_cases d with
    ⟨hd, hds⟩ | ⟨hd, hds⟩ | ⟨hd, hds⟩ | ⟨hd, hds⟩ <;>
  · rw [hcs, hds]
    simp (disch := omega) only [List.cons_append, cons_ofNat_lt_cons_ofNat]
    omega

-- ================================================================= texts

/-- The bytes of a text in UTF-8. -/
def bytes (text : String) : List UInt8 := text.toByteArray.data.toList

theorem bytes_eq_flatMap (text : String) :
    bytes text = text.toList.flatMap utf8EncodeChar := by
  unfold bytes
  rw [← String.utf8Encode_toList, List.utf8Encode]
  simp

theorem flatMap_utf8EncodeChar_lt {cs ds : List Char} (h : cs < ds) :
    cs.flatMap utf8EncodeChar < ds.flatMap utf8EncodeChar := by
  induction h with
  | nil =>
    rw [List.flatMap_nil, List.flatMap_cons]
    obtain ⟨more, hmore⟩ := utf8EncodeChar_eq_leadByte_cons _
    rw [hmore]
    exact List.nil_lt_cons _ _
  | rel hlt =>
    rw [List.flatMap_cons, List.flatMap_cons]
    exact utf8EncodeChar_append_lt hlt _ _
  | cons _ ih =>
    rw [List.flatMap_cons, List.flatMap_cons]
    exact List.append_left_lt ih

/-- The order of texts is that of their bytes. -/
theorem lt_iff_bytes_lt {a b : String} : a < b ↔ bytes a < bytes b := by
  have hmono : ∀ {a b : String}, a < b → bytes a < bytes b := by
    intro a b h
    rw [bytes_eq_flatMap, bytes_eq_flatMap]
    exact flatMap_utf8EncodeChar_lt h
  refine ⟨hmono, fun h => ?_⟩
  -- the bytes being less, the texts are not equal or the other way round
  apply Decidable.byContradiction
  intro hnot
  by_cases hgt : b < a
  · exact List.lt_asymm h (hmono hgt)
  · have heq : a = b :=
      String.le_antisymm (String.not_lt.1 hgt) (String.not_lt.1 hnot)
    rw [heq] at h
    exact List.lt_irrefl _ h

end Text

/-- The order of codes is that of the bytes of their texts. -/
theorem Code.compare_eq_lt_iff {a b : Code} :
    compare a b = .lt ↔ Text.bytes a.text < Text.bytes b.text := by
  rw [← Text.lt_iff_bytes_lt]
  exact compareOfLessAndEq_eq_lt

end FaultStatus
