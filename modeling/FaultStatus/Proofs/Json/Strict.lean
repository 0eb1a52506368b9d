/-
Strict reading takes in all that things are written as. The numerals of
natural numbers of 16 bits are far from what double precision cannot hold,
and the nesting of a written value is that of the value (`depth`). So a
value of plain tokens is read back from its text, and in strict reading
too if it is not nested too deep.
-/
import FaultStatus.Proofs.Json.Text

namespace FaultStatus

-- ============================================================== magnitude

namespace Numeral

theorem le_ofDigitChars (n : Nat) (digits : List Char) :
    n ≤ Nat.ofDigitChars 10 digits n := by
  induction digits generalizing n with
  | nil => exact Nat.le_refl n
  | cons c digits ih =>
      rw [Nat.ofDigitChars_cons]
      have hle := ih (10 * n + (c.toNat - '0'.toNat))
      omega

theorem absorb_eq {n : Nat} {digits : List Char}
    (h : Nat.ofDigitChars 10 digits n < UInt64.size) :
    absorb n digits = (Nat.ofDigitChars 10 digits n, []) := by
  induction digits generalizing n with
  | nil => rfl
  | cons c digits ih =>
      rw [Nat.ofDigitChars_cons] at h ⊢
      have hle := le_ofDigitChars (10 * n + (c.toNat - '0'.toNat)) digits
      rw [absorb, if_pos (Nat.lt_of_le_of_lt hle h)]
      exact ih h

theorem toDouble_of_lt {n : Nat} (h : n < UInt16.size) : toDouble n = n := by
  have hshift : n.log2 - 52 = 0 := by
    by_cases hn : n = 0
    · rw [hn]
      decide
    · have hlog : n.log2 < 16 := (Nat.log2_lt hn).2 h
      omega
  unfold toDouble
  rw [hshift]
  simp [Nat.mod_one]

/-- A natural number of 16 bits is not too great. -/
theorem overflows_ofNat {n : Nat} (h : n < UInt16.size) :
    (ofNat n).overflows = false := by
  have hvalue : Nat.ofDigitChars 10 (Nat.toDigits 10 n) 0 = n :=
    Nat.ofDigitChars_ten_toDigits
  have hdigits : absorb 0 (Nat.toDigits 10 n) = (n, []) := by
    rw [absorb_eq, hvalue]
    rw [hvalue]
    exact Nat.lt_trans h (by decide)
  have hone : toDouble (Nat.pow 10 0) = 1 := by decide +kernel
  have hlimit : UInt16.size < doubleOverflow := by decide +kernel
  have hfits : ¬ doubleOverflow ≤ toDouble n * toDouble (Nat.pow 10 0) := by
    rw [hone, toDouble_of_lt h]
    omega
  have hoverflows : (ofNat n).overflows = (decide (n ≠ 0)
      && decide (0 ≤ (0 : Int)) && (decide (308 < (0 : Int))
        || decide (doubleOverflow
          ≤ toDouble n * toDouble (Nat.pow 10 0)))) := by
    unfold overflows ofNat
    rw [hdigits]
    rfl
  rw [hoverflows, decide_eq_false hfits]
  simp

end Numeral

namespace Json

theorem Token.isSound_of_isPlain {token : Token} (h : token.IsPlain) :
    token.isSound = true := by
  cases token with
  | number n =>
      obtain ⟨k, hk, rfl⟩ := h
      rw [isSound, Numeral.overflows_ofNat hk]
      rfl
  | string text? => exact h
  | openArray | closeArray | openObject | closeObject | comma | colon
  | null | bool => rfl

-- ================================================================ nesting

mutual

/-- The number of arrays and objects around the innermost part of a
value. -/
def depth : Json → Nat
  | array items => itemsDepth items + 1
  | object fields => fieldsDepth fields + 1
  | _ => 0

/-- The greatest depth of an item. -/
def itemsDepth : List Json → Nat
  | [] => 0
  | item :: rest => max (depth item) (itemsDepth rest)

/-- The greatest depth of the value of a field. -/
def fieldsDepth : List (Option String × Json) → Nat
  | [] => 0
  | (_, value) :: rest => max (depth value) (fieldsDepth rest)

end

mutual

theorem nestsWithin_tokens (value : Json) {limit around : Nat}
    (h : around + value.depth ≤ limit) (row : List Token) :
    nestsWithin limit around (value.tokens ++ row)
      = nestsWithin limit around row := by
  match value with
  | .null | .bool _ | .number _ | .string _ =>
      rw [tokens]
      rfl
  | .array items =>
      rw [depth] at h
      have hitems := nestsWithin_itemTokens items
        (show around + 1 + itemsDepth items ≤ limit by omega)
        (Token.closeArray :: row)
      rw [tokens]
      show (decide (around < limit) && nestsWithin limit (around + 1)
        (itemTokens items ++ [Token.closeArray] ++ row)) = _
      rw [List.append_assoc, decide_eq_true (by omega), Bool.true_and]
      exact hitems
  | .object fields =>
      rw [depth] at h
      have hfields := nestsWithin_fieldTokens fields
        (show around + 1 + fieldsDepth fields ≤ limit by omega)
        (Token.closeObject :: row)
      rw [tokens]
      show (decide (around < limit) && nestsWithin limit (around + 1)
        (fieldTokens fields ++ [Token.closeObject] ++ row)) = _
      rw [List.append_assoc, decide_eq_true (by omega), Bool.true_and]
      exact hfields

theorem nestsWithin_itemTokens (items : List Json) {limit around : Nat}
    (h : around + itemsDepth items ≤ limit) (row : List Token) :
    nestsWithin limit around (itemTokens items ++ row)
      = nestsWithin limit around row := by
  match items with
  | [] => rfl
  | [item] =>
      rw [itemsDepth] at h
      rw [itemTokens]
      exact nestsWithin_tokens item (by omega) row
  | item :: next :: rest =>
      rw [itemsDepth] at h
      have hrest := nestsWithin_itemTokens (next :: rest)
        (show around + itemsDepth (next :: rest) ≤ limit by omega) row
      rw [itemTokens_cons_cons, List.append_assoc,
        nestsWithin_tokens item (by omega)]
      exact hrest

theorem nestsWithin_fieldTokens (fields : List (Option String × Json))
    {limit around : Nat} (h : around + fieldsDepth fields ≤ limit)
    (row : List Token) :
    nestsWithin limit around (fieldTokens fields ++ row)
      = nestsWithin limit around row := by
  match fields with
  | [] => rfl
  | [(key, value)] =>
      rw [fieldsDepth] at h
      rw [fieldTokens]
      exact nestsWithin_tokens value (by omega) row
  | (key, value) :: next :: rest =>
      rw [fieldsDepth] at h
      have hrest := nestsWithin_fieldTokens (next :: rest)
        (show around + fieldsDepth (next :: rest) ≤ limit by omega) row
      rw [fieldTokens_cons_cons]
      show nestsWithin limit around
        ((value.tokens ++ .comma :: fieldTokens (next :: rest)) ++ row) = _
      rw [List.append_assoc, nestsWithin_tokens value (by omega)]
      exact hrest

end

-- ================================================================= reading

/-- Every token of the value is one that things are written with. -/
def IsPlain (value : Json) : Prop := ∀ token ∈ value.tokens, token.IsPlain

theorem lex_render {value : Json} (h : value.IsPlain) :
    lex value.render.toList = some value.tokens := by
  unfold render
  rw [String.toList_ofList]
  exact lex_tokens h

theorem read?_render {value : Json} (h : value.IsPlain) :
    read? value.render = some value := by
  unfold read?
  rw [lex_render h]
  exact ofTokens?_tokens value

theorem readStrict?_render {value : Json} (h : value.IsPlain)
    (hdepth : value.depth ≤ maxNesting) :
    readStrict? value.render = some value := by
  have hsound : value.tokens.all Token.isSound = true :=
    List.all_eq_true.2 fun token hmem =>
      Token.isSound_of_isPlain (h token hmem)
  have hnests : nestsWithin maxNesting 0 value.tokens = true := by
    rw [← List.append_nil value.tokens,
      nestsWithin_tokens value (by omega)]
    rfl
  unfold readStrict?
  rw [lex_render h]
  show (if (value.tokens.all Token.isSound
    && nestsWithin maxNesting 0 value.tokens) = true then _ else none) = _
  rw [hsound, hnests]
  exact ofTokens?_tokens value

end Json

end FaultStatus
