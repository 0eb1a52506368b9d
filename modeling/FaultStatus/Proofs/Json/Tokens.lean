/-
A written token is read back, whatever text follows it: a string because
its closing quote is the first that stands without a backslash, a numeral
if what follows cannot go on with it (`EndsNumeral`), the other tokens in
any case.

Only the tokens that things are written with are considered (`IsPlain`):
strings that have a text and numerals of natural numbers of 16 bits.
-/
import FaultStatus.Json.Tokens
import Mathlib.Tactic.SplitIfs

namespace FaultStatus.Json

-- ================================================================ strings

/-- The way in which a character is written inside a string. -/
def itemOf (c : Char) : Item :=
  if c.toNat < 0x20 ∧ c ∉ ['\x08', '\x0c', '\n', '\r', '\t'] then
    .unit c.toNat
  else .char c

theorem hexDigit?_digitChar : ∀ d < 16, hexDigit? (Nat.digitChar d) = some d := by
  decide

theorem hexUnit?_control {n : Nat} (h : n < 0x20) :
    hexUnit? '0' '0' (Nat.digitChar (n / 16)) (Nat.digitChar (n % 16))
      = some n := by
  have hhigh := hexDigit?_digitChar (n / 16) (by omega)
  have hlow := hexDigit?_digitChar (n % 16) (by omega)
  have hzero : hexDigit? '0' = some 0 := by decide
  simp only [hexUnit?, hhigh, hlow, hzero, bind, Option.bind_some, pure,
    Option.some.injEq]
  omega

/-- What is read where one more item comes first. -/
def prepend (item : Item) (read? : Option (List Item × List Char)) :
    Option (List Item × List Char) :=
  read?.map fun (items, rest) => (item :: items, rest)

theorem readItems_shortEscape {mark c : Char} (hmark : mark ≠ 'u')
    (h : shortEscape? mark = some c) (rest : List Char) :
    readItems ('\\' :: mark :: rest) = prepend (.char c) (readItems rest) := by
  rw [readItems, h]
  · cases readItems rest <;> rfl
  · intro _ _ _ _ _ hu
    exact absurd hu hmark

theorem readItems_unit {a b c d : Char} {n : Nat}
    (h : hexUnit? a b c d = some n) (rest : List Char) :
    readItems ('\\' :: 'u' :: a :: b :: c :: d :: rest)
      = prepend (.unit n) (readItems rest) := by
  rw [readItems, h]
  cases readItems rest <;> rfl

theorem readItems_char {c : Char} (hquote : c ≠ '"') (hslash : c ≠ '\\')
    (hcontrol : ¬ c.toNat < 0x20) (rest : List Char) :
    readItems (c :: rest) = prepend (.char c) (readItems rest) := by
  rw [readItems, if_neg hcontrol]
  · cases readItems rest <;> rfl
  · exact hquote
  · intro _ _ _ _ _ hc
    exact absurd hc hslash
  · intro _ _ hc
    exact absurd hc hslash

theorem readItems_escapeChar (c : Char) (rest : List Char) :
    readItems (escapeChar c ++ rest)
      = prepend (itemOf c) (readItems rest) := by
  unfold escapeChar
  split_ifs with hquote hslash hback hfeed hline hreturn htab hcontrol
  · subst hquote
    exact readItems_shortEscape (by decide) rfl rest
  · subst hslash
    exact readItems_shortEscape (by decide) rfl rest
  · subst hback
    exact readItems_shortEscape (by decide) rfl rest
  · subst hfeed
    exact readItems_shortEscape (by decide) rfl rest
  · subst hline
    exact readItems_shortEscape (by decide) rfl rest
  · subst hreturn
    exact readItems_shortEscape (by decide) rfl rest
  · subst htab
    exact readItems_shortEscape (by decide) rfl rest
  · have hitem : itemOf c = .unit c.toNat :=
      if_pos ⟨hcontrol, by simp [hback, hfeed, hline, hreturn, htab]⟩
    rw [hitem]
    exact readItems_unit (hexUnit?_control hcontrol) rest
  · have hitem : itemOf c = .char c := if_neg fun h => hcontrol h.1
    rw [hitem]
    exact readItems_char hquote hslash hcontrol rest

theorem readItems_escapeText (cs : List Char) (rest : List Char) :
    readItems (cs.flatMap escapeChar ++ '"' :: rest)
      = some (cs.map itemOf, rest) := by
  induction cs with
  | nil => rfl
  | cons c cs ih =>
      rw [List.flatMap_cons, List.append_assoc, readItems_escapeChar, ih]
      rfl

theorem joinItems_itemOf (c : Char) (items : List Item) :
    joinItems none (itemOf c :: items)
      = (joinItems none items).map (c :: ·) := by
  unfold itemOf
  split_ifs with hunit
  · -- a control character is no half of a surrogate pair
    have hhigh : isHighSurrogate c.toNat = false := by
      simp only [isHighSurrogate, Bool.and_eq_false_iff,
        decide_eq_false_iff_not]
      omega
    have hlow : isLowSurrogate c.toNat = false := by
      simp only [isLowSurrogate, Bool.and_eq_false_iff,
        decide_eq_false_iff_not]
      omega
    rw [joinItems, hhigh, hlow, Char.ofNat_toNat]
    rfl
  · rw [joinItems]
    rfl

theorem joinItems_map_itemOf (cs : List Char) :
    joinItems none (cs.map itemOf) = some cs := by
  induction cs with
  | nil => rfl
  | cons c cs ih =>
      rw [List.map_cons, joinItems_itemOf, ih]
      rfl

-- =============================================================== numerals

/-- Text that does not go on with a numeral before it. -/
def EndsNumeral (cs : List Char) : Prop :=
  ∀ c rest, cs = c :: rest →
    c.isDigit = false ∧ c ≠ '.' ∧ c ≠ 'e' ∧ c ≠ 'E'

theorem endsNumeral_nil : EndsNumeral [] := by
  intro c rest h
  cases h

theorem isDigit_of_mem_toDigits {c : Char} {n : Nat}
    (h : c ∈ Nat.toDigits 10 n) : c.isDigit = true :=
  Nat.isDigit_of_mem_toDigits (by decide) (by decide) h

theorem exists_toDigits_eq_cons (n : Nat) :
    ∃ d ds, Nat.toDigits 10 n = d :: ds ∧ d.isDigit = true := by
  cases hdigits : Nat.toDigits 10 n with
  | nil => exact absurd hdigits Nat.toDigits_ne_nil
  | cons d ds =>
      exact ⟨d, ds, rfl,
        isDigit_of_mem_toDigits (hdigits ▸ List.mem_cons_self)⟩

theorem readDigits?_toDigits (n : Nat) {rest : List Char}
    (h : EndsNumeral rest) :
    readDigits? (Nat.toDigits 10 n ++ rest)
      = some (Nat.toDigits 10 n, rest) := by
  have htake : rest.takeWhile Char.isDigit = [] := by
    cases rest with
    | nil => rfl
    | cons c rest => rw [List.takeWhile_cons, (h c rest rfl).1]; rfl
  have hdrop : rest.dropWhile Char.isDigit = rest := by
    cases rest with
    | nil => rfl
    | cons c rest => rw [List.dropWhile_cons, (h c rest rfl).1]; rfl
  unfold readDigits?
  rw [List.takeWhile_append_of_pos fun c hc => isDigit_of_mem_toDigits hc,
    List.dropWhile_append_of_pos fun c hc => isDigit_of_mem_toDigits hc,
    htake, hdrop, List.append_nil]
  obtain ⟨d, ds, hdigits, -⟩ := exists_toDigits_eq_cons n
  rw [hdigits]

theorem toDigits_no_leading_zero (n : Nat) :
    Nat.toDigits 10 n = ['0'] ∨ (Nat.toDigits 10 n).head? ≠ some '0' := by
  induction n using Nat.strongRecOn with
  | ind n ih =>
      by_cases hn : n < 10
      · rw [Nat.toDigits_of_lt_base hn]
        have hall : ∀ d < 10, [Nat.digitChar d] = ['0']
            ∨ [Nat.digitChar d].head? ≠ some '0' := by
          decide
        exact hall n hn
      · right
        rw [Nat.toDigits_of_base_le (by omega) (by omega)]
        rcases ih (n / 10) (by omega) with hzero | hhead
        · have hvalue := congrArg (Nat.ofDigitChars 10 · 0) hzero
          have hnone : Nat.ofDigitChars 10 ['0'] 0 = 0 := by decide
          simp only [Nat.ofDigitChars_ten_toDigits, hnone] at hvalue
          omega
        · obtain ⟨d, ds, hdigits, -⟩ := exists_toDigits_eq_cons (n / 10)
          rw [hdigits] at hhead ⊢
          exact hhead

theorem readMinus_of_isDigit {d : Char} (h : d.isDigit = true)
    (cs : List Char) : readMinus (d :: cs) = (false, d :: cs) := by
  unfold readMinus
  split
  next heq =>
    cases heq
    cases h
  next => rfl

theorem numeralChars_ofNat (n : Nat) :
    numeralChars (.ofNat n) = Nat.toDigits 10 n := by
  simp [numeralChars, Numeral.ofNat]

theorem readNumeral?_ofNat (n : Nat) {rest : List Char}
    (h : EndsNumeral rest) :
    readNumeral? (numeralChars (.ofNat n) ++ rest)
      = some (.ofNat n, rest) := by
  have hminus : readMinus (Nat.toDigits 10 n ++ rest)
      = (false, Nat.toDigits 10 n ++ rest) := by
    obtain ⟨d, ds, hdigits, hd⟩ := exists_toDigits_eq_cons n
    rw [hdigits]
    exact readMinus_of_isDigit hd (ds ++ rest)
  have hwhole : readWhole? (Nat.toDigits 10 n ++ rest)
      = some (Nat.toDigits 10 n, rest) := by
    unfold readWhole?
    rw [readDigits?_toDigits n h]
    have hzero := toDigits_no_leading_zero n
    simp [Option.filter, hzero]
  have hfraction : readFraction? rest = some ([], rest) := by
    unfold readFraction?
    split
    next => exact absurd rfl (h _ _ rfl).2.1
    next => rfl
  have hexponent : readExponent? rest = some (none, rest) := by
    cases rest with
    | nil => rfl
    | cons c rest =>
        obtain ⟨-, -, hsmall, hcapital⟩ := h c rest rfl
        rw [readExponent?, if_neg (by simp [hsmall, hcapital])]
  simp only [readNumeral?, numeralChars_ofNat, hminus, hwhole, hfraction, hexponent,
    bind, Option.bind_some, pure]
  rfl

-- ================================================================= tokens

namespace Token

/-- A token that things are written with. -/
def IsPlain : Token → Prop
  | number n => ∃ k < UInt16.size, n = .ofNat k
  | string text? => text?.isSome = true
  | _ => True

/-- Whether a token is a numeral. -/
def isNumber : Token → Bool
  | number _ => true
  | _ => false

theorem next?_of_isDigit {d : Char} (h : d.isDigit = true)
    (cs : List Char) : next? (d :: cs)
      = (readNumeral? (d :: cs)).map fun (n, rest) => (number n, rest) := by
  unfold next?
  split
  case h_11 => rfl
  all_goals
    next heq =>
      cases heq
      cases h

theorem next?_string (s : String) (rest : List Char) :
    next? ((string (some s)).chars ++ rest)
      = some (string (some s), rest) := by
  show (do
    let (items, rest) ← readItems
      ((s.toList.flatMap escapeChar ++ ['"']) ++ rest)
    return (string ((joinItems none items).map String.ofList), rest)) = _
  rw [List.append_assoc]
  show (do
    let (items, rest) ← readItems
      (s.toList.flatMap escapeChar ++ '"' :: rest)
    return (string ((joinItems none items).map String.ofList), rest)) = _
  rw [readItems_escapeText]
  show some (string ((joinItems none (s.toList.map itemOf)).map
    String.ofList), rest) = _
  rw [joinItems_map_itemOf, Option.map_some, String.ofList_toList]

theorem next?_number (n : Nat) {rest : List Char} (h : EndsNumeral rest) :
    next? ((number (.ofNat n)).chars ++ rest)
      = some (number (.ofNat n), rest) := by
  obtain ⟨d, ds, hdigits, hd⟩ := exists_toDigits_eq_cons n
  have hchars : numeralChars (.ofNat n) = d :: ds := by
    rw [numeralChars_ofNat, hdigits]
  have hread := readNumeral?_ofNat n h
  show next? (numeralChars (.ofNat n) ++ rest) = _
  rw [hchars] at hread ⊢
  rw [List.cons_append, next?_of_isDigit hd, ← List.cons_append, hread]
  rfl

/-- A token that things are written with is read back; behind a numeral the
text has to end it. -/
theorem next?_chars {token : Token} (hplain : token.IsPlain)
    {rest : List Char} (hrest : token.isNumber = true → EndsNumeral rest) :
    next? (token.chars ++ rest) = some (token, rest) := by
  cases token with
  | number n =>
      obtain ⟨k, -, rfl⟩ := hplain
      exact next?_number k (hrest rfl)
  | string text? =>
      cases text? with
      | none => cases hplain
      | some s => exact next?_string s rest
  | bool b => cases b <;> rfl
  | openArray | closeArray | openObject | closeObject | comma | colon
  | null => rfl

end Token

end FaultStatus.Json
