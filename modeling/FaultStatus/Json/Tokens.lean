/-
The tokens of a JSON text, blanks between them being skipped. Every token
holds at least one character, which is why reading them ends.
-/
import FaultStatus.Json.Token

namespace FaultStatus.Json

-- ================================================ what reading leaves over

theorem readItems_length {cs : List Char} {items : List Item}
    {rest : List Char} (h : readItems cs = some (items, rest)) :
    rest.length < cs.length := by
  fun_induction readItems cs generalizing items rest with
  | case1 => cases h
  | case2 r => cases h; simp
  | case3 a b c d r ih =>
    simp only [bind, Option.bind_eq_some_iff] at h
    obtain ⟨n, -, ⟨is, r'⟩, hr, h⟩ := h
    cases h
    have := ih hr
    simp only [List.length_cons]
    omega
  | case4 c r _ ih =>
    simp only [bind, Option.bind_eq_some_iff] at h
    obtain ⟨n, -, ⟨is, r'⟩, hr, h⟩ := h
    cases h
    have := ih hr
    simp only [List.length_cons]
    omega
  | case5 => cases h
  | case6 c r _ _ _ _ ih =>
    simp only [bind, Option.bind_eq_some_iff] at h
    obtain ⟨⟨is, r'⟩, hr, h⟩ := h
    cases h
    have := ih hr
    simp only [List.length_cons]
    omega

theorem readDigits?_length {cs digits rest : List Char}
    (h : readDigits? cs = some (digits, rest)) :
    rest.length < cs.length := by
  unfold readDigits? at h
  split at h
  · cases h
  next c ds htake =>
    cases h
    have hsum := congrArg List.length
      (List.takeWhile_append_dropWhile (p := Char.isDigit) (l := cs))
    rw [htake] at hsum
    simp only [List.length_append, List.length_cons] at hsum
    omega

theorem readFraction?_length {cs digits rest : List Char}
    (h : readFraction? cs = some (digits, rest)) :
    rest.length ≤ cs.length := by
  unfold readFraction? at h
  split at h
  · have := readDigits?_length h
    simp only [List.length_cons]
    omega
  · cases h
    exact Nat.le_refl _

theorem readSign_length (cs : List Char) :
    (readSign cs).2.length ≤ cs.length := by
  unfold readSign
  split <;> simp

theorem readPower?_length {cs rest : List Char} {e : Int}
    (h : readPower? cs = some (e, rest)) : rest.length < cs.length := by
  simp only [readPower?, bind, Option.bind_eq_some_iff] at h
  obtain ⟨⟨digits, r⟩, hdigits, h⟩ := h
  cases h
  exact Nat.lt_of_lt_of_le (readDigits?_length hdigits)
    (readSign_length cs)

theorem readExponent?_length {cs rest : List Char} {e? : Option Int}
    (h : readExponent? cs = some (e?, rest)) :
    rest.length ≤ cs.length := by
  unfold readExponent? at h
  split at h
  · cases h
    exact Nat.le_refl _
  · split at h
    · obtain ⟨⟨e, r⟩, he, h⟩ := Option.map_eq_some_iff.1 h
      cases h
      have := readPower?_length he
      simp only [List.length_cons]
      omega
    · cases h
      exact Nat.le_refl _

theorem readMinus_length (cs : List Char) :
    (readMinus cs).2.length ≤ cs.length := by
  unfold readMinus
  split <;> simp

theorem readNumeral?_length {cs rest : List Char} {n : Numeral}
    (h : readNumeral? cs = some (n, rest)) : rest.length < cs.length := by
  simp only [readNumeral?, bind, Option.bind_eq_some_iff] at h
  obtain ⟨⟨whole, r₁⟩, hwhole, ⟨fraction, r₂⟩, hfraction,
    ⟨exponent, r₃⟩, hexponent, h⟩ := h
  cases h
  have hdigits := readDigits?_length (Option.eq_some_of_filter_eq_some hwhole)
  have hminus := readMinus_length cs
  have hfraction := readFraction?_length hfraction
  have hexponent := readExponent?_length hexponent
  dsimp only at hdigits hfraction hexponent ⊢
  omega

/-- A token holds at least one character. -/
theorem next?_length {cs rest : List Char} {token : Token}
    (h : Token.next? cs = some (token, rest)) :
    rest.length < cs.length := by
  unfold Token.next? at h
  split at h
  case h_10 =>
    simp only [bind, Option.bind_eq_some_iff] at h
    obtain ⟨⟨items, r⟩, hitems, h⟩ := h
    cases h
    have := readItems_length hitems
    simp only [List.length_cons]
    omega
  case h_11 =>
    obtain ⟨⟨n, r⟩, hn, h⟩ := Option.map_eq_some_iff.1 h
    cases h
    exact readNumeral?_length hn
  all_goals
    cases h
    simp only [List.length_cons]
    omega

-- ================================================================= lexing

/-- The characters that may stand between tokens. -/
def isTokenBlank (c : Char) : Bool :=
  c == ' ' || c == '\t' || c == '\n' || c == '\r'

/-- Reads the tokens of a text after those that are `done`, the last one
of these first. -/
def lexAfter (done : List Token) (cs : List Char) : Option (List Token) :=
  match _h : cs.dropWhile isTokenBlank with
  | [] => some done.reverse
  | c :: ahead =>
    match _hnext : Token.next? (c :: ahead) with
    | none => none
    | some (token, rest) => lexAfter (token :: done) rest
termination_by cs.length
decreasing_by
  have hlt := next?_length _hnext
  have hle := (List.dropWhile_suffix isTokenBlank (l := cs)).length_le
  rw [_h] at hle
  omega

/-- The tokens of a text. -/
def lex (cs : List Char) : Option (List Token) := lexAfter [] cs

end FaultStatus.Json
