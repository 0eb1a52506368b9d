/-
Quoted text is read back in one way. One character inside the quotes is
read off the front of whatever follows (`unquoteChar?_quoteChar`), and the
closing quote is read as none, as every other quote stands behind a
backslash. So the quoted text says by itself where it ends, and two texts
that are written alike up to there are the same
(`quoteChars_append_inj`).

A quoted text also stays on its line: no unprintable character is written as
itself (`printable_quote`), and all controls are unprintable.
-/
import FaultStatus.Text.Quoted
import Mathlib.Tactic.SplitIfs

namespace FaultStatus.Text

-- ======================================================== hexadecimal

/-- The value of a digit of a numbered character. -/
def hexValue (c : Char) : Nat :=
  if c.isDigit then c.toNat - '0'.toNat else c.toNat - 'a'.toNat + 10

/-- The number that a row of hexadecimal digits stands for. -/
def readHex (digits : List Char) : Nat :=
  digits.foldl (fun n c => 16 * n + hexValue c) 0

theorem hexValue_digitChar :
    ∀ d < 16, hexValue (Nat.digitChar d) = d := by
  decide

theorem readHex_append_singleton (digits : List Char) (c : Char) :
    readHex (digits ++ [c]) = 16 * readHex digits + hexValue c := by
  unfold readHex
  rw [List.foldl_append]
  rfl

theorem readHex_toDigits (n : Nat) : readHex (Nat.toDigits 16 n) = n := by
  induction n using Nat.strongRecOn with
  | ind n ih =>
      by_cases hn : n < 16
      · rw [Nat.toDigits_of_lt_base hn, ← List.nil_append [n.digitChar],
          readHex_append_singleton, hexValue_digitChar n hn]
        show 16 * 0 + n = n
        omega
      · have hlt : n / 16 < n := by omega
        rw [Nat.toDigits_of_base_le (by omega) (by omega),
          readHex_append_singleton, ih (n / 16) hlt,
          hexValue_digitChar (n % 16) (by omega)]
        omega

theorem exists_digitChar_of_mem_toDigits {c : Char} {n : Nat}
    (h : c ∈ Nat.toDigits 16 n) : ∃ d < 16, c = Nat.digitChar d := by
  induction n using Nat.strongRecOn with
  | ind n ih =>
      by_cases hn : n < 16
      · rw [Nat.toDigits_of_lt_base hn] at h
        exact ⟨n, hn, List.mem_singleton.1 h⟩
      · rw [Nat.toDigits_of_base_le (by omega) (by omega)] at h
        rcases List.mem_append.1 h with h | h
        · exact ih (n / 16) (by omega) h
        · exact ⟨n % 16, by omega, List.mem_singleton.1 h⟩

theorem digitChar_ne_brace : ∀ d < 16, Nat.digitChar d ≠ '\x7d' := by
  decide

-- ============================================================ reading

/-- The character that a named escape stands for. -/
def named? : Char → Option Char
  | '"' => some '"'
  | '\\' => some '\\'
  | '0' => some '\x00'
  | 't' => some '\t'
  | 'r' => some '\r'
  | 'n' => some '\n'
  | _ => none

/-- The character that comes first inside quotes, and what follows it; none
where the quotes close. -/
def unquoteChar? : List Char → Option (Char × List Char)
  | [] => none
  | '"' :: _ => none
  | '\\' :: 'u' :: '\x7b' :: ahead =>
    some (Char.ofNat (readHex (ahead.takeWhile (· != '\x7d'))),
      (ahead.dropWhile (· != '\x7d')).tail)
  | '\\' :: c :: rest => (named? c).map fun c => (c, rest)
  | c :: rest => some (c, rest)

theorem unquoteChar?_of_plain {c : Char} (hquote : c ≠ '"')
    (hslash : c ≠ '\\') (rest : List Char) :
    unquoteChar? (c :: rest) = some (c, rest) := by
  unfold unquoteChar?
  split
  case h_5 heq =>
      cases heq
      rfl
  all_goals simp_all

theorem unquoteChar?_numbered (c : Char) (rest : List Char) :
    unquoteChar? (numbered c ++ rest) = some (c, rest) := by
  have hdigits : ∀ d ∈ Nat.toDigits 16 c.toNat, (d != '\x7d') = true := by
    intro d hd
    obtain ⟨k, hk, rfl⟩ := exists_digitChar_of_mem_toDigits hd
    exact bne_iff_ne.2 (digitChar_ne_brace k hk)
  show some (Char.ofNat (readHex (((Nat.toDigits 16 c.toNat
      ++ ['\x7d']) ++ rest).takeWhile (· != '\x7d'))),
    ((((Nat.toDigits 16 c.toNat ++ ['\x7d']) ++ rest).dropWhile
      (· != '\x7d')).tail)) = _
  rw [List.append_assoc, List.takeWhile_append_of_pos hdigits,
    List.dropWhile_append_of_pos hdigits]
  show some (Char.ofNat (readHex (Nat.toDigits 16 c.toNat ++ [])), rest) = _
  rw [List.append_nil, readHex_toDigits, Char.ofNat_toNat]

/-- A character inside quotes is read back, whatever follows it. -/
theorem unquoteChar?_quoteChar (c : Char) (rest : List Char) :
    unquoteChar? (quoteChar c ++ rest) = some (c, rest) := by
  unfold quoteChar
  split_ifs with hquote hslash hnul htab hreturn hline hmark
  · rw [hquote]
    rfl
  · rw [hslash]
    rfl
  · rw [hnul]
    rfl
  · rw [htab]
    rfl
  · rw [hreturn]
    rfl
  · rw [hline]
    rfl
  · exact unquoteChar?_numbered c rest
  · exact unquoteChar?_of_plain hquote hslash rest

theorem inside_append_inj {cs ds xs ys : List Char}
    (h : cs.flatMap quoteChar ++ '"' :: xs
      = ds.flatMap quoteChar ++ '"' :: ys) : cs = ds ∧ xs = ys := by
  induction cs generalizing ds with
  | nil =>
      cases ds with
      | nil =>
          cases h
          exact ⟨rfl, rfl⟩
      | cons d ds =>
          have hread := congrArg unquoteChar? h
          rw [List.flatMap_cons, List.append_assoc,
            unquoteChar?_quoteChar] at hread
          cases hread
  | cons c cs ih =>
      have hread := congrArg unquoteChar? h
      rw [List.flatMap_cons, List.append_assoc,
        unquoteChar?_quoteChar] at hread
      cases ds with
      | nil => cases hread
      | cons d ds =>
          rw [List.flatMap_cons, List.append_assoc,
            unquoteChar?_quoteChar] at hread
          obtain ⟨hchar, hrest⟩ := Prod.mk.inj (Option.some.inj hread)
          obtain ⟨rfl, hxs⟩ := ih hrest
          exact ⟨by rw [hchar], hxs⟩

/-- Neither the texts nor what follows the quotes can differ where the
whole is the same. -/
theorem quoteChars_append_inj {cs ds xs ys : List Char}
    (h : quoteChars cs ++ xs = quoteChars ds ++ ys) : cs = ds ∧ xs = ys := by
  simp only [quoteChars, List.cons_append, List.append_assoc,
    List.cons.injEq, true_and] at h
  exact inside_append_inj h

theorem toList_quote (s : String) : (quote s).toList = quoteChars s.toList :=
  String.toList_ofList

theorem quote_append_inj {s t : String} {xs ys : List Char}
    (h : (quote s).toList ++ xs = (quote t).toList ++ ys) :
    s = t ∧ xs = ys := by
  rw [toList_quote, toList_quote] at h
  obtain ⟨htext, hrest⟩ := quoteChars_append_inj h
  exact ⟨String.toList_injective htext, hrest⟩

/-- Two texts that are followed by the first character of its kind are
followed by it at the same place. -/
theorem append_cons_inj_of_not_mem {c : Char} {cs ds xs ys : List Char}
    (hcs : c ∉ cs) (hds : c ∉ ds) (h : cs ++ c :: xs = ds ++ c :: ys) :
    cs = ds ∧ xs = ys := by
  induction cs generalizing ds with
  | nil =>
      cases ds with
      | nil =>
          cases h
          exact ⟨rfl, rfl⟩
      | cons d ds =>
          cases h
          exact absurd List.mem_cons_self hds
  | cons e cs ih =>
      cases ds with
      | nil =>
          cases h
          exact absurd List.mem_cons_self hcs
      | cons d ds =>
          obtain ⟨rfl, hrest⟩ := List.cons.inj h
          obtain ⟨rfl, hxs⟩ := ih (mt (List.mem_cons_of_mem _) hcs)
            (mt (List.mem_cons_of_mem _) hds) hrest
          exact ⟨rfl, hxs⟩

/-- Different numbers are written with different digits. -/
theorem toString_injective {m n : Nat} (h : toString m = toString n) :
    m = n := by
  have hdigits := congrArg (fun text => Nat.ofDigitChars 10 text.toList 0) h
  simpa only [Nat.toString_eq_repr, Nat.toList_repr,
    Nat.ofDigitChars_ten_toDigits] using hdigits

-- ============================================================ one line

/-- Text of characters that quotes show as themselves or as a part of an
escape. -/
def Printable (cs : List Char) : Prop := ∀ c ∈ cs, isUnprintable c = false

instance (cs : List Char) : Decidable (Printable cs) :=
  List.decidableBAll (fun c => isUnprintable c = false) cs

theorem Printable.append {cs ds : List Char} (hcs : Printable cs)
    (hds : Printable ds) : Printable (cs ++ ds) :=
  List.forall_mem_append.2 ⟨hcs, hds⟩

theorem covers_of_firstTwo {a b c d n : Nat} {rest : List (Nat × Nat)}
    (hfirst : a ≤ n) (h : n ≤ b ∨ (c ≤ n ∧ n ≤ d)) :
    covers ((a, b) :: (c, d) :: rest) n = true := by
  simp only [covers, Bool.and_eq_true, Bool.or_eq_true, decide_eq_true_eq]
  omega

theorem covers_between_firstTwo {a b c d n : Nat} {rest : List (Nat × Nat)}
    (hlow : b < n) (hhigh : n < c) :
    covers ((a, b) :: (c, d) :: rest) n = false := by
  simp only [covers, Bool.and_eq_false_iff, Bool.or_eq_false_iff,
    decide_eq_false_iff_not]
  omega

/-- The marks, digits and letters of ASCII are printable. -/
theorem isUnprintable_of_ascii {c : Char} (hlow : 0x20 ≤ c.toNat)
    (hhigh : c.toNat ≤ 0x7e) : isUnprintable c = false :=
  -- the table begins with U+0000 to U+001F and U+007F to U+00A0
  covers_between_firstTwo hlow (Nat.lt_succ_of_le hhigh)

theorem printable_toString (n : Nat) : Printable (toString n).toList := by
  intro c hc
  rw [Nat.toString_eq_repr, Nat.toList_repr] at hc
  have hdigit := Nat.isDigit_of_mem_toDigits (by decide) (by decide) hc
  simp only [Char.isDigit, Bool.and_eq_true, decide_eq_true_eq, ge_iff_le,
    UInt32.le_iff_toNat_le] at hdigit
  have hlow : 48 ≤ c.toNat := hdigit.1
  have hhigh : c.toNat ≤ 57 := hdigit.2
  exact isUnprintable_of_ascii (by omega) (by omega)

theorem digitChar_printable :
    ∀ d < 16, isUnprintable (Nat.digitChar d) = false := by
  decide

theorem printable_numbered (c : Char) : Printable (numbered c) := by
  have hdigits : Printable (Nat.toDigits 16 c.toNat) := by
    intro d hd
    obtain ⟨k, hk, rfl⟩ := exists_digitChar_of_mem_toDigits hd
    exact digitChar_printable k hk
  have hmark : Printable ['\\', 'u', '\x7b'] := by decide
  have hbrace : Printable ['\x7d'] := by decide
  exact hmark.append (hdigits.append hbrace)

theorem printable_quoteChar (c : Char) : Printable (quoteChar c) := by
  unfold quoteChar
  split_ifs with hquote hslash hnul htab hreturn hline hmark
  · decide
  · decide
  · decide
  · decide
  · decide
  · decide
  · exact printable_numbered c
  · intro d hd
    rw [List.mem_singleton.1 hd]
    exact Bool.eq_false_iff.2 hmark

theorem printable_quote (s : String) : Printable (quote s).toList := by
  have hquote : Printable ['"'] := by decide
  have hinside : Printable (s.toList.flatMap quoteChar) := by
    intro c hc
    obtain ⟨d, -, hd⟩ := List.mem_flatMap.1 hc
    exact printable_quoteChar d c hd
  rw [toList_quote]
  exact hquote.append (hinside.append hquote)

/-- A control character: one of the general category Cc. -/
def isControl (c : Char) : Bool := covers [(0x0, 0x1f), (0x7f, 0x9f)] c.toNat

theorem isControl_iff {c : Char} : isControl c = true
    ↔ c.toNat ≤ 0x1f ∨ (0x7f ≤ c.toNat ∧ c.toNat ≤ 0x9f) := by
  simp [isControl, covers]

theorem isUnprintable_of_isControl {c : Char} (h : isControl c = true) :
    isUnprintable c = true := by
  have hrange := isControl_iff.1 h
  exact covers_of_firstTwo (Nat.zero_le _) (by omega)

/-- Text that stays on its line. -/
def StaysOnLine (cs : List Char) : Prop := ∀ c ∈ cs, isControl c = false

instance (cs : List Char) : Decidable (StaysOnLine cs) :=
  List.decidableBAll (fun c => isControl c = false) cs

theorem StaysOnLine.append {cs ds : List Char} (hcs : StaysOnLine cs)
    (hds : StaysOnLine ds) : StaysOnLine (cs ++ ds) :=
  List.forall_mem_append.2 ⟨hcs, hds⟩

theorem StaysOnLine.filter_isControl {cs : List Char}
    (h : StaysOnLine cs) : cs.filter isControl = [] := by
  rw [List.filter_eq_nil_iff]
  intro c hc
  simp [h c hc]

theorem Printable.staysOnLine {cs : List Char} (h : Printable cs) :
    StaysOnLine cs := by
  intro c hc
  rw [Bool.eq_false_iff]
  intro hcontrol
  have hprintable := h c hc
  rw [isUnprintable_of_isControl hcontrol] at hprintable
  cases hprintable

end FaultStatus.Text
