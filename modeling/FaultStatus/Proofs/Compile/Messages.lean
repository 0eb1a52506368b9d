/-
What the messages of errors tell. A message is made of words, numbers, quoted
texts and, for a rule that is not compiled, the text of its code. Words and
numbers are printable, and so are quoted texts whatever they quote; nothing
that is printable is a control character or a line break
(`Text.Printable.onOneLine`). The text of a canonical code is printable too,
although it is not quoted.

A message is read from its left end. The words tell which error it is, a
number ends before the blank behind it, and a quoted text says by itself where
it ends. The code is cut off at the quote behind it, which no canonical code
contains, so that the cause stands alone at the end
(`BuildError.message_injective`).
-/
import FaultStatus.Proofs.Compile.FirstOffence
import FaultStatus.Proofs.Spelling
import FaultStatus.Proofs.Text.Quoted

namespace FaultStatus

-- ============================================================ one line

namespace Text

/-- A character at which text is broken into lines: line feed, vertical
tabulator, form feed or return, the control for the next line, and the
separators of lines and of paragraphs. -/
def isLineBreak (c : Char) : Bool :=
  covers [(0xa, 0xd), (0x85, 0x85), (0x2028, 0x2029)] c.toNat

theorem isUnprintable_of_isLineBreak {c : Char} (h : isLineBreak c = true) :
    isUnprintable c = true := by
  have hcases : isControl c = true ∨ c.toNat = 0x2028 ∨ c.toNat = 0x2029 := by
    rw [isControl_iff]
    simp only [isLineBreak, covers, Bool.and_eq_true, Bool.or_eq_true,
      decide_eq_true_eq, Bool.false_eq_true, or_false] at h
    omega
  rcases hcases with hcontrol | hline | hparagraph
  · exact isUnprintable_of_isControl hcontrol
  · rw [isUnprintable, hline]
    decide +kernel
  · rw [isUnprintable, hparagraph]
    decide +kernel

/-- Text without control characters, on one line. -/
structure OnOneLine (cs : List Char) : Prop where
  no_control : ∀ c ∈ cs, isControl c = false
  no_break : ∀ c ∈ cs, isLineBreak c = false

theorem Printable.onOneLine {cs : List Char} (h : Printable cs) :
    OnOneLine cs := by
  refine ⟨h.staysOnLine, fun c hc => ?_⟩
  rw [Bool.eq_false_iff]
  intro hbreak
  have hprintable := h c hc
  rw [isUnprintable_of_isLineBreak hbreak] at hprintable
  cases hprintable

theorem IsSettled.printable {cs : List Char} (h : ∀ c ∈ cs, IsSettled c) :
    Printable cs := by
  intro c hc
  have hrange := (h c hc).toNat_range
  exact isUnprintable_of_ascii (by omega) (by omega)

/-- A number ends before the first blank. -/
theorem toString_append_inj {m n : Nat} {xs ys : List Char}
    (h : (toString m).toList ++ ' ' :: xs
      = (toString n).toList ++ ' ' :: ys) : m = n := by
  have hblank : ∀ k : Nat, ' ' ∉ (toString k).toList := by
    intro k hmem
    rw [Nat.toString_eq_repr, Nat.toList_repr] at hmem
    have hdigit := Nat.isDigit_of_mem_toDigits (by decide) (by decide) hmem
    exact absurd hdigit (by decide)
  have hdigits := append_cons_inj_of_not_mem (hblank m) (hblank n) h
  exact toString_injective (String.toList_injective hdigits.1)

end Text

open Text

-- ====================================================== lossless messages

/-- The errors with the property have messages on one line, and no two of
them have the same. -/
structure Lossless {E : Type} (message : E → String) (P : E → Prop) :
    Prop where
  on_one_line : ∀ error, P error → OnOneLine (message error).toList
  injective : ∀ error other, P error → P other →
    message error = message other → error = other

/-- Errors about a length, whose messages go on with a blank behind the
number, and about a text, which they quote, have lossless messages if the
words before tell them apart. -/
theorem lossless_of_length_of_text {E : Type} {message : E → String}
    (wrongLength : Nat → E) (wrongText : String → E)
    (lengthWords range textWords : String)
    (hall : ∀ error, (∃ n, error = wrongLength n)
      ∨ ∃ text, error = wrongText text)
    (hlength : ∀ n, (message (wrongLength n)).toList
      = lengthWords.toList ++ ((toString n).toList ++ range.toList))
    (htext : ∀ text, message (wrongText text) = textWords ++ quote text)
    (hprintable : Printable (lengthWords ++ range ++ textWords).toList)
    (hblank : range.toList = ' ' :: range.toList.tail)
    (hapart : ∀ xs ys, lengthWords.toList ++ xs ≠ textWords.toList ++ ys) :
    Lossless message fun _ => True := by
  have htextList : ∀ text, (message (wrongText text)).toList
      = textWords.toList ++ ((quote text).toList ++ []) := by
    intro text
    rw [htext, String.toList_append, List.append_nil]
  simp only [String.toList_append, Printable, List.forall_mem_append]
    at hprintable
  obtain ⟨⟨hlengthWords, hrange⟩, htextWords⟩ := hprintable
  constructor
  · intro error _
    apply Printable.onOneLine
    rcases hall error with ⟨n, rfl⟩ | ⟨text, rfl⟩
    · rw [hlength]
      exact Printable.append hlengthWords
        ((printable_toString n).append hrange)
    · rw [htextList, List.append_nil]
      exact Printable.append htextWords (printable_quote text)
  · intro error other _ _ hsame
    have hlists := congrArg String.toList hsame
    rcases hall error with ⟨n, rfl⟩ | ⟨text, rfl⟩ <;>
      rcases hall other with ⟨n', rfl⟩ | ⟨text', rfl⟩
    · rw [hlength, hlength, hblank] at hlists
      rw [toString_append_inj (List.append_cancel_left hlists)]
    · rw [hlength, htextList] at hlists
      exact absurd hlists (hapart _ _)
    · rw [hlength, htextList] at hlists
      exact absurd hlists.symm (hapart _ _)
    · rw [htextList, htextList] at hlists
      rw [(quote_append_inj (List.append_cancel_left hlists)).1]

theorem CodeError.lossless_message :
    Lossless CodeError.message fun _ => True := by
  refine lossless_of_length_of_text .invalidLength .invalidFormat
    "invalid code length " (" (must be " ++ toString Code.minLength ++ "-"
      ++ toString Code.maxLength ++ ")")
    "invalid code format " ?_ ?_ (fun _ => rfl) ?_ ?_ ?_
  · intro error
    cases error with
    | invalidLength n => exact Or.inl ⟨n, rfl⟩
    | invalidFormat text => exact Or.inr ⟨text, rfl⟩
  · intro n
    unfold message
    simp only [String.toList_append, List.append_assoc]
  · decide +kernel
  · decide +kernel
  · intro xs ys h
    simp at h

theorem ReasonError.lossless_message :
    Lossless ReasonError.message fun _ => True := by
  refine lossless_of_length_of_text .invalidLength .invalidFormat
    "invalid reason length " (" (must be " ++ toString Reason.minLength
      ++ "-" ++ toString Reason.maxLength ++ ")")
    "invalid reason format " ?_ ?_ (fun _ => rfl) ?_ ?_ ?_
  · intro error
    cases error with
    | invalidLength n => exact Or.inl ⟨n, rfl⟩
    | invalidFormat text => exact Or.inr ⟨text, rfl⟩
  · intro n
    unfold message
    simp only [String.toList_append, List.append_assoc]
  · decide +kernel
  · decide +kernel
  · intro xs ys h
    simp at h

namespace PatternError

theorem printable_message (error : PatternError) :
    Printable error.message.toList := by
  cases error with
  | invalidSegment segment =>
      show Printable ("invalid segment " ++ quote segment).toList
      rw [String.toList_append]
      exact Printable.append (by decide +kernel) (printable_quote segment)
  | empty | emptySegment | allWildcard => decide +kernel

theorem message_injective {error other : PatternError}
    (h : error.message = other.message) : error = other := by
  have hlists := congrArg String.toList h
  cases error <;> cases other <;> unfold message at hlists <;>
    simp only [String.toList_append] at hlists
  case invalidSegment.invalidSegment segment segment' =>
      have hquotes := List.append_cancel_left hlists
      rw [← List.append_nil (quote segment).toList,
        ← List.append_nil (quote segment').toList] at hquotes
      rw [(quote_append_inj hquotes).1]
  all_goals first | rfl | simp at hlists

theorem lossless_message : Lossless message fun _ => True :=
  ⟨fun error _ => error.printable_message.onOneLine,
    fun _ _ _ _ => message_injective⟩

end PatternError

-- ================================================= rules that are not compiled

theorem Code.IsCanonical.isSettled {code : Code} (h : code.IsCanonical) :
    ∀ c ∈ code.text.toList, IsSettled c :=
  isSettled_of_isSegment (isSegment_of_validate h)

/-- The family's name and all that is written behind it are the same. -/
theorem Family.display_append_inj {family other : Family} {xs ys : List Char}
    (h : family.display.toList ++ xs = other.display.toList ++ ys) :
    family = other ∧ xs = ys := by
  cases family <;> cases other
  case http.http | grpc.grpc => exact ⟨rfl, List.append_cancel_left h⟩
  all_goals simp [display] at h

namespace BuildError

theorem toList_message (error : BuildError) :
    error.message.toList = "invalid ".toList
      ++ (error.family.display.toList ++ (" reason-prefix ".toList
        ++ ((quote error.pattern).toList ++ (" for code \"".toList
          ++ (error.code.text.toList
            ++ '"' :: (": ".toList ++ error.cause.message.toList)))))) := by
  unfold message
  simp only [String.toList_append, List.append_assoc]
  rfl

theorem printable_message {error : BuildError} (h : error.code.IsCanonical) :
    Printable error.message.toList := by
  have hfamily : Printable error.family.display.toList := by
    cases error.family <;> decide +kernel
  have hbefore : Printable " reason-prefix ".toList := by decide +kernel
  have hcode : Printable " for code \"".toList := by decide +kernel
  have hcause : Printable ('"' :: ": ".toList) := by decide +kernel
  rw [toList_message, ← List.cons_append]
  refine Printable.append (by decide +kernel) (hfamily.append ?_)
  refine hbefore.append ((printable_quote error.pattern).append ?_)
  refine hcode.append ((IsSettled.printable h.isSettled).append ?_)
  exact hcause.append error.cause.printable_message

theorem message_injective {error other : BuildError}
    (h : error.code.IsCanonical) (h' : other.code.IsCanonical)
    (hsame : error.message = other.message) : error = other := by
  have hlists := congrArg String.toList hsame
  rw [toList_message, toList_message] at hlists
  obtain ⟨hfamily, hlists⟩ :=
    Family.display_append_inj (List.append_cancel_left hlists)
  obtain ⟨hpattern, hlists⟩ :=
    quote_append_inj (List.append_cancel_left hlists)
  -- a canonical code has no quote, so the first one is that behind it
  have hquote : ∀ {code : Code}, code.IsCanonical →
      '"' ∉ code.text.toList := fun hcode hmem =>
    (hcode.isSettled _ hmem).ne (by decide) rfl
  obtain ⟨hcode, hlists⟩ := append_cons_inj_of_not_mem (hquote h) (hquote h')
    (List.append_cancel_left hlists)
  have hcause := PatternError.message_injective
    (String.toList_injective (List.append_cancel_left hlists))
  obtain ⟨family, ⟨code⟩, pattern, cause⟩ := error
  obtain ⟨family', ⟨code'⟩, pattern', cause'⟩ := other
  cases hfamily
  cases hpattern
  cases String.toList_injective hcode
  cases hcause
  rfl

theorem lossless_message : Lossless message (·.code.IsCanonical) :=
  ⟨fun _ h => (printable_message h).onOneLine,
    fun _ _ => message_injective⟩

end BuildError

namespace Ruleset

/-- Rules whose codes were parsed fail at a canonical code. -/
theorem isCanonical_of_build_eq_error {calls : List Call} {error : BuildError}
    (hcodes : ∀ rule ∈ writtenRules calls,
      ∃ s, Code.parse s = .ok rule.code)
    (h : (afterCalls calls).build.value = .error error) :
    error.code.IsCanonical := by
  obtain ⟨before, rule, after, hfirst, hreports⟩ :=
    exists_firstOffence_of_build_eq_error h
  have hmem : rule ∈ writtenRules calls := by
    rw [hfirst.place]
    exact List.mem_append_right _ List.mem_cons_self
  rw [hreports.code]
  exact Code.isCanonical_iff.2 (hcodes rule hmem)

/-- Whatever text was to be parsed, inserted or compiled, the message of the
error is one line and that of no other error of its kind. For rules that are
not compiled this takes canonical codes, and so do all that are written for
parsed ones. -/
theorem errorMessages_lossless :
    Lossless PatternError.message (fun _ => True)
      ∧ Lossless CodeError.message (fun _ => True)
      ∧ Lossless ReasonError.message (fun _ => True)
      ∧ Lossless BuildError.message (·.code.IsCanonical)
      ∧ ∀ calls error,
          (∀ rule ∈ writtenRules calls,
            ∃ s, Code.parse s = .ok rule.code) →
          (afterCalls calls).build.value = .error error →
            error.code.IsCanonical :=
  ⟨PatternError.lossless_message, CodeError.lossless_message,
    ReasonError.lossless_message, BuildError.lossless_message,
    fun _ _ => isCanonical_of_build_eq_error⟩

/-- A pattern with quotes and a line end, which is trimmed before the pattern
is read but not where it is reported. -/
def quotedRule : List Call :=
  [.addPrefix .http .timeout "Storage.\"PG\"\n" 503]

theorem message_quotedRule :
    ∃ error, (afterCalls quotedRule).build.value = .error error
      ∧ OnOneLine error.message.toList
      ∧ error.message = "invalid HTTP reason-prefix \"Storage.\\\"PG\\\"\\n\""
        ++ " for code \"timeout\": invalid segment \"\\\"pg\\\"\"" := by
  obtain ⟨-, -, -, hlossless, hcanonical⟩ := errorMessages_lossless
  have hcodes : ∀ rule ∈ writtenRules quotedRule,
      ∃ s, Code.parse s = .ok rule.code := by
    intro rule hmem
    rw [List.mem_singleton.1 hmem]
    exact ⟨"Timeout", by decide +kernel⟩
  have hfails : (afterCalls quotedRule).build.value.map (fun _ => ())
      = .error
        { family := .http, code := .timeout, pattern := "Storage.\"PG\"\n"
          cause := .invalidSegment "\"pg\"" } := by
    decide +kernel
  cases hbuild : (afterCalls quotedRule).build.value with
  | ok snapshot =>
      rw [hbuild] at hfails
      cases hfails
  | error error =>
      have hcode := hcanonical quotedRule error hcodes hbuild
      refine ⟨error, rfl, hlossless.on_one_line error hcode, ?_⟩
      rw [hbuild] at hfails
      cases hfails
      decide +kernel

end Ruleset

end FaultStatus
