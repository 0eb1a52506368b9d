/-
A written value is read back. Its text falls into its tokens again
(`lex_tokens`): where a numeral ends the tokens of a value, what follows
them is a mark or the end of the text, and so does not go on with it. And
the tokens of a value make it up (`ofTokens?_tokens`): wherever a value may
start, they are taken in one after the other and the value is complete
after the last one.

Both go along the value, its items and its fields; so does the bound on the
nesting that strict reading asks for.
-/
import FaultStatus.Json.Strict
import FaultStatus.Proofs.Json.Tokens

namespace FaultStatus.Json

-- ================================================================== lexing

theorem Token.exists_chars_eq_cons {token : Token} (h : token.IsPlain) :
    ∃ c cs, token.chars = c :: cs ∧ isTokenBlank c = false := by
  cases token with
  | number n =>
      obtain ⟨k, -, rfl⟩ := h
      obtain ⟨d, ds, hdigits, hd⟩ := exists_toDigits_eq_cons k
      refine ⟨d, ds, (numeralChars_ofNat k).trans hdigits, ?_⟩
      cases hblank : isTokenBlank d with
      | false => rfl
      | true =>
          simp only [isTokenBlank, Bool.or_eq_true, beq_iff_eq] at hblank
          rcases hblank with ((rfl | rfl) | rfl) | rfl <;> cases hd
  | bool b => cases b <;> exact ⟨_, _, rfl, rfl⟩
  | string text? => exact ⟨_, _, rfl, rfl⟩
  | openArray | closeArray | openObject | closeObject | comma | colon
  | null => exact ⟨_, _, rfl, rfl⟩

theorem lexAfter_nil (done : List Token) :
    lexAfter done [] = some done.reverse := by
  rw [lexAfter]
  rfl

theorem lexAfter_chars {token : Token} (hplain : token.IsPlain)
    {rest : List Char} (h : Token.next? (token.chars ++ rest)
      = some (token, rest)) (done : List Token) :
    lexAfter done (token.chars ++ rest) = lexAfter (token :: done) rest := by
  obtain ⟨c, cs, hchars, hblank⟩ := Token.exists_chars_eq_cons hplain
  have hdrop : (token.chars ++ rest).dropWhile isTokenBlank
      = token.chars ++ rest := by
    rw [hchars, List.cons_append, List.dropWhile_cons, hblank]
    rfl
  rw [lexAfter]
  split
  next heq =>
    rw [hdrop, hchars] at heq
    cases heq
  next d ahead heq =>
    rw [hdrop] at heq
    rw [heq] at h
    split
    next hnone =>
      rw [h] at hnone
      cases hnone
    next token' rest' hsome =>
      rw [h] at hsome
      cases hsome
      rfl

/-- The tokens are read off the text that they are written as, whatever
text follows that does not go on with a numeral. -/
def ReadsOff (row : List Token) : Prop :=
  ∀ done rest, EndsNumeral rest →
    lexAfter done (row.flatMap Token.chars ++ rest)
      = lexAfter (row.reverse ++ done) rest

namespace ReadsOff

theorem nil : ReadsOff [] := by
  intro done rest _
  rfl

theorem singleton {token : Token} (h : token.IsPlain) :
    ReadsOff [token] := by
  intro done rest hrest
  rw [List.flatMap_singleton,
    lexAfter_chars h (Token.next?_chars h fun _ => hrest)]
  rfl

theorem cons {token : Token} {row : List Token} (htoken : token.IsPlain)
    (hnumber : token.isNumber = false) (hrow : ReadsOff row) :
    ReadsOff (token :: row) := by
  intro done rest hrest
  have hnext : Token.next?
      (token.chars ++ (row.flatMap Token.chars ++ rest))
      = some (token, row.flatMap Token.chars ++ rest) := by
    refine Token.next?_chars htoken fun h => ?_
    rw [hnumber] at h
    cases h
  rw [List.flatMap_cons, List.append_assoc, lexAfter_chars htoken hnext,
    hrow _ rest hrest, List.reverse_cons, List.append_assoc]
  rfl

/-- A mark ends a numeral at the end of the row before it. -/
theorem append_cons {row more : List Token} {mark : Token} {c : Char}
    (hrow : ReadsOff row) (hmore : ReadsOff (mark :: more))
    (hmark : mark.chars = [c])
    (hends : c.isDigit = false ∧ c ≠ '.' ∧ c ≠ 'e' ∧ c ≠ 'E') :
    ReadsOff (row ++ mark :: more) := by
  intro done rest hrest
  have hahead : EndsNumeral ((mark :: more).flatMap Token.chars ++ rest) := by
    intro d ahead heq
    rw [List.flatMap_cons, hmark] at heq
    cases heq
    exact hends
  rw [List.flatMap_append, List.append_assoc, hrow done _ hahead,
    hmore _ rest hrest, List.reverse_append, List.append_assoc]

end ReadsOff

theorem itemTokens_cons_cons (item next : Json) (rest : List Json) :
    itemTokens (item :: next :: rest)
      = tokens item ++ .comma :: itemTokens (next :: rest) := by
  rw [itemTokens]
  exact List.cons_ne_nil next rest

theorem fieldTokens_cons_cons (key : Option String) (value : Json)
    (next : Option String × Json) (rest : List (Option String × Json)) :
    fieldTokens ((key, value) :: next :: rest) = .string key :: .colon
      :: (tokens value ++ .comma :: fieldTokens (next :: rest)) := by
  rw [fieldTokens]
  exact List.cons_ne_nil next rest

mutual

theorem readsOff_tokens (value : Json)
    (h : ∀ token ∈ value.tokens, token.IsPlain) : ReadsOff value.tokens := by
  match value with
  | .null | .bool _ | .number _ | .string _ =>
      rw [tokens] at h ⊢
      exact .singleton (h _ List.mem_cons_self)
  | .array items =>
      rw [tokens, List.forall_mem_cons, List.forall_mem_append] at h
      have hitems := readsOff_itemTokens items h.2.1
      rw [tokens]
      exact .cons trivial rfl
        (.append_cons hitems (.singleton trivial) rfl (by decide))
  | .object fields =>
      rw [tokens, List.forall_mem_cons, List.forall_mem_append] at h
      have hfields := readsOff_fieldTokens fields h.2.1
      rw [tokens]
      exact .cons trivial rfl
        (.append_cons hfields (.singleton trivial) rfl (by decide))

theorem readsOff_itemTokens (items : List Json)
    (h : ∀ token ∈ itemTokens items, token.IsPlain) :
    ReadsOff (itemTokens items) := by
  match items with
  | [] => exact .nil
  | [item] =>
      rw [itemTokens] at h ⊢
      exact readsOff_tokens item h
  | item :: next :: rest =>
      rw [itemTokens_cons_cons, List.forall_mem_append,
        List.forall_mem_cons] at h
      have hitem := readsOff_tokens item h.1
      have hrest := readsOff_itemTokens (next :: rest) h.2.2
      rw [itemTokens_cons_cons]
      exact .append_cons hitem (.cons trivial rfl hrest) rfl (by decide)

theorem readsOff_fieldTokens (fields : List (Option String × Json))
    (h : ∀ token ∈ fieldTokens fields, token.IsPlain) :
    ReadsOff (fieldTokens fields) := by
  match fields with
  | [] => exact .nil
  | [(key, value)] =>
      rw [fieldTokens, List.forall_mem_cons, List.forall_mem_cons] at h
      have hvalue := readsOff_tokens value h.2.2
      rw [fieldTokens]
      exact .cons h.1 rfl (.cons trivial rfl hvalue)
  | (key, value) :: next :: rest =>
      rw [fieldTokens_cons_cons, List.forall_mem_cons, List.forall_mem_cons,
        List.forall_mem_append, List.forall_mem_cons] at h
      have hvalue := readsOff_tokens value h.2.2.1
      have hrest := readsOff_fieldTokens (next :: rest) h.2.2.2.2
      rw [fieldTokens_cons_cons]
      refine .cons h.1 rfl (.cons trivial rfl ?_)
      exact .append_cons hvalue (.cons trivial rfl hrest) rfl (by decide)

end

/-- The text of a value falls into the tokens of the value again. -/
theorem lex_tokens {value : Json}
    (h : ∀ token ∈ value.tokens, token.IsPlain) :
    lex (value.tokens.flatMap Token.chars) = some value.tokens := by
  have hread := readsOff_tokens value h [] [] endsNumeral_nil
  rw [List.append_nil, List.append_nil, lexAfter_nil,
    List.reverse_reverse] at hread
  exact hread

-- ================================================================= parsing

theorem foldlM_atFirstItem (item : Json) (items : List Json)
    (row : List Token) (frames : List Frame) :
    (itemTokens (item :: items) ++ row).foldlM Reading.step
        (.atFirstItem frames)
      = (itemTokens (item :: items) ++ row).foldlM Reading.step
          (.atValue (.array [] :: frames)) := by
  -- no value begins with the bracket that closes the array
  have hstart : ∀ row : List Token,
      (item.tokens ++ row).foldlM Reading.step (.atFirstItem frames)
        = (item.tokens ++ row).foldlM Reading.step
            (.atValue (.array [] :: frames)) := by
    intro row
    cases item <;> rw [tokens] <;> rfl
  cases items with
  | nil => rw [itemTokens]; exact hstart row
  | cons next items =>
      rw [itemTokens_cons_cons, List.append_assoc]
      exact hstart _

theorem foldlM_atFirstKey (field : Option String × Json)
    (fields : List (Option String × Json)) (row : List Token)
    (frames : List Frame) :
    (fieldTokens (field :: fields) ++ row).foldlM Reading.step
        (.atFirstKey frames)
      = (fieldTokens (field :: fields) ++ row).foldlM Reading.step
          (.atKey [] frames) := by
  obtain ⟨key, value⟩ := field
  cases fields with
  | nil => rw [fieldTokens]; rfl
  | cons next fields => rw [fieldTokens_cons_cons]; rfl

mutual

theorem foldlM_tokens (value : Json) (frames : List Frame) :
    value.tokens.foldlM Reading.step (.atValue frames)
      = some (.after value frames) := by
  match value with
  | .null | .bool _ | .number _ | .string _ =>
      rw [tokens]
      rfl
  | .array [] => rw [tokens]; rfl
  | .array (item :: items) =>
      have hitems := foldlM_itemTokens (item :: items)
        (List.cons_ne_nil item items) [] frames
      rw [tokens]
      show (itemTokens (item :: items) ++ [Token.closeArray]).foldlM
        Reading.step (.atFirstItem frames) = _
      rw [foldlM_atFirstItem, hitems]
      rfl
  | .object [] => rw [tokens]; rfl
  | .object (field :: fields) =>
      have hfields := foldlM_fieldTokens (field :: fields)
        (List.cons_ne_nil field fields) [] frames
      rw [tokens]
      show (fieldTokens (field :: fields) ++ [Token.closeObject]).foldlM
        Reading.step (.atFirstKey frames) = _
      rw [foldlM_atFirstKey, hfields]
      rfl

theorem foldlM_itemTokens (items : List Json) (h : items ≠ [])
    (done : List Json) (frames : List Frame) :
    (itemTokens items ++ [Token.closeArray]).foldlM Reading.step
        (.atValue (.array done :: frames))
      = some (.after (.array (done.reverse ++ items)) frames) := by
  match items with
  | [item] =>
      have hitem := foldlM_tokens item (.array done :: frames)
      rw [itemTokens, List.foldlM_append, hitem]
      show some (Reading.after (.array (item :: done).reverse) frames) = _
      rw [List.reverse_cons]
  | item :: next :: rest =>
      have hitem := foldlM_tokens item (.array done :: frames)
      have hrest := foldlM_itemTokens (next :: rest)
        (List.cons_ne_nil next rest) (item :: done) frames
      rw [itemTokens_cons_cons, List.append_assoc, List.foldlM_append, hitem]
      show (itemTokens (next :: rest) ++ [Token.closeArray]).foldlM
        Reading.step (.atValue (.array (item :: done) :: frames)) = _
      rw [hrest, List.reverse_cons, List.append_assoc]
      rfl

theorem foldlM_fieldTokens (fields : List (Option String × Json))
    (h : fields ≠ []) (done : List (Option String × Json))
    (frames : List Frame) :
    (fieldTokens fields ++ [Token.closeObject]).foldlM Reading.step
        (.atKey done frames)
      = some (.after (.object (done.reverse ++ fields)) frames) := by
  match fields with
  | [(key, value)] =>
      have hvalue := foldlM_tokens value (.object done key :: frames)
      rw [fieldTokens]
      show (value.tokens ++ [Token.closeObject]).foldlM Reading.step
        (.atValue (.object done key :: frames)) = _
      rw [List.foldlM_append, hvalue]
      show some (Reading.after (.object ((key, value) :: done).reverse)
        frames) = _
      rw [List.reverse_cons]
  | (key, value) :: next :: rest =>
      have hvalue := foldlM_tokens value (.object done key :: frames)
      have hrest := foldlM_fieldTokens (next :: rest)
        (List.cons_ne_nil next rest) ((key, value) :: done) frames
      rw [fieldTokens_cons_cons]
      show ((value.tokens ++ Token.comma :: fieldTokens (next :: rest))
        ++ [Token.closeObject]).foldlM Reading.step
          (.atValue (.object done key :: frames)) = _
      rw [List.append_assoc, List.foldlM_append, hvalue]
      show (fieldTokens (next :: rest) ++ [Token.closeObject]).foldlM
        Reading.step (.atKey ((key, value) :: done) frames) = _
      rw [hrest, List.reverse_cons, List.append_assoc]
      rfl

end

/-- The tokens of a value make it up. -/
theorem ofTokens?_tokens (value : Json) :
    ofTokens? value.tokens = some value := by
  unfold ofTokens?
  rw [foldlM_tokens]
  rfl

end FaultStatus.Json
