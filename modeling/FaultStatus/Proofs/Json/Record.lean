/-
Values by their parts. An array or a record is written with plain tokens
if its items or the values of its fields are (`isPlain_array`,
`isPlain_record`), and a record without a repeated key gives each of its
fields back (`sole?_of_mem`).
-/
import FaultStatus.Proofs.Json.Strict

namespace FaultStatus.Json

-- =================================================== the tokens of the parts

theorem mem_itemTokens {items : List Json} {token : Token}
    (h : token ∈ itemTokens items) :
    token = .comma ∨ ∃ item ∈ items, token ∈ item.tokens := by
  induction items with
  | nil => cases h
  | cons item items ih =>
      cases items with
      | nil =>
          rw [itemTokens] at h
          exact Or.inr ⟨item, List.mem_cons_self, h⟩
      | cons next items =>
          rw [itemTokens_cons_cons, List.mem_append, List.mem_cons] at h
          rcases h with h | rfl | h
          · exact Or.inr ⟨item, List.mem_cons_self, h⟩
          · exact Or.inl rfl
          · rcases ih h with hcomma | ⟨other, hmem, hother⟩
            · exact Or.inl hcomma
            · exact Or.inr ⟨other, List.mem_cons_of_mem item hmem, hother⟩

theorem mem_fieldTokens {fields : List (Option String × Json)}
    {token : Token} (h : token ∈ fieldTokens fields) :
    token = .comma ∨ token = .colon ∨ ∃ field ∈ fields,
      token = .string field.1 ∨ token ∈ field.2.tokens := by
  induction fields with
  | nil => cases h
  | cons field fields ih =>
      obtain ⟨key, value⟩ := field
      cases fields with
      | nil =>
          rw [fieldTokens, List.mem_cons, List.mem_cons] at h
          rcases h with h | h | h
          · exact Or.inr (Or.inr ⟨_, List.mem_cons_self, Or.inl h⟩)
          · exact Or.inr (Or.inl h)
          · exact Or.inr (Or.inr ⟨_, List.mem_cons_self, Or.inr h⟩)
      | cons next fields =>
          rw [fieldTokens_cons_cons, List.mem_cons, List.mem_cons,
            List.mem_append, List.mem_cons] at h
          rcases h with h | h | h | h | h
          · exact Or.inr (Or.inr ⟨_, List.mem_cons_self, Or.inl h⟩)
          · exact Or.inr (Or.inl h)
          · exact Or.inr (Or.inr ⟨_, List.mem_cons_self, Or.inr h⟩)
          · exact Or.inl h
          · rcases ih h with hcomma | hcolon | ⟨other, hmem, hother⟩
            · exact Or.inl hcomma
            · exact Or.inr (Or.inl hcolon)
            · exact Or.inr (Or.inr
                ⟨other, List.mem_cons_of_mem _ hmem, hother⟩)

theorem isPlain_text (s : String) : (text s).IsPlain := by
  intro token hmem
  rw [text, tokens, List.mem_singleton] at hmem
  rw [hmem]
  rfl

theorem isPlain_nat {n : Nat} (h : n < UInt16.size) : (nat n).IsPlain := by
  intro token hmem
  rw [nat, tokens, List.mem_singleton] at hmem
  rw [hmem]
  exact ⟨n, h, rfl⟩

theorem isPlain_array {items : List Json}
    (h : ∀ item ∈ items, item.IsPlain) : (array items).IsPlain := by
  intro token hmem
  rw [tokens, List.mem_cons, List.mem_append, List.mem_singleton] at hmem
  rcases hmem with rfl | hmem | rfl
  · trivial
  · rcases mem_itemTokens hmem with rfl | ⟨item, hitem, hmem⟩
    · trivial
    · exact h item hitem token hmem
  · trivial

theorem isPlain_record {fields : List (String × Json)}
    (h : ∀ field ∈ fields, field.2.IsPlain) : (record fields).IsPlain := by
  intro token hmem
  rw [record, tokens, List.mem_cons, List.mem_append,
    List.mem_singleton] at hmem
  rcases hmem with rfl | hmem | rfl
  · trivial
  · rcases mem_fieldTokens hmem with rfl | rfl | ⟨field, hfield, hmem⟩
    · trivial
    · trivial
    · obtain ⟨⟨key, value⟩, hpair, rfl⟩ := List.mem_map.1 hfield
      rcases hmem with rfl | hmem
      · rfl
      · exact h (key, value) hpair token hmem
  · trivial

-- ================================================== the fields of a record

theorem text?_eq_some_iff {value : Json} {s : String} :
    value.text? = some s ↔ value = .text s := by
  cases value with
  | string text? => simp [Json.text?, text]
  | null | bool | number | array | object => simp [text?, text]

theorem sole?_cons_of_ne {key other : String} (h : other ≠ key)
    (value : Json) (fields : List (Option String × Json)) :
    sole? key ((some other, value) :: fields) = sole? key fields := by
  have hne : ¬ (some other = some key) := fun heq => h (Option.some.inj heq)
  unfold sole?
  rw [List.filter_cons_of_neg (by simpa using hne)]

theorem sole?_cons_self {key : String} {fields : List (Option String × Json)}
    (h : ∀ field ∈ fields, field.1 ≠ some key) (value : Json) :
    sole? key ((some key, value) :: fields) = some value := by
  unfold sole?
  rw [List.filter_cons_of_pos (by simp),
    List.filter_eq_nil_iff.2 fun field hmem => by simpa using h field hmem]

/-- The fields of a record as an object holds them. -/
def keyed (fields : List (String × Json)) : List (Option String × Json) :=
  fields.map fun (key, value) => (some key, value)

/-- Where no key stands twice, each has its value. -/
theorem sole?_of_mem {key : String} {value : Json}
    {fields : List (String × Json)} (hkeys : (fields.map Prod.fst).Nodup)
    (h : (key, value) ∈ fields) :
    sole? key (keyed fields) = some value := by
  unfold keyed
  induction fields with
  | nil => cases h
  | cons field fields ih =>
      obtain ⟨first, firstValue⟩ := field
      rw [List.map_cons, List.nodup_cons] at hkeys
      rcases List.mem_cons.1 h with heq | hmem
      · cases heq
        refine sole?_cons_self (fun other hother heq => ?_) value
        obtain ⟨⟨otherKey, otherValue⟩, hpair, rfl⟩ := List.mem_map.1 hother
        cases heq
        exact hkeys.1 (List.mem_map.2 ⟨(key, otherValue), hpair, rfl⟩)
      · have hne : first ≠ key := by
          intro heq
          rw [heq] at hkeys
          exact hkeys.1 (List.mem_map.2 ⟨(key, value), hmem, rfl⟩)
        rw [List.map_cons, sole?_cons_of_ne hne]
        exact ih hkeys.2 hmem

end FaultStatus.Json
