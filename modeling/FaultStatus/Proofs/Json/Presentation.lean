/-
The presentations of a directive. An object presents a directive if its tag
and each field of its kind stand in it exactly once, with a value that gives
this very part of the directive; an array does if it holds the tag and then
such values in order (`Directive.Presents`). Where in the object the keys
stand and what else stands there, be it a key of another kind of directive,
does not matter. What presents a directive is decoded to it, and nothing else
is decoded at all (`Directive.ofJson?_eq_some_iff_presents`), so that the ways
of being refused are the ways of presenting nothing.

The decoder asks for a key's sole value. That there is one is the same as the
key standing at one place with none like it before or behind
(`Json.sole?_eq_some_iff`), and an array is an object of which the keys are
known.
-/
import FaultStatus.Proofs.Json.Configuration
import FaultStatus.Proofs.Ruleset.Slots

namespace FaultStatus

-- ============================================================ keys and values

namespace Json

/-- The key stands in the row of fields exactly once, with the value. -/
def StandsOnce (key : String) (value : Json)
    (fields : List (Option String × Json)) : Prop :=
  ∃ before after, fields = before ++ (some key, value) :: after
    ∧ ∀ field ∈ before ++ after, field.1 ≠ some key

/-- How often a key stands in a row of fields. -/
def occurrences (key : String) (fields : List (Option String × Json)) : Nat :=
  fields.countP (·.1 = some key)

variable {key : String} {value : Json} {fields : List (Option String × Json)}

theorem sole?_eq_some_iff :
    sole? key fields = some value ↔ StandsOnce key value fields := by
  unfold sole? StandsOnce
  constructor
  · intro h
    split at h
    next key' value' hfilter =>
      cases h
      obtain ⟨before, after, hsplit, hbefore, hkey, hafter⟩ :=
        List.filter_eq_cons_iff.1 hfilter
      cases of_decide_eq_true hkey
      refine ⟨before, after, hsplit, fun field hmem => ?_⟩
      rcases List.mem_append.1 hmem with hmem | hmem
      · simpa using hbefore field hmem
      · simpa using List.filter_eq_nil_iff.1 hafter field hmem
    next => cases h
  · rintro ⟨before, after, rfl, hother⟩
    obtain ⟨hbefore, hafter⟩ := List.forall_mem_append.1 hother
    rw [List.filter_append, List.filter_cons_of_pos (by simp),
      List.filter_eq_nil_iff.2 fun field hmem => by
        simpa using hbefore field hmem,
      List.filter_eq_nil_iff.2 fun field hmem => by
        simpa using hafter field hmem]
    rfl

theorem StandsOnce.unique {value' : Json} (h : StandsOnce key value fields)
    (h' : StandsOnce key value' fields) : value = value' := by
  rw [← sole?_eq_some_iff] at h h'
  exact Option.some.inj (h.symm.trans h')

theorem StandsOnce.occurrences (h : StandsOnce key value fields) :
    occurrences key fields = 1 := by
  obtain ⟨before, after, rfl, hother⟩ := h
  obtain ⟨hbefore, hafter⟩ := List.forall_mem_append.1 hother
  rw [Json.occurrences, List.countP_append, List.countP_cons_of_pos (by simp),
    List.countP_eq_zero.2 fun field hmem => by
      simpa using hbefore field hmem,
    List.countP_eq_zero.2 fun field hmem => by
      simpa using hafter field hmem]

/-- In an object made of known keys, none of them twice, a key stands with
the value at its own place. -/
theorem forall_standsOnce_zip_iff {keys : List String} {values : List Json}
    (hkeys : keys.Nodup) (hlength : keys.length = values.length)
    {R : String → Json → Prop} :
    (∀ key ∈ keys, ∃ value,
        StandsOnce key value ((keys.map some).zip values) ∧ R key value)
      ↔ List.Forall₂ R keys values := by
  have hkeyed : (keys.map some).zip values = keyed (keys.zip values) := by
    rw [List.zip_map_left]
    rfl
  have hfst : (keys.zip values).map Prod.fst = keys :=
    List.map_fst_zip (Nat.le_of_eq hlength)
  have hsole : ∀ {key value}, (key, value) ∈ keys.zip values →
      StandsOnce key value ((keys.map some).zip values) := by
    intro key value hmem
    rw [← sole?_eq_some_iff, hkeyed]
    exact sole?_of_mem (hfst.symm ▸ hkeys) hmem
  rw [List.forall₂_iff_zip]
  constructor
  · intro h
    refine ⟨hlength, fun {key value} hmem => ?_⟩
    obtain ⟨value', hstands, hvalue'⟩ := h key (List.of_mem_zip hmem).1
    rwa [(hsole hmem).unique hstands]
  · rintro ⟨-, h⟩ key hmem
    rw [← hfst] at hmem
    obtain ⟨⟨key', value⟩, hpair, rfl⟩ := List.mem_map.1 hmem
    exact ⟨value, hsole hpair, h hpair⟩

end Json

-- ============================================================ presentations

namespace Directive

open Json (StandsOnce occurrences)

/-- The pattern that a directive adds, as it is written. -/
def pattern? : Directive → Option String
  | addPrefix _ pattern _ => some pattern
  | _ => none

/-- The value, under the key, gives a part of the directive. -/
inductive Gives (directive : Directive) (key : String) (value : Json) :
    Prop where
  /-- The tag, which is the name of the directive's kind. -/
  | op (key_eq : key = "op") (value_eq : value = .text directive.kind.name)
  /-- The code in any spelling. -/
  | code {code : Code} {spelling : String} (key_eq : key = "code")
      (value_eq : value = .text spelling)
      (own : directive.code? = some code)
      (spells : Code.parse spelling = .ok code)
  /-- The pattern as it is written. -/
  | pattern {pattern : String} (key_eq : key = "pattern")
      (value_eq : value = .text pattern)
      (own : directive.pattern? = some pattern)
  /-- The status in any of its forms. -/
  | status (key_eq : key = "status")
      (written : directive.status.WrittenAs value)

/-- The value is one of the directive's presentations. -/
inductive Presents (directive : Directive) : Json → Prop where
  /-- An object in which the tag and the directive's own fields stand once
  each, wherever that is and whatever else stands there. -/
  | object {fields : List (Option String × Json)}
      (given : ∀ key ∈ "op" :: directive.kind.fields,
        ∃ value, StandsOnce key value fields ∧ directive.Gives key value) :
      Presents directive (.object fields)
  /-- An array of the tag and then the directive's own fields in order. -/
  | array {values : List Json}
      (given : List.Forall₂ directive.Gives directive.kind.fields values) :
      Presents directive (.array (.text directive.kind.name :: values))

-- =============================================================== decoding

section Gives

variable {directive : Directive} {value : Json}
  {fields : List (Option String × Json)}

theorem gives_op_iff :
    directive.Gives "op" value ↔ value.text? = some directive.kind.name := by
  rw [Json.text?_eq_some_iff]
  constructor
  · intro h
    cases h with
    | op key_eq value_eq => exact value_eq
    | code key_eq | pattern key_eq | status key_eq =>
        exact absurd key_eq (by decide)
  · exact .op rfl

theorem gives_code_iff {code : Code} (own : directive.code? = some code) :
    directive.Gives "code" value
      ↔ (JsonForm.ofJson? value : Option Code) = some code := by
  rw [Code.ofJson?_eq_some_iff]
  constructor
  · intro h
    cases h with
    | code key_eq value_eq own' spells =>
        rw [own] at own'
        cases own'
        exact ⟨_, value_eq, spells⟩
    | op key_eq | pattern key_eq | status key_eq =>
        exact absurd key_eq (by decide)
  · rintro ⟨spelling, htext, hparse⟩
    exact .code rfl htext own hparse

theorem gives_pattern_iff {pattern : String}
    (own : directive.pattern? = some pattern) :
    directive.Gives "pattern" value ↔ value.text? = some pattern := by
  rw [Json.text?_eq_some_iff]
  constructor
  · intro h
    cases h with
    | pattern key_eq value_eq own' =>
        rw [own] at own'
        cases own'
        exact value_eq
    | op key_eq | code key_eq | status key_eq =>
        exact absurd key_eq (by decide)
  · intro h
    exact .pattern rfl h own

theorem gives_status_iff :
    directive.Gives "status" value
      ↔ StatusValue.ofJson? .inDirective value = some directive.status := by
  rw [StatusValue.ofJson?_eq_some_iff]
  constructor
  · intro h
    cases h with
    | status key_eq written => exact written
    | op key_eq | code key_eq | pattern key_eq =>
        exact absurd key_eq (by decide)
  · exact .status rfl

/-- What the decoder asks the fields for is what they have to present. -/
theorem givenBy_iff :
    directive.GivenBy fields ↔ ∀ key ∈ directive.kind.fields,
      ∃ value, StandsOnce key value fields ∧ directive.Gives key value := by
  have hcode : ∀ code, directive.code? = some code →
      (codeIn? fields = some code ↔ ∃ value,
        StandsOnce "code" value fields ∧ directive.Gives "code" value) := by
    intro code own
    simp only [codeIn?, Option.bind_eq_some_iff, Json.sole?_eq_some_iff,
      gives_code_iff own]
  have hpattern : ∀ pattern, directive.pattern? = some pattern →
      (patternIn? fields = some pattern ↔ ∃ value,
        StandsOnce "pattern" value fields
          ∧ directive.Gives "pattern" value) := by
    intro pattern own
    simp only [patternIn?, Option.bind_eq_some_iff, Json.sole?_eq_some_iff,
      gives_pattern_iff own]
  have hstatus : statusIn? fields = some directive.status ↔ ∃ value,
      StandsOnce "status" value fields ∧ directive.Gives "status" value := by
    simp only [statusIn?, Option.bind_eq_some_iff, Json.sole?_eq_some_iff,
      gives_status_iff]
  cases directive with
  | setDefault code status | setOverride code status =>
      simp only [kind, Kind.fields, List.forall_mem_cons, ← hcode code rfl,
        ← hstatus]
      simp [GivenBy, Directive.status]
  | addPrefix code pattern status =>
      simp only [kind, Kind.fields, List.forall_mem_cons, ← hcode code rfl,
        ← hpattern pattern rfl, ← hstatus]
      simp [GivenBy, Directive.status]
  | setFallback status =>
      simp only [kind, Kind.fields, List.forall_mem_cons, ← hstatus]
      simp [GivenBy, Directive.status]

end Gives

theorem Kind.ofName?_eq_some_iff {kind : Kind} {name : String} :
    ofName? name = some kind ↔ name = kind.name := by
  constructor
  · intro h
    have hname := List.find?_some h
    exact (of_decide_eq_true hname).symm
  · rintro rfl
    exact kind.ofName?_name

theorem Kind.nodup_fields (kind : Kind) : kind.fields.Nodup := by
  cases kind <;> decide

theorem ofFields?_eq_some_iff {kind : Kind} {directive : Directive}
    {fields : List (Option String × Json)} :
    ofFields? kind fields = some directive
      ↔ directive.kind = kind ∧ ∀ key ∈ kind.fields,
        ∃ value, StandsOnce key value fields ∧ directive.Gives key value := by
  constructor
  · intro h
    obtain ⟨rfl, hgiven⟩ := givenBy_of_ofFields? h
    exact ⟨rfl, givenBy_iff.1 hgiven⟩
  · rintro ⟨rfl, h⟩
    exact ofFields?_of_givenBy (givenBy_iff.2 h)

theorem ofJson?_object_eq_some_iff {fields : List (Option String × Json)}
    {directive : Directive} :
    ofJson? (.object fields) = some directive
      ↔ directive.Presents (.object fields) := by
  constructor
  · intro h
    obtain ⟨op, hop, h⟩ := Option.bind_eq_some_iff.1 h
    obtain ⟨name, hname, h⟩ := Option.bind_eq_some_iff.1 h
    obtain ⟨kind, hkind, h⟩ := Option.bind_eq_some_iff.1 h
    obtain ⟨rfl, hgiven⟩ := ofFields?_eq_some_iff.1 h
    cases Kind.ofName?_eq_some_iff.1 hkind
    exact .object (List.forall_mem_cons.2
      ⟨⟨op, Json.sole?_eq_some_iff.1 hop, gives_op_iff.2 hname⟩, hgiven⟩)
  · intro h
    cases h with
    | object given =>
        obtain ⟨⟨op, hop, hname⟩, hgiven⟩ := List.forall_mem_cons.1 given
        refine (ofJson?_of_op ?_).trans
          (ofFields?_eq_some_iff.2 ⟨rfl, hgiven⟩)
        exact Option.bind_eq_some_iff.2
          ⟨op, Json.sole?_eq_some_iff.2 hop, gives_op_iff.1 hname⟩

theorem ofJson?_array_eq_some_iff {values : List Json}
    {directive : Directive} :
    ofJson? (.array values) = some directive
      ↔ directive.Presents (.array values) := by
  constructor
  · intro h
    cases values with
    | nil => cases h
    | cons op values =>
        obtain ⟨name, hname, h⟩ := Option.bind_eq_some_iff.1 h
        obtain ⟨kind, hkind, h⟩ := Option.bind_eq_some_iff.1 h
        split at h
        next hlength =>
          obtain ⟨rfl, hgiven⟩ := ofFields?_eq_some_iff.1 h
          cases Kind.ofName?_eq_some_iff.1 hkind
          cases Json.text?_eq_some_iff.1 hname
          exact .array ((Json.forall_standsOnce_zip_iff
            directive.kind.nodup_fields hlength.symm).1 hgiven)
        next => cases h
  · intro h
    cases h with
    | @array values given =>
        have hlength := given.length_eq
        have hgiven := (Json.forall_standsOnce_zip_iff
          directive.kind.nodup_fields hlength).2 given
        show (Kind.ofName? directive.kind.name).bind (fun kind =>
          if values.length = kind.fields.length then
            ofFields? kind ((kind.fields.map some).zip values)
          else none) = some directive
        rw [Kind.ofName?_name, Option.bind_some, if_pos hlength.symm]
        exact ofFields?_eq_some_iff.2 ⟨rfl, hgiven⟩

theorem ofJson?_eq_some_iff_presents {value : Json} {directive : Directive} :
    ofJson? value = some directive ↔ directive.Presents value := by
  cases value with
  | object fields => exact ofJson?_object_eq_some_iff
  | array values => exact ofJson?_array_eq_some_iff
  | null | bool | number | string =>
      refine ⟨fun h => ?_, fun h => ?_⟩ <;> cases h

/-- A value that presents no directive is refused. -/
theorem ofJson?_eq_none_of_forall {value : Json}
    (h : ∀ directive : Directive, ¬ directive.Presents value) :
    ofJson? value = none := by
  apply Option.eq_none_iff_forall_ne_some.2
  intro directive hsome
  exact h directive (ofJson?_eq_some_iff_presents.1 hsome)

theorem Kind.name_injective {kind other : Kind} (h : kind.name = other.name) :
    kind = other := by
  have hkind := kind.ofName?_name
  rw [h, other.ofName?_name] at hkind
  exact (Option.some.inj hkind).symm

/-- An object that names a kind presents directives of this kind only. -/
theorem Presents.kind_eq {directive : Directive} {kind : Kind}
    {fields : List (Option String × Json)}
    (h : directive.Presents (.object fields))
    (hop : StandsOnce "op" (.text kind.name) fields) :
    directive.kind = kind := by
  cases h with
  | object given =>
      obtain ⟨op, hstands, hgives⟩ := given "op" List.mem_cons_self
      rw [hstands.unique hop, gives_op_iff] at hgives
      exact (Kind.name_injective (Option.some.inj hgives)).symm

/-- Values are decoded to what they present: objects to the directive whose
tag and own fields stand in them once each, in whatever order and among
whatever other keys, and arrays to the one whose tag and own fields they are.
Nothing else is decoded, be it that the tag or an own field is missing or
repeated, that an own field does not give what it should, or that an array has
too few values or too many. -/
theorem ofJson?_presentations :
    (∀ value directive, ofJson? value = some directive
        ↔ Presents directive value)
      ∧ (∀ fields, occurrences "op" fields ≠ 1 →
          ofJson? (.object fields) = none)
      ∧ (∀ kind fields, StandsOnce "op" (.text kind.name) fields →
          ∀ key ∈ kind.fields,
            (occurrences key fields ≠ 1
              ∨ ∃ value, StandsOnce key value fields
                ∧ ∀ directive, directive.kind = kind →
                  ¬ Gives directive key value) →
            ofJson? (.object fields) = none)
      ∧ ∀ values,
          (∀ kind : Kind, values.head? = some (.text kind.name) →
            values.length ≠ kind.fields.length + 1) →
          ofJson? (.array values) = none := by
  refine ⟨fun _ _ => ofJson?_eq_some_iff_presents, fun fields hcount => ?_,
    fun kind fields hop key hkey hwrong => ?_, fun values hlength => ?_⟩
  · apply ofJson?_eq_none_of_forall
    intro directive hpresents
    cases hpresents with
    | object given =>
        obtain ⟨op, hstands, -⟩ := given "op" List.mem_cons_self
        exact hcount hstands.occurrences
  · apply ofJson?_eq_none_of_forall
    intro directive hpresents
    have hkind := hpresents.kind_eq hop
    cases hpresents with
    | object given =>
        obtain ⟨value, hstands, hgives⟩ :=
          given key (List.mem_cons_of_mem _ (hkind ▸ hkey))
        rcases hwrong with hcount | ⟨value', hstands', hnot⟩
        · exact hcount hstands.occurrences
        · rw [hstands.unique hstands'] at hgives
          exact hnot directive hkind hgives
  · apply ofJson?_eq_none_of_forall
    intro directive hpresents
    cases hpresents with
    | array given =>
        apply hlength directive.kind rfl
        rw [List.length_cons, given.length_eq]

/-- A directive with its fields before its tag, an unknown key in two places
and a field of another kind. -/
def shuffledFields : List (Option String × Json) :=
  [(some "status", .record [("http", .nat 404)]), (some "note", .null),
    (some "pattern", .nat 3), (some "code", .text " Not-Found "),
    (some "op", .text "set_default"), (some "note", .bool true)]

/-- A status of gRPC under its other name, which is a key. -/
def keyedStatus : Json :=
  .record [("grpc", .record [("CANCELED", .record [])])]

theorem ofJson?_shuffledFields :
    ofJson? (.object shuffledFields)
        = some (.setDefault ⟨"not_found"⟩ (.http 404))
      ∧ ofJson? (.array [.text "set_fallback", keyedStatus])
        = some (.setFallback (.grpc .canceled))
      ∧ ofJson? (.object [(some "status", keyedStatus),
          (some "op", .text "set_fallback")])
        = some (.setFallback (.grpc .canceled))
      ∧ ofJson? (.object ((some "op", .null) :: shuffledFields)) = none
      ∧ ofJson? (.object ((some "code", .text "timeout") :: shuffledFields))
        = none
      ∧ ofJson? (.array [.text "set_fallback"]) = none := by
  obtain ⟨hpresents, hop, hfield, harray⟩ := ofJson?_presentations
  have hcode : StandsOnce "op" (.text Kind.setDefault.name)
      ((some "code", .text "timeout") :: shuffledFields) :=
    ⟨(some "code", .text "timeout") :: shuffledFields.take 4,
      shuffledFields.drop 5, rfl, by decide +kernel⟩
  have hkeyed : Gives (.setFallback (.grpc .canceled)) "status" keyedStatus :=
    .status rfl (.grpc .singleL .key_empty)
  refine ⟨(hpresents _ _).2 (.object ?_),
    (hpresents _ _).2 (.array (.cons hkeyed .nil)),
    (hpresents _ _).2 (.object ?_), hop _ (by decide +kernel),
    hfield .setDefault _ hcode "code" (by decide)
      (Or.inl (by decide +kernel)), harray _ ?_⟩
  · simp only [kind, Kind.fields, List.forall_mem_cons]
    refine ⟨⟨_, ⟨shuffledFields.take 4, shuffledFields.drop 5, rfl, ?_⟩,
      .op rfl rfl⟩, ⟨_, ⟨shuffledFields.take 3, shuffledFields.drop 4, rfl,
      ?_⟩, .code rfl rfl rfl ?_⟩, ⟨_, ⟨[], shuffledFields.drop 1, rfl, ?_⟩,
      .status rfl (.http (by decide +kernel))⟩,
      fun _ h => absurd h List.not_mem_nil⟩ <;>
      decide +kernel
  · simp only [kind, Kind.fields, List.forall_mem_cons]
    refine ⟨⟨_, ⟨[(some "status", keyedStatus)], [], rfl, ?_⟩, .op rfl rfl⟩,
      ⟨_, ⟨[], [(some "op", .text "set_fallback")], rfl, ?_⟩, hkeyed⟩,
      fun _ h => absurd h List.not_mem_nil⟩ <;>
    · intro field hmem
      rw [List.mem_singleton.1 hmem]
      decide
  · intro kind _
    cases kind <;> decide

end Directive

end FaultStatus
