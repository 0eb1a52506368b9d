/-
Codes, reasons and statuses survive their JSON form. Each is written as a
value of plain tokens, so that its text is read as that value again, and
the reader of the form takes the value back to the thing. Only codes and
reasons are checked on the way, and they pass if they are canonical.

The other way round, whatever form a text has, what it denotes is
canonical: codes and reasons come out of the parser. So it has a written
form, and this is read as the same thing again: the written form is the
normal form of all the texts that denote the thing (`Survives`).

Which forms of a status a directive may hold is spelled out in the end
(`StatusValue.WrittenAs`): they are those that are read there, and no others.
-/
import FaultStatus.Json.Form
import FaultStatus.Proofs.Json.Record
import FaultStatus.Proofs.Spelling

namespace FaultStatus

-- ============================================================== survival

namespace JsonForm

/-- A canonical thing is read back from its text. A text that is read denotes
a canonical thing, and the written form of this denotes it again. -/
structure Survives (α : Type) [JsonForm α] (Canonical : α → Prop) :
    Prop where
  readBack : ∀ x, Canonical x → read? (write x) = some x
  normal : ∀ text, ∀ x : α, read? text = some x →
    Canonical x ∧ read? (write x) = some x

variable {α : Type} [JsonForm α] {Canonical : α → Prop}

/-- It is enough that the value of a thing is read from its text and stands
for the thing, and that no value stands for anything else. -/
theorem Survives.of_value
    (hread : ∀ x : α, readValue? α (toJson x).render = some (toJson x))
    (hback : ∀ x : α, Canonical x → ofJson? (toJson x) = some x)
    (hcanonical : ∀ value, ∀ x : α, ofJson? value = some x → Canonical x) :
    Survives α Canonical := by
  have hreadBack : ∀ x : α, Canonical x → read? (write x) = some x := by
    intro x hx
    unfold read? write
    rw [hread x]
    exact hback x hx
  refine ⟨hreadBack, fun text x h => ?_⟩
  unfold read? at h
  obtain ⟨value, -, hvalue⟩ := Option.bind_eq_some_iff.1 h
  have hx := hcanonical value x hvalue
  exact ⟨hx, hreadBack x hx⟩

end JsonForm

open JsonForm

-- ==================================================== codes and reasons

/-- What is parsed from the text of a value. -/
theorem bind_text?_eq_some_iff {ε α : Type} {parse : String → Except ε α}
    {value : Json} {x : α} :
    (value.text?.bind fun s => (parse s).toOption) = some x
      ↔ ∃ s, value = .text s ∧ parse s = .ok x := by
  have hparse : ∀ s, (parse s).toOption = some x ↔ parse s = .ok x := by
    intro s
    cases parse s <;> simp [Except.toOption]
  simp only [Option.bind_eq_some_iff, Json.text?_eq_some_iff, hparse]

theorem Code.ofJson?_eq_some_iff {value : Json} {code : Code} :
    ofJson? value = some code
      ↔ ∃ s, value = .text s ∧ Code.parse s = .ok code :=
  bind_text?_eq_some_iff

theorem Code.ofJson?_toJson {code : Code} (h : code.IsCanonical) :
    ofJson? (toJson code) = some code := by
  show (some code.text).bind (fun s => (Code.parse s).toOption) = some code
  rw [Option.bind_some, h.parse_text]
  rfl

theorem Code.isCanonical_of_ofJson? {value : Json} {code : Code}
    (h : ofJson? value = some code) : code.IsCanonical := by
  obtain ⟨s, -, hparse⟩ := Code.ofJson?_eq_some_iff.1 h
  exact Code.isCanonical_of_parse hparse

theorem Reason.ofJson?_toJson {reason : Reason} (h : reason.IsCanonical) :
    ofJson? (toJson reason) = some reason := by
  show (some reason.text).bind (fun s => (Reason.parse s).toOption)
    = some reason
  rw [Option.bind_some, h.parse_text]
  rfl

theorem Reason.isCanonical_of_ofJson? {value : Json} {reason : Reason}
    (h : ofJson? value = some reason) : reason.IsCanonical := by
  obtain ⟨s, -, hparse⟩ := bind_text?_eq_some_iff.1 h
  exact Reason.isCanonical_of_parse hparse

theorem Code.survives : Survives Code Code.IsCanonical :=
  .of_value (fun code => Json.read?_render (Json.isPlain_text code.text))
    (fun _ => ofJson?_toJson) (fun _ _ => isCanonical_of_ofJson?)

theorem Reason.survives : Survives Reason Reason.IsCanonical :=
  .of_value (fun reason => Json.read?_render (Json.isPlain_text reason.text))
    (fun _ => ofJson?_toJson) (fun _ _ => isCanonical_of_ofJson?)

-- ================================================================ statuses

theorem GrpcStatus.ofName?_name (status : GrpcStatus) :
    ofName? status.name = some status := by
  cases status <;> decide +kernel

theorem GrpcStatus.ofJson?_toJson (place : Json.Place)
    (status : GrpcStatus) :
    GrpcStatus.ofJson? place (toJson status) = some status :=
  status.ofName?_name

theorem HttpStatus.ofJson?_toJson (status : HttpStatus) :
    HttpStatus.ofJson? (HttpStatus.toJson status) = some status := by
  have hnat : (HttpStatus.toJson status).nat? = some status.toNat := by
    show some (Numeral.ofDigits (Nat.toDigits 10 status.toNat)) = _
    exact congrArg some Nat.ofDigitChars_ten_toDigits
  unfold HttpStatus.ofJson?
  rw [hnat]
  show (if status.toNat < UInt16.size then
    some (UInt16.ofNat status.toNat) else none) = _
  rw [if_pos status.toNat_lt, UInt16.ofNat_toNat]

theorem Family.ofLabel?_label (family : Family) :
    ofLabel? family.label = some family := by
  cases family <;> decide +kernel

theorem StatusValue.ofJson?_http (place : Json.Place) (value : Json) :
    StatusValue.ofJson? place (.object [(some Family.http.label, value)])
      = (HttpStatus.ofJson? value).map StatusValue.http := by
  rw [StatusValue.ofJson?, Family.ofLabel?_label]
  cases HttpStatus.ofJson? value <;> rfl

theorem StatusValue.ofJson?_grpc (place : Json.Place) (value : Json) :
    StatusValue.ofJson? place (.object [(some Family.grpc.label, value)])
      = (GrpcStatus.ofJson? place value).map StatusValue.grpc := by
  rw [StatusValue.ofJson?, Family.ofLabel?_label]
  cases GrpcStatus.ofJson? place value <;> rfl

theorem StatusValue.ofJson?_toJson (place : Json.Place)
    (status : StatusValue) :
    StatusValue.ofJson? place (toJson status) = some status := by
  cases status with
  | http status =>
      refine (StatusValue.ofJson?_http place _).trans ?_
      rw [HttpStatus.ofJson?_toJson]
      rfl
  | grpc status =>
      refine (StatusValue.ofJson?_grpc place _).trans ?_
      rw [GrpcStatus.ofJson?_toJson]
      rfl

theorem HttpStatus.isPlain_toJson (status : HttpStatus) :
    (HttpStatus.toJson status).IsPlain :=
  Json.isPlain_nat status.toNat_lt

theorem StatusValue.isPlain_toJson (status : StatusValue) :
    (toJson status).IsPlain := by
  cases status with
  | http status =>
      refine Json.isPlain_record fun field hmem => ?_
      rw [List.mem_singleton.1 hmem]
      exact HttpStatus.isPlain_toJson status
  | grpc status =>
      refine Json.isPlain_record fun field hmem => ?_
      rw [List.mem_singleton.1 hmem]
      exact Json.isPlain_text status.name

theorem StatusValue.survives : Survives StatusValue fun _ => True :=
  .of_value (fun status => Json.read?_render status.isPlain_toJson)
    (fun status _ => status.ofJson?_toJson .outside)
    (fun _ _ _ => trivial)

theorem Status.ofPair?_toJson (status : Status) :
    Status.ofPair? (HttpStatus.toJson status.http) (toJson status.grpc)
      = some status := by
  unfold Status.ofPair?
  rw [HttpStatus.ofJson?_toJson, GrpcStatus.ofJson?_toJson]
  rfl

theorem Status.ofJson?_record (fields : List (String × Json)) :
    (ofJson? (.record fields) : Option Status)
      = (Json.sole? "http" (Json.keyed fields)).bind fun http =>
          (Json.sole? "grpc" (Json.keyed fields)).bind fun grpc =>
            Status.ofPair? http grpc := by
  have hkeyed : (Json.keyed fields).all (·.1.isSome) = true := by
    simp [Json.keyed]
  show (if (Json.keyed fields).all (·.1.isSome) = true then
    (Json.sole? "http" (Json.keyed fields)).bind _ else none) = _
  rw [if_pos hkeyed]
  rfl

theorem Status.ofJson?_toJson (status : Status) :
    ofJson? (toJson status) = some status := by
  have hkeys : ([("http", HttpStatus.toJson status.http),
      ("grpc", toJson status.grpc)].map Prod.fst).Nodup := by simp
  have hhttp := Json.sole?_of_mem hkeys List.mem_cons_self
  have hgrpc := Json.sole?_of_mem hkeys
    (List.mem_cons_of_mem _ List.mem_cons_self)
  refine (Status.ofJson?_record _).trans ?_
  rw [hhttp, Option.bind_some, hgrpc, Option.bind_some]
  exact status.ofPair?_toJson

theorem Status.isPlain_toJson (status : Status) :
    (toJson status).IsPlain := by
  refine Json.isPlain_record fun field hmem => ?_
  simp only [List.mem_cons, List.not_mem_nil, or_false] at hmem
  rcases hmem with rfl | rfl
  · exact HttpStatus.isPlain_toJson status.http
  · exact Json.isPlain_text status.grpc.name

theorem Status.survives : Survives Status fun _ => True :=
  .of_value (fun status => Json.read?_render status.isPlain_toJson)
    (fun status _ => status.ofJson?_toJson) (fun _ _ _ => trivial)

-- ================================================= statuses in a directive

/-- The names of a status: its canonical one, and for the cancelled status
the one with a single L. -/
inductive GrpcStatus.Named : GrpcStatus → String → Prop where
  | canonical (status : GrpcStatus) : Named status status.name
  | singleL : Named .canceled "CANCELED"

/-- The value gives the name in a directive, as a string or as the only key
of an object. Under the key there is nothing: `null`, or an empty object. -/
inductive Json.GivesName (name : String) : Json → Prop where
  | string : GivesName name (.string (some name))
  | key_null : GivesName name (.object [(some name, .null)])
  | key_empty : GivesName name (.object [(some name, .object [])])

/-- The value is a form of the status that is read in a directive: an object
whose only key is the family, with the number, in digits alone, or with a
name. -/
inductive StatusValue.WrittenAs : StatusValue → Json → Prop where
  | http {status : HttpStatus} {digits : List Char}
      (digits_eq : Numeral.ofDigits digits = status.toNat) :
      WrittenAs (.http status)
        (.object [(some "http", .number { whole := digits })])
  | grpc {status : GrpcStatus} {name : String} {value : Json}
      (named : status.Named name) (given : value.GivesName name) :
      WrittenAs (.grpc status) (.object [(some "grpc", value)])

theorem GrpcStatus.ofName?_eq_some_iff {name : String}
    {status : GrpcStatus} :
    ofName? name = some status ↔ status.Named name := by
  constructor
  · intro h
    unfold ofName? at h
    split_ifs at h with hname
    · cases h
      subst hname
      exact .singleL
    · have hfound := List.find?_some h
      rw [← of_decide_eq_true hfound]
      exact .canonical status
  · intro h
    cases h with
    | canonical => exact status.ofName?_name
    | singleL => rfl

theorem Json.Place.name?_inDirective_eq_some_iff {name : String}
    {value : Json} :
    Json.Place.inDirective.name? value = some name
      ↔ value.GivesName name := by
  constructor
  · intro h
    unfold Json.Place.name? at h
    split at h
    next text? =>
      subst h
      exact .string
    next key payload =>
      unfold Json.Place.isNothing at h
      split at h
      next =>
        rw [if_pos rfl] at h
        subst h
        exact .key_null
      next =>
        rw [if_pos (by decide)] at h
        subst h
        exact .key_empty
      next => cases h
    next => cases h
  · intro h
    cases h <;> rfl

theorem HttpStatus.ofJson?_eq_some_iff {value : Json} {status : HttpStatus} :
    HttpStatus.ofJson? value = some status
      ↔ ∃ digits, value = .number { whole := digits }
        ∧ Numeral.ofDigits digits = status.toNat := by
  unfold HttpStatus.ofJson?
  constructor
  · intro h
    obtain ⟨n, hn, h⟩ := Option.bind_eq_some_iff.1 h
    split_ifs at h with hlt
    cases h
    cases value with
    | number numeral =>
        unfold Json.nat? Numeral.toNat? at hn
        dsimp only at hn
        split_ifs at hn with hplain
        obtain ⟨negative, whole, fraction, exponent⟩ := numeral
        obtain ⟨rfl, rfl, rfl⟩ := hplain
        cases hn
        exact ⟨whole, rfl, (UInt16.toNat_ofNat_of_lt' hlt).symm⟩
    | null | bool | string | array | object => cases hn
  · rintro ⟨digits, rfl, hdigits⟩
    show (some (Numeral.ofDigits digits)).bind (fun n =>
      if n < UInt16.size then some (UInt16.ofNat n) else none) = _
    rw [Option.bind_some, hdigits, if_pos status.toNat_lt,
      UInt16.ofNat_toNat]

theorem Family.ofLabel?_eq_some_iff {label : String} {family : Family} :
    ofLabel? label = some family ↔ family.label = label := by
  constructor
  · intro h
    have hfound := List.find?_some h
    exact of_decide_eq_true hfound
  · rintro rfl
    exact family.ofLabel?_label

theorem StatusValue.exists_family_of_ofJson? {place : Json.Place}
    {value : Json} {status : StatusValue}
    (h : StatusValue.ofJson? place value = some status) :
    ∃ (family : Family) (field : Json),
      value = .object [(some family.label, field)] := by
  unfold StatusValue.ofJson? at h
  split at h
  next key field =>
    obtain ⟨family, hfamily, -⟩ := Option.bind_eq_some_iff.1 h
    refine ⟨family, field, ?_⟩
    rw [Family.ofLabel?_eq_some_iff.1 hfamily]
  next => cases h

/-- A status is read in a directive from its forms alone. -/
theorem StatusValue.ofJson?_eq_some_iff {value : Json}
    {status : StatusValue} :
    StatusValue.ofJson? .inDirective value = some status
      ↔ status.WrittenAs value := by
  constructor
  · intro h
    obtain ⟨family, field, rfl⟩ := StatusValue.exists_family_of_ofJson? h
    cases family with
    | http =>
        rw [StatusValue.ofJson?_http, Option.map_eq_some_iff] at h
        obtain ⟨status, hstatus, rfl⟩ := h
        obtain ⟨digits, rfl, hdigits⟩ :=
          HttpStatus.ofJson?_eq_some_iff.1 hstatus
        exact .http hdigits
    | grpc =>
        rw [StatusValue.ofJson?_grpc, Option.map_eq_some_iff] at h
        obtain ⟨status, hstatus, rfl⟩ := h
        obtain ⟨name, hname, hnamed⟩ := Option.bind_eq_some_iff.1 hstatus
        exact .grpc (GrpcStatus.ofName?_eq_some_iff.1 hnamed)
          (Json.Place.name?_inDirective_eq_some_iff.1 hname)
  · intro h
    cases h with
    | http digits_eq =>
        refine (StatusValue.ofJson?_http .inDirective _).trans ?_
        rw [HttpStatus.ofJson?_eq_some_iff.2 ⟨_, rfl, digits_eq⟩]
        rfl
    | grpc named given =>
        have hstatus := Option.bind_eq_some_iff.2
          ⟨_, Json.Place.name?_inDirective_eq_some_iff.2 given,
            GrpcStatus.ofName?_eq_some_iff.2 named⟩
        refine (StatusValue.ofJson?_grpc .inDirective _).trans ?_
        exact congrArg (·.map StatusValue.grpc) hstatus

end FaultStatus
