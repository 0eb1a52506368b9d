/-
Configurations survive their JSON form. A directive is taken in strictly,
which its written form passes: the tokens are plain and nested twice
(`isPlain_toJson`, `depth_toJson`), in a list once more. Its fields are read
off by their keys, no two of which are alike (`sole?_of_mem_writtenFields`),
and they give what the directive consists of (`GivenBy`).
-/
import FaultStatus.Proofs.Json.Form

namespace FaultStatus

open JsonForm

-- ============================================================== the fields

namespace Directive

/-- A directive whose code, if it has one, is canonical. -/
def IsCanonical : Directive → Prop
  | setDefault code _ | setOverride code _ | addPrefix code _ _ =>
    code.IsCanonical
  | setFallback _ => True

theorem Kind.ofName?_name (kind : Kind) : ofName? kind.name = some kind := by
  cases kind <;> decide +kernel

/-- The kind of a directive. -/
def kind : Directive → Kind
  | setDefault _ _ => .setDefault
  | setOverride _ _ => .setOverride
  | addPrefix _ _ _ => .addPrefix
  | setFallback _ => .setFallback

/-- The code that a row of fields gives. -/
def codeIn? (fields : List (Option String × Json)) : Option Code :=
  (Json.sole? "code" fields).bind JsonForm.ofJson?

/-- The pattern that a row of fields gives. -/
def patternIn? (fields : List (Option String × Json)) : Option String :=
  (Json.sole? "pattern" fields).bind Json.text?

/-- The status that a row of fields gives. -/
def statusIn? (fields : List (Option String × Json)) : Option StatusValue :=
  (Json.sole? "status" fields).bind (StatusValue.ofJson? .inDirective)

/-- The fields give all that the directive consists of. -/
def GivenBy (fields : List (Option String × Json)) : Directive → Prop
  | setDefault code status | setOverride code status =>
    codeIn? fields = some code ∧ statusIn? fields = some status
  | addPrefix code pattern status => codeIn? fields = some code
    ∧ patternIn? fields = some pattern ∧ statusIn? fields = some status
  | setFallback status => statusIn? fields = some status

theorem givenBy_of_ofFields? {kind : Kind}
    {fields : List (Option String × Json)} {directive : Directive}
    (h : ofFields? kind fields = some directive) :
    directive.kind = kind ∧ directive.GivenBy fields := by
  cases kind with
  | setDefault | setOverride =>
      obtain ⟨code, hcode, h⟩ := Option.bind_eq_some_iff.1 h
      obtain ⟨status, hstatus, h⟩ := Option.bind_eq_some_iff.1 h
      cases h
      exact ⟨rfl, hcode, hstatus⟩
  | addPrefix =>
      obtain ⟨value, hvalue, h⟩ := Option.bind_eq_some_iff.1 h
      obtain ⟨code, hcode, h⟩ := Option.bind_eq_some_iff.1 h
      obtain ⟨pattern, hpattern, h⟩ := Option.bind_eq_some_iff.1 h
      obtain ⟨status, hstatus, h⟩ := Option.bind_eq_some_iff.1 h
      cases h
      exact ⟨rfl, hcode,
        Option.bind_eq_some_iff.2 ⟨value, hvalue, hpattern⟩, hstatus⟩
  | setFallback =>
      obtain ⟨status, hstatus, h⟩ := Option.bind_eq_some_iff.1 h
      cases h
      exact ⟨rfl, hstatus⟩

theorem ofFields?_of_givenBy {fields : List (Option String × Json)}
    {directive : Directive} (h : directive.GivenBy fields) :
    ofFields? directive.kind fields = some directive := by
  cases directive with
  | setDefault code status | setOverride code status =>
      exact Option.bind_eq_some_iff.2 ⟨code, h.1,
        Option.bind_eq_some_iff.2 ⟨status, h.2, rfl⟩⟩
  | addPrefix code pattern status =>
      obtain ⟨value, hvalue, hpattern⟩ := Option.bind_eq_some_iff.1 h.2.1
      exact Option.bind_eq_some_iff.2 ⟨value, hvalue,
        Option.bind_eq_some_iff.2 ⟨code, h.1,
          Option.bind_eq_some_iff.2 ⟨pattern, hpattern,
            Option.bind_eq_some_iff.2 ⟨status, h.2.2, rfl⟩⟩⟩⟩
  | setFallback status => exact Option.bind_eq_some_iff.2 ⟨status, h, rfl⟩

theorem ofJson?_of_op {kind : Kind} {fields : List (Option String × Json)}
    (h : (Json.sole? "op" fields).bind Json.text? = some kind.name) :
    ofJson? (.object fields) = ofFields? kind fields := by
  obtain ⟨op, hop, hname⟩ := Option.bind_eq_some_iff.1 h
  rw [ofJson?, hop]
  show (op.text? >>= fun name => Kind.ofName? name >>= fun kind =>
    ofFields? kind fields) = _
  rw [hname]
  show (Kind.ofName? kind.name >>= fun kind => ofFields? kind fields) = _
  rw [Kind.ofName?_name]
  rfl

-- ======================================================== the written form

/-- The fields that a directive is written with. -/
def writtenFields (directive : Directive) : List (String × Json) :=
  ("op", .text directive.kind.name) :: match directive with
    | setDefault code status | setOverride code status =>
      [("code", JsonForm.toJson code), ("status", JsonForm.toJson status)]
    | addPrefix code pattern status =>
      [("code", JsonForm.toJson code), ("pattern", .text pattern),
        ("status", JsonForm.toJson status)]
    | setFallback status => [("status", JsonForm.toJson status)]

theorem toJson_eq_record (directive : Directive) :
    directive.toJson = .record directive.writtenFields := by
  cases directive <;> rfl

theorem nodup_keys (directive : Directive) :
    (directive.writtenFields.map Prod.fst).Nodup := by
  have hkeys : directive.writtenFields.map Prod.fst
      = "op" :: directive.kind.fields := by
    cases directive <;> rfl
  rw [hkeys]
  cases directive.kind <;> decide

/-- A field that a directive is written with is read off its object. -/
theorem sole?_of_mem_writtenFields {directive : Directive} {key : String}
    {value : Json} (h : (key, value) ∈ directive.writtenFields) :
    Json.sole? key (Json.keyed directive.writtenFields) = some value :=
  Json.sole?_of_mem directive.nodup_keys h

theorem givenBy_writtenFields {directive : Directive}
    (h : directive.IsCanonical) :
    directive.GivenBy (Json.keyed directive.writtenFields) := by
  have hcode : ∀ code : Code, code.IsCanonical →
      ("code", JsonForm.toJson code) ∈ directive.writtenFields →
      codeIn? (Json.keyed directive.writtenFields) = some code := by
    intro code hcode hmem
    rw [codeIn?, sole?_of_mem_writtenFields hmem, Option.bind_some]
    exact Code.ofJson?_toJson hcode
  have hpattern : ∀ pattern : String,
      ("pattern", .text pattern) ∈ directive.writtenFields →
      patternIn? (Json.keyed directive.writtenFields) = some pattern := by
    intro pattern hmem
    rw [patternIn?, sole?_of_mem_writtenFields hmem]
    rfl
  have hstatus : ∀ status : StatusValue,
      ("status", JsonForm.toJson status) ∈ directive.writtenFields →
      statusIn? (Json.keyed directive.writtenFields) = some status := by
    intro status hmem
    rw [statusIn?, sole?_of_mem_writtenFields hmem, Option.bind_some]
    exact status.ofJson?_toJson .inDirective
  cases directive with
  | setDefault code status | setOverride code status =>
      exact ⟨hcode code h (by simp [writtenFields]),
        hstatus status (by simp [writtenFields])⟩
  | addPrefix code pattern status =>
      exact ⟨hcode code h (by simp [writtenFields]),
        hpattern pattern (by simp [writtenFields]),
        hstatus status (by simp [writtenFields])⟩
  | setFallback status => exact hstatus status (by simp [writtenFields])

/-- A directive with a canonical code is what its value stands for. -/
theorem ofJson?_toJson {directive : Directive}
    (h : directive.IsCanonical) :
    ofJson? directive.toJson = some directive := by
  have hop : ("op", .text directive.kind.name) ∈ directive.writtenFields :=
    List.mem_cons_self
  rw [toJson_eq_record]
  show ofJson? (.object (Json.keyed directive.writtenFields)) = _
  refine (ofJson?_of_op ?_).trans
    (ofFields?_of_givenBy (givenBy_writtenFields h))
  rw [sole?_of_mem_writtenFields hop]
  rfl

theorem isPlain_toJson (directive : Directive) :
    directive.toJson.IsPlain := by
  rw [toJson_eq_record]
  refine Json.isPlain_record fun field hmem => ?_
  rcases List.mem_cons.1 hmem with rfl | hmem
  · exact Json.isPlain_text _
  · cases directive with
    | setDefault code status | setOverride code status =>
        simp only [List.mem_cons, List.not_mem_nil, or_false] at hmem
        rcases hmem with rfl | rfl
        · exact Json.isPlain_text code.text
        · exact status.isPlain_toJson
    | addPrefix code pattern status =>
        simp only [List.mem_cons, List.not_mem_nil, or_false] at hmem
        rcases hmem with rfl | rfl | rfl
        · exact Json.isPlain_text code.text
        · exact Json.isPlain_text pattern
        · exact status.isPlain_toJson
    | setFallback status =>
        rw [List.mem_singleton.1 hmem]
        exact status.isPlain_toJson

theorem depth_toJson (directive : Directive) :
    directive.toJson.depth = 2 := by
  cases directive with
  | setDefault _ status | setOverride _ status | addPrefix _ _ status
  | setFallback status => cases status <;> rfl

theorem isCanonical_of_ofFields? {kind : Kind}
    {fields : List (Option String × Json)} {directive : Directive}
    (h : ofFields? kind fields = some directive) :
    directive.IsCanonical := by
  obtain ⟨-, hgiven⟩ := givenBy_of_ofFields? h
  cases directive with
  | setDefault code status | setOverride code status
  | addPrefix code pattern status =>
      obtain ⟨value, -, hcode⟩ := Option.bind_eq_some_iff.1 hgiven.1
      exact Code.isCanonical_of_ofJson? hcode
  | setFallback status => trivial

theorem isCanonical_of_ofJson? {value : Json} {directive : Directive}
    (h : ofJson? value = some directive) : directive.IsCanonical := by
  unfold ofJson? at h
  split at h
  next fields =>
    obtain ⟨op, -, h⟩ := Option.bind_eq_some_iff.1 h
    obtain ⟨name, -, h⟩ := Option.bind_eq_some_iff.1 h
    obtain ⟨kind, -, h⟩ := Option.bind_eq_some_iff.1 h
    exact isCanonical_of_ofFields? h
  next op values =>
    obtain ⟨name, -, h⟩ := Option.bind_eq_some_iff.1 h
    obtain ⟨kind, -, h⟩ := Option.bind_eq_some_iff.1 h
    split at h
    · exact isCanonical_of_ofFields? h
    · cases h
  next => cases h

theorem survives : Survives Directive IsCanonical :=
  .of_value (fun directive => Json.readStrict?_render
      directive.isPlain_toJson (by
        rw [show (JsonForm.toJson directive).depth = 2 from
          directive.depth_toJson]
        decide))
    (fun _ => ofJson?_toJson) (fun _ _ => isCanonical_of_ofJson?)

-- ==================================================================== lists

theorem mapM_ofJson?_toJson {directives : List Directive}
    (h : ∀ directive ∈ directives, directive.IsCanonical) :
    (directives.map toJson).mapM ofJson? = some directives := by
  induction directives with
  | nil => rfl
  | cons directive directives ih =>
      obtain ⟨hfirst, hrest⟩ := List.forall_mem_cons.1 h
      rw [List.map_cons, List.mapM_cons, ofJson?_toJson hfirst, ih hrest]
      rfl

theorem isCanonical_of_mapM_ofJson? {values : List Json}
    {directives : List Directive}
    (h : values.mapM ofJson? = some directives) :
    ∀ directive ∈ directives, directive.IsCanonical := by
  induction values generalizing directives with
  | nil =>
      cases h
      intro directive hmem
      cases hmem
  | cons value values ih =>
      rw [List.mapM_cons] at h
      obtain ⟨first, hfirst, h⟩ := Option.bind_eq_some_iff.1 h
      obtain ⟨rest, hrest, h⟩ := Option.bind_eq_some_iff.1 h
      cases h
      exact List.forall_mem_cons.2 ⟨isCanonical_of_ofJson? hfirst, ih hrest⟩

theorem itemsDepth_map_toJson (directives : List Directive) :
    Json.itemsDepth (directives.map toJson) ≤ 2 := by
  induction directives with
  | nil => decide
  | cons directive directives ih =>
      rw [List.map_cons, Json.itemsDepth, depth_toJson]
      omega

theorem survives_list : Survives (List Directive) fun directives =>
    ∀ directive ∈ directives, directive.IsCanonical := by
  refine .of_value (fun directives => ?_) (fun directives h => ?_)
    (fun value directives h => ?_)
  · refine Json.readStrict?_render (Json.isPlain_array fun item hmem => ?_) ?_
    · obtain ⟨directive, -, rfl⟩ := List.mem_map.1 hmem
      exact directive.isPlain_toJson
    · have hdepth := itemsDepth_map_toJson directives
      show Json.itemsDepth (directives.map toJson) + 1 ≤ 127
      omega
  · exact mapM_ofJson?_toJson h
  · cases value with
    | array values => exact isCanonical_of_mapM_ofJson? h
    | null | bool | number | string | object => cases h

end Directive

-- =============================================================== the whole

/-- Codes, reasons, statuses, directives and lists of directives survive
their JSON form. Canonical are the codes and reasons that are parsed from
some text. -/
theorem JsonForm.configuration_survives :
    Survives Code Code.IsCanonical
      ∧ Survives Reason Reason.IsCanonical
      ∧ Survives Status (fun _ => True)
      ∧ Survives StatusValue (fun _ => True)
      ∧ Survives Directive Directive.IsCanonical
      ∧ Survives (List Directive) (fun directives =>
          ∀ directive ∈ directives, directive.IsCanonical)
      ∧ (∀ code : Code, code.IsCanonical ↔ ∃ s, Code.parse s = .ok code)
      ∧ ∀ reason : Reason,
          reason.IsCanonical ↔ ∃ s, Reason.parse s = .ok reason :=
  ⟨Code.survives, Reason.survives, Status.survives, StatusValue.survives,
    Directive.survives, Directive.survives_list,
    fun _ => Code.isCanonical_iff, fun _ => Reason.isCanonical_iff⟩

/-- Two directives in no form that is ever written: keys in another order
and one that means nothing, a second name of a status, other spellings of
codes, an array for an object and a character by its number. -/
def unsettledText : String :=
  "[ \x7b\"status\": \x7b\"grpc\":\"CANCELED\"\x7d, \"note\": [1.5e3],"
    ++ " \"code\": \" Not-Found \", \"op\": \"set_default\"\x7d,"
    ++ " [\"add_prefix\", \"TIMEOUT\", \"a/\\u0042\\n\", \x7b\"http\": 504\x7d]]"

/-- The written form of what it denotes. -/
def settledText : String :=
  "[\x7b\"op\":\"set_default\",\"code\":\"not_found\","
    ++ "\"status\":\x7b\"grpc\":\"CANCELLED\"\x7d\x7d,"
    ++ "\x7b\"op\":\"add_prefix\",\"code\":\"timeout\","
    ++ "\"pattern\":\"a/B\\n\",\"status\":\x7b\"http\":504\x7d\x7d]"

/-- The directives themselves. -/
def settledDirectives : List Directive :=
  [.setDefault ⟨"not_found"⟩ (.grpc .canceled),
    .addPrefix ⟨"timeout"⟩ "a/B\n" (.http 504)]

theorem JsonForm.read?_settledText :
    read? unsettledText = some settledDirectives
      ∧ (∀ directive ∈ settledDirectives, directive.IsCanonical)
      ∧ write settledDirectives = settledText
      ∧ read? settledText = some settledDirectives := by
  have hread : read? unsettledText = some settledDirectives := by
    decide +kernel
  have hwrite : write settledDirectives = settledText := by
    decide +kernel
  obtain ⟨-, -, -, -, -, hlist, -⟩ := configuration_survives
  obtain ⟨hcanonical, hback⟩ := hlist.normal unsettledText _ hread
  rw [hwrite] at hback
  exact ⟨hread, hcanonical, hwrite, hback⟩

end FaultStatus
