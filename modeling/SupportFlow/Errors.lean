import Mathlib.Data.List.Infix
import SupportFlow.Foundations.Redaction

/-!
# Error responses

The response to a request that fails validation: `_safe_validation_errors` takes the input out of
every error whose location names a sensitive field, and the rest is sent back.

What the framework reports is a `FailedCheck` of the request: with most errors the value at their
location, but with a missing field the whole object around it. The location of such an error says
nothing about the other members of that object, so their values are echoed. The response is safe
exactly when no reported input has a sensitive member (`validation_errors_echo_iff`).
-/

namespace SupportFlow

open Python Python.Json

/-! ### Validation errors -/

/-- An error of `RequestValidationError.errors()`. -/
structure ValidationError where
  type : String
  loc : List PathPart
  msg : String
  /-- `none` when the error has no such key. -/
  input : Option Json
  ctx : Option Json

/-- `SENSITIVE_FIELD_MARKERS`. -/
def sensitiveFieldMarkers : List String :=
  ["password", "secret", "token"]

/-- `str(part)`. -/
def locText : PathPart → String
  | .key name => name
  | .index i => toString i

section Details

-- `lower` is `str.lower`.
variable (lower : String → String)

/-- A name in which a marker occurs, in any case. -/
def isSensitive (name : String) : Bool :=
  sensitiveFieldMarkers.any fun marker ↦ decide (marker.toList <:+: (lower name).toList)

/-- A location with a sensitive part. -/
def isSensitiveLoc (loc : List PathPart) : Bool :=
  loc.any fun part ↦ isSensitive lower (locText part)

/-- `_safe_validation_errors`. -/
def safeValidationErrors (errors : List ValidationError) : List ValidationError :=
  errors.map fun error ↦
    if isSensitiveLoc lower error.loc then { error with input := none } else error

end Details

/-- A part of a location, as JSON. -/
def locJson : PathPart → Json
  | .key name => .str name
  | .index i => .num (toString i)

/-- An error, as JSON. -/
def ValidationError.toJson (error : ValidationError) : Json :=
  .obj ([("type", .str error.type), ("loc", .arr (error.loc.map locJson)), ("msg", .str error.msg)]
    ++ error.input.toList.map (fun v ↦ ("input", v)) ++ error.ctx.toList.map fun v ↦ ("ctx", v))

/-- A `JSONResponse`. -/
structure JSONResponse where
  statusCode : ℕ
  content : Json
  headers : Option (List (String × String))

/-- `_error_response`. -/
def errorResponse (statusCode : ℕ) (code message : String) (details : Option Json)
    (headers : Option (List (String × String))) : JSONResponse where
  statusCode := statusCode
  content := .obj [("error", .obj [("code", .str code), ("message", .str message),
    ("details", details.getD .null)])]
  headers := headers

/-- `validation_exception_handler`, on the errors of a `RequestValidationError`. -/
def validationExceptionHandler (lower : String → String) (errors : List ValidationError) :
    JSONResponse :=
  errorResponse 422 "validation_error" "Request validation failed"
    (some (.arr ((safeValidationErrors lower errors).map ValidationError.toJson))) none

/-! ### Failed checks -/

/-- What an error reports as its input. -/
inductive ReportedInput
  /-- The value at its location. -/
  | value
  /-- The object around its location, as Pydantic does for a missing field. -/
  | enclosing
  /-- `None`, as FastAPI does for a missing parameter. -/
  | nothing
  /-- `{}`, as FastAPI does for a body that is not JSON. -/
  | empty

/-- A check that a request fails. Nothing here comes from the values that the request submits. -/
structure FailedCheck where
  type : String
  loc : List PathPart
  msg : String
  ctx : Option Json
  reported : ReportedInput

/-- The input that is reported for a request. -/
def FailedCheck.input (check : FailedCheck) (submitted : Json) : Json :=
  match check.reported with
  | .value => valueAtD check.loc submitted
  | .enclosing => valueAtD check.loc.dropLast submitted
  | .nothing => .null
  | .empty => .obj []

/-- The error that is reported for a request. -/
def FailedCheck.report (submitted : Json) (check : FailedCheck) : ValidationError where
  type := check.type
  loc := check.loc
  msg := check.msg
  input := some (check.input submitted)
  ctx := check.ctx

/-- The required fields of `RegisterRequest`. -/
def registerRequestFields : List String :=
  ["email", "password", "organization_name", "organization_slug"]

/-- The required fields of `LoginRequest`. -/
def loginRequestFields : List String :=
  ["email", "password"]

/-- The checks that a body fails for the required fields it leaves out. -/
def missingFields (fields : List String) (body : List (String × Json)) : List FailedCheck :=
  (fields.filter fun field ↦ (body.lookup field).isNone).map fun field ↦
    { type := "missing", loc := [.key "body", .key field], msg := "Field required", ctx := none,
      reported := .enclosing }

/-- A request with this body. -/
def requestWith (body : List (String × Json)) : Json :=
  .obj [("body", .obj body)]

/-! ### What is echoed -/

section Echo

variable (lower : String → String)

/-- A detail carries a value that was submitted under a sensitive key: its input stands under one,
or has one at some depth. -/
def Echoes (detail : ValidationError) : Prop :=
  ∃ v, detail.input = some v ∧
    (isSensitiveLoc lower detail.loc = true ∨ hasKey (isSensitive lower) v = true)

/-- An error that may be sent back: its location is sensitive, so that its input is left out, or its
input has no sensitive member at any depth. -/
def Harmless (error : ValidationError) : Prop :=
  isSensitiveLoc lower error.loc = true ∨
    ∀ v, error.input = some v → hasKey (isSensitive lower) v = false

variable {lower}

/-- **The details echo nothing exactly when every error is harmless.** -/
theorem forall_not_echoes_iff {errors : List ValidationError} :
    (∀ detail ∈ safeValidationErrors lower errors, ¬Echoes lower detail) ↔
      ∀ error ∈ errors, Harmless lower error := by
  rw [safeValidationErrors, List.forall_mem_map]
  refine forall₂_congr fun error _ ↦ ?_
  split
  · next hloc =>
    exact iff_of_true (fun ⟨_, hinput, _⟩ ↦ nomatch hinput) (Or.inl hloc)
  · next hloc =>
    constructor
    · intro h
      right
      intro v hv
      rw [← Bool.not_eq_true]
      exact fun hkey ↦ h ⟨v, hv, Or.inr hkey⟩
    · rintro (hloc' | hinput) ⟨v, hv, hsensitive⟩
      · exact hloc hloc'
      · rcases hsensitive with hloc' | hkey
        · exact hloc hloc'
        · rw [hinput v hv] at hkey
          cases hkey

/-- A location that is not sensitive goes through no sensitive member. -/
theorem confidential_of_not_sensitiveLoc {loc : List PathPart}
    (h : isSensitiveLoc lower loc = false) :
    ∀ part ∈ loc, part.confidential (isSensitive lower) = false := by
  intro part hpart
  have hfalse := List.any_eq_false.1 h part hpart
  cases part with
  | key name => exact Bool.eq_false_iff.2 hfalse
  | index i => rfl

/-- An input is read at a path that the location begins with, or it does not depend on the request
and has no members. -/
theorem FailedCheck.input_cases (check : FailedCheck) :
    (∃ path, path <+: check.loc ∧ ∀ submitted, check.input submitted = valueAtD path submitted) ∨
      ∃ v, hasKey (isSensitive lower) v = false ∧ ∀ submitted, check.input submitted = v := by
  unfold FailedCheck.input
  cases check.reported with
  | value => exact Or.inl ⟨check.loc, List.prefix_rfl, fun _ ↦ rfl⟩
  | enclosing => exact Or.inl ⟨check.loc.dropLast, List.dropLast_prefix _, fun _ ↦ rfl⟩
  | nothing => exact Or.inr ⟨.null, by rw [hasKey], fun _ ↦ rfl⟩
  | empty => exact Or.inr ⟨.obj [], by rw [hasKey, hasKeyPairs], fun _ ↦ rfl⟩

/-- **An input has no sensitive member exactly when it is the same for every request that differs
in sensitive values only.** -/
theorem FailedCheck.hasKey_input_iff {check : FailedCheck} {submitted : Json}
    (hloc : isSensitiveLoc lower check.loc = false) :
    hasKey (isSensitive lower) (check.input submitted) = false ↔
      ∀ submitted', SameBut (isSensitive lower) submitted submitted' →
        check.input submitted' = check.input submitted := by
  rcases check.input_cases with ⟨path, hinit, hinput⟩ | ⟨v, hkey, hinput⟩
  · have hpath : ∀ part ∈ path, part.confidential (isSensitive lower) = false := fun part hpart ↦
      confidential_of_not_sensitiveLoc hloc part (hinit.subset hpart)
    simp only [hinput]
    constructor
    · exact fun hkey submitted' hsame ↦ eq_of_sameBut (hsame.valueAtD hpath) hkey
    · intro h
      by_contra hkey
      obtain ⟨submitted', hsame, hne⟩ := exists_sameBut_ne hpath (Bool.not_eq_false _ ▸ hkey)
      exact hne (h submitted' hsame)
  · rw [hinput submitted]
    exact iff_of_true hkey fun submitted' _ ↦ hinput submitted'

theorem harmless_report_iff {check : FailedCheck} {submitted : Json} :
    Harmless lower (check.report submitted) ↔ isSensitiveLoc lower check.loc = true ∨
      hasKey (isSensitive lower) (check.input submitted) = false :=
  or_congr_right
    ⟨fun h ↦ h _ rfl, fun h _ hv ↦ Option.some.inj hv ▸ h⟩

end Echo

/-! ### The response -/

/-- The input can be read off the JSON of an error. -/
theorem ValidationError.input_of_toJson (error : ValidationError) (input : Option Json)
    (h : toJson { error with input := input } = toJson error) : input = error.input := by
  have hlist := List.append_cancel_left (List.append_cancel_right (Json.obj.inj h))
  have hinjective : Function.Injective fun v : Json ↦ ("input", v) :=
    fun _ _ heq ↦ (Prod.mk.inj heq).2
  have hinputs : input.toList = error.input.toList := List.map_injective_iff.2 hinjective hlist
  rw [← Option.head?_toList (o := input), hinputs, Option.head?_toList]

/-- The response tells the details apart. -/
theorem validationExceptionHandler_eq_iff {lower : String → String}
    {errors errors' : List ValidationError} :
    validationExceptionHandler lower errors = validationExceptionHandler lower errors' ↔
      (safeValidationErrors lower errors).map ValidationError.toJson =
        (safeValidationErrors lower errors').map ValidationError.toJson := by
  simp [validationExceptionHandler, errorResponse]

/-- Two requests that fail the same checks get the same response exactly when every input that is
sent back is the same. -/
theorem validationExceptionHandler_report_eq_iff {lower : String → String}
    {checks : List FailedCheck} {submitted submitted' : Json} :
    validationExceptionHandler lower (checks.map (FailedCheck.report submitted')) =
        validationExceptionHandler lower (checks.map (FailedCheck.report submitted)) ↔
      ∀ check ∈ checks, isSensitiveLoc lower check.loc = true ∨
        check.input submitted' = check.input submitted := by
  rw [validationExceptionHandler_eq_iff, safeValidationErrors, safeValidationErrors, List.map_map,
    List.map_map, List.map_map, List.map_map, List.map_inj_left]
  refine forall₂_congr fun check _ ↦ ?_
  simp only [Function.comp_apply, FailedCheck.report]
  cases hloc : isSensitiveLoc lower check.loc with
  | true => simp
  | false =>
    simp only [Bool.false_eq_true, if_false, false_or]
    constructor
    · intro h
      exact Option.some.inj (ValidationError.input_of_toJson (check.report submitted)
        (some (check.input submitted')) h)
    · intro h
      rw [h]

/-- **Validation errors echo secrets exactly through a harmful error.** Of any errors, the details
carry no value that was submitted under a sensitive key, if and only if every input whose error has
no sensitive location has no sensitive member at any depth. And that is when any two requests that
differ in such values only, and fail the same checks, get the same response. -/
theorem validation_errors_echo_iff (lower : String → String) :
    (∀ errors : List ValidationError,
      (∀ detail ∈ safeValidationErrors lower errors, ¬Echoes lower detail) ↔
        ∀ error ∈ errors, Harmless lower error) ∧
    ∀ (checks : List FailedCheck) (submitted : Json),
      (∀ submitted', SameBut (isSensitive lower) submitted submitted' →
        validationExceptionHandler lower (checks.map (FailedCheck.report submitted')) =
          validationExceptionHandler lower (checks.map (FailedCheck.report submitted))) ↔
        ∀ check ∈ checks, Harmless lower (check.report submitted) := by
  refine ⟨fun errors ↦ forall_not_echoes_iff, fun checks submitted ↦ ?_⟩
  simp only [validationExceptionHandler_report_eq_iff, harmless_report_iff]
  constructor
  · intro h check hcheck
    cases hloc : isSensitiveLoc lower check.loc with
    | true => exact Or.inl rfl
    | false =>
      right
      refine (FailedCheck.hasKey_input_iff hloc).2 fun submitted' hsame ↦ ?_
      exact (h submitted' hsame check hcheck).resolve_left (by simp [hloc])
  · intro h submitted' hsame check hcheck
    cases hloc : isSensitiveLoc lower check.loc with
    | true => exact Or.inl rfl
    | false =>
      right
      have hkey := (h check hcheck).resolve_left (by simp [hloc])
      exact (FailedCheck.hasKey_input_iff hloc).1 hkey submitted' hsame

/-- A login with a password and without an email address, which the response sends back. -/
theorem login_without_email_echoes :
    SameBut (isSensitive String.toLower)
        (requestWith [("password", .str "correct horse")])
        (requestWith [("password", .str "battery staple")]) ∧
      (let checks := missingFields loginRequestFields [("password", .str "correct horse")]
      checks = missingFields loginRequestFields [("password", .str "battery staple")] ∧
      (∃ detail ∈ safeValidationErrors String.toLower
          (checks.map (FailedCheck.report (requestWith [("password", .str "correct horse")]))),
        detail.loc = [.key "body", .key "email"] ∧
          detail.input = some (.obj [("password", .str "correct horse")])) ∧
      validationExceptionHandler String.toLower
          (checks.map (FailedCheck.report (requestWith [("password", .str "correct horse")]))) ≠
        validationExceptionHandler String.toLower
          (checks.map
            (FailedCheck.report (requestWith [("password", .str "battery staple")])))) := by
  have hbody : isSensitive String.toLower "body" = false := by decide +kernel
  have hemail : isSensitive String.toLower "email" = false := by decide +kernel
  have hpassword : isSensitive String.toLower "password" = true := by decide +kernel
  refine ⟨?_, rfl, ?_, ?_⟩
  · simp [SameBut, requestWith, redact, redactPairs, hbody, hpassword]
  · simp [safeValidationErrors, missingFields, loginRequestFields, FailedCheck.report,
      isSensitiveLoc, locText, hbody, hemail, FailedCheck.input, valueAtD, valueAt, child,
      requestWith]
  · rw [ne_eq, validationExceptionHandler_report_eq_iff]
    simp [missingFields, loginRequestFields, isSensitiveLoc, locText, hbody, hemail,
      FailedCheck.input, valueAtD, valueAt, child, requestWith]

/-! ### Missing fields -/

/-- **A body that leaves out required fields is echoed in full**: its errors are harmless only when
it has no sensitive member, or every field that it leaves out is sensitive itself. -/
theorem missingFields_harmless_iff {lower : String → String} {fields : List String}
    {body : List (String × Json)} (hbody : isSensitive lower "body" = false) :
    (∀ check ∈ missingFields fields body, Harmless lower (check.report (requestWith body))) ↔
      hasKey (isSensitive lower) (.obj body) = false ∨
        ∀ field ∈ fields, body.lookup field = none → isSensitive lower field = true := by
  have hharmless : ∀ field, Harmless lower (FailedCheck.report (requestWith body)
      { type := "missing", loc := [.key "body", .key field], msg := "Field required", ctx := none,
        reported := .enclosing }) ↔
      isSensitive lower field = true ∨ hasKey (isSensitive lower) (.obj body) = false := by
    intro field
    rw [harmless_report_iff]
    simp [isSensitiveLoc, locText, hbody, FailedCheck.input, valueAtD, valueAt, child, requestWith]
  simp only [missingFields, List.forall_mem_map, List.mem_filter, hharmless, and_imp,
    Option.isNone_iff_eq_none]
  constructor
  · intro h
    by_cases hkey : hasKey (isSensitive lower) (.obj body) = false
    · exact Or.inl hkey
    · exact Or.inr fun field hfield hnone ↦ (h field hfield hnone).resolve_right hkey
  · rintro (hkey | h) field hfield hnone
    · exact Or.inr hkey
    · exact Or.inl (h field hfield hnone)

end SupportFlow
