import SupportFlow.Classification.Models

/-!
# Classification results

`ClassificationResult` and the parser of a provider's answer. The decoder `json.loads` is a
parameter: it turns a text into a JSON value whose objects still list every pair, which is what
`object_pairs_hook` is called with.
-/

namespace SupportFlow

open Python

/-- `SCHEMA_VERSION`. -/
def schemaVersion : String :=
  "ticket_classification.v1"

/-- **A classification result**: a category exactly when the outcome is `classified`. -/
structure ClassificationResult where
  outcome : ClassificationOutcome
  category : Option ClassificationCategory
  category_matches_outcome : outcome = .classified ↔ category.isSome
  deriving DecidableEq

namespace ClassificationResult

/-- Validate an outcome and a category. -/
def validate? (outcome : ClassificationOutcome) (category : Option ClassificationCategory) :
    Option ClassificationResult :=
  if h : outcome = .classified ↔ category.isSome then some ⟨outcome, category, h⟩ else none

/-- The local abstention. -/
def insufficientContext : ClassificationResult :=
  ⟨.insufficientContext, none, by simp⟩

theorem validate?_self (result : ClassificationResult) :
    validate? result.outcome result.category = some result :=
  dif_pos result.category_matches_outcome

end ClassificationResult

/-- The outcome of a label. -/
def ClassificationOutcome.ofValue? (value : String) : Option ClassificationOutcome :=
  [classified, insufficientContext].find? fun outcome ↦ outcome.value = value

/-- The category of a label. -/
def ClassificationCategory.ofValue? (value : String) : Option ClassificationCategory :=
  [accountAccess, billing, technicalIssue, howTo, featureRequest, other].find?
    fun category ↦ category.value = value

namespace ClassificationResult

/-- The outcome of a strict validation: a label and nothing else. -/
def outcome? : Json → Option ClassificationOutcome
  | .str value => ClassificationOutcome.ofValue? value
  | _ => none

/-- The category of a strict validation: a label or null. -/
def category? : Json → Option (Option ClassificationCategory)
  | .null => some none
  | .str value => (ClassificationCategory.ofValue? value).map some
  | _ => none

/-- `ClassificationResult.model_validate`, strict and with `extra="forbid"`. -/
def modelValidate : Json → Option ClassificationResult
  | .obj items =>
    if items.all fun item ↦ item.1 = "outcome" || item.1 = "category" then do
      let outcome ← outcome? (← items.lookup "outcome")
      let category ← category? (← items.lookup "category")
      validate? outcome category
    else none
  | _ => none

end ClassificationResult

/-- `parse_provider_output`; `none` is `InvalidProviderOutputError`. -/
def parseProviderOutput (loads : String → Option Json) (raw : String) :
    Option ClassificationResult :=
  if 4096 < raw.length then none
  else do
    let value ← loads raw
    if value.uniqueKeys then ClassificationResult.modelValidate value else none

end SupportFlow
