import SupportFlow.Audit.Service

/-!
# Classification operations

The rows of `classification_operations`, with the columns the application reads back. The columns
that record constants of the fake integration (policy, taxonomy, schema, prompt and adapter
versions, provider, model, mode) are written and never read, so they are left out.
-/

namespace SupportFlow

inductive ClassificationOutcome
  | classified
  | insufficientContext
  deriving DecidableEq, Repr

inductive ClassificationCategory
  | accountAccess
  | billing
  | technicalIssue
  | howTo
  | featureRequest
  | other
  deriving DecidableEq, Repr

/-- The stored value of an outcome. -/
def ClassificationOutcome.value : ClassificationOutcome → String
  | .classified => "classified"
  | .insufficientContext => "insufficient_context"

/-- The stored value of a category. -/
def ClassificationCategory.value : ClassificationCategory → String
  | .accountAccess => "account_access"
  | .billing => "billing"
  | .technicalIssue => "technical_issue"
  | .howTo => "how_to"
  | .featureRequest => "feature_request"
  | .other => "other"

/-- The safe codes of the application: an operation's `error_code`, and what an error response
carries. -/
inductive ClassificationErrorCode
  | providerTimeout
  | providerUnavailable
  | providerAuthentication
  | providerRateLimited
  | invalidProviderOutput
  | inputTooLarge
  | authorizationChanged
  | inputChanged
  | classificationUnknown
  | classificationInProgress
  | classificationForbidden
  | classificationDisabled
  | ticketNotFound
  deriving DecidableEq, Repr

/-- `ERROR_STATUS.get(code, 409)`. -/
def ClassificationErrorCode.errorStatus : ClassificationErrorCode → ℕ
  | .providerTimeout => 504
  | .providerUnavailable => 503
  | .providerAuthentication => 503
  | .providerRateLimited => 503
  | .invalidProviderOutput => 502
  | .inputTooLarge => 422
  | .authorizationChanged => 403
  | .inputChanged => 409
  | .classificationUnknown => 409
  | .classificationInProgress => 409
  | .classificationForbidden => 409
  | .classificationDisabled => 409
  | .ticketNotFound => 409

/-- What at most one operation may have: `uq_classification_identity`. -/
structure ClassificationIdentity where
  organizationId : UUID
  ticketId : UUID
  inputFingerprint : String
  configDigest : String
  deriving DecidableEq, Repr

/-- A row of `classification_operations`. -/
structure ClassificationOperation where
  id : UUID
  organizationId : UUID
  ticketId : UUID
  requestingActorUserId : UUID
  openingMessageId : Option UUID
  inputFingerprint : String
  configDigest : String
  configurationVersion : String
  state : ClassificationState
  outcome : Option ClassificationOutcome
  category : Option ClassificationCategory
  errorCode : Option ClassificationErrorCode
  attemptCount : ℕ
  elapsedMs : Option ℕ
  createdAt : Instant
  expiresAt : Instant
  completedAt : Option Instant
  deriving DecidableEq, Repr

/-- The identity of an operation. -/
def ClassificationOperation.identity (operation : ClassificationOperation) :
    ClassificationIdentity :=
  ⟨operation.organizationId, operation.ticketId, operation.inputFingerprint,
    operation.configDigest⟩

instance : PrimaryKey ClassificationOperation UUID :=
  ⟨ClassificationOperation.id⟩

end SupportFlow
