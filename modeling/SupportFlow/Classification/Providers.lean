import SupportFlow.Classification.Inputs

/-!
# The scripted provider and its runtime

The one provider the application accepts answers every payload from a script: a text, or an error
of one of the classes of `errors.py`. A runtime is a provider and a configuration version; its
digest covers both.
-/

namespace SupportFlow

open Python

/-- The classes of `errors.py`. -/
inductive ProviderError
  | classificationError
  | providerTimeout
  | providerUnavailable
  | providerRateLimited
  | providerAuthentication
  | invalidProviderOutput
  | inputTooLarge
  deriving DecidableEq, Repr

/-- The qualified name of an error class. -/
def ProviderError.typeName : ProviderError → String
  | classificationError => "app.classification.errors.ClassificationError"
  | providerTimeout => "app.classification.errors.ProviderTimeoutError"
  | providerUnavailable => "app.classification.errors.ProviderUnavailableError"
  | providerRateLimited => "app.classification.errors.ProviderRateLimitedError"
  | providerAuthentication => "app.classification.errors.ProviderAuthenticationError"
  | invalidProviderOutput => "app.classification.errors.InvalidProviderOutputError"
  | inputTooLarge => "app.classification.errors.InputTooLargeError"

/-- The `category` of an error class. -/
def ProviderError.category : ProviderError → String
  | classificationError => "classification_error"
  | providerTimeout => "provider_timeout"
  | providerUnavailable => "provider_unavailable"
  | providerRateLimited => "provider_rate_limited"
  | providerAuthentication => "provider_authentication"
  | invalidProviderOutput => "invalid_provider_output"
  | inputTooLarge => "input_too_large"

/-- What a fake provider answers. -/
inductive Script
  | response (value : String)
  | error (type : ProviderError)
  deriving DecidableEq, Repr

/-- The script as its fingerprint describes it. -/
def Script.json : Script → Json
  | response value =>
    .obj (Json.sortKeys [("kind", .str "response"), ("value", .str value)])
  | error type =>
    .obj (Json.sortKeys [("kind", .str "error"), ("type", .str type.typeName),
      ("category", .str type.category)])

structure FakeClassificationProvider where
  response : Script
  deriving DecidableEq, Repr

namespace FakeClassificationProvider

/-- `classify`: the scripted answer, whatever the payload. -/
def classify (provider : FakeClassificationProvider) (_payload : ProviderInput) :
    Except ProviderError String :=
  match provider.response with
  | .response value => .ok value
  | .error type => .error type

/-- `script_fingerprint`. -/
def scriptFingerprint (sha256 : String → String) (provider : FakeClassificationProvider) :
    String :=
  sha256 <| Json.dumps .compact <| .obj <| Json.sortKeys
    [("version", .str "fake_script.v2"), ("script", provider.response.json)]

end FakeClassificationProvider

structure FakeClassificationRuntime where
  provider : FakeClassificationProvider
  configurationVersion : String
  version_length : 1 ≤ configurationVersion.length ∧ configurationVersion.length ≤ 100
  deriving DecidableEq

/-- `digest`. -/
def FakeClassificationRuntime.digest (sha256 : String → String)
    (runtime : FakeClassificationRuntime) : String :=
  sha256 <| Json.dumps .default <| .arr
    [.str runtime.configurationVersion, .str (runtime.provider.scriptFingerprint sha256),
      .str inputPolicyVersion, .str taxonomyVersion, .str schemaVersion, .str "scripted.v1",
      .str "fake.v1", .str "fake", .str "scripted-no-model"]

/-- What a call knows after the provider's turn: a result to record, or the code of a failure and
whether the provider may have done the work all the same (`uncertain`). The call's three variables
never hold both or neither, so `assert result is not None` is this type. -/
inductive ProviderOutcome
  | result (result : ClassificationResult)
  | failure (code : ClassificationErrorCode) (uncertain : Bool)
  deriving DecidableEq

namespace ProviderOutcome

/-- The `except` clauses around the provider's call. -/
def ofError : ProviderError → ProviderOutcome
  | .providerTimeout => .failure .providerTimeout true
  | .providerUnavailable => .failure .providerUnavailable true
  | .providerRateLimited => .failure .providerRateLimited false
  | .providerAuthentication => .failure .providerAuthentication false
  | .invalidProviderOutput => .failure .invalidProviderOutput false
  | .classificationError | .inputTooLarge => .failure .providerUnavailable true

/-- The outcome of a provider's answer. -/
def ofReply (loads : String → Option Json) (reply : Except ProviderError String) :
    ProviderOutcome :=
  match reply with
  | .error type => ofError type
  | .ok raw =>
    match parseProviderOutput loads raw with
    | some parsed => .result parsed
    | none => ofError .invalidProviderOutput

end ProviderOutcome

end SupportFlow
