import SupportFlow.Classification.Schemas

/-!
# Input preparation

`prepare_input` selects the opening request of a ticket, the earliest message that the system did
not write, and fingerprints it. The hash is a parameter `sha256`, the hexadecimal digest of a text's
UTF-8 encoding; nothing here depends on which function it is.
-/

namespace SupportFlow

open Python

/-- `INPUT_POLICY_VERSION`. -/
def inputPolicyVersion : String :=
  "opening_request.v1"

/-- `TAXONOMY_VERSION`. -/
def taxonomyVersion : String :=
  "support_categories.v1"

/-- An aware `datetime`: its wall clock and its UTC offset, in microseconds. -/
structure AwareDatetime where
  wall : ℤ
  utcOffset : ℤ
  deriving DecidableEq, Repr

/-- `astimezone(UTC)`, as an instant. -/
def AwareDatetime.instant (d : AwareDatetime) : Instant :=
  d.wall - d.utcOffset

/-- An instant, shown in UTC. -/
def AwareDatetime.ofInstant (t : Instant) : AwareDatetime :=
  ⟨t, 0⟩

structure OpeningMessage where
  id : UUID
  createdAt : AwareDatetime
  authorType : MessageAuthorType
  body : String
  deriving DecidableEq, Repr

structure ProviderInput where
  subject : String
  body : String
  schemaVersion : String
  taxonomyVersion : String
  deriving DecidableEq, Repr

structure PreparedInput where
  payload : ProviderInput
  messageId : Option UUID
  fingerprint : String
  insufficientContext : Bool
  deriving DecidableEq, Repr

/-- What `prepare_input` raises. -/
inductive PrepareInputError
  | inputTooLarge
  | emptyInputVersions
  | duplicateMessageIdentity
  deriving DecidableEq, Repr

/-- The key of one message is below that of another: the instants, then the ids. -/
def OpeningMessage.Before (a b : OpeningMessage) : Prop :=
  a.createdAt.instant < b.createdAt.instant ∨
    a.createdAt.instant = b.createdAt.instant ∧ a.id.val < b.id.val

instance : DecidableRel OpeningMessage.Before :=
  fun _ _ ↦ inferInstanceAs (Decidable (_ ∨ _))

/-- The opening message: the least one the system did not write. -/
def openingMessage (messages : List OpeningMessage) : Option OpeningMessage :=
  least? OpeningMessage.Before (messages.filter fun message ↦ message.authorType ≠ .system)

/-- The dictionary that identifies an input. -/
def inputIdentity (subject body : String) (messageId : Option UUID)
    (inputPolicyVersion taxonomyVersion : String) : List (String × Json) :=
  [("subject", .str subject), ("body", .str body),
    ("message_id", messageId.elim .null fun id ↦ .str id.str),
    ("input_policy_version", .str inputPolicyVersion),
    ("taxonomy_version", .str taxonomyVersion), ("schema_version", .str schemaVersion)]

/-- The canonical text of an input. -/
def canonicalInput (subject body : String) (messageId : Option UUID)
    (inputPolicyVersion taxonomyVersion : String) : String :=
  Json.dumps .compact <| .obj <| Json.sortKeys <|
    inputIdentity subject body messageId inputPolicyVersion taxonomyVersion

/-- `prepare_input`. -/
def prepareInput (sha256 : String → String) (subject : String) (messages : List OpeningMessage)
    (inputPolicyVersion taxonomyVersion : String) : Except PrepareInputError PreparedInput :=
  if inputPolicyVersion = "" ∨ taxonomyVersion = "" then .error .emptyInputVersions
  else if 300 < subject.length then .error .inputTooLarge
  else if ¬(messages.map OpeningMessage.id).Nodup then .error .duplicateMessageIdentity
  else
    let opening := openingMessage messages
    let body := opening.elim "" OpeningMessage.body
    if 8000 < body.length then .error .inputTooLarge
    else
      .ok
        { payload := ⟨subject, body, schemaVersion, taxonomyVersion⟩
          messageId := opening.map OpeningMessage.id
          fingerprint := sha256 (canonicalInput subject body (opening.map OpeningMessage.id)
            inputPolicyVersion taxonomyVersion)
          insufficientContext := opening.isNone || (strip subject = "" && strip body = "") }

end SupportFlow
