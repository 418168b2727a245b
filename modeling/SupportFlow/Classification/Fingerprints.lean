import SupportFlow.Classification.OpeningRequest
import SupportFlow.Foundations.JsonLoads
import SupportFlow.Identity.Uuid

/-!
# Fingerprints identify their inputs

A fingerprint is the hash of a canonical text, and so is a configuration digest, one of whose items
is the hash of another canonical text. A text with sorted keys identifies the items of its
dictionary (`Json.perm_of_dumps_sortKeys`), whatever the strings in it contain. So canonical inputs
are equal when their five parts are (`canonicalInput_inj`), canonical scripts when the scripts are
(`ScriptedAnswer.canonical_inj`), and with an injective hash the same holds of the digests.

A script may raise any subclass of `ClassificationError`. Its fingerprint reads two texts of the
class (`ErrorClass`); the classes of `errors.py` are told apart by the first alone.
-/

namespace SupportFlow

open Python

theorem UUID.str_injective : Function.Injective UUID.str := fun a b h ↦ by
  have hparse := congrArg UUID.parse? h
  rw [UUID.parse?_str, UUID.parse?_str] at hparse
  exact Option.some.inj hparse

/-! ### Inputs -/

section Inputs

variable {subject subject' body body' policy policy' taxonomy taxonomy' : String}
  {messageId messageId' : Option UUID}

/-- The message of an input, as its text says it: an identifier or `null`. -/
def messageIdJson (messageId : Option UUID) : Json :=
  messageId.elim .null fun id ↦ .str id.str

theorem messageIdJson_injective : Function.Injective messageIdJson
  | none, none, _ => rfl
  | some _, some _, h => congrArg some (UUID.str_injective (Json.str.inj h))

theorem numberFree_inputIdentity :
    Json.numberFree (.obj (inputIdentity subject body messageId policy taxonomy)) = true := by
  cases messageId <;> rfl

theorem uniqueKeys_inputIdentity :
    Json.uniqueKeys (.obj (inputIdentity subject body messageId policy taxonomy)) = true := by
  cases messageId <;> rfl

/-- **A canonical input identifies its five parts.** -/
theorem canonicalInput_inj :
    canonicalInput subject body messageId policy taxonomy =
        canonicalInput subject' body' messageId' policy' taxonomy' ↔
      subject = subject' ∧ body = body' ∧ messageId = messageId' ∧ policy = policy' ∧
        taxonomy = taxonomy' := by
  constructor
  · intro h
    have hperm := Json.perm_of_dumps_sortKeys Json.Separators.blank_compact
      numberFree_inputIdentity uniqueKeys_inputIdentity numberFree_inputIdentity
      uniqueKeys_inputIdentity h
    have hvalue : ∀ {k v v'}, (k, v) ∈ inputIdentity subject body messageId policy taxonomy →
        (k, v') ∈ inputIdentity subject' body' messageId' policy' taxonomy' → v = v' :=
      Json.value_eq_of_perm hperm uniqueKeys_inputIdentity
    have hid : messageIdJson messageId = messageIdJson messageId' :=
      hvalue (.tail _ (.tail _ (.head _))) (.tail _ (.tail _ (.head _)))
    exact ⟨Json.str.inj (hvalue (.head _) (.head _)),
      Json.str.inj (hvalue (.tail _ (.head _)) (.tail _ (.head _))), messageIdJson_injective hid,
      Json.str.inj (hvalue (k := "input_policy_version") (by simp [inputIdentity])
        (by simp [inputIdentity])),
      Json.str.inj (hvalue (k := "taxonomy_version") (by simp [inputIdentity])
        (by simp [inputIdentity]))⟩
  · rintro ⟨rfl, rfl, rfl, rfl, rfl⟩
    rfl

end Inputs

/-! ### Scripts -/

/-- A subclass of `ClassificationError`, by its qualified name and its `category`. -/
structure ErrorClass where
  typeName : String
  category : String
  deriving DecidableEq, Repr

/-- A class of `errors.py`. -/
def ErrorClass.ofProviderError (type : ProviderError) : ErrorClass :=
  ⟨type.typeName, type.category⟩

theorem ErrorClass.ofProviderError_injective : Function.Injective ErrorClass.ofProviderError := by
  intro a b h
  have hname : a.typeName = b.typeName := congrArg ErrorClass.typeName h
  cases a <;> cases b <;> first | rfl | exact absurd hname (by decide)

/-- What a script may answer, with any error class. -/
inductive ScriptedAnswer
  | response (value : String)
  | error (type : ErrorClass)
  deriving DecidableEq, Repr

/-- A script of the application. -/
def Script.answer : Script → ScriptedAnswer
  | response value => .response value
  | error type => .error (.ofProviderError type)

theorem Script.answer_injective : Function.Injective Script.answer
  | response _, response _, h => congrArg response (ScriptedAnswer.response.inj h)
  | error _, error _, h =>
    congrArg error (ErrorClass.ofProviderError_injective (ScriptedAnswer.error.inj h))

namespace ScriptedAnswer

/-- The dictionary that describes a script. -/
def items : ScriptedAnswer → List (String × Json)
  | response value => [("kind", .str "response"), ("value", .str value)]
  | error type =>
    [("kind", .str "error"), ("type", .str type.typeName), ("category", .str type.category)]

/-- The dictionary that a script's fingerprint covers. -/
def envelope (script : ScriptedAnswer) : List (String × Json) :=
  [("version", .str "fake_script.v2"), ("script", .obj (Json.sortKeys script.items))]

/-- The canonical text of a script. -/
def canonical (script : ScriptedAnswer) : String :=
  Json.dumps .compact (.obj (Json.sortKeys script.envelope))

/-- `script_fingerprint`. -/
def fingerprint (sha256 : String → String) (script : ScriptedAnswer) : String :=
  sha256 script.canonical

theorem numberFree_items (script : ScriptedAnswer) :
    Json.numberFree (.obj script.items) = true := by
  cases script <;> rfl

theorem uniqueKeys_items (script : ScriptedAnswer) :
    Json.uniqueKeys (.obj script.items) = true := by
  cases script <;> rfl

theorem numberFree_envelope (script : ScriptedAnswer) :
    Json.numberFree (.obj script.envelope) = true := by
  have hitems := Json.numberFree_sortKeys.trans script.numberFree_items
  rw [Json.numberFree, Json.numberFreePairs_eq_all, envelope]
  simpa [Json.numberFree] using hitems

theorem uniqueKeys_envelope (script : ScriptedAnswer) :
    Json.uniqueKeys (.obj script.envelope) = true := by
  have hitems := Json.uniqueKeys_sortKeys.trans script.uniqueKeys_items
  rw [Json.uniqueKeys, Json.uniqueKeysPairs_eq_all, Bool.and_eq_true]
  exact ⟨rfl, by simp only [envelope, List.all_cons, List.all_nil, hitems]; rfl⟩

/-- The description of a script names it: the kind tells a text from an error. -/
theorem eq_of_perm_items {script script' : ScriptedAnswer}
    (h : script.items.Perm script'.items) : script = script' := by
  have hvalue : ∀ {k v v'}, (k, v) ∈ script.items → (k, v') ∈ script'.items → v = v' :=
    Json.value_eq_of_perm h script'.uniqueKeys_items
  rcases script with value | ⟨name, category⟩ <;> rcases script' with value' | ⟨name', category'⟩
  · exact congrArg response (Json.str.inj (hvalue (.tail _ (.head _)) (.tail _ (.head _))))
  · exact absurd (Json.str.inj (hvalue (.head _) (.head _))) (by decide)
  · exact absurd (Json.str.inj (hvalue (.head _) (.head _))) (by decide)
  · have hname := Json.str.inj (hvalue (.tail _ (.head _)) (.tail _ (.head _)))
    have hcategory := Json.str.inj
      (hvalue (.tail _ (.tail _ (.head _))) (.tail _ (.tail _ (.head _))))
    exact congrArg error (congrArg₂ ErrorClass.mk hname hcategory)

/-- **A canonical script identifies the script.** -/
theorem canonical_injective : Function.Injective canonical := by
  intro script script' h
  have hperm := Json.perm_of_dumps_sortKeys Json.Separators.blank_compact
    script.numberFree_envelope script.uniqueKeys_envelope script'.numberFree_envelope
    script'.uniqueKeys_envelope h
  have hitems := Json.value_eq_of_perm hperm script'.uniqueKeys_envelope
    (.tail _ (.head _)) (.tail _ (.head _))
  exact eq_of_perm_items (Json.perm_of_sortKeys_eq (Json.obj.inj hitems))

theorem fingerprint_inj {sha256 : String → String} (hsha : Function.Injective sha256)
    {script script' : ScriptedAnswer} :
    script.fingerprint sha256 = script'.fingerprint sha256 ↔ script = script' :=
  ⟨fun h ↦ canonical_injective (hsha h), fun h ↦ h ▸ rfl⟩

end ScriptedAnswer

/-! ### Configurations -/

/-- The items of a configuration digest. -/
def configurationItems (configurationVersion scriptFingerprint : String) : List Json :=
  [.str configurationVersion, .str scriptFingerprint, .str inputPolicyVersion,
    .str taxonomyVersion, .str schemaVersion, .str "scripted.v1", .str "fake.v1", .str "fake",
    .str "scripted-no-model"]

/-- `digest`, of a configuration version and a script. -/
def configurationDigest (sha256 : String → String) (configurationVersion : String)
    (script : ScriptedAnswer) : String :=
  sha256 <| Json.dumps .default <|
    .arr (configurationItems configurationVersion (script.fingerprint sha256))

theorem configurationDigest_inj {sha256 : String → String} (hsha : Function.Injective sha256)
    {version version' : String} {script script' : ScriptedAnswer} :
    configurationDigest sha256 version script = configurationDigest sha256 version' script' ↔
      version = version' ∧ script = script' := by
  constructor
  · intro h
    have htext := Json.dumps_injective Json.Separators.blank_default rfl rfl rfl rfl (hsha h)
    simp only [configurationItems, Json.arr.injEq, List.cons.injEq, Json.str.injEq,
      and_true] at htext
    exact ⟨htext.1, (ScriptedAnswer.fingerprint_inj hsha).1 htext.2⟩
  · rintro ⟨rfl, rfl⟩
    rfl

/-- The digest of a runtime is that of its version and its script. -/
theorem FakeClassificationRuntime.digest_eq (sha256 : String → String)
    (runtime : FakeClassificationRuntime) :
    runtime.digest sha256 =
      configurationDigest sha256 runtime.configurationVersion
        runtime.provider.response.answer := by
  have hscript : runtime.provider.response.json =
      .obj (Json.sortKeys runtime.provider.response.answer.items) := by
    cases runtime.provider.response <;> rfl
  rw [digest, FakeClassificationProvider.scriptFingerprint, hscript]
  rfl

/-- **Fingerprints and configuration digests identify their inputs.** Two prepared inputs have one
fingerprint exactly when the subject, the selected body, the selected message and the two versions
are the same; two runtimes have one digest exactly when their versions and their scripts are the
same, for scripts with any error class and for those of the application; and no text is taken for an
error. -/
theorem fingerprints_identify {sha256 : String → String} (hsha : Function.Injective sha256) :
    (∀ {subject subject' policy policy' taxonomy taxonomy' : String}
        {messages messages' : List OpeningMessage} {prepared prepared' : PreparedInput},
      prepareInput sha256 subject messages policy taxonomy = .ok prepared →
      prepareInput sha256 subject' messages' policy' taxonomy' = .ok prepared' →
      (prepared.fingerprint = prepared'.fingerprint ↔
        subject = subject' ∧ openingBody messages = openingBody messages' ∧
          (openingMessage messages).map OpeningMessage.id =
            (openingMessage messages').map OpeningMessage.id ∧
          policy = policy' ∧ taxonomy = taxonomy')) ∧
    (∀ {version version' : String} {script script' : ScriptedAnswer},
      configurationDigest sha256 version script = configurationDigest sha256 version' script' ↔
        version = version' ∧ script = script') ∧
    (∀ {runtime runtime' : FakeClassificationRuntime},
      runtime.digest sha256 = runtime'.digest sha256 ↔
        runtime.configurationVersion = runtime'.configurationVersion ∧
          runtime.provider.response = runtime'.provider.response) ∧
    ∀ version version' value type,
      configurationDigest sha256 version (.response value) ≠
        configurationDigest sha256 version' (.error type) := by
  refine ⟨fun h h' ↦ ?_, configurationDigest_inj hsha, ?_, fun version version' value type h ↦ ?_⟩
  · obtain ⟨hid, -, hfingerprint⟩ := of_prepareInput h
    obtain ⟨hid', -, hfingerprint'⟩ := of_prepareInput h'
    rw [hfingerprint, hfingerprint', hsha.eq_iff, canonicalInput_inj, hid, hid']
  · intro runtime runtime'
    rw [FakeClassificationRuntime.digest_eq, FakeClassificationRuntime.digest_eq,
      configurationDigest_inj hsha, Script.answer_injective.eq_iff]
  · exact ScriptedAnswer.noConfusion ((configurationDigest_inj hsha).1 h).2

namespace Sample

/-- Texts with their digests: two inputs, an answer that reads like an error, that error, and the
configurations of these two. -/
def digests : List (String × String) :=
  [("\x7b\"body\":\"\",\"input_policy_version\":\"opening_request.v1\",\"message_id\":null," ++
      "\"schema_version\":\"ticket_classification.v1\",\"subject\":\"a\"," ++
      "\"taxonomy_version\":\"support_categories.v1\"\x7d",
    "b3a3b3bf671bc7793388b8848851ada37c259acecc8a7deb9ecace2a3c0edeb1"),
    ("\x7b\"body\":\"\",\"input_policy_version\":\"opening_request.v1\",\"message_id\":null," ++
      "\"schema_version\":\"ticket_classification.v1\",\"subject\":\"a\\\"\"," ++
      "\"taxonomy_version\":\"support_categories.v1\"\x7d",
    "51c9c274fcdcead0c27395f09347627b4c746c54c01336d94d6fa230dd035cc3"),
    ("\x7b\"script\":\x7b\"kind\":\"response\",\"value\":\"input_too_large\"\x7d," ++
      "\"version\":\"fake_script.v2\"\x7d",
    "7b680719fa8be26a5d67a6ecf4e1d568ac9ed89c25cc882d12cd9c4f584ef061"),
    ("\x7b\"script\":\x7b\"category\":\"input_too_large\",\"kind\":\"error\"," ++
      "\"type\":\"app.classification.errors.InputTooLargeError\"\x7d," ++
      "\"version\":\"fake_script.v2\"\x7d",
    "63abe10bdcbe54c042d689b75c06585162d2ef8fd1c0ac15a19446b78a577ddb"),
    ("[\"v1\", \"7b680719fa8be26a5d67a6ecf4e1d568ac9ed89c25cc882d12cd9c4f584ef061\", " ++
      "\"opening_request.v1\", \"support_categories.v1\", \"ticket_classification.v1\", " ++
      "\"scripted.v1\", \"fake.v1\", \"fake\", \"scripted-no-model\"]",
    "fd7c86a09acc0a0e027f3778930a78fe719e7945b21b1a8dd27ce984e9740e53"),
    ("[\"v1\", \"63abe10bdcbe54c042d689b75c06585162d2ef8fd1c0ac15a19446b78a577ddb\", " ++
      "\"opening_request.v1\", \"support_categories.v1\", \"ticket_classification.v1\", " ++
      "\"scripted.v1\", \"fake.v1\", \"fake\", \"scripted-no-model\"]",
    "12ad763050a11edfda2226f3fb294b8591b4873dc4c5ba31dff86ec6ab6e0776")]

/-- SHA-256 on these texts, and one text for each other. -/
def sha256 (text : String) : String :=
  (digests.lookup text).getD ("?" ++ text)

theorem sha256_injective : Function.Injective sha256 := by
  have hnodup : (digests.map Prod.snd).Nodup := by decide +kernel
  have hhead : ∀ p ∈ digests, p.2.toList.head? ≠ some '?' := by decide +kernel
  have hnew : ∀ {text text' digest : String}, digests.lookup text = some digest →
      digest ≠ "?" ++ text' := fun hlookup heq ↦ by
    refine hhead _ (List.mem_of_lookup_eq_some hlookup) ?_
    rw [heq, String.toList_append]
    rfl
  intro a b h
  unfold sha256 at h
  rcases ha : digests.lookup a with - | digest <;> rcases hb : digests.lookup b with - | digest' <;>
    rw [ha, hb] at h
  · exact (String.append_right_inj _).1 h
  · exact absurd h.symm (hnew hb)
  · exact absurd h (hnew ha)
  · obtain rfl : digest = digest' := h
    exact (Prod.mk.inj (List.inj_on_of_nodup_map hnodup (List.mem_of_lookup_eq_some ha)
      (List.mem_of_lookup_eq_some hb) rfl)).1

/-- A ticket without messages. -/
def preparedPlain : PreparedInput where
  payload := ⟨"a", "", schemaVersion, taxonomyVersion⟩
  messageId := none
  fingerprint := "b3a3b3bf671bc7793388b8848851ada37c259acecc8a7deb9ecace2a3c0edeb1"
  insufficientContext := true

/-- Another, with a quotation mark in its subject. -/
def preparedQuoted : PreparedInput where
  payload := ⟨"a\"", "", schemaVersion, taxonomyVersion⟩
  messageId := none
  fingerprint := "51c9c274fcdcead0c27395f09347627b4c746c54c01336d94d6fa230dd035cc3"
  insufficientContext := true

theorem prepareInput_plain :
    prepareInput sha256 "a" [] inputPolicyVersion taxonomyVersion = .ok preparedPlain := by
  decide +kernel

theorem prepareInput_quoted :
    prepareInput sha256 "a\"" [] inputPolicyVersion taxonomyVersion = .ok preparedQuoted := by
  decide +kernel

end Sample

theorem fingerprints_identify_sample :
    Sample.preparedPlain.fingerprint ≠ Sample.preparedQuoted.fingerprint ∧
      configurationDigest Sample.sha256 "v1" (.response "input_too_large") =
        "fd7c86a09acc0a0e027f3778930a78fe719e7945b21b1a8dd27ce984e9740e53" ∧
      configurationDigest Sample.sha256 "v1" (.response "input_too_large") ≠
        configurationDigest Sample.sha256 "v1" (.error (.ofProviderError .inputTooLarge)) := by
  obtain ⟨hinput, -, -, hanswer⟩ := fingerprints_identify Sample.sha256_injective
  refine ⟨fun h ↦ ?_, by decide +kernel, hanswer _ _ _ _⟩
  have hsubject := ((hinput Sample.prepareInput_plain Sample.prepareInput_quoted).1 h).1
  exact absurd hsubject (by decide)

end SupportFlow
