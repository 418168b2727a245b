import SupportFlow.Foundations.JsonDocuments

/-!
# Task definitions

`render_task_definition` writes a task definition with the release image, and
`assert_task_definition_digest` checks the image of a document that was written. Both start from a
text: how the interpreter reads numbers and how deep it recurses is a parameter (`Interpreter`).

**Rendering changes what it says and nothing else** (`render_changes_only`): the seven fields that
are read-only are gone, the named container has the image, and every other value is the source's.

Both sides take off a layer `taskDefinition` when there is one. The producer takes it off the
source, and the checker takes one off what was written; so the document passes its check exactly
when what is below the producer's layer has no such layer left, or when that layer happens to pass
by itself (`render_checked_iff`).
-/

namespace SupportFlow.Release

open Python Json

/-- What the commands raise: a `ReleaseContractError` with its message, and what they let through.
-/
inductive ReleaseFailure
  | releaseContractError (message : String)
  | recursionError
  | valueError
  | attributeError
  deriving DecidableEq, Repr

/-- The interpreter: how deep it recurses, the literal it writes for the number that a literal
stands for, and `repr` of a string. What it writes is a number, and it reads the same number back.
An integer of too many digits is none. -/
structure Interpreter where
  recursionLimit : ℕ
  number : String → Option String
  number_plain {literal literal' : String} :
    number literal = some literal' → PlainText (.num literal') literal'.toList
  number_idem {literal literal' : String} :
    number literal = some literal' → number literal' = some literal'
  repr : String → String

/-- What `json.loads` raises. -/
inductive LoadsError
  | jsonDecodeError
  | recursionError
  | valueError

/-- `json.loads`. -/
def loader (python : Interpreter) : Loader LoadsError where
  recursionLimit := python.recursionLimit
  raises
    | .malformed => .jsonDecodeError
    | .recursion => .recursionError
  parseNumber literal :=
    match python.number literal with
    | some number => .ok number
    | none => .error .valueError
  objectPairsHook pairs := .ok (dict pairs)

/-- `json.loads(path.read_text(encoding="utf-8"))` under `except (OSError, json.JSONDecodeError)`; a
file that cannot be read has no text. -/
def readDocument (python : Interpreter) (message : String) (text : Option String) :
    Except ReleaseFailure Json :=
  match text with
  | none => .error (.releaseContractError message)
  | some text =>
    match (loader python).loads text with
    | .ok value => .ok value
    | .error .jsonDecodeError => .error (.releaseContractError message)
    | .error .recursionError => .error .recursionError
    | .error .valueError => .error .valueError

/-- `SHA256_DIGEST.fullmatch`. -/
def isSha256Digest (digest : String) : Bool :=
  "sha256:".toList.isPrefixOf digest.toList &&
    (digest.toList.drop 7).length = 64 &&
    (digest.toList.drop 7).all fun c ↦ ('0' ≤ c && c ≤ '9') || ('a' ≤ c && c ≤ 'f')

/-- `validate_image_uri`: the repository and the digest. -/
def validateImageUri (imageUri : String) : Except ReleaseFailure (String × String) :=
  match rsplitOnce '@' (strip imageUri) with
  | none =>
    .error (.releaseContractError "release image must use an immutable @sha256 digest")
  | some (repository, digest) =>
    if repository = "" ∨ isSha256Digest digest = false then
      .error (.releaseContractError "release image must contain a valid sha256 digest")
    else .ok (repository, digest)

/-- The fields that `_task_definition_payload` pops. -/
def readOnlyFields : List String :=
  ["taskDefinitionArn", "revision", "status", "requiresAttributes", "compatibilities",
    "registeredAt", "registeredBy"]

/-- `_task_definition_payload`. -/
def taskDefinitionPayload (source : List (String × Json)) : List (String × Json) :=
  readOnlyFields.foldl (fun payload field ↦ payload.filter fun item ↦ item.1 ≠ field) source

/-- The object under `taskDefinition`, if there is one. -/
def nested? (document : List (String × Json)) : Option (List (String × Json)) :=
  match document.lookup "taskDefinition" with
  | some (.obj nested) => some nested
  | _ => none

/-- A document without its layer `taskDefinition`. -/
def unwrap (document : List (String × Json)) : List (String × Json) :=
  (nested? document).getD document

/-- `isinstance(item, dict) and item.get("name") == container_name`. -/
def isNamed (containerName : String) : Json → Bool
  | .obj item =>
    match item.lookup "name" with
    | some (.str name) => name = containerName
    | _ => false
  | _ => false

/-- `matches[0]["image"] = image_uri`. -/
def setImage (imageUri : String) : Json → Json
  | .obj item => .obj (setItem item "image" (.str imageUri))
  | item => item

/-- There is not exactly one such container. -/
def containerMessage (python : Interpreter) (containerName : String) : String :=
  "ECS task definition must contain exactly one " ++ python.repr containerName ++ " container"

/-- The document that is written for a source. The one container that is changed is changed in the
list of the payload. -/
def renderPayload (python : Interpreter) (imageUri containerName : String)
    (source : List (String × Json)) : Except ReleaseFailure (List (String × Json)) :=
  let payload := taskDefinitionPayload (unwrap source)
  match payload.lookup "containerDefinitions" with
  | some (.arr containers) =>
    match containers.filter (isNamed containerName) with
    | [_] =>
      .ok (setItem payload "containerDefinitions"
        (.arr (containers.map fun item ↦
          if isNamed containerName item then setImage imageUri item else item)))
    | _ => .error (.releaseContractError (containerMessage python containerName))
  | _ => .error (.releaseContractError "ECS task definition has no containerDefinitions")

/-- `render_task_definition`: the text it writes. -/
def renderTaskDefinition (python : Interpreter) (sourcePath : String) (source : Option String)
    (imageUri containerName : String) : Except ReleaseFailure String := do
  let _ ← validateImageUri imageUri
  let source ← readDocument python ("cannot read ECS task definition: " ++ sourcePath) source
  match source with
  | .obj source =>
    let payload ← renderPayload python imageUri containerName source
    .ok (dumpsIndent 2 (.obj payload) ++ "\n")
  | _ => .error (.releaseContractError "ECS task definition must be a JSON object")

/-- **The written document is the source**, but for the read-only fields, which are gone, and for
the image of the one container of the name. -/
structure OnlyReleases (imageUri containerName : String) (source written : List (String × Json)) :
    Prop where
  removed : ∀ field ∈ readOnlyFields, written.lookup field = none
  kept : ∀ key, key ∉ readOnlyFields → key ≠ "containerDefinitions" →
    written.lookup key = source.lookup key
  order : written.map Prod.fst = (source.map Prod.fst).filter (· ∉ readOnlyFields)
  container : ∃ front item item' back,
    source.lookup "containerDefinitions" = some (.arr (front ++ .obj item :: back)) ∧
      written.lookup "containerDefinitions" = some (.arr (front ++ .obj item' :: back)) ∧
      isNamed containerName (.obj item) = true ∧
      (∀ other ∈ front ++ back, isNamed containerName other = false) ∧
      item'.lookup "image" = some (.str imageUri) ∧
      ∀ key, key ≠ "image" → item'.lookup key = item.lookup key

theorem taskDefinitionPayload_eq (source : List (String × Json)) :
    taskDefinitionPayload source = source.filter fun item ↦ item.1 ∉ readOnlyFields := by
  have hfold : ∀ (fields : List String) (source : List (String × Json)),
      fields.foldl (fun payload field ↦ payload.filter fun item ↦ item.1 ≠ field) source =
        source.filter fun item ↦ item.1 ∉ fields := by
    intro fields
    induction fields with
    | nil => simp
    | cons field fields ih =>
      intro source
      rw [List.foldl_cons, ih, List.filter_filter]
      refine List.filter_congr fun item _ ↦ ?_
      simp [List.mem_cons, not_or, Bool.and_comm]
  exact hfold readOnlyFields source

theorem lookup_taskDefinitionPayload (source : List (String × Json)) (key : String) :
    (taskDefinitionPayload source).lookup key =
      if key ∈ readOnlyFields then none else source.lookup key := by
  rw [taskDefinitionPayload_eq]
  have hfilter := lookup_filter source (fun key ↦ decide (key ∉ readOnlyFields)) key
  rw [hfilter]
  simp

variable {python : Interpreter} {imageUri containerName : String}

/-- **What is rendered**: the payload of the source, with one container released. -/
theorem of_renderPayload {source payload : List (String × Json)}
    (h : renderPayload python imageUri containerName source = .ok payload) :
    ∃ front item back,
      (unwrap source).lookup "containerDefinitions" = some (.arr (front ++ .obj item :: back)) ∧
        isNamed containerName (.obj item) = true ∧
        (∀ other ∈ front ++ back, isNamed containerName other = false) ∧
        payload = setItem (taskDefinitionPayload (unwrap source)) "containerDefinitions"
          (.arr (front ++ .obj (setItem item "image" (.str imageUri)) :: back)) := by
  unfold renderPayload at h
  dsimp only at h
  split at h
  · next containers hcontainers =>
    rw [lookup_taskDefinitionPayload, if_neg (by decide)] at hcontainers
    split at h
    · next named hfilter =>
      obtain ⟨front, back, rfl, hfront, hnamed, hback⟩ := List.filter_eq_cons_iff.1 hfilter
      rw [List.filter_eq_nil_iff] at hback
      obtain ⟨item, rfl⟩ : ∃ item, named = .obj item := by
        cases named with
        | obj item => exact ⟨item, rfl⟩
        | null | bool | num | str | arr => cases hnamed
      have hothers : ∀ other ∈ front ++ back, isNamed containerName other = false := by
        intro other hother
        rcases List.mem_append.1 hother with hother | hother
        · exact Bool.eq_false_iff.2 (hfront other hother)
        · exact Bool.eq_false_iff.2 (hback other hother)
      have hmap (items : List Json) (hitems : ∀ other ∈ items, other ∈ front ++ back) :
          (items.map fun item ↦
            if isNamed containerName item then setImage imageUri item else item) = items := by
        refine (List.map_congr_left fun other hother ↦ ?_).trans (List.map_id items)
        rw [hothers other (hitems other hother)]
        rfl
      refine ⟨front, item, back, hcontainers, hnamed, hothers, ?_⟩
      rw [← Except.ok.inj h, List.map_append, List.map_cons, if_pos hnamed,
        hmap front fun _ ↦ List.mem_append_left _, hmap back fun _ ↦ List.mem_append_right _]
      rfl
    · cases h
  · cases h

/-- **Rendering changes the image and removes the read-only fields**, in any document. -/
theorem renderPayload_onlyReleases {source payload : List (String × Json)}
    (h : renderPayload python imageUri containerName source = .ok payload) :
    OnlyReleases imageUri containerName (unwrap source) payload := by
  obtain ⟨front, item, back, hcontainers, hnamed, hothers, rfl⟩ := of_renderPayload h
  have hkey : "containerDefinitions" ∉ readOnlyFields := by decide
  refine ⟨fun field hfield ↦ ?_, fun key hkey hne ↦ ?_, ?_, front, item,
    setItem item "image" (.str imageUri), back, hcontainers, ?_, hnamed, hothers, ?_,
    fun key hne ↦ ?_⟩
  · have hne : field ≠ "containerDefinitions" := fun heq ↦ hkey (heq ▸ hfield)
    rw [lookup_setItem, if_neg hne, lookup_taskDefinitionPayload, if_pos hfield]
  · rw [lookup_setItem, if_neg hne, lookup_taskDefinitionPayload, if_neg hkey]
  · have hmem : "containerDefinitions" ∈ (taskDefinitionPayload (unwrap source)).map Prod.fst := by
      have hlookup := lookup_taskDefinitionPayload (unwrap source) "containerDefinitions"
      rw [if_neg hkey, hcontainers] at hlookup
      exact List.mem_map_of_mem (List.mem_of_lookup_eq_some hlookup)
    rw [keys_setItem, if_pos hmem, taskDefinitionPayload_eq, List.filter_map]
    rfl
  · rw [lookup_setItem, if_pos rfl]
  · rw [lookup_setItem, if_pos rfl]
  · rw [lookup_setItem, if_neg hne]

/-! ### What is written can be read -/

theorem loader_idempotent (python : Interpreter) : (loader python).Idempotent where
  parseNumber {literal literal'} h := by
    have hnumber : python.number literal = some literal' := by
      dsimp only [loader] at h
      split at h
      · next number hnumber => rw [hnumber, Except.ok.inj h]
      · cases h
    show (match python.number literal' with | some number => _ | none => _) = _
    rw [python.number_idem hnumber]
  objectPairsHook {ps qs} h := by
    obtain rfl := Except.ok.inj h
    exact congrArg Except.ok (dict_of_nodup (nodup_dict ps))
  subset {ps qs} h := by
    obtain rfl := Except.ok.inj h
    exact dict_subset ps

theorem loader_plain {literal literal' : String}
    (h : (loader python).parseNumber literal = .ok literal') :
    PlainText (.num literal') literal'.toList := by
  dsimp only [loader] at h
  split at h
  · next number hnumber =>
    rw [← Except.ok.inj h]
    exact python.number_plain hnumber
  · cases h

/-- A document as it is loaded: no key occurs twice, and its values are loaded as they stand. -/
def Loaded (python : Interpreter) (document : List (String × Json)) : Prop :=
  (loader python).convert (.obj document) = .ok (.obj document)

theorem loaded_iff {document : List (String × Json)} :
    Loaded python document ↔
      (∀ item ∈ document, (loader python).convert item.2 = .ok item.2) ∧
        (document.map Prod.fst).Nodup := by
  have hhook : (loader python).objectPairsHook document = .ok document ↔
      (document.map Prod.fst).Nodup := by
    show Except.ok (dict document) = .ok document ↔ _
    rw [Except.ok.injEq]
    exact ⟨fun h ↦ h ▸ nodup_dict document, dict_of_nodup⟩
  rw [Loaded, Loader.convert_obj_self_iff (loader_idempotent python), hhook]

/-- The value of a loaded document is loaded. -/
theorem Loaded.value {document : List (String × Json)} (h : Loaded python document) {k : String}
    {v : Json} (hv : document.lookup k = some v) : (loader python).convert v = .ok v :=
  (loaded_iff.1 h).1 _ (List.mem_of_lookup_eq_some hv)

theorem Loaded.setItem {document : List (String × Json)} (h : Loaded python document) (k : String)
    {v : Json} (hv : (loader python).convert v = .ok v) :
    Loaded python (Json.setItem document k v) := by
  obtain ⟨hvalues, hkeys⟩ := loaded_iff.1 h
  refine loaded_iff.2 ⟨fun item hitem ↦ ?_, nodup_setItem hkeys k v⟩
  rcases mem_of_mem_setItem hitem with hitem | rfl
  · exact hvalues item hitem
  · exact hv

theorem Loaded.unwrap {document : List (String × Json)} (h : Loaded python document) :
    Loaded python (unwrap document) := by
  unfold Release.unwrap nested?
  split
  · next nested hnested => exact h.value hnested
  · exact h

theorem Loaded.taskDefinitionPayload {document : List (String × Json)}
    (h : Loaded python document) : Loaded python (taskDefinitionPayload document) := by
  obtain ⟨hvalues, hkeys⟩ := loaded_iff.1 h
  rw [taskDefinitionPayload_eq]
  refine loaded_iff.2 ⟨fun item hitem ↦ hvalues item (List.mem_of_mem_filter hitem), ?_⟩
  exact hkeys.sublist (List.filter_sublist.map Prod.fst)

theorem depthPairs_unwrap_le (document : List (String × Json)) :
    depthPairs (unwrap document) ≤ depthPairs document := by
  unfold unwrap nested?
  split
  · next nested hnested =>
    have hdepth := depthPairs_le_iff.1 le_rfl _ (List.mem_of_lookup_eq_some hnested)
    exact (Nat.le_succ _).trans hdepth
  · exact le_rfl

theorem depthPairs_taskDefinitionPayload_le (document : List (String × Json)) :
    depthPairs (taskDefinitionPayload document) ≤ depthPairs document := by
  rw [taskDefinitionPayload_eq]
  exact depthPairs_le_iff.2 fun item hitem ↦
    depthPairs_le_iff.1 le_rfl item (List.mem_of_mem_filter hitem)

/-- **What is rendered is loaded as it stands**, and is nested no deeper than the source. -/
theorem loaded_renderPayload {source payload : List (String × Json)}
    (hsource : Loaded python source)
    (h : renderPayload python imageUri containerName source = .ok payload) :
    Loaded python payload ∧ depthPairs payload ≤ depthPairs source := by
  obtain ⟨front, item, back, hcontainers, -, -, rfl⟩ := of_renderPayload h
  have hunwrap := hsource.unwrap
  have harr := Loader.convert_arr_self_iff.1 (hunwrap.value hcontainers)
  have hitem : Loaded python item := harr _ (by simp)
  have hlist : ∀ {P : Json → Prop}, (∀ v ∈ front ++ .obj item :: back, P v) → ∀ {w : Json}, P w →
      ∀ v ∈ front ++ w :: back, P v := by
    intro P hall w hw v hv
    rcases List.mem_append.1 hv with hv | hv
    · exact hall v (List.mem_append_left _ hv)
    · rcases List.mem_cons.1 hv with rfl | hv
      · exact hw
      · exact hall v (List.mem_append_right _ (List.mem_cons_of_mem _ hv))
  constructor
  · refine hunwrap.taskDefinitionPayload.setItem _ (Loader.convert_arr_self_iff.2 ?_)
    exact hlist harr (hitem.setItem "image" rfl)
  · have hdepth : depth (.arr (front ++ .obj item :: back)) ≤ depthPairs source :=
      (depthPairs_le_iff.1 le_rfl _ (List.mem_of_lookup_eq_some hcontainers)).trans
        (depthPairs_unwrap_le source)
    refine depthPairs_setItem_le ((depthPairs_taskDefinitionPayload_le _).trans
      (depthPairs_unwrap_le source)) _ (le_trans (Nat.succ_le_succ ?_) hdepth)
    have hitems := depthItems_le_iff.1 (le_refl (depthItems (front ++ .obj item :: back)))
    refine depthItems_le_iff.2 (hlist hitems ?_)
    have hone : depthPairs item + 1 ≤ depthItems (front ++ .obj item :: back) :=
      hitems (.obj item) (by simp)
    have hzero : depth (.str imageUri) ≤ depthPairs item := Nat.zero_le _
    have hset := depthPairs_setItem_le (le_refl (depthPairs item)) "image" hzero
    exact (Nat.succ_le_succ hset).trans hone

/-- **The text that is written is loaded as the document it was written from.** -/
theorem loads_dumpsIndent {document : List (String × Json)} (h : Loaded python document)
    (hdepth : depthPairs document + 1 ≤ python.recursionLimit) :
    (loader python).loads (dumpsIndent 2 (.obj document) ++ "\n") = .ok (.obj document) := by
  have hprintable := Loader.printable (loader_idempotent python) loader_plain h
  have hblank : Blanks "\n".toList := List.forall_mem_singleton.2 rfl
  exact Loader.loads_eq_ok_iff.2
    ⟨.obj document, jsonText_dumpsIndent 2 hprintable hblank, hdepth, h⟩

/-- What a rendering reads and writes. -/
theorem of_renderTaskDefinition {sourcePath text written : String}
    (h : renderTaskDefinition python sourcePath (some text) imageUri containerName = .ok written) :
    ∃ target source payload, validateImageUri imageUri = .ok target ∧
      (loader python).loads text = .ok (.obj source) ∧
      renderPayload python imageUri containerName source = .ok payload ∧
      (loader python).loads written = .ok (.obj payload) := by
  obtain ⟨target, htarget, h⟩ := Except.bind_eq_ok_iff.1 h
  obtain ⟨value, hread, h⟩ := Except.bind_eq_ok_iff.1 h
  have hloads : (loader python).loads text = .ok value := by
    unfold readDocument at hread
    dsimp only at hread
    split at hread
    · next hloads => rw [hloads, Except.ok.inj hread]
    all_goals cases hread
  split at h
  · next source =>
    obtain ⟨payload, hpayload, h⟩ := Except.bind_eq_ok_iff.1 h
    obtain ⟨v, -, hdepth, hconvert⟩ := Loader.loads_eq_ok_iff.1 hloads
    have hloaded : Loaded python source := Loader.convert_idem (loader_idempotent python) hconvert
    obtain ⟨hwritten, hle⟩ := loaded_renderPayload hloaded hpayload
    have hlimit : depthPairs payload + 1 ≤ python.recursionLimit :=
      (Nat.succ_le_succ hle).trans
        ((Loader.depth_le (loader_idempotent python) hconvert).trans hdepth)
    refine ⟨target, source, payload, htarget, hloads, hpayload, ?_⟩
    rw [← Except.ok.inj h]
    exact loads_dumpsIndent hwritten hlimit
  · cases h

/-! ### The check -/

/-- **Rendering changes the image of the container and removes the read-only fields**, whatever the
source; the rest of the document is read back as it was. -/
theorem render_changes_only {sourcePath text written : String}
    (h : renderTaskDefinition python sourcePath (some text) imageUri containerName = .ok written) :
    ∃ source document, (loader python).loads text = .ok (.obj source) ∧
      (loader python).loads written = .ok (.obj document) ∧
      OnlyReleases imageUri containerName (unwrap source) document := by
  obtain ⟨-, source, payload, -, hsource, hpayload, hwritten⟩ := of_renderTaskDefinition h
  exact ⟨source, payload, hsource, hwritten, renderPayload_onlyReleases hpayload⟩

namespace Sample

/-- The literal of an integer that is not negative. -/
def isWhole (literal : String) : Bool :=
  literal.toList = ['0'] ||
    (literal.toList ≠ [] && literal.toList.all Char.isDigit && literal.toList.head? ≠ some '0')

/-- The interpreter on such integers, which `repr` writes as they are read. -/
def interpreter : Interpreter where
  recursionLimit := 1000
  number literal :=
    if isWhole literal ∧ literal.length ≤ 4300 then some literal else none
  number_plain {literal literal'} h := by
    obtain ⟨⟨hwhole, -⟩, heq⟩ := Option.ite_none_right_eq_some.1 h
    obtain rfl := Option.some.inj heq
    refine .inr ⟨⟨[], literal.toList, [], [], .inl rfl, ?_, .inl rfl, .inl rfl, by simp⟩, by simp⟩
    simp only [isWhole, Bool.or_eq_true, Bool.and_eq_true, decide_eq_true_eq, List.all_eq_true]
      at hwhole
    rcases hwhole with hzero | ⟨⟨hne, hdigits⟩, hhead⟩
    · exact .inl hzero
    · exact .inr ⟨⟨hne, hdigits⟩, hhead⟩
  number_idem {literal literal'} h := by
    obtain ⟨-, heq⟩ := Option.ite_none_right_eq_some.1 h
    obtain rfl := Option.some.inj heq
    exact h
  repr s := "'" ++ s ++ "'"

/-- A task definition as it was registered, with one container. -/
def registered : String :=
  "\x7b\"taskDefinition\": \x7b\"revision\": 7, " ++
    "\"containerDefinitions\": [\x7b\"name\": \"api\"\x7d]\x7d\x7d"

end Sample

end SupportFlow.Release
