import SupportFlow.Classification.Schemas
import SupportFlow.Foundations.JsonDocuments

/-!
# The grammar of provider output

`parse_provider_output` with what it raises: `json.loads` under the hook `_unique_object`, the
strict validation of the value, and the net of exceptions around both.

**It accepts the grammar of the contract and nothing else** (`parse_accepts_contract`): a JSON text
of at most 4096 characters whose value is an object with the members `outcome` and `category`, in
either order, and with values that go together (`Contract`). Whatever else it is given, it raises
`InvalidProviderOutputError`.

The two directions meet in the pairs of the text: the hook returns them unchanged or raises
(`uniqueObject_eq`), and the validation takes two pairs in either order
(`modelValidate_eq_some_iff`).
-/

namespace SupportFlow

open Python Json

namespace ProviderOutput

/-- What parsing raises. A `JSONDecodeError` is a `ValueError`; so is pydantic's `ValidationError`,
which has a name of its own here. -/
inductive ParseError
  | valueError
  | typeError
  | recursionError
  | validationError
  | invalidProviderOutput
  deriving DecidableEq, Repr

/-- `except (ValueError, TypeError, RecursionError, ValidationError)`. -/
def ParseError.isCaught : ParseError → Bool
  | valueError | typeError | recursionError | validationError => true
  | invalidProviderOutput => false

/-- The interpreter: how deep it recurses, at least into one object, and the number that a literal
stands for. An integer of too many digits has none. -/
structure Interpreter where
  recursionLimit : ℕ
  recursionLimit_pos : 0 < recursionLimit
  number : String → Option String

instance : Inhabited Interpreter :=
  ⟨⟨1000, by decide, some⟩⟩

/-- `_unique_object`. -/
def uniqueObject (pairs : List (String × Json)) : Except ParseError (List (String × Json)) :=
  pairs.foldlM
    (fun result p ↦
      if result.any fun q ↦ q.1 = p.1 then .error .valueError else .ok (result ++ [p]))
    []

/-- `json.loads(raw, object_pairs_hook=_unique_object)`. -/
def loader (interpreter : Interpreter) : Loader ParseError where
  recursionLimit := interpreter.recursionLimit
  raises
    | .malformed => .valueError
    | .recursion => .recursionError
  parseNumber literal :=
    match interpreter.number literal with
    | some number => .ok number
    | none => .error .valueError
  objectPairsHook := uniqueObject

/-- What stands between `try` and `except`. -/
def parseBody (interpreter : Interpreter) (raw : String) :
    Except ParseError ClassificationResult := do
  if 4096 < raw.length then throw .valueError
  let value ← (loader interpreter).loads raw
  match ClassificationResult.modelValidate value with
  | some result => .ok result
  | none => .error .validationError

/-- `parse_provider_output`, with what it raises. -/
def parse (interpreter : Interpreter) (raw : String) : Except ParseError ClassificationResult :=
  match parseBody interpreter raw with
  | .ok result => .ok result
  | .error e => .error (if e.isCaught then .invalidProviderOutput else e)

/-- **What the contract admits**: an outcome and a category, as an object of two members. -/
inductive Contract : ClassificationOutcome → Option ClassificationCategory → Json → Prop
  | classified (category : ClassificationCategory) {pairs : List (String × Json)} :
    pairs.Perm [("outcome", .str "classified"), ("category", .str category.value)] →
      Contract .classified (some category) (.obj pairs)
  | insufficientContext {pairs : List (String × Json)} :
    pairs.Perm [("outcome", .str "insufficient_context"), ("category", .null)] →
      Contract .insufficientContext none (.obj pairs)

/-! ### The hook -/

/-- **The hook returns the pairs it is given**, unless a key occurs twice. -/
theorem uniqueObject_eq (pairs : List (String × Json)) :
    uniqueObject pairs =
      if (pairs.map Prod.fst).Nodup then .ok pairs else .error .valueError := by
  have hfold : ∀ (ps acc : List (String × Json)), (acc.map Prod.fst).Nodup →
      ps.foldlM
        (fun result p ↦
          if result.any fun q ↦ q.1 = p.1 then Except.error ParseError.valueError
          else .ok (result ++ [p])) acc =
      if ((acc ++ ps).map Prod.fst).Nodup then .ok (acc ++ ps) else .error .valueError := by
    intro ps
    induction ps with
    | nil =>
      intro acc hacc
      rw [List.append_nil, if_pos hacc]
      rfl
    | cons p ps ih =>
      intro acc hacc
      rw [List.foldlM_cons]
      by_cases hany : (acc.any fun q ↦ decide (q.1 = p.1)) = true
      · have hdup : ¬((acc ++ p :: ps).map Prod.fst).Nodup := by
          obtain ⟨q, hq, heq⟩ := List.any_eq_true.1 hany
          rw [List.map_append, List.map_cons]
          intro hnodup
          exact (List.nodup_append.1 hnodup).2.2 q.1 (List.mem_map_of_mem hq) p.1
            List.mem_cons_self (of_decide_eq_true heq)
        rw [if_pos hany, if_neg hdup]
        rfl
      · have hnew : ((acc ++ [p]).map Prod.fst).Nodup := by
          rw [List.map_append, List.map_singleton, List.nodup_append]
          refine ⟨hacc, List.nodup_singleton _, fun k hk k' hk' heq ↦ hany ?_⟩
          obtain ⟨q, hq, rfl⟩ := List.mem_map.1 hk
          obtain rfl := List.mem_singleton.1 hk'
          exact List.any_eq_true.2 ⟨q, hq, decide_eq_true heq⟩
        rw [if_neg hany]
        show ps.foldlM _ (acc ++ [p]) = _
        rw [ih (acc ++ [p]) hnew, List.append_assoc, List.singleton_append]
  exact hfold pairs [] List.nodup_nil

theorem uniqueObject_eq_ok_iff {ps qs : List (String × Json)} :
    uniqueObject ps = .ok qs ↔ (ps.map Prod.fst).Nodup ∧ ps = qs := by
  rw [uniqueObject_eq]
  split
  · next hnodup => rw [Except.ok.injEq, and_iff_right hnodup]
  · next hdup => exact ⟨nofun, fun h ↦ (hdup h.1).elim⟩

/-! ### The validation -/

/-- A dictionary with two keys is their two items, in some order. -/
theorem perm_pair {items : List (String × Json)} {k₁ k₂ : String} {v₁ v₂ : Json}
    (hkeys : (items.map Prod.fst).Nodup) (honly : ∀ item ∈ items, item.1 = k₁ ∨ item.1 = k₂)
    (hne : k₁ ≠ k₂) (h₁ : (k₁, v₁) ∈ items) (h₂ : (k₂, v₂) ∈ items) :
    items.Perm [(k₁, v₁), (k₂, v₂)] := by
  have hpair : [(k₁, v₁), (k₂, v₂)].Nodup := by simp [hne]
  refine (List.perm_ext_iff_of_nodup (List.Nodup.of_map _ hkeys) hpair).2 fun item ↦ ?_
  simp only [List.mem_cons, List.not_mem_nil, or_false]
  constructor
  · intro hitem
    rcases honly item hitem with hk | hk
    · exact .inl (List.inj_on_of_nodup_map hkeys hitem h₁ hk)
    · exact .inr (List.inj_on_of_nodup_map hkeys hitem h₂ hk)
  · rintro (rfl | rfl)
    · exact h₁
    · exact h₂

/-- The member `category` of a category. -/
def categoryMember : Option ClassificationCategory → Json
  | none => .null
  | some category => .str category.value

theorem outcome_ofValue?_eq_some_iff {value : String} {outcome : ClassificationOutcome} :
    ClassificationOutcome.ofValue? value = some outcome ↔ value = outcome.value := by
  constructor
  · intro h
    unfold ClassificationOutcome.ofValue? at h
    have hvalue := List.find?_some h
    exact (of_decide_eq_true hvalue).symm
  · rintro rfl
    cases outcome <;> rfl

theorem category_ofValue?_eq_some_iff {value : String} {category : ClassificationCategory} :
    ClassificationCategory.ofValue? value = some category ↔ value = category.value := by
  constructor
  · intro h
    unfold ClassificationCategory.ofValue? at h
    have hvalue := List.find?_some h
    exact (of_decide_eq_true hvalue).symm
  · rintro rfl
    cases category <;> rfl

theorem outcome?_eq_some_iff {v : Json} {outcome : ClassificationOutcome} :
    ClassificationResult.outcome? v = some outcome ↔ v = .str outcome.value := by
  cases v with
  | str value => rw [ClassificationResult.outcome?, outcome_ofValue?_eq_some_iff, Json.str.injEq]
  | null | bool | num | arr | obj => exact ⟨nofun, nofun⟩

theorem category?_eq_some_iff {v : Json} {category : Option ClassificationCategory} :
    ClassificationResult.category? v = some category ↔ v = categoryMember category := by
  cases v with
  | null => cases category <;> simp [ClassificationResult.category?, categoryMember]
  | str value =>
    cases category with
    | none => simp [ClassificationResult.category?, categoryMember]
    | some category =>
      simp [ClassificationResult.category?, categoryMember, category_ofValue?_eq_some_iff]
  | bool | num | arr | obj =>
    refine ⟨nofun, ?_⟩
    cases category <;> exact nofun

theorem validate?_eq_some_iff {outcome : ClassificationOutcome}
    {category : Option ClassificationCategory} {result : ClassificationResult} :
    ClassificationResult.validate? outcome category = some result ↔
      result.outcome = outcome ∧ result.category = category := by
  constructor
  · intro h
    unfold ClassificationResult.validate? at h
    split at h
    · cases h
      exact ⟨rfl, rfl⟩
    · cases h
  · rintro ⟨rfl, rfl⟩
    exact ClassificationResult.validate?_self result

/-- The contract admits the two members of a result, in either order. -/
theorem contract_iff {result : ClassificationResult} {items : List (String × Json)} :
    Contract result.outcome result.category (.obj items) ↔
      items.Perm [("outcome", .str result.outcome.value),
        ("category", categoryMember result.category)] := by
  obtain ⟨outcome, category, hmatches⟩ := result
  cases outcome with
  | classified =>
    obtain ⟨category, rfl⟩ := Option.isSome_iff_exists.1 (hmatches.1 rfl)
    exact ⟨fun h ↦ by cases h; assumption, .classified category⟩
  | insufficientContext =>
    cases category with
    | none => exact ⟨fun h ↦ by cases h; assumption, .insufficientContext⟩
    | some category => cases hmatches.2 rfl

/-- **The validation admits what the contract does.** -/
theorem modelValidate_eq_some_iff {items : List (String × Json)}
    (hkeys : (items.map Prod.fst).Nodup) {result : ClassificationResult} :
    ClassificationResult.modelValidate (.obj items) = some result ↔
      Contract result.outcome result.category (.obj items) := by
  rw [contract_iff, ClassificationResult.modelValidate]
  constructor
  · intro h
    split at h
    · next hall =>
      obtain ⟨o, ho, h⟩ := Option.bind_eq_some_iff.1 h
      obtain ⟨outcome, houtcome, h⟩ := Option.bind_eq_some_iff.1 h
      obtain ⟨c, hc, h⟩ := Option.bind_eq_some_iff.1 h
      obtain ⟨category, hcategory, h⟩ := Option.bind_eq_some_iff.1 h
      obtain ⟨rfl, rfl⟩ := validate?_eq_some_iff.1 h
      rw [List.lookup_eq_some_iff_mem hkeys, outcome?_eq_some_iff.1 houtcome] at ho
      rw [List.lookup_eq_some_iff_mem hkeys, category?_eq_some_iff.1 hcategory] at hc
      refine perm_pair hkeys (fun item hitem ↦ ?_) (by decide) ho hc
      simpa using List.all_eq_true.1 hall item hitem
    · cases h
  · intro hperm
    have hmem (item : String × Json) := hperm.mem_iff (a := item)
    have hall : (items.all fun item ↦ item.1 = "outcome" || item.1 = "category") = true := by
      rw [hperm.all_eq]
      rfl
    have ho := (List.lookup_eq_some_iff_mem hkeys).2 ((hmem _).2 List.mem_cons_self)
    have hc := (List.lookup_eq_some_iff_mem hkeys).2
      ((hmem _).2 (List.mem_cons_of_mem _ List.mem_cons_self))
    rw [if_pos hall, ho, hc]
    simp only [Option.bind_eq_bind, Option.bind_some, outcome?_eq_some_iff.2 rfl,
      category?_eq_some_iff.2 rfl]
    exact ClassificationResult.validate?_self result

/-- Only an object is validated. -/
theorem exists_obj_of_modelValidate {value : Json} {result : ClassificationResult}
    (h : ClassificationResult.modelValidate value = some result) :
    ∃ pairs, value = .obj pairs := by
  cases value with
  | obj pairs => exact ⟨pairs, rfl⟩
  | null | bool | num | str | arr => cases h

/-! ### The parser -/

variable {interpreter : Interpreter} {raw : String}

theorem Contract.exists_obj {outcome : ClassificationOutcome}
    {category : Option ClassificationCategory} {value : Json}
    (h : Contract outcome category value) : ∃ pairs, value = .obj pairs := by
  cases h <;> exact ⟨_, rfl⟩

theorem contract_plain {outcome : ClassificationOutcome} {category : Option ClassificationCategory}
    {pairs : List (String × Json)} (h : Contract outcome category (.obj pairs)) :
    (pairs.map Prod.fst).Nodup ∧ ∀ p ∈ pairs, Loader.Plain p.2 := by
  cases h with
  | classified category hperm | insufficientContext hperm =>
    refine ⟨(hperm.map Prod.fst).nodup_iff.2 (by simp), fun p hp ↦ ?_⟩
    rcases List.mem_cons.1 (hperm.subset hp) with rfl | hp
    · trivial
    · rw [List.mem_singleton.1 hp]
      trivial

/-- An admitted object is not nested. -/
theorem contract_depth {outcome : ClassificationOutcome} {category : Option ClassificationCategory}
    {pairs : List (String × Json)} (h : Contract outcome category (.obj pairs)) :
    depth (.obj pairs) ≤ interpreter.recursionLimit := by
  have hflat : depthPairs pairs ≤ 0 :=
    depthPairs_le_iff.2 fun p hp ↦ ((contract_plain h).2 p hp).depth_eq.le
  exact le_trans (Nat.succ_le_succ hflat) interpreter.recursionLimit_pos

/-- What an admitted object is loaded from: its own text. -/
theorem loads_eq_ok_iff {outcome : ClassificationOutcome} {category : Option ClassificationCategory}
    {pairs : List (String × Json)} (h : Contract outcome category (.obj pairs)) :
    (loader interpreter).loads raw = .ok (.obj pairs) ↔ JsonText (.obj pairs) raw := by
  obtain ⟨hnodup, hplain⟩ := contract_plain h
  rw [Loader.loads_eq_ok_iff]
  constructor
  · rintro ⟨v, htext, -, hconvert⟩
    obtain ⟨ps, qs, rfl, hqs, hhook⟩ := Loader.convert_eq_obj_iff.1 hconvert
    obtain ⟨-, rfl⟩ := uniqueObject_eq_ok_iff.1 hhook
    rw [(Loader.forall₂_convert_iff_of_plain hplain).1 hqs] at htext
    exact htext
  · intro htext
    exact ⟨.obj pairs, htext, contract_depth h,
      Loader.convert_eq_obj_iff.2 ⟨pairs, pairs, rfl,
        (Loader.forall₂_convert_iff_of_plain hplain).2 rfl, uniqueObject_eq_ok_iff.2 ⟨hnodup, rfl⟩⟩⟩

/-- What the body returns: the result of a short text whose value the validation admits. -/
theorem parseBody_eq_ok_iff {result : ClassificationResult} :
    parseBody interpreter raw = .ok result ↔
      raw.length ≤ 4096 ∧ ∃ value, (loader interpreter).loads raw = .ok value ∧
        ClassificationResult.modelValidate value = some result := by
  unfold parseBody
  constructor
  · intro h
    split at h
    · cases h
    · next hlength =>
      obtain ⟨value, hloads, h⟩ := Except.bind_eq_ok_iff.1 h
      refine ⟨not_lt.1 hlength, value, hloads, ?_⟩
      split at h
      · next hresult => rw [hresult, Except.ok.inj h]
      · cases h
  · rintro ⟨hlength, value, hloads, hvalidate⟩
    rw [if_neg (not_lt.2 hlength)]
    refine Except.bind_eq_ok_iff.2 ⟨value, hloads, ?_⟩
    rw [hvalidate]

/-- A loaded object has no key twice. -/
theorem nodup_of_loads {pairs : List (String × Json)}
    (h : (loader interpreter).loads raw = .ok (.obj pairs)) : (pairs.map Prod.fst).Nodup := by
  obtain ⟨v, -, -, hconvert⟩ := Loader.loads_eq_ok_iff.1 h
  obtain ⟨ps, qs, -, -, hhook⟩ := Loader.convert_eq_obj_iff.1 hconvert
  obtain ⟨hnodup, rfl⟩ := uniqueObject_eq_ok_iff.1 hhook
  exact hnodup

/-- **What is parsed**: a short text of an object that the contract admits. -/
theorem parse_eq_ok_iff {result : ClassificationResult} :
    parse interpreter raw = .ok result ↔
      raw.length ≤ 4096 ∧
        ∃ value, JsonText value raw ∧ Contract result.outcome result.category value := by
  have hbody : parse interpreter raw = .ok result ↔ parseBody interpreter raw = .ok result := by
    unfold parse
    split <;> simp_all
  rw [hbody, parseBody_eq_ok_iff]
  refine and_congr_right fun _ ↦ exists_congr fun value ↦ ⟨?_, ?_⟩
  · rintro ⟨hloads, hvalidate⟩
    obtain ⟨pairs, rfl⟩ := exists_obj_of_modelValidate hvalidate
    have hcontract := (modelValidate_eq_some_iff (nodup_of_loads hloads)).1 hvalidate
    exact ⟨(loads_eq_ok_iff hcontract).1 hloads, hcontract⟩
  · rintro ⟨htext, hcontract⟩
    obtain ⟨pairs, rfl⟩ := hcontract.exists_obj
    exact ⟨(loads_eq_ok_iff hcontract).2 htext,
      (modelValidate_eq_some_iff (contract_plain hcontract).1).2 hcontract⟩

/-- **Everything else is one error**: whatever the body raises is caught. -/
theorem parse_error {e : ParseError} (h : parse interpreter raw = .error e) :
    e = .invalidProviderOutput := by
  unfold parse at h
  split at h
  · cases h
  · next e' _ =>
    obtain rfl := Except.error.inj h
    cases e' <;> rfl

/-- A result is parsed from every text of its two members that is short enough. -/
theorem parse_of_contract {result : ClassificationResult} {value : Json}
    (hcontract : Contract result.outcome result.category value) (htext : JsonText value raw)
    (hlength : raw.length ≤ 4096) : parse interpreter raw = .ok result :=
  parse_eq_ok_iff.2 ⟨hlength, value, htext, hcontract⟩

/-- What the contract admits has no numbers, so it can be rendered. -/
theorem contract_printable {outcome : ClassificationOutcome}
    {category : Option ClassificationCategory} {value : Json}
    (h : Contract outcome category value) : Printable value := by
  cases h with
  | classified category hperm | insufficientContext hperm =>
    refine .obj fun p hp ↦ ?_
    rcases List.mem_cons.1 (hperm.subset hp) with rfl | hp
    · exact .str _
    · rw [List.mem_singleton.1 hp]
      constructor

/-- **The parser of the port, without its errors, is this one**, for a decoder that lists every pair
of an object. -/
theorem toOption_parse :
    (parse interpreter raw).toOption =
      parseProviderOutput (fun text ↦ (decode interpreter.recursionLimit text).toOption) raw := by
  ext result
  rw [Except.toOption_eq_some_iff, parse_eq_ok_iff, parseProviderOutput]
  split
  · next hlength => exact ⟨fun h ↦ (not_lt.2 h.1 hlength).elim, nofun⟩
  · next hlength =>
    rw [and_iff_right (not_lt.1 hlength), Option.bind_eq_bind, Option.bind_eq_some_iff]
    refine exists_congr fun value ↦ ?_
    rw [Except.toOption_eq_some_iff, decode_eq_ok_iff]
    constructor
    · rintro ⟨htext, hcontract⟩
      obtain ⟨pairs, rfl⟩ := hcontract.exists_obj
      obtain ⟨hnodup, hplain⟩ := contract_plain hcontract
      have hkeys : uniqueKeys (.obj pairs) = true := by
        rw [uniqueKeys, uniqueKeysPairs_eq_all, Bool.and_eq_true, decide_eq_true_iff,
          List.all_eq_true]
        exact ⟨hnodup, fun p hp ↦ (hplain p hp).uniqueKeys⟩
      rw [if_pos hkeys]
      exact ⟨⟨htext, contract_depth hcontract⟩,
        (modelValidate_eq_some_iff hnodup).2 hcontract⟩
    · rintro ⟨⟨htext, -⟩, h⟩
      split at h
      · next hkeys =>
        obtain ⟨pairs, rfl⟩ := exists_obj_of_modelValidate h
        rw [uniqueKeys, Bool.and_eq_true, decide_eq_true_iff] at hkeys
        exact ⟨htext, (modelValidate_eq_some_iff hkeys.1).1 h⟩
      · cases h

/-- **The parser accepts the contract's grammar, and nothing else**: it returns an outcome and a
category exactly when the text is no longer than 4096 characters and is a JSON text of an object
that the contract admits for them; otherwise it raises `InvalidProviderOutputError`. So a rendered
result that is short enough is parsed to itself. -/
theorem parse_accepts_contract (interpreter : Interpreter) :
    (∀ raw outcome category,
      (∃ result, parse interpreter raw = .ok result ∧ result.outcome = outcome ∧
        result.category = category) ↔
      raw.length ≤ 4096 ∧ ∃ value, JsonText value raw ∧ Contract outcome category value) ∧
    (∀ raw e, parse interpreter raw = .error e → e = .invalidProviderOutput) ∧
    ∀ (result : ClassificationResult) (value : Json),
      Contract result.outcome result.category value →
        (∀ raw, JsonText value raw → raw.length ≤ 4096 → parse interpreter raw = .ok result) ∧
        ∀ sep : Separators, sep.Blank → (dumps sep value).length ≤ 4096 →
          parse interpreter (dumps sep value) = .ok result := by
  refine ⟨fun raw outcome category ↦ ?_, fun raw e ↦ parse_error, fun result value hcontract ↦
    ⟨fun raw ↦ parse_of_contract hcontract, fun sep hsep ↦ ?_⟩⟩
  · constructor
    · rintro ⟨result, hparse, rfl, rfl⟩
      exact parse_eq_ok_iff.1 hparse
    · rintro ⟨hlength, value, htext, hcontract⟩
      obtain ⟨result, rfl, rfl⟩ : ∃ result : ClassificationResult,
          result.outcome = outcome ∧ result.category = category := by
        cases hcontract with
        | classified category => exact ⟨⟨.classified, some category, by simp⟩, rfl, rfl⟩
        | insufficientContext => exact ⟨.insufficientContext, rfl, rfl⟩
      exact ⟨result, parse_eq_ok_iff.2 ⟨hlength, value, htext, hcontract⟩, rfl, rfl⟩
  · exact parse_of_contract hcontract (jsonText_dumps hsep (contract_printable hcontract))

-- The members may come in either order, and with escapes.
example :
    parse default "\x7b \"category\" : null, \"out\\u0063ome\":\"insufficient_context\"\x7d" =
      .ok .insufficientContext := by
  decide +kernel

end ProviderOutput

end SupportFlow
