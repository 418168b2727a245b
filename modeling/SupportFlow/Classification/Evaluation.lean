import Mathlib.Tactic.FieldSimp
import Mathlib.Tactic.Linarith
import SupportFlow.Classification.Providers
import SupportFlow.Foundations.Json
import SupportFlow.Foundations.Selection
import SupportFlow.Foundations.Tally

/-!
# Evaluation

`evaluate` runs the scripted provider over a corpus of labelled cases and reports how often it was
right. A case whose call raises a `ClassificationError` counts as an error. The hash, the
identifiers that `uuid5` makes and the JSON decoder are parameters (`Tools`), and a ratio is an
exact rational.

**The numbers of a report agree with each other** (`evaluation_consistent`), however they are
reached: the rows of the confusion matrix, its diagonal and its columns count what the rows of the
cases do, since a count is conserved when it is split over labels; and an evaluation of a covered
split returns a report, so nothing is divided by zero. The order of the cases and of the scripts
does not matter.
-/

namespace SupportFlow.Evaluation

open Python

/-! ### Fixtures -/

/-- What the evaluation takes from outside: the hexadecimal digest of a text, the identifier that
`uuid5` makes of a name, and the decoder of JSON. -/
structure Tools where
  sha256 : String → String
  uuid5 : String → UUID
  loads : String → Option Json

inductive EvaluationError
  | valueError (message : String)
  | keyError (key : String)
  | zeroDivisionError
  deriving DecidableEq, Repr

/-- The split a case is allocated to. -/
inductive CaseSplit
  | development
  | heldOut
  deriving DecidableEq, Repr

/-- The split an evaluation selects. -/
inductive Split
  | development
  | heldOut
  | all
  deriving DecidableEq, Repr

inductive Language
  | en
  | tr
  deriving DecidableEq, Repr

inductive LabelReview
  | pendingErayReview
  | jointlyReviewed
  deriving DecidableEq, Repr

@[inherit_doc ClassificationOutcome.value]
def CaseSplit.value : CaseSplit → String
  | development => "development"
  | heldOut => "held_out"

@[inherit_doc ClassificationOutcome.value]
def Language.value : Language → String
  | en => "en"
  | tr => "tr"

@[inherit_doc ClassificationOutcome.value]
def LabelReview.value : LabelReview → String
  | pendingErayReview => "pending_eray_review"
  | jointlyReviewed => "jointly_reviewed"

/-- `split == "all" or case.split == split`. -/
def Split.selects : Split → CaseSplit → Bool
  | all, _ => true
  | development, split => split = .development
  | heldOut, split => split = .heldOut

structure EvaluationCase where
  id : String
  split : CaseSplit
  language : Language
  subject : String
  body : Option String
  expected : ClassificationResult
  rationale : String
  deriving DecidableEq

structure Corpus where
  labelReview : LabelReview
  cases : List EvaluationCase

/-- `ERRORS`. -/
def errors : List (String × ProviderError) :=
  [.inputTooLarge, .invalidProviderOutput, .providerAuthentication, .providerRateLimited,
    .providerTimeout, .providerUnavailable].map fun error ↦ (error.category, error)

/-- A script is a response or a known error, and not both. -/
structure ScriptCase where
  id : String
  response : Option String
  error : Option String
  exactly_one_script : response.isNone ≠ error.isNone
  known_error : ∀ category ∈ error, category ∈ errors.map Prod.fst
  deriving DecidableEq

structure Scripts where
  cases : List ScriptCase

/-- `version` of a corpus, and of scripts. -/
def corpusVersion : String :=
  "classification_corpus.v1"

@[inherit_doc corpusVersion]
def scriptsVersion : String :=
  "classification_fake_scripts.v1"

/-! ### Digests -/

/-- A text, or null. -/
def optionalText : Option String → Json
  | none => .null
  | some text => .str text

/-- `model_dump` of a result, with sorted keys. -/
def resultJson (result : ClassificationResult) : Json :=
  .obj (Json.sortKeys [("outcome", .str result.outcome.value),
    ("category", optionalText (result.category.map ClassificationCategory.value))])

def EvaluationCase.json (case : EvaluationCase) : Json :=
  .obj (Json.sortKeys [("id", .str case.id), ("split", .str case.split.value),
    ("language", .str case.language.value), ("subject", .str case.subject),
    ("body", optionalText case.body), ("expected", resultJson case.expected),
    ("rationale", .str case.rationale)])

def Corpus.json (corpus : Corpus) : Json :=
  .obj (Json.sortKeys [("version", .str corpusVersion),
    ("label_review", .str corpus.labelReview.value),
    ("cases", .arr (corpus.cases.map EvaluationCase.json))])

def ScriptCase.json (script : ScriptCase) : Json :=
  .obj (Json.sortKeys [("id", .str script.id), ("response", optionalText script.response),
    ("error", optionalText script.error)])

def Scripts.json (scripts : Scripts) : Json :=
  .obj (Json.sortKeys [("version", .str scriptsVersion), ("mode", .str "fake"),
    ("cases", .arr (scripts.cases.map ScriptCase.json))])

/-- `digest`. -/
def digest (tools : Tools) (model : Json) : String :=
  tools.sha256 (Json.dumps .compact model)

/-! ### One case -/

/-- What `classify_opening_request` raises. -/
inductive RequestError
  | classificationError (type : ProviderError)
  | valueError (message : String)
  deriving DecidableEq, Repr

/-- `classify_opening_request` with a scripted provider, and how often it called the provider. -/
def classifyOpeningRequest (tools : Tools) (subject : String) (messages : List OpeningMessage)
    (provider : FakeClassificationProvider) : Except RequestError ClassificationResult × ℕ :=
  match prepareInput tools.sha256 subject messages inputPolicyVersion taxonomyVersion with
  | .error .inputTooLarge => (.error (.classificationError .inputTooLarge), 0)
  | .error .emptyInputVersions => (.error (.valueError "Input versions must be nonempty"), 0)
  | .error .duplicateMessageIdentity => (.error (.valueError "Duplicate message identity"), 0)
  | .ok prepared =>
    if prepared.insufficientContext then (.ok .insufficientContext, 0)
    else
      match provider.classify prepared.payload with
      | .error type => (.error (.classificationError type), 1)
      | .ok raw =>
        match parseProviderOutput tools.loads raw with
        | some result => (.ok result, 1)
        | none => (.error (.classificationError .invalidProviderOutput), 1)

/-- A label: a category, or that there is none. -/
inductive Label
  | category (category : ClassificationCategory)
  | insufficientContext
  deriving DecidableEq, Repr

/-- What was predicted for a case: a label, or nothing for an error. -/
inductive Prediction
  | label (label : Label)
  | error
  deriving DecidableEq, Repr

/-- `label`. -/
def label (result : ClassificationResult) : Label :=
  match result.category with
  | some category => .category category
  | none => .insufficientContext

/-- A row of the report. -/
structure Row where
  id : String
  split : CaseSplit
  expected : Label
  predicted : Prediction
  error : Option String
  correct : Bool
  providerCalls : ℕ
  deriving DecidableEq

/-- What a script answers. -/
def ScriptCase.script? (script : ScriptCase) : Option Script :=
  match script.response with
  | some response => some (.response response)
  | none => (errors.lookup (script.error.getD "")).map .error

/-- The answers of the scripts by their ids. -/
def responses (scripts : List ScriptCase) : Except EvaluationError (List (String × Script)) :=
  scripts.foldlM
    (fun responses script ↦
      if responses.any fun answer ↦ answer.1 = script.id then
        .error (.valueError "Duplicate scripted identity")
      else
        match script.script? with
        | some answer => .ok (responses ++ [(script.id, answer)])
        | none => .error (.keyError (script.error.getD "")))
    []

/-- `FakeClassificationProvider(fixture_id, scripts)`. -/
def fakeProvider (fixtureId : String) (scripts : List (String × Script)) :
    Except EvaluationError FakeClassificationProvider :=
  match scripts.lookup fixtureId with
  | some response => .ok ⟨response⟩
  | none => .error (.valueError "Unknown fake classification fixture")

/-- The messages of a case: its body, written by an agent on `2026-09-30`. -/
def EvaluationCase.messages (tools : Tools) (case : EvaluationCase) : List OpeningMessage :=
  match case.body with
  | none => []
  | some body =>
    [⟨tools.uuid5 ("supportflow-synthetic:" ++ case.id), .ofInstant 1790726400000000, .agent, body⟩]

/-- The row of a case. -/
def evaluateCase (tools : Tools) (responses : List (String × Script)) (case : EvaluationCase) :
    Except EvaluationError Row := do
  let provider ← fakeProvider case.id responses
  let expected := label case.expected
  let row (predicted : Prediction) (error : Option String) (providerCalls : ℕ) : Row :=
    { id := case.id
      split := case.split
      expected := expected
      predicted := predicted
      error := error
      correct := .label expected = predicted
      providerCalls := providerCalls }
  match classifyOpeningRequest tools case.subject (case.messages tools) provider with
  | (.ok result, calls) => .ok (row (.label (label result)) none calls)
  | (.error (.classificationError type), calls) => .ok (row .error (some type.category) calls)
  | (.error (.valueError message), _) => .error (.valueError message)

/-! ### The report -/

/-- `get_args(Category)`. -/
def categories : List ClassificationCategory :=
  [.accountAccess, .billing, .technicalIssue, .howTo, .featureRequest, .other]

/-- The labels, which are the rows of the matrix. -/
def labels : List Label :=
  categories.map .category ++ [.insufficientContext]

/-- The predictions, which are its columns. -/
def predictions : List Prediction :=
  labels.map .label ++ [.error]

/-- `numerator / denominator`. -/
def divide (numerator denominator : ℚ) : Except EvaluationError ℚ :=
  if denominator = 0 then .error .zeroDivisionError else .ok (numerator / denominator)

/-- `_ratio`. -/
def ratio (numerator denominator : ℤ) : Except EvaluationError (Option ℚ) :=
  if denominator ≠ 0 then (divide numerator denominator).map some else .ok none

structure ClassMetrics where
  truePositive : ℕ
  expectedCount : ℕ
  predictedCount : ℕ
  precision : Option ℚ
  «recall» : Option ℚ
  f1 : Option ℚ
  deriving DecidableEq

structure Abstention where
  count : ℕ
  correct : ℕ
  coverage : Option ℚ
  precision : Option ℚ
  «recall» : Option ℚ
  deriving DecidableEq

/-- The report; what no run measures is `none`. -/
structure Report where
  reportVersion : String
  mode : String
  qualityClaim : Bool
  labelReview : LabelReview
  split : Split
  corpusVersion : String
  corpusSha256 : String
  scriptsVersion : String
  scriptsSha256 : String
  schemaVersion : String
  inputPolicyVersion : String
  taxonomyVersion : String
  total : ℕ
  correct : ℕ
  errors : ℕ
  accuracy : Option ℚ
  errorRate : Option ℚ
  classificationCoverage : Option ℚ
  abstention : Abstention
  categoryMacroF1 : ℚ
  macroF1Labels : List ClassificationCategory
  perClass : List (Label × ClassMetrics)
  confusionMatrix : Label → Prediction → ℕ
  cases : List Row
  latencyMs : Option ℚ
  tokenUsage : Option ℕ
  costUsd : Option ℚ
  measurementNote : String

/-- A report with other digests. -/
def Report.withDigests (r : Report) (corpusSha256 scriptsSha256 : String) : Report :=
  { r with
    corpusSha256 := corpusSha256
    scriptsSha256 := scriptsSha256 }

/-- `matrix`. -/
def confusionMatrix (rows : List Row) : Label → Prediction → ℕ :=
  tally Row.expected Row.predicted rows

/-- `sum(matrix[category].values())`. -/
def support (matrix : Label → Prediction → ℕ) (category : Label) : ℕ :=
  (predictions.map (matrix category)).sum

/-- An entry of `per_class`. -/
def classMetrics (matrix : Label → Prediction → ℕ) (category : Label) :
    Except EvaluationError ClassMetrics := do
  let tp := matrix category (.label category)
  let support := support matrix category
  let predictedCount := (labels.map fun other ↦ matrix other (.label category)).sum
  let precision ← ratio tp predictedCount
  let «recall» ← ratio tp support
  let f1 ← ratio (2 * tp) (support + predictedCount)
  .ok ⟨tp, support, predictedCount, precision, «recall», f1⟩

/-- `per_class[c]["f1"] or 0.0`. -/
def f1OrZero (perClass : List (Label × ClassMetrics)) (category : ClassificationCategory) :
    Except EvaluationError ℚ :=
  match perClass.lookup (.category category) with
  | some metrics => .ok (metrics.f1.getD 0)
  | none => .error (.keyError category.value)

/-- `category_macro_f1`. -/
def categoryMacroF1 (perClass : List (Label × ClassMetrics)) : Except EvaluationError ℚ := do
  let f1s ← categories.mapM (f1OrZero perClass)
  divide f1s.sum categories.length

/-- The report of rows. -/
def report (tools : Tools) (corpus : Corpus) (scripts : Scripts) (split : Split)
    (rows : List Row) : Except EvaluationError Report := do
  let matrix := confusionMatrix rows
  let perClass ← labels.mapM fun category ↦ do
    let metrics ← classMetrics matrix category
    .ok (category, metrics)
  let total := rows.length
  let correct := rows.countP Row.correct
  let abstained := rows.countP fun row ↦ row.predicted = .label .insufficientContext
  let correctAbstained := matrix .insufficientContext (.label .insufficientContext)
  let errors := rows.countP fun row ↦ row.predicted = .error
  let classified : ℤ := total - errors - abstained
  let accuracy ← ratio correct total
  let errorRate ← ratio errors total
  let classificationCoverage ← ratio classified total
  let coverage ← ratio abstained total
  let precision ← ratio correctAbstained abstained
  let «recall» ← ratio correctAbstained (support matrix .insufficientContext)
  let macroF1 ← categoryMacroF1 perClass
  .ok
    { reportVersion := "classification_evaluation.v1"
      mode := "fake"
      qualityClaim := false
      labelReview := corpus.labelReview
      split := split
      corpusVersion := corpusVersion
      corpusSha256 := digest tools corpus.json
      scriptsVersion := scriptsVersion
      scriptsSha256 := digest tools scripts.json
      schemaVersion := schemaVersion
      inputPolicyVersion := inputPolicyVersion
      taxonomyVersion := taxonomyVersion
      total := total
      correct := correct
      errors := errors
      accuracy := accuracy
      errorRate := errorRate
      classificationCoverage := classificationCoverage
      abstention := ⟨abstained, correctAbstained, coverage, precision, «recall»⟩
      categoryMacroF1 := macroF1
      macroF1Labels := categories
      perClass := perClass
      confusionMatrix := matrix
      cases := rows
      latencyMs := none
      tokenUsage := none
      costUsd := none
      measurementNote :=
        "Scripted offline run; model latency, tokens and cost are not measured." }

/-- The cases of a split. -/
def selectedCases (corpus : Corpus) (split : Split) : List EvaluationCase :=
  corpus.cases.filter fun case ↦ split.selects case.split

/-- `evaluate`. -/
def evaluate (tools : Tools) (corpus : Corpus) (scripts : Scripts) (split : Split) :
    Except EvaluationError Report := do
  let selected := selectedCases corpus split
  if selected = [] then throw (.valueError "Selected evaluation split is empty")
  let responses ← responses scripts.cases
  let rows ← (selected.insertionSort fun a b ↦ a.id ≤ b.id).mapM (evaluateCase tools responses)
  report tools corpus scripts split rows

/-! ### Ratios -/

/-- A ratio, which is not defined for an empty whole. -/
def quotient (numerator denominator : ℤ) : Option ℚ :=
  if denominator = 0 then none else some (numerator / denominator)

/-- **Nothing is divided by zero.** -/
theorem ratio_eq (numerator denominator : ℤ) :
    ratio numerator denominator = .ok (quotient numerator denominator) := by
  unfold ratio quotient divide
  by_cases h : denominator = 0
  · rw [if_neg (not_not.2 h), if_pos h]
  · rw [if_pos h, if_neg (Int.cast_ne_zero.2 h), if_neg h]
    rfl

theorem quotient_eq_none_iff {numerator denominator : ℤ} :
    quotient numerator denominator = none ↔ denominator = 0 := by
  unfold quotient
  split <;> simp_all

theorem quotient_eq_some_iff {numerator denominator : ℤ} {q : ℚ} :
    quotient numerator denominator = some q ↔
      denominator ≠ 0 ∧ (numerator : ℚ) / denominator = q := by
  unfold quotient
  split <;> simp_all

theorem quotient_of_ne_zero {denominator : ℤ} (h : denominator ≠ 0) (numerator : ℤ) :
    quotient numerator denominator = some ((numerator : ℚ) / denominator) :=
  if_neg h

/-- **The `f1` of counts is the harmonic mean of precision and recall**, where these are defined and
not both zero, and is defined unless both are undefined. -/
theorem f1_harmonic (tp predicted expected : ℕ) :
    (∀ p r, quotient tp predicted = some p → quotient tp expected = some r → ¬(p = 0 ∧ r = 0) →
      quotient (2 * tp) (expected + predicted) = some (2 * p * r / (p + r))) ∧
    (quotient (2 * tp) (expected + predicted) = none ↔
      quotient tp predicted = none ∧ quotient tp expected = none) := by
  refine ⟨fun p r hp hr hzero ↦ ?_, ?_⟩
  · obtain ⟨hpredicted, rfl⟩ := quotient_eq_some_iff.1 hp
    obtain ⟨hexpected, rfl⟩ := quotient_eq_some_iff.1 hr
    have htp : (tp : ℚ) ≠ 0 := by
      rintro htp
      exact hzero ⟨by simp [htp], by simp [htp]⟩
    have hpredicted' : (predicted : ℚ) ≠ 0 := by exact_mod_cast hpredicted
    have hexpected' : (expected : ℚ) ≠ 0 := by exact_mod_cast hexpected
    have hsum : (expected : ℚ) + predicted ≠ 0 := by
      have hpos : expected + predicted ≠ 0 := by omega
      exact_mod_cast hpos
    refine quotient_eq_some_iff.2 ⟨by omega, ?_⟩
    push_cast
    have hmean : (tp : ℚ) / predicted + tp / expected =
        tp * (expected + predicted) / (predicted * expected) := by
      field_simp
    rw [hmean]
    field_simp
  · simp only [quotient_eq_none_iff]
    omega

/-! ### What a report says of its rows -/

/-- The entry of a label. -/
def metrics (matrix : Label → Prediction → ℕ) (category : Label) : ClassMetrics :=
  let tp := matrix category (.label category)
  let support := support matrix category
  let predictedCount := (labels.map fun other ↦ matrix other (.label category)).sum
  ⟨tp, support, predictedCount, quotient tp predictedCount, quotient tp support,
    quotient (2 * tp) (support + predictedCount)⟩

section Metrics

variable (matrix : Label → Prediction → ℕ) (category : Label)

theorem precision_metrics : (metrics matrix category).precision =
    quotient (metrics matrix category).truePositive (metrics matrix category).predictedCount := by
  simp only [metrics]

theorem recall_metrics : (metrics matrix category).recall =
    quotient (metrics matrix category).truePositive (metrics matrix category).expectedCount := by
  simp only [metrics]

theorem f1_metrics : (metrics matrix category).f1 =
    quotient (2 * (metrics matrix category).truePositive)
      ((metrics matrix category).expectedCount + (metrics matrix category).predictedCount) := by
  simp only [metrics]

end Metrics

/-- The entries of all labels. -/
def perClass (matrix : Label → Prediction → ℕ) : List (Label × ClassMetrics) :=
  labels.map fun category ↦ (category, metrics matrix category)

theorem classMetrics_eq (matrix : Label → Prediction → ℕ) (category : Label) :
    classMetrics matrix category = .ok (metrics matrix category) := by
  simp only [classMetrics, ratio_eq]
  rfl

theorem perClass_eq (matrix : Label → Prediction → ℕ) :
    (labels.mapM fun category ↦ do
      let metrics ← classMetrics matrix category
      .ok (category, metrics)) = .ok (perClass matrix) := by
  refine Except.mapM_eq_ok fun category _ ↦ ?_
  rw [classMetrics_eq]
  rfl

theorem mem_labels (l : Label) : l ∈ labels := by
  rcases l with c | _
  · cases c <;> decide
  · decide

theorem mem_predictions (p : Prediction) : p ∈ predictions := by
  rcases p with l | _
  · exact List.mem_append_left _ (List.mem_map_of_mem (mem_labels l))
  · exact List.mem_append_right _ List.mem_cons_self

theorem nodup_labels : labels.Nodup := by
  decide

theorem nodup_predictions : predictions.Nodup := by
  decide

/-- The entries are found under their labels. -/
theorem lookup_perClass (matrix : Label → Prediction → ℕ) (l : Label) :
    (perClass matrix).lookup l = some (metrics matrix l) := by
  have hlookup : ∀ ls : List Label, l ∈ ls →
      (ls.map fun category ↦ (category, metrics matrix category)).lookup l =
        some (metrics matrix l) := by
    intro ls
    induction ls with
    | nil => exact fun h ↦ (List.not_mem_nil h).elim
    | cons l' ls ih =>
      intro h
      rw [List.map_cons, List.lookup_cons]
      cases heq : l == l' with
      | true => rw [beq_iff_eq.1 heq]
      | false => exact ih ((List.mem_cons.1 h).resolve_left (beq_eq_false_iff_ne.1 heq))
  exact hlookup labels (mem_labels l)

/-- The mean over the categories, with 0 where there is no `f1`. -/
def macroF1 (matrix : Label → Prediction → ℕ) : ℚ :=
  (categories.map fun category ↦ (metrics matrix (.category category)).f1.getD 0).sum / 6

theorem categoryMacroF1_eq (matrix : Label → Prediction → ℕ) :
    categoryMacroF1 (perClass matrix) = .ok (macroF1 matrix) := by
  have hf1s : categories.mapM (f1OrZero (perClass matrix)) =
      .ok (categories.map fun category ↦ (metrics matrix (.category category)).f1.getD 0) :=
    Except.mapM_eq_ok fun category _ ↦ by rw [f1OrZero, lookup_perClass]
  have hsix : (categories.length : ℚ) = 6 := by
    norm_num [categories]
  rw [categoryMacroF1, hf1s, hsix]
  show divide _ 6 = _
  rw [divide, if_neg (by norm_num)]
  rfl

/-- **What a report says of its rows.** -/
structure Reports (rows : List Row) (r : Report) : Prop where
  total : r.total = rows.length
  correct : r.correct = rows.countP Row.correct
  errors : r.errors = rows.countP fun row ↦ row.predicted = .error
  accuracy : r.accuracy = quotient r.correct r.total
  errorRate : r.errorRate = quotient r.errors r.total
  classificationCoverage :
    r.classificationCoverage = quotient (r.total - r.errors - r.abstention.count) r.total
  count : r.abstention.count = rows.countP fun row ↦ row.predicted = .label .insufficientContext
  correctAbstained :
    r.abstention.correct = r.confusionMatrix .insufficientContext (.label .insufficientContext)
  coverage : r.abstention.coverage = quotient r.abstention.count r.total
  precision : r.abstention.precision = quotient r.abstention.correct r.abstention.count
  «recall» : r.abstention.recall =
    quotient r.abstention.correct (support r.confusionMatrix .insufficientContext)
  matrix : r.confusionMatrix = confusionMatrix rows
  perClass : r.perClass = perClass r.confusionMatrix
  cases : r.cases = rows

/-- **Every list of rows has a report**, which depends on the fixtures by their digests only. -/
theorem exists_report (tools : Tools) (corpus : Corpus) (scripts : Scripts) (split : Split)
    (rows : List Row) :
    ∃ r, report tools corpus scripts split rows = .ok r ∧ Reports rows r ∧
      ∀ corpus' scripts', corpus'.labelReview = corpus.labelReview →
        report tools corpus' scripts' split rows =
          .ok (r.withDigests (digest tools (Corpus.json corpus'))
            (digest tools (Scripts.json scripts'))) := by
  have hbind {α β : Type} (a : α) (f : α → Except EvaluationError β) :
      (Except.ok a >>= f) = f a := rfl
  simp only [report, perClass_eq, ratio_eq, hbind, categoryMacroF1_eq]
  refine ⟨_, rfl, ⟨rfl, rfl, rfl, rfl, rfl, rfl, rfl, rfl, rfl, rfl, rfl, rfl, rfl, rfl⟩,
    fun corpus' scripts' hreview ↦ ?_⟩
  rw [hreview]
  rfl

/-! ### The numbers agree -/

/-- **The numbers of a report agree with each other** and with the cases that were selected. -/
structure Consistent (selected : List EvaluationCase) (r : Report) : Prop where
  total : r.total = selected.length
  matrix_total : (labels.map fun l ↦ support r.confusionMatrix l).sum = r.total
  matrix_rows : ∀ l, support r.confusionMatrix l =
    selected.countP fun case ↦ label case.expected = l
  expected_counts : ∀ entry ∈ r.perClass,
    entry.2.expectedCount = selected.countP fun case ↦ label case.expected = entry.1
  matrix_diagonal : (labels.map fun l ↦ r.confusionMatrix l (.label l)).sum = r.correct
  matrix_errors : (labels.map fun l ↦ r.confusionMatrix l .error).sum = r.errors
  abstention : ∃ entry, r.perClass.lookup .insufficientContext = some entry ∧
    r.abstention.count = entry.predictedCount ∧ r.abstention.correct = entry.truePositive ∧
    r.abstention.precision = entry.precision ∧ r.abstention.recall = entry.recall
  coverage : ∃ classified abstained failed, r.classificationCoverage = some classified ∧
    r.abstention.coverage = some abstained ∧ r.errorRate = some failed ∧
    classified + abstained + failed = 1
  f1 : ∀ entry ∈ r.perClass,
    (∀ p q, entry.2.precision = some p → entry.2.recall = some q → ¬(p = 0 ∧ q = 0) →
      entry.2.f1 = some (2 * p * q / (p + q))) ∧
    (entry.2.f1 = none ↔ entry.2.precision = none ∧ entry.2.recall = none)

/-- Rows that are true to the cases: as many of each label as are expected, and right when the
prediction is what was expected. -/
structure Faithful (selected : List EvaluationCase) (rows : List Row) : Prop where
  expected : (rows.map Row.expected).Perm (selected.map fun case ↦ label case.expected)
  correct : ∀ row ∈ rows, row.correct = decide (row.predicted = .label row.expected)

variable {selected : List EvaluationCase} {rows : List Row} {r : Report}

theorem Faithful.length_eq (h : Faithful selected rows) : rows.length = selected.length := by
  simpa using h.expected.length_eq

theorem Faithful.countP_expected (h : Faithful selected rows) (l : Label) :
    (rows.countP fun row ↦ row.expected = l) =
      selected.countP fun case ↦ label case.expected = l := by
  have hcount := h.expected.countP_eq fun l' ↦ decide (l' = l)
  rwa [List.countP_map, List.countP_map] at hcount

/-- **A report of faithful rows is consistent**, if there are any. -/
theorem Reports.consistent (hr : Reports rows r) (h : Faithful selected rows) (hne : rows ≠ []) :
    Consistent selected r := by
  have hrow (l : Label) : support r.confusionMatrix l = rows.countP fun row ↦ row.expected = l := by
    rw [hr.matrix, support, confusionMatrix]
    exact sum_row nodup_predictions (fun row _ ↦ mem_predictions row.predicted) l
  have hcolumn (p : Prediction) :
      (labels.map fun l ↦ r.confusionMatrix l p).sum =
        rows.countP fun row ↦ row.predicted = p := by
    rw [hr.matrix, confusionMatrix]
    exact sum_column nodup_labels (fun row _ ↦ mem_labels row.expected) p
  refine ⟨?_, ?_, ?_, ?_, ?_, ?_, ?_, ?_, ?_⟩
  · rw [hr.total, h.length_eq]
  · rw [hr.matrix, hr.total]
    simp only [support, confusionMatrix]
    exact sum_tally nodup_labels (fun row _ ↦ mem_labels row.expected) nodup_predictions
      fun row _ ↦ mem_predictions row.predicted
  · exact fun l ↦ (hrow l).trans (h.countP_expected l)
  · intro entry hentry
    rw [hr.perClass] at hentry
    obtain ⟨l, -, rfl⟩ := List.mem_map.1 hentry
    exact (hrow l).trans (h.countP_expected l)
  · rw [hr.matrix, hr.correct, confusionMatrix]
    refine (sum_diagonal nodup_labels (fun row _ ↦ mem_labels row.expected)
      Prediction.label).trans ?_
    exact List.countP_congr fun row hrow ↦ by rw [h.correct row hrow]
  · rw [hr.errors, ← hcolumn .error]
  · have hcount : r.abstention.count =
        (metrics r.confusionMatrix .insufficientContext).predictedCount :=
      hr.count.trans (hcolumn _).symm
    have hcorrect : r.abstention.correct =
        (metrics r.confusionMatrix .insufficientContext).truePositive :=
      hr.correctAbstained
    refine ⟨metrics r.confusionMatrix .insufficientContext, ?_, hcount, hcorrect, ?_, ?_⟩
    · rw [hr.perClass, lookup_perClass]
    · rw [hr.precision, precision_metrics, hcount, hcorrect]
    · rw [hr.recall, recall_metrics, hcorrect]
      rfl
  · have htotal : (r.total : ℤ) ≠ 0 := by
      rw [hr.total]
      exact Int.natCast_ne_zero.2 (List.length_pos_iff.2 hne).ne'
    have hdenominator : (r.total : ℚ) ≠ 0 := by exact_mod_cast htotal
    refine ⟨_, _, _, hr.classificationCoverage.trans (quotient_of_ne_zero htotal _),
      hr.coverage.trans (quotient_of_ne_zero htotal _),
      hr.errorRate.trans (quotient_of_ne_zero htotal _), ?_⟩
    push_cast
    field_simp
    ring
  · intro entry hentry
    rw [hr.perClass] at hentry
    obtain ⟨l, -, rfl⟩ := List.mem_map.1 hentry
    dsimp only
    rw [precision_metrics, recall_metrics, f1_metrics]
    exact f1_harmonic (metrics r.confusionMatrix l).truePositive
      (metrics r.confusionMatrix l).predictedCount (metrics r.confusionMatrix l).expectedCount

/-! ### The rows of an evaluation -/

variable {tools : Tools}

/-- A case has at most one message, so nothing but the provider can fail. -/
theorem classifyOpeningRequest_ne_valueError {subject : String} {messages : List OpeningMessage}
    (hids : (messages.map OpeningMessage.id).Nodup) (provider : FakeClassificationProvider)
    (message : String) :
    (classifyOpeningRequest tools subject messages provider).1 ≠ .error (.valueError message) := by
  have hprepare : ∀ e, prepareInput tools.sha256 subject messages inputPolicyVersion
      taxonomyVersion = .error e → e = .inputTooLarge := by
    intro e he
    unfold prepareInput at he
    split at he
    · next hempty => exact absurd hempty (by decide)
    · split at he
      · cases he; rfl
      · dsimp only at he
        split at he
        · cases he; rfl
        · cases he
  unfold classifyOpeningRequest
  split
  · nofun
  · next he => cases hprepare _ he
  · next he => cases hprepare _ he
  · split
    · nofun
    · split
      · nofun
      · split <;> nofun

/-- **A scripted case has a row**: its own, with its label, and right when the prediction is. -/
theorem exists_evaluateCase {answers : List (String × Script)} {case : EvaluationCase}
    {answer : Script} (hanswer : answers.lookup case.id = some answer) :
    ∃ row, evaluateCase tools answers case = .ok row ∧ row.id = case.id ∧
      row.expected = label case.expected ∧
      row.correct = decide (row.predicted = .label row.expected) := by
  have hids : ((case.messages tools).map OpeningMessage.id).Nodup := by
    unfold EvaluationCase.messages
    split
    · exact List.nodup_nil
    · exact List.nodup_singleton _
  have hvalue (message : String) :
      (classifyOpeningRequest tools case.subject (case.messages tools) ⟨answer⟩).1 ≠
        .error (.valueError message) :=
    classifyOpeningRequest_ne_valueError hids ⟨answer⟩ message
  unfold evaluateCase fakeProvider
  rw [hanswer]
  dsimp only [bind, Except.bind]
  split
  · exact ⟨_, rfl, rfl, rfl, decide_eq_decide.2 eq_comm⟩
  · exact ⟨_, rfl, rfl, rfl, rfl⟩
  · next message _ heq => exact (hvalue message (by rw [heq])).elim

/-- A script has an answer. -/
theorem ScriptCase.exists_script (script : ScriptCase) :
    ∃ answer, script.script? = some answer := by
  unfold script?
  cases hresponse : script.response with
  | some response => exact ⟨.response response, rfl⟩
  | none =>
    have hone := script.exactly_one_script
    rw [hresponse] at hone
    cases herror : script.error with
    | none => exact (hone (by rw [herror])).elim
    | some category =>
      obtain ⟨p, hp, hcategory⟩ := List.mem_map.1 (script.known_error category herror)
      have hfound : (errors.lookup category).isSome := by
        rw [List.lookup_isSome_iff]
        exact ⟨p, hp, beq_iff_eq.2 hcategory.symm⟩
      obtain ⟨type, htype⟩ := Option.isSome_iff_exists.1 hfound
      refine ⟨.error type, ?_⟩
      dsimp only [Option.getD_some]
      rw [htype]
      rfl

/-- **Scripts with different ids are all taken**, each with its answer. -/
theorem exists_responses {scripts : List ScriptCase} (hids : (scripts.map ScriptCase.id).Nodup) :
    ∃ answers, responses scripts = .ok answers ∧
      ∀ script ∈ scripts, answers.lookup script.id = script.script? := by
  have hfold : ∀ (rest : List ScriptCase) (answers : List (String × Script)),
      (answers.map Prod.fst ++ rest.map ScriptCase.id).Nodup →
      ∃ more, rest.foldlM
        (fun responses script ↦
          if responses.any fun answer ↦ answer.1 = script.id then
            Except.error (EvaluationError.valueError "Duplicate scripted identity")
          else
            match script.script? with
            | some answer => .ok (responses ++ [(script.id, answer)])
            | none => .error (.keyError (script.error.getD ""))) answers =
          .ok (answers ++ more) ∧ more.map Prod.fst = rest.map ScriptCase.id ∧
        ∀ script ∈ rest, ∀ answer, script.script? = some answer → (script.id, answer) ∈ more := by
    intro rest
    induction rest with
    | nil => exact fun answers _ ↦ ⟨[], by rw [List.append_nil]; rfl, rfl, nofun⟩
    | cons script rest ih =>
      intro answers hnodup
      obtain ⟨answer, hanswer⟩ := script.exists_script
      have hnew : ¬(answers.any fun answer ↦ decide (answer.1 = script.id)) = true := by
        rw [List.any_eq_true]
        rintro ⟨q, hq, heq⟩
        exact (List.nodup_append.1 hnodup).2.2 q.1 (List.mem_map_of_mem hq) script.id
          List.mem_cons_self (of_decide_eq_true heq)
      have hnext : ((answers ++ [(script.id, answer)]).map Prod.fst ++
          rest.map ScriptCase.id).Nodup := by
        rw [List.map_append, List.append_assoc]
        exact hnodup
      obtain ⟨more, hmore, hkeys, hmem⟩ := ih _ hnext
      refine ⟨(script.id, answer) :: more, ?_, by rw [List.map_cons, List.map_cons, hkeys], ?_⟩
      · rw [List.foldlM_cons, if_neg hnew, hanswer]
        show rest.foldlM _ (answers ++ [(script.id, answer)]) = _
        rw [hmore, List.append_assoc, List.singleton_append]
      · intro script' hscript' answer' hanswer'
        rcases List.mem_cons.1 hscript' with rfl | hscript'
        · rw [hanswer] at hanswer'
          obtain rfl := Option.some.inj hanswer'
          exact List.mem_cons_self
        · exact List.mem_cons_of_mem _ (hmem script' hscript' answer' hanswer')
  obtain ⟨answers, hanswers, hkeys, hmem⟩ := hfold scripts [] hids
  refine ⟨answers, hanswers, fun script hscript ↦ ?_⟩
  obtain ⟨answer, hanswer⟩ := script.exists_script
  have hnodup : (answers.map Prod.fst).Nodup := hkeys ▸ hids
  rw [hanswer, List.lookup_eq_some_iff_mem hnodup]
  exact hmem script hscript answer hanswer

/-! ### Evaluations -/

/-- The order of the rows. -/
abbrev ById (a b : EvaluationCase) : Prop :=
  a.id ≤ b.id

/-- Sorting forgets the order of the cases, since no two have one id. -/
theorem insertionSort_selectedCases {corpus corpus' : Corpus} {split : Split}
    (hids : (corpus.cases.map EvaluationCase.id).Nodup) (hperm : corpus'.cases.Perm corpus.cases) :
    (selectedCases corpus' split).insertionSort ById =
      (selectedCases corpus split).insertionSort ById := by
  refine (hperm.filter _).insertionSort_eq (fun a b ↦ String.le_total a.id b.id)
    (fun a b c ↦ String.le_trans) fun a ha b hb hab hba ↦ ?_
  have hmem : ∀ {case}, case ∈ selectedCases corpus' split → case ∈ corpus.cases :=
    fun h ↦ hperm.mem_iff.1 (List.mem_of_mem_filter h)
  exact List.inj_on_of_nodup_map hids (hmem ha) (hmem hb) (String.le_antisymm hab hba)

/-- The row of a case: with its id and its label, and right when the prediction is. -/
def IsRowOf (tools : Tools) (answers : List (String × Script)) (case : EvaluationCase) (row : Row) :
    Prop :=
  evaluateCase tools answers case = .ok row ∧ row.id = case.id ∧
    row.expected = label case.expected ∧
      row.correct = decide (row.predicted = .label row.expected)

/-- An evaluation, with the answers of its scripts and its rows, in the order of their ids. -/
structure Evaluates (tools : Tools) (corpus : Corpus) (scripts : Scripts) (split : Split)
    (answers : List (String × Script)) (rows : List Row) (r : Report) : Prop where
  answered : ∀ script ∈ scripts.cases, answers.lookup script.id = script.script?
  isRowOf :
    List.Forall₂ (IsRowOf tools answers) ((selectedCases corpus split).insertionSort ById) rows
  reported : report tools corpus scripts split rows = .ok r
  evaluated : evaluate tools corpus scripts split = .ok r

section Evaluates

variable {corpus corpus' : Corpus} {scripts scripts' : Scripts} {split : Split}

/-- **A split whose cases have scripts is evaluated.** -/
theorem exists_evaluates (tools : Tools) (hscripts : (scripts.cases.map ScriptCase.id).Nodup)
    (hcover : ∀ case ∈ corpus.cases, case.id ∈ scripts.cases.map ScriptCase.id)
    (hsplit : selectedCases corpus split ≠ []) :
    ∃ answers rows r, Evaluates tools corpus scripts split answers rows r := by
  obtain ⟨answers, hanswers, hlookup⟩ := exists_responses hscripts
  have hcase : ∀ case ∈ (selectedCases corpus split).insertionSort ById,
      ∃ row, evaluateCase tools answers case = .ok row ∧ IsRowOf tools answers case row := by
    intro case hcase
    have hmem : case ∈ corpus.cases :=
      List.mem_of_mem_filter ((List.mem_insertionSort ById).1 hcase)
    obtain ⟨script, hscript, hid⟩ := List.mem_map.1 (hcover case hmem)
    obtain ⟨answer, hanswer⟩ := script.exists_script
    have hfound : answers.lookup case.id = some answer := by
      rw [← hid, hlookup script hscript, hanswer]
    obtain ⟨row, hrow, hfacts⟩ := exists_evaluateCase hfound
    exact ⟨row, hrow, hrow, hfacts⟩
  obtain ⟨rows, hrows, hforall⟩ := Except.exists_mapM hcase
  obtain ⟨r, hr, -, -⟩ := exists_report tools corpus scripts split rows
  refine ⟨answers, rows, r, hlookup, hforall, hr, ?_⟩
  unfold evaluate
  rw [if_neg hsplit, hanswers]
  show
    (((selectedCases corpus split).insertionSort ById).mapM (evaluateCase tools answers) >>= _) = _
  rw [hrows]
  exact hr

variable {answers answers' : List (String × Script)} {rows' : List Row} {r' : Report}

theorem Evaluates.reports (h : Evaluates tools corpus scripts split answers rows r) :
    Reports rows r := by
  obtain ⟨r', hr', hreports, -⟩ := exists_report tools corpus scripts split rows
  rw [h.reported] at hr'
  exact Except.ok.inj hr' ▸ hreports

/-- The rows are true to the selected cases. -/
theorem Evaluates.faithful (h : Evaluates tools corpus scripts split answers rows r) :
    Faithful (selectedCases corpus split) rows := by
  constructor
  · have hmap : ∀ {cases rows}, List.Forall₂ (IsRowOf tools answers) cases rows →
        rows.map Row.expected = cases.map fun case ↦ label case.expected := by
      intro cases rows hrows
      induction hrows with
      | nil => rfl
      | cons hrow _ ih => rw [List.map_cons, List.map_cons, hrow.2.2.1, ih]
    have hperm := List.perm_insertionSort ById (selectedCases corpus split)
    rw [hmap h.isRowOf]
    exact hperm.map fun case ↦ label case.expected
  · have hcorrect : ∀ {cases rows}, List.Forall₂ (IsRowOf tools answers) cases rows →
        ∀ row ∈ rows, row.correct = decide (row.predicted = .label row.expected) := by
      intro cases rows hrows
      induction hrows with
      | nil => exact nofun
      | cons hrow _ ih => exact List.forall_mem_cons.2 ⟨hrow.2.2.2, ih⟩
    exact hcorrect h.isRowOf

theorem Evaluates.rows_ne_nil (h : Evaluates tools corpus scripts split answers rows r)
    (hsplit : selectedCases corpus split ≠ []) : rows ≠ [] := by
  rw [← List.length_pos_iff, h.faithful.length_eq]
  exact List.length_pos_iff.2 hsplit

/-- Two rows of a case have one prediction, or are both wrong: one with a label, or with an error,
and the other with the same or another one. -/
def SameSuccess (row row' : Row) : Prop :=
  row'.predicted = row.predicted ∨
    row.predicted ≠ .label row.expected ∧ row'.predicted ≠ .label row'.expected

/-- **A failure is a failure**: as many rows are right when each case is as right as before. -/
theorem countP_correct_eq {cases : List EvaluationCase}
    (hrows : List.Forall₂ (IsRowOf tools answers) cases rows)
    (hrows' : List.Forall₂ (IsRowOf tools answers') cases rows')
    (hsame : ∀ row ∈ rows, ∀ row' ∈ rows', row'.id = row.id → SameSuccess row row') :
    rows'.countP Row.correct = rows.countP Row.correct := by
  induction hrows generalizing rows' with
  | nil =>
    cases hrows'
    rfl
  | @cons case row cases rows hrow _ ih =>
    cases hrows' with
    | @cons _ row' _ rows' hrow' hrest' =>
      obtain ⟨-, hid, hexpected, hcorrect⟩ := hrow
      obtain ⟨-, hid', hexpected', hcorrect'⟩ := hrow'
      have hone : row'.correct = row.correct := by
        rw [hcorrect, hcorrect']
        rcases hsame row List.mem_cons_self row' List.mem_cons_self (hid'.trans hid.symm) with
          heq | ⟨hwrong, hwrong'⟩
        · rw [heq, hexpected, hexpected']
        · rw [decide_eq_false hwrong, decide_eq_false hwrong']
      have hrest := ih hrest' fun q hq q' hq' ↦
        hsame q (List.mem_cons_of_mem _ hq) q' (List.mem_cons_of_mem _ hq')
      rw [List.countP_cons, List.countP_cons, hrest, hone]

/-- The rows do not depend on the order of the cases and of the scripts. -/
theorem Evaluates.rows_eq (hids : (corpus.cases.map EvaluationCase.id).Nodup)
    (hcover : ∀ case ∈ corpus.cases, case.id ∈ scripts.cases.map ScriptCase.id)
    (hcases : corpus'.cases.Perm corpus.cases) (hscripts : scripts'.cases.Perm scripts.cases)
    (h : Evaluates tools corpus scripts split answers rows r)
    (h' : Evaluates tools corpus' scripts' split answers' rows' r') : rows' = rows := by
  have hrows' := h'.isRowOf
  rw [insertionSort_selectedCases hids hcases] at hrows'
  have hanswers : ∀ case ∈ (selectedCases corpus split).insertionSort ById,
      evaluateCase tools answers' case = evaluateCase tools answers case := by
    intro case hcase
    have hmem := List.mem_of_mem_filter ((List.mem_insertionSort ById).1 hcase)
    obtain ⟨script, hscript, hid⟩ := List.mem_map.1 (hcover case hmem)
    have hlookup : answers'.lookup case.id = answers.lookup case.id := by
      rw [← hid, h.answered script hscript, h'.answered script (hscripts.mem_iff.2 hscript)]
    unfold evaluateCase fakeProvider
    rw [hlookup]
  have hunique : ∀ {cases rows rows'},
      (∀ case ∈ cases, evaluateCase tools answers' case = evaluateCase tools answers case) →
      List.Forall₂ (IsRowOf tools answers) cases rows →
      List.Forall₂ (IsRowOf tools answers') cases rows' → rows' = rows := by
    intro cases rows rows' hanswers hrows
    induction hrows generalizing rows' with
    | nil =>
      rintro ⟨⟩
      rfl
    | cons hrow _ ih =>
      rintro (_ | ⟨hrow', hrest'⟩)
      obtain ⟨hcase, hcases⟩ := List.forall_mem_cons.1 hanswers
      have hone := hrow'.1
      rw [hcase, hrow.1] at hone
      rw [ih hcases hrest', Except.ok.inj hone]
  exact hunique hanswers h.isRowOf hrows'

/-- **An evaluation of a covered split returns a report whose numbers agree**; its accuracy does not
tell a wrong label from an error, and but for the digests of the fixtures it does not depend on
their order. -/
theorem evaluation_consistent (tools : Tools)
    (hids : (corpus.cases.map EvaluationCase.id).Nodup)
    (hscripts : (scripts.cases.map ScriptCase.id).Nodup)
    (hcover : ∀ case ∈ corpus.cases, case.id ∈ scripts.cases.map ScriptCase.id)
    (hsplit : selectedCases corpus split ≠ []) :
    ∃ r, evaluate tools corpus scripts split = .ok r ∧
      Consistent (selectedCases corpus split) r ∧
      (∀ (scripts' : Scripts) r', (scripts'.cases.map ScriptCase.id).Nodup →
        (∀ case ∈ corpus.cases, case.id ∈ scripts'.cases.map ScriptCase.id) →
        evaluate tools corpus scripts' split = .ok r' →
        (∀ row ∈ r.cases, ∀ row' ∈ r'.cases, row'.id = row.id → SameSuccess row row') →
        r'.correct = r.correct ∧ r'.accuracy = r.accuracy) ∧
      ∀ (corpus' : Corpus) (scripts' : Scripts), corpus'.labelReview = corpus.labelReview →
        corpus'.cases.Perm corpus.cases → scripts'.cases.Perm scripts.cases →
        evaluate tools corpus' scripts' split =
          .ok (r.withDigests (digest tools corpus'.json) (digest tools scripts'.json)) := by
  obtain ⟨answers, rows, r, h⟩ := exists_evaluates tools hscripts hcover hsplit
  refine ⟨r, h.evaluated, h.reports.consistent h.faithful (h.rows_ne_nil hsplit), ?_, ?_⟩
  · intro scripts' r' hscripts' hcover' hr' hsame
    obtain ⟨answers', rows', r'', h'⟩ := exists_evaluates tools hscripts' hcover' hsplit
    obtain rfl : r'' = r' := Except.ok.inj (h'.evaluated.symm.trans hr')
    rw [h.reports.cases, h'.reports.cases] at hsame
    have hcorrect : r''.correct = r.correct := by
      rw [h.reports.correct, h'.reports.correct]
      exact countP_correct_eq h.isRowOf h'.isRowOf hsame
    have htotal : r''.total = r.total := by
      rw [h.reports.total, h'.reports.total, h.faithful.length_eq, h'.faithful.length_eq]
    exact ⟨hcorrect, by rw [h.reports.accuracy, h'.reports.accuracy, hcorrect, htotal]⟩
  · intro corpus' scripts' hreview hcases hperm
    have hscripts' : (scripts'.cases.map ScriptCase.id).Nodup :=
      (hperm.map ScriptCase.id).nodup_iff.2 hscripts
    have hcover' : ∀ case ∈ corpus'.cases, case.id ∈ scripts'.cases.map ScriptCase.id :=
      fun case hcase ↦ (hperm.map ScriptCase.id).mem_iff.2 (hcover case (hcases.mem_iff.1 hcase))
    have hsplit' : selectedCases corpus' split ≠ [] := by
      intro hempty
      have hselected := (hcases.filter fun case ↦ split.selects case.split)
      exact hsplit (List.nil_perm.1 (hempty ▸ hselected))
    obtain ⟨answers', rows', r', h'⟩ := exists_evaluates tools hscripts' hcover' hsplit'
    obtain rfl := h.rows_eq hids hcover hcases hperm h'
    obtain ⟨r'', hr'', -, hdigests⟩ := exists_report tools corpus scripts split rows'
    obtain rfl : r'' = r := Except.ok.inj (hr''.symm.trans h.reported)
    rw [h'.evaluated, ← h'.reported]
    exact hdigests corpus' scripts' hreview

end Evaluates

namespace Sample

def setup : Tools :=
  ⟨id, fun _ ↦ ⟨0, by decide⟩, Json.loads⟩

/-- A case of the development split. -/
def case (id : String) (category : ClassificationCategory) : EvaluationCase :=
  ⟨id, .development, .en, "subject", some "request", ⟨.classified, some category, by simp⟩, "test"⟩

def corpus : Corpus :=
  ⟨.pendingErayReview, [case "case-01" .billing, case "case-00" .howTo]⟩

/-- An answer that is right, and an error. -/
def scripts : Scripts :=
  ⟨[⟨"case-00", some "\x7b\"outcome\":\"classified\",\"category\":\"how_to\"\x7d", none,
      by decide, nofun⟩,
    ⟨"case-01", none, some "provider_timeout", by decide,
      by simp [errors, ProviderError.category]⟩]⟩

end Sample

theorem evaluation_consistent_sample :
    ∃ r, evaluate Sample.setup Sample.corpus Sample.scripts .development = .ok r ∧
      Consistent (selectedCases Sample.corpus .development) r := by
  obtain ⟨r, hr, hconsistent, -⟩ := evaluation_consistent Sample.setup
    (show (Sample.corpus.cases.map EvaluationCase.id).Nodup by decide)
    (show (Sample.scripts.cases.map ScriptCase.id).Nodup by decide)
    (show ∀ case ∈ Sample.corpus.cases, case.id ∈ Sample.scripts.cases.map ScriptCase.id by decide)
    (show selectedCases Sample.corpus .development ≠ [] by decide)
  exact ⟨r, hr, hconsistent⟩

example : ((evaluate Sample.setup Sample.corpus Sample.scripts .development).toOption.map fun r ↦
    (r.cases.map Row.id, r.correct, r.errors, r.accuracy)) =
      some (["case-00", "case-01"], 1, 1, some (1 / 2)) := by
  decide +kernel

end SupportFlow.Evaluation
