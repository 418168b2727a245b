import SupportFlow.Documents.Extraction
import SupportFlow.Foundations.Effect

/-!
# The pages of a PDF

`PdfDocumentExtractor.extract` counts the characters while it goes from page to page, and stops at
the first page with which there are too many. Its answer is the one that the whole text would give
(`extract_limit_iff`).

`askText` is `extractText` on a state: the number of pages it has asked for their text
(`askText_exec`).
-/

namespace SupportFlow.PdfDocumentExtractor

open Effect

/-- The loop over the pages, on the number of pages asked. -/
def askPages (limits : ExtractionLimits) :
    List (Except ExtractionError (Option String)) → List String → ℕ →
      Effect ExtractionError ℕ (List String)
  | [], parts, _ => return parts
  | page :: pages, parts, characterCount => do
    update fun asked ↦ asked + 1
    let pageText := orEmpty (← MonadExcept.ofExcept page)
    let characterCount := characterCount + pageText.length
    let characterCount := if parts = [] then characterCount else characterCount + 1
    raiseWhen (limits.maxCharacters < characterCount) (.permanent .extractionLimitExceeded)
    askPages limits pages (parts ++ [pageText]) characterCount

/-- The body of the `try`, on the number of pages asked. -/
def askText (pypdf : Pypdf) (source : ByteFile) (limits : ExtractionLimits) :
    Effect ExtractionError ℕ String := do
  let reader ← MonadExcept.ofExcept (pypdf source)
  let isEncrypted ← MonadExcept.ofExcept reader.isEncrypted
  raiseWhen (isEncrypted = true) (.permanent .extractionFailed)
  let pages ← MonadExcept.ofExcept reader.pages
  raiseWhen (limits.maxPdfPages < pages.length) (.permanent .extractionLimitExceeded)
  let parts ← askPages limits pages [] 0
  return "\n".intercalate parts

/-- How many pages `extract` asks for their text. -/
def pagesAsked (pypdf : Pypdf) (source : ByteFile) (limits : ExtractionLimits) : ℕ :=
  ((askText pypdf source limits).exec 0).2

variable {pypdf : Pypdf} {limits : ExtractionLimits} {source : ByteFile}

/-- One page, with a text: it is asked, and the loop goes on unless there are now too many
characters. -/
theorem askPages_cons (extracted : Option String)
    (pages : List (Except ExtractionError (Option String))) (parts : List String)
    (characterCount asked : ℕ) :
    (askPages limits (.ok extracted :: pages) parts characterCount).exec asked =
      if limits.maxCharacters < if parts = [] then characterCount + (orEmpty extracted).length
          else characterCount + (orEmpty extracted).length + 1 then
        (.error (.permanent .extractionLimitExceeded), asked + 1)
      else (askPages limits pages (parts ++ [orEmpty extracted])
        (if parts = [] then characterCount + (orEmpty extracted).length
          else characterCount + (orEmpty extracted).length + 1)).exec (asked + 1) := by
  rw [askPages, exec_update_bind, exec_ofExcept_bind]
  exact exec_raiseWhen_bind ..

/-- Asking does not change the texts. -/
theorem askPages_exec (pages : List (Except ExtractionError (Option String)))
    (parts : List String) (characterCount asked : ℕ) :
    ((askPages limits pages parts characterCount).exec asked).1 =
      extractPages limits pages parts characterCount := by
  induction pages generalizing parts characterCount asked with
  | nil => rfl
  | cons page pages ih =>
    rcases page with e | extracted
    · rfl
    · show _ = if limits.maxCharacters < ite (parts = []) _ _ then _ else _
      rw [askPages_cons, apply_ite Prod.fst, ih]

/-- Asking does not change what is extracted. -/
theorem askText_exec (asked : ℕ) :
    ((askText pypdf source limits).exec asked).1 = extractText pypdf source limits := by
  rw [askText, extractText, fst_exec_ofExcept_bind]
  refine bind_congr fun reader ↦ ?_
  rw [fst_exec_ofExcept_bind]
  refine bind_congr fun isEncrypted ↦ ?_
  rw [exec_raiseWhen_bind, apply_ite Prod.fst, fst_exec_ofExcept_bind]
  refine congrArg (ite _ _) (bind_congr fun pages ↦ ?_)
  rw [exec_raiseWhen_bind, apply_ite Prod.fst, bind_pure_comp, exec_map, askPages_exec,
    bind_pure_comp]
  rfl

/-! ### The running count -/

/-- The loop on pages whose texts fit: it asks all of them. -/
theorem askPages_fits {texts : List (Option String)} {parts : List String} (asked : ℕ)
    (hfits : ("\n".intercalate (parts ++ texts.map orEmpty)).length ≤ limits.maxCharacters) :
    (askPages limits (texts.map .ok) parts ("\n".intercalate parts).length).exec asked =
      (.ok (parts ++ texts.map orEmpty), asked + texts.length) := by
  induction texts generalizing parts asked with
  | nil => rw [List.map_nil, List.map_nil, List.append_nil, askPages, exec_pure]; rfl
  | cons extracted texts ih =>
    have hsplit : parts ++ (extracted :: texts).map orEmpty =
        (parts ++ [orEmpty extracted]) ++ texts.map orEmpty := by
      rw [List.map_cons, List.append_assoc, List.singleton_append]
    rw [hsplit] at hfits ⊢
    have hnow := (Python.length_join_le "\n" (parts ++ [orEmpty extracted]) _).trans hfits
    rw [List.map_cons, askPages_cons, characterCount_concat, if_neg (not_lt.2 hnow), ih _ hfits,
      List.length_cons, Nat.add_right_comm, Nat.add_assoc]

/-- The loop on pages some of which are already too long: it asks no page after them, whatever
these would do. -/
theorem askPages_stops {texts : List (Option String)} {parts : List String} (asked : ℕ)
    (rest : List (Except ExtractionError (Option String)))
    (hshort : ("\n".intercalate parts).length ≤ limits.maxCharacters)
    (hlong : limits.maxCharacters < ("\n".intercalate (parts ++ texts.map orEmpty)).length) :
    ∃ n ≤ asked + texts.length,
      (askPages limits (texts.map .ok ++ rest) parts ("\n".intercalate parts).length).exec asked =
        (.error (.permanent .extractionLimitExceeded), n) := by
  induction texts generalizing parts asked with
  | nil =>
    rw [List.map_nil, List.append_nil] at hlong
    exact absurd hlong (not_lt.2 hshort)
  | cons extracted texts ih =>
    have hsplit : parts ++ (extracted :: texts).map orEmpty =
        (parts ++ [orEmpty extracted]) ++ texts.map orEmpty := by
      rw [List.map_cons, List.append_assoc, List.singleton_append]
    rw [hsplit] at hlong
    rw [List.map_cons, List.cons_append, askPages_cons, characterCount_concat]
    split
    · exact ⟨asked + 1, by simp, rfl⟩
    · next hnow =>
      obtain ⟨n, hn, hexec⟩ := ih (asked + 1) (not_lt.1 hnow) hlong
      exact ⟨n, by rw [List.length_cons]; omega, hexec⟩

/-! ### Readable documents -/

/-- A document that opens, without a password, and has these pages. -/
def Readable (pypdf : Pypdf) (source : ByteFile)
    (pages : List (Except ExtractionError (Option String))) : Prop :=
  ∃ reader, pypdf source = .ok reader ∧ reader.isEncrypted = .ok false ∧ reader.pages = .ok pages

/-- What is left to do of a readable document are its pages. -/
theorem Readable.askText_exec {pages : List (Except ExtractionError (Option String))}
    (h : Readable pypdf source pages) (asked : ℕ) :
    (askText pypdf source limits).exec asked =
      if limits.maxPdfPages < pages.length then
        (.error (.permanent .extractionLimitExceeded), asked)
      else (("\n".intercalate ·) <$> askPages limits pages [] 0).exec asked := by
  obtain ⟨reader, hreader, hplain, hpages⟩ := h
  rw [askText, exec_ofExcept_bind, hreader]
  dsimp only
  rw [exec_ofExcept_bind, hplain]
  dsimp only
  rw [exec_raiseWhen_bind, if_neg Bool.false_ne_true, exec_ofExcept_bind, hpages]
  exact exec_raiseWhen_bind ..

/-- An error of the limits is not named anew. -/
theorem extract_eq_of_exec {asked n : ℕ} {result : Except ExtractionError String}
    (h : (askText pypdf source limits).exec asked = (result, n))
    (hresult : result ≠ .error .unreadable) : extract pypdf source limits = result := by
  rw [extract, ← PdfDocumentExtractor.askText_exec asked, h]
  rcases result with (- | - | - | -) | text
  · rfl
  · exact absurd rfl hresult
  · rfl
  · rfl
  · rfl

/-- Of a document with too many pages none is asked. -/
theorem extract_tooMany {pages : List (Except ExtractionError (Option String))}
    (h : Readable pypdf source pages) (hmany : limits.maxPdfPages < pages.length) :
    extract pypdf source limits = .error (.permanent .extractionLimitExceeded) ∧
      pagesAsked pypdf source limits = 0 := by
  have hexec : (askText pypdf source limits).exec 0 =
      (.error (.permanent .extractionLimitExceeded), 0) := by
    rw [h.askText_exec, if_pos hmany]
  exact ⟨extract_eq_of_exec hexec nofun, congrArg Prod.snd hexec⟩

variable {texts : List (Option String)}

/-- **No page is asked after the text is too long**, nor does it matter what the further ones would
do. -/
theorem extract_stops {rest : List (Except ExtractionError (Option String))}
    (h : Readable pypdf source (texts.map .ok ++ rest))
    (hlong : limits.maxCharacters < ("\n".intercalate (texts.map orEmpty)).length) :
    extract pypdf source limits = .error (.permanent .extractionLimitExceeded) ∧
      pagesAsked pypdf source limits ≤ texts.length := by
  by_cases hmany : limits.maxPdfPages < (texts.map Except.ok ++ rest).length
  · obtain ⟨hextract, hasked⟩ := extract_tooMany h hmany
    exact ⟨hextract, hasked ▸ Nat.zero_le _⟩
  · obtain ⟨n, hn, hpages⟩ : ∃ n ≤ 0 + texts.length,
        (askPages limits (texts.map .ok ++ rest) [] 0).exec 0 =
          (.error (.permanent .extractionLimitExceeded), n) :=
      @askPages_stops limits texts [] 0 rest (Nat.zero_le _) hlong
    have hexec : (askText pypdf source limits).exec 0 =
        (.error (.permanent .extractionLimitExceeded), n) := by
      rw [h.askText_exec, if_neg hmany, exec_map, hpages]
      rfl
    refine ⟨extract_eq_of_exec hexec nofun, ?_⟩
    rw [pagesAsked, hexec]
    omega

/-- A document within the limits: all of its pages are asked. -/
theorem extract_fits (h : Readable pypdf source (texts.map .ok))
    (hfew : texts.length ≤ limits.maxPdfPages)
    (hfits : ("\n".intercalate (texts.map orEmpty)).length ≤ limits.maxCharacters) :
    extract pypdf source limits = .ok ("\n".intercalate (texts.map orEmpty)) ∧
      pagesAsked pypdf source limits = texts.length := by
  have hpages : (askPages limits (texts.map .ok) [] 0).exec 0 =
      (.ok (texts.map orEmpty), 0 + texts.length) :=
    @askPages_fits limits texts [] 0 hfits
  have hexec : (askText pypdf source limits).exec 0 =
      (.ok ("\n".intercalate (texts.map orEmpty)), 0 + texts.length) := by
    rw [h.askText_exec, List.length_map, if_neg (not_lt.2 hfew), exec_map, hpages]
    rfl
  refine ⟨extract_eq_of_exec hexec nofun, ?_⟩
  rw [pagesAsked, hexec, Nat.zero_add]

/-- **The incremental limit is the plain one.** -/
theorem extract_limit_iff (h : Readable pypdf source (texts.map .ok)) :
    (extract pypdf source limits = .error (.permanent .extractionLimitExceeded) ↔
        limits.maxPdfPages < texts.length ∨
          limits.maxCharacters < ("\n".intercalate (texts.map orEmpty)).length) ∧
      (extract pypdf source limits ≠ .error (.permanent .extractionLimitExceeded) →
        extract pypdf source limits = .ok ("\n".intercalate (texts.map orEmpty))) ∧
      ∀ k, limits.maxCharacters < ("\n".intercalate ((texts.take k).map orEmpty)).length →
        pagesAsked pypdf source limits ≤ k := by
  have hstops : ∀ k,
      limits.maxCharacters < ("\n".intercalate ((texts.take k).map orEmpty)).length →
        extract pypdf source limits = .error (.permanent .extractionLimitExceeded) ∧
          pagesAsked pypdf source limits ≤ k := by
    intro k hlong
    rw [← List.take_append_drop k texts, List.map_append] at h
    obtain ⟨hextract, hasked⟩ := extract_stops h hlong
    exact ⟨hextract, hasked.trans (List.length_take_le k texts)⟩
  by_cases hexceeded : limits.maxPdfPages < texts.length ∨
      limits.maxCharacters < ("\n".intercalate (texts.map orEmpty)).length
  · have hextract : extract pypdf source limits = .error (.permanent .extractionLimitExceeded) := by
      rcases hexceeded with hmany | hlong
      · exact (extract_tooMany h (by rwa [List.length_map])).1
      · rw [← List.take_length (l := texts)] at hlong
        exact (hstops _ hlong).1
    exact ⟨iff_of_true hextract hexceeded, fun hne ↦ absurd hextract hne,
      fun k hlong ↦ (hstops k hlong).2⟩
  · obtain ⟨hfew, hfits⟩ := not_or.1 hexceeded
    have hextract := (extract_fits h (not_lt.1 hfew) (not_lt.1 hfits)).1
    refine ⟨iff_of_false ?_ hexceeded, fun _ ↦ hextract, fun k hlong ↦ (hstops k hlong).2⟩
    rw [hextract]
    exact nofun

namespace Sample

/-- The texts of four pages. -/
def pageTexts : List (Option String) :=
  [some "ab", none, some "c", some "d"]

/-- A `pypdf` that finds them in any file. -/
def reader : Pypdf :=
  fun _ ↦ .ok ⟨.ok false, .ok (pageTexts.map .ok)⟩

end Sample

/-- The theorem for the four pages: with the third there are five characters. -/
theorem extract_limit_iff_sample :
    extract Sample.reader ⟨[], 0⟩ ⟨4, 4⟩ = .error (.permanent .extractionLimitExceeded) ∧
      pagesAsked Sample.reader ⟨[], 0⟩ ⟨4, 4⟩ ≤ 3 := by
  have hreadable : Readable Sample.reader ⟨[], 0⟩ (Sample.pageTexts.map .ok) := ⟨_, rfl, rfl, rfl⟩
  obtain ⟨hlimit, -, hstops⟩ := @extract_limit_iff _ ⟨4, 4⟩ _ _ hreadable
  exact ⟨hlimit.2 (Or.inr (by decide)), hstops 3 (by decide)⟩

end SupportFlow.PdfDocumentExtractor
