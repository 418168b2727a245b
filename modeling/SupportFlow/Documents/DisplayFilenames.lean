import SupportFlow.Documents.Validation

/-!
# Display filenames

What `normalize_display_filename` returns is safe to show and to store, and the name is its own
normal form (`normalizeDisplayFilename_stable`). Its checks are made on the normalized name, but the
name it returns has the suffix of that in lower case; what carries the checks over is that the
suffix is ASCII. No character outside ASCII has a lower case within, but for the Kelvin sign, and
that one does not survive normalization.
-/

namespace SupportFlow

namespace DocumentValidation

open Python (isAscii isSpace strip rsplitOnce rsplitOnce_eq_some_iff)

/-- A lower-case letter of ASCII. -/
def IsLetter (c : Char) : Prop :=
  'a' ≤ c ∧ c ≤ 'z'

instance : DecidablePred IsLetter :=
  fun _ ↦ inferInstanceAs (Decidable (_ ∧ _))

/-- What holds of Unicode: of its normalization form KC, of lower case and of the categories. -/
structure Unicode.Standard (u : Unicode) : Prop where
  nfkc_nfkc : ∀ s, u.nfkc (u.nfkc s) = u.nfkc s
  /-- A part of a normalized text is normalized. -/
  nfkc_part : ∀ before part after, u.nfkc (before ++ part ++ after) = before ++ part ++ after →
    u.nfkc part = part
  /-- A normalized text stays so with an ASCII suffix in lower case. -/
  nfkc_lower : ∀ stem suffix, isAscii suffix = true → u.nfkc (stem ++ suffix) = stem ++ suffix →
    u.nfkc (stem ++ u.lower suffix) = stem ++ u.lower suffix
  /-- The Kelvin sign is a compatibility character. -/
  nfkc_kelvin : u.nfkc "\u212A" = "K"
  lower_ascii : ∀ s, isAscii s = true → (u.lower s).toList = s.toList.map Char.toLower
  /-- Of the characters outside ASCII only the Kelvin sign has a lower case in ASCII. -/
  isAscii_of_lower : ∀ s, isAscii (u.lower s) = true →
    ∀ c ∈ s.toList, c.toNat < 128 ∨ c = '\u212A'
  category_letter : ∀ c, IsLetter c → u.category c = "Ll"

/-- A name that passes the checks before its extension is looked at. -/
structure Unicode.Safe (u : Unicode) (name : String) : Prop where
  ne_empty : name ≠ ""
  ne_dots : name ∉ [".", ".."]
  no_slash : '/' ∉ name.toList
  no_backslash : '\\' ∉ name.toList
  no_control : ∀ c ∈ name.toList, (u.category c).toList.head? ≠ some 'C'
  length_le : name.length ≤ displayFilenameMaxChars

/-- A display filename, with its extension. -/
structure Unicode.Accepted (u : Unicode) (name extension : String) : Prop extends u.Safe name where
  no_space_at_ends : name.toList.EndsFree isSpace
  supported : extension ∈ mediaTypeByExtension.map Prod.fst
  has_stem : ∃ stem, stem ≠ "" ∧ name = stem ++ extension

variable {u : Unicode} {filename : Option String} {name extension : String}

/-- The condition of the first `if`. -/
theorem Unicode.safe_iff :
    u.Safe name ↔ ¬(name = "" ∨ name ∈ [".", ".."] ∨ '/' ∈ name.toList ∨ '\\' ∈ name.toList ∨
      (name.toList.any fun character ↦ (u.category character).toList.head? = some 'C') ∨
        displayFilenameMaxChars < name.length) := by
  rw [List.any_eq_true]
  constructor
  · rintro h (hempty | hdots | hslash | hbackslash | ⟨c, hc, hcontrol⟩ | hlong)
    · exact h.ne_empty hempty
    · exact h.ne_dots hdots
    · exact h.no_slash hslash
    · exact h.no_backslash hbackslash
    · exact h.no_control c hc (of_decide_eq_true hcontrol)
    · exact absurd hlong (not_lt.2 h.length_le)
  · intro h
    simp only [not_or] at h
    obtain ⟨hempty, hdots, hslash, hbackslash, hcontrol, hlong⟩ := h
    exact ⟨hempty, hdots, hslash, hbackslash,
      fun c hc hstart ↦ hcontrol ⟨c, hc, decide_eq_true hstart⟩, not_lt.1 hlong⟩

theorem lookup_isSome_iff :
    (mediaTypeByExtension.lookup extension).isSome = true ↔
      extension ∈ mediaTypeByExtension.map Prod.fst := by
  rw [List.lookup_isSome_iff, List.mem_map]
  constructor
  · rintro ⟨entry, hentry, hkey⟩
    exact ⟨entry, hentry, (eq_of_beq hkey).symm⟩
  · rintro ⟨entry, hentry, rfl⟩
    exact ⟨entry, hentry, beq_self_eq_true _⟩

/-- A text with a dot, as `rfind` finds its last one. -/
theorem rsplitOnce_dot_iff {stem suffix : String} :
    rsplitOnce '.' name = some (stem, suffix) ↔
      name = stem ++ ("." ++ suffix) ∧ '.' ∉ suffix.toList := by
  rw [rsplitOnce_eq_some_iff, ← String.toList_inj, String.toList_append, String.toList_append]
  rfl

/-- **What `normalize_display_filename` returns**, and when. -/
theorem normalizeDisplayFilename_eq_ok_iff {given : String} :
    normalizeDisplayFilename u (some given) = .ok (name, extension) ↔
      u.Safe (strip (u.nfkc given)) ∧ ∃ stem suffix,
        (strip (u.nfkc given) = stem ++ ("." ++ suffix) ∧ '.' ∉ suffix.toList) ∧ stem ≠ "" ∧
          extension = u.lower ("." ++ suffix) ∧
            extension ∈ mediaTypeByExtension.map Prod.fst ∧ name = stem ++ extension := by
  rw [normalizeDisplayFilename]
  dsimp only
  constructor
  · intro h
    split at h
    · cases h
    · next hchecks =>
      refine ⟨Unicode.safe_iff.2 hchecks, ?_⟩
      split at h
      · cases h
      · next stem suffix hsplit =>
        split at h
        · cases h
        · next hstem =>
          split at h
          · cases h
          · next mediaType hlookup =>
            obtain ⟨rfl, rfl⟩ := Prod.mk.inj (Except.ok.inj h)
            exact ⟨stem, suffix, rsplitOnce_dot_iff.1 hsplit, hstem, rfl,
              lookup_isSome_iff.1 (Option.isSome_iff_exists.2 ⟨mediaType, hlookup⟩), rfl⟩
  · rintro ⟨hsafe, stem, suffix, hparts, hstem, rfl, hsupported, rfl⟩
    obtain ⟨mediaType, hlookup⟩ := Option.isSome_iff_exists.1 (lookup_isSome_iff.2 hsupported)
    simp only [if_neg (Unicode.safe_iff.1 hsafe), rsplitOnce_dot_iff.2 hparts, if_neg hstem,
      hlookup]

/-! ### Extensions -/

theorem IsLetter.toNat {c : Char} (h : IsLetter c) : 97 ≤ c.toNat ∧ c.toNat ≤ 122 := h

theorem IsLetter.not_space {c : Char} (h : IsLetter c) : isSpace c = false := by
  have hn := h.toNat
  simp [isSpace]
  omega

theorem IsLetter.toLower {c : Char} (h : IsLetter c) : c.toLower = c :=
  dif_neg fun ⟨_, hle⟩ ↦ absurd (UInt32.le_trans h.1 hle) (by decide)

/-- An extension is a dot, and letters in lower case. -/
theorem exists_letters (h : extension ∈ mediaTypeByExtension.map Prod.fst) :
    ∃ letters : String, extension = "." ++ letters ∧ letters ≠ "" ∧
      ∀ c ∈ letters.toList, IsLetter c := by
  have hall : ∀ e ∈ mediaTypeByExtension.map Prod.fst,
      ∃ letters ∈ ["pdf", "txt", "md", "markdown"], e = "." ++ letters := by decide
  have hletters : ∀ letters ∈ ["pdf", "txt", "md", "markdown"], letters ≠ "" ∧
      letters.toList.all (fun c ↦ IsLetter c) = true := by decide
  obtain ⟨letters, hmem, rfl⟩ := hall extension h
  obtain ⟨hne, hcheck⟩ := hletters letters hmem
  exact ⟨letters, rfl, hne, fun c hc ↦ of_decide_eq_true (List.all_eq_true.1 hcheck c hc)⟩

theorem mem_extension {letters : String} (h : ∀ c ∈ letters.toList, IsLetter c) {c : Char}
    (hc : c ∈ ("." ++ letters).toList) : c = '.' ∨ IsLetter c := by
  rw [String.toList_append] at hc
  rcases List.mem_append.1 hc with hdot | hletter
  · exact Or.inl (List.mem_singleton.1 hdot)
  · exact Or.inr (h c hletter)

theorem isAscii_extension {letters : String} (h : ∀ c ∈ letters.toList, IsLetter c) :
    isAscii ("." ++ letters) = true := by
  refine List.all_eq_true.2 fun c hc ↦ decide_eq_true ?_
  rcases mem_extension h hc with rfl | hletter
  · decide
  · exact lt_of_le_of_lt hletter.toNat.2 (by decide)

namespace Unicode.Standard

/-- An extension is in lower case. -/
theorem lower_extension (hu : u.Standard) {letters : String}
    (h : ∀ c ∈ letters.toList, IsLetter c) : u.lower ("." ++ letters) = "." ++ letters := by
  rw [← String.toList_inj, hu.lower_ascii _ (isAscii_extension h)]
  refine (List.map_congr_left fun c hc ↦ ?_).trans (List.map_id _)
  rcases mem_extension h hc with rfl | hletter
  · decide
  · exact hletter.toLower

/-- Lower case keeps the length of an ASCII text. -/
theorem length_lower (hu : u.Standard) {s : String} (h : isAscii s = true) :
    (u.lower s).length = s.length := by
  rw [← String.length_toList, hu.lower_ascii s h, List.length_map, String.length_toList]

/-- **A normalized text with a lower case in ASCII is ASCII.** -/
theorem isAscii_of_isAscii_lower (hu : u.Standard) {s : String} (hnormal : u.nfkc s = s)
    (hlower : isAscii (u.lower s) = true) : isAscii s = true := by
  refine List.all_eq_true.2 fun c hc ↦ decide_eq_true ?_
  rcases hu.isAscii_of_lower s hlower c hc with hascii | rfl
  · exact hascii
  · -- The Kelvin sign would be normalized, as a part of the text.
    obtain ⟨before, after, hsplit⟩ := List.append_of_mem hc
    have hparts : s = String.ofList before ++ "\u212A" ++ String.ofList after := by
      rw [← String.toList_inj, String.toList_append, String.toList_append, String.toList_ofList,
        String.toList_ofList, String.toList_ofList, hsplit, List.append_assoc]
      rfl
    have hkelvin := hu.nfkc_part _ _ _ (hparts ▸ hnormal)
    rw [hu.nfkc_kelvin] at hkelvin
    exact absurd hkelvin (by decide)

/-- What was normalized and stripped is normalized. -/
theorem nfkc_strip (hu : u.Standard) (s : String) :
    u.nfkc (strip (u.nfkc s)) = strip (u.nfkc s) := by
  obtain ⟨before, after, hparts⟩ := Python.exists_eq_append_strip (u.nfkc s)
  refine hu.nfkc_part before _ after ?_
  rw [← hparts, hu.nfkc_nfkc]

end Unicode.Standard

/-! ### The name -/

/-- A normalized name, cut at its last dot, and the letters of its extension. What is returned is
`stem ++ ("." ++ letters)`. -/
structure Rebuilt (u : Unicode) (normalized stem suffix letters : String) : Prop where
  parts : normalized = stem ++ ("." ++ suffix)
  stem_ne_empty : stem ≠ ""
  ascii : isAscii ("." ++ suffix) = true
  letters_ne_empty : letters ≠ ""
  isLetter : ∀ c ∈ letters.toList, IsLetter c
  lower : u.lower ("." ++ suffix) = "." ++ letters

/-- What is returned is put together from the normalized name. -/
theorem exists_rebuilt (hu : u.Standard) {given : String}
    (h : normalizeDisplayFilename u (some given) = .ok (name, extension)) :
    ∃ stem suffix letters, Rebuilt u (strip (u.nfkc given)) stem suffix letters ∧
      extension = "." ++ letters ∧ name = stem ++ ("." ++ letters) := by
  obtain ⟨-, stem, suffix, ⟨hparts, -⟩, hstem, hlower, hsupported, rfl⟩ :=
    normalizeDisplayFilename_eq_ok_iff.1 h
  obtain ⟨letters, rfl, hne, hall⟩ := exists_letters hsupported
  have hnormal : u.nfkc ("." ++ suffix) = "." ++ suffix := by
    refine hu.nfkc_part stem _ "" ?_
    rw [String.append_empty, ← hparts]
    exact hu.nfkc_strip given
  have hascii : isAscii (u.lower ("." ++ suffix)) = true := hlower ▸ isAscii_extension hall
  exact ⟨stem, suffix, letters, ⟨hparts, hstem, hu.isAscii_of_isAscii_lower hnormal hascii, hne,
    hall, hlower.symm⟩, rfl, rfl⟩

namespace Rebuilt

variable {normalized stem suffix letters : String}

theorem length_eq (h : Rebuilt u normalized stem suffix letters) (hu : u.Standard) :
    (stem ++ ("." ++ letters)).length = normalized.length := by
  rw [h.parts, String.length_append, ← h.lower, hu.length_lower h.ascii, ← String.length_append]

theorem three_le_length (h : Rebuilt u normalized stem suffix letters) :
    3 ≤ (stem ++ ("." ++ letters)).length := by
  have hstem := Nat.pos_of_ne_zero (mt String.length_eq_zero_iff.1 h.stem_ne_empty)
  have hletters := Nat.pos_of_ne_zero (mt String.length_eq_zero_iff.1 h.letters_ne_empty)
  have hdot : ".".length = 1 := rfl
  rw [String.length_append, String.length_append]
  omega

/-- The characters of the name, but for letters, are of the normalized name. -/
theorem mem_or (h : Rebuilt u normalized stem suffix letters) {c : Char}
    (hc : c ∈ (stem ++ ("." ++ letters)).toList) : c ∈ normalized.toList ∨ IsLetter c := by
  rw [h.parts, String.toList_append, String.toList_append]
  rw [String.toList_append] at hc
  rcases List.mem_append.1 hc with hstem | hextension
  · exact Or.inl (List.mem_append_left _ hstem)
  · rcases mem_extension h.isLetter hextension with rfl | hletter
    · exact Or.inl (List.mem_append_right _ (List.mem_append_left _ List.mem_cons_self))
    · exact Or.inr hletter

theorem nfkc_eq (h : Rebuilt u normalized stem suffix letters) (hu : u.Standard)
    (hnormal : u.nfkc normalized = normalized) :
    u.nfkc (stem ++ ("." ++ letters)) = stem ++ ("." ++ letters) := by
  rw [h.parts] at hnormal
  have hlower := hu.nfkc_lower stem _ h.ascii hnormal
  rwa [h.lower] at hlower

/-- The name starts as the normalized name does, and ends with a letter. -/
theorem endsFree (h : Rebuilt u normalized stem suffix letters)
    (hfree : normalized.toList.EndsFree isSpace) :
    (stem ++ ("." ++ letters)).toList.EndsFree isSpace := by
  rw [h.parts, String.toList_append] at hfree
  rw [String.toList_append]
  have hne : stem.toList ≠ [] := fun hnil ↦ h.stem_ne_empty (String.toList_eq_nil_iff.1 hnil)
  constructor
  · intro c hc
    rw [List.head?_append_of_ne_nil _ hne] at hc
    refine hfree.1 c ?_
    rwa [List.head?_append_of_ne_nil _ hne]
  · intro c hc
    have hne : letters.toList ≠ [] := fun hnil ↦
      h.letters_ne_empty (String.toList_eq_nil_iff.1 hnil)
    rw [String.toList_append, ← List.append_assoc, List.getLast?_append_of_ne_nil _ hne] at hc
    exact (h.isLetter c (List.mem_of_getLast? hc)).not_space

/-- The name passes the checks that the normalized name has passed. -/
theorem safe (h : Rebuilt u normalized stem suffix letters) (hu : u.Standard)
    (hsafe : u.Safe normalized) : u.Safe (stem ++ ("." ++ letters)) := by
  have hlength := h.three_le_length
  have hnot : ∀ {c : Char}, c ∉ normalized.toList → ¬IsLetter c →
      c ∉ (stem ++ ("." ++ letters)).toList :=
    fun hnormalized hletter hc ↦ (h.mem_or hc).elim hnormalized hletter
  refine ⟨?_, ?_, hnot hsafe.no_slash (by decide), hnot hsafe.no_backslash (by decide), ?_, ?_⟩
  · rintro hempty
    rw [hempty] at hlength
    exact absurd hlength (by decide)
  · intro hdots
    have hshort : ∀ dots ∈ [".", ".."], ¬3 ≤ dots.length := by decide
    exact hshort _ hdots hlength
  · intro c hc
    rcases h.mem_or hc with hnormalized | hletter
    · exact hsafe.no_control c hnormalized
    · rw [hu.category_letter c hletter]
      decide
  · rw [h.length_eq hu]
    exact hsafe.length_le

/-- The name is normalized and stripped, as what it is put together from. -/
theorem strip_nfkc (h : Rebuilt u normalized stem suffix letters) (hu : u.Standard)
    (hnormal : u.nfkc normalized = normalized) (hstrip : strip normalized = normalized) :
    strip (u.nfkc (stem ++ ("." ++ letters))) = stem ++ ("." ++ letters) := by
  rw [h.nfkc_eq hu hnormal]
  exact Python.strip_eq_self_iff.2 (h.endsFree (Python.strip_eq_self_iff.1 hstrip))

end Rebuilt

/-- The check of `documents` holds of an accepted name. -/
theorem Unicode.Accepted.trimmed (h : u.Accepted name extension) : Sql.Trimmed name := by
  refine ⟨(Sql.trim_eq_self_of_endsFree (h.no_space_at_ends.mono fun c hspace ↦ ?_)).symm,
    h.ne_empty⟩
  rw [of_decide_eq_true hspace]
  decide

/-- What is returned is accepted. -/
theorem accepted_of_normalize (hu : u.Standard)
    (h : normalizeDisplayFilename u filename = .ok (name, extension)) :
    u.Accepted name extension := by
  rcases filename with - | given
  · cases h
  obtain ⟨hsafe, -, -, -, -, -, hsupported, -⟩ := normalizeDisplayFilename_eq_ok_iff.1 h
  obtain ⟨stem, suffix, letters, hrebuilt, rfl, rfl⟩ := exists_rebuilt hu h
  have hfree := hrebuilt.endsFree (Python.strip_eq_self_iff.1 (Python.strip_strip _))
  exact ⟨hrebuilt.safe hu hsafe, hfree, hsupported, stem, hrebuilt.stem_ne_empty, rfl⟩

/-- What is returned is returned again for the name. -/
theorem normalize_name (hu : u.Standard)
    (h : normalizeDisplayFilename u filename = .ok (name, extension)) :
    normalizeDisplayFilename u (some name) = .ok (name, extension) := by
  have haccepted := accepted_of_normalize hu h
  rcases filename with - | given
  · cases h
  obtain ⟨stem, suffix, letters, hrebuilt, rfl, rfl⟩ := exists_rebuilt hu h
  have hstrip := hrebuilt.strip_nfkc hu (hu.nfkc_strip given) (Python.strip_strip _)
  have hdot : '.' ∉ letters.toList := fun hc ↦ absurd (hrebuilt.isLetter '.' hc) (by decide)
  refine normalizeDisplayFilename_eq_ok_iff.2 ⟨?_, stem, letters, ⟨hstrip, hdot⟩,
    hrebuilt.stem_ne_empty, (hu.lower_extension hrebuilt.isLetter).symm, haccepted.supported, rfl⟩
  rw [hstrip]
  exact haccepted.toSafe

/-- **An accepted name is safe, and stable**: it satisfies the check of `documents`, and it is what
it is normalized to. -/
theorem normalizeDisplayFilename_stable (hu : u.Standard)
    (h : normalizeDisplayFilename u filename = .ok (name, extension)) :
    u.Accepted name extension ∧
      normalizeDisplayFilename u (some name) = .ok (name, extension) ∧ Sql.Trimmed name :=
  ⟨accepted_of_normalize hu h, normalize_name hu h, (accepted_of_normalize hu h).trimmed⟩

namespace Sample

/-- Normalization of some characters. -/
def nfkcChar (c : Char) : Char :=
  if c = 'Ｔ' then 'T' else if c = 'Ｘ' then 'X' else if c = '\u212A' then 'K' else c

/-- Unicode, for a name with fullwidth letters. -/
def fullwidth : Unicode where
  nfkc s := String.ofList (s.toList.map nfkcChar)
  category c := if IsLetter c then "Ll" else if c = '.' then "Po" else "Lu"
  lower s := String.ofList (s.toList.map Char.toLower)

theorem nfkcChar_ascii {c : Char} (h : c.toNat < 128) : nfkcChar c = c := by
  unfold nfkcChar
  split_ifs with hT hX hK
  · rw [hT] at h
    exact absurd h (by decide)
  · rw [hX] at h
    exact absurd h (by decide)
  · rw [hK] at h
    exact absurd h (by decide)
  · rfl

theorem nfkcChar_nfkcChar (c : Char) : nfkcChar (nfkcChar c) = nfkcChar c := by
  by_cases hT : c = 'Ｔ'
  · rw [hT]
    rfl
  by_cases hX : c = 'Ｘ'
  · rw [hX]
    rfl
  by_cases hK : c = '\u212A'
  · rw [hK]
    rfl
  · have hself : nfkcChar c = c := by rw [nfkcChar, if_neg hT, if_neg hX, if_neg hK]
    rw [hself, hself]

theorem toLower_lt_iff (c : Char) : c.toLower.toNat < 128 ↔ c.toNat < 128 := by
  by_cases h : c.val ≥ 'A'.val ∧ c.val ≤ 'Z'.val
  · have hc : c.toNat ≤ 90 := h.2
    have hshift : c.toLower = ⟨c.val + ('a'.val - 'A'.val), _⟩ := dif_pos h
    have hlower : c.toLower.toNat = (c.toNat + 32) % 2 ^ 32 := by
      rw [hshift]
      exact UInt32.toNat_add c.val 32
    omega
  · have hself : c.toLower = c := dif_neg h
    rw [hself]

/-- A text is normalized when its characters are. -/
theorem fullwidth_nfkc_iff (s : String) :
    fullwidth.nfkc s = s ↔ ∀ c ∈ s.toList, nfkcChar c = c := by
  rw [← String.toList_inj, fullwidth, String.toList_ofList]
  conv_lhs => rw [← List.map_id s.toList, List.map_map]
  exact List.map_inj_left

theorem fullwidth_standard : fullwidth.Standard where
  nfkc_nfkc s := by
    rw [fullwidth_nfkc_iff]
    intro c hc
    obtain ⟨d, -, rfl⟩ := List.mem_map.1 (String.toList_ofList ▸ hc)
    exact nfkcChar_nfkcChar d
  nfkc_part before part after h := by
    rw [fullwidth_nfkc_iff] at h ⊢
    intro c hc
    refine h c ?_
    rw [String.toList_append, String.toList_append]
    exact List.mem_append_left _ (List.mem_append_right _ hc)
  nfkc_lower stem suffix hascii h := by
    rw [fullwidth_nfkc_iff, String.toList_append] at h ⊢
    intro c hc
    rcases List.mem_append.1 hc with hstem | hsuffix
    · exact h c (List.mem_append_left _ hstem)
    · obtain ⟨d, hd, rfl⟩ := List.mem_map.1 (String.toList_ofList ▸ hsuffix)
      have hd' := of_decide_eq_true (List.all_eq_true.1 hascii d hd)
      exact nfkcChar_ascii ((toLower_lt_iff d).2 hd')
  nfkc_kelvin := by decide
  lower_ascii s _ := String.toList_ofList
  isAscii_of_lower s h c hc := by
    refine Or.inl ((toLower_lt_iff c).1 (of_decide_eq_true (List.all_eq_true.1 h _ ?_)))
    rw [fullwidth, String.toList_ofList]
    exact List.mem_map_of_mem hc
  category_letter c h := if_pos h

end Sample

/-- The theorem for a name with spaces before it and fullwidth letters. -/
theorem normalizeDisplayFilename_stable_sample :
    normalizeDisplayFilename Sample.fullwidth (some "  Guide.ＴＸＴ") =
        .ok ("Guide.txt", ".txt") ∧
      normalizeDisplayFilename Sample.fullwidth (some "Guide.txt") = .ok ("Guide.txt", ".txt") := by
  have hgiven : normalizeDisplayFilename Sample.fullwidth (some "  Guide.ＴＸＴ") =
      .ok ("Guide.txt", ".txt") := by decide +kernel
  exact ⟨hgiven, (normalizeDisplayFilename_stable Sample.fullwidth_standard hgiven).2.1⟩

section Upload

open DocumentService (StagedUpload newDocument)

variable {sha256 sha256' : List UInt8 → String} {source source' : List (Except Unit (List UInt8))}
  {maxBytes maxBytes' : ℕ} {upload upload' : StagedUpload} {file file' : Option (ByteFile × Bool)}

/-- A staged upload is named by its normalized filename, and has the media type of the extension. -/
theorem exists_normalized
    (h : stageDocumentUpload sha256 u filename source maxBytes = (.ok upload, file)) :
    ∃ extension, normalizeDisplayFilename u filename = .ok (upload.displayFilename, extension) ∧
      mediaTypeByExtension.lookup extension = some upload.mediaType := by
  obtain ⟨displayFilename, extension, mediaType, staging, hnormalize, hlookup,
    ⟨-, -, -, rfl⟩, -⟩ := exists_staged h
  exact ⟨extension, hnormalize, hlookup⟩

/-- **The document of a staged upload satisfies the check on its name.** -/
theorem newDocument_trimmed (hu : u.Standard)
    (h : stageDocumentUpload sha256 u filename source maxBytes = (.ok upload, file))
    (organizationId actorUserId : UUID) (ids : DocumentService.UploadIds) :
    Sql.Trimmed (newDocument organizationId actorUserId upload ids).displayFilename := by
  obtain ⟨extension, hnormalize, -⟩ := exists_normalized h
  exact (accepted_of_normalize hu hnormalize).trimmed

/-- **Staged again under its display filename**, an upload keeps name and media type. -/
theorem restaged_displayFilename (hu : u.Standard)
    (h : stageDocumentUpload sha256 u filename source maxBytes = (.ok upload, file))
    (h' : stageDocumentUpload sha256' u (some upload.displayFilename) source' maxBytes' =
      (.ok upload', file')) :
    upload'.displayFilename = upload.displayFilename ∧ upload'.mediaType = upload.mediaType := by
  obtain ⟨extension, hnormalize, hlookup⟩ := exists_normalized h
  obtain ⟨extension', hnormalize', hlookup'⟩ := exists_normalized h'
  rw [normalize_name hu hnormalize] at hnormalize'
  obtain ⟨hname, rfl⟩ := Prod.mk.inj (Except.ok.inj hnormalize')
  exact ⟨hname.symm, Option.some.inj (hlookup'.symm.trans hlookup)⟩

end Upload

end DocumentValidation

end SupportFlow
