import SupportFlow.Foundations.Json
import SupportFlow.Identity.Models

/-!
# Reading a UUID

`uuid.UUID(text)`, and that it undoes `str(uuid)` (`UUID.parse?_str`).

The prefixes `urn:` and `uuid:` are removed wherever they stand, then braces at the ends and every
hyphen; what is left must be thirty-two hexadecimal digits. The blanks, signs and underscores that
`int(text, 16)` puts up with among them are not read here.
-/

namespace SupportFlow

open Python

/-- `text.replace(pattern, "")` after `skip` characters, for a non-empty pattern. -/
def removeAll (pattern : List Char) (skip : ℕ) : List Char → List Char
  | [] => []
  | c :: cs =>
    if 0 < skip then removeAll pattern (skip - 1) cs
    else if pattern.isPrefixOf (c :: cs) then removeAll pattern (pattern.length - 1) cs
    else c :: removeAll pattern 0 cs

/-- One more hexadecimal digit of a number. -/
def hexStep (n : ℕ) (c : Char) : Option ℕ :=
  (Json.hexValue? c).map fun digit ↦ n * 16 + digit

/-- `UUID(text)`; `none` is a `ValueError`. -/
def UUID.parse? (text : String) : Option UUID :=
  let hex := removeAll "uuid:".toList 0 (removeAll "urn:".toList 0 text.toList)
  let isBrace (c : Char) : Bool := c = Json.openBrace || c = Json.closeBrace
  let digits := ((hex.dropWhile isBrace).rdropWhile isBrace).filter (· ≠ '-')
  if digits.length ≠ 32 then none else (digits.foldlM hexStep 0).map uuid

/-! ### What is written is read back -/

theorem removeAll_eq_self {first : Char} {pattern cs : List Char} (h : first ∉ cs) :
    removeAll (first :: pattern) 0 cs = cs := by
  induction cs with
  | nil => rfl
  | cons c cs ih =>
    have hfirst : first ≠ c := fun heq ↦ h (heq ▸ List.mem_cons_self)
    rw [removeAll, if_neg (lt_irrefl 0), if_neg, ih fun hmem ↦ h (List.mem_cons_of_mem c hmem)]
    rw [List.isPrefixOf_cons_cons, Bool.and_eq_true, beq_iff_eq]
    exact fun hpattern ↦ hfirst hpattern.1

/-- The groups of a text of a UUID are digits of consecutive places. -/
theorem foldlM_digits (u : UUID) {start len : ℕ} (h : start + len ≤ 32) :
    (u.digits start len).foldlM hexStep (u.val / 16 ^ (32 - start)) =
      some (u.val / 16 ^ (32 - (start + len))) := by
  induction len generalizing start with
  | zero => rfl
  | succ len ih =>
    have hplace : 32 - start = 31 - start + 1 := by omega
    have hstep : hexStep (u.val / 16 ^ (32 - start)) (hexDigit (u.val / 16 ^ (31 - start))) =
        some (u.val / 16 ^ (32 - (start + 1))) := by
      rw [hexStep, hexDigit, Json.hexValue?_digitChar, Option.map_some, hplace, pow_succ 16,
        ← Nat.div_div_eq_div_mul, Nat.div_add_mod', show 32 - (start + 1) = 31 - start by omega]
    show (hexDigit (u.val / 16 ^ (31 - start)) :: u.digits (start + 1) len).foldlM hexStep
      (u.val / 16 ^ (32 - start)) = _
    rw [List.foldlM_cons, hstep]
    show (u.digits (start + 1) len).foldlM hexStep _ = _
    rw [ih (by omega), show start + 1 + len = start + (len + 1) by omega]

/-- No digit is one of the characters that are removed. -/
theorem hexDigit_ne (n : ℕ) : hexDigit n ≠ 'u' ∧ hexDigit n ≠ '-' ∧
    hexDigit n ≠ Json.openBrace ∧ hexDigit n ≠ Json.closeBrace := by
  have h : ∀ k < 16, Nat.digitChar k ≠ 'u' ∧ Nat.digitChar k ≠ '-' ∧
      Nat.digitChar k ≠ Json.openBrace ∧ Nat.digitChar k ≠ Json.closeBrace := by
    decide
  exact h _ (Nat.mod_lt n (by decide))

theorem UUID.eq_hexDigit_of_mem {u : UUID} {start len : ℕ} {c : Char}
    (hc : c ∈ u.digits start len) : ∃ n, c = hexDigit n := by
  obtain ⟨k, -, rfl⟩ := List.mem_map.1 hc
  exact ⟨_, rfl⟩

theorem UUID.toList_str (u : UUID) :
    u.str.toList = u.digits 0 8 ++ '-' :: (u.digits 8 4 ++ '-' :: (u.digits 12 4 ++
      '-' :: (u.digits 16 4 ++ '-' :: u.digits 20 12))) := by
  rw [UUID.str, String.toList_ofList, List.intercalate]
  simp only [List.intersperse, List.flatten_cons, List.flatten_nil, List.append_nil,
    List.cons_append, List.nil_append]

theorem UUID.filter_digits (u : UUID) (start len : ℕ) :
    (u.digits start len).filter (· ≠ '-') = u.digits start len := by
  refine List.filter_eq_self.2 fun c hc ↦ ?_
  obtain ⟨n, rfl⟩ := UUID.eq_hexDigit_of_mem hc
  exact decide_eq_true (hexDigit_ne n).2.1

theorem UUID.mem_str {u : UUID} {c : Char} (hc : c ∈ u.str.toList) :
    c = '-' ∨ ∃ n, c = hexDigit n := by
  rw [UUID.toList_str] at hc
  simp only [List.mem_append, List.mem_cons] at hc
  rcases hc with hc | rfl | hc | rfl | hc | rfl | hc | rfl | hc
  all_goals first
    | exact .inl rfl
    | exact .inr (UUID.eq_hexDigit_of_mem hc)

/-- **A UUID is read back from its text.** -/
theorem UUID.parse?_str (u : UUID) : UUID.parse? u.str = some u := by
  have hu : 'u' ∉ u.str.toList := fun hc ↦ by
    rcases UUID.mem_str hc with h | ⟨n, h⟩
    · exact absurd h (by decide)
    · exact (hexDigit_ne n).1 h.symm
  have hbrace : ∀ c ∈ u.str.toList, (c = Json.openBrace || c = Json.closeBrace) = false := by
    intro c hc
    rcases UUID.mem_str hc with rfl | ⟨n, rfl⟩
    · decide
    · simp [(hexDigit_ne n).2.2.1, (hexDigit_ne n).2.2.2]
  have hdigits : u.str.toList.filter (· ≠ '-') = u.digits 0 8 ++ (u.digits 8 4 ++
      (u.digits 12 4 ++ (u.digits 16 4 ++ u.digits 20 12))) := by
    rw [UUID.toList_str]
    have hdash (ds : List Char) : ('-' :: ds).filter (· ≠ '-') = ds.filter (· ≠ '-') := rfl
    simp only [List.filter_append, hdash, UUID.filter_digits]
  have hstrip : List.rdropWhile (fun c ↦ c = Json.openBrace || c = Json.closeBrace)
      (u.str.toList.dropWhile fun c ↦ c = Json.openBrace || c = Json.closeBrace) = u.str.toList :=
    List.strip_eq_self_iff.2 (List.endsFree_of_forall hbrace)
  have hlength : (u.digits 0 8 ++ (u.digits 8 4 ++ (u.digits 12 4 ++ (u.digits 16 4 ++
      u.digits 20 12)))).length = 32 := by
    simp only [List.length_append, UUID.length_digits]
  have hvalue : (u.digits 0 8 ++ (u.digits 8 4 ++ (u.digits 12 4 ++ (u.digits 16 4 ++
      u.digits 20 12)))).foldlM hexStep 0 = some u.val := by
    have hfirst := foldlM_digits u (show 0 + 8 ≤ 32 by decide)
    rw [Nat.div_eq_of_lt (show u.val < 16 ^ (32 - 0) from u.isLt)] at hfirst
    rw [List.foldlM_append, hfirst, Option.bind_eq_bind, Option.bind_some, List.foldlM_append,
      foldlM_digits u (by decide), Option.bind_eq_bind, Option.bind_some, List.foldlM_append,
      foldlM_digits u (by decide), Option.bind_eq_bind, Option.bind_some, List.foldlM_append,
      foldlM_digits u (by decide), Option.bind_eq_bind, Option.bind_some,
      foldlM_digits u (by decide)]
    exact congrArg some (Nat.div_one u.val)
  rw [UUID.parse?, show "urn:".toList = ['u', 'r', 'n', ':'] from rfl,
    show "uuid:".toList = ['u', 'u', 'i', 'd', ':'] from rfl, removeAll_eq_self hu,
    removeAll_eq_self hu, hstrip, hdigits, if_neg (not_not.2 hlength), hvalue,
    Option.map_some]
  exact congrArg some (Fin.ext (Nat.mod_eq_of_lt u.isLt))

end SupportFlow
