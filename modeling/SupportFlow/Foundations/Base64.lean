import Mathlib.Data.List.DropRight
import Mathlib.Data.Nat.Notation

/-!
# URL-safe base64

`base64.urlsafe_b64encode`, and the same without its padding: the texts of tokens and of
signatures. The unpadded text consists of characters of the alphabet (`isUrlsafe_of_mem_unpadded`),
and its length is a function of the number of bytes (`length_unpadded`).
-/

namespace Python.Base64

/-- The character of a 6-bit group. -/
def urlsafeChar (n : ℕ) : Char :=
  if n < 26 then Char.ofNat ('A'.toNat + n)
  else if n < 52 then Char.ofNat ('a'.toNat + (n - 26))
  else if n < 62 then Char.ofNat ('0'.toNat + (n - 52))
  else if n = 62 then '-'
  else '_'

/-- The regular expression class `[A-Za-z0-9_-]`. -/
def isUrlsafe (c : Char) : Bool :=
  ('A' ≤ c && c ≤ 'Z') || ('a' ≤ c && c ≤ 'z') || ('0' ≤ c && c ≤ '9') || c == '_' || c == '-'

theorem isUrlsafe_urlsafeChar (n : ℕ) : isUrlsafe (urlsafeChar n) = true := by
  have hlow : ∀ k < 63, isUrlsafe (urlsafeChar k) = true := by decide
  by_cases h : n < 63
  · exact hlow n h
  · have hlast : urlsafeChar n = '_' := by
      unfold urlsafeChar
      rw [if_neg (by omega), if_neg (by omega), if_neg (by omega), if_neg (by omega)]
    rw [hlast]
    decide

/-- The text of a byte string, without padding. -/
def unpadded : List UInt8 → List Char
  | [] => []
  | [a] => [urlsafeChar (a.toNat / 4), urlsafeChar (a.toNat % 4 * 16)]
  | [a, b] =>
    [urlsafeChar (a.toNat / 4), urlsafeChar (a.toNat % 4 * 16 + b.toNat / 16),
      urlsafeChar (b.toNat % 16 * 4)]
  | a :: b :: c :: rest =>
    urlsafeChar (a.toNat / 4) :: urlsafeChar (a.toNat % 4 * 16 + b.toNat / 16) ::
      urlsafeChar (b.toNat % 16 * 4 + c.toNat / 64) :: urlsafeChar (c.toNat % 64) ::
        unpadded rest

/-- What fills the last group of four characters. -/
def padding : List UInt8 → List Char
  | [] => []
  | [_] => ['=', '=']
  | [_, _] => ['=']
  | _ :: _ :: _ :: rest => padding rest

/-- `base64.urlsafe_b64encode`. -/
def urlsafeB64encode (bytes : List UInt8) : List Char :=
  unpadded bytes ++ padding bytes

theorem isUrlsafe_of_mem_unpadded (bytes : List UInt8) :
    ∀ c ∈ unpadded bytes, isUrlsafe c = true := by
  induction bytes using unpadded.induct with
  | case1 => exact fun c hc ↦ absurd hc List.not_mem_nil
  | case2 a | case3 a b =>
    intro c hc
    simp only [unpadded, List.mem_cons, List.not_mem_nil, or_false] at hc
    rcases hc with rfl | rfl | rfl <;> exact isUrlsafe_urlsafeChar _
  | case4 a b c rest ih =>
    intro x hx
    simp only [unpadded, List.mem_cons] at hx
    rcases hx with rfl | rfl | rfl | rfl | hx
    · exact isUrlsafe_urlsafeChar _
    · exact isUrlsafe_urlsafeChar _
    · exact isUrlsafe_urlsafeChar _
    · exact isUrlsafe_urlsafeChar _
    · exact ih x hx

theorem length_unpadded (bytes : List UInt8) :
    (unpadded bytes).length = (bytes.length * 4 + 2) / 3 := by
  induction bytes using unpadded.induct with
  | case1 => rfl
  | case2 a => simp only [unpadded, List.length_cons, List.length_nil]
  | case3 a b => simp only [unpadded, List.length_cons, List.length_nil]
  | case4 a b c rest ih =>
    simp only [unpadded, List.length_cons, ih]
    omega

theorem padding_eq_replicate (bytes : List UInt8) :
    ∃ n, padding bytes = List.replicate n '=' := by
  induction bytes using padding.induct with
  | case1 => exact ⟨0, rfl⟩
  | case2 a => exact ⟨2, rfl⟩
  | case3 a b => exact ⟨1, rfl⟩
  | case4 a b c rest ih => exact ih

/-- **`rstrip(b"=")` takes the padding off**, and nothing else. -/
theorem rdropWhile_urlsafeB64encode (bytes : List UInt8) :
    (urlsafeB64encode bytes).rdropWhile (· = '=') = unpadded bytes := by
  have hbody : (unpadded bytes).rdropWhile (· = '=') = unpadded bytes := by
    refine List.rdropWhile_eq_self_iff.2 fun hne ↦ ?_
    have hlast := isUrlsafe_of_mem_unpadded bytes _ (List.getLast_mem hne)
    intro heq
    rw [of_decide_eq_true heq] at hlast
    exact absurd hlast (by decide)
  obtain ⟨n, hn⟩ := padding_eq_replicate bytes
  rw [urlsafeB64encode, hn]
  clear hn
  induction n with
  | zero => simpa using hbody
  | succ n ih =>
    rw [List.replicate_succ', ← List.append_assoc, List.rdropWhile_concat_pos _ _ _ (by simp)]
    exact ih

end Python.Base64
