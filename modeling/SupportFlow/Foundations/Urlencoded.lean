import SupportFlow.Foundations.Json

/-!
# Query strings

`urllib.parse.urlencode` and `parse_qsl`, and that the second undoes the first
(`parseQsl_urlencode`), for all names and values.

A text is quoted character by character: the safe ones stand for themselves, a space is a plus, and
any other is one `%XX` for each byte of its encoding. It is read back as bytes
(`unquoteBytes_quotePlus`), which are decoded at the end. Bytes that are no UTF-8 are `none` here,
where Python puts a replacement character; nothing that was quoted has them.

A quoted text contains no separator (`mem_quotePlus`), so splitting at `&` and at the first `=`
finds the parts again.
-/

namespace Python

open Json

/-! ### Quoting -/

/-- The characters that `quote` leaves as they are. -/
def alwaysSafe (c : Char) : Bool :=
  c.isAlphanum || c = '_' || c = '.' || c = '-' || c = '~'

/-- A hexadecimal digit, in upper case. -/
def hexUpper (n : ℕ) : Char :=
  (Nat.digitChar n).toUpper

/-- `%XX`. -/
def quoteByte (b : UInt8) : List Char :=
  ['%', hexUpper (b.toNat / 16), hexUpper (b.toNat % 16)]

def quotePlusChar (c : Char) : List Char :=
  if alwaysSafe c then [c]
  else if c = ' ' then ['+']
  else (String.utf8EncodeChar c).flatMap quoteByte

/-- `quote_plus`. -/
def quotePlus (s : String) : List Char :=
  s.toList.flatMap quotePlusChar

/-- `urlencode`. -/
def urlencode (query : List (String × String)) : String :=
  String.ofList <| ['&'].intercalate <| query.map fun p ↦ quotePlus p.1 ++ '=' :: quotePlus p.2

/-! ### Reading back -/

/-- `unquote_to_bytes`: a percent sign without two hexadecimal digits stands for itself. -/
def unquoteBytes : List Char → List UInt8
  | [] => []
  | '%' :: a :: b :: cs =>
    match hexValue? a, hexValue? b with
    | some high, some low => UInt8.ofNat (high * 16 + low) :: unquoteBytes cs
    | _, _ => String.utf8EncodeChar '%' ++ unquoteBytes (a :: b :: cs)
  | c :: cs => String.utf8EncodeChar c ++ unquoteBytes cs

/-- `replace("+", " ")`, on one character. -/
def plusToSpace (c : Char) : Char :=
  if c = '+' then ' ' else c

/-- `unquote`, after the pluses were replaced. -/
def unquotePlus (cs : List Char) : Option String :=
  decode (unquoteBytes (cs.map plusToSpace))

/-- One pair: a name, and a value after the first `=`. -/
def parsePair (cs : List Char) : Option (String × String) := do
  let name ← unquotePlus (cs.takeWhile (· ≠ '='))
  let value ← unquotePlus ((cs.dropWhile (· ≠ '=')).drop 1)
  some (name, value)

/-- `parse_qsl(text, keep_blank_values=True)`. -/
def parseQsl (text : String) : Option (List (String × String)) :=
  ((text.toList.splitOn '&').filter (· ≠ [])).mapM parsePair

/-! ### What is quoted is read back -/

theorem hexUpper_spec : ∀ n < 16, hexValue? (hexUpper n) = some n ∧ alwaysSafe (hexUpper n) = true ∧
    plusToSpace (hexUpper n) = hexUpper n := by
  decide

theorem unquoteBytes_cons {c : Char} (h : c ≠ '%') (cs : List Char) :
    unquoteBytes (c :: cs) = String.utf8EncodeChar c ++ unquoteBytes cs := by
  rcases cs with - | ⟨a, - | ⟨b, cs⟩⟩ <;> simp [unquoteBytes, h]

/-- A quoted byte is read back. -/
theorem unquoteBytes_quoteByte (b : UInt8) (cs : List Char) :
    unquoteBytes ((quoteByte b).map plusToSpace ++ cs) = b :: unquoteBytes cs := by
  have hb : b.toNat < 256 := b.toNat_lt
  obtain ⟨hhigh, -, hplus⟩ := hexUpper_spec (b.toNat / 16) (by omega)
  obtain ⟨hlow, -, hplus'⟩ := hexUpper_spec (b.toNat % 16) (by omega)
  have hvalue : b.toNat / 16 * 16 + b.toNat % 16 = b.toNat := by omega
  simp only [quoteByte, List.map_cons, List.map_nil, hplus, hplus', List.cons_append,
    List.nil_append]
  rw [show plusToSpace '%' = '%' from rfl, unquoteBytes, hhigh, hlow]
  dsimp only
  rw [hvalue, UInt8.ofNat_toNat]

theorem unquoteBytes_flatMap (bytes : List UInt8) (cs : List Char) :
    unquoteBytes ((bytes.flatMap quoteByte).map plusToSpace ++ cs) = bytes ++ unquoteBytes cs := by
  induction bytes with
  | nil => rfl
  | cons b bytes ih =>
    rw [List.flatMap_cons, List.map_append, List.append_assoc, unquoteBytes_quoteByte, ih,
      List.cons_append]

theorem unquoteBytes_quotePlusChar (c : Char) (cs : List Char) :
    unquoteBytes ((quotePlusChar c).map plusToSpace ++ cs) =
      String.utf8EncodeChar c ++ unquoteBytes cs := by
  unfold quotePlusChar
  by_cases hsafe : alwaysSafe c = true
  · have hpercent : c ≠ '%' := fun heq ↦ absurd (heq ▸ hsafe) (by decide)
    have hplus : plusToSpace c = c := if_neg fun heq ↦ absurd (heq ▸ hsafe) (by decide)
    rw [if_pos hsafe, List.map_singleton, hplus]
    exact unquoteBytes_cons hpercent cs
  · rw [if_neg hsafe]
    by_cases hspace : c = ' '
    · subst hspace
      rw [if_pos rfl]
      exact unquoteBytes_cons (by decide) cs
    · rw [if_neg hspace, unquoteBytes_flatMap]

theorem unquoteBytes_quotePlus (s : String) :
    unquoteBytes ((quotePlus s).map plusToSpace) = encode s := by
  have hchars : ∀ cs : List Char, unquoteBytes ((cs.flatMap quotePlusChar).map plusToSpace) =
      cs.flatMap String.utf8EncodeChar := fun cs ↦ by
    induction cs with
    | nil => rfl
    | cons c cs ih =>
      rw [List.flatMap_cons, List.map_append, unquoteBytes_quotePlusChar, ih, List.flatMap_cons]
  rw [encode_eq_flatMap]
  exact hchars s.toList

/-- **A quoted text is read back.** -/
theorem unquotePlus_quotePlus (s : String) : unquotePlus (quotePlus s) = some s := by
  rw [unquotePlus, unquoteBytes_quotePlus, decode_encode]

/-- What a quoted text consists of. -/
theorem mem_quotePlus {s : String} {c : Char} (h : c ∈ quotePlus s) :
    alwaysSafe c = true ∨ c = '+' ∨ c = '%' := by
  obtain ⟨d, -, hc⟩ := List.mem_flatMap.1 h
  unfold quotePlusChar at hc
  split at hc
  · next hsafe => exact .inl (List.mem_singleton.1 hc ▸ hsafe)
  · split at hc
    · exact .inr (.inl (List.mem_singleton.1 hc))
    · obtain ⟨b, -, hb⟩ := List.mem_flatMap.1 hc
      have hlt : b.toNat < 256 := b.toNat_lt
      simp only [quoteByte, List.mem_cons, List.not_mem_nil, or_false] at hb
      rcases hb with rfl | rfl | rfl
      · exact .inr (.inr rfl)
      · exact .inl (hexUpper_spec _ (by omega)).2.1
      · exact .inl (hexUpper_spec _ (by omega)).2.1

theorem amp_not_mem_quotePlus (s : String) : '&' ∉ quotePlus s := fun h ↦
  absurd (mem_quotePlus h) (by decide)

theorem eq_not_mem_quotePlus (s : String) : '=' ∉ quotePlus s := fun h ↦
  absurd (mem_quotePlus h) (by decide)

theorem parsePair_quoted (p : String × String) :
    parsePair (quotePlus p.1 ++ '=' :: quotePlus p.2) = some p := by
  have hname : ∀ c ∈ quotePlus p.1, decide (c ≠ '=') = true := fun c hc ↦
    decide_eq_true fun heq ↦ eq_not_mem_quotePlus p.1 (heq ▸ hc)
  rw [parsePair, List.takeWhile_append_of_pos hname, List.takeWhile_cons_of_neg (by simp),
    List.append_nil, List.dropWhile_append_of_pos hname, List.dropWhile_cons_of_neg (by simp),
    List.drop_one, List.tail_cons, unquotePlus_quotePlus, unquotePlus_quotePlus]
  rfl

/-- **A query string is read back.** -/
theorem parseQsl_urlencode (query : List (String × String)) :
    parseQsl (urlencode query) = some query := by
  have hparts : ∀ part ∈ query.map (fun p ↦ quotePlus p.1 ++ '=' :: quotePlus p.2),
      '&' ∉ part ∧ part ≠ [] := by
    intro part hpart
    obtain ⟨p, -, rfl⟩ := List.mem_map.1 hpart
    refine ⟨fun hmem ↦ ?_, by simp⟩
    rcases List.mem_append.1 hmem with hmem | hmem
    · exact amp_not_mem_quotePlus p.1 hmem
    · exact (List.mem_cons.1 hmem).elim (by decide) (amp_not_mem_quotePlus p.2)
  have hread : (query.map fun p ↦ quotePlus p.1 ++ '=' :: quotePlus p.2).mapM parsePair =
      some query := by
    induction query with
    | nil => rfl
    | cons p query ih =>
      rw [List.map_cons, List.mapM_cons, parsePair_quoted,
        ih fun part hpart ↦ hparts part (List.mem_cons_of_mem _ hpart)]
      rfl
  rw [parseQsl, urlencode, String.toList_ofList]
  by_cases hempty : query = []
  · subst hempty
    rfl
  · rw [List.splitOn_intercalate '&' (fun part hpart ↦ (hparts part hpart).1)
        (by simpa using hempty),
      List.filter_eq_self.2 fun part hpart ↦ decide_eq_true (hparts part hpart).2, hread]

end Python
