import SupportFlow.Foundations.Python

/-!
# Scanning JSON

The scanners of `json.loads`. Each takes the characters that are left, and returns what it read with
the characters after it; `none` is a `JSONDecodeError`. The scanners recurse on a fuel that the
number of characters bounds. A string is scanned to code units first, since two `\u` escapes may
make one character. A lone surrogate, which Python admits in a string, is no character here, and
fails to decode.

A string that `json.dumps` writes is scanned back, whatever follows it (`scanString_dumps`). Sorting
the keys of a dictionary keeps its items (`perm_sortKeys`).
-/

namespace Python.Json

/-! ### Strings -/

/-- The value of a hexadecimal digit. -/
def hexValue? (c : Char) : Option ℕ :=
  if '0' ≤ c ∧ c ≤ '9' then some (c.toNat - '0'.toNat)
  else if 'a' ≤ c ∧ c ≤ 'f' then some (c.toNat - 'a'.toNat + 10)
  else if 'A' ≤ c ∧ c ≤ 'F' then some (c.toNat - 'A'.toNat + 10)
  else none

/-- The unit after `\u`. -/
def hexUnit? (a b c d : Char) : Option ℕ := do
  let a ← hexValue? a
  let b ← hexValue? b
  let c ← hexValue? c
  let d ← hexValue? d
  some (a * 4096 + b * 256 + c * 16 + d)

/-- The character that a backslash and this one stand for. -/
def backslash? (c : Char) : Option ℕ :=
  if c = '"' ∨ c = '\\' ∨ c = '/' then some c.toNat
  else if c = 'b' then some 0x08
  else if c = 'f' then some 0x0C
  else if c = 'n' then some 0x0A
  else if c = 'r' then some 0x0D
  else if c = 't' then some 0x09
  else none

/-- A string up to its closing quote, as code units and characters above `0xFFFF`. -/
def scanUnits : List Char → Option (List ℕ × List Char)
  | [] => none
  | '"' :: cs => some ([], cs)
  | '\\' :: 'u' :: a :: b :: c :: d :: cs =>
    (hexUnit? a b c d).bind fun n ↦ (scanUnits cs).map fun p ↦ (n :: p.1, p.2)
  | '\\' :: c :: cs => (backslash? c).bind fun n ↦ (scanUnits cs).map fun p ↦ (n :: p.1, p.2)
  | c :: cs => if c.toNat < 0x20 then none else (scanUnits cs).map fun p ↦ (c.toNat :: p.1, p.2)

/-- A high surrogate, and a low one. -/
def isHigh (n : ℕ) : Bool :=
  0xD800 ≤ n && n ≤ 0xDBFF

@[inherit_doc isHigh]
def isLow (n : ℕ) : Bool :=
  0xDC00 ≤ n && n ≤ 0xDFFF

/-- The character of a unit that is no surrogate. -/
def char? (n : ℕ) : Option Char :=
  if n.isValidChar then some (Char.ofNat n) else none

/-- The characters of code units. -/
def joinUnits : List ℕ → Option (List Char)
  | [] => some []
  | [n] => (char? n).map fun c ↦ [c]
  | hi :: lo :: ns =>
    if isHigh hi && isLow lo then do
      let c ← char? (0x10000 + (hi - 0xD800) * 1024 + (lo - 0xDC00))
      let cs ← joinUnits ns
      some (c :: cs)
    else do
      let c ← char? hi
      let cs ← joinUnits (lo :: ns)
      some (c :: cs)

/-- A string, after its opening quote. -/
def scanString (cs : List Char) : Option (String × List Char) := do
  let (units, rest) ← scanUnits cs
  let chars ← joinUnits units
  some (String.ofList chars, rest)

/-! ### Values -/

/-- What JSON skips between tokens. -/
def isBlank (c : Char) : Bool :=
  c = ' ' || c = '\t' || c = '\n' || c = '\r'

/-- The rest after blanks. -/
def skip (cs : List Char) : List Char :=
  cs.dropWhile isBlank

/-- Decimal digits, with what follows them. -/
def scanDigits (cs : List Char) : List Char × List Char :=
  (cs.takeWhile Char.isDigit, cs.dropWhile Char.isDigit)

/-- The fraction of a number, if there is one. -/
def scanFraction (cs : List Char) : List Char × List Char :=
  match cs with
  | '.' :: rest =>
    match scanDigits rest with
    | ([], _) => ([], cs)
    | (digits, rest) => ('.' :: digits, rest)
  | _ => ([], cs)

/-- The exponent of a number, if there is one. -/
def scanExponent (cs : List Char) : List Char × List Char :=
  match cs with
  | e :: rest =>
    if e = 'e' ∨ e = 'E' then
      let (sign, digits) :=
        match rest with
        | '+' :: digits => (['+'], digits)
        | '-' :: digits => (['-'], digits)
        | _ => ([], rest)
      match scanDigits digits with
      | ([], _) => ([], cs)
      | (digits, rest) => (e :: sign ++ digits, rest)
    else ([], cs)
  | [] => ([], cs)

/-- A number, as its literal; no digit follows a leading zero. -/
def scanNumber (cs : List Char) : Option (Json × List Char) :=
  let (sign, unsigned) :=
    match cs with
    | '-' :: rest => (['-'], rest)
    | _ => ([], cs)
  let (whole, rest) :=
    match unsigned with
    | '0' :: rest => (['0'], rest)
    | _ => scanDigits unsigned
  if whole = [] then none
  else
    let (fraction, rest) := scanFraction rest
    let (exponent, rest) := scanExponent rest
    some (.num (String.ofList (sign ++ whole ++ fraction ++ exponent)), rest)

/-- The literals, which Python's decoder knows besides JSON's own. -/
def literals : List (List Char × Json) :=
  [("null".toList, .null), ("true".toList, .bool true), ("false".toList, .bool false),
    ("NaN".toList, .num "NaN"), ("Infinity".toList, .num "Infinity"),
    ("-Infinity".toList, .num "-Infinity")]

/-- A literal or a number. -/
def scanPlain (cs : List Char) : Option (Json × List Char) :=
  match literals.find? fun l ↦ l.1.isPrefixOf cs with
  | some (text, value) => some (value, cs.drop text.length)
  | none => scanNumber cs

/-- `dict(pairs)`: a key keeps its first place and its last value. -/
def dict (pairs : List (String × Json)) : List (String × Json) :=
  pairs.foldl
    (fun items p ↦
      if items.any fun q ↦ q.1 = p.1 then
        items.map fun q ↦ if q.1 = p.1 then p else q
      else items ++ [p])
    []

/-- `\x7b` and `\x7d`. -/
def openBrace : Char :=
  Char.ofNat 0x7B

@[inherit_doc openBrace]
def closeBrace : Char :=
  Char.ofNat 0x7D

mutual
/-- `scan_once`. -/
def scanOnce (fuel : ℕ) (cs : List Char) : Option (Json × List Char) :=
  match fuel, cs with
  | 0, _ | _, [] => none
  | fuel + 1, c :: cs =>
    if c = '"' then (scanString cs).map fun p ↦ (.str p.1, p.2)
    else if c = '[' then
      match skip cs with
      | ']' :: rest => some (.arr [], rest)
      | rest => (scanItems fuel rest).map fun p ↦ (.arr p.1, p.2)
    else if c = openBrace then
      match skip cs with
      | [] => none
      | d :: rest =>
        if d = closeBrace then some (.obj [], rest)
        else (scanPairs fuel (d :: rest)).map fun p ↦ (.obj (dict p.1), p.2)
    else scanPlain (c :: cs)

/-- The items of an array, up to its closing bracket. -/
def scanItems (fuel : ℕ) (cs : List Char) : Option (List Json × List Char) :=
  match fuel with
  | 0 => none
  | fuel + 1 => do
    let (value, rest) ← scanOnce fuel cs
    match skip rest with
    | ']' :: rest => some ([value], rest)
    | ',' :: rest =>
      let (items, rest) ← scanItems fuel (skip rest)
      some (value :: items, rest)
    | _ => none

/-- The pairs of an object, up to its closing brace. -/
def scanPairs (fuel : ℕ) (cs : List Char) : Option (List (String × Json) × List Char) :=
  match fuel, cs with
  | fuel + 1, '"' :: cs => do
    let (name, rest) ← scanString cs
    match skip rest with
    | ':' :: rest =>
      let (value, rest) ← scanOnce fuel (skip rest)
      match skip rest with
      | ',' :: rest =>
        let (pairs, rest) ← scanPairs fuel (skip rest)
        some ((name, value) :: pairs, rest)
      | c :: rest => if c = closeBrace then some ([(name, value)], rest) else none
      | [] => none
    | _ => none
  | _, _ => none
end

/-- `json.loads`. -/
def loads (text : String) : Option Json := do
  let (value, rest) ← scanOnce (text.length + 1) (skip text.toList)
  if skip rest = [] then some value else none

/-! ### Rendered strings are scanned back -/

theorem hexValue?_digitChar (n : ℕ) : hexValue? (Nat.digitChar (n % 16)) = some (n % 16) := by
  have h : ∀ k < 16, hexValue? (Nat.digitChar k) = some k := by decide
  exact h _ (Nat.mod_lt n (by decide))

/-- The digits of `escapeUnit` are read back. -/
theorem hexUnit?_digitChar {n : ℕ} (h : n < 0x10000) :
    hexUnit? (Nat.digitChar (n / 4096 % 16)) (Nat.digitChar (n / 256 % 16))
      (Nat.digitChar (n / 16 % 16)) (Nat.digitChar (n % 16)) = some n := by
  simp only [hexUnit?, hexValue?_digitChar, Option.bind_eq_bind, Option.bind_some,
    Option.some.injEq]
  omega

theorem scanUnits_escapeUnit {n : ℕ} (h : n < 0x10000) (rest : List Char) :
    scanUnits (escapeUnit n ++ rest) = (scanUnits rest).map fun p ↦ (n :: p.1, p.2) := by
  simp only [escapeUnit, List.cons_append, List.nil_append, scanUnits, hexUnit?_digitChar h,
    Option.bind_some]

/-- The units of a character. -/
def unitsOf (c : Char) : List ℕ :=
  if c.toNat < 0x10000 then [c.toNat]
  else [0xD800 + (c.toNat - 0x10000) / 1024, 0xDC00 + (c.toNat - 0x10000) % 1024]

theorem toNat_lt (c : Char) : c.toNat < 0x110000 := by
  rcases c.valid with h | h
  · exact lt_trans h (by decide)
  · exact h.2

theorem scanUnits_escapeChar (c : Char) (rest : List Char) :
    scanUnits (escapeChar c ++ rest) =
      (scanUnits rest).map fun p ↦ (unitsOf c ++ p.1, p.2) := by
  -- A short escape stands for a character of one unit.
  have short : ∀ {x : Char}, x ≠ 'u' → backslash? x = some c.toNat → c.toNat < 0x10000 →
      scanUnits ('\\' :: x :: rest) =
        (scanUnits rest).map fun p ↦ (unitsOf c ++ p.1, p.2) := by
    intro x hx hvalue hlt
    rw [unitsOf, if_pos hlt, scanUnits, hvalue]
    · rfl
    · rintro _ _ _ _ _ rfl -
      exact hx rfl
  unfold escapeChar
  split_ifs with h₁ h₂ h₃ h₄ h₅ h₆ h₇ h₈ h₉
  · subst h₁; exact short (by decide) (by decide) (by decide)
  · subst h₂; exact short (by decide) (by decide) (by decide)
  · subst h₃; exact short (by decide) (by decide) (by decide)
  · subst h₄; exact short (by decide) (by decide) (by decide)
  · subst h₅; exact short (by decide) (by decide) (by decide)
  · exact short (by decide) (by rw [h₆]; decide) (by omega)
  · exact short (by decide) (by rw [h₇]; decide) (by omega)
  · rw [unitsOf, if_pos (by omega), List.singleton_append, scanUnits.eq_def]
    split <;> simp_all
  · rw [unitsOf, if_pos h₉, scanUnits_escapeUnit h₉]
    rfl
  · have hlt := toNat_lt c
    rw [unitsOf, if_neg h₉, List.append_assoc, scanUnits_escapeUnit (by omega),
      scanUnits_escapeUnit (by omega), Option.map_map]
    rfl

theorem scanUnits_dumps (cs rest : List Char) :
    scanUnits (cs.flatMap escapeChar ++ '"' :: rest) = some (cs.flatMap unitsOf, rest) := by
  induction cs with
  | nil => rfl
  | cons c cs ih =>
    rw [List.flatMap_cons, List.append_assoc, scanUnits_escapeChar, ih]
    rfl

theorem joinUnits_of_not_high {n : ℕ} (h : isHigh n = false) (ns : List ℕ) :
    joinUnits (n :: ns) = (char? n).bind fun c ↦ (joinUnits ns).map fun cs ↦ c :: cs := by
  cases ns with
  | nil =>
    rw [joinUnits, joinUnits]
    cases char? n <;> rfl
  | cons m ns =>
    rw [joinUnits, h]
    simp only [Bool.false_and, Bool.false_eq_true, if_false]
    cases char? n with
    | none => rfl
    | some c => cases joinUnits (m :: ns) <;> rfl

theorem char?_toNat (c : Char) : char? c.toNat = some c := by
  have hvalid : c.toNat.isValidChar := c.valid
  rw [char?, if_pos hvalid, Char.ofNat_toNat]

theorem isHigh_toNat (c : Char) : isHigh c.toNat = false := by
  have hvalid : c.toNat < 0xD800 ∨ 0xDFFF < c.toNat ∧ c.toNat < 0x110000 := c.valid
  simp only [isHigh, Bool.and_eq_false_iff, decide_eq_false_iff_not]
  omega

theorem joinUnits_unitsOf (cs : List Char) : joinUnits (cs.flatMap unitsOf) = some cs := by
  induction cs with
  | nil => rfl
  | cons c cs ih =>
    rw [List.flatMap_cons, unitsOf]
    split
    · rw [List.singleton_append, joinUnits_of_not_high (isHigh_toNat c), char?_toNat, ih]
      rfl
    · next hbig =>
      have hlt := toNat_lt c
      have hhigh : isHigh (0xD800 + (c.toNat - 0x10000) / 1024) = true := by
        simp only [isHigh, Bool.and_eq_true, decide_eq_true_eq]
        omega
      have hlow : isLow (0xDC00 + (c.toNat - 0x10000) % 1024) = true := by
        simp only [isLow, Bool.and_eq_true, decide_eq_true_eq]
        omega
      have hchar : 0x10000 + (0xD800 + (c.toNat - 0x10000) / 1024 - 0xD800) * 1024 +
          (0xDC00 + (c.toNat - 0x10000) % 1024 - 0xDC00) = c.toNat := by
        omega
      rw [List.cons_append, List.singleton_append, joinUnits, hhigh, hlow, hchar, char?_toNat, ih]
      rfl

theorem scanString_dumps (s : String) (rest : List Char) :
    scanString (s.toList.flatMap escapeChar ++ '"' :: rest) = some (s, rest) := by
  rw [scanString, scanUnits_dumps]
  simp only [Option.bind_eq_bind, Option.bind_some, joinUnits_unitsOf, String.ofList_toList]

/-! ### Values without numbers -/

mutual
/-- A value has no number in it. -/
def numberFree : Json → Bool
  | .null | .bool _ | .str _ => true
  | .num _ => false
  | .arr items => numberFreeItems items
  | .obj items => numberFreePairs items

/-- The items of an array. -/
def numberFreeItems : List Json → Bool
  | [] => true
  | v :: vs => numberFree v && numberFreeItems vs

/-- The values of an object. -/
def numberFreePairs : List (String × Json) → Bool
  | [] => true
  | (_, v) :: ps => numberFree v && numberFreePairs ps
end

theorem numberFreeItems_eq_all (vs : List Json) : numberFreeItems vs = vs.all numberFree := by
  induction vs with
  | nil => rfl
  | cons v vs ih => rw [numberFreeItems, ih, List.all_cons]

theorem numberFreePairs_eq_all (items : List (String × Json)) :
    numberFreePairs items = items.all fun p ↦ numberFree p.2 := by
  induction items with
  | nil => rfl
  | cons p items ih => rw [numberFreePairs, ih, List.all_cons]

/-! ### Separators and blanks -/

/-- Separators that put blanks around the comma and the colon, and nothing else. -/
structure Separators.Blank (sep : Separators) : Prop where
  item : ∃ blanks, sep.item = ',' :: blanks ∧ ∀ c ∈ blanks, isBlank c = true
  pair : ∃ blanks, sep.pair = ':' :: blanks ∧ ∀ c ∈ blanks, isBlank c = true

theorem Separators.blank_compact : Separators.compact.Blank :=
  ⟨⟨[], rfl, nofun⟩, ⟨[], rfl, nofun⟩⟩

theorem Separators.blank_default : Separators.default.Blank :=
  ⟨⟨[' '], rfl, List.forall_mem_singleton.2 rfl⟩, ⟨[' '], rfl, List.forall_mem_singleton.2 rfl⟩⟩

theorem skip_cons {c : Char} (h : isBlank c = false) (cs : List Char) : skip (c :: cs) = c :: cs :=
  List.dropWhile_cons_of_neg (by simp [h])

theorem skip_blanks {blanks : List Char} (h : ∀ c ∈ blanks, isBlank c = true) (cs : List Char) :
    skip (blanks ++ cs) = skip cs :=
  List.dropWhile_append_of_pos h

theorem skip_length_le (cs : List Char) : (skip cs).length ≤ cs.length :=
  List.length_dropWhile_le _ cs

/-! ### Dictionaries -/

/-- A dictionary of different keys is its pairs. -/
theorem dict_of_nodup {pairs : List (String × Json)} (h : (pairs.map Prod.fst).Nodup) :
    dict pairs = pairs := by
  have hfold : ∀ (ps acc : List (String × Json)), ((acc ++ ps).map Prod.fst).Nodup →
      ps.foldl
        (fun items p ↦
          if items.any fun q ↦ q.1 = p.1 then
            items.map fun q ↦ if q.1 = p.1 then p else q
          else items ++ [p])
        acc = acc ++ ps := by
    intro ps
    induction ps with
    | nil => exact fun acc _ ↦ (List.append_nil acc).symm
    | cons p ps ih =>
      intro acc hnodup
      have hnew : (acc.any fun q ↦ decide (q.1 = p.1)) = false := by
        rw [List.any_eq_false]
        intro q hq
        rw [List.map_append, List.map_cons] at hnodup
        have hne := (List.nodup_append.1 hnodup).2.2 q.1 (List.mem_map_of_mem hq) p.1
          List.mem_cons_self
        simpa using hne
      rw [List.foldl_cons, hnew, if_neg (by decide), ih (acc ++ [p]) (by simpa using hnodup),
        List.append_assoc, List.singleton_append]
  exact hfold pairs [] h

theorem uniqueKeysItems_eq_all (vs : List Json) : uniqueKeysItems vs = vs.all uniqueKeys := by
  induction vs with
  | nil => rfl
  | cons v vs ih => rw [uniqueKeysItems, ih, List.all_cons]

theorem uniqueKeysPairs_eq_all (items : List (String × Json)) :
    uniqueKeysPairs items = items.all fun p ↦ uniqueKeys p.2 := by
  induction items with
  | nil => rfl
  | cons p items ih => rw [uniqueKeysPairs, ih, List.all_cons]

variable {items items' : List (String × Json)}

/-- Sorting the keys keeps the items. -/
theorem perm_sortKeys (items : List (String × Json)) : (sortKeys items).Perm items :=
  List.perm_insertionSort _ items

@[simp]
theorem numberFree_sortKeys : numberFree (.obj (sortKeys items)) = numberFree (.obj items) := by
  rw [numberFree, numberFree, numberFreePairs_eq_all, numberFreePairs_eq_all,
    (perm_sortKeys items).all_eq]

@[simp]
theorem uniqueKeys_sortKeys : uniqueKeys (.obj (sortKeys items)) = uniqueKeys (.obj items) := by
  have hnodup := ((perm_sortKeys items).map Prod.fst).nodup_iff
  rw [uniqueKeys, uniqueKeys, uniqueKeysPairs_eq_all, uniqueKeysPairs_eq_all,
    (perm_sortKeys items).all_eq]
  simp only [hnodup]

/-- Dictionaries with the same sorted items have the same items. -/
theorem perm_of_sortKeys_eq (h : sortKeys items = sortKeys items') : items.Perm items' :=
  (perm_sortKeys items).symm.trans (h ▸ perm_sortKeys items')

/-- Dictionaries with the same items have the same value under each key. -/
theorem value_eq_of_perm {k : String} {v v' : Json} (h : items.Perm items')
    (hkeys : uniqueKeys (.obj items') = true) (hv : (k, v) ∈ items) (hv' : (k, v') ∈ items') :
    v = v' := by
  rw [uniqueKeys, Bool.and_eq_true, decide_eq_true_iff] at hkeys
  exact (Prod.mk.inj (List.inj_on_of_nodup_map hkeys.1 (h.subset hv) hv' rfl)).2

end Python.Json
