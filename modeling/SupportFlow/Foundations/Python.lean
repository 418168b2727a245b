import Mathlib.Data.List.Sort
import Mathlib.Logic.Basic
import SupportFlow.Foundations.Strip

/-!
# Python in Lean terms

The parts of Python's semantics this development uses, over arbitrary programs.

* A function that may raise is an `Except`: `Except.map_eq_ok_iff` and `Except.bind_eq_ok_iff`
  invert a successful call, `Except.bind_eq_error_iff` one that raises.
* A loop whose body may raise is a `foldlM`: `List.foldlM_option_invariant` is its invariant rule.
* `min` with a key returns the first of the least items (`least?`); where the keys tell the items
  apart it is the least item itself, in whichever order the items come (`least?_eq_some_iff`).
* `str.strip()` removes white space, as `str.isspace` defines it, from both ends (`strip`).
* `json.dumps(value, sort_keys=…, separators=…, ensure_ascii=True)` renders a value as ASCII text
  (`Json.dumps`). A dictionary is its list of items in insertion order; with `sort_keys` the items
  are sorted by key, comparing strings by code point as Python does.
-/

universe u

/-! ### Exceptions -/

/-- A mapped computation returns exactly when the computation does. -/
theorem Except.map_eq_ok_iff {ε α β : Type u} {f : α → β} {x : Except ε α} {b : β} :
    x.map f = .ok b ↔ ∃ a, x = .ok a ∧ f a = b := by
  cases x with
  | error e => exact ⟨fun h ↦ (nomatch h), fun ⟨_, h, _⟩ ↦ (nomatch h)⟩
  | ok a => simp [Except.map]

/-- What a call returned, if it did. -/
theorem Except.toOption_eq_some_iff {ε α : Type u} {x : Except ε α} {a : α} :
    x.toOption = some a ↔ x = .ok a := by
  cases x with
  | error e => exact ⟨fun h ↦ (nomatch h), fun h ↦ (nomatch h)⟩
  | ok b => simp [Except.toOption]

/-- A sequence of two computations returns exactly when the first does and the second, on its
value. -/
theorem Except.bind_eq_ok_iff {ε α β : Type u} {x : Except ε α} {f : α → Except ε β} {b : β} :
    x >>= f = .ok b ↔ ∃ a, x = .ok a ∧ f a = .ok b := by
  cases x with
  | error e => exact ⟨fun h ↦ (nomatch h), fun ⟨_, h, _⟩ ↦ (nomatch h)⟩
  | ok a => exact ⟨fun h ↦ ⟨a, rfl, h⟩, fun ⟨_, h, hf⟩ ↦ by cases h; exact hf⟩

/-- It raises when one of the two does. -/
theorem Except.bind_eq_error_iff {ε α β : Type u} {x : Except ε α} {f : α → Except ε β} {e : ε} :
    x >>= f = .error e ↔ x = .error e ∨ ∃ a, x = .ok a ∧ f a = .error e := by
  cases x with
  | error e' =>
    exact ⟨fun h ↦ .inl (congrArg Except.error (Except.error.inj h)), fun h ↦ by
      rcases h with h | ⟨_, h, _⟩ <;> cases h
      rfl⟩
  | ok a =>
    exact ⟨fun h ↦ .inr ⟨a, rfl, h⟩, fun h ↦ by
      rcases h with h | ⟨_, h, hf⟩ <;> cases h
      exact hf⟩

/-- The second computation matters only on the values the first returns. -/
theorem Except.bind_congr_ok {ε α β : Type u} {x : Except ε α} {f g : α → Except ε β}
    (h : ∀ a, x = .ok a → f a = g a) : x >>= f = x >>= g := by
  cases x with
  | error e => rfl
  | ok a => exact h a rfl

/-- A call for each item returns when every one of them does. -/
theorem Except.mapM_eq_ok {ε α β : Type u} {f : α → Except ε β} {g : α → β} {l : List α}
    (h : ∀ a ∈ l, f a = .ok (g a)) : l.mapM f = .ok (l.map g) := by
  induction l with
  | nil => rfl
  | cons a l ih =>
    obtain ⟨ha, hl⟩ := List.forall_mem_cons.1 h
    rw [List.mapM_cons, ha, ih hl]
    rfl

/-- What every call returns, in order. -/
theorem Except.exists_mapM {ε α β : Type u} {f : α → Except ε β} {R : α → β → Prop} {l : List α}
    (h : ∀ a ∈ l, ∃ b, f a = .ok b ∧ R a b) :
    ∃ bs, l.mapM f = .ok bs ∧ List.Forall₂ R l bs := by
  induction l with
  | nil => exact ⟨[], rfl, .nil⟩
  | cons a l ih =>
    obtain ⟨ha, hl⟩ := List.forall_mem_cons.1 h
    obtain ⟨b, hb, hab⟩ := ha
    obtain ⟨bs, hbs, hrest⟩ := ih hl
    refine ⟨b :: bs, ?_, .cons hab hrest⟩
    rw [List.mapM_cons, hb, hbs]
    rfl

/-- A value that is found under a key stands there. -/
theorem List.mem_of_lookup_eq_some {α β : Type u} [BEq α] [LawfulBEq α] {l : List (α × β)} {a : α}
    {b : β} (h : l.lookup a = some b) : (a, b) ∈ l := by
  obtain ⟨front, back, rfl, -⟩ := List.lookup_eq_some_iff.1 h
  simp

/-- In a dictionary a key has the value of its item. -/
theorem List.lookup_eq_some_iff_mem {α β : Type u} [BEq α] [LawfulBEq α] {l : List (α × β)} {a : α}
    {b : β} (hkeys : (l.map Prod.fst).Nodup) : l.lookup a = some b ↔ (a, b) ∈ l := by
  refine ⟨List.mem_of_lookup_eq_some, fun hmem ↦ ?_⟩
  obtain ⟨front, back, rfl⟩ := List.append_of_mem hmem
  refine List.lookup_eq_some_iff.2 ⟨front, back, rfl, fun p hp ↦ ?_⟩
  rw [List.map_append, List.map_cons] at hkeys
  have hne := (List.nodup_append.1 hkeys).2.2 p.1 (List.mem_map_of_mem hp) a List.mem_cons_self
  simpa using hne.symm

/-- **The loop rule**: what the body keeps on every iteration that returns holds after the loop. -/
theorem List.foldlM_option_invariant {α β : Type u} {f : β → α → Option β} {I : β → Prop} :
    ∀ {l : List α} {b b' : β}, (∀ b a b', a ∈ l → I b → f b a = some b' → I b') → I b →
      l.foldlM f b = some b' → I b'
  | [], b, b', _, hI, h => by
    obtain rfl := Option.some.inj h
    exact hI
  | a :: l, b, b', hstep, hI, h => by
    rw [List.foldlM_cons] at h
    obtain ⟨c, hc, hrest⟩ := Option.bind_eq_some_iff.1 h
    exact List.foldlM_option_invariant
      (fun b x b' hx ↦ hstep b x b' (List.mem_cons_of_mem a hx))
      (hstep b a c List.mem_cons_self hI hc) hrest

/-! ### Strings -/

namespace Python

/-- `str.isspace` on one character. -/
def isSpace (c : Char) : Bool :=
  let n := c.toNat
  (0x09 ≤ n && n ≤ 0x0D) || (0x1C ≤ n && n ≤ 0x20) || n == 0x85 || n == 0xA0 || n == 0x1680 ||
    (0x2000 ≤ n && n ≤ 0x200A) || n == 0x2028 || n == 0x2029 || n == 0x202F || n == 0x205F ||
      n == 0x3000

/-- `str.strip()`. -/
def strip (s : String) : String :=
  String.ofList ((s.toList.dropWhile isSpace).rdropWhile isSpace)

theorem toList_strip (s : String) :
    (strip s).toList = (s.toList.dropWhile isSpace).rdropWhile isSpace :=
  String.toList_ofList

/-- Nothing is stripped of a string without white space at its ends, and of no other. -/
theorem strip_eq_self_iff {s : String} : strip s = s ↔ s.toList.EndsFree isSpace := by
  rw [← String.toList_inj, toList_strip, List.strip_eq_self_iff]

theorem strip_eq_self {s : String} (h : ∀ c ∈ s.toList, isSpace c = false) : strip s = s :=
  strip_eq_self_iff.2 (List.endsFree_of_forall h)

theorem strip_strip (s : String) : strip (strip s) = strip s := by
  rw [strip_eq_self_iff, toList_strip]
  exact List.endsFree_strip isSpace s.toList

/-- What is stripped stands before and after the rest. -/
theorem exists_eq_append_strip (s : String) :
    ∃ before after, s = before ++ strip s ++ after := by
  obtain ⟨before, after, h⟩ := List.strip_infix isSpace s.toList
  refine ⟨String.ofList before, String.ofList after, ?_⟩
  rw [← String.toList_inj, String.toList_append, String.toList_append, toList_strip,
    String.toList_ofList, String.toList_ofList, h]

/-- Stripping adds no character. -/
theorem mem_of_mem_strip {s : String} {c : Char} (h : c ∈ (strip s).toList) : c ∈ s.toList := by
  rw [toList_strip] at h
  exact (List.strip_infix isSpace s.toList).subset h

/-- `str.rsplit(sep, 1)`, when the separator occurs: what stands before its last occurrence, and
what stands after it. -/
def rsplitOnce (sep : Char) (s : String) : Option (String × String) :=
  let upTo := s.toList.rdropWhile (· ≠ sep)
  if upTo = [] then none
  else some (String.ofList upTo.dropLast, String.ofList (s.toList.rtakeWhile (· ≠ sep)))

/-- **The parts of a split are those of a text with nothing to split in its second part.** -/
theorem rsplitOnce_eq_some_iff {sep : Char} {s a b : String} :
    rsplitOnce sep s = some (a, b) ↔ s.toList = a.toList ++ sep :: b.toList ∧ sep ∉ b.toList := by
  unfold rsplitOnce
  dsimp only
  constructor
  · intro h
    split at h
    · cases h
    · next hne =>
      obtain ⟨rfl, rfl⟩ := Prod.mk.inj (Option.some.inj h)
      have hlast : (s.toList.rdropWhile (· ≠ sep)).getLast hne = sep := by
        simpa using List.rdropWhile_last_not (· ≠ sep) s.toList hne
      rw [String.toList_ofList, String.toList_ofList]
      constructor
      · calc s.toList
            = s.toList.rdropWhile (· ≠ sep) ++ s.toList.rtakeWhile (· ≠ sep) :=
              List.rdropWhile_append_rtakeWhile.symm
          _ = ((s.toList.rdropWhile (· ≠ sep)).dropLast ++ [sep]) ++
                s.toList.rtakeWhile (· ≠ sep) := by
              conv_lhs => rw [← List.dropLast_append_getLast hne, hlast]
          _ = _ := by rw [List.append_assoc, List.singleton_append]
      · intro hmem
        simpa using List.mem_rtakeWhile_imp hmem
  · rintro ⟨hs, hb⟩
    have hreverse : s.toList.reverse = b.toList.reverse ++ sep :: a.toList.reverse := by
      simp [hs]
    have htail : ∀ c ∈ b.toList.reverse, decide (c ≠ sep) = true := fun c hc ↦
      decide_eq_true fun heq ↦ hb (heq ▸ List.mem_reverse.1 hc)
    have hdrop : s.toList.rdropWhile (· ≠ sep) = a.toList ++ [sep] := by
      rw [List.rdropWhile, hreverse, List.dropWhile_append_of_pos htail,
        List.dropWhile_cons_of_neg (by simp), List.reverse_cons, List.reverse_reverse]
    have htake : s.toList.rtakeWhile (· ≠ sep) = b.toList := by
      rw [List.rtakeWhile, hreverse, List.takeWhile_append_of_pos htail,
        List.takeWhile_cons_of_neg (by simp), List.append_nil, List.reverse_reverse]
    rw [hdrop, htake, if_neg (by simp), List.dropLast_concat, String.ofList_toList,
      String.ofList_toList]

/-- `str.encode()`. -/
def encode (s : String) : List UInt8 :=
  s.toUTF8.data.toList

/-- `bytes.decode("utf-8")`; `none` is a `UnicodeDecodeError`. -/
def decode (bytes : List UInt8) : Option String :=
  String.fromUTF8? ⟨bytes.toArray⟩

theorem decode_encode (s : String) : decode (encode s) = some s :=
  dif_pos s.isValidUTF8

/-- A text that was decoded is encoded as the bytes it came from. -/
theorem encode_of_decode {bytes : List UInt8} {s : String} (h : decode bytes = some s) :
    encode s = bytes := by
  unfold decode String.fromUTF8? at h
  split at h
  · obtain rfl := Option.some.inj h
    rfl
  · cases h

/-- A text is encoded character by character. -/
theorem encode_eq_flatMap (s : String) : encode s = s.toList.flatMap String.utf8EncodeChar := by
  conv_lhs => rw [← String.ofList_toList (s := s)]
  show (String.ofList s.toList).toByteArray.data.toList = _
  rw [String.toByteArray_ofList, List.utf8Encode, List.data_toByteArray]

/-- The bytes of every other character are not zero. -/
theorem zero_mem_utf8EncodeChar {c : Char} : 0 ∈ String.utf8EncodeChar c ↔ c = Char.ofNat 0 := by
  have hval : c = Char.ofNat 0 ↔ c.val.toNat = 0 := by
    rw [← Char.toNat_inj]
    rfl
  rw [hval]
  unfold String.utf8EncodeChar
  extract_lets v
  have hv : c.val.toNat = v := rfl
  rw [hv]
  split
  · rw [List.mem_singleton, ← UInt8.toNat_inj, UInt8.toNat_ofNat']
    simp
    omega
  · split
    · simp [← UInt8.toNat_inj]
      omega
    · split
      · simp [← UInt8.toNat_inj]
        omega
      · simp [← UInt8.toNat_inj]
        omega

/-- **The bytes of a text contain a zero exactly when the text contains a NUL.** -/
theorem zero_mem_encode_iff {s : String} : 0 ∈ encode s ↔ Char.ofNat 0 ∈ s.toList := by
  rw [encode_eq_flatMap, List.mem_flatMap]
  constructor
  · rintro ⟨c, hc, hzero⟩
    exact zero_mem_utf8EncodeChar.1 hzero ▸ hc
  · exact fun h ↦ ⟨_, h, zero_mem_utf8EncodeChar.2 rfl⟩

/-- Joining one more part. -/
theorem length_join_concat {sep : String} {parts : List String} (part : String) :
    (sep.intercalate (parts ++ [part])).length =
      (sep.intercalate parts).length + part.length + if parts = [] then 0 else sep.length := by
  by_cases h : parts = []
  · rw [if_pos h, h, List.nil_append, String.intercalate_singleton, String.intercalate_nil,
      String.length_empty]
    omega
  · rw [if_neg h, String.intercalate_append_of_ne_nil h (List.cons_ne_nil _ _),
      String.intercalate_singleton, String.length_append, String.length_append]
    omega

/-- A joined text is no shorter than with fewer parts. -/
theorem length_join_le (sep : String) (parts more : List String) :
    (sep.intercalate parts).length ≤ (sep.intercalate (parts ++ more)).length := by
  induction more using List.reverseRecOn with
  | nil => rw [List.append_nil]
  | append_singleton more part ih =>
    rw [← List.append_assoc, length_join_concat]
    omega

/-- `str.isascii()`. -/
def isAscii (s : String) : Bool :=
  s.toList.all fun c ↦ c.toNat < 128

/-- The zeros of the decimal digits, script by script: each is followed by its one to nine. -/
def decimalZeros : List ℕ :=
  [0x30, 0x660, 0x6F0, 0x7C0, 0x966, 0x9E6, 0xA66, 0xAE6, 0xB66, 0xBE6, 0xC66, 0xCE6, 0xD66, 0xDE6,
    0xE50, 0xED0, 0xF20, 0x1040, 0x1090, 0x17E0, 0x1810, 0x1946, 0x19D0, 0x1A80, 0x1A90, 0x1B50,
    0x1BB0, 0x1C40, 0x1C50, 0xA620, 0xA8D0, 0xA900, 0xA9D0, 0xA9F0, 0xAA50, 0xABF0, 0xFF10,
    0x104A0, 0x10D30, 0x11066, 0x110F0, 0x11136, 0x111D0, 0x112F0, 0x11450, 0x114D0, 0x11650,
    0x116C0, 0x11730, 0x118E0, 0x11950, 0x11C50, 0x11D50, 0x11DA0, 0x11F50, 0x16A60, 0x16AC0,
    0x16B50, 0x1D7CE, 0x1D7D8, 0x1D7E2, 0x1D7EC, 0x1D7F6, 0x1E140, 0x1E2F0, 0x1E4F0, 0x1E950,
    0x1FBF0]

/-- The value of a decimal digit of any script: what `\d` matches and `int` reads. -/
def decimal? (c : Char) : Option ℕ :=
  (decimalZeros.find? fun z ↦ z ≤ c.toNat ∧ c.toNat < z + 10).map (c.toNat - ·)

/-- `int(text)`, for a text of decimal digits. -/
def decimalNumber (digits : List Char) : Option ℕ :=
  digits.foldlM (fun n c ↦ (decimal? c).map (n * 10 + ·)) 0

/-! ### Selection -/

/-- `min(items, key=…, default=None)`, by the comparison of the keys: the first of the least. -/
def least? {α : Type u} (before : α → α → Prop) [DecidableRel before] (items : List α) : Option α :=
  items.foldl
    (fun least item ↦
      match least with
      | none => some item
      | some found => if before item found then some item else some found)
    none

section Least

variable {α β : Type u} {before : α → α → Prop}

/-- A comparison that orders some items strictly, and tells any two of them apart. -/
structure Ranks (before : α → α → Prop) (items : List α) : Prop where
  asymm : ∀ a b, before a b → ¬before b a
  trans : ∀ a b c, before a b → before b c → before a c
  connected : ∀ a ∈ items, ∀ b ∈ items, a = b ∨ before a b ∨ before b a

theorem Ranks.subset {items items' : List α} (h : Ranks before items) (hsub : items' ⊆ items) :
    Ranks before items' :=
  ⟨h.asymm, h.trans, fun a ha b hb ↦ h.connected a (hsub ha) b (hsub hb)⟩

variable [DecidableRel before]

/-- One more item is compared with the least of those before it. -/
theorem least?_concat (items : List α) (item : α) :
    least? before (items ++ [item]) =
      match least? before items with
      | none => some item
      | some found => if before item found then some item else some found := by
  rw [least?, List.foldl_append]
  rfl

/-- The least of some items is one of them, and below all others. -/
theorem least?_spec {items : List α} (h : Ranks before items) :
    (items = [] ∧ least? before items = none) ∨
      ∃ m, least? before items = some m ∧ m ∈ items ∧ ∀ x ∈ items, x = m ∨ before m x := by
  induction items using List.reverseRecOn with
  | nil => exact .inl ⟨rfl, rfl⟩
  | append_singleton items item ih =>
    right
    rw [least?_concat]
    rcases ih (h.subset (List.subset_append_left _ _)) with ⟨rfl, hnone⟩ | ⟨m, hm, hmem, hleast⟩
    · rw [hnone]
      exact ⟨item, rfl, by simp, by simp⟩
    · rw [hm]
      dsimp only
      by_cases hbefore : before item m
      · -- The new item is below the least so far, so it is below all of them.
        refine ⟨item, if_pos hbefore, by simp, fun x hx ↦ ?_⟩
        rcases List.mem_append.1 hx with hx | hx
        · rcases hleast x hx with rfl | hmx
          · exact .inr hbefore
          · exact .inr (h.trans _ _ _ hbefore hmx)
        · exact .inl (List.mem_singleton.1 hx)
      · refine ⟨m, if_neg hbefore, List.mem_append_left _ hmem, fun x hx ↦ ?_⟩
        rcases List.mem_append.1 hx with hx | hx
        · exact hleast x hx
        · obtain rfl := List.mem_singleton.1 hx
          rcases h.connected x (by simp) m (List.mem_append_left _ hmem) with rfl | hlt | hgt
          · exact .inl rfl
          · exact absurd hlt hbefore
          · exact .inr hgt

/-- **The least item, by what it is.** -/
theorem least?_eq_some_iff {items : List α} {m : α} (h : Ranks before items) :
    least? before items = some m ↔ m ∈ items ∧ ∀ x ∈ items, x = m ∨ before m x := by
  rcases least?_spec h with ⟨rfl, hnone⟩ | ⟨m', hsome, hmem, hleast⟩
  · simp [hnone]
  · rw [hsome, Option.some_inj]
    constructor
    · rintro rfl
      exact ⟨hmem, hleast⟩
    · rintro ⟨hm, hleast'⟩
      rcases hleast m hm with rfl | hlt
      · rfl
      · exact (hleast' m' hmem).resolve_right (h.asymm _ _ hlt)

/-- The order of the items does not matter. -/
theorem least?_perm {items items' : List α} (h : Ranks before items) (hperm : items'.Perm items) :
    least? before items' = least? before items := by
  refine Option.ext fun m ↦ ?_
  rw [least?_eq_some_iff h, least?_eq_some_iff (h.subset hperm.subset), hperm.mem_iff]
  exact and_congr_right fun _ ↦ forall_congr' fun x ↦ by rw [hperm.mem_iff]

/-- Items that are not below the least one do not matter. -/
theorem least?_of_subset {items items' : List α} {m : α} (h : Ranks before items')
    (hsub : items ⊆ items') (hm : least? before items = some m)
    (hlater : ∀ x ∈ items', x ∈ items ∨ before m x) : least? before items' = some m := by
  obtain ⟨hmem, hleast⟩ := (least?_eq_some_iff (h.subset hsub)).1 hm
  exact (least?_eq_some_iff h).2
    ⟨hsub hmem, fun x hx ↦ (hlater x hx).elim (hleast x) .inr⟩

end Least

/-! ### JSON -/

/-- A JSON value. A number is kept by its literal, which is all that rendering it needs. -/
inductive Json
  | null
  | bool (b : Bool)
  | num (literal : String)
  | str (s : String)
  | arr (items : List Json)
  | obj (items : List (String × Json))

namespace Json

/-- `\uXXXX` for a 16-bit unit. -/
def escapeUnit (n : ℕ) : List Char :=
  ['\\', 'u', Nat.digitChar (n / 4096 % 16), Nat.digitChar (n / 256 % 16),
    Nat.digitChar (n / 16 % 16), Nat.digitChar (n % 16)]

/-- One character under `ensure_ascii`: printable ASCII as it is, the short escapes, and everything
else as one 16-bit unit or a surrogate pair. -/
def escapeChar (c : Char) : List Char :=
  if c = '"' then ['\\', '"']
  else if c = '\\' then ['\\', '\\']
  else if c = '\n' then ['\\', 'n']
  else if c = '\r' then ['\\', 'r']
  else if c = '\t' then ['\\', 't']
  else if c.toNat = 0x0C then ['\\', 'f']
  else if c.toNat = 0x08 then ['\\', 'b']
  else if 0x20 ≤ c.toNat ∧ c.toNat ≤ 0x7E then [c]
  else if c.toNat < 0x10000 then escapeUnit c.toNat
  else
    escapeUnit (0xD800 + (c.toNat - 0x10000) / 1024) ++
      escapeUnit (0xDC00 + (c.toNat - 0x10000) % 1024)

/-- A rendered string, with its quotes. -/
def dumpsStr (s : String) : List Char :=
  '"' :: (s.toList.flatMap escapeChar ++ ['"'])

/-- How `json.dumps` joins items and pairs: `(", ", ": ")` by default, `(",", ":")` when compact. -/
structure Separators where
  item : List Char
  pair : List Char

/-- The default separators. -/
def Separators.default : Separators :=
  ⟨[',', ' '], [':', ' ']⟩

/-- `separators=(",", ":")`. -/
def Separators.compact : Separators :=
  ⟨[','], [':']⟩

mutual
/-- `json.dumps` with `ensure_ascii`, keys in the order given. -/
def render (sep : Separators) : Json → List Char
  | .null => "null".toList
  | .bool b => (if b then "true" else "false").toList
  | .num literal => literal.toList
  | .str s => dumpsStr s
  | .arr items => '[' :: (renderItems sep items ++ [']'])
  | .obj items => Char.ofNat 0x7B :: (renderPairs sep items ++ [Char.ofNat 0x7D])

/-- The items of an array, separated. -/
def renderItems (sep : Separators) : List Json → List Char
  | [] => []
  | [v] => render sep v
  | v :: w :: vs => render sep v ++ sep.item ++ renderItems sep (w :: vs)

/-- The pairs of an object, separated. -/
def renderPairs (sep : Separators) : List (String × Json) → List Char
  | [] => []
  | [(k, v)] => dumpsStr k ++ sep.pair ++ render sep v
  | (k, v) :: p :: ps =>
    dumpsStr k ++ sep.pair ++ render sep v ++ sep.item ++ renderPairs sep (p :: ps)
end

/-- `json.dumps(value, separators=…, ensure_ascii=True)`. -/
def dumps (sep : Separators) (value : Json) : String :=
  String.ofList (render sep value)

/-- The items of a dictionary in the order `sort_keys` puts them. -/
def sortKeys (items : List (String × Json)) : List (String × Json) :=
  items.insertionSort fun p q ↦ p.1 ≤ q.1

mutual
/-- No object of a value, at any depth, has a key twice. -/
def uniqueKeys : Json → Bool
  | .null | .bool _ | .num _ | .str _ => true
  | .arr items => uniqueKeysItems items
  | .obj items => decide (items.map Prod.fst).Nodup && uniqueKeysPairs items

/-- The items of an array. -/
def uniqueKeysItems : List Json → Bool
  | [] => true
  | v :: vs => uniqueKeys v && uniqueKeysItems vs

/-- The values of an object. -/
def uniqueKeysPairs : List (String × Json) → Bool
  | [] => true
  | (_, v) :: ps => uniqueKeys v && uniqueKeysPairs ps
end

end Json

end Python
