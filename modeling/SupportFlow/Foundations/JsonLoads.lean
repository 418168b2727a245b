import SupportFlow.Foundations.JsonDocuments

/-!
# Loading JSON

`json.loads` is the decoder, after which every object becomes a dictionary: the scanners read what
the decoder reads, since a text is longer than it is deep (`loads_eq`). So it takes exactly the
texts of the grammar (`loads_eq_some_iff`).

Therefore **it undoes `json.dumps`** (`loads_dumps`), on a value whose objects have no key twice; a
text identifies its value (`dumps_injective`); and a text with sorted keys identifies the items of
its dictionary (`perm_of_dumps_sortKeys`).
-/

namespace Python.Json

/-! ### Dictionaries for objects -/

mutual
/-- A value with every object as its dictionary. -/
def dictionaries : Json → Json
  | .null => .null
  | .bool b => .bool b
  | .num literal => .num literal
  | .str s => .str s
  | .arr items => .arr (dictionariesItems items)
  | .obj pairs => .obj (dict (dictionariesPairs pairs))

/-- The items of an array. -/
def dictionariesItems : List Json → List Json
  | [] => []
  | v :: vs => dictionaries v :: dictionariesItems vs

/-- The values of an object. -/
def dictionariesPairs : List (String × Json) → List (String × Json)
  | [] => []
  | (k, v) :: ps => (k, dictionaries v) :: dictionariesPairs ps
end

theorem PlainText.dictionaries_eq {v : Json} {text : List Char} (h : PlainText v text) :
    dictionaries v = v := by
  rcases h with hliteral | ⟨-, rfl⟩
  · simp only [literals, List.mem_cons, Prod.mk.injEq, List.not_mem_nil, or_false] at hliteral
    rcases hliteral with ⟨-, rfl⟩ | ⟨-, rfl⟩ | ⟨-, rfl⟩ | ⟨-, rfl⟩ | ⟨-, rfl⟩ | ⟨-, rfl⟩ <;> rfl
  · rfl

theorem dictionariesItems_eq_map (vs : List Json) : dictionariesItems vs = vs.map dictionaries := by
  induction vs with
  | nil => rfl
  | cons v vs ih => rw [dictionariesItems, ih, List.map_cons]

theorem dictionariesPairs_eq_map (ps : List (String × Json)) :
    dictionariesPairs ps = ps.map fun p ↦ (p.1, dictionaries p.2) := by
  induction ps with
  | nil => rfl
  | cons p ps ih => rw [dictionariesPairs, ih, List.map_cons]

/-- Objects without a key twice are dictionaries. -/
theorem dictionaries_eq_self {v : Json} (h : uniqueKeys v = true) : dictionaries v = v := by
  induction v using Json.induct with
  | null | bool | num | str => rfl
  | arr vs ih =>
    rw [uniqueKeys, uniqueKeysItems_eq_all, List.all_eq_true] at h
    have hself : ∀ v ∈ vs, dictionaries v = id v := fun v hv ↦ ih v hv (h v hv)
    rw [dictionaries, dictionariesItems_eq_map, List.map_congr_left hself, List.map_id]
  | obj ps ih =>
    rw [uniqueKeys, Bool.and_eq_true, decide_eq_true_eq, uniqueKeysPairs_eq_all,
      List.all_eq_true] at h
    obtain ⟨hkeys, hvalues⟩ := h
    have hself : ∀ p ∈ ps, (p.1, dictionaries p.2) = id p := fun p hp ↦
      Prod.ext rfl (ih p hp (hvalues p hp))
    rw [dictionaries, dictionariesPairs_eq_map, List.map_congr_left hself, List.map_id,
      dict_of_nodup hkeys]

/-! ### The scanners read what the decoder reads -/

/-- On the texts that a limit cannot stop, the scanners read what the decoder does. -/
structure ScansAsDecoded (limit fuel : ℕ) : Prop where
  once {cs : List Char} : cs.length ≤ limit →
    scanOnce fuel cs = (decodeOnce limit fuel cs).toOption.map fun p ↦ (dictionaries p.1, p.2)
  items {cs : List Char} : cs.length ≤ limit →
    scanItems fuel cs =
      (decodeItems limit fuel cs).toOption.map fun p ↦ (dictionariesItems p.1, p.2)
  pairs {cs : List Char} : cs.length ≤ limit →
    scanPairs fuel cs =
      (decodePairs limit fuel cs).toOption.map fun p ↦ (dictionariesPairs p.1, p.2)

theorem scanOnce_eq {limit fuel : ℕ} (ih : ∀ limit, ScansAsDecoded limit fuel) {cs : List Char}
    (h : cs.length ≤ limit) :
    scanOnce (fuel + 1) cs =
      (decodeOnce limit (fuel + 1) cs).toOption.map fun p ↦ (dictionaries p.1, p.2) := by
  cases cs with
  | nil => rfl
  | cons c cs =>
    obtain ⟨limit, rfl⟩ : ∃ l, limit = l + 1 :=
      Nat.exists_eq_add_one.2 (Nat.lt_of_lt_of_le (Nat.succ_pos _) h)
    have hskip : (skip cs).length ≤ limit :=
      (skip_length_le cs).trans (Nat.le_of_succ_le_succ h)
    have hitems := (ih limit).items hskip
    have hpairs := (ih limit).pairs hskip
    rw [scanOnce, decodeOnce]
    generalize skip cs = after at hitems hpairs ⊢
    split
    · cases scanString cs <;> rfl
    split
    · cases after with
      | nil =>
        dsimp only
        rw [hitems]
        cases decodeItems limit fuel [] <;> rfl
      | cons d rest =>
        by_cases hd : d = ']'
        · subst hd
          rfl
        · simp only [List.cons.injEq, hd, false_and, imp_self, implies_true, hitems]
          cases decodeItems limit fuel (d :: rest) <;> rfl
    split
    · cases after with
      | nil => rfl
      | cons d rest =>
        dsimp only
        split
        · rfl
        · rw [hpairs]
          cases decodePairs limit fuel (d :: rest) <;> rfl
    · cases hplain : scanPlain (c :: cs) with
      | none => rfl
      | some p =>
        obtain ⟨text, htext, -⟩ := scanPlain_sound hplain
        show _ = some (dictionaries p.1, p.2)
        rw [htext.dictionaries_eq]

theorem scanItems_eq {limit fuel : ℕ} (ih : ∀ limit, ScansAsDecoded limit fuel) {cs : List Char}
    (h : cs.length ≤ limit) :
    scanItems (fuel + 1) cs =
      (decodeItems limit (fuel + 1) cs).toOption.map fun p ↦ (dictionariesItems p.1, p.2) := by
  rw [scanItems, decodeItems, (ih limit).once h]
  cases hvalue : decodeOnce limit fuel cs with
  | error => rfl
  | ok p =>
    obtain ⟨v, rest⟩ := p
    have hrest := (decode_sound (.value v) hvalue).1.length_lt
    have hskip := skip_length_le rest
    dsimp only [Except.toOption, Option.map_some, bind, Except.bind, Option.bind]
    rcases hafter : skip rest with - | ⟨c, rest'⟩
    · rfl
    rw [hafter, List.length_cons] at hskip
    have hskip' := skip_length_le rest'
    by_cases hbracket : c = ']'
    · subst hbracket
      rfl
    by_cases hcomma : c = ','
    · subst hcomma
      show (scanItems fuel (skip rest')).bind (fun q ↦ some (dictionaries v :: q.1, q.2)) =
        (decodeItems limit fuel (skip rest') >>= fun q ↦ .ok (v :: q.1, q.2)).toOption.map _
      rw [(ih limit).items (by omega)]
      cases decodeItems limit fuel (skip rest') <;> rfl
    · simp [hbracket, hcomma]

theorem scanPairs_eq {limit fuel : ℕ} (ih : ∀ limit, ScansAsDecoded limit fuel) {cs : List Char}
    (h : cs.length ≤ limit) :
    scanPairs (fuel + 1) cs =
      (decodePairs limit (fuel + 1) cs).toOption.map fun p ↦ (dictionariesPairs p.1, p.2) := by
  rcases cs with - | ⟨c, cs⟩
  · simp [scanPairs, decodePairs, Except.toOption]
  by_cases hquote : c = '"'
  · subst hquote
    rw [scanPairs, decodePairs]
    rcases hkey : scanString cs with - | ⟨k, afterKey⟩
    · rfl
    obtain ⟨body, -, rfl⟩ := scanString_eq_some_iff.1 hkey
    have hskip := skip_length_le afterKey
    simp only [List.length_cons, List.length_append] at h
    simp only [Option.bind_eq_bind, Option.bind_some]
    rcases hafter : skip afterKey with - | ⟨c, rest⟩
    · rfl
    by_cases hcolon : c = ':'
    · subst hcolon
      rw [hafter, List.length_cons] at hskip
      have hskip₁ := skip_length_le rest
      show (scanOnce fuel (skip rest)).bind _ =
        (decodeOnce limit fuel (skip rest) >>= _).toOption.map _
      rw [(ih limit).once (by omega)]
      rcases hvalue : decodeOnce limit fuel (skip rest) with - | ⟨v, afterValue⟩
      · rfl
      have hlt := (decode_sound (.value v) hvalue).1.length_lt
      have hskip₂ := skip_length_le afterValue
      dsimp only [bind, Except.bind, Except.toOption, Option.map_some, Option.bind_some]
      rcases hrest : skip afterValue with - | ⟨d, rest'⟩
      · rfl
      rw [hrest, List.length_cons] at hskip₂
      have hskip₃ := skip_length_le rest'
      by_cases hcomma : d = ','
      · subst hcomma
        show (scanPairs fuel (skip rest')).bind (fun q ↦ some ((k, dictionaries v) :: q.1, q.2)) =
          (decodePairs limit fuel (skip rest') >>= fun q ↦ .ok ((k, v) :: q.1, q.2)).toOption.map _
        rw [(ih limit).pairs (by omega)]
        cases decodePairs limit fuel (skip rest') <;> rfl
      by_cases hclose : d = closeBrace
      · subst hclose
        rfl
      · simp [hclose]
    · simp [hcolon, Except.toOption]
  · simp [scanPairs, decodePairs, hquote, Except.toOption]

theorem scansAsDecoded (limit fuel : ℕ) : ScansAsDecoded limit fuel := by
  induction fuel generalizing limit with
  | zero =>
    refine ⟨fun {cs} _ ↦ ?_, fun _ ↦ ?_, fun {cs} _ ↦ ?_⟩
    · cases cs <;> simp [scanOnce, decodeOnce, Except.toOption]
    · simp [scanItems, decodeItems, Except.toOption]
    · cases cs <;> simp [scanPairs, decodePairs, Except.toOption]
  | succ fuel ih => exact ⟨scanOnce_eq ih, scanItems_eq ih, scanPairs_eq ih⟩

/-! ### `json.loads` -/

theorem JsonText.depth_lt {v : Json} {text : String} (h : JsonText v text) :
    v.depth < text.length := by
  obtain ⟨before, cs, after, -, -, htext, hparses⟩ := h
  have hlt : v.depth + after.length < cs.length := hparses.depth_lt
  rw [← String.length_toList, htext, List.length_append]
  omega

theorem loads_eq (text : String) :
    loads text = (decode text.length text).toOption.map dictionaries := by
  have hskip := skip_length_le text.toList
  rw [String.length_toList] at hskip
  rw [loads, decode, (scansAsDecoded text.length (text.length + 1)).once hskip]
  rcases decodeOnce text.length (text.length + 1) (skip text.toList) with - | ⟨v, rest⟩
  · rfl
  · dsimp only [Except.toOption, Option.map_some, bind, Except.bind, Option.bind]
    split <;> rfl

/-- **`json.loads` takes exactly the JSON texts**, each to its value with every object as a
dictionary. -/
theorem loads_eq_some_iff {text : String} {w : Json} :
    loads text = some w ↔ ∃ v, JsonText v text ∧ dictionaries v = w := by
  rw [loads_eq, Option.map_eq_some_iff]
  simp only [Except.toOption_eq_some_iff, decode_eq_ok_iff]
  constructor
  · rintro ⟨v, ⟨htext, -⟩, rfl⟩
    exact ⟨v, htext, rfl⟩
  · rintro ⟨v, htext, rfl⟩
    exact ⟨v, ⟨htext, htext.depth_lt.le⟩, rfl⟩

/-! ### A text identifies its value -/

variable {sep : Separators} {items items' : List (String × Json)}

/-- **`json.loads` undoes `json.dumps`**, of a value whose numbers are written as numbers. -/
theorem loads_dumps (hsep : sep.Blank) {v : Json} (h : Printable v)
    (hkeys : uniqueKeys v = true) : loads (dumps sep v) = some v :=
  loads_eq_some_iff.2 ⟨v, jsonText_dumps hsep h, dictionaries_eq_self hkeys⟩

/-- Values with one text are one value. -/
theorem dumps_injective (hsep : sep.Blank) {v w : Json} (hv : numberFree v = true)
    (hvkeys : uniqueKeys v = true) (hw : numberFree w = true) (hwkeys : uniqueKeys w = true)
    (h : dumps sep v = dumps sep w) : v = w := by
  have hloads := congrArg loads h
  rw [loads_dumps hsep (printable_of_numberFree hv) hvkeys,
    loads_dumps hsep (printable_of_numberFree hw) hwkeys] at hloads
  exact Option.some.inj hloads

/-- **A canonical text identifies the items of its dictionary.** -/
theorem perm_of_dumps_sortKeys (hsep : sep.Blank) (hfree : numberFree (.obj items) = true)
    (hkeys : uniqueKeys (.obj items) = true) (hfree' : numberFree (.obj items') = true)
    (hkeys' : uniqueKeys (.obj items') = true)
    (h : dumps sep (.obj (sortKeys items)) = dumps sep (.obj (sortKeys items'))) :
    items.Perm items' := by
  rw [← numberFree_sortKeys] at hfree hfree'
  rw [← uniqueKeys_sortKeys] at hkeys hkeys'
  exact perm_of_sortKeys_eq (Json.obj.inj (dumps_injective hsep hfree hkeys hfree' hkeys' h))

end Python.Json
