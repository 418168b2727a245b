import SupportFlow.Foundations.JsonGrammar

/-!
# JSON documents

What stands between the values of a program and the texts of the grammar, both ways.

A `Loader` is `json.loads` with its hooks: every pair list of an object goes through
`object_pairs_hook`, and every number through the parser of numbers, from the inside out. Each of
them may raise; which of two errors comes first is not told apart. **What a loader returns it
returns unchanged** when it comes from a document again (`Loader.convert_idem`), and it is nested no
deeper than its text (`Loader.depth_le`).

The other way, **a rendered value is a text of the grammar**, under any separators that put blanks
around the comma and the colon (`jsonText_dumps`), and indented (`jsonText_dumpsIndent`).
-/

namespace Python.Json

/-- Values are built from the inside out. -/
@[elab_as_elim]
theorem induct {motive : Json → Prop} (null : motive .null) (bool : ∀ b, motive (.bool b))
    (num : ∀ literal, motive (.num literal)) (str : ∀ s, motive (.str s))
    (arr : ∀ items, (∀ v ∈ items, motive v) → motive (.arr items))
    (obj : ∀ pairs, (∀ p ∈ pairs, motive p.2) → motive (.obj pairs)) (v : Json) : motive v :=
  @Json.rec motive (fun items ↦ ∀ v ∈ items, motive v) (fun pairs ↦ ∀ p ∈ pairs, motive p.2)
    (fun p ↦ motive p.2) null bool num str arr obj nofun
    (fun _ _ hv hitems ↦ List.forall_mem_cons.2 ⟨hv, hitems⟩) nofun
    (fun _ _ hp hpairs ↦ List.forall_mem_cons.2 ⟨hp, hpairs⟩) (fun _ _ hv ↦ hv) v

theorem depthItems_le_iff {vs : List Json} {n : ℕ} :
    depthItems vs ≤ n ↔ ∀ v ∈ vs, depth v ≤ n := by
  induction vs with
  | nil => simp [depthItems]
  | cons v vs ih => rw [depthItems, Nat.max_le, ih, List.forall_mem_cons]

theorem depthPairs_le_iff {ps : List (String × Json)} {n : ℕ} :
    depthPairs ps ≤ n ↔ ∀ p ∈ ps, depth p.2 ≤ n := by
  induction ps with
  | nil => simp [depthPairs]
  | cons p ps ih => rw [depthPairs, Nat.max_le, ih, List.forall_mem_cons]

/-! ### Dictionaries -/

section Dictionaries

variable {items : List (String × Json)} {k : String} {v : Json}

/-- `items[k] = v`: a key that is there keeps its place. -/
def setItem (items : List (String × Json)) (k : String) (v : Json) : List (String × Json) :=
  if items.any fun q ↦ q.1 = k then items.map fun q ↦ if q.1 = k then (k, v) else q
  else items ++ [(k, v)]

theorem mem_of_mem_setItem {q : String × Json} (h : q ∈ setItem items k v) :
    q ∈ items ∨ q = (k, v) := by
  unfold setItem at h
  split at h
  · obtain ⟨p, hp, rfl⟩ := List.mem_map.1 h
    split
    · exact .inr rfl
    · exact .inl hp
  · rcases List.mem_append.1 h with hq | hq
    · exact .inl hq
    · exact .inr (List.mem_singleton.1 hq)

theorem depthPairs_setItem_le {n : ℕ} (hitems : depthPairs items ≤ n) (k : String)
    (hv : depth v ≤ n) : depthPairs (setItem items k v) ≤ n := by
  refine depthPairs_le_iff.2 fun q hq ↦ ?_
  rcases mem_of_mem_setItem hq with hq | rfl
  · exact depthPairs_le_iff.1 hitems q hq
  · exact hv

/-- A key that is there keeps the keys, and a new one is the last. -/
theorem keys_setItem (items : List (String × Json)) (k : String) (v : Json) :
    (setItem items k v).map Prod.fst =
      if k ∈ items.map Prod.fst then items.map Prod.fst else items.map Prod.fst ++ [k] := by
  have hany : (items.any fun q ↦ decide (q.1 = k)) = true ↔ k ∈ items.map Prod.fst := by
    rw [List.any_eq_true, List.mem_map]
    simp only [decide_eq_true_eq]
  unfold setItem
  simp only [hany]
  split
  · rw [List.map_map]
    refine List.map_congr_left fun q _ ↦ ?_
    dsimp only [Function.comp]
    split
    · next hq => exact hq.symm
    · rfl
  · rw [List.map_append, List.map_singleton]

theorem nodup_setItem (h : (items.map Prod.fst).Nodup) (k : String) (v : Json) :
    ((setItem items k v).map Prod.fst).Nodup := by
  rw [keys_setItem]
  split
  · exact h
  · next hnew =>
    refine List.nodup_append.2 ⟨h, List.nodup_singleton k, fun k' hk' l hl ↦ ?_⟩
    rintro rfl
    exact hnew (List.mem_singleton.1 hl ▸ hk')

theorem lookup_cons_ne {k' : String} (h : k' ≠ k) (v : Json) (items : List (String × Json)) :
    List.lookup k' ((k, v) :: items) = items.lookup k' := by
  rw [List.lookup_cons, beq_eq_false_iff_ne.2 h]

/-- The item is set, and no other. -/
theorem lookup_setItem (items : List (String × Json)) (k : String) (v : Json) (k' : String) :
    (setItem items k v).lookup k' = if k' = k then some v else items.lookup k' := by
  have hmap (items : List (String × Json)) : k' ≠ k →
      (items.map fun q ↦ if q.1 = k then (k, v) else q).lookup k' = items.lookup k' := by
    intro hne
    induction items with
    | nil => rfl
    | cons q items ih =>
      rw [List.map_cons]
      split
      · next hq => rw [lookup_cons_ne hne, ih, ← Prod.mk.eta (p := q), hq, lookup_cons_ne hne]
      · rw [List.lookup_cons, List.lookup_cons, ih]
  have hset (items : List (String × Json)) : (items.any fun q ↦ q.1 = k) = true →
      (items.map fun q ↦ if q.1 = k then (k, v) else q).lookup k = some v := by
    intro hany
    induction items with
    | nil => cases hany
    | cons q items ih =>
      rw [List.map_cons]
      split
      · rw [List.lookup_cons_self]
      · next hq =>
        have hrest : (items.any fun q ↦ q.1 = k) = true := by
          simpa [hq] using hany
        rw [← Prod.mk.eta (p := q), lookup_cons_ne (Ne.symm hq), ih hrest]
  unfold setItem
  split
  · next hany =>
    split
    · next heq => rw [heq, hset items hany]
    · next hne => exact hmap items hne
  · next hany =>
    have hnew : items.lookup k = none := by
      rw [List.lookup_eq_none_iff]
      intro q hq
      simp only [List.any_eq_true, not_exists, not_and, decide_eq_true_eq] at hany
      simpa using Ne.symm (hany q hq)
    rw [List.lookup_append]
    split
    · next heq => rw [heq, hnew, List.lookup_cons_self, Option.none_or]
    · next hne => rw [lookup_cons_ne hne, List.lookup_nil, Option.or_none]

/-- What is kept is found as before. -/
theorem lookup_filter (items : List (String × Json)) (keep : String → Bool) (k : String) :
    (items.filter fun q ↦ keep q.1).lookup k = if keep k then items.lookup k else none := by
  induction items with
  | nil => simp
  | cons q items ih =>
    obtain ⟨k', v⟩ := q
    rw [List.filter_cons, List.lookup_cons]
    rcases eq_or_ne k k' with rfl | hne
    · by_cases hkeep : keep k = true
      · rw [if_pos hkeep, if_pos hkeep, List.lookup_cons_self, beq_self_eq_true]
      · rw [if_neg hkeep, ih, if_neg hkeep, if_neg hkeep]
    · rw [beq_eq_false_iff_ne.2 hne]
      split
      · rw [lookup_cons_ne hne, ih]
      · exact ih

/-- A dictionary has no key twice. -/
theorem nodup_dict (pairs : List (String × Json)) : ((dict pairs).map Prod.fst).Nodup := by
  have hfold : ∀ (ps acc : List (String × Json)), (acc.map Prod.fst).Nodup →
      ((ps.foldl (fun items p ↦ setItem items p.1 p.2) acc).map Prod.fst).Nodup := by
    intro ps
    induction ps with
    | nil => exact fun _ h ↦ h
    | cons p ps ih => exact fun acc h ↦ ih _ (nodup_setItem h p.1 p.2)
  exact hfold pairs [] List.nodup_nil

/-- Its items are among the pairs it was made of. -/
theorem dict_subset (pairs : List (String × Json)) : dict pairs ⊆ pairs := by
  have hfold : ∀ (ps acc : List (String × Json)), acc ⊆ pairs → ps ⊆ pairs →
      ps.foldl (fun items p ↦ setItem items p.1 p.2) acc ⊆ pairs := by
    intro ps
    induction ps with
    | nil => exact fun _ h _ ↦ h
    | cons p ps ih =>
      intro acc hacc hps
      obtain ⟨hp, hps⟩ := List.cons_subset.1 hps
      refine ih _ (fun q hq ↦ ?_) hps
      rcases mem_of_mem_setItem hq with hq | rfl
      · exact hacc hq
      · exact hp
  exact hfold pairs [] (List.nil_subset _) fun _ h ↦ h

end Dictionaries

/-! ### Loading -/

/-- `json.loads` with its hooks, and what it raises where the decoder does. -/
structure Loader (ε : Type) where
  recursionLimit : ℕ
  raises : DecodeError → ε
  parseNumber : String → Except ε String
  objectPairsHook : List (String × Json) → Except ε (List (String × Json))

namespace Loader

variable {ε : Type} (loader : Loader ε)

mutual
/-- The value that the hooks make of a text's. -/
def convert : Json → Except ε Json
  | .null => .ok .null
  | .bool b => .ok (.bool b)
  | .num literal => (loader.parseNumber literal).map .num
  | .str s => .ok (.str s)
  | .arr items => (convertItems items).map .arr
  | .obj pairs => (convertPairs pairs >>= loader.objectPairsHook).map .obj

/-- The items of an array. -/
def convertItems : List Json → Except ε (List Json)
  | [] => .ok []
  | v :: vs => do
    let w ← convert v
    let ws ← convertItems vs
    .ok (w :: ws)

/-- The values of an object. -/
def convertPairs : List (String × Json) → Except ε (List (String × Json))
  | [] => .ok []
  | (k, v) :: ps => do
    let w ← convert v
    let qs ← convertPairs ps
    .ok ((k, w) :: qs)
end

/-- `json.loads`. -/
def loads (text : String) : Except ε Json :=
  match decode loader.recursionLimit text with
  | .ok value => loader.convert value
  | .error e => .error (loader.raises e)

variable {loader}

theorem convertItems_eq_ok_iff {vs ws : List Json} :
    loader.convertItems vs = .ok ws ↔ List.Forall₂ (fun v w ↦ loader.convert v = .ok w) vs ws := by
  induction vs generalizing ws with
  | nil =>
    rw [convertItems, List.forall₂_nil_left_iff, Except.ok.injEq, eq_comm]
  | cons v vs ih =>
    rw [convertItems, Except.bind_eq_ok_iff, List.forall₂_cons_left_iff]
    simp only [Except.bind_eq_ok_iff, ih, Except.ok.injEq]
    constructor
    · rintro ⟨w, hw, ws, hws, rfl⟩
      exact ⟨w, ws, hw, hws, rfl⟩
    · rintro ⟨w, ws, hw, hws, rfl⟩
      exact ⟨w, hw, ws, hws, rfl⟩

theorem convertPairs_eq_ok_iff {ps qs : List (String × Json)} :
    loader.convertPairs ps = .ok qs ↔
      List.Forall₂ (fun p q ↦ q.1 = p.1 ∧ loader.convert p.2 = .ok q.2) ps qs := by
  induction ps generalizing qs with
  | nil =>
    rw [convertPairs, List.forall₂_nil_left_iff, Except.ok.injEq, eq_comm]
  | cons p ps ih =>
    obtain ⟨k, v⟩ := p
    rw [convertPairs, Except.bind_eq_ok_iff, List.forall₂_cons_left_iff]
    simp only [Except.bind_eq_ok_iff, ih, Except.ok.injEq]
    constructor
    · rintro ⟨w, hw, qs, hqs, rfl⟩
      exact ⟨(k, w), qs, ⟨rfl, hw⟩, hqs, rfl⟩
    · rintro ⟨⟨k', w⟩, qs, ⟨rfl, hw⟩, hqs, rfl⟩
      exact ⟨w, hw, qs, hqs, rfl⟩

/-- What stands on the right is related to something on the left. -/
theorem exists_left_of_forall₂ {α β : Type} {R : α → β → Prop} {as : List α} {bs : List β}
    (h : List.Forall₂ R as bs) {b : β} (hb : b ∈ bs) : ∃ a ∈ as, R a b := by
  induction h with
  | nil => cases hb
  | cons hab _ ih =>
    rcases List.mem_cons.1 hb with rfl | hb
    · exact ⟨_, List.mem_cons_self, hab⟩
    · obtain ⟨a, ha, hab⟩ := ih hb
      exact ⟨a, List.mem_cons_of_mem _ ha, hab⟩

theorem convert_arr_iff {vs : List Json} {w : Json} :
    loader.convert (.arr vs) = .ok w ↔
      ∃ ws, List.Forall₂ (fun v w ↦ loader.convert v = .ok w) vs ws ∧ .arr ws = w := by
  rw [convert, Except.map_eq_ok_iff]
  simp only [convertItems_eq_ok_iff]

theorem convert_obj_iff {ps : List (String × Json)} {w : Json} :
    loader.convert (.obj ps) = .ok w ↔
      ∃ qs rs, List.Forall₂ (fun p q ↦ q.1 = p.1 ∧ loader.convert p.2 = .ok q.2) ps qs ∧
        loader.objectPairsHook qs = .ok rs ∧ .obj rs = w := by
  rw [convert, Except.map_eq_ok_iff]
  simp only [Except.bind_eq_ok_iff, convertPairs_eq_ok_iff]
  constructor
  · rintro ⟨rs, ⟨qs, hqs, hrs⟩, rfl⟩
    exact ⟨qs, rs, hqs, hrs, rfl⟩
  · rintro ⟨qs, rs, hqs, hrs, rfl⟩
    exact ⟨rs, ⟨qs, hqs, hrs⟩, rfl⟩

/-- An object is loaded from an object. -/
theorem convert_eq_obj_iff {v : Json} {rs : List (String × Json)} :
    loader.convert v = .ok (.obj rs) ↔
      ∃ ps qs, v = .obj ps ∧
        List.Forall₂ (fun p q ↦ q.1 = p.1 ∧ loader.convert p.2 = .ok q.2) ps qs ∧
          loader.objectPairsHook qs = .ok rs := by
  constructor
  · intro h
    cases v with
    | null | bool | str => cases h
    | num literal =>
      obtain ⟨literal', -, heq⟩ := Except.map_eq_ok_iff.1 h
      cases heq
    | arr vs =>
      obtain ⟨ws, -, heq⟩ := convert_arr_iff.1 h
      cases heq
    | obj ps =>
      obtain ⟨qs, rs', hqs, hhook, heq⟩ := convert_obj_iff.1 h
      cases heq
      exact ⟨ps, qs, rfl, hqs, hhook⟩
  · rintro ⟨ps, qs, rfl, hqs, hhook⟩
    exact convert_obj_iff.2 ⟨qs, rs, hqs, hhook, rfl⟩

/-- The hooks take back what they gave, and the pairs of an object are among those of its text. -/
structure Idempotent (loader : Loader ε) : Prop where
  parseNumber {literal literal' : String} :
    loader.parseNumber literal = .ok literal' → loader.parseNumber literal' = .ok literal'
  objectPairsHook {ps qs : List (String × Json)} :
    loader.objectPairsHook ps = .ok qs → loader.objectPairsHook qs = .ok qs
  subset {ps qs : List (String × Json)} : loader.objectPairsHook ps = .ok qs → qs ⊆ ps

/-- What is loaded is loaded unchanged. -/
theorem convert_idem (hloader : loader.Idempotent) {v w : Json} (h : loader.convert v = .ok w) :
    loader.convert w = .ok w := by
  induction v using Json.induct generalizing w with
  | null | bool | str => cases h; rfl
  | num literal =>
    rw [convert, Except.map_eq_ok_iff] at h
    obtain ⟨literal', hnumber, rfl⟩ := h
    rw [convert, hloader.parseNumber hnumber]
    rfl
  | arr vs ih =>
    obtain ⟨ws, hws, rfl⟩ := convert_arr_iff.1 h
    refine convert_arr_iff.2 ⟨ws, List.forall₂_same.2 fun w hw ↦ ?_, rfl⟩
    obtain ⟨v, hv, hvw⟩ := exists_left_of_forall₂ hws hw
    exact ih v hv hvw
  | obj ps ih =>
    obtain ⟨qs, rs, hqs, hhook, rfl⟩ := convert_obj_iff.1 h
    refine convert_obj_iff.2 ⟨rs, rs, List.forall₂_same.2 fun r hr ↦ ⟨rfl, ?_⟩,
      hloader.objectPairsHook hhook, rfl⟩
    obtain ⟨p, hp, -, hpr⟩ := exists_left_of_forall₂ hqs (hloader.subset hhook hr)
    exact ih p hp hpr

/-- What a loader leaves alone it leaves alone in all its parts. -/
theorem convert_arr_self_iff {vs : List Json} :
    loader.convert (.arr vs) = .ok (.arr vs) ↔ ∀ v ∈ vs, loader.convert v = .ok v := by
  simp only [convert_arr_iff, Json.arr.injEq, exists_eq_right]
  exact List.forall₂_same

@[inherit_doc convert_arr_self_iff]
theorem convert_obj_self_iff (hloader : loader.Idempotent) {ps : List (String × Json)} :
    loader.convert (.obj ps) = .ok (.obj ps) ↔
      (∀ p ∈ ps, loader.convert p.2 = .ok p.2) ∧ loader.objectPairsHook ps = .ok ps := by
  rw [convert_eq_obj_iff]
  constructor
  · rintro ⟨ps', qs, heq, hqs, hhook⟩
    obtain rfl := Json.obj.inj heq
    refine ⟨fun p hp ↦ ?_, hloader.objectPairsHook hhook⟩
    obtain ⟨p', -, -, hconvert⟩ := exists_left_of_forall₂ hqs (hloader.subset hhook hp)
    exact convert_idem hloader hconvert
  · rintro ⟨hvalues, hhook⟩
    exact ⟨ps, ps, rfl, List.forall₂_same.2 fun p hp ↦ ⟨rfl, hvalues p hp⟩, hhook⟩

/-- What is loaded is nested no deeper than its text. -/
theorem depth_le (hloader : loader.Idempotent) {v w : Json} (h : loader.convert v = .ok w) :
    w.depth ≤ v.depth := by
  induction v using Json.induct generalizing w with
  | null | bool | str => cases h; exact le_rfl
  | num literal =>
    obtain ⟨literal', -, rfl⟩ := Except.map_eq_ok_iff.1 h
    exact le_rfl
  | arr vs ih =>
    obtain ⟨ws, hws, rfl⟩ := convert_arr_iff.1 h
    refine Nat.succ_le_succ (depthItems_le_iff.2 fun w hw ↦ ?_)
    obtain ⟨v, hv, hvw⟩ := exists_left_of_forall₂ hws hw
    exact (ih v hv hvw).trans (depthItems_le_iff.1 le_rfl v hv)
  | obj ps ih =>
    obtain ⟨qs, rs, hqs, hhook, rfl⟩ := convert_obj_iff.1 h
    refine Nat.succ_le_succ (depthPairs_le_iff.2 fun r hr ↦ ?_)
    obtain ⟨p, hp, -, hpr⟩ := exists_left_of_forall₂ hqs (hloader.subset hhook hr)
    exact (ih p hp hpr).trans (depthPairs_le_iff.1 le_rfl p hp)

/-- A text is loaded when it is a JSON text within the limit, and the hooks take its value. -/
theorem loads_eq_ok_iff {text : String} {w : Json} :
    loader.loads text = .ok w ↔
      ∃ v, JsonText v text ∧ v.depth ≤ loader.recursionLimit ∧ loader.convert v = .ok w := by
  unfold loads
  constructor
  · intro h
    split at h
    · next v hdecode =>
      obtain ⟨htext, hdepth⟩ := decode_eq_ok_iff.1 hdecode
      exact ⟨v, htext, hdepth, h⟩
    · cases h
  · rintro ⟨v, htext, hdepth, hconvert⟩
    rw [decode_eq_ok_iff.2 ⟨htext, hdepth⟩]
    exact hconvert

/-- Neither a number nor built from values: what no hook is called on. -/
def Plain : Json → Prop
  | .null | .bool _ | .str _ => True
  | .num _ | .arr _ | .obj _ => False

theorem Plain.depth_eq {v : Json} (h : Plain v) : v.depth = 0 := by
  cases v with
  | null | bool | str => rfl
  | num | arr | obj => exact h.elim

theorem Plain.uniqueKeys {v : Json} (h : Plain v) : v.uniqueKeys = true := by
  cases v with
  | null | bool | str => rfl
  | num | arr | obj => exact h.elim

theorem convert_eq_ok_iff_of_plain {v w : Json} (hw : Plain w) :
    loader.convert v = .ok w ↔ v = w := by
  cases v with
  | null | bool | str => rw [convert, Except.ok.injEq]
  | num literal =>
    refine ⟨fun h ↦ ?_, fun h ↦ (h ▸ hw :).elim⟩
    obtain ⟨literal', -, rfl⟩ := Except.map_eq_ok_iff.1 h
    exact hw.elim
  | arr vs =>
    refine ⟨fun h ↦ ?_, fun h ↦ (h ▸ hw :).elim⟩
    obtain ⟨ws, -, rfl⟩ := convert_arr_iff.1 h
    exact hw.elim
  | obj ps =>
    refine ⟨fun h ↦ ?_, fun h ↦ (h ▸ hw :).elim⟩
    obtain ⟨qs, rs, -, -, rfl⟩ := convert_obj_iff.1 h
    exact hw.elim

/-- Pairs of such values are loaded as they stand. -/
theorem forall₂_convert_iff_of_plain {ps qs : List (String × Json)}
    (hqs : ∀ q ∈ qs, Plain q.2) :
    List.Forall₂ (fun p q ↦ q.1 = p.1 ∧ loader.convert p.2 = .ok q.2) ps qs ↔ ps = qs := by
  constructor
  · intro h
    induction h with
    | nil => rfl
    | @cons p q ps qs hpq _ ih =>
      obtain ⟨hq, hqs⟩ := List.forall_mem_cons.1 hqs
      have hvalue := (convert_eq_ok_iff_of_plain hq).1 hpq.2
      rw [ih hqs, Prod.ext hpq.1.symm hvalue]
  · rintro rfl
    exact List.forall₂_same.2 fun p hp ↦ ⟨rfl, (convert_eq_ok_iff_of_plain (hqs p hp)).2 rfl⟩

end Loader

/-! ### Rendering -/

/-- Every number of a value is written as a number. -/
inductive Printable : Json → Prop
  | null : Printable .null
  | bool (b : Bool) : Printable (.bool b)
  | num {literal : String} : PlainText (.num literal) literal.toList → Printable (.num literal)
  | str (s : String) : Printable (.str s)
  | arr {items : List Json} : (∀ v ∈ items, Printable v) → Printable (.arr items)
  | obj {pairs : List (String × Json)} : (∀ p ∈ pairs, Printable p.2) → Printable (.obj pairs)

/-- Values whose numbers are those of a loader that writes them as numbers. -/
theorem Loader.printable {ε : Type} {loader : Loader ε} (hloader : loader.Idempotent)
    (hplain : ∀ {literal literal'}, loader.parseNumber literal = .ok literal' →
      PlainText (.num literal') literal'.toList) {v w : Json} (h : loader.convert v = .ok w) :
    Printable w := by
  induction v using Json.induct generalizing w with
  | null | bool | str => cases h; constructor
  | num literal =>
    obtain ⟨literal', hnumber, rfl⟩ := Except.map_eq_ok_iff.1 h
    exact .num (hplain hnumber)
  | arr vs ih =>
    obtain ⟨ws, hws, rfl⟩ := Loader.convert_arr_iff.1 h
    refine .arr fun w hw ↦ ?_
    obtain ⟨v, hv, hvw⟩ := exists_left_of_forall₂ hws hw
    exact ih v hv hvw
  | obj ps ih =>
    obtain ⟨qs, rs, hqs, hhook, rfl⟩ := Loader.convert_obj_iff.1 h
    refine .obj fun r hr ↦ ?_
    obtain ⟨p, hp, -, hpr⟩ := exists_left_of_forall₂ hqs (hloader.subset hhook hr)
    exact ih p hp hpr

/-- The texts a printer writes, whatever follows them. -/
def Prints (print : Json → List Char) (v : Json) : Prop :=
  ∀ rest, Parses (.value v) (print v ++ rest) rest

/-- The texts a printer writes for the keys of objects. -/
def PrintsKeys (printKey : String → List Char) : Prop :=
  ∀ k, ∃ body, StringBody k body ∧ printKey k = '"' :: (body ++ ['"'])

section Joined

variable {print : Json → List Char} {printKey : String → List Char}
  {before after before' after' : List Char} (hbefore : Blanks before) (hafter : Blanks after)

include hbefore hafter

/-- Printed items, joined by commas between blanks. -/
theorem parses_items (printItems : List Json → List Char) (hone : ∀ v, printItems [v] = print v)
    (hcons : ∀ v w vs, printItems (v :: w :: vs) =
      print v ++ (before ++ ',' :: after) ++ printItems (w :: vs))
    {bs : List Char} (hbs : Blanks bs) (rest : List Char) :
    ∀ {vs : List Json}, vs ≠ [] → (∀ v ∈ vs, Prints print v) →
      Parses (.items vs) (printItems vs ++ (bs ++ ']' :: rest)) rest
  | [], hne, _ => (hne rfl).elim
  | [v], _, h => by
    rw [hone]
    exact .itemsLast hbs (h v List.mem_cons_self _)
  | v :: w :: vs, _, h => by
    have hrest := parses_items printItems hone hcons hbs rest (List.cons_ne_nil w vs)
      fun u hu ↦ h u (List.mem_cons_of_mem v hu)
    rw [hcons]
    simp only [List.append_assoc, List.cons_append]
    exact .itemsCons hbefore hafter (h v List.mem_cons_self _) hrest

/-- Printed pairs, likewise, with a colon between blanks inside of each. -/
theorem parses_pairs (printPairs : List (String × Json) → List Char) (hbefore' : Blanks before')
    (hafter' : Blanks after') (hkey : PrintsKeys printKey)
    (hone : ∀ k v, printPairs [(k, v)] = printKey k ++ (before' ++ ':' :: after') ++ print v)
    (hcons : ∀ k v p ps, printPairs ((k, v) :: p :: ps) =
      printKey k ++ (before' ++ ':' :: after') ++ print v ++ (before ++ ',' :: after) ++
        printPairs (p :: ps))
    {bs : List Char} (hbs : Blanks bs) (rest : List Char) :
    ∀ {ps : List (String × Json)}, ps ≠ [] → (∀ p ∈ ps, Prints print p.2) →
      Parses (.pairs ps) (printPairs ps ++ (bs ++ closeBrace :: rest)) rest
  | [], hne, _ => (hne rfl).elim
  | [(k, v)], _, h => by
    obtain ⟨body, hbody, htext⟩ := hkey k
    rw [hone, htext]
    simp only [List.append_assoc, List.cons_append, List.nil_append]
    exact .pairsLast hbody hbefore' hafter' hbs (h (k, v) List.mem_cons_self _)
  | (k, v) :: p :: ps, _, h => by
    have hrest := parses_pairs printPairs hbefore' hafter' hkey hone hcons hbs rest
      (List.cons_ne_nil p ps) fun q hq ↦ h q (List.mem_cons_of_mem _ hq)
    obtain ⟨body, hbody, htext⟩ := hkey k
    rw [hcons, htext]
    simp only [List.append_assoc, List.cons_append, List.nil_append]
    exact .pairsCons hbody hbefore' hafter' hbefore hafter (h (k, v) List.mem_cons_self _) hrest

end Joined

/-! ### `json.dumps` with separators -/

theorem printsKeys_dumpsStr : PrintsKeys dumpsStr := by
  intro k
  obtain ⟨body, hbody, htext⟩ := scanString_eq_some_iff.1 (scanString_dumps k [])
  exact ⟨body, hbody, congrArg ('"' :: ·) htext⟩

theorem parses_null (rest : List Char) : Parses (.value .null) ("null".toList ++ rest) rest :=
  .plain rest (.inl List.mem_cons_self)

theorem parses_bool (b : Bool) (rest : List Char) :
    Parses (.value (.bool b)) ((if b then "true" else "false").toList ++ rest) rest := by
  refine .plain rest (.inl ?_)
  cases b with
  | false => exact List.mem_cons_of_mem _ (List.mem_cons_of_mem _ List.mem_cons_self)
  | true => exact List.mem_cons_of_mem _ List.mem_cons_self

theorem prints_render {sep : Separators} (hsep : sep.Blank) {v : Json} (h : Printable v) :
    Prints (render sep) v := by
  obtain ⟨⟨item, hitem, hitemBlanks⟩, pair, hpair, hpairBlanks⟩ := hsep
  induction h with
  | null => exact parses_null
  | bool b => exact parses_bool b
  | num h => exact fun rest ↦ .plain rest h
  | str s =>
    intro rest
    obtain ⟨body, hbody, htext⟩ := printsKeys_dumpsStr s
    rw [render, htext, List.cons_append, List.append_assoc]
    exact .str rest hbody
  | @arr vs _ ih =>
    intro rest
    rcases eq_or_ne vs [] with rfl | hne
    · exact .arrNil rest blanks_nil
    · have hitems := parses_items blanks_nil hitemBlanks (renderItems sep)
        (fun v ↦ by rw [renderItems]) (fun v w vs ↦ by rw [renderItems, hitem]; rfl) blanks_nil
        rest hne ih
      rw [render, List.cons_append, List.append_assoc]
      exact @Parses.arr [] _ rest vs blanks_nil hitems
  | @obj ps _ ih =>
    intro rest
    rcases eq_or_ne ps [] with rfl | hne
    · exact .objNil rest blanks_nil
    · have hpairs := parses_pairs blanks_nil hitemBlanks (renderPairs sep) blanks_nil hpairBlanks
        printsKeys_dumpsStr (fun k v ↦ by rw [renderPairs, hpair]; rfl)
        (fun k v p ps ↦ by rw [renderPairs, hitem, hpair]; rfl) blanks_nil rest hne ih
      rw [render, List.cons_append, List.append_assoc]
      exact @Parses.obj [] _ rest ps blanks_nil hpairs

/-- **A rendered value is a text of the grammar.** -/
theorem jsonText_dumps {sep : Separators} (hsep : sep.Blank) {v : Json} (h : Printable v) :
    JsonText v (dumps sep v) := by
  refine ⟨[], render sep v, [], blanks_nil, blanks_nil, String.toList_ofList, ?_⟩
  have hparses := prints_render hsep h []
  rwa [List.append_nil] at hparses

theorem printable_of_numberFree {v : Json} (h : numberFree v = true) : Printable v := by
  induction v using Json.induct with
  | null | bool | str => constructor
  | num => cases h
  | arr vs ih =>
    rw [numberFree, numberFreeItems_eq_all, List.all_eq_true] at h
    exact .arr fun v hv ↦ ih v hv (h v hv)
  | obj ps ih =>
    rw [numberFree, numberFreePairs_eq_all, List.all_eq_true] at h
    exact .obj fun p hp ↦ ih p hp (h p hp)

/-! ### `json.dumps` with an indent -/

/-- One character without `ensure_ascii`: the short escapes, and the controls. -/
def escapeControl (c : Char) : List Char :=
  if c = '"' then ['\\', '"']
  else if c = '\\' then ['\\', '\\']
  else if c = '\n' then ['\\', 'n']
  else if c = '\r' then ['\\', 'r']
  else if c = '\t' then ['\\', 't']
  else if c.toNat = 0x0C then ['\\', 'f']
  else if c.toNat = 0x08 then ['\\', 'b']
  else if c.toNat < 0x20 then escapeUnit c.toNat
  else [c]

/-- A string with its quotes, without `ensure_ascii`. -/
def dumpsText (s : String) : List Char :=
  '"' :: (s.toList.flatMap escapeControl ++ ['"'])

/-- A line break, and the indent of a level. -/
def newline (indent level : ℕ) : List Char :=
  '\n' :: List.replicate (indent * level) ' '

mutual
/-- `json.dumps` with `indent` and without `ensure_ascii`, at a level of the nesting. -/
def renderIndent (indent level : ℕ) : Json → List Char
  | .null => "null".toList
  | .bool b => (if b then "true" else "false").toList
  | .num literal => literal.toList
  | .str s => dumpsText s
  | .arr [] => ['[', ']']
  | .arr (v :: vs) =>
    '[' :: (newline indent (level + 1) ++ renderIndentItems indent (level + 1) (v :: vs) ++
      newline indent level ++ [']'])
  | .obj [] => [openBrace, closeBrace]
  | .obj (p :: ps) =>
    openBrace :: (newline indent (level + 1) ++ renderIndentPairs indent (level + 1) (p :: ps) ++
      newline indent level ++ [closeBrace])

/-- The items of an array, each on its lines. -/
def renderIndentItems (indent level : ℕ) : List Json → List Char
  | [] => []
  | [v] => renderIndent indent level v
  | v :: w :: vs =>
    renderIndent indent level v ++ ',' :: newline indent level ++
      renderIndentItems indent level (w :: vs)

/-- The pairs of an object, each on its lines. -/
def renderIndentPairs (indent level : ℕ) : List (String × Json) → List Char
  | [] => []
  | [(k, v)] => dumpsText k ++ [':', ' '] ++ renderIndent indent level v
  | (k, v) :: p :: ps =>
    dumpsText k ++ [':', ' '] ++ renderIndent indent level v ++ ',' :: newline indent level ++
      renderIndentPairs indent level (p :: ps)
end

/-- `json.dumps(value, ensure_ascii=False, indent=…)`. -/
def dumpsIndent (indent : ℕ) (value : Json) : String :=
  String.ofList (renderIndent indent 0 value)

theorem stringUnits_escapeControl (c : Char) {us : List ℕ} {cs : List Char}
    (h : StringUnits us cs) : StringUnits (c.toNat :: us) (escapeControl c ++ cs) := by
  unfold escapeControl
  split_ifs with h₁ h₂ h₃ h₄ h₅ h₆ h₇ h₈
  · subst h₁; exact .escape (by decide) h
  · subst h₂; exact .escape (by decide) h
  · subst h₃; exact .escape (by decide) h
  · subst h₄; exact .escape (by decide) h
  · subst h₅; exact .escape (by decide) h
  · exact .escape (by rw [h₆]; decide) h
  · exact .escape (by rw [h₇]; decide) h
  · exact .hex (hexUnit?_digitChar (by omega)) h
  · exact .char (not_lt.1 h₈) h₁ h₂ h

theorem printsKeys_dumpsText : PrintsKeys dumpsText := by
  intro k
  refine ⟨_, ⟨k.toList.map Char.toNat, ?_, ?_⟩, rfl⟩
  · induction k.toList with
    | nil => exact .nil
    | cons c cs ih => exact stringUnits_escapeControl c ih
  · induction k.toList with
    | nil => rfl
    | cons c cs ih =>
      rw [List.map_cons, joinUnits_of_not_high (isHigh_toNat c), char?_toNat, ih]
      rfl

theorem blanks_newline (indent level : ℕ) : Blanks (newline indent level) := by
  intro c hc
  rcases List.mem_cons.1 hc with rfl | hc
  · rfl
  · rw [List.eq_of_mem_replicate hc]
    rfl

theorem prints_renderIndent (indent : ℕ) {v : Json} (h : Printable v) (level : ℕ) :
    Prints (renderIndent indent level) v := by
  induction h generalizing level with
  | null => exact parses_null
  | bool b => exact parses_bool b
  | num h => exact fun rest ↦ .plain rest h
  | str s =>
    intro rest
    obtain ⟨body, hbody, htext⟩ := printsKeys_dumpsText s
    rw [renderIndent, htext, List.cons_append, List.append_assoc]
    exact .str rest hbody
  | @arr vs _ ih =>
    intro rest
    cases vs with
    | nil => exact .arrNil rest blanks_nil
    | cons v vs =>
      have hitems := parses_items blanks_nil (blanks_newline indent (level + 1))
        (renderIndentItems indent (level + 1)) (fun v ↦ by rw [renderIndentItems])
        (fun v w vs ↦ by rw [renderIndentItems]; rfl)
        (blanks_newline indent level) rest (List.cons_ne_nil v vs) fun v hv ↦ ih v hv (level + 1)
      rw [renderIndent]
      simp only [List.append_assoc, List.cons_append, List.nil_append]
      exact .arr (blanks_newline indent (level + 1)) hitems
  | @obj ps _ ih =>
    intro rest
    cases ps with
    | nil => exact .objNil rest blanks_nil
    | cons p ps =>
      have hblank : Blanks [' '] := List.forall_mem_singleton.2 rfl
      have hpairs := parses_pairs blanks_nil (blanks_newline indent (level + 1))
        (renderIndentPairs indent (level + 1)) blanks_nil hblank printsKeys_dumpsText
        (fun k v ↦ by rw [renderIndentPairs]; rfl)
        (fun k v p ps ↦ by rw [renderIndentPairs]; rfl)
        (blanks_newline indent level) rest (List.cons_ne_nil p ps) fun p hp ↦ ih p hp (level + 1)
      rw [renderIndent]
      simp only [List.append_assoc, List.cons_append, List.nil_append]
      exact .obj (blanks_newline indent (level + 1)) hpairs

/-- **A value rendered with an indent is a text of the grammar**, also before blanks. -/
theorem jsonText_dumpsIndent (indent : ℕ) {v : Json} (h : Printable v) {after : String}
    (hafter : Blanks after.toList) : JsonText v (dumpsIndent indent v ++ after) := by
  refine ⟨[], renderIndent indent 0 v ++ after.toList, after.toList, blanks_nil, hafter, ?_,
    prints_renderIndent indent h 0 _⟩
  rw [String.toList_append, dumpsIndent, String.toList_ofList, List.nil_append]

end Python.Json
