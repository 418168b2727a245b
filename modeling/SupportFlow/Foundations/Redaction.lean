import SupportFlow.Foundations.Python

/-!
# Redaction of JSON values

A predicate on keys says which members of objects are confidential. `redact p x` puts `x` in their
place, at every depth; two values that are redacted alike differ in confidential members only
(`SameBut`). A value without such a key is what its redaction leaves of it, and the only one that is
(`eq_of_sameBut`); one with such a key has another that differs from it in confidential members only
(`exists_sameBut_ne`).

A position in a value is a path of keys and indices. Redaction commutes with reading at a path that
goes through no confidential member (`valueAt_redact`).
-/

namespace Python.Json

variable (p : String → Bool) (x : Json)

mutual
/-- The value with another in the place of every confidential member. -/
def redact : Json → Json
  | .arr items => .arr (redactItems items)
  | .obj items => .obj (redactPairs items)
  | v => v

/-- The items of an array. -/
def redactItems : List Json → List Json
  | [] => []
  | v :: vs => redact v :: redactItems vs

/-- The members of an object. -/
def redactPairs : List (String × Json) → List (String × Json)
  | [] => []
  | (k, v) :: ps => (k, if p k then x else redact v) :: redactPairs ps
end

mutual
/-- Some object of the value, at any depth, has a confidential member. -/
def hasKey : Json → Bool
  | .null | .bool _ | .num _ | .str _ => false
  | .arr items => hasKeyItems items
  | .obj items => hasKeyPairs items

/-- The items of an array. -/
def hasKeyItems : List Json → Bool
  | [] => false
  | v :: vs => hasKey v || hasKeyItems vs

/-- The members of an object. -/
def hasKeyPairs : List (String × Json) → Bool
  | [] => false
  | (k, v) :: ps => p k || hasKey v || hasKeyPairs ps
end

/-! ### Redaction and confidential members -/

variable {p} {x}

-- Each fact is by recursion on the value, with its two companions for items and members.

mutual
/-- There is nothing to redact in a value without a confidential member. -/
theorem redact_eq_self : ∀ {v : Json}, hasKey p v = false → redact p x v = v
  | .null, _ | .bool _, _ | .num _, _ | .str _, _ => by simp only [redact]
  | .arr items, h => by
    rw [redact, redactItems_eq_self (by simpa only [hasKey] using h)]
  | .obj items, h => by
    rw [redact, redactPairs_eq_self (by simpa only [hasKey] using h)]

theorem redactItems_eq_self :
    ∀ {items : List Json}, hasKeyItems p items = false → redactItems p x items = items
  | [], _ => by rw [redactItems]
  | v :: vs, h => by
    rw [hasKeyItems, Bool.or_eq_false_iff] at h
    rw [redactItems, redact_eq_self h.1, redactItems_eq_self h.2]

theorem redactPairs_eq_self :
    ∀ {items : List (String × Json)}, hasKeyPairs p items = false → redactPairs p x items = items
  | [], _ => by rw [redactPairs]
  | (k, v) :: ps, h => by
    rw [hasKeyPairs, Bool.or_eq_false_iff, Bool.or_eq_false_iff] at h
    rw [redactPairs, h.1.1, if_neg (by decide), redact_eq_self h.1.2, redactPairs_eq_self h.2]
end

mutual
/-- Redaction keeps the keys. -/
@[simp]
theorem hasKey_redact : ∀ v : Json, hasKey p (redact p x v) = hasKey p v
  | .null | .bool _ | .num _ | .str _ => by simp only [redact]
  | .arr items => by rw [redact, hasKey, hasKey, hasKeyItems_redactItems]
  | .obj items => by rw [redact, hasKey, hasKey, hasKeyPairs_redactPairs]

theorem hasKeyItems_redactItems :
    ∀ items : List Json, hasKeyItems p (redactItems p x items) = hasKeyItems p items
  | [] => by rw [redactItems]
  | v :: vs => by
    rw [redactItems, hasKeyItems, hasKeyItems, hasKey_redact, hasKeyItems_redactItems]

theorem hasKeyPairs_redactPairs :
    ∀ items : List (String × Json), hasKeyPairs p (redactPairs p x items) = hasKeyPairs p items
  | [] => by rw [redactPairs]
  | (k, v) :: ps => by
    rw [redactPairs, hasKeyPairs, hasKeyPairs, hasKeyPairs_redactPairs]
    cases hk : p k with
    | true => rfl
    | false => rw [if_neg (by decide), hasKey_redact]
end

mutual
/-- A second redaction undoes the first. -/
@[simp]
theorem redact_redact {y : Json} : ∀ v : Json, redact p x (redact p y v) = redact p x v
  | .null | .bool _ | .num _ | .str _ => by simp only [redact]
  | .arr items => by rw [redact, redact, redactItems_redactItems, redact]
  | .obj items => by rw [redact, redact, redactPairs_redactPairs, redact]

theorem redactItems_redactItems {y : Json} :
    ∀ items : List Json, redactItems p x (redactItems p y items) = redactItems p x items
  | [] => by rw [redactItems]
  | v :: vs => by
    rw [redactItems, redactItems, redact_redact, redactItems_redactItems, redactItems]

theorem redactPairs_redactPairs {y : Json} : ∀ items : List (String × Json),
    redactPairs p x (redactPairs p y items) = redactPairs p x items
  | [] => by rw [redactPairs]
  | (k, v) :: ps => by
    rw [redactPairs, redactPairs, redactPairs_redactPairs, redactPairs]
    cases p k with
    | true => rfl
    | false =>
      simp only [Bool.false_eq_true, if_false]
      rw [redact_redact]
end

mutual
/-- What stands in the place of a confidential member can be read off the redacted value. -/
theorem eq_of_redact_eq {y : Json} :
    ∀ {v : Json}, hasKey p v = true → redact p x v = redact p y v → x = y
  | .arr items, hkey, h => by
    rw [hasKey] at hkey
    rw [redact, redact] at h
    exact eq_of_redactItems_eq hkey (Json.arr.inj h)
  | .obj items, hkey, h => by
    rw [hasKey] at hkey
    rw [redact, redact] at h
    exact eq_of_redactPairs_eq hkey (Json.obj.inj h)

theorem eq_of_redactItems_eq {y : Json} : ∀ {items : List Json}, hasKeyItems p items = true →
    redactItems p x items = redactItems p y items → x = y
  | v :: vs, hkey, h => by
    rw [hasKeyItems, Bool.or_eq_true] at hkey
    rw [redactItems, redactItems] at h
    obtain ⟨hhead, htail⟩ := List.cons.inj h
    rcases hkey with hv | hvs
    · exact eq_of_redact_eq hv hhead
    · exact eq_of_redactItems_eq hvs htail

theorem eq_of_redactPairs_eq {y : Json} : ∀ {items : List (String × Json)},
    hasKeyPairs p items = true → redactPairs p x items = redactPairs p y items → x = y
  | (k, v) :: ps, hkey, h => by
    rw [hasKeyPairs, Bool.or_eq_true, Bool.or_eq_true] at hkey
    rw [redactPairs, redactPairs] at h
    obtain ⟨hhead, htail⟩ := List.cons.inj h
    have hvalue := (Prod.mk.inj hhead).2
    cases hk : p k with
    | true => rwa [if_pos hk, if_pos hk] at hvalue
    | false =>
      rw [if_neg (by simp [hk]), if_neg (by simp [hk])] at hvalue
      rcases hkey with (hk' | hv) | hps
      · exact absurd hk' (by simp [hk])
      · exact eq_of_redact_eq hv hvalue
      · exact eq_of_redactPairs_eq hps htail
end

/-! ### Values that differ in confidential members only -/

variable (p) in
/-- Two values that differ in confidential members only: they are redacted alike. -/
def SameBut (v w : Json) : Prop :=
  redact p .null v = redact p .null w

theorem sameBut_redact (v : Json) : SameBut p v (redact p x v) :=
  (redact_redact v).symm

/-- A value without confidential members is determined by the rest. -/
theorem eq_of_sameBut {v w : Json} (h : SameBut p v w) (hkey : hasKey p v = false) : w = v := by
  have hkey' : hasKey p w = false := by
    rw [← hasKey_redact, ← h, hasKey_redact, hkey]
  calc w = redact p .null w := (redact_eq_self hkey').symm
    _ = redact p .null v := h.symm
    _ = v := redact_eq_self hkey

/-! ### Positions -/

/-- A step into a value: a member of an object, or an item of an array. -/
inductive PathPart
  | key (name : String)
  | index (i : ℕ)
deriving DecidableEq

/-- One step into a value, if there is something there. -/
def child : PathPart → Json → Option Json
  | .key name, .obj items => items.lookup name
  | .index i, .arr items => items[i]?
  | _, _ => none

/-- What stands at a position of a value. -/
def valueAt : List PathPart → Json → Option Json
  | [], v => some v
  | part :: path, v => (child part v).bind (valueAt path)

variable (p) in
/-- A step into a confidential member. -/
def PathPart.confidential : PathPart → Bool
  | .key name => p name
  | .index _ => false

theorem redactItems_eq_map (items : List Json) :
    redactItems p x items = items.map (redact p x) := by
  induction items with
  | nil => rw [redactItems, List.map_nil]
  | cons v vs ih => rw [redactItems, ih, List.map_cons]

theorem lookup_redactPairs {name : String} (hname : p name = false)
    (items : List (String × Json)) :
    (redactPairs p x items).lookup name = (items.lookup name).map (redact p x) := by
  induction items with
  | nil =>
    rw [redactPairs]
    rfl
  | cons q ps ih =>
    obtain ⟨k, v⟩ := q
    rw [redactPairs, List.lookup_cons, List.lookup_cons]
    cases hk : name == k with
    | true =>
      rw [← beq_iff_eq.1 hk, hname]
      rfl
    | false => exact ih

theorem child_redact {part : PathPart} (hpart : part.confidential p = false) (v : Json) :
    child part (redact p x v) = (child part v).map (redact p x) := by
  cases part with
  | key name =>
    cases v <;> simp only [redact, child, Option.map_none]
    exact lookup_redactPairs hpart _
  | index i =>
    cases v <;> simp only [redact, child, Option.map_none]
    rw [redactItems_eq_map, List.getElem?_map]

/-- **Redaction commutes with reading** at a path that goes through no confidential member. -/
theorem valueAt_redact {path : List PathPart}
    (hpath : ∀ part ∈ path, part.confidential p = false) (v : Json) :
    valueAt path (redact p x v) = (valueAt path v).map (redact p x) := by
  induction path generalizing v with
  | nil => rfl
  | cons part path ih =>
    rw [valueAt, valueAt, child_redact (hpath part List.mem_cons_self)]
    cases child part v with
    | none => rfl
    | some w => exact ih (fun q hq ↦ hpath q (List.mem_cons_of_mem part hq)) w

/-- What stands at a position of a value, or null. -/
def valueAtD (path : List PathPart) (v : Json) : Json :=
  (valueAt path v).getD .null

theorem valueAtD_redact {path : List PathPart}
    (hpath : ∀ part ∈ path, part.confidential p = false) (v : Json) :
    valueAtD path (redact p x v) = redact p x (valueAtD path v) := by
  rw [valueAtD, valueAtD, valueAt_redact hpath]
  cases valueAt path v with
  | none => simp only [Option.map_none, Option.getD_none, redact]
  | some w => rfl

/-- Two values that differ in confidential members only have, at such a path, values that do. -/
theorem SameBut.valueAtD {v w : Json} (h : SameBut p v w) {path : List PathPart}
    (hpath : ∀ part ∈ path, part.confidential p = false) :
    SameBut p (valueAtD path v) (valueAtD path w) := by
  rw [SameBut, ← valueAtD_redact hpath, ← valueAtD_redact hpath, h]

/-- **A value with a confidential member at a path has another that differs there**, and differs in
confidential members only. -/
theorem exists_sameBut_ne {v : Json} {path : List PathPart}
    (hpath : ∀ part ∈ path, part.confidential p = false)
    (hkey : hasKey p (valueAtD path v) = true) :
    ∃ w, SameBut p v w ∧ valueAtD path w ≠ valueAtD path v := by
  -- Two redactions of the value differ at the path, so one of them differs from the value there.
  by_cases hnull : redact p .null (valueAtD path v) = valueAtD path v
  · refine ⟨redact p (.bool true) v, sameBut_redact v, fun heq ↦ ?_⟩
    rw [valueAtD_redact hpath] at heq
    exact Json.noConfusion (eq_of_redact_eq hkey (hnull.trans heq.symm))
  · refine ⟨redact p .null v, sameBut_redact v, fun heq ↦ hnull ?_⟩
    rw [valueAtD_redact hpath] at heq
    exact heq

end Python.Json
