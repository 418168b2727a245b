import Mathlib.Data.Option.Basic
import SupportFlow.Foundations.Strip

/-!
# Three-valued logic, and texts in columns

SQL's truth values, for conditions over nullable columns. A column is an `Option`, and a comparison
with a null is neither true nor false; `AND` and `OR` are Kleene's. A CHECK constraint rejects a row
only when it evaluates to false (`Passes`), so a condition that comes out unknown lets the row in.

`and_eq_true` and `or_eq_true` are the rules by which a condition is shown true; they split it along
its connectives, down to the comparisons.

A text column stores no NUL, and one of limited length drops spaces past its limit and rejects
anything else there (`text`, `varchar`).
-/

namespace Sql

universe u

/-- A truth value; `none` is unknown. -/
abbrev Truth :=
  Option Bool

/-- A CHECK constraint with this value lets its row in. -/
def Passes (p : Truth) : Prop :=
  p ≠ some false

/-- `AND`. -/
def and : Truth → Truth → Truth
  | some true, q => q
  | some false, _ => some false
  | none, some false => some false
  | none, _ => none

/-- `OR`. -/
def or : Truth → Truth → Truth
  | some false, q => q
  | some true, _ => some true
  | none, some true => some true
  | none, _ => none

/-- `IS NULL`. -/
def isNull {α : Type u} (a : Option α) : Truth :=
  some a.isNone

/-- `IS NOT NULL`. -/
def isNotNull {α : Type u} (a : Option α) : Truth :=
  some a.isSome

section Compare

variable {α : Type u} [DecidableEq α]

/-- `a = x`. -/
def eq (a : Option α) (x : α) : Truth :=
  a.map fun a ↦ decide (a = x)

/-- `a <> x`. -/
def ne (a : Option α) (x : α) : Truth :=
  a.map fun a ↦ decide (a ≠ x)

/-- `a IN (…)`. -/
def isIn (a : Option α) (xs : List α) : Truth :=
  a.map fun a ↦ decide (a ∈ xs)

end Compare

/-- `a >= x`. -/
def ge {α : Type u} [LE α] [DecidableLE α] (a : Option α) (x : α) : Truth :=
  a.map fun a ↦ decide (x ≤ a)

/-! ### What is true -/

theorem passes_of_true {p : Truth} (h : p = some true) : Passes p := by
  rw [h]
  exact fun hfalse ↦ nomatch hfalse

variable {p q : Truth}

theorem and_eq_true : and p q = some true ↔ p = some true ∧ q = some true := by
  rcases p with - | (_ | _) <;> rcases q with - | (_ | _) <;> simp [and]

theorem or_eq_true : or p q = some true ↔ p = some true ∨ q = some true := by
  rcases p with - | (_ | _) <;> rcases q with - | (_ | _) <;> simp [or]

variable {α : Type u}

theorem isNull_eq_true {a : Option α} : isNull a = some true ↔ a = none := by
  simp [isNull]

theorem isNotNull_eq_true {a : Option α} : isNotNull a = some true ↔ a.isSome := by
  simp [isNotNull]

theorem eq_eq_true [DecidableEq α] {a : Option α} {x : α} : eq a x = some true ↔ a = some x := by
  cases a <;> simp [eq]

theorem ne_eq_true [DecidableEq α] {a : Option α} {x : α} :
    ne a x = some true ↔ ∃ y, a = some y ∧ y ≠ x := by
  cases a <;> simp [ne]

theorem isIn_eq_true [DecidableEq α] {a : Option α} {xs : List α} :
    isIn a xs = some true ↔ ∃ y, a = some y ∧ y ∈ xs := by
  cases a <;> simp [isIn]

theorem ge_eq_true [LE α] [DecidableLE α] {a : Option α} {x : α} :
    ge a x = some true ↔ ∃ y, a = some y ∧ x ≤ y := by
  cases a <;> simp [ge]

/-! ### Texts -/

/-- `trim(s)`: only spaces are trimmed. -/
def trim (s : String) : String :=
  String.ofList ((s.toList.dropWhile (· = ' ')).rdropWhile (· = ' '))

/-- `s = trim(s) AND s <> ''`. -/
def Trimmed (s : String) : Prop :=
  s = trim s ∧ s ≠ ""

instance (s : String) : Decidable (Trimmed s) :=
  inferInstanceAs (Decidable (_ ∧ _))

/-- Nothing is trimmed of a text without spaces at its ends. -/
theorem trim_eq_self_of_endsFree {s : String} (h : s.toList.EndsFree (· = ' ')) : trim s = s := by
  rw [trim, List.strip_eq_self_iff.2 h, String.ofList_toList]

theorem trim_eq_self {s : String} (h : ' ' ∉ s.toList) : trim s = s :=
  trim_eq_self_of_endsFree (List.endsFree_of_forall fun _ hc ↦
    decide_eq_false fun hspace ↦ h (hspace ▸ hc))

/-- What a `TEXT` column stores; `none` is an error. -/
def text (s : String) : Option String :=
  if Char.ofNat 0 ∈ s.toList then none else some s

/-- What a `VARCHAR(limit)` column stores. -/
def varchar (limit : ℕ) (s : String) : Option String :=
  if (s.toList.drop limit).all (· = ' ') then text (String.ofList (s.toList.take limit)) else none

end Sql
