import Mathlib.Data.Fin.Basic
import Mathlib.Data.Nat.Digits.Defs
import SupportFlow.Foundations.Python
import SupportFlow.Foundations.Table

/-!
# Identifiers, time and the identity tables

`UUID` is the 128-bit integer behind a `uuid.UUID`, ordered as PostgreSQL and `UUID.int` order it.
An `Instant` is an aware timestamp, as microseconds since the epoch: the resolution of both Python's
`datetime` and PostgreSQL's `timestamptz`, so that comparing two instants is comparing two integers.

The identity tables are the three that every access check joins: organizations, users and
memberships. A membership has the composite primary key `(organization_id, user_id)`.
-/

namespace SupportFlow

/-- A `uuid.UUID`, as its 128-bit integer. -/
abbrev UUID := Fin (2 ^ 128)

/-- `uuid.UUID(int=n)`. -/
def uuid (n : ℕ) : UUID :=
  ⟨n % 2 ^ 128, Nat.mod_lt n (by decide)⟩

/-- An aware timestamp, in microseconds since the epoch. -/
abbrev Instant := ℤ

/-- `timedelta(seconds=n)`. -/
def seconds (n : ℤ) : ℤ :=
  n * 1000000

/-- `timedelta(days=n)`. -/
def days (n : ℤ) : ℤ :=
  seconds (n * 86400)

/-- The lower-case hexadecimal digit of a number below sixteen. -/
def hexDigit (n : ℕ) : Char :=
  Nat.digitChar (n % 16)

/-- One group of digits in the text of a UUID. -/
def UUID.digits (u : UUID) (start len : ℕ) : List Char :=
  (List.range' start len).map fun k ↦ hexDigit (u.val / 16 ^ (31 - k))

/-- `str(uuid)`: thirty-two hexadecimal digits in groups of 8, 4, 4, 4 and 12. -/
def UUID.str (u : UUID) : String :=
  String.ofList <| List.intercalate ['-']
    [u.digits 0 8, u.digits 8 4, u.digits 12 4, u.digits 16 4, u.digits 20 12]

theorem isSpace_hexDigit (n : ℕ) : Python.isSpace (hexDigit n) = false := by
  have h : ∀ k < 16, Python.isSpace (Nat.digitChar k) = false := by decide
  exact h _ (Nat.mod_lt n (by decide))

theorem UUID.length_digits (u : UUID) (start len : ℕ) : (u.digits start len).length = len := by
  rw [digits, List.length_map, List.length_range']

theorem UUID.isSpace_digits (u : UUID) {start len : ℕ} {c : Char} (hc : c ∈ u.digits start len) :
    Python.isSpace c = false := by
  obtain ⟨k, -, rfl⟩ := List.mem_map.1 hc
  exact isSpace_hexDigit _

@[simp]
theorem UUID.length_str (u : UUID) : u.str.length = 36 := by
  rw [← String.length_toList, UUID.str, String.toList_ofList, List.intercalate]
  simp only [List.intersperse, List.flatten_cons, List.flatten_nil, List.length_append,
    UUID.length_digits, List.length_cons, List.length_nil]

/-- The text of a UUID has nothing to strip. -/
@[simp]
theorem UUID.strip_str (u : UUID) : Python.strip u.str = u.str := by
  refine Python.strip_eq_self fun c hc ↦ ?_
  rw [UUID.str, String.toList_ofList] at hc
  obtain ⟨group, hgroup, hc⟩ := List.mem_flatten.1 hc
  simp only [List.intersperse, List.mem_cons, List.not_mem_nil, or_false] at hgroup
  have hdash : Python.isSpace '-' = false := by decide
  rcases hgroup with rfl | rfl | rfl | rfl | rfl | rfl | rfl | rfl | rfl
  all_goals first
    | exact u.isSpace_digits hc
    | exact List.mem_singleton.1 hc ▸ hdash

inductive OrganizationStatus
  | active
  | suspended
  deriving DecidableEq, Repr

inductive UserStatus
  | active
  | disabled
  deriving DecidableEq, Repr

inductive MembershipRole
  | admin
  | agent
  deriving DecidableEq, Repr

/-- The stored value of a role. -/
def MembershipRole.value : MembershipRole → String
  | .admin => "admin"
  | .agent => "agent"

inductive MembershipStatus
  | active
  | inactive
  deriving DecidableEq, Repr

/-- A row of `organizations`. -/
structure Organization where
  id : UUID
  status : OrganizationStatus
  deriving DecidableEq, Repr

/-- A row of `users`. -/
structure User where
  id : UUID
  email : String
  status : UserStatus
  deriving DecidableEq, Repr

/-- A row of `organization_members`. -/
structure OrganizationMember where
  organizationId : UUID
  userId : UUID
  role : MembershipRole
  status : MembershipStatus
  deriving DecidableEq, Repr

instance : PrimaryKey Organization UUID :=
  ⟨Organization.id⟩

instance : PrimaryKey User UUID :=
  ⟨User.id⟩

instance : PrimaryKey OrganizationMember (UUID × UUID) :=
  ⟨fun m ↦ (m.organizationId, m.userId)⟩

/-- The three tables an access check joins. -/
structure IdentityTables where
  organizations : Table Organization
  users : Table User
  members : Table OrganizationMember

namespace IdentityTables

/-- The join of every access check: the membership of a user in an organization, when the
membership has one of the given roles and the membership, the user and the organization are all
active. -/
def activeMember (tables : IdentityTables) (organizationId userId : UUID)
    (roles : List MembershipRole) : Option OrganizationMember :=
  (tables.members.get? (organizationId, userId)).filter fun m ↦
    decide (m.role ∈ roles) && decide (m.status = .active) &&
      (tables.organizations.get? organizationId).any (fun o ↦ decide (o.status = .active)) &&
      (tables.users.get? userId).any (fun u ↦ decide (u.status = .active))

/-- A user is an active member of an active organization, with one of the given roles. -/
def IsActiveMember (tables : IdentityTables) (organizationId userId : UUID)
    (roles : List MembershipRole) : Prop :=
  ∃ m ∈ tables.members, ∃ o ∈ tables.organizations, ∃ u ∈ tables.users,
    m.organizationId = organizationId ∧ m.userId = userId ∧ m.role ∈ roles ∧
      m.status = .active ∧ o.id = organizationId ∧ o.status = .active ∧ u.id = userId ∧
        u.status = .active

/-- **The join finds a row exactly for the active members.** -/
theorem activeMember_isSome_iff {tables : IdentityTables} {organizationId userId : UUID}
    {roles : List MembershipRole} :
    (tables.activeMember organizationId userId roles).isSome ↔
      tables.IsActiveMember organizationId userId roles := by
  rw [Option.isSome_iff_exists]
  constructor
  · rintro ⟨m, hm⟩
    obtain ⟨hget, hcond⟩ := Option.filter_eq_some_iff.1 hm
    simp only [Bool.and_eq_true, decide_eq_true_eq, Option.any_eq_true] at hcond
    obtain ⟨⟨⟨hrole, hstatus⟩, o, ho, hactive⟩, u, hu, huactive⟩ := hcond
    obtain ⟨hmem, hkey⟩ := Table.get?_eq_some_iff.1 hget
    obtain ⟨homem, hokey⟩ := Table.get?_eq_some_iff.1 ho
    obtain ⟨humem, hukey⟩ := Table.get?_eq_some_iff.1 hu
    exact ⟨m, hmem, o, homem, u, humem, congrArg Prod.fst hkey, congrArg Prod.snd hkey, hrole,
      hstatus, hokey, hactive, hukey, huactive⟩
  · rintro ⟨m, hm, o, ho, u, hu, rfl, rfl, hrole, hstatus, hoid, hactive, huid, huactive⟩
    have hget : tables.members.get? (m.organizationId, m.userId) = some m := Table.get?_key hm
    have hoget : tables.organizations.get? m.organizationId = some o := hoid ▸ Table.get?_key ho
    have huget : tables.users.get? m.userId = some u := huid ▸ Table.get?_key hu
    exact ⟨m, Option.filter_eq_some_iff.2 ⟨hget, by simp [hrole, hstatus, hoget, hactive, huget,
      huactive]⟩⟩

end IdentityTables

end SupportFlow
