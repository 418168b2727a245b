import SupportFlow.Foundations.Sql
import SupportFlow.Identity.Service

/-!
# Accounts

Registering and logging in: the schemas of the two requests, `AuthenticationService`, and the
columns of users and organizations that nothing else reads.

A registration commits a user, an organization and the membership of the one in the other, or
nothing. The emails and the slugs are unique by constraints of the database, so of two registrations
that want the same, the one whose commit comes second raises.

Lower-casing, the check of an address and the hashing of passwords are packages' (`Packages`).
-/

namespace SupportFlow

open Python

/-- What accounts take from other packages. -/
structure Packages where
  /-- `str.lower`. -/
  lower : String → String
  /-- PostgreSQL's `lower`. -/
  sqlLower : String → String
  /-- `EmailStr`: the address as it is normalised, if it is one. -/
  emailStr : String → Option String
  /-- `PasswordHash.hash`, with the salt it draws. -/
  hash : String → List UInt8 → String
  /-- `PasswordHash.verify`. -/
  verify : String → String → Bool

/-! ### Schemas -/

/-- What `strip_whitespace` removes: the separators below the space stay. -/
def isWhiteSpace (c : Char) : Bool :=
  isSpace c && !(0x1C ≤ c.toNat && c.toNat ≤ 0x1F)

/-- `StringConstraints(strip_whitespace=True)`. -/
def stripWhitespace (text : String) : String :=
  String.ofList ((text.toList.dropWhile isWhiteSpace).rdropWhile isWhiteSpace)

/-- `StringConstraints(strip_whitespace=True, min_length=…, max_length=…)`. -/
def strippedText (minLength maxLength : ℕ) (text : String) : Option String :=
  let stripped := stripWhitespace text
  if minLength ≤ stripped.length ∧ stripped.length ≤ maxLength then some stripped else none

/-- `OrganizationName`. -/
def organizationName (text : String) : Option String :=
  strippedText 1 200 text

/-- `[a-z0-9]`. -/
def isSlugLetter (c : Char) : Bool :=
  ('a' ≤ c && c ≤ 'z') || ('0' ≤ c && c ≤ '9')

/-- `^[a-z0-9]+(?:-[a-z0-9]+)*$`: words with a hyphen between each two. -/
def isSlug (text : List Char) : Bool :=
  (text.splitOn '-').all fun word ↦ !word.isEmpty && word.all isSlugLetter

/-- `OrganizationSlug`. What the pattern admits has no upper case, so `to_lower` changes nothing. -/
def organizationSlug (text : String) : Option String :=
  (strippedText 2 100 text).filter fun slug ↦ isSlug slug.toList

structure RegisterRequest where
  email : String
  password : String
  organizationName : String
  organizationSlug : String
  deriving DecidableEq, Repr

structure LoginRequest where
  email : String
  password : String
  deriving DecidableEq, Repr

section Schemas

variable (packages : Packages)

/-- `normalize_identifiers`, on a text. -/
def normalizeIdentifier (value : String) : String :=
  packages.lower (strip value)

/-- `RegisterRequest.model_validate`, on texts. -/
def registerRequest (email password name slug : String) : Option RegisterRequest := do
  let email ← packages.emailStr (normalizeIdentifier packages email)
  let name ← organizationName name
  let slug ← organizationSlug (normalizeIdentifier packages slug)
  if 12 ≤ password.length ∧ password.length ≤ 128 then some ⟨email, password, name, slug⟩ else none

/-- `LoginPassword`. -/
def loginPassword (password : String) : Option String :=
  if 1 ≤ password.length ∧ password.length ≤ 128 then some password else none

/-- `LoginRequest.model_validate`, on texts. -/
def loginRequest (email password : String) : Option LoginRequest := do
  let email ← packages.emailStr email
  let password ← loginPassword password
  some ⟨email, password⟩

end Schemas

/-! ### The tables -/

/-- The database, with the columns of users and organizations that only accounts read. -/
structure AccountDatabase extends Database where
  passwordHash : UUID → String
  organizationName : UUID → String
  organizationSlug : UUID → String

namespace AccountDatabase

variable (packages : Packages)

/-- `INSERT INTO users`. -/
def insertUser (user : User) (passwordHash : String) (db : AccountDatabase) :
    Except Raised (User × AccountDatabase) :=
  match Sql.varchar 320 user.email, Sql.varchar 512 passwordHash with
  | some email, some passwordHash =>
    if email ≠ packages.sqlLower email ∨ db.identity.users.rows.any fun row ↦ row.email = email then
      .error .integrityError
    else
      match db.identity.users.insert? { user with email := email } with
      | none => .error .integrityError
      | some users =>
        .ok ({ user with email := email }, { db with
          identity := { db.identity with users := users }
          passwordHash := Function.update db.passwordHash user.id passwordHash })
  | _, _ => .error .other

/-- `INSERT INTO organizations`. -/
def insertOrganization (organization : Organization) (name slug : String) (db : AccountDatabase) :
    Except Raised AccountDatabase :=
  match Sql.varchar 200 name, Sql.varchar 100 slug with
  | some name, some slug =>
    if slug ≠ packages.sqlLower slug ∨
        db.identity.organizations.rows.any fun row ↦ db.organizationSlug row.id = slug then
      .error .integrityError
    else
      match db.identity.organizations.insert? organization with
      | none => .error .integrityError
      | some organizations =>
        .ok { db with
          identity := { db.identity with organizations := organizations }
          organizationName := Function.update db.organizationName organization.id name
          organizationSlug := Function.update db.organizationSlug organization.id slug }
  | _, _ => .error .other

/-- A row is inserted into `organization_members`. -/
def insertMembership (member : OrganizationMember) (db : AccountDatabase) :
    Except Raised AccountDatabase :=
  (db.toDatabase.insertMember member).map fun next ↦ { db with toDatabase := next }

end AccountDatabase

/-! ### The service -/

namespace AuthenticationService

/-- What `register` draws. -/
structure RegisterDraw where
  userId : UUID
  organizationId : UUID
  salt : List UInt8
  deriving DecidableEq, Repr

structure RegistrationResult where
  user : User
  organization : Organization
  membership : OrganizationMember
  deriving DecidableEq, Repr

/-- What `register` raises. -/
inductive RegistrationError
  | conflict
  /-- An exception of a step, as it was raised. -/
  | raised (error : Raised)
  deriving DecidableEq, Repr

/-- The `except` clause around the commit. -/
def orConflict {α : Type} : Except Raised α → Except RegistrationError α
  | .ok value => .ok value
  | .error .integrityError => .error .conflict
  | .error .other => .error (.raised .other)

section Service

variable (packages : Packages)

/-- `register`. -/
def register (faults : Faults) (request : RegisterRequest) (draw : RegisterDraw)
    (db : AccountDatabase) : Except RegistrationError (RegistrationResult × AccountDatabase) :=
  orConflict do
    faults.pass (.flush 0)
    let (user, db) ← db.insertUser packages
      ⟨draw.userId, normalizeIdentifier packages request.email, .active⟩
      (packages.hash request.password draw.salt)
    let organization : Organization := ⟨draw.organizationId, .active⟩
    let db ← db.insertOrganization packages organization request.organizationName
      request.organizationSlug
    let membership : OrganizationMember := ⟨organization.id, user.id, .admin, .active⟩
    let db ← db.insertMembership membership
    faults.pass .commit
    .ok (⟨user, organization, membership⟩, db)

/-- The query of `authenticate`, with the hash of the row. -/
def userByEmail (normalizedEmail : String) (db : AccountDatabase) : Option (User × String) :=
  (db.identity.users.rows.find? fun row ↦ row.email = normalizedEmail).map fun user ↦
    (user, db.passwordHash user.id)

/-- The checks of `authenticate` on the row it found; `none` is an `InvalidCredentialsError`. -/
def checkCredentials (password : String) (found : Option (User × String)) : Option User :=
  match found with
  | none => none
  | some (user, passwordHash) =>
    if ¬packages.verify password passwordHash then none
    else if user.status ≠ .active then none
    else some user

end Service

theorem orConflict_eq_ok {α : Type} {x : Except Raised α} {a : α} :
    orConflict x = .ok a ↔ x = .ok a := by
  rcases x with e | a
  · cases e <;> exact ⟨fun h ↦ (nomatch h), fun h ↦ (nomatch h)⟩
  · rw [orConflict, Except.ok.injEq, Except.ok.injEq]

end AuthenticationService

/-! ### What a registration stores -/

section Registration

open AuthenticationService

variable {packages : Packages} {db db' : AccountDatabase}

theorem AccountDatabase.insertUser_spec {user stored : User} {passwordHash : String}
    (h : db.insertUser packages user passwordHash = .ok (stored, db')) :
    ∃ email hash users, Sql.varchar 320 user.email = some email ∧
      Sql.varchar 512 passwordHash = some hash ∧ stored = { user with email := email } ∧
      email = packages.sqlLower email ∧ (∀ row ∈ db.identity.users, row.email ≠ email) ∧
      db.identity.users.insert? stored = some users ∧
      db' = { db with
        identity := { db.identity with users := users }
        passwordHash := Function.update db.passwordHash user.id hash } := by
  unfold insertUser at h
  split at h
  · next email hash hemail hhash =>
    split at h
    · cases h
    · next hfree =>
      obtain ⟨hlower, hunused⟩ := not_or.1 hfree
      split at h
      · cases h
      · next users hinsert =>
        cases h
        refine ⟨email, hash, users, hemail, hhash, rfl, not_not.1 hlower, fun row hrow heq ↦ ?_,
          hinsert, rfl⟩
        exact hunused (List.any_eq_true.2 ⟨row, hrow, decide_eq_true heq⟩)
  · cases h

theorem AccountDatabase.insertOrganization_spec {organization : Organization} {name slug : String}
    (h : db.insertOrganization packages organization name slug = .ok db') :
    ∃ name' slug' organizations, Sql.varchar 100 slug = some slug' ∧
      slug' = packages.sqlLower slug' ∧
      (∀ row ∈ db.identity.organizations, db.organizationSlug row.id ≠ slug') ∧
      db.identity.organizations.insert? organization = some organizations ∧
      db' = { db with
        identity := { db.identity with organizations := organizations }
        organizationName := Function.update db.organizationName organization.id name'
        organizationSlug := Function.update db.organizationSlug organization.id slug' } := by
  unfold insertOrganization at h
  split at h
  · next name' slug' hname hslug =>
    split at h
    · cases h
    · next hfree =>
      obtain ⟨hlower, hunused⟩ := not_or.1 hfree
      split at h
      · cases h
      · next organizations hinsert =>
        cases h
        refine ⟨name', slug', organizations, hslug, not_not.1 hlower, fun row hrow heq ↦ ?_,
          hinsert, rfl⟩
        exact hunused (List.any_eq_true.2 ⟨row, hrow, decide_eq_true heq⟩)
  · cases h

theorem AccountDatabase.insertMembership_spec {member : OrganizationMember}
    (h : db.insertMembership member = .ok db') :
    ∃ members, db.identity.members.insert? member = some members ∧
      db' = { db with identity := { db.identity with members := members } } := by
  obtain ⟨next, hnext, rfl⟩ := Except.map_eq_ok_iff.1 h
  obtain ⟨members, hmembers, rfl⟩ := Database.insertMember_spec hnext
  exact ⟨members, hmembers, rfl⟩

/-- **A registration that asks for nothing that is taken is stored**, when no step fails. -/
theorem AuthenticationService.register_of_free {request : RegisterRequest} {draw : RegisterDraw}
    {email hash name slug : String} {users : Table User} {organizations : Table Organization}
    {members : Table OrganizationMember}
    (hemail : Sql.varchar 320 (normalizeIdentifier packages request.email) = some email)
    (hhash : Sql.varchar 512 (packages.hash request.password draw.salt) = some hash)
    (hname : Sql.varchar 200 request.organizationName = some name)
    (hslug : Sql.varchar 100 request.organizationSlug = some slug)
    (hlower : email = packages.sqlLower email ∧ slug = packages.sqlLower slug)
    (hfree : (∀ row ∈ db.identity.users, row.email ≠ email) ∧
      ∀ row ∈ db.identity.organizations, db.organizationSlug row.id ≠ slug)
    (husers : db.identity.users.insert? ⟨draw.userId, email, .active⟩ = some users)
    (horganizations : db.identity.organizations.insert? ⟨draw.organizationId, .active⟩ =
      some organizations)
    (hmembers : db.identity.members.insert? ⟨draw.organizationId, draw.userId, .admin, .active⟩ =
      some members) :
    register packages Faults.none request draw db =
      .ok (⟨⟨draw.userId, email, .active⟩, ⟨draw.organizationId, .active⟩,
          ⟨draw.organizationId, draw.userId, .admin, .active⟩⟩,
        { db with
          identity := ⟨organizations, users, members⟩
          passwordHash := Function.update db.passwordHash draw.userId hash
          organizationName := Function.update db.organizationName draw.organizationId name
          organizationSlug := Function.update db.organizationSlug draw.organizationId slug }) := by
  have hnewUser : ¬(email ≠ packages.sqlLower email ∨
      db.identity.users.rows.any fun row ↦ row.email = email) := by
    rw [not_or, not_not, List.any_eq_true]
    exact ⟨hlower.1, fun ⟨row, hrow, heq⟩ ↦ hfree.1 row hrow (of_decide_eq_true heq)⟩
  have hnewOrganization : ¬(slug ≠ packages.sqlLower slug ∨
      db.identity.organizations.rows.any fun row ↦ db.organizationSlug row.id = slug) := by
    rw [not_or, not_not, List.any_eq_true]
    exact ⟨hlower.2, fun ⟨row, hrow, heq⟩ ↦ hfree.2 row hrow (of_decide_eq_true heq)⟩
  -- The membership refers to the two rows that were just inserted.
  have hknown : ¬(organizations.get? draw.organizationId = none ∨
      users.get? draw.userId = none) := by
    rw [Table.get?_of_insert? horganizations, Table.get?_of_insert? husers]
    simp [PrimaryKey.key]
  rw [register, orConflict_eq_ok]
  simp only [Faults.pass, Faults.none, AccountDatabase.insertUser, hemail, hhash, if_neg hnewUser,
    husers, AccountDatabase.insertOrganization, hname, hslug, if_neg hnewOrganization,
    horganizations, AccountDatabase.insertMembership, Database.insertMember, if_neg hknown,
    hmembers, Except.map, bind, Except.bind]

end Registration

end SupportFlow
