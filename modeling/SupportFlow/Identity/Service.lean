import SupportFlow.Database

/-!
# The membership service

`OrganizationMembershipService.add_agent`: the lookups with their checks, and the commit of the
membership with its audit row.
-/

namespace SupportFlow

/-- What `add_agent` raises. -/
inductive MembershipError
  | userNotFound
  | conflict
  /-- An exception of a step, as it was raised. -/
  | raised (error : Raised)
  deriving DecidableEq, Repr

/-- `INSERT INTO organization_members`: the organization and the user exist, and the user has no
membership in it. -/
def Database.insertMember (member : OrganizationMember) (db : Database) : Except Raised Database :=
  if db.identity.organizations.get? member.organizationId = none ∨
      db.identity.users.get? member.userId = none then
    .error .integrityError
  else
    match db.identity.members.insert? member with
    | none => .error .integrityError
    | some members => .ok { db with identity := { db.identity with members := members } }

theorem Database.insertMember_spec {member : OrganizationMember} {db db' : Database}
    (h : db.insertMember member = .ok db') :
    ∃ members, db.identity.members.insert? member = some members ∧
      db' = { db with identity := { db.identity with members := members } } := by
  unfold insertMember at h
  split at h
  · cases h
  · split at h
    · cases h
    · next members hinsert =>
      cases h
      exact ⟨members, hinsert, rfl⟩

namespace OrganizationMembershipService

/-- The arguments of an `add_agent` call. -/
structure AddAgentRequest where
  organizationId : UUID
  actorUserId : UUID
  normalizedEmail : String
  deriving DecidableEq, Repr

/-- The active user of an email address. -/
def activeUser (normalizedEmail : String) (db : Database) : Option User :=
  db.identity.users.rows.find? fun user ↦ user.email = normalizedEmail ∧ user.status = .active

/-- The membership that `add_agent` constructs. -/
def newMember (organizationId userId : UUID) : OrganizationMember :=
  ⟨organizationId, userId, .agent, .active⟩

/-- The checks of `add_agent`, with the user they found. -/
def checkAddAgent (faults : Faults) (request : AddAgentRequest) (db : Database) :
    Except MembershipError User := do
  (faults.pass (.lookup 0)).mapError .raised
  match activeUser request.normalizedEmail db with
  | none => .error .userNotFound
  | some user =>
    (faults.pass (.lookup 1)).mapError .raised
    if db.identity.members.get? (request.organizationId, user.id) = none then .ok user
    else .error .conflict

/-- The `except` clauses around the commit. -/
def orConflict {α : Type} : Except Raised α → Except MembershipError α
  | .ok value => .ok value
  | .error .integrityError => .error .conflict
  | .error .other => .error (.raised .other)

theorem orConflict_eq_ok {α : Type} {x : Except Raised α} {a : α} :
    orConflict x = .ok a ↔ x = .ok a := by
  rcases x with e | a
  · cases e <;> exact ⟨fun h ↦ (nomatch h), fun h ↦ (nomatch h)⟩
  · rw [orConflict, Except.ok.injEq, Except.ok.injEq]

/-- The membership that `add_agent` staged, with its audit row, up to the commit. -/
def commitAddAgent (faults : Faults) (request : AddAgentRequest) (userId : UUID) (db : Database) :
    Except MembershipError (OrganizationMember × Database) :=
  orConflict do
    faults.pass (.audit 0)
    faults.pass (.flush 0)
    let db ← db.insertMember (newMember request.organizationId userId)
    let db ← db.insertEvent (AuditEventService.recordOrganizationMemberCreated
      request.organizationId request.actorUserId userId .agent)
    faults.pass .commit
    .ok (newMember request.organizationId userId, db)

/-- A membership is stored with its audit row. -/
theorem commitAddAgent_spec {faults : Faults} {request : AddAgentRequest} {userId : UUID}
    {db db' : Database} {member : OrganizationMember}
    (h : commitAddAgent faults request userId db = .ok (member, db')) :
    member = newMember request.organizationId userId ∧
      ∃ members, db.identity.members.insert? member = some members ∧
        db' = { db with
          identity := { db.identity with members := members }
          audit := db.audit ++ [AuditEventService.recordOrganizationMemberCreated
            request.organizationId request.actorUserId userId .agent] } := by
  rw [commitAddAgent, orConflict_eq_ok] at h
  obtain ⟨-, -, h⟩ := Except.bind_eq_ok_iff.1 h
  obtain ⟨-, -, h⟩ := Except.bind_eq_ok_iff.1 h
  obtain ⟨db₁, hmember, h⟩ := Except.bind_eq_ok_iff.1 h
  obtain ⟨db₂, hevent, h⟩ := Except.bind_eq_ok_iff.1 h
  obtain ⟨-, -, h⟩ := Except.bind_eq_ok_iff.1 h
  cases h
  obtain ⟨members, hmembers, rfl⟩ := Database.insertMember_spec hmember
  obtain rfl := Database.insertEvent_spec hevent
  exact ⟨rfl, members, hmembers, rfl⟩

end OrganizationMembershipService

end SupportFlow
