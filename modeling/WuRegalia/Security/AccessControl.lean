import WuRegalia.Security.SessionUser

/-! # Access control

`role_hierarchy` and `access_control` of security.yml. The first rule that
applies to a request decides; a request without one is let through.
-/

namespace WuRegalia

inductive Attribute where
  | IS_AUTHENTICATED_ANONYMOUSLY
  | IS_AUTHENTICATED_FULLY
  | role (role : Role)
  deriving DecidableEq, Repr

/-- The roles of a session; an anonymous one has none. -/
def rolesOf : Option SessionUser → List Role
  | some user => user.roles
  | none => []

/-- The roles with those the hierarchy adds: `ROLE_ADMIN: ROLE_USER`. -/
def reachableRoles (roles : List Role) : List Role :=
  if .ROLE_ADMIN ∈ roles then .ROLE_USER :: roles else roles

/-- The decision on one attribute. A session that holds roles is fully
    authenticated, there being no remember-me; an anonymous one holds none. -/
def isGranted (required : Attribute) (roles : List Role) : Bool :=
  match required with
  | .IS_AUTHENTICATED_ANONYMOUSLY => true
  | .IS_AUTHENTICATED_FULLY => !roles.isEmpty
  | .role role => role ∈ reachableRoles roles

/-- `path` is a regular expression `^..`, `host` one that ends in `$`. -/
structure AccessRule where
  path : List Char
  roles : Attribute
  host : Option (List Char)
  deriving DecidableEq

def accessControl : List AccessRule :=
  [⟨"/".toList, .IS_AUTHENTICATED_ANONYMOUSLY, some "localhost".toList⟩,
    ⟨"/admin".toList, .role .ROLE_ADMIN, none⟩,
    ⟨"/special_request".toList, .role .ROLE_USER, none⟩,
    ⟨"/rent".toList, .role .ROLE_USER, none⟩,
    ⟨"/donation_request".toList, .role .ROLE_USER, none⟩,
    ⟨"/reservation".toList, .role .ROLE_USER, none⟩]

def AccessRule.applies (rule : AccessRule) (host path : List Char) : Bool :=
  rule.path <+: path && rule.host.all (fun name => name <:+ host)

/-- The attribute the first applying rule asks for. -/
def requiredAttribute (host path : List Char) : Option Attribute :=
  (accessControl.find? (fun rule => rule.applies host path)).map AccessRule.roles

def accessGranted (host path : String) (roles : List Role) : Bool :=
  match requiredAttribute host.toList path.toList with
  | some required => isGranted required roles
  | none => true

/-- The host is one the first rule was written for. -/
def IsLocalhost (host : String) : Prop := "localhost".toList <:+ host.toList

instance (host : String) : Decidable (IsLocalhost host) :=
  inferInstanceAs (Decidable (_ <:+ _))

@[simp] theorem mem_reachableRoles_admin {roles : List Role} :
    .ROLE_ADMIN ∈ reachableRoles roles ↔ .ROLE_ADMIN ∈ roles := by
  unfold reachableRoles
  split <;> simp

@[simp] theorem mem_reachableRoles_user {roles : List Role} :
    .ROLE_USER ∈ reachableRoles roles ↔ .ROLE_USER ∈ roles ∨ .ROLE_ADMIN ∈ roles := by
  unfold reachableRoles
  split <;> simp [*]

end WuRegalia
