import WuRegalia.Kernel.UserRows
import WuRegalia.Library.Run

/-! # The user reports against the rights granted

Rights are granted by `isAdmin`, which is about the value 1. The reports ask the
database for the values 1 and 0, and the form takes any integer. Whoever has
another value is in neither report, so that the reports stand exactly as long as
no form is accepted with one.
-/

namespace WuRegalia.UserReports

open Relational ReportsController LdapSessionUserProvider

/-- The users a report lists. -/
def users (o : Outcome) : List (Id × User) :=
  match o.result with
  | .ok (.render _ (.users rows)) => rows
  | _ => []

/-- The two reports list administrators and everybody else, each user once, and a
    login makes administrators of the former. -/
structure Agree (s : Store) : Prop where
  admins : users (showAdmins s) = s.user.findAll.filter (fun row => row.2.isAdmin)
  granted : ∀ dir now username account, (loadUserByUsername dir s now username).2 = .ok account →
    (.ROLE_ADMIN ∈ account.roles ↔
      ∃ row ∈ users (showAdmins s), row.2.username = account.username)
  registered : users (showRegisteredUsers s) = s.user.findAll.filter (fun row => !row.2.isAdmin)
  disjoint : ∀ row ∈ users (showAdmins s), row ∉ users (showRegisteredUsers s)
  union : ∀ row, row ∈ users (showUsers s) ↔
    row ∈ users (showAdmins s) ∨ row ∈ users (showRegisteredUsers s)

/-- Logins, and the requests of administrators that write users. -/
inductive Operation where
  | login (dir : Directory) (credentials : Credentials) (now : DateTime)
  | new (method : Method) (payload : Payload)
  | edit (method : Method) (payload : Payload) (id : Id)
  | delete (method : Method) (payload : Payload) (id : Id)

def step (s : Store) : Operation → Store
  | .login dir credentials now => (attemptAuthentication dir s now credentials).1
  | .new method payload => (UserController.newAction method payload s).store
  | .edit method payload id => (UserController.editAction method payload id s).store
  | .delete method payload id => (UserController.deleteAction method payload id s).store

/-- The value of the column is one of the two the reports ask for. -/
def Plain (user : User) : Prop := user.adminpriv = 0 ∨ user.adminpriv = 1

instance (user : User) : Decidable (Plain user) := inferInstanceAs (Decidable (_ ∨ _))

/-- A user that a form puts into the database has one of the two values: the form is
    not accepted, the address or the name is another user's, or it says 0 or 1. -/
def SubmitsPlain (s : Store) : Operation → Prop
  | .new method payload => ∀ row ∈ UserType.submitted method payload,
      Taken s.toTables s.user.nextId row ∨ Plain row
  | .edit method payload id => ∀ _ ∈ s.user.find id, ∀ row ∈ UserType.submitted method payload,
      Taken s.toTables id row ∨ Plain row
  | .login .. | .delete .. => True

theorem mem_admins {s : Store} {row : Id × User} :
    row ∈ users (showAdmins s) ↔ row ∈ s.user.rows ∧ row.2.isAdmin = true :=
  List.mem_filter

theorem mem_registered {s : Store} {row : Id × User} :
    row ∈ users (showRegisteredUsers s) ↔ row ∈ s.user.rows ∧ row.2.adminpriv = 0 := by
  simp [users, showRegisteredUsers, Outcome.answer, Table.findBy]

/-- A login makes an administrator of whom the report lists, whatever the values. -/
theorem granted {s : Store} {dir : Directory} {now : DateTime} {username : String}
    {account : SessionUser} (signedIn : (loadUserByUsername dir s now username).2 = .ok account) :
    .ROLE_ADMIN ∈ account.roles ↔
      ∃ row ∈ users (showAdmins s), row.2.username = account.username := by
  obtain ⟨named, roles⟩ := loadUserByUsername_roles signedIn
  rw [named, roles]
  by_cases admin : AdminRow s.toTables (escape username)
  · obtain ⟨row, there, same, isAdmin⟩ := admin
    refine iff_of_true ?_ ⟨row, mem_admins.mpr ⟨there, isAdmin⟩, same⟩
    simp [show AdminRow s.toTables (escape username) from ⟨row, there, same, isAdmin⟩]
  · refine iff_of_false (by simp [admin, defaultRoles]) fun listed => admin ?_
    obtain ⟨row, member, same⟩ := listed
    obtain ⟨there, isAdmin⟩ := mem_admins.mp member
    exact ⟨row, there, same, isAdmin⟩

/-- The reports agree with the rights exactly when every value is one of the two. -/
theorem agree_iff {s : Store} : Agree s ↔ ∀ row ∈ s.user.rows, Plain row.2 := by
  constructor
  · intro agree row there
    rcases (agree.union row).mp there with admin | registered
    · exact .inr (User.isAdmin_iff.mp (mem_admins.mp admin).2)
    · exact .inl (mem_registered.mp registered).2
  · intro plain
    have others : ∀ row ∈ s.user.rows,
        decide (row.2.adminpriv = 0) = !row.2.isAdmin := by
      intro row there
      rcases plain row there with zero | one
      · simp [User.isAdmin, zero]
      · simp [User.isAdmin, one]
    constructor
    case admins => rfl
    case granted => exact fun _ _ _ _ signedIn => granted signedIn
    case registered => exact List.filter_congr others
    case disjoint =>
      intro row admin registered
      have one := User.isAdmin_iff.mp (mem_admins.mp admin).2
      rw [(mem_registered.mp registered).2] at one
      exact absurd one (by decide)
    case union =>
      intro row
      rw [mem_admins, mem_registered, ← and_or_left, User.isAdmin_iff]
      exact ⟨fun there => ⟨there, (plain row there).symm⟩, And.left⟩

section Step

variable {s : Store}

theorem plain_insertUser (before : ∀ row ∈ s.user.rows, Plain row.2) (row : User) :
    (∀ other ∈ (s.insertUser row).user.rows, Plain other.2) ↔ Plain row :=
  Table.forall_insert before row

theorem plain_updateUser (before : ∀ row ∈ s.user.rows, Plain row.2) {id : Id} {old : User}
    (found : s.user.find id = some old) (row : User) :
    (∀ other ∈ (s.updateUser id row).user.rows, Plain other.2) ↔ Plain row :=
  Table.forall_update before found _

/-- A new user can be inserted unless the address or the name is taken. -/
theorem insertUser_valid (row : User) :
    (s.insertUser row).Valid ↔ ¬ Taken s.toTables s.user.nextId row := by
  rw [s.valid.insertUser]
  simp only [Taken, Prod.exists, Table.mem_rows_iff]
  constructor
  · intro free taken
    obtain ⟨id, user, there, -, same⟩ := taken
    exact same.elim (free id user there).1 (free id user there).2
  · intro free id user there
    have old := Nat.ne_of_lt (Table.lt_nextId there)
    exact ⟨fun same => free ⟨id, user, there, old, .inl same⟩,
      fun same => free ⟨id, user, there, old, .inr same⟩⟩

theorem plain_step (before : ∀ row ∈ s.user.rows, Plain row.2) (operation : Operation) :
    (∀ row ∈ (step s operation).user.rows, Plain row.2) ↔ SubmitsPlain s operation := by
  cases operation with
  | login dir credentials now =>
      refine iff_of_true ?_ trivial
      have writes := attemptAuthentication_writes dir s now credentials
      simp only [step]
      generalize (attemptAuthentication dir s now credentials).1 = u at writes ⊢
      cases writes with
      | nothing => exact before
      | added row after ordinary =>
          rw [after]
          exact (plain_insertUser before row).mpr (.inl ordinary)
  | new method payload =>
      simp only [step, UserController.newAction, FormType.save_store, SubmitsPlain]
      cases UserType.submitted method payload with
      | none => exact iff_of_true before (by simp)
      | some row =>
          simp only [Option.mem_some_iff, forall_eq']
          rw [Store.committed_iff (P := fun t => ∀ row ∈ t.user.rows, Plain row.2) before,
            insertUser_valid, plain_insertUser before, or_iff_not_imp_left]
  | edit method payload id =>
      simp only [step, SubmitsPlain]
      rw [UserController.editAction_iff (P := fun t => ∀ row ∈ t.user.rows, Plain row.2) before]
      refine forall₂_congr fun old found => forall₂_congr fun row _ => ?_
      rw [updateUser_valid s.valid found, plain_updateUser before found, or_iff_not_imp_left]
  | delete method payload id =>
      refine iff_of_true ?_ trivial
      simp only [step]
      apply (UserController.deleteAction_iff (P := fun t => ∀ row ∈ t.user.rows, Plain row.2)
        before method payload id).mpr
      intro _ _ _ _
      exact Table.forall_delete before id

end Step

/-- In a run, the reports agree with the rights in every state exactly when the values
    at its start are 0 and 1 and so is every value a form brings in. -/
theorem agree_run (s : Store) (operations : List Operation) :
    (∀ t ∈ Run.states step s operations, Agree t) ↔
      (∀ row ∈ s.user.rows, Plain row.2) ∧
        ∀ move ∈ Run.steps step s operations, SubmitsPlain move.1 move.2 := by
  simp only [agree_iff]
  exact Run.exact_guard_start (fun t : Store => ∀ row ∈ t.user.rows, Plain row.2) (fun _ => True)
    SubmitsPlain (fun _ _ _ _ _ => trivial) (fun _ operation before _ =>
      plain_step before operation) trivial

/-- Nobody has signed in yet. -/
def nobody : Store := { Store.sample with user := .empty, valid := by decide }

/-- The form of users, with a number nobody looks for. -/
def numbered : Payload :=
  [("user", ⟨true, [("fname", .text "Carl"), ("lname", .text "Brown"),
    ("email", .text "brownc@winthrop.edu"), ("username", .text "brownc"),
    ("signup_date", .dateTime 0), ("adminpriv", .integer 2)]⟩)]

/-- A user with the value 2 is missing from both reports. -/
theorem user_in_neither_report : ¬ ∀ (s : Store) (operations : List Operation),
    s.user.rows = [] → ∀ t ∈ Run.states step s operations, Agree t := by
  intro claim
  have agree := claim nobody [.new .post numbered] rfl (step nobody (.new .post numbered))
    (by simp [Run.states])
  exact absurd (agree_iff.mp agree) (by decide)

end WuRegalia.UserReports
