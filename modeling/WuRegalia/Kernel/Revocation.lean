import WuRegalia.Kernel.Administrators
import WuRegalia.Kernel.UserRows

/-! # Sessions whose rights have been revoked

A session keeps the roles it was given at its login; the row they were read off
can be edited or deleted meanwhile. Sessions and rows stay in step exactly as
long as nobody edits or deletes the row of an administrator who is signed in.
-/

namespace WuRegalia

open Relational

/-- A live session with `ROLE_ADMIN` signed in under the name. -/
def World.AdminNamed (w : World) (username : String) : Prop :=
  ∃ sid account, w.sessions sid = some account ∧ .ROLE_ADMIN ∈ account.roles ∧
    account.username = username

/-- Every live session with `ROLE_ADMIN` has a row that says it is an administrator. -/
def World.AdminsCurrent (w : World) : Prop :=
  ∀ sid account, w.sessions sid = some account → .ROLE_ADMIN ∈ account.roles →
    AdminRow w.store.toTables account.username

/-- The request does not take an administrator's row from one who is signed in:
    an accepted edit leaves name and `adminpriv` as they are, an accepted deletion
    is of somebody else, or the database rejects either. -/
def KeepsAdmins (rt : Runtime) (w : World) (req : Request) : Prop :=
  match passage req (w.roles req.session) with
  | .action (.user .edit) args =>
      ∀ old ∈ w.store.user.find (idOf rt args), ∀ row ∈ UserType.submitted req.method req.payload,
        Taken w.store.toTables (idOf rt args) row ∨
          (w.AdminNamed old.username → row.username = old.username ∧ row.isAdmin = true)
  | .action (.user .delete) args =>
      DeleteForm.submitted req.method req.payload = true →
        ∀ old ∈ w.store.user.find (idOf rt args),
          w.store.UserReferenced (idOf rt args) ∨ ¬ w.AdminNamed old.username
  | _ => True

/-- Administrators are the sessions with `ROLE_ADMIN` and the rows that say so. -/
theorem adminsCurrent_iff {w : World} :
    w.AdminsCurrent ↔ w.Backed (fun account => .ROLE_ADMIN ∈ account.roles) User.isAdmin := Iff.rfl

theorem keepsAdmins_iff {rt : Runtime} {w : World} {req : Request} :
    KeepsAdmins rt w req ↔
      KeepsRows rt (fun account => .ROLE_ADMIN ∈ account.roles) User.isAdmin w req := Iff.rfl

/-- An administrator signs in on account of a row, which the login leaves there. -/
theorem adminRow_login (w : World) (req : Request) (account : SessionUser)
    (admin : .ROLE_ADMIN ∈ account.roles)
    (signedIn : (attemptAuthentication req.directory w.store req.now req.credentials).2 =
      .ok account) :
    RowWith User.isAdmin (login req w).1.store.toTables account.username := by
  have writes := attemptAuthentication_writes req.directory w.store req.now req.credentials
  rw [login_store]
  exact writes.rowWith (attemptAuthentication_admin signedIn admin)

/-- From a start without sessions, every live session with `ROLE_ADMIN` has an
    administrator's row in every state of a run, exactly when no request of the run
    takes such a row, or its name, from one who is signed in. -/
theorem adminsCurrent_run (rt : Runtime) {w : World} (start : w.NoSession)
    (requests : List Request) :
    (∀ t ∈ Run.states (World.step rt) w requests, t.AdminsCurrent) ↔
      ∀ move ∈ Run.steps (World.step rt) w requests, KeepsAdmins rt move.1 move.2 := by
  simp only [adminsCurrent_iff, keepsAdmins_iff]
  exact backed_run rt adminRow_login start requests

/-- The form of user accounts, filled in for Ann with another address. -/
def changedAddress : Payload :=
  [("user", ⟨true, [("fname", .text "Ann"), ("lname", .text "Smith"),
    ("email", .text "ann.smith@winthrop.edu"), ("username", .text "smitha"),
    ("signup_date", .dateTime 0), ("adminpriv", .integer 1)]⟩)]

/-- Ann signs in and changes her address. -/
theorem adminsCurrent_run_sample :
    World.sample.NoSession ∧
      ∀ t ∈ Run.states (World.step .sample) .sample
        [.signIn 0 "smitha", .post 0 "/admin/user/1/edit" changedAddress], t.AdminsCurrent := by
  have fresh : World.sample.NoSession := fun _ => rfl
  refine ⟨fresh, (adminsCurrent_run .sample fresh _).mpr ?_⟩
  simp only [Run.steps, List.forall_mem_cons, List.not_mem_nil, false_imp_iff, implies_true,
    and_true]
  constructor
  · exact keepsAdmins_iff.mpr (keepsRows_of_no_form (by decide) (by decide))
  · let edit : Request := .post 0 "/admin/user/1/edit" changedAddress
    generalize signedIn : World.step .sample .sample (.signIn 0 "smitha") = w
    have edits : passage edit (w.roles edit.session) = .action (.user .edit) ["1".toList] := by
      rw [← signedIn]
      decide
    have there : w.store.user.find 1 =
        some ⟨"Ann", "Smith", "smitha@winthrop.edu", "smitha", 0, 1⟩ := by
      rw [← signedIn]
      decide
    have submitted : UserType.submitted edit.method edit.payload =
        some ⟨"Ann", "Smith", "ann.smith@winthrop.edu", "smitha", 0, 1⟩ := by decide
    unfold KeepsAdmins
    rw [edits]
    intro old found row accepted
    cases there.symm.trans found
    cases submitted.symm.trans accepted
    exact .inr fun _ => ⟨rfl, rfl⟩

/-- The form of user accounts, filled in for Ann without her rights. -/
def revocation : Payload :=
  [("user", ⟨true, [("fname", .text "Ann"), ("lname", .text "Smith"),
    ("email", .text "smitha@winthrop.edu"), ("username", .text "smitha"),
    ("signup_date", .dateTime 0), ("adminpriv", .integer 0)]⟩)]

/-- Ann signs in and loses her rights, and her session keeps them. -/
theorem revoked_session_keeps_role : ¬ ∀ (rt : Runtime) (w : World) (requests : List Request),
    w.NoSession → ∀ t ∈ Run.states (World.step rt) w requests, t.AdminsCurrent := by
  intro claim
  let requests : List Request :=
    [.signIn 0 "smitha", .post 0 "/admin/user/1/edit" revocation]
  have current := claim .sample .sample requests (fun _ => rfl)
    (Run.final (World.step .sample) .sample requests) (by simp [requests, Run.states])
  exact absurd (current 0 .sampleAdmin (by decide) (by decide)) (by decide)

end WuRegalia
