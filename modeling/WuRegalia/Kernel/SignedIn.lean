import WuRegalia.Kernel.Statuses
import WuRegalia.Kernel.UserRows

/-! # The records of signed-in users

The row of a session's user is added at the login and looked up by name in the
rents, the account page and the submissions. Administrators can rename and delete
it in between; the rows of users who own items or reservations are protected by
foreign keys, the others are not.
-/

namespace WuRegalia

open Relational

/-- A session user has one row, and what looks it up finds it: neither are the
    reservations of null read, nor is null passed as the owner of an item. -/
structure HasRecord (rt : Runtime) (s : Store) (user : SessionUser) : Prop where
  one : HasOneRow s.toTables user.username
  lookedUp : s.findUser user.username ≠ none
  owner : RequestController.owner (some user) s.toTables ≠ none
  account : (AccountPageController.indexAction (some user) s).result ≠ .error .nullDereference
  rent : s.findStatus "AVAL" ≠ none → ∀ id now,
    (RentController.rentAction rt (some user) id now s).result ≠ .error .nullDereference
  submission : ∀ kind, s.findStatus (RequestController.texts kind).pending ≠ none →
    ∀ method payload,
      (RequestController.indexAction kind rt (some user) method payload s).result ≠ .error .typeError

/-- Every live session's user has a record. -/
def World.SignedInHaveRecords (rt : Runtime) (w : World) : Prop :=
  ∀ sid account, w.sessions sid = some account → HasRecord rt w.store account

/-- A live session signed in under the name. -/
def World.SignedInAs (w : World) (username : String) : Prop :=
  ∃ sid account, w.sessions sid = some account ∧ account.username = username

/-- The request takes nobody's record who is signed in: an accepted edit leaves the
    name, an accepted deletion is of somebody else, or the database rejects either. -/
def KeepsRecords (rt : Runtime) (w : World) (req : Request) : Prop :=
  match passage req (w.roles req.session) with
  | .action (.user .edit) args =>
      ∀ old ∈ w.store.user.find (idOf rt args), ∀ row ∈ UserType.submitted req.method req.payload,
        Taken w.store.toTables (idOf rt args) row ∨
          (w.SignedInAs old.username → row.username = old.username)
  | .action (.user .delete) args =>
      DeleteForm.submitted req.method req.payload = true →
        ∀ old ∈ w.store.user.find (idOf rt args),
          w.store.UserReferenced (idOf rt args) ∨ ¬ w.SignedInAs old.username
  | _ => True

theorem findUser_iff {t : Tables} {username : String} :
    t.findUser username ≠ none ↔ RowWith (fun _ => true) t username := by
  rw [Ne, Tables.findUser_none, rowWith_iff]
  simp

theorem hasRecord_iff {rt : Runtime} {s : Store} {user : SessionUser} :
    HasRecord rt s user ↔ RowWith (fun _ => true) s.toTables user.username := by
  constructor
  · exact fun record => findUser_iff.mp record.lookedUp
  · intro row
    have lookedUp := findUser_iff.mpr row
    have found : (s.findUser user.username).isSome := Option.isSome_iff_ne_none.mpr lookedUp
    obtain ⟨id, account, there, named, -⟩ := rowWith_iff.mp row
    constructor
    case one => exact (hasOneRow_iff s.valid).mpr ⟨id, account, there, named⟩
    case lookedUp => exact lookedUp
    case owner => simpa [RequestController.owner] using lookedUp
    case account =>
      obtain ⟨located, same⟩ := Option.ne_none_iff_exists'.mp lookedUp
      simp only [AccountPageController.indexAction, same]
      split <;> simp [Outcome.answer, Outcome.raise]
    case rent => exact fun aval id now => rentAction_refusal_served aval found id now
    case submission => exact fun kind pending => submission_served pending found

theorem signedInHaveRecords_iff {rt : Runtime} {w : World} :
    w.SignedInHaveRecords rt ↔ w.Backed (fun _ => True) (fun _ => true) := by
  simp only [World.SignedInHaveRecords, World.Backed, hasRecord_iff, true_implies]

theorem keepsRecords_iff {rt : Runtime} {w : World} {req : Request} :
    KeepsRecords rt w req ↔ KeepsRows rt (fun _ => True) (fun _ => true) w req := by
  have named : ∀ username, w.SignedInAs username ↔ w.Named (fun _ => True) username := by
    simp [World.SignedInAs, World.Named]
  unfold KeepsRecords KeepsRows
  cases passage req (w.roles req.session) with
  | noRoute | denied | logout | login => exact Iff.rfl
  | action action args =>
      cases action with
      | user crud =>
          cases crud with
          | edit => simp only [named, and_true]
          | delete => simp only [named]
          | index | «show» | new => exact Iff.rfl
      | _ => exact Iff.rfl

/-- Whoever signs in has a row from then on. -/
theorem row_login (w : World) (req : Request) (account : SessionUser)
    (signedIn : (attemptAuthentication req.directory w.store req.now req.credentials).2 =
      .ok account) :
    RowWith (fun _ => true) (login req w).1.store.toTables account.username := by
  obtain ⟨id, user, there, named⟩ := attemptAuthentication_row signedIn
  rw [login_store]
  exact rowWith_iff.mpr ⟨id, user, there, named, rfl⟩

/-- From a start without sessions, every live session's user has a record in every
    state of a run, exactly when no request of the run takes the row, or its name,
    from one who is signed in. -/
theorem signedInHaveRecords_run (rt : Runtime) {w : World} (start : w.NoSession)
    (requests : List Request) :
    (∀ t ∈ Run.states (World.step rt) w requests, t.SignedInHaveRecords rt) ↔
      ∀ move ∈ Run.steps (World.step rt) w requests, KeepsRecords rt move.1 move.2 := by
  simp only [signedInHaveRecords_iff, keepsRecords_iff]
  exact backed_run rt (fun t req account _ => row_login t req account) start requests

/-- The form of user accounts, filled in for Bob with another address. -/
def bobsAddress : Payload :=
  [("user", ⟨true, [("fname", .text "Bob"), ("lname", .text "Jones"),
    ("email", .text "bob.jones@winthrop.edu"), ("username", .text "jonesb"),
    ("signup_date", .dateTime 0), ("adminpriv", .integer 0)]⟩)]

/-- Bob signs in, and Ann changes his address. -/
theorem signedInHaveRecords_run_sample :
    World.sample.NoSession ∧
      ∀ t ∈ Run.states (World.step .sample) .sample
        [.signIn 0 "jonesb", .signIn 1 "smitha", .post 1 "/admin/user/2/edit" bobsAddress],
        t.SignedInHaveRecords .sample := by
  have fresh : World.sample.NoSession := fun _ => rfl
  refine ⟨fresh, (signedInHaveRecords_run .sample fresh _).mpr ?_⟩
  simp only [Run.steps, List.forall_mem_cons, List.not_mem_nil, false_imp_iff, implies_true,
    and_true]
  refine ⟨?_, ?_, ?_⟩
  · exact keepsRecords_iff.mpr (keepsRows_of_no_form (by decide) (by decide))
  · exact keepsRecords_iff.mpr (keepsRows_of_no_form (by decide) (by decide))
  · let edit : Request := .post 1 "/admin/user/2/edit" bobsAddress
    generalize signedIn : World.step .sample (World.step .sample .sample (.signIn 0 "jonesb"))
      (.signIn 1 "smitha") = w
    have edits : passage edit (w.roles edit.session) = .action (.user .edit) ["2".toList] := by
      rw [← signedIn]
      decide
    have there : w.store.user.find 2 =
        some ⟨"Bob", "Jones", "jonesb@winthrop.edu", "jonesb", 0, 0⟩ := by
      rw [← signedIn]
      decide
    have submitted : UserType.submitted edit.method edit.payload =
        some ⟨"Bob", "Jones", "bob.jones@winthrop.edu", "jonesb", 0, 0⟩ := by decide
    unfold KeepsRecords
    rw [edits]
    intro old found row accepted
    cases there.symm.trans found
    cases submitted.symm.trans accepted
    exact .inr fun _ => rfl

/-- Bob signs in, Ann deletes his row, and he stays signed in without one. -/
theorem deleted_user_stays_signed_in : ¬ ∀ (rt : Runtime) (w : World) (requests : List Request),
    w.NoSession → ∀ t ∈ Run.states (World.step rt) w requests, t.SignedInHaveRecords rt := by
  intro claim
  let requests : List Request :=
    [.signIn 0 "jonesb", .signIn 1 "smitha",
      { Request.visit 1 .delete "/admin/user/2" with payload := [("form", ⟨true, []⟩)] }]
  have records := claim .sample .sample requests (fun _ => rfl)
    (Run.final (World.step .sample) .sample requests) (by simp [requests, Run.states])
  have record := records 0 .sampleUser (by decide)
  exact absurd record.lookedUp (by decide)

end WuRegalia
