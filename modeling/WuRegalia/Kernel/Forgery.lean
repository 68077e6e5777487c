import WuRegalia.Kernel.Effect
import WuRegalia.Lending.Availability

/-! # Requests without a token

Every form is checked for its token, the login form included. Four actions write
without a form: renting, accepting and rejecting, and the deletion of a
reservation, which builds its form and never looks at it. A request without a
token changes the store exactly when it reaches one of them and that one would
have changed the store anyway.
-/

namespace WuRegalia

open Relational Availability

/-- No form of the request carries a valid token. -/
def Forged (req : Request) : Prop :=
  (∀ entry ∈ req.payload, entry.2.token = false) ∧ req.credentials.token = false

instance (req : Request) : Decidable (Forged req) :=
  inferInstanceAs (Decidable ((∀ _ ∈ _, _) ∧ _))

/-- The action has a form to check, or could not change the store if it had one. -/
def Withstands (rt : Runtime) (s : Store) (sessionUser : Option SessionUser)
    (args : List (List Char)) : Action → Prop
  | .rentItem => Refused s sessionUser (idOf rt args)
  | .reservationDelete => s.reservation.find (idOf rt args) = none ∨ s.findStatus "AVAL" = none
  | .requestAccept _ =>
      ∀ item ∈ s.inventory.find (idOf rt args), ∀ arrival ∈ s.findStatus "PENDING_ARRIVAL",
        item.itemStatus = arrival
  | .requestReject _ => s.inventory.find (idOf rt args) = none ∨ s.Reserved (idOf rt args)
  | _ => True

/-- The request reaches no action that a forged request can use. -/
def Guarded (rt : Runtime) (w : World) (req : Request) : Prop :=
  match passage req (w.roles req.session) with
  | .action action args => Withstands rt w.store (w.sessions req.session) args action
  | .noRoute | .logout | .login | .denied => True

theorem handle_token {req : Request} (forged : Forged req) {name : String} {configured : Method}
    {submission : Submission}
    (handled : req.payload.handle name configured req.method = some submission) :
    submission.token = false := by
  unfold Payload.handle at handled
  split at handled
  · obtain ⟨before, after, split, -⟩ := List.lookup_eq_some_iff.mp handled
    exact forged.1 (name, submission) (by simp [split])
  · cases handled

/-- A form that checks its token has no row for a forged request. -/
theorem submitted_of_forged {α : Type} {form : FormType α}
    (checks : ∀ submission, submission.token = false → form.isValid submission = false)
    {req : Request} (forged : Forged req) : form.submitted req.method req.payload = none := by
  unfold FormType.submitted
  split
  · rename_i submission handled
    rw [checks submission (handle_token forged handled), if_neg Bool.false_ne_true]
  · rfl

theorem accepted_of_forged {submission : Submission} (tokenless : submission.token = false)
    (form : List String) : submission.accepted form = false := by
  simp [Submission.accepted, tokenless]

theorem inventory_checks (t : Tables) (submission : Submission)
    (tokenless : submission.token = false) : (InventoryType t).isValid submission = false := by
  simp [InventoryType, InventoryForm.isValid, accepted_of_forged tokenless]

theorem reservation_checks (t : Tables) (submission : Submission)
    (tokenless : submission.token = false) : (ReservationType t).isValid submission = false := by
  simp [ReservationType, ReservationForm.isValid, accepted_of_forged tokenless]

theorem user_checks (submission : Submission) (tokenless : submission.token = false) :
    UserType.isValid submission = false := by
  simp [UserType, UserForm.isValid, accepted_of_forged tokenless]

theorem named_checks (kind : NamedKind) (submission : Submission)
    (tokenless : submission.token = false) :
    (NamedController.formType kind).isValid submission = false := by
  simp [NamedController.formType_isValid, NamedForm.isValid, accepted_of_forged tokenless]

theorem delete_of_forged {req : Request} (forged : Forged req) :
    DeleteForm.submitted req.method req.payload = false := by
  unfold DeleteForm.submitted
  cases handled : req.payload.handle "form" .delete req.method with
  | none => rfl
  | some submission => exact accepted_of_forged (handle_token forged handled) []

theorem submission_of_forged {req : Request} (forged : Forged req) (kind : RequestKind)
    (sessionUser : Option SessionUser) (t : Tables) :
    RequestController.submitted kind sessionUser t req.method req.payload = none := by
  unfold RequestController.submitted
  split
  · rename_i submission handled
    have invalid : RequestForm.isValid t submission = false := by
      simp [RequestForm.isValid, accepted_of_forged (handle_token forged handled)]
    rw [if_neg (by simp [invalid])]
  · rfl

theorem login_of_forged {req : Request} (forged : Forged req) (w : World) :
    (login req w).1.store = w.store := by
  simp [login_store, attemptAuthentication, forged.2]

theorem unchanged_rent (rt : Runtime) (sessionUser : Option SessionUser) (id : Id) (now : DateTime)
    (s : Store) :
    (RentController.rentAction rt sessionUser id now s).store = s ↔ Refused s sessionUser id := by
  rw [refused_iff now]
  cases RentController.rentAction_cases rt sessionUser id now s with
  | inr stopped => exact iff_of_true stopped.2.1 stopped.1
  | inl applied =>
      obtain ⟨rent, u, decides, free, -, changed, outcome⟩ := applied
      rw [outcome]
      refine iff_of_false changed ?_
      simp [decides, Loaded.decision, free]

theorem unchanged_return (id : Id) (s : Store) :
    (ReservationController.deleteAction id s).store = s ↔
      s.reservation.find id = none ∨ s.findStatus "AVAL" = none := by
  cases ReservationController.deleteAction_cases id s with
  | inl applied =>
      obtain ⟨ret, u, decides, -, changed, outcome⟩ := applied
      obtain ⟨-, ⟨reservation, found, -⟩, -, aval⟩ := ReservationController.load_decides.mp decides
      rw [outcome]
      exact iff_of_false changed (by simp [found, aval])
  | inr unchanged => exact iff_of_true unchanged.2.1 unchanged.1

theorem unchanged_accept (kind : RequestKind) (rt : Runtime) (sessionUser : Option SessionUser)
    (id : Id) (s : Store) :
    (RequestController.adminChangeStatusAction kind rt sessionUser id s).store = s ↔
      ∀ item ∈ s.inventory.find id, ∀ arrival ∈ s.findStatus "PENDING_ARRIVAL",
        item.itemStatus = arrival := by
  cases RequestController.adminChangeStatusAction_cases kind rt sessionUser id s with
  | inr nothing =>
      obtain ⟨missing, e, raised⟩ := nothing
      refine iff_of_true (by rw [raised]; rfl) ?_
      rcases missing with noRecord | noStatus
      · simp [noRecord]
      · simp [noStatus]
  | inl applied =>
      obtain ⟨item, arrival, u, present, located, -, changes, outcome⟩ := applied
      rw [outcome]
      simpa only [present, located, Option.mem_some_iff, forall_eq'] using changes

theorem unchanged_reject (kind : RequestKind) (rt : Runtime) (sessionUser : Option SessionUser)
    (id : Id) (s : Store) :
    (RequestController.adminRejectSpecialRequestAction kind rt sessionUser id s).store = s ↔
      s.inventory.find id = none ∨ s.Reserved id := by
  cases RequestController.adminRejectSpecialRequestAction_cases kind rt sessionUser id s with
  | inr nothing =>
      obtain ⟨stopped, e, raised⟩ := nothing
      exact iff_of_true (by rw [raised]; rfl) stopped
  | inl applied =>
      obtain ⟨item, u, present, free, -, changed, outcome⟩ := applied
      rw [outcome]
      exact iff_of_false changed (by simp [present, free])

/-- Of the actions that write, those with a form leave the store alone. -/
theorem unchanged_dispatch (rt : Runtime) (action : Action) (args : List (List Char)) {req : Request}
    (forged : Forged req) (sessionUser : Option SessionUser) (s : Store) :
    (dispatch rt action args req sessionUser s).store = s ↔
      Withstands rt s sessionUser args action := by
  cases writes : action.writes with
  | false =>
      refine iff_of_true (dispatch_of_not_writes writes args req sessionUser s) ?_
      cases action with
      | rentItem | requestIndex | requestAccept | requestReject | reservationNew | reservationEdit
      | reservationDelete => cases writes
      | inventory | user | named | account | homepage | filter | downloadUser | downloadAdmin | login
      | rentShow | reportsIndex | report | reservationIndex | reservationNotify | requestAdmin
      | logout => trivial
  | true =>
      cases action with
      | rentItem => exact unchanged_rent rt sessionUser (idOf rt args) req.now s
      | reservationDelete => exact unchanged_return (idOf rt args) s
      | requestAccept kind => exact unchanged_accept kind rt sessionUser (idOf rt args) s
      | requestReject kind => exact unchanged_reject kind rt sessionUser (idOf rt args) s
      | requestIndex kind =>
          refine iff_of_true ?_ trivial
          rw [dispatch, RequestController.indexAction_store, submission_of_forged forged]
      | reservationNew =>
          refine iff_of_true ?_ trivial
          rw [dispatch, ReservationController.newAction, FormType.save_store,
            submitted_of_forged (reservation_checks _) forged]
      | reservationEdit =>
          refine iff_of_true ?_ trivial
          rw [dispatch, ReservationController.editAction_store,
            submitted_of_forged (reservation_checks _) forged]
          cases s.reservation.find (idOf rt args) <;> rfl
      | inventory crud =>
          refine iff_of_true ?_ trivial
          cases crud with
          | index | «show» => cases writes
          | new =>
              rw [dispatch, InventoryController.newAction, FormType.save_store,
                submitted_of_forged (inventory_checks _) forged]
          | edit =>
              simp only [dispatch, InventoryController.editAction]
              split
              · rfl
              · split
                · rfl
                · rw [FormType.save_store, submitted_of_forged (inventory_checks _) forged]
          | delete =>
              simp only [dispatch, InventoryController.deleteAction]
              split
              · rfl
              · rw [deleteEntity_store, delete_of_forged forged, if_neg Bool.false_ne_true]
      | user crud =>
          refine iff_of_true ?_ trivial
          cases crud with
          | index | «show» => cases writes
          | new =>
              rw [dispatch, UserController.newAction, FormType.save_store,
                submitted_of_forged user_checks forged]
          | edit =>
              rw [dispatch, UserController.editAction_store, submitted_of_forged user_checks forged]
              cases s.user.find (idOf rt args) <;> rfl
          | delete =>
              rw [dispatch, UserController.deleteAction_store, delete_of_forged forged]
              cases s.user.find (idOf rt args) <;> rfl
      | named kind crud =>
          refine iff_of_true ?_ trivial
          cases crud with
          | index | «show» => cases writes
          | new =>
              rw [dispatch, NamedController.newAction, FormType.save_store,
                submitted_of_forged (named_checks _) forged]
          | edit =>
              simp only [dispatch, NamedController.editAction]
              split
              · rfl
              · rw [FormType.save_store, submitted_of_forged (named_checks _) forged]
          | delete =>
              simp only [dispatch, NamedController.deleteAction]
              split
              · rfl
              · rw [deleteEntity_store, delete_of_forged forged, if_neg Bool.false_ne_true]
      | account | homepage | filter | downloadUser | downloadAdmin | login | rentShow | reportsIndex
      | report | reservationIndex | reservationNotify | requestAdmin | logout => cases writes

/-- A request without a token leaves every table as it was exactly when it is not
    one of the four that nothing checks, or that one changes nothing. -/
theorem forged_unchanged (rt : Runtime) (w : World) {req : Request} (forged : Forged req) :
    (World.step rt w req).store = w.store ↔ Guarded rt w req := by
  rw [step_eq]
  unfold Guarded
  cases passage req (w.roles req.session) with
  | noRoute | denied => exact iff_of_true rfl trivial
  | logout => exact iff_of_true rfl trivial
  | login => exact iff_of_true (login_of_forged forged w) trivial
  | action action args => exact unchanged_dispatch rt action args forged _ w.store

/-- The sample closet with Ann signed in everywhere. -/
def World.sampleAdmin : World := ⟨⟨.sample, []⟩, fun _ => some .sampleAdmin⟩

/-- Another site posts the form for a new color. -/
def forgery : Request := .post 0 "/admin/color/new" [("color", ⟨false, [("name", .text "Red")]⟩)]

theorem forged_unchanged_sample :
    Forged forgery ∧ (World.step .sample .sampleAdmin forgery).store = World.sampleAdmin.store := by
  have forged : Forged forgery := ⟨by simp [forgery, Request.post], rfl⟩
  refine ⟨forged, (forged_unchanged .sample .sampleAdmin forged).mpr ?_⟩
  have reaches : passage forgery (World.sampleAdmin.roles forgery.session) =
      .action (.named .color .new) [] := by decide
  rw [Guarded, reaches]
  trivial

/-- A link that an administrator follows deletes a reservation. -/
theorem forged_return : ¬ ∀ (rt : Runtime) (w : World) (req : Request), Forged req →
    (World.step rt w req).store = w.store := by
  intro claim
  let rented : Store := (RentController.rentAction .sample (some .sampleUser) 1 0 .sample).store
  have unchanged := claim .sample { World.sampleAdmin with store := rented }
    (.visit 0 .get "/admin/res/1") ⟨by simp [Request.visit], rfl⟩
  exact absurd (congrArg (fun s => s.reservation.rows.length) unchanged) (by decide)

end WuRegalia
