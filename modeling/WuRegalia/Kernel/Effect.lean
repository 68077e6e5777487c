import WuRegalia.Kernel
import WuRegalia.Lending.Snapshot
import WuRegalia.Security.Audience
import WuRegalia.Security.Login

/-! # What one request can write

Frames of the actions: which of them leave the whole store alone, and which
leave the users alone. Sessions are started by logins, ended by logouts and
failed logins, and touched by nothing else.
-/

namespace WuRegalia

/-- The actions that reach a flush. -/
def Action.writes : Action → Bool
  | .inventory .new | .inventory .edit | .inventory .delete => true
  | .user .new | .user .edit | .user .delete => true
  | .named _ .new | .named _ .edit | .named _ .delete => true
  | .reservationNew | .reservationEdit | .reservationDelete => true
  | .rentItem | .requestIndex _ | .requestAccept _ | .requestReject _ => true
  | _ => false

/-- Every other action leaves the store as it was. -/
theorem dispatch_of_not_writes {rt : Runtime} {action : Action} (reads : action.writes = false)
    (args : List (List Char)) (req : Request) (sessionUser : Option SessionUser) (s : Store) :
    (dispatch rt action args req sessionUser s).store = s := by
  cases action with
  | rentItem | requestIndex | requestAccept | requestReject | reservationNew | reservationEdit
  | reservationDelete => cases reads
  | account =>
      simp only [dispatch, AccountPageController.indexAction]
      split
      · rfl
      · split
        · split <;> rfl
        · rfl
  | homepage =>
      simp only [dispatch, DefaultController.indexAction]
      split <;> rfl
  | filter =>
      simp only [dispatch, DefaultController.filterAction]
      split <;> rfl
  | downloadUser | downloadAdmin | reportsIndex | reservationIndex | reservationNotify
  | requestAdmin | logout => rfl
  | login =>
      simp only [dispatch, LoginController.loginAction]
      split <;> rfl
  | rentShow =>
      simp only [dispatch, RentController.showAction]
      split <;> rfl
  | report report =>
      cases report with
      | showUsers | showAdmins | showRegisteredUsers | showUserRentalHistory | showInventory
      | showUserDonationHistory | showRentalHistory => rfl
      | showAvailibleInventory | showRentedInventory | showDonationInventory | showSpecialRequests
      | showPendingArrivals =>
          simp only [dispatch, dispatchReport, ReportsController.showAvailibleInventory,
            ReportsController.showRentedInventory, ReportsController.showDonationInventory,
            ReportsController.showSpecialRequests, ReportsController.showPendingArrivals,
            ReportsController.showByStatus]
          split <;> rfl
  | inventory crud =>
      cases crud with
      | new | edit | delete => cases reads
      | index =>
          simp only [dispatch, InventoryController.indexAction]
          split <;> rfl
      | «show» =>
          simp only [dispatch, InventoryController.showAction]
          split <;> rfl
  | user crud =>
      cases crud with
      | new | edit | delete => cases reads
      | index => rfl
      | «show» =>
          simp only [dispatch, UserController.showAction]
          split <;> rfl
  | named kind crud =>
      cases crud with
      | new | edit | delete => cases reads
      | index => rfl
      | «show» =>
          simp only [dispatch, NamedController.showAction]
          split <;> rfl

/-- What the action writes leaves a part of the tables alone. -/
def Action.Spares {γ : Type} (part : Tables → γ) : Action → Prop
  | .rentItem => ∀ rent t, part (RentController.write rent t) = part t
  | .requestIndex _ | .inventory .new => ∀ row t, part (Tables.insertInventory row t) = part t
  | .requestAccept _ => ∀ accept t, part (RequestController.writeAccept accept t) = part t
  | .requestReject _ | .inventory .delete => ∀ id t, part (Tables.deleteInventory id t) = part t
  | .inventory .edit => ∀ id row t, part (Tables.updateInventory id row t) = part t
  | .reservationNew => ∀ row t, part (Tables.insertReservation row t) = part t
  | .reservationEdit => ∀ id row t, part (Tables.updateReservation id row t) = part t
  | .reservationDelete => ∀ ret t, part (ReservationController.write ret t) = part t
  | .user .new => ∀ row t, part (Tables.insertUser row t) = part t
  | .user .edit => ∀ id row t, part (Tables.updateUser id row t) = part t
  | .user .delete => ∀ id t, part (Tables.deleteUser id t) = part t
  | .named kind .new | .named kind .edit | .named kind .delete =>
      ∀ table t, part (NamedController.set t kind table) = part t
  | _ => True

/-- A part of the tables that an action's write spares, the action spares. -/
theorem dispatch_keeps {γ : Type} (rt : Runtime) {action : Action} (part : Tables → γ)
    (spares : action.Spares part) (args : List (List Char)) (req : Request)
    (sessionUser : Option SessionUser) (s : Store) :
    part (dispatch rt action args req sessionUser s).store.toTables = part s.toTables := by
  cases writes : action.writes with
  | false => rw [dispatch_of_not_writes writes]
  | true =>
      cases action with
      | rentItem => exact s.proceed_keeps _ RentController.write _ part spares
      | requestIndex kind =>
          simp only [dispatch, RequestController.indexAction_store]
          split
          · exact s.committed_keeps part (spares _ _)
          · rfl
      | requestAccept kind => exact s.proceed_keeps _ RequestController.writeAccept _ part spares
      | requestReject kind =>
          exact s.proceed_keeps _ RequestController.writeReject _ part fun _ t => spares _ t
      | reservationNew => exact FormType.save_keeps _ _ _ _ _ _ s part spares
      | reservationEdit =>
          simp only [dispatch, ReservationController.editAction_store]
          split
          · exact s.committed_keeps part (spares _ _ _)
          · rfl
      | reservationDelete => exact s.proceed_keeps _ ReservationController.write _ part spares
      | inventory crud =>
          cases crud with
          | index | «show» => cases writes
          | new => exact FormType.save_keeps _ _ _ _ _ _ s part spares
          | edit =>
              simp only [dispatch, InventoryController.editAction]
              split
              · rfl
              · split
                · rfl
                · exact FormType.save_keeps _ _ _ _ _ _ s part (spares _)
          | delete =>
              simp only [dispatch, InventoryController.deleteAction]
              split
              · rfl
              · exact deleteEntity_keeps _ _ _ _ s part (spares _)
      | user crud =>
          cases crud with
          | index | «show» => cases writes
          | new => exact FormType.save_keeps _ _ _ _ _ _ s part spares
          | edit =>
              simp only [dispatch, UserController.editAction]
              split
              · rfl
              · exact FormType.save_keeps _ _ _ _ _ _ s part (spares _)
          | delete =>
              simp only [dispatch, UserController.deleteAction]
              split
              · rfl
              · exact deleteEntity_keeps _ _ _ _ s part (spares _)
      | named kind crud =>
          cases crud with
          | index | «show» => cases writes
          | new => exact FormType.save_keeps _ _ _ _ _ _ s part fun _ t => spares _ t
          | edit =>
              simp only [dispatch, NamedController.editAction]
              split
              · rfl
              · exact FormType.save_keeps _ _ _ _ _ _ s part fun _ t => spares _ t
          | delete =>
              simp only [dispatch, NamedController.deleteAction]
              split
              · rfl
              · exact deleteEntity_keeps _ _ _ _ s part fun t => spares _ t
      | account | homepage | filter | downloadUser | downloadAdmin | login | rentShow | reportsIndex
      | report | reservationIndex | reservationNotify | requestAdmin | logout => cases writes

/-- Only the user controller writes users. -/
theorem dispatch_user (rt : Runtime) {action : Action} (other : ∀ crud, action ≠ .user crud)
    (args : List (List Char)) (req : Request) (sessionUser : Option SessionUser) (s : Store) :
    (dispatch rt action args req sessionUser s).store.user = s.user := by
  refine dispatch_keeps rt Tables.user ?_ args req sessionUser s
  cases action with
  | user crud => exact absurd rfl (other crud)
  | rentItem => exact fun rent t => (RentController.sameStock_write rent t).user
  | reservationDelete => exact fun ret t => (ReservationController.sameStock_write ret t).user
  | requestAccept kind => exact fun accept t => Tables.changeItemStatus_user _ _ _ t
  | inventory crud =>
      cases crud with
      | index | «show» => trivial
      | new | delete => exact fun _ _ => rfl
      | edit => exact fun _ _ _ => rfl
  | named kind crud =>
      have spares : ∀ table t, (NamedController.set t kind table).user = t.user := by
        intro table t
        cases kind <;> rfl
      cases crud with
      | index | «show» => trivial
      | new | edit | delete => exact spares
  | requestIndex | requestReject | reservationNew => exact fun _ _ => rfl
  | reservationEdit => exact fun _ _ _ => rfl
  | account | homepage | filter | downloadUser | downloadAdmin | login | rentShow | reportsIndex
  | report | reservationIndex | reservationNotify | requestAdmin | logout => trivial

/-- Only the status controller writes statuses. -/
theorem dispatch_status (rt : Runtime) {action : Action}
    (other : ∀ crud, action ≠ .named .status crud) (args : List (List Char)) (req : Request)
    (sessionUser : Option SessionUser) (s : Store) :
    (dispatch rt action args req sessionUser s).store.status = s.status := by
  refine dispatch_keeps rt Tables.status ?_ args req sessionUser s
  cases action with
  | named kind crud =>
      have spares : kind ≠ .status →
          ∀ table t, (NamedController.set t kind table).status = t.status := by
        intro apart table t
        cases kind with
        | status => exact absurd rfl apart
        | itemType | color | school | major => rfl
      have apart : kind ≠ .status := fun same => other crud (same ▸ rfl)
      cases crud with
      | index | «show» => trivial
      | new | edit | delete => exact spares apart
  | rentItem => exact fun rent t => (RentController.sameStock_write rent t).status
  | reservationDelete => exact fun ret t => (ReservationController.sameStock_write ret t).status
  | requestAccept kind => exact fun accept t => Tables.changeItemStatus_status _ _ _ t
  | inventory crud | user crud =>
      cases crud with
      | index | «show» => trivial
      | new | delete => exact fun _ _ => rfl
      | edit => exact fun _ _ _ => rfl
  | requestIndex | requestReject | reservationNew => exact fun _ _ => rfl
  | reservationEdit => exact fun _ _ _ => rfl
  | account | homepage | filter | downloadUser | downloadAdmin | login | rentShow | reportsIndex
  | report | reservationIndex | reservationNotify | requestAdmin | logout => trivial

theorem step_eq (rt : Runtime) (w : World) (req : Request) :
    World.step rt w req = match passage req (w.roles req.session) with
      | .noRoute | .denied => w
      | .logout => w.setSession req.session none
      | .login => (login req w).1
      | .action action args =>
          { w with
            toCloset := w.toCloset.after
              (dispatch rt action args req (w.sessions req.session) w.store) } := by
  unfold World.step handle
  simp only [refresh_eq]
  cases passage req (w.roles req.session) <;> rfl

theorem handle_result (rt : Runtime) (w : World) (req : Request) :
    (handle rt req w).2 = match passage req (w.roles req.session) with
      | .noRoute => .error .notFound
      | .denied => .error .accessDenied
      | .logout => .ok (.redirect "homepage" none)
      | .login => (login req w).2
      | .action action args =>
          (dispatch rt action args req (w.sessions req.session) w.store).result := by
  unfold handle
  simp only [refresh_eq]
  cases passage req (w.roles req.session) <;> rfl

/-- What an action does is what the request does. -/
theorem action_taken {rt : Runtime} {w : World} {req : Request} {action : Action}
    {args : List (List Char)} {o : Outcome}
    (passes : passage req (w.roles req.session) = .action action args)
    (acted : dispatch rt action args req (w.sessions req.session) w.store = o) :
    (handle rt req w).2 = o.result ∧
      World.step rt w req = { w with toCloset := w.toCloset.after o } := by
  subst acted
  rw [handle_result, step_eq, passes]
  exact ⟨rfl, rfl⟩

/-- An action runs only when the rules let the session through. -/
theorem meets_of_action {req : Request} {roles : List Role} {action : Action}
    {args : List (List Char)} (elsewhere : ¬ IsLocalhost req.host)
    (passes : passage req roles = .action action args) : Meets action roles := by
  unfold passage at passes
  split at passes
  · cases passes
  · rename_i route captured fits
    split at passes
    · cases passes
    · split at passes
      · cases passes
      · split at passes
        · rename_i granted
          cases passes
          exact (accessGranted_iff elsewhere fits roles).mp granted
        · cases passes

/-- What writes is for administrators, renting and submitting requests apart. -/
theorem demanded_of_writes {action : Action} (writes : action.writes = true) :
    demanded action = some (.role .ROLE_ADMIN) ∨ action = .rentItem ∨
      ∃ kind, action = .requestIndex kind := by
  cases action with
  | rentItem => exact .inr (.inl rfl)
  | requestIndex kind => exact .inr (.inr ⟨kind, rfl⟩)
  | report report => cases writes
  | account | homepage | filter | downloadUser | downloadAdmin | login | rentShow | reportsIndex
  | reservationIndex | reservationNotify | requestAdmin | logout => cases writes
  | inventory | user | named | reservationNew | reservationEdit | reservationDelete
  | requestAccept | requestReject => exact .inl rfl

theorem login_store (req : Request) (w : World) :
    (login req w).1.store =
      (attemptAuthentication req.directory w.store req.now req.credentials).1 := by
  unfold login
  split
  · rename_i located
    rw [located]
    rfl
  · rename_i located
    rw [located]
    split <;> rfl

/-- A login leaves its session with the user it signed in, without one, or as it
    was; other sessions do not change. -/
theorem login_sessions (req : Request) (w : World) {sid : SessionId} {account : SessionUser}
    (live : (login req w).1.sessions sid = some account) :
    w.sessions sid = some account ∨ (sid = req.session ∧
      (attemptAuthentication req.directory w.store req.now req.credentials).2 = .ok account) := by
  unfold login at live
  split at live
  · rename_i located
    simp only [World.setSession, Function.update_apply] at live
    split at live
    · rename_i here
      obtain rfl := Option.some.inj live
      exact .inr ⟨here, by rw [located]⟩
    · exact .inl live
  · split at live
    · simp only [World.setSession, Function.update_apply] at live
      split at live
      · cases live
      · exact .inl live
    · exact .inl live

/-- A session that is there after a request was there before it, or the request
    is the login that started it. -/
theorem step_sessions {rt : Runtime} {w : World} {req : Request} {sid : SessionId}
    {account : SessionUser} (live : (World.step rt w req).sessions sid = some account) :
    w.sessions sid = some account ∨ (sid = req.session ∧
      passage req (w.roles req.session) = .login ∧
      (attemptAuthentication req.directory w.store req.now req.credentials).2 = .ok account) := by
  rw [step_eq] at live
  split at live
  · exact .inl live
  · exact .inl live
  · simp only [World.setSession, Function.update_apply] at live
    split at live
    · cases live
    · exact .inl live
  · rename_i signsIn
    exact (login_sessions req w live).imp_right fun started => ⟨started.1, signsIn, started.2⟩
  · exact .inl live

end WuRegalia
