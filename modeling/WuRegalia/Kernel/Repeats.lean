import WuRegalia.Kernel.Effect
import WuRegalia.Lending.Snapshot

/-! # Requests that come again

A page is reloaded, a button is pressed twice. A request that comes again right after
itself finds what it has done already, and does nothing: the one exception are requests
that enter an item, and they enter another one each time.
-/

namespace WuRegalia

open Relational

section Writes

variable (t : Tables) (id : Id)

theorem updateUser_again (row : User) :
    Tables.updateUser id row (t.updateUser id row) = t.updateUser id row :=
  congrArg (fun user => { t with user }) (t.user.update_const_again id row)

theorem updateReservation_again (row : Reservation) :
    Tables.updateReservation id row (t.updateReservation id row) = t.updateReservation id row :=
  congrArg (fun reservation => { t with reservation }) (t.reservation.update_const_again id row)

theorem updateInventory_again (row : Inventory) :
    Tables.updateInventory id row (t.updateInventory id row) = t.updateInventory id row :=
  congrArg (fun inventory => { t with inventory }) (t.inventory.update_const_again id row)

theorem deleteUser_again : Tables.deleteUser id (t.deleteUser id) = t.deleteUser id :=
  congrArg (fun user => { t with user }) (t.user.delete_again id)

theorem deleteInventory_again :
    Tables.deleteInventory id (t.deleteInventory id) = t.deleteInventory id :=
  congrArg (fun inventory => { t with inventory }) (t.inventory.delete_again id)

theorem insertUser_again (row : User) : ¬ (Tables.insertUser row (t.insertUser row)).Valid :=
  fun valid => t.user.not_unique_insert_insert row User.username valid.userUsername

theorem insertReservation_again (row : Reservation) :
    ¬ (Tables.insertReservation row (t.insertReservation row)).Valid :=
  fun valid => t.reservation.not_unique_insert_insert row Reservation.item valid.reservationItem

theorem insertNamed_again (kind : NamedKind) (row : NamedEntity) :
    let write := fun t : Tables => NamedController.set t kind ((NamedController.get t kind).insert row)
    ¬ (write (write t)).Valid := by
  intro write valid
  cases kind with
  | status => exact t.status.not_unique_insert_insert row _ valid.statusName
  | itemType => exact t.itemType.not_unique_insert_insert row _ valid.itemTypeName
  | color => exact t.color.not_unique_insert_insert row _ valid.colorName
  | school => exact t.school.not_unique_insert_insert row _ valid.schoolName
  | major => exact t.major.not_unique_insert_insert row _ valid.majorName

/-- A change of one table that absorbs itself, written back. -/
theorem setNamed_again (kind : NamedKind) (change : Table NamedEntity → Table NamedEntity)
    (absorbs : ∀ table, change (change table) = change table) :
    let write := fun t : Tables => NamedController.set t kind (change (NamedController.get t kind))
    write (write t) = write t := by
  intro write
  cases kind with
  | status => exact congrArg (fun status => { t with status }) (absorbs t.status)
  | itemType => exact congrArg (fun itemType => { t with itemType }) (absorbs t.itemType)
  | color => exact congrArg (fun color => { t with color }) (absorbs t.color)
  | school => exact congrArg (fun school => { t with school }) (absorbs t.school)
  | major => exact congrArg (fun major => { t with major }) (absorbs t.major)

end Writes

section Forms

variable {s : Store} {method : Method} {payload : Payload} {id : Id}

/-- A form whose choices are still the same saves the same row. -/
theorem save_again {α : Type} {form again : FormType α}
    (same : again.submitted method payload = form.submitted method payload)
    {write : α → Tables → Tables}
    (absorbs : ∀ row, write row (write row s.toTables) = write row s.toTables ∨
      ¬ (write row (write row s.toTables)).Valid)
    {saved savedAgain : Except Exception Response} {page pageAgain : Response} :
    (again.save method payload write savedAgain pageAgain
      (form.save method payload write saved page s).store).store =
      (form.save method payload write saved page s).store := by
  simp only [FormType.save_store, same]
  cases form.submitted method payload with
  | none => rfl
  | some row => exact Store.committed_again (absorbs row)

theorem deleteEntity_again {remove : Tables → Tables}
    (absorbs : remove (remove s.toTables) = remove s.toTables)
    {redirect : Except Exception Response} :
    (deleteEntity method payload redirect remove
      (deleteEntity method payload redirect remove s).store).store =
      (deleteEntity method payload redirect remove s).store := by
  simp only [deleteEntity_store]
  split
  · exact Store.committed_again (.inl absorbs)
  · rfl

theorem userEdit_again :
    (UserController.editAction method payload id
      (UserController.editAction method payload id s).store).store =
      (UserController.editAction method payload id s).store := by
  unfold UserController.editAction
  cases found : s.user.find id with
  | none => simp only [Outcome.raise_store, found]
  | some old =>
      simp only
      split
      · rfl
      · exact save_again rfl fun row => .inl (updateUser_again s.toTables id row)

theorem userDelete_again :
    (UserController.deleteAction method payload id
      (UserController.deleteAction method payload id s).store).store =
      (UserController.deleteAction method payload id s).store := by
  unfold UserController.deleteAction
  cases found : s.user.find id with
  | none => simp only [Outcome.raise_store, found]
  | some old =>
      simp only
      split
      · rfl
      · exact deleteEntity_again (deleteUser_again s.toTables id)

theorem namedEdit_again (kind : NamedKind) :
    (NamedController.editAction kind method payload id
      (NamedController.editAction kind method payload id s).store).store =
      (NamedController.editAction kind method payload id s).store := by
  unfold NamedController.editAction
  cases found : (NamedController.get s.toTables kind).find id with
  | none => simp only [Outcome.raise_store, found]
  | some old =>
      simp only
      split
      · rfl
      · refine save_again rfl fun row => .inl ?_
        exact setNamed_again s.toTables kind (fun table => table.update id fun _ => row)
          fun table => table.update_const_again id row

theorem namedDelete_again (kind : NamedKind) :
    (NamedController.deleteAction kind method payload id
      (NamedController.deleteAction kind method payload id s).store).store =
      (NamedController.deleteAction kind method payload id s).store := by
  unfold NamedController.deleteAction
  cases found : (NamedController.get s.toTables kind).find id with
  | none => simp only [Outcome.raise_store, found]
  | some old =>
      simp only
      split
      · rfl
      · refine deleteEntity_again ?_
        exact setNamed_again s.toTables kind (fun table => table.delete id)
          fun table => table.delete_again id

theorem inventoryDelete_again :
    (InventoryController.deleteAction method payload id
      (InventoryController.deleteAction method payload id s).store).store =
      (InventoryController.deleteAction method payload id s).store := by
  unfold InventoryController.deleteAction
  cases found : s.inventory.find id with
  | none => simp only [Outcome.raise_store, found]
  | some old =>
      simp only
      split
      · rfl
      · exact deleteEntity_again (deleteInventory_again s.toTables id)

/-- The tables without the items. -/
def Tables.withoutInventory (t : Tables) : Tables := { t with inventory := .empty }

/-- The tables without the reservations. -/
def Tables.withoutReservation (t : Tables) : Tables := { t with reservation := .empty }

/-- No item is a choice of the form for items. -/
theorem inventoryType_eq {t u : Tables} (same : u.withoutInventory = t.withoutInventory) :
    InventoryType u = InventoryType t := by
  have forms : InventoryType u.withoutInventory = InventoryType t.withoutInventory := by rw [same]
  exact forms

theorem reservationType_eq {t u : Tables} (same : u.withoutReservation = t.withoutReservation) :
    ReservationType u = ReservationType t := by
  have forms : ReservationType u.withoutReservation = ReservationType t.withoutReservation := by
    rw [same]
  exact forms

theorem inventoryEdit_again :
    (InventoryController.editAction method payload id
      (InventoryController.editAction method payload id s).store).store =
      (InventoryController.editAction method payload id s).store := by
  unfold InventoryController.editAction
  cases found : s.inventory.find id with
  | none => simp only [Outcome.raise_store, found]
  | some old =>
      simp only
      by_cases null : ((InventoryType s.toTables).handle method payload).any (fun submission =>
          (InventoryForm.read s.toTables submission).setsNull old) = true
      · simp only [null, if_true, Outcome.raise_store, found]
      · simp only [null, Bool.false_eq_true, if_false]
        split
        · rfl
        · split
          · rfl
          · refine save_again ?_ fun row => .inl (updateInventory_again s.toTables id row)
            refine congrArg (FormType.submitted · method payload) (inventoryType_eq ?_)
            exact FormType.save_keeps _ _ _ (Tables.updateInventory id) _ _ s
              Tables.withoutInventory fun _ _ => rfl

theorem reservationNew_again :
    (ReservationController.newAction method payload
      (ReservationController.newAction method payload s).store).store =
      (ReservationController.newAction method payload s).store := by
  refine save_again ?_ fun row => .inr (insertReservation_again s.toTables row)
  refine congrArg (FormType.submitted · method payload) (reservationType_eq ?_)
  exact FormType.save_keeps _ _ _ Tables.insertReservation _ _ s Tables.withoutReservation
    fun _ _ => rfl

theorem reservationEdit_again :
    (ReservationController.editAction method payload id
      (ReservationController.editAction method payload id s).store).store =
      (ReservationController.editAction method payload id s).store := by
  unfold ReservationController.editAction
  cases found : s.reservation.find id with
  | none => simp only [Outcome.raise_store, found]
  | some old =>
      simp only
      by_cases null : ((ReservationType s.toTables).handle method payload).any (fun submission =>
          (ReservationForm.read s.toTables submission).setsNull) = true
      · simp only [null, if_true, Outcome.raise_store, found]
      · simp only [null, Bool.false_eq_true, if_false]
        split
        · rfl
        · split
          · rfl
          · refine save_again ?_ fun row => .inl (updateReservation_again s.toTables id row)
            refine congrArg (FormType.submitted · method payload) (reservationType_eq ?_)
            exact FormType.save_keeps _ _ _ (Tables.updateReservation id) _ _ s
              Tables.withoutReservation fun _ _ => rfl

end Forms

section Lending

variable {rt : Runtime} {sessionUser : Option SessionUser} {id : Id} {s : Store}

/-- What was rented is reserved, and what was refused is refused at any time. -/
theorem rent_again (now later : DateTime) :
    (RentController.rentAction rt sessionUser id later
      (RentController.rentAction rt sessionUser id now s).store).store =
      (RentController.rentAction rt sessionUser id now s).store := by
  cases RentController.rentAction_cases rt sessionUser id later
    (RentController.rentAction rt sessionUser id now s).store with
  | inr refused => exact refused.2.1
  | inl rented =>
      obtain ⟨again, -, decides, free, -⟩ := rented
      exfalso
      cases RentController.rentAction_cases rt sessionUser id now s with
      | inl first =>
          obtain ⟨rent, u, loaded, -, after, -, outcome⟩ := first
          obtain ⟨rfl, -⟩ := RentController.load_decides.mp loaded
          rw [outcome, after] at free
          exact free ((RentController.reserved_write rent s.toTables rent.itemid).mpr (.inl rfl))
      | inr first =>
          obtain ⟨stopped, same, -⟩ := first
          rw [same] at decides free
          obtain ⟨rfl, -, facts⟩ := RentController.load_decides.mp decides
          have before : RentController.load sessionUser again.itemid now s.toTables =
              .decides { again with now } := RentController.load_decides.mpr ⟨rfl, rfl, facts⟩
          rw [before] at stopped
          exact stopped.elim (fun none => nomatch none) free

theorem return_again :
    (ReservationController.deleteAction id (ReservationController.deleteAction id s).store).store =
      (ReservationController.deleteAction id s).store := by
  cases ReservationController.deleteAction_cases id s with
  | inr stopped => rw [stopped.2.1, stopped.2.1]
  | inl returned =>
      obtain ⟨ret, u, decides, after, -, outcome⟩ := returned
      obtain ⟨rfl, -⟩ := ReservationController.load_decides.mp decides
      have gone : u.reservation.find ret.reservation = none := by
        rw [after, ReservationController.write_reservation]
        exact (Table.find_delete _ _ _).trans (if_pos rfl)
      rw [outcome]
      cases ReservationController.deleteAction_cases ret.reservation u with
      | inr stopped => exact stopped.2.1
      | inl again =>
          obtain ⟨later, -, found, -⟩ := again
          obtain ⟨-, ⟨reservation, there, -⟩, -⟩ := ReservationController.load_decides.mp found
          rw [gone] at there
          cases there

/-- An accepted item is not accepted anew. -/
theorem accept_again (kind : RequestKind) :
    (RequestController.adminChangeStatusAction kind rt sessionUser id
      (RequestController.adminChangeStatusAction kind rt sessionUser id s).store).store =
      (RequestController.adminChangeStatusAction kind rt sessionUser id s).store := by
  cases RequestController.adminChangeStatusAction_cases kind rt sessionUser id s with
  | inr stopped =>
      obtain ⟨-, e, raised⟩ := stopped
      rw [raised, Outcome.raise_store, raised, Outcome.raise_store]
  | inl accepted =>
      obtain ⟨item, arrival, u, found, known, after, -, outcome⟩ := accepted
      rw [outcome]
      cases RequestController.adminChangeStatusAction_cases kind rt sessionUser id u with
      | inr stopped =>
          obtain ⟨-, e, raised⟩ := stopped
          rw [raised, Outcome.raise_store]
      | inl again =>
          obtain ⟨row, status, v, there, listed, -, unchanged, outcomeAgain⟩ := again
          have arrived : u.inventory.find id = some (item.setItemStatus arrival) := by
            rw [after, Tables.changeItemStatus_find_of_present _ _ _ _ found, if_pos rfl]
          have same : status = arrival := by
            have kept : u.findStatus "PENDING_ARRIVAL" = s.findStatus "PENDING_ARRIVAL" := by
              rw [after]
              exact (s.sameStock_changeItemStatus id item arrival).findStatus _
            exact Option.some.inj (listed.symm.trans (kept.trans known))
          rw [outcomeAgain]
          refine unchanged.mpr ?_
          rw [← Option.some.inj (arrived.symm.trans there), same, Inventory.setItemStatus]

theorem reject_again (kind : RequestKind) :
    (RequestController.adminRejectSpecialRequestAction kind rt sessionUser id
      (RequestController.adminRejectSpecialRequestAction kind rt sessionUser id s).store).store =
      (RequestController.adminRejectSpecialRequestAction kind rt sessionUser id s).store := by
  cases RequestController.adminRejectSpecialRequestAction_cases kind rt sessionUser id s with
  | inr stopped =>
      obtain ⟨-, e, raised⟩ := stopped
      rw [raised, Outcome.raise_store, raised, Outcome.raise_store]
  | inl rejected =>
      obtain ⟨item, u, -, -, after, -, outcome⟩ := rejected
      have gone : u.inventory.find id = none := by
        rw [after, Tables.deleteInventory]
        exact (Table.find_delete _ _ _).trans (if_pos rfl)
      rw [outcome]
      cases RequestController.adminRejectSpecialRequestAction_cases kind rt sessionUser id u with
      | inr stopped =>
          obtain ⟨-, e, raised⟩ := stopped
          rw [raised, Outcome.raise_store]
      | inl again =>
          obtain ⟨row, -, there, -⟩ := again
          rw [gone] at there
          cases there

end Lending

/-- The action enters items. -/
def Action.enters : Action → Bool
  | .inventory .new | .requestIndex _ => true
  | _ => false

/-- What enters no item does nothing when it comes again, at any time. -/
theorem dispatch_again (rt : Runtime) {action : Action} (quiet : action.enters = false)
    (args : List (List Char)) (req : Request) (now : DateTime) (sessionUser : Option SessionUser)
    (s : Store) :
    let u := (dispatch rt action args req sessionUser s).store
    (dispatch rt action args { req with now } sessionUser u).store = u := by
  intro u
  cases writes : action.writes with
  | false => rw [dispatch_of_not_writes writes]
  | true =>
      cases action with
      | rentItem => exact rent_again req.now now
      | reservationDelete => exact return_again
      | requestAccept kind => exact accept_again kind
      | requestReject kind => exact reject_again kind
      | requestIndex kind => cases quiet
      | reservationNew => exact reservationNew_again
      | reservationEdit => exact reservationEdit_again
      | inventory crud =>
          cases crud with
          | index | «show» => cases writes
          | new => cases quiet
          | edit => exact inventoryEdit_again
          | delete => exact inventoryDelete_again
      | user crud =>
          cases crud with
          | index | «show» => cases writes
          | new => exact save_again rfl fun row => .inr (insertUser_again s.toTables row)
          | edit => exact userEdit_again
          | delete => exact userDelete_again
      | named kind crud =>
          cases crud with
          | index | «show» => cases writes
          | new => exact save_again rfl fun row => .inr (insertNamed_again s.toTables kind row)
          | edit => exact namedEdit_again kind
          | delete => exact namedDelete_again kind
      | account | homepage | filter | downloadUser | downloadAdmin | login | rentShow | reportsIndex
      | report | reservationIndex | reservationNotify | requestAdmin | logout => cases writes

/-- A form for an item enters it, and enters another one when it comes again. -/
theorem enters_again {f : Store → Store} (entered : Tables → Option Inventory)
    (acts : ∀ s, (f s).toTables = match entered s.toTables with
      | some row => s.insertInventory row
      | none => s.toTables)
    (blind : ∀ t : Tables, entered t.withoutInventory = entered t) (s : Store) :
    f (f s) = f s ↔ (f s).inventory.nextId = s.inventory.nextId := by
  have first := acts s
  have second := acts (f s)
  cases row : entered s.toTables with
  | none =>
      rw [row] at first
      have same : f s = s := Store.eq_of_toTables first
      rw [same, same]
      exact iff_of_true rfl rfl
  | some item =>
      rw [row] at first
      have still : entered (f s).toTables = some item := by
        rw [← blind, first]
        exact (blind s.toTables).trans row
      rw [still] at second
      have count : (f s).inventory.nextId = s.inventory.nextId + 1 := by
        rw [first]
        rfl
      have countAgain : (f (f s)).inventory.nextId = (f s).inventory.nextId + 1 := by
        rw [second]
        rfl
      refine iff_of_false (fun same => ?_) (by omega)
      rw [same] at countAgain
      omega

theorem spares_nextId {action : Action} (quiet : action.enters = false) :
    action.Spares fun t => t.inventory.nextId := by
  cases action with
  | rentItem => exact fun rent t => Tables.changeItemStatus_nextId _ _ _ t
  | reservationDelete => exact fun ret t => Tables.changeItemStatus_nextId _ _ _ t
  | requestAccept kind => exact fun accept t => Tables.changeItemStatus_nextId _ _ _ t
  | inventory crud =>
      cases crud with
      | index | «show» => trivial
      | new => cases quiet
      | edit => exact fun _ _ _ => rfl
      | delete => exact fun _ _ => rfl
  | user crud =>
      cases crud with
      | index | «show» => trivial
      | new | delete => exact fun _ _ => rfl
      | edit => exact fun _ _ _ => rfl
  | named kind crud =>
      have spares : ∀ table t,
          (NamedController.set t kind table).inventory.nextId = t.inventory.nextId := by
        intro table t
        cases kind <;> rfl
      cases crud with
      | index | «show» => trivial
      | new | edit | delete => exact spares
  | requestIndex kind => cases quiet
  | requestReject | reservationNew => exact fun _ _ => rfl
  | reservationEdit => exact fun _ _ _ => rfl
  | account | homepage | filter | downloadUser | downloadAdmin | login | rentShow | reportsIndex
  | report | reservationIndex | reservationNotify | requestAdmin | logout => trivial

/-- An action that comes again does nothing exactly if it has entered no item. -/
theorem dispatch_again_iff (rt : Runtime) (action : Action) (args : List (List Char))
    (req : Request) (now : DateTime) (sessionUser : Option SessionUser) (s : Store) :
    let u := (dispatch rt action args req sessionUser s).store
    (dispatch rt action args { req with now } sessionUser u).store = u ↔
      u.inventory.nextId = s.inventory.nextId := by
  intro u
  cases enters : action.enters with
  | false =>
      refine iff_of_true (dispatch_again rt enters args req now sessionUser s) ?_
      exact dispatch_keeps rt (fun t => t.inventory.nextId) (spares_nextId enters) args req
        sessionUser s
  | true =>
      cases action with
      | inventory crud =>
          cases crud with
          | new =>
              exact enters_again (fun t => (InventoryType t).submitted req.method req.payload)
                (InventoryController.newAction_tables req.method req.payload) (fun _ => rfl) s
          | index | «show» | edit | delete => cases enters
      | requestIndex kind =>
          exact enters_again
            (fun t => RequestController.submitted kind sessionUser t req.method req.payload)
            (RequestController.indexAction_tables kind rt sessionUser req.method req.payload)
            (fun _ => rfl) s
      | _ => cases enters

section Logins

open LdapSessionUserProvider

variable (dir : Directory) (s : Store)

theorem checkDatabase_again (now later : DateTime) (userToken : SessionUser) :
    checkDatabase (checkDatabase s now userToken).1 later userToken =
      checkDatabase s now userToken := by
  rcases checkDatabase_cases s now userToken with
    ⟨id, user, found, result⟩ | ⟨-, row, u, built, after, result⟩ | ⟨absent, full, result⟩
  · rw [result]
    simp only [checkDatabase, found]
  · rw [result]
    have there : u.user.find s.user.nextId = some row := by
      rw [after]
      exact s.user.find_insert_self row
    have named := userRow_username built
    rcases checkDatabase_cases u later userToken with
      ⟨id, user, found, again⟩ | ⟨⟨absent, -⟩, -⟩ | ⟨absent, -⟩
    · obtain ⟨located, same⟩ := Tables.findUser_some found
      obtain rfl := u.valid.userUsername.eq located there (same.trans named.symm)
      obtain rfl := Option.some.inj (located.symm.trans there)
      have ordinary : user.isAdmin = false := by
        obtain ⟨fname, -, rfl⟩ := Option.map_eq_some_iff.mp built
        rfl
      rw [again, ordinary, if_neg Bool.false_ne_true]
    · exact absurd named (Tables.findUser_none.mp absent _ row there)
    · exact absurd named (Tables.findUser_none.mp absent _ row there)
  · rw [result]
    rcases checkDatabase_cases s later userToken with
      ⟨id, user, found, -⟩ | ⟨adds, -⟩ | ⟨-, -, again⟩
    · rw [absent] at found
      cases found
    · exact absurd adds full
    · exact again

theorem loadUserByUsername_again (now later : DateTime) (username : String) :
    loadUserByUsername dir (loadUserByUsername dir s now username).1 later username =
      loadUserByUsername dir s now username := by
  unfold loadUserByUsername
  cases dir.reachable with
  | false => rfl
  | true =>
      simp only [if_true]
      match dir.find (query (escape username)) with
      | [] => rfl
      | [entry] => exact checkDatabase_again s now later _
      | _ :: _ :: _ => rfl

theorem attemptAuthentication_again (now later : DateTime) (c : Credentials) :
    attemptAuthentication dir (attemptAuthentication dir s now c).1 later c =
      attemptAuthentication dir s now c := by
  have loaded := loadUserByUsername_again dir s now later c.username
  unfold attemptAuthentication
  split
  · split
    · rfl
    · rcases first : loadUserByUsername dir s now c.username with ⟨u, result⟩
      rw [first] at loaded
      cases result with
      | error e => simp only [loaded]
      | ok user =>
          simp only
          cases dir.bind c.username c.password with
          | true => simp only [if_true, loaded]
          | false => simp only [Bool.false_eq_true, if_false, loaded]
  · rfl

end Logins

abbrev Sessions := SessionId → Option SessionUser

/-- The database and the sessions, without the mails that were sent. -/
def World.state (w : World) : Store × Sessions := (w.store, w.sessions)

/-- How a login leaves the sessions. -/
def loggedIn (sid : SessionId) (result : Except Exception SessionUser) (sessions : Sessions) :
    Sessions :=
  match result with
  | .ok user => Function.update sessions sid (some user)
  | .error e => if isAuthenticationException e then Function.update sessions sid none else sessions

theorem loggedIn_again (sid : SessionId) (result : Except Exception SessionUser)
    (sessions : Sessions) :
    loggedIn sid result (loggedIn sid result sessions) = loggedIn sid result sessions := by
  cases result with
  | ok user => simp only [loggedIn, Function.update_idem]
  | error e =>
      simp only [loggedIn]
      split
      · rw [Function.update_idem]
      · rfl

/-- What a request does to the database and the sessions. -/
def advance (rt : Runtime) (req : Request) (state : Store × Sessions) : Store × Sessions :=
  match passage req (rolesOf (state.2 req.session)) with
  | .noRoute | .denied => state
  | .logout => (state.1, Function.update state.2 req.session none)
  | .login =>
      let attempt := attemptAuthentication req.directory state.1 req.now req.credentials
      (attempt.1, loggedIn req.session attempt.2 state.2)
  | .action action args =>
      ((dispatch rt action args req (state.2 req.session) state.1).store, state.2)

/-- The mails that were sent are looked at by no request. -/
theorem state_step (rt : Runtime) (w : World) (req : Request) :
    (World.step rt w req).state = advance rt req w.state := by
  rw [step_eq]
  unfold advance World.roles World.state
  cases passage req (rolesOf (w.sessions req.session)) with
  | noRoute | denied | logout | action => rfl
  | login =>
      simp only
      unfold login loggedIn
      rcases attemptAuthentication req.directory w.store req.now req.credentials with ⟨u, result⟩
      cases result with
      | ok user => rfl
      | error e =>
          simp only
          cases isAuthenticationException e <;> rfl

/-- The firewall answers for itself whatever the session is. -/
theorem passage_firewall {req : Request} {roles : List Role}
    (firewall : passage req roles = .logout ∨ passage req roles = .login) (other : List Role) :
    passage req other = passage req roles := by
  unfold passage at firewall ⊢
  split
  · rfl
  · rename_i route args fits
    simp only [fits] at firewall
    split
    · rfl
    · rename_i stays
      simp only [if_neg stays] at firewall
      split
      · rfl
      · rename_i ordinary
        simp only [if_neg ordinary] at firewall
        cases granted : accessGranted req.host req.path roles <;> simp [granted] at firewall

/-- A request that comes again, at any time, does nothing exactly if it has entered no item. -/
theorem advance_again (rt : Runtime) (req : Request) (now : DateTime) (state : Store × Sessions) :
    advance rt { req with now } (advance rt req state) = advance rt req state ↔
      (advance rt req state).1.inventory.nextId = state.1.inventory.nextId := by
  have passes : ∀ roles, passage { req with now } roles = passage req roles := fun _ => rfl
  cases first : passage req (rolesOf (state.2 req.session)) with
  | noRoute | denied =>
      have same : advance rt req state = state := by
        rw [advance, first]
      have again : advance rt { req with now } state = state := by
        rw [advance, passes, first]
      rw [same, again]
      exact iff_of_true rfl rfl
  | logout =>
      have same : advance rt req state = (state.1, Function.update state.2 req.session none) := by
        rw [advance, first]
      rw [same, advance, passes, passage_firewall (.inl first), first]
      exact iff_of_true (congrArg (state.1, ·) (Function.update_idem _ _ _)) rfl
  | login =>
      have attempted := attemptAuthentication_again req.directory state.1 req.now now req.credentials
      have same : advance rt req state =
          ((attemptAuthentication req.directory state.1 req.now req.credentials).1,
            loggedIn req.session
              (attemptAuthentication req.directory state.1 req.now req.credentials).2 state.2) := by
        rw [advance, first]
      rw [same, advance, passes, passage_firewall (.inr first), first]
      simp only [attempted, loggedIn_again, true_iff]
      have writes := attemptAuthentication_writes req.directory state.1 req.now req.credentials
      generalize (attemptAuthentication req.directory state.1 req.now req.credentials).1 = u
        at writes ⊢
      cases writes with
      | nothing => rfl
      | added row after ordinary => rw [after]; rfl
  | action action args =>
      have same : advance rt req state =
          ((dispatch rt action args req (state.2 req.session) state.1).store, state.2) := by
        rw [advance, first]
      rw [same, advance, passes, first]
      simp only [Prod.mk.injEq, and_true]
      exact dispatch_again_iff rt action args req now _ state.1

/-- Right after itself a request does nothing to the database and the sessions, exactly if
    it has entered no item. -/
theorem request_again (rt : Runtime) (w : World) (req : Request) (now : DateTime) :
    let v := World.step rt w req
    (World.step rt v { req with now }).state = v.state ↔
      v.store.inventory.nextId = w.store.inventory.nextId := by
  intro v
  have seen : v.state = advance rt req w.state := state_step rt w req
  have exactly := advance_again rt req now w.state
  rw [← seen, ← state_step rt v] at exactly
  exact exactly

/-- A run in which requests come again, any number of times, ends like the run in which
    each comes once, if none of those that come again has entered an item. -/
theorem requests_again (rt : Runtime) {w : World} {requests : List (Request × List Request)}
    (again : ∀ sent ∈ requests, ∀ req ∈ sent.2, ∃ now, req = { sent.1 with now })
    (quiet : ∀ move ∈ Run.steps (fun v (sent : Request × List Request) => World.step rt v sent.1)
      w requests, move.2.2 ≠ [] →
        (World.step rt move.1 move.2.1).store.inventory.nextId = move.1.store.inventory.nextId) :
    (Run.final (World.step rt) w (Run.repeated requests)).state =
      (Run.final (World.step rt) w (requests.map Prod.fst)).state := by
  have blind : ∀ v u (req : Request), World.state v = World.state u →
      (World.step rt v req).state = (World.step rt u req).state := by
    intro v u req same
    rw [state_step, state_step, same]
  refine Run.final_repeated World.state blind rfl ?_
  intro move inside req comes
  obtain ⟨now, rfl⟩ := again move.2 (Run.event_of_mem_steps _ inside) req comes
  have entered := quiet move inside (List.ne_nil_of_mem comes)
  have exactly := advance_again rt move.2.1 now move.1.state
  rw [← state_step, ← state_step] at exactly
  exact exactly.mpr entered

/-- A request and the times at which it comes again. -/
def Request.resent (req : Request) (times : List DateTime) : Request × List Request :=
  (req, times.map fun now => { req with now })

/-- Bob clicks twice at his login and three times at a gown, and Ann twice at the request
    he has submitted once. -/
def Request.clicked : List (Request × List Request) :=
  [(Request.signIn 1 "jonesb").resent [1], (Request.visit 1 .get "/rent/1").resent [1, 2],
    (Request.post 1 "/donation_request" RequestForm.sample).resent [],
    (Request.signIn 0 "smitha").resent [],
    (Request.visit 0 .get "/admin/donation_request/status/4").resent [5]]

theorem requests_again_sample :
    (Run.final (World.step .sample) .sample (Run.repeated Request.clicked)).state =
      (Run.final (World.step .sample) .sample (Request.clicked.map Prod.fst)).state := by
  refine requests_again .sample ?_ (by decide)
  intro sent inside req comes
  simp only [Request.clicked, List.mem_cons, List.not_mem_nil, or_false] at inside
  rcases inside with rfl | rfl | rfl | rfl | rfl
  all_goals
    obtain ⟨now, -, rfl⟩ := List.mem_map.mp comes
    exact ⟨now, rfl⟩

end WuRegalia
