import WuRegalia.Routing
import WuRegalia.Security.SessionUser

/-! # `donationRequestController` and `specialRequestController`

The two controllers are the same code up to the status, the mails and the
templates they name. Submitting is one request and one flush; accepting and
rejecting are split at their flush like renting.
-/

namespace WuRegalia.RequestController

/-- What one controller names differently from the other. -/
structure Texts where
  /-- The status of a request that has not been decided. -/
  pending : String
  newTemplate : String
  successTemplate : String
  adminTemplate : String
  received : String × (Id → MailBody)
  accepted : String × (Id → MailBody)
  rejected : String × (Id → MailBody)

def texts : RequestKind → Texts
  | .donation =>
      { pending := "PENDING_DONATION"
        newTemplate := "donationRequest/new.html.twig"
        successTemplate := "donationRequest/success.html.twig"
        adminTemplate := "donationRequest/admin.html.twig"
        received := ("Donation Request Confirmation", .donationRequestReceived)
        accepted := ("Donation Request Accepted", .donationRequestAccepted)
        rejected := ("Donation Request Rejected", .donationRequestRejected) }
  | .special =>
      { pending := "PENDING_SPECIAL"
        newTemplate := "specialRequest/new.html.twig"
        successTemplate := "specialRequest/success.html.twig"
        adminTemplate := "specialRequest/admin.html.twig"
        received := ("Special Request Confirmation", .specialRequestReceived)
        accepted := ("Special Request Accepted", .specialRequestAccepted)
        rejected := ("Special Request Rejected", .specialRequestRejected) }

/-- A mail to the address of the session user; without one the action fails. -/
def mailToUser (rt : Runtime) (sessionUser : Option SessionUser) (text : String × (Id → MailBody))
    (id : Id) (next : Except Exception Response) : List Mail × Except Exception Response :=
  match sessionUser with
  | none => ([], .error .nullDereference)
  | some user =>
      let mail : Mail :=
        { subject := text.1, sender := senderAddress, recipient := user.email, body := text.2 id }
      sendMail rt mail next

/-- The row of the session user, `findOneBy(array('username' => getUser()))`. -/
def owner (sessionUser : Option SessionUser) (t : Tables) : Option Id :=
  match sessionUser with
  | none => none
  | some user => (t.findUser user.username).map Prod.fst

def indexAction (kind : RequestKind) (rt : Runtime) (sessionUser : Option SessionUser)
    (method : Method) (payload : Payload) (s : Store) : Outcome :=
  match payload.handle "form" .post method with
  | some submission =>
      if RequestForm.isValid s.toTables submission then
        match s.findStatus (texts kind).pending, owner sessionUser s.toTables with
        | some status, some user =>
            s.persist ((RequestForm.read s.toTables submission).row status user)
              Tables.insertInventory
              (fun _ => mailToUser rt sessionUser (texts kind).received s.inventory.nextId
                (.ok (.render (texts kind).successTemplate .nothing)))
        | _, _ => .raise s .typeError
      else .answer s (.render (texts kind).newTemplate .nothing)
  | none => .answer s (.render (texts kind).newTemplate .nothing)

/-- The row a submission inserts, when the form accepts it and is complete. -/
def submitted (kind : RequestKind) (sessionUser : Option SessionUser) (t : Tables)
    (method : Method) (payload : Payload) : Option Inventory :=
  match payload.handle "form" .post method with
  | some submission =>
      if RequestForm.isValid t submission then
        match t.findStatus (texts kind).pending, owner sessionUser t with
        | some status, some user => (RequestForm.read t submission).row status user
        | _, _ => none
      else none
  | none => none

/-- Whatever was submitted, the row is pending and belongs to the session user. -/
theorem submitted_some {kind : RequestKind} {sessionUser : Option SessionUser} {t : Tables}
    {method : Method} {payload : Payload} {row : Inventory}
    (accepted : submitted kind sessionUser t method payload = some row) :
    t.findStatus (texts kind).pending = some row.itemStatus ∧ row.user = owner sessionUser t ∧
      (owner sessionUser t).isSome := by
  unfold submitted at accepted
  split at accepted
  · split at accepted
    · split at accepted
      · rename_i status user pending owned
        obtain ⟨rfl, belongs⟩ := RequestForm.row_some accepted
        exact ⟨pending, belongs.trans owned.symm, by rw [owned]; rfl⟩
      · cases accepted
    · cases accepted
  · cases accepted

theorem indexAction_store (kind : RequestKind) (rt : Runtime) (sessionUser : Option SessionUser)
    (method : Method) (payload : Payload) (s : Store) :
    (indexAction kind rt sessionUser method payload s).store =
      match submitted kind sessionUser s.toTables method payload with
      | some row => s.committed (Tables.insertInventory row)
      | none => s := by
  unfold indexAction submitted
  cases payload.handle "form" .post method with
  | none => rfl
  | some submission =>
      simp only
      cases RequestForm.isValid s.toTables submission with
      | false => rfl
      | true =>
          simp only [if_true]
          cases s.findStatus (texts kind).pending with
          | none => rfl
          | some status =>
              cases owner sessionUser s.toTables with
              | none => rfl
              | some user =>
                  simp only
                  cases (RequestForm.read s.toTables submission).row status user with
                  | none => rfl
                  | some row => exact s.transact_store _ _

/-- Every key of a submitted row was looked up or chosen. -/
theorem submitted_grounded {kind : RequestKind} {sessionUser : Option SessionUser} {t : Tables}
    {method : Method} {payload : Payload} {row : Inventory}
    (accepted : submitted kind sessionUser t method payload = some row) : t.Grounded row := by
  unfold submitted at accepted
  split at accepted
  · split at accepted
    · split at accepted
      · rename_i status user pending owned
        obtain ⟨statusRow, statusFound, -⟩ := Tables.findStatus_some pending
        have ownerFound : ∃ account, t.user.find user = some account := by
          unfold owner at owned
          split at owned
          · cases owned
          · obtain ⟨⟨id, account⟩, located, rfl⟩ := Option.map_eq_some_iff.mp owned
            exact ⟨account, (Tables.findUser_some located).1⟩
        simp only [RequestForm.row, Option.bind_eq_bind, Option.bind_eq_some_iff, Option.pure_def,
          Option.some.injEq] at accepted
        obtain ⟨itemType, type, itemColor, color, itemSchool, school, itemMajor, major, -, -, rfl⟩ :=
          accepted
        exact
          { itemStatus := ⟨statusRow, statusFound⟩
            itemType := Submission.entity_value type
            itemColor := Submission.entity_value color
            itemSchool := Submission.entity_value school
            itemMajor := Submission.entity_value major
            user := fun id owns => Option.some.inj owns ▸ ownerFound }
      · cases accepted
    · cases accepted
  · cases accepted

/-- No constraint stops a submission. -/
theorem indexAction_tables (kind : RequestKind) (rt : Runtime)
    (sessionUser : Option SessionUser) (method : Method) (payload : Payload) (s : Store) :
    (indexAction kind rt sessionUser method payload s).store.toTables =
      match submitted kind sessionUser s.toTables method payload with
      | some row => s.insertInventory row
      | none => s.toTables := by
  rw [indexAction_store]
  cases accepted : submitted kind sessionUser s.toTables method payload with
  | none => rfl
  | some row => exact Store.committed_of_valid (s.valid.insertInventory (submitted_grounded accepted))

/-- What comes after the flush of a submission. -/
def finishSubmit (kind : RequestKind) (rt : Runtime) (sessionUser : Option SessionUser) (id : Id) :
    List Mail × Except Exception Response :=
  mailToUser rt sessionUser (texts kind).received id
    (.ok (.render (texts kind).successTemplate .nothing))

/-- A submission inserts its row and confirms it, or leaves the store as it was and
    sends nothing. -/
theorem indexAction_cases (kind : RequestKind) (rt : Runtime) (sessionUser : Option SessionUser)
    (method : Method) (payload : Payload) (s : Store) :
    (∃ row u, submitted kind sessionUser s.toTables method payload = some row ∧
        u.toTables = s.insertInventory row ∧ u ≠ s ∧
        indexAction kind rt sessionUser method payload s =
          ⟨u, (finishSubmit kind rt sessionUser s.inventory.nextId).1,
            (finishSubmit kind rt sessionUser s.inventory.nextId).2⟩) ∨
      (submitted kind sessionUser s.toTables method payload = none ∧
        (indexAction kind rt sessionUser method payload s).store = s ∧
        (indexAction kind rt sessionUser method payload s).mail = []) := by
  cases accepted : submitted kind sessionUser s.toTables method payload with
  | some row =>
      have valid := s.valid.insertInventory (submitted_grounded accepted)
      obtain ⟨u, after, outcome⟩ := Store.transact_of_valid valid
        (fun _ => finishSubmit kind rt sessionUser s.inventory.nextId)
      have changed : u ≠ s := by
        intro same
        have count := congrArg (fun t => t.inventory.nextId) (same ▸ after)
        simp [Tables.insertInventory] at count
      refine .inl ⟨row, u, rfl, after, changed, ?_⟩
      rw [← outcome]
      unfold submitted at accepted
      unfold indexAction
      split at accepted
      · rename_i submission handled
        split at accepted
        · rename_i formValid
          split at accepted
          · rename_i status user pending owned
            simp only [formValid, if_true, accepted, Store.persist, finishSubmit]
          · cases accepted
        · cases accepted
      · cases accepted
  | none =>
      refine .inr ⟨rfl, ?_, ?_⟩
      · rw [indexAction_store, accepted]
      · unfold submitted at accepted
        unfold indexAction
        split
        · rename_i submission handled
          simp only [handled] at accepted
          split
          · rename_i formValid
            simp only [formValid, if_true] at accepted
            split
            · rename_i status user pending owned
              simp only [pending, owned] at accepted
              rw [accepted]
              rfl
            · rfl
          · rfl
        · rfl

/-- The requests of one kind that are still to be decided. -/
def undecided (kind : RequestKind) (t : Tables) : List (Id × Inventory) :=
  match t.findStatus (texts kind).pending with
  | some status => t.findByItemStatus status
  | none => []

def adminPage (kind : RequestKind) (t : Tables) : Response :=
  .render (texts kind).adminTemplate (.items (undecided kind t))

def adminAction (kind : RequestKind) (s : Store) : Outcome := .answer s (adminPage kind s.toTables)

/-- What accepting has read: the record as loaded and the key of
    `PENDING_ARRIVAL`. -/
structure Accept where
  recordid : Id
  record : Inventory
  status : Id
  deriving DecidableEq, Repr

def loadAccept (inventoryRequest : Id) (t : Tables) : Loaded Accept :=
  match t.inventory.find inventoryRequest, t.findStatus "PENDING_ARRIVAL" with
  | none, _ => .ends (.error .nullDereference)
  | some _, none => .ends (.error .typeError)
  | some record, some status => .decides ⟨inventoryRequest, record, status⟩

def writeAccept (accept : Accept) (t : Tables) : Tables :=
  t.changeItemStatus accept.recordid accept.record accept.status

def finishAccept (kind : RequestKind) (rt : Runtime) (sessionUser : Option SessionUser)
    (accept : Accept) (s : Store) : List Mail × Except Exception Response :=
  mailToUser rt sessionUser (texts kind).accepted accept.recordid (.ok (adminPage kind s.toTables))

def adminChangeStatusAction (kind : RequestKind) (rt : Runtime) (sessionUser : Option SessionUser)
    (inventoryRequest : Id) (s : Store) : Outcome :=
  s.proceed (loadAccept inventoryRequest s.toTables) writeAccept
    (finishAccept kind rt sessionUser)

/-- Rejecting has read the key of a record that was there. -/
structure Reject where
  recordid : Id
  deriving DecidableEq, Repr

def loadReject (inventoryRequest : Id) (t : Tables) : Loaded Reject :=
  match t.inventory.find inventoryRequest with
  | none => .ends (.error .invalidObject)
  | some _ => .decides ⟨inventoryRequest⟩

def writeReject (reject : Reject) (t : Tables) : Tables :=
  t.deleteInventory reject.recordid

def finishReject (kind : RequestKind) (rt : Runtime) (sessionUser : Option SessionUser)
    (reject : Reject) (s : Store) : List Mail × Except Exception Response :=
  mailToUser rt sessionUser (texts kind).rejected reject.recordid (.ok (adminPage kind s.toTables))

/-- Both controllers call it `adminRejectSpecialRequestAction`. -/
def adminRejectSpecialRequestAction (kind : RequestKind) (rt : Runtime)
    (sessionUser : Option SessionUser) (inventoryRequest : Id) (s : Store) : Outcome :=
  s.proceed (loadReject inventoryRequest s.toTables) writeReject
    (finishReject kind rt sessionUser)

/-- An acceptance sets the status and goes on to its mail, or finds no record or no
    status `PENDING_ARRIVAL`. -/
theorem adminChangeStatusAction_cases (kind : RequestKind) (rt : Runtime)
    (sessionUser : Option SessionUser) (id : Id) (s : Store) :
    (∃ item arrival u, s.inventory.find id = some item ∧
        s.findStatus "PENDING_ARRIVAL" = some arrival ∧
        u.toTables = s.changeItemStatus id item arrival ∧ (u = s ↔ item.itemStatus = arrival) ∧
        adminChangeStatusAction kind rt sessionUser id s =
          ⟨u, (finishAccept kind rt sessionUser ⟨id, item, arrival⟩ u).1,
            (finishAccept kind rt sessionUser ⟨id, item, arrival⟩ u).2⟩) ∨
      ((s.inventory.find id = none ∨ s.findStatus "PENDING_ARRIVAL" = none) ∧
        ∃ e, adminChangeStatusAction kind rt sessionUser id s = .raise s e) := by
  unfold adminChangeStatusAction loadAccept
  cases present : s.inventory.find id with
  | none => exact .inr ⟨.inl rfl, _, rfl⟩
  | some item =>
      cases located : s.findStatus "PENDING_ARRIVAL" with
      | none => exact .inr ⟨.inr rfl, _, rfl⟩
      | some arrival =>
          obtain ⟨status, row, -⟩ := Tables.findStatus_some located
          have valid : (writeAccept ⟨id, item, arrival⟩ s.toTables).Valid :=
            s.valid.changeItemStatus id item row
          obtain ⟨u, after, outcome⟩ := Store.transact_of_valid valid
            (finishAccept kind rt sessionUser ⟨id, item, arrival⟩)
          have changes : u = s ↔ item.itemStatus = arrival := by
            constructor
            · intro same
              have written : u.inventory.find id = if item.itemStatus = arrival then some item
                  else some (item.setItemStatus arrival) := by
                rw [after, writeAccept, Tables.changeItemStatus_find, present]
                by_cases arrived : item.itemStatus = arrival <;> simp [arrived]
              by_contra differs
              rw [same, present, if_neg differs] at written
              exact differs (congrArg Inventory.itemStatus (Option.some.inj written))
            · intro arrived
              apply Store.eq_of_toTables
              rw [after, writeAccept, Tables.changeItemStatus, if_pos arrived]
          exact .inl ⟨item, arrival, u, rfl, rfl, after, changes, outcome⟩

/-- A rejection removes the record and goes on to its mail, or finds none or one
    that is reserved. -/
theorem adminRejectSpecialRequestAction_cases (kind : RequestKind) (rt : Runtime)
    (sessionUser : Option SessionUser) (id : Id) (s : Store) :
    (∃ item u, s.inventory.find id = some item ∧ ¬ s.Reserved id ∧
        u.toTables = s.deleteInventory id ∧ u ≠ s ∧
        adminRejectSpecialRequestAction kind rt sessionUser id s =
          ⟨u, (finishReject kind rt sessionUser ⟨id⟩ u).1,
            (finishReject kind rt sessionUser ⟨id⟩ u).2⟩) ∨
      ((s.inventory.find id = none ∨ s.Reserved id) ∧
        ∃ e, adminRejectSpecialRequestAction kind rt sessionUser id s = .raise s e) := by
  unfold adminRejectSpecialRequestAction loadReject
  have valid : (writeReject ⟨id⟩ s.toTables).Valid ↔ ¬ s.Reserved id := s.valid.deleteInventory id
  cases present : s.inventory.find id with
  | none => exact .inr ⟨.inl rfl, _, rfl⟩
  | some item =>
      by_cases reserved : s.Reserved id
      · exact .inr ⟨.inr reserved, _,
          Store.transact_of_invalid (fun applied => valid.mp applied reserved) _⟩
      · obtain ⟨u, after, outcome⟩ := Store.transact_of_valid (valid.mpr reserved)
          (finishReject kind rt sessionUser ⟨id⟩)
        have changed : u ≠ s := by
          intro same
          have gone : u.inventory.find id = none := by
            rw [after]
            simp [writeReject, Tables.deleteInventory, Relational.Table.find_delete]
          rw [same, present] at gone
          cases gone
        exact .inl ⟨item, u, rfl, reserved, after, changed, outcome⟩

end WuRegalia.RequestController

namespace WuRegalia.donationRequestController

open RequestController

def indexAction := RequestController.indexAction .donation
def adminAction := RequestController.adminAction .donation
def adminChangeStatusAction := RequestController.adminChangeStatusAction .donation
def adminRejectSpecialRequestAction := RequestController.adminRejectSpecialRequestAction .donation

end WuRegalia.donationRequestController

namespace WuRegalia.specialRequestController

open RequestController

def indexAction := RequestController.indexAction .special
def adminAction := RequestController.adminAction .special
def adminChangeStatusAction := RequestController.adminChangeStatusAction .special
def adminRejectSpecialRequestAction := RequestController.adminRejectSpecialRequestAction .special

end WuRegalia.specialRequestController
