import WuRegalia.Workflow.Decisions

/-! # Who is told

The confirmations and decisions that submitting, accepting, rejecting and
renting send. A mail should go to the stored address of the user its request or
reservation belongs to. Renting reads that address off the user's row; the other
actions take the one of whoever is signed in, which is the right one when a user
acts for herself.
-/

namespace WuRegalia.Notices

open Relational RequestController Availability
open Workflow (Unreachable)

/-- The address is the stored one of the user. -/
def StoredEmail (t : Tables) (owner : Option Id) (email : String) : Prop :=
  ∃ id ∈ owner, ∃ user ∈ t.user.find id, email = user.email

instance (t : Tables) (owner : Option Id) (email : String) : Decidable (StoredEmail t owner email) :=
  inferInstanceAs (Decidable (∃ _ ∈ _, ∃ _ ∈ _, _))

/-- The user a mail is about: the one its request, or the reservation of its item,
    belongs to. A request the step has removed is looked up before it. -/
def belongsTo (before after : Tables) : MailBody → Option Id
  | .rentUserConfirm item _ _ _ | .rentOverdueNotify item _ _ =>
      (after.referencing item).head?.map (fun row => row.2.userid)
  | .donationRequestReceived id | .donationRequestAccepted id | .donationRequestRejected id
  | .specialRequestReceived id | .specialRequestAccepted id | .specialRequestRejected id =>
      ((after.inventory.find id).or (before.inventory.find id)).bind Inventory.user

/-- The mail is the confirmation or the decision of the operation. -/
def Announces (t : Tables) : Operation → MailBody → Prop
  | .submit kind _ _ _, body => body = (texts kind).received.2 t.inventory.nextId
  | .accept kind _ record, body => body = (texts kind).accepted.2 record
  | .reject kind _ record, body => body = (texts kind).rejected.2 record
  | .rent _ item _, body => ∃ user duedate admin, body = .rentUserConfirm item user duedate admin
  | .delete _, _ => False

/-- A mail is due: the submission or the rent succeeds, the decision changes
    something. -/
def Due (rt : Runtime) (s : Store) : Operation → Prop
  | .submit kind sessionUser method payload =>
      let outcome := act rt s (.submit kind sessionUser method payload)
      outcome.store ≠ s ∧ ∃ response, outcome.result = .ok response
  | .rent sessionUser item now =>
      let outcome := act rt s (.rent sessionUser item now)
      outcome.store ≠ s ∧ ∃ response, outcome.result = .ok response
  | .accept kind sessionUser record => (act rt s (.accept kind sessionUser record)).store ≠ s
  | .reject kind sessionUser record => (act rt s (.reject kind sessionUser record)).store ≠ s
  | .delete _ => False

/-- Every mail goes to the user it is about; one is sent when it is due, and none
    otherwise. -/
structure Notifies (rt : Runtime) (s : Store) (operation : Operation) : Prop where
  addressed : ∀ mail ∈ (act rt s operation).mail,
    StoredEmail s.toTables (belongsTo s.toTables (act rt s operation).store.toTables mail.body)
      mail.recipient
  once : Due rt s operation →
    ∃ mail, (act rt s operation).mail = [mail] ∧ Announces s.toTables operation mail.body
  silent : ¬ Due rt s operation → (act rt s operation).mail = []

/-- A mail to the session user is accepted and reaches the user. -/
def Reaches (rt : Runtime) (t : Tables) (sessionUser : Option SessionUser) (owner : Option Id) :
    Prop :=
  ∃ account ∈ sessionUser, rt.acceptsAddress account.email = true ∧
    StoredEmail t owner account.email

instance (rt : Runtime) (t : Tables) (sessionUser : Option SessionUser) (owner : Option Id) :
    Decidable (Reaches rt t sessionUser owner) :=
  inferInstanceAs (Decidable (∃ _ ∈ _, _ ∧ _))

/-- Whoever submits is signed in under the stored address, or cannot be sent a
    mail; whoever decides has the stored address of the record's owner, or finds
    nothing to decide and, where the record had arrived, cannot be sent a mail. -/
def NotifiesOwner (rt : Runtime) (s : Store) : Operation → Prop
  | .submit kind sessionUser method payload =>
      ∀ row ∈ submitted kind sessionUser s.toTables method payload, ∀ account ∈ sessionUser,
        rt.acceptsAddress account.email = true → StoredEmail s.toTables row.user account.email
  | .accept _ sessionUser record =>
      ∀ item ∈ s.inventory.find record, ∀ arrival ∈ s.findStatus "PENDING_ARRIVAL",
        if item.itemStatus = arrival then Unreachable rt sessionUser
        else Reaches rt s.toTables sessionUser item.user
  | .reject _ sessionUser record =>
      ∀ item ∈ s.inventory.find record,
        s.Reserved record ∨ Reaches rt s.toTables sessionUser item.user
  | .rent .. | .delete .. => True

theorem mailToUser_of_unreachable {rt : Runtime} {sessionUser : Option SessionUser}
    (unreachable : Unreachable rt sessionUser) (text : String × (Id → MailBody)) (id : Id)
    (next : Except Exception Response) :
    ∃ e, mailToUser rt sessionUser text id next = ([], .error e) := by
  cases sessionUser with
  | none => exact ⟨_, rfl⟩
  | some account =>
      refine ⟨.rfcCompliance account.email, ?_⟩
      simp only [mailToUser, sendMail, unreachable account rfl, Bool.false_eq_true, if_false]

theorem mailToUser_of_accepted {rt : Runtime} {account : SessionUser}
    (accepted : rt.acceptsAddress account.email = true) (text : String × (Id → MailBody)) (id : Id)
    (next : Except Exception Response) :
    mailToUser rt (some account) text id next =
      ([⟨text.1, senderAddress, account.email, text.2 id⟩], next) := by
  simp only [mailToUser, sendMail, accepted, if_true]

theorem reachable_of_not {rt : Runtime} {sessionUser : Option SessionUser}
    (reachable : ¬ Unreachable rt sessionUser) :
    ∃ account, sessionUser = some account ∧ rt.acceptsAddress account.email = true := by
  simp only [Unreachable, Option.mem_def, not_forall, Bool.not_eq_false] at reachable
  obtain ⟨account, signedIn, accepted⟩ := reachable
  exact ⟨account, signedIn, accepted⟩

theorem not_reaches_of_unreachable {rt : Runtime} {t : Tables} {sessionUser : Option SessionUser}
    {owner : Option Id} (unreachable : Unreachable rt sessionUser) :
    ¬ Reaches rt t sessionUser owner := by
  intro reaches
  obtain ⟨account, signedIn, accepted, -⟩ := reaches
  simp [unreachable account signedIn] at accepted

/-- An operation that changes the store and then writes to the session user, the mail
    being about a record of `owner`. -/
theorem notifies_of_changes {rt : Runtime} {s u : Store} {operation : Operation}
    {sessionUser : Option SessionUser} {text : String × (Id → MailBody)} {id : Id}
    {next : Except Exception Response} {owner : Option Id}
    (outcome : act rt s operation = ⟨u, (mailToUser rt sessionUser text id next).1,
      (mailToUser rt sessionUser text id next).2⟩)
    (owned : belongsTo s.toTables u.toTables (text.2 id) = owner)
    (announces : Announces s.toTables operation (text.2 id)) (due : Due rt s operation) :
    Notifies rt s operation ↔ Reaches rt s.toTables sessionUser owner := by
  by_cases unreachable : Unreachable rt sessionUser
  · obtain ⟨e, failed⟩ := mailToUser_of_unreachable unreachable text id next
    refine iff_of_false (fun notifies => ?_) (not_reaches_of_unreachable unreachable)
    obtain ⟨mail, sent, -⟩ := notifies.once due
    simp [outcome, failed] at sent
  · obtain ⟨account, rfl, accepted⟩ := reachable_of_not unreachable
    rw [mailToUser_of_accepted accepted] at outcome
    constructor
    · intro notifies
      have there := notifies.addressed ⟨text.1, senderAddress, account.email, text.2 id⟩
        (by simp [outcome])
      rw [outcome] at there
      simp only [owned] at there
      exact ⟨account, rfl, accepted, there⟩
    · intro reaches
      obtain ⟨other, signedIn, -, stored⟩ := reaches
      obtain rfl := Option.some.inj signedIn
      refine ⟨fun mail sent => ?_, fun _ => ?_, fun undue => absurd due undue⟩
      · rw [outcome] at sent ⊢
        obtain rfl := List.mem_singleton.mp sent
        simpa only [owned] using stored
      · exact ⟨_, by rw [outcome], announces⟩

/-- An operation that sends nothing, none being due. -/
theorem notifies_of_silence {rt : Runtime} {s : Store} {operation : Operation}
    (silent : (act rt s operation).mail = []) (undue : ¬ Due rt s operation) :
    Notifies rt s operation where
  addressed := by simp [silent]
  once := fun due => absurd due undue
  silent := fun _ => silent

/-- A decision that changes nothing writes to the session user when it can. -/
theorem notifies_of_no_change {rt : Runtime} {s : Store} {operation : Operation}
    {sessionUser : Option SessionUser} {text : String × (Id → MailBody)} {id : Id}
    {next : Except Exception Response}
    (sent : (act rt s operation).mail = (mailToUser rt sessionUser text id next).1)
    (undue : ¬ Due rt s operation) : Notifies rt s operation ↔ Unreachable rt sessionUser := by
  rw [← Workflow.mailToUser_nil rt sessionUser text id next, ← sent]
  exact ⟨fun notifies => notifies.silent undue, fun silent => notifies_of_silence silent undue⟩

theorem notifies_submit (rt : Runtime) (s : Store) (kind : RequestKind)
    (sessionUser : Option SessionUser) (method : Method) (payload : Payload) :
    Notifies rt s (.submit kind sessionUser method payload) ↔
      NotifiesOwner rt s (.submit kind sessionUser method payload) := by
  cases indexAction_cases kind rt sessionUser method payload s with
  | inr nothing =>
      obtain ⟨none, store, silent⟩ := nothing
      refine iff_of_true (notifies_of_silence silent fun due => due.1 store) ?_
      simp [NotifiesOwner, none]
  | inl inserted =>
      obtain ⟨row, u, accepted, after, changed, outcome⟩ := inserted
      have guard : NotifiesOwner rt s (.submit kind sessionUser method payload) ↔
          ∀ account ∈ sessionUser, rt.acceptsAddress account.email = true →
            StoredEmail s.toTables row.user account.email := by
        simp only [NotifiesOwner, accepted, Option.mem_some_iff, forall_eq']
      rw [guard]
      by_cases unreachable : Unreachable rt sessionUser
      · obtain ⟨e, failed⟩ := mailToUser_of_unreachable unreachable (texts kind).received
          s.inventory.nextId (.ok (.render (texts kind).successTemplate .nothing))
        have ends : act rt s (.submit kind sessionUser method payload) = ⟨u, [], .error e⟩ := by
          rw [act, outcome, finishSubmit, failed]
        refine iff_of_true (notifies_of_silence (by rw [ends]) fun due => ?_) ?_
        · obtain ⟨-, response, answered⟩ := due
          rw [ends] at answered
          cases answered
        · intro account signedIn accepts
          simp [unreachable account signedIn] at accepts
      · obtain ⟨account, rfl, accepts⟩ := reachable_of_not unreachable
        have found : u.inventory.find s.inventory.nextId = some row := by
          rw [after]
          exact s.inventory.find_insert_self row
        have owned : belongsTo s.toTables u.toTables
            ((texts kind).received.2 s.inventory.nextId) = row.user := by
          cases kind <;> simp [texts, belongsTo, found]
        have due : Due rt s (.submit kind (some account) method payload) := by
          refine ⟨by rw [act, outcome]; exact changed, .render (texts kind).successTemplate .nothing, ?_⟩
          rw [act, outcome, finishSubmit, mailToUser_of_accepted accepts]
        have sent : act rt s (.submit kind (some account) method payload) =
            ⟨u, (mailToUser rt (some account) (texts kind).received s.inventory.nextId
                (.ok (.render (texts kind).successTemplate .nothing))).1,
              (mailToUser rt (some account) (texts kind).received s.inventory.nextId
                (.ok (.render (texts kind).successTemplate .nothing))).2⟩ := outcome
        rw [notifies_of_changes sent owned rfl due]
        simp [Reaches, accepts]

theorem notifies_accept (rt : Runtime) (s : Store) (kind : RequestKind)
    (sessionUser : Option SessionUser) (record : Id) :
    Notifies rt s (.accept kind sessionUser record) ↔
      NotifiesOwner rt s (.accept kind sessionUser record) := by
  cases adminChangeStatusAction_cases kind rt sessionUser record s with
  | inr nothing =>
      obtain ⟨missing, e, raised⟩ := nothing
      have silent : (act rt s (.accept kind sessionUser record)).mail = [] := by rw [act, raised]; rfl
      refine iff_of_true (notifies_of_silence silent fun due => due ?_) ?_
      · rw [act, raised]
        rfl
      · rcases missing with noRecord | noStatus
        · simp [NotifiesOwner, noRecord]
        · simp [NotifiesOwner, noStatus]
  | inl applied =>
      obtain ⟨item, arrival, u, present, located, after, changes, outcome⟩ := applied
      simp only [NotifiesOwner, present, located, Option.mem_some_iff, forall_eq']
      by_cases arrived : item.itemStatus = arrival
      · rw [if_pos arrived]
        refine notifies_of_no_change (by rw [act, outcome]; rfl) fun due => due ?_
        rw [act, outcome]
        exact changes.mpr arrived
      · have found : u.inventory.find record = some (item.setItemStatus arrival) := by
          rw [after, Tables.changeItemStatus_find, if_pos ⟨rfl, arrived⟩, present]
          rfl
        have owned : belongsTo s.toTables u.toTables ((texts kind).accepted.2 record) = item.user := by
          cases kind <;> simp [texts, belongsTo, found, Inventory.setItemStatus]
        have due : Due rt s (.accept kind sessionUser record) := by
          rw [Due, act, outcome]
          exact mt changes.mp arrived
        rw [if_neg arrived]
        exact notifies_of_changes outcome owned rfl due

theorem notifies_reject (rt : Runtime) (s : Store) (kind : RequestKind)
    (sessionUser : Option SessionUser) (record : Id) :
    Notifies rt s (.reject kind sessionUser record) ↔
      NotifiesOwner rt s (.reject kind sessionUser record) := by
  cases adminRejectSpecialRequestAction_cases kind rt sessionUser record s with
  | inr nothing =>
      obtain ⟨stopped, e, raised⟩ := nothing
      have silent : (act rt s (.reject kind sessionUser record)).mail = [] := by rw [act, raised]; rfl
      refine iff_of_true (notifies_of_silence silent fun due => due ?_) ?_
      · rw [act, raised]
        rfl
      · rcases stopped with noRecord | reserved
        · simp [NotifiesOwner, noRecord]
        · exact fun item _ => .inl reserved
  | inl applied =>
      obtain ⟨item, u, present, free, after, changed, outcome⟩ := applied
      have gone : u.inventory.find record = none := by
        rw [after]
        simp [Tables.deleteInventory, Table.find_delete]
      have owned : belongsTo s.toTables u.toTables ((texts kind).rejected.2 record) = item.user := by
        cases kind <;> simp [texts, belongsTo, gone, present]
      have due : Due rt s (.reject kind sessionUser record) := by
        rw [Due, act, outcome]
        exact changed
      simp only [NotifiesOwner, present, Option.mem_some_iff, forall_eq', free, false_or]
      exact notifies_of_changes outcome owned rfl due

/-- The reservation of an item that had none is the one a rent inserts. -/
theorem referencing_write {s : Store} {rent : RentController.Rent} (free : ¬ s.Reserved rent.itemid) :
    (RentController.write rent s.toTables).referencing rent.itemid =
      [(s.reservation.nextId, .construct rent.userid rent.itemid rent.now)] := by
  have before : s.reservation.rows.filter (fun row => row.2.item = rent.itemid) = [] := by
    by_contra some
    exact free (Tables.reserved_iff_referencing.mpr some)
  simp [Tables.referencing, Table.findBy, RentController.write_reservation, Table.insert, before,
    Reservation.construct]

/-- Renting reads the address off the row. -/
theorem notifies_rent (rt : Runtime) (s : Store) (sessionUser : Option SessionUser) (item : Id)
    (now : DateTime) : Notifies rt s (.rent sessionUser item now) := by
  cases RentController.rentAction_cases rt sessionUser item now s with
  | inr stopped =>
      obtain ⟨-, store, silent⟩ := stopped
      exact notifies_of_silence silent fun due => due.1 store
  | inl applied =>
      obtain ⟨rent, u, decides, free, after, changed, outcome⟩ := applied
      obtain ⟨rfl, -, -, ⟨account, -, -, row⟩, -⟩ := RentController.load_decides.mp decides
      by_cases confirms : RentController.Confirms rt rent.user
      · obtain ⟨admin, -, finished⟩ := RentController.finish_of_confirms confirms
        have sent : act rt s (.rent sessionUser rent.itemid now) =
            ⟨u, [RentController.confirmation rent admin], .ok (.render "rent/rent.html.twig"
              (.item rent.itemid (rent.item.setItemStatus rent.rent_status)))⟩ := by
          rw [act, outcome, finished]
        have due : Due rt s (.rent sessionUser rent.itemid now) := by
          simp only [Due, sent]
          exact ⟨changed, _, rfl⟩
        refine ⟨fun mail member => ?_, fun _ => ?_, fun undue => absurd due undue⟩
        · rw [sent] at member ⊢
          obtain rfl := List.mem_singleton.mp member
          simp only [RentController.confirmation, belongsTo, after, referencing_write free]
          exact ⟨rent.userid, rfl, rent.user, (Tables.findUser_some row).1, rfl⟩
        · exact ⟨_, by rw [sent], _, _, _, rfl⟩
      · obtain ⟨e, failed⟩ := RentController.finish_of_not_confirms confirms
        have ends : act rt s (.rent sessionUser rent.itemid now) = ⟨u, [], .error e⟩ := by
          simp only [act, outcome, failed]
        apply notifies_of_silence (by rw [ends])
        intro due
        obtain ⟨-, response, answered⟩ := due
        rw [ends] at answered
        cases answered

theorem notifies_iff (rt : Runtime) (s : Store) (operation : Operation) :
    Notifies rt s operation ↔ NotifiesOwner rt s operation := by
  cases operation with
  | submit kind sessionUser method payload => exact notifies_submit rt s kind sessionUser method payload
  | accept kind sessionUser record => exact notifies_accept rt s kind sessionUser record
  | reject kind sessionUser record => exact notifies_reject rt s kind sessionUser record
  | rent sessionUser item now => exact iff_of_true (notifies_rent rt s sessionUser item now) trivial
  | delete reservation =>
      refine iff_of_true (notifies_of_silence ?_ id) trivial
      cases ReservationController.deleteAction_cases reservation s with
      | inl applied =>
          obtain ⟨ret, u, -, -, -, outcome⟩ := applied
          rw [act, outcome]
      | inr unchanged => exact unchanged.2.2

/-- In a run every mail goes to the user it is about, once and only when it is due,
    exactly when every submission and every decision is made under the stored address
    of the owner, or cannot send a mail where none is due. -/
theorem notices_reach_owner (rt : Runtime) (c : Closet) (operations : List Operation) :
    (∀ move ∈ Run.steps (step rt) c operations, Notifies rt move.1.store move.2) ↔
      ∀ move ∈ Run.steps (step rt) c operations, NotifiesOwner rt move.1.store move.2 :=
  forall₂_congr fun move _ => notifies_iff rt move.1.store move.2

/-- A user donates an item, an administrator accepts it, and the administrator is
    told. -/
theorem decision_mailed_to_administrator : ¬ ∀ (rt : Runtime) (c : Closet)
    (operations : List Operation),
    ∀ move ∈ Run.steps (step rt) c operations, Notifies rt move.1.store move.2 := by
  intro claim
  have donated := claim .sample ⟨.sample, []⟩
    [.submit .donation (some .sampleUser) .post RequestForm.sample,
      .accept .donation (some .sampleAdmin) 4] _ (List.mem_cons_of_mem _ List.mem_cons_self)
  have addressed := donated.addressed
    ⟨"Donation Request Accepted", senderAddress, "smitha@winthrop.edu", .donationRequestAccepted 4⟩
    (by decide)
  exact absurd addressed (by decide)

end WuRegalia.Notices
