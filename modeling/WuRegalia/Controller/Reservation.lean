import WuRegalia.Controller.Generated
import WuRegalia.Routing

/-! # `ReservationController`

A return is split like a rent; the forms for reservations write the reservation
row alone.
-/

namespace WuRegalia.ReservationController

def indexAction (s : Store) : Outcome :=
  .answer s (.render "reservation/index.html.twig" (.reservations s.reservation.findAll))

/-- `new Reservation()` leaves user and item null for the form to fill. -/
def newAction (method : Method) (payload : Payload) (s : Store) : Outcome :=
  (ReservationType s.toTables).save method payload Tables.insertReservation
    (redirectToRoute "reservation_show" (some s.reservation.nextId))
    (.render "reservation/new.html.twig" .nothing) s

/-- No class under `AppBundle` defines `isLate`. -/
def isLate (_reservation : Reservation) : Except Exception Bool :=
  .error (.undefinedMethod "isLate")

def overdueNotice (item user : Id) (email admin : String) : Mail where
  subject := "Overdue Rental"
  sender := senderAddress
  recipient := email
  body := .rentOverdueNotify item user admin

/-- The loop of `notifyAction` over the reservations still to be looked at. -/
def notifyLoop (rt : Runtime) (t : Tables) :
    List (Id × Reservation) → List Mail × Except Exception Response
  | [] => ([], redirectToRoute "reservation_index" none)
  | (_, reservation) :: rest =>
      match isLate reservation with
      | .error e => ([], .error e)
      | .ok false => notifyLoop rt t rest
      | .ok true =>
          match t.user.find reservation.userid, rt.appAdmin with
          | some user, some admin =>
              let mail := overdueNotice reservation.item reservation.userid user.email admin
              if rt.acceptsAddress mail.recipient then
                let (mails, result) := notifyLoop rt t rest
                (mail :: mails, result)
              else ([], .error (.rfcCompliance mail.recipient))
          | some _, none => ([], .error (.undefinedParameter "app.admin"))
          | none, _ => ([], .error .nullDereference)

def notifyAction (rt : Runtime) (s : Store) : Outcome :=
  let (mails, result) := notifyLoop rt s.toTables s.reservation.findAll
  ⟨s, mails, result⟩

/-- The form is mapped to the entity before it is validated. -/
def editAction (method : Method) (payload : Payload) (id : Id) (s : Store) : Outcome :=
  match s.reservation.find id with
  | none => .raise s .notFound
  | some reservation =>
      let form := ReservationType s.toTables
      if (form.handle method payload).any
          (fun submission => (ReservationForm.read s.toTables submission).setsNull) then
        .raise s .typeError
      else
        form.save method payload (Tables.updateReservation id)
          (redirectToRoute "reservation_edit" (some id))
          (.render "reservation/edit.html.twig" (.reservation id reservation)) s

theorem editAction_store (method : Method) (payload : Payload) (id : Id) (s : Store) :
    (editAction method payload id s).store =
      match s.reservation.find id, (ReservationType s.toTables).submitted method payload with
      | some _, some row => s.committed (Tables.updateReservation id row)
      | _, _ => s := by
  unfold editAction
  cases s.reservation.find id with
  | none => rfl
  | some old =>
      simp only
      cases accepted : (ReservationType s.toTables).submitted method payload with
      | none =>
          split
          · rfl
          · simp only [FormType.save_store, accepted]
      | some row =>
          obtain ⟨submission, handled, -, built⟩ := FormType.submitted_some accepted
          have complete := ReservationForm.setsNull_of_row built
          simp only [handled, Option.any_some, complete, Bool.false_eq_true, if_false,
            FormType.save_store, accepted]

/-- What a return has read and is about to write: the reservation, its item as
    loaded and the key of `AVAL`. -/
structure Return where
  reservation : Id
  itemid : Id
  item : Inventory
  status : Id
  deriving DecidableEq, Repr

def load (id : Id) (t : Tables) : Loaded Return :=
  match t.reservation.find id with
  | none => .ends (.error .notFound)
  | some reservation =>
      match t.findStatus "AVAL", t.inventory.find reservation.item with
      | some status, some item => .decides ⟨id, reservation.item, item, status⟩
      | none, _ => .ends (.error .typeError)
      | some _, none => .ends (.error .notFound)

/-- Deleting a row that is gone does nothing. -/
def write (ret : Return) (t : Tables) : Tables :=
  (t.changeItemStatus ret.itemid ret.item ret.status).deleteReservation ret.reservation

def deleteAction (id : Id) (s : Store) : Outcome :=
  s.proceed (load id s.toTables) write (fun _ _ => ([], redirectToRoute "reservation_index" none))

end WuRegalia.ReservationController
