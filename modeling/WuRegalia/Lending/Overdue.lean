import WuRegalia.Controller.Rent
import WuRegalia.Controller.Reservation

/-! # Overdue rentals

Two places ask a reservation whether it is late: the loop that sends the notices
and the column of the reservation list. The method they call is defined nowhere,
which ends the loop at the first reservation and goes unnoticed in the list,
unless templates are strict.
-/

namespace WuRegalia.Overdue

open ReservationController

/-- `reservation.isLate()` in a template: a method that is not there is an error in
    debug mode, where variables are strict, and null otherwise. -/
def columnOf (debug : Bool) (reservation : Reservation) : Except Exception Bool :=
  match isLate reservation with
  | .error (.undefinedMethod name) => if debug then .error (.undefinedMethod name) else .ok false
  | result => result

/-- The rows that reservation/index.html.twig shows with Overdue: Yes. -/
def shownOverdue (debug : Bool) :
    List (Id × Reservation) → Except Exception (List (Id × Reservation))
  | [] => .ok []
  | row :: rest =>
      match columnOf debug row.2, shownOverdue debug rest with
      | .ok true, .ok overdue => .ok (row :: overdue)
      | .ok false, .ok overdue => .ok overdue
      | .error e, _ => .error e
      | _, .error e => .error e

/-- The reservations that are due before the time. -/
def late (now : DateTime) (t : Tables) : List (Id × Reservation) :=
  t.reservation.findBy (fun reservation => reservation.dueDate < now)

/-- The mail is a notice about the reservation: to its user, naming its item. -/
structure IsNotice (t : Tables) (row : Id × Reservation) (mail : Mail) : Prop where
  subject : mail.subject = "Overdue Rental"
  recipient : (t.user.find row.2.userid).map User.email = some mail.recipient
  body : ∃ admin, mail.body = .rentOverdueNotify row.2.item row.2.userid admin

/-- Every late renter gets one notice and nobody else gets any, nothing is written,
    and the list shows the same reservations as overdue. -/
structure NotifiesLate (rt : Runtime) (debug : Bool) (now : DateTime) (s : Store) : Prop where
  completes : ∃ response, (notifyAction rt s).result = .ok response
  notices : ∃ mails, mails.Perm (notifyAction rt s).mail ∧
    List.Forall₂ (IsNotice s.toTables) (late now s.toTables) mails
  store : (notifyAction rt s).store = s
  shown : shownOverdue debug s.reservation.findAll = .ok (late now s.toTables)

/-- The first reservation ends the loop, late or not. -/
theorem notifyLoop_eq (rt : Runtime) (t : Tables) (rows : List (Id × Reservation)) :
    notifyLoop rt t rows =
      match rows with
      | [] => ([], redirectToRoute "reservation_index" none)
      | _ :: _ => ([], .error (.undefinedMethod "isLate")) := by
  cases rows <;> rfl

/-- Nobody is ever notified. -/
theorem notifyAction_mail (rt : Runtime) (s : Store) : (notifyAction rt s).mail = [] := by
  simp only [notifyAction, notifyLoop_eq]
  split <;> rfl

/-- The notices reach exactly the late renters when there is no reservation at all,
    and not otherwise. -/
theorem notifiesLate_iff (rt : Runtime) (debug : Bool) (now : DateTime) (s : Store) :
    NotifiesLate rt debug now s ↔ s.reservation.findAll = [] := by
  constructor
  · intro notifies
    obtain ⟨response, completed⟩ := notifies.completes
    simp only [notifyAction, notifyLoop_eq] at completed
    split at completed
    · assumption
    · cases completed
  · intro empty
    have nobody : late now s.toTables = [] := by
      have rows : s.reservation.rows = [] := empty
      simp [late, Relational.Table.findBy, rows]
    have redirects : redirectToRoute "reservation_index" none =
        .ok (.redirect "reservation_index" none) := by decide
    constructor
    case completes =>
      refine ⟨.redirect "reservation_index" none, ?_⟩
      simp only [notifyAction, empty, notifyLoop, redirects]
    case notices =>
      refine ⟨[], ?_, ?_⟩
      · rw [notifyAction_mail]
      · rw [nobody]
        exact .nil
    case store => rfl
    case shown =>
      rw [empty, nobody]
      rfl

/-- Bob has rented a gown and is a month late. -/
theorem late_renter_is_not_notified : ¬ ∀ (rt : Runtime) (debug : Bool) (now : DateTime) (s : Store),
    NotifiesLate rt debug now s := by
  intro claim
  let s := (RentController.rentAction .sample (some .sampleUser) 1 0 .sample).store
  obtain ⟨response, completed⟩ := (claim .sample false (DateTime.addDays 0 44) s).completes
  have fails : (notifyAction .sample s).result = .error (.undefinedMethod "isLate") := by
    rfl
  rw [fails] at completed
  cases completed

end WuRegalia.Overdue
