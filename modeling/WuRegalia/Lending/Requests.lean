import WuRegalia.Lending.Interleaving
import WuRegalia.Controller.Request

/-! # Requests handled one at a time

All requests that write reservations, and the submissions, one after the other.
Renting, returning and submitting keep statuses and reservations in agreement.
The forms for reservations write no status: they keep the agreement only when
they neither reserve an item that was free nor move a reservation to one.
-/

namespace WuRegalia.Lending

open Relational

inductive Operation where
  | rent (sessionUser : Option SessionUser) (item : Id) (now : DateTime)
  | new (method : Method) (payload : Payload)
  | edit (method : Method) (payload : Payload) (reservation : Id)
  | delete (reservation : Id)
  | submit (kind : RequestKind) (sessionUser : Option SessionUser) (method : Method)
      (payload : Payload)
  deriving DecidableEq, Repr

/-- The store an operation leaves behind. -/
def operate (rt : Runtime) (s : Store) : Operation → Store
  | .rent sessionUser item now => (RentController.rentAction rt sessionUser item now s).store
  | .new method payload => (ReservationController.newAction method payload s).store
  | .edit method payload reservation =>
      (ReservationController.editAction method payload reservation s).store
  | .delete reservation => (ReservationController.deleteAction reservation s).store
  | .submit kind sessionUser method payload =>
      (RequestController.indexAction kind rt sessionUser method payload s).store

/-- Accepted forms for reservations name an item that is reserved already, an
    edit possibly by the reservation it edits. -/
def ReservesNothingNew (s : Store) : Operation → Prop
  | .new method payload =>
      ∀ row ∈ (ReservationType s.toTables).submitted method payload, s.Reserved row.item
  | .edit method payload reservation =>
      ∀ old ∈ s.reservation.find reservation,
        ∀ row ∈ (ReservationType s.toTables).submitted method payload,
          row.item = old.item ∨ s.Reserved row.item
  | .rent .. | .delete .. | .submit .. => True

instance (s : Store) : (operation : Operation) → Decidable (ReservesNothingNew s operation)
  | .new .. => inferInstanceAs (Decidable (∀ _ ∈ _, _))
  | .edit .. => inferInstanceAs (Decidable (∀ _ ∈ _, ∀ _ ∈ _, _))
  | .rent .. | .delete .. | .submit .. => .isTrue trivial

/-- A request that is alone never flushes a stale decision. -/
theorem notStale_of_load {s : Store} {request : Request} {decision : Decision} (agree : s.Agree)
    (loaded : requests.load s request = some decision) : NotStale s decision := by
  cases request with
  | rent sessionUser item now =>
      simp only [requests, load, Option.map_eq_some_iff] at loaded
      obtain ⟨rent, located, rfl⟩ := loaded
      obtain ⟨rfl, -, present, -, -, rented⟩ :=
        RentController.load_decides.mp (Loaded.decision_eq_some.mp located)
      intro free same
      exact free ((s.valid.agree_iff.mp agree _ _ present).mp (same ▸ rented))
  | delete reservation =>
      simp only [requests, load, Option.map_eq_some_iff] at loaded
      obtain ⟨ret, located, rfl⟩ := loaded
      obtain ⟨rfl, ⟨row, found, -⟩, -⟩ :=
        ReservationController.load_decides.mp (Loaded.decision_eq_some.mp located)
      left
      rw [found]
      rfl

theorem agree_handle {s : Store} (agree : s.Agree) (request : Request) :
    (requests.handle s request).Agree := by
  unfold TwoPhase.handle
  cases loaded : requests.load s request with
  | none => exact agree
  | some decision =>
      exact (agree_flush agree (tracked_of_load agree loaded)).mpr (notStale_of_load agree loaded)

theorem agree_insertInventory {s : Store} {row : Inventory} (agree : s.Agree)
    (other : s.findStatus "RENTED" ≠ some row.itemStatus) :
    (s.committed (Tables.insertInventory row)).Agree := by
  apply (Store.committed_iff agree).mpr
  intro applied
  rw [agree.iff_at s.valid applied s.inventory.nextId rfl]
  · intro item present
    obtain rfl := Option.some.inj ((s.inventory.find_insert_self row).symm.trans present)
    refine iff_of_false other fun reserved => ?_
    have before : s.Reserved s.inventory.nextId := reserved
    obtain ⟨item, found⟩ := s.valid.item_of_reserved before
    simp at found
  · intro id old
    exact ⟨by simp only [Tables.insertInventory, Table.find_insert, if_neg old], Iff.rfl⟩

theorem agree_submit (rt : Runtime) {s : Store} (agree : s.Agree) (kind : RequestKind)
    (sessionUser : Option SessionUser) (method : Method) (payload : Payload) :
    (RequestController.indexAction kind rt sessionUser method payload s).store.Agree := by
  rw [RequestController.indexAction_store]
  split
  · rename_i row accepted
    apply agree_insertInventory agree
    intro rented
    have names := Tables.findStatus_name rented (RequestController.submitted_some accepted).1
    cases kind <;> exact absurd names (by decide)
  · exact agree

/-- An item that becomes reserved without a change of status breaks the agreement. -/
theorem not_agree_of_reserved {t u : Tables} (valid : t.Valid) (validAfter : u.Valid)
    (agree : t.Agree) (status : u.findStatus "RENTED" = t.findStatus "RENTED") {id : Id}
    {item : Inventory} (present : t.inventory.find id = some item)
    (kept : u.inventory.find id = some item) (free : ¬ t.Reserved id) (reserved : u.Reserved id) :
    ¬ u.Agree := by
  intro after
  have rented := (validAfter.agree_iff.mp after id item kept).mpr reserved
  exact free ((valid.agree_iff.mp agree id item present).mp (status ▸ rented))

/-- An edit that leaves a reservation on its item changes nothing that matters. -/
theorem agree_updateReservation {t : Tables} (valid : t.Valid) (agree : t.Agree) {id : Id}
    {old row : Reservation} (found : t.reservation.find id = some old) (stays : row.item = old.item)
    (validAfter : (t.updateReservation id row).Valid) : (t.updateReservation id row).Agree := by
  rw [validAfter.agree_iff]
  intro item there present
  have moved := Tables.reserved_updateReservation valid found row item
  have reserved : (t.updateReservation id row).Reserved item ↔ t.Reserved item := by
    rw [moved]
    constructor
    · intro either
      exact either.elim (fun same => ⟨id, old, found, stays ▸ same⟩) And.right
    · intro before
      by_cases same : row.item = item
      · exact .inl same
      · exact .inr ⟨fun clash => same (stays.trans clash.symm), before⟩
  rw [reserved]
  exact valid.agree_iff.mp agree item there present

theorem agree_new {s : Store} (agree : s.Agree) (method : Method) (payload : Payload) :
    (ReservationController.newAction method payload s).store.Agree ↔
      ∀ row ∈ (ReservationType s.toTables).submitted method payload, s.Reserved row.item := by
  rw [ReservationController.newAction, FormType.save_store]
  cases accepted : (ReservationType s.toTables).submitted method payload with
  | none => exact iff_of_true agree (by simp)
  | some row =>
      simp only [Option.mem_some_iff, forall_eq']
      obtain ⟨user, item, present⟩ := ReservationType.targets accepted
      have valid := s.valid.insertReservation row user ⟨item, present⟩
      constructor
      · intro after
        by_contra free
        have applied := valid.mpr free
        rw [Store.committed_of_valid applied] at after
        exact not_agree_of_reserved s.valid applied agree rfl present present free
          (Tables.reserved_insertReservation.mpr (.inl rfl)) after
      · intro reserved
        rw [Store.committed_of_invalid (fun applied => valid.mp applied reserved)]
        exact agree

theorem agree_edit {s : Store} (agree : s.Agree) (method : Method) (payload : Payload) (id : Id) :
    (ReservationController.editAction method payload id s).store.Agree ↔
      ∀ old ∈ s.reservation.find id,
        ∀ row ∈ (ReservationType s.toTables).submitted method payload,
          row.item = old.item ∨ s.Reserved row.item := by
  rw [ReservationController.editAction_store]
  cases found : s.reservation.find id with
  | none => exact iff_of_true agree (by simp)
  | some old =>
      cases accepted : (ReservationType s.toTables).submitted method payload with
      | none => exact iff_of_true agree (by simp)
      | some row =>
          simp only [Option.mem_some_iff, forall_eq']
          obtain ⟨user, item, present⟩ := ReservationType.targets accepted
          have valid := s.valid.updateReservation found user ⟨item, present⟩
          constructor
          · intro after
            by_contra neither
            obtain ⟨elsewhere, free⟩ := not_or.mp neither
            have applied := valid.mpr fun other reservation there _ same =>
              free ⟨other, reservation, there, same⟩
            rw [Store.committed_of_valid applied] at after
            exact not_agree_of_reserved s.valid applied agree rfl present present free
              ((Tables.reserved_updateReservation s.valid found row row.item).mpr (.inl rfl)) after
          · intro reserved
            apply (Store.committed_iff agree).mpr
            intro applied
            -- the unique key let the edit through, so the item is the one it was on
            have stays : row.item = old.item := by
              by_contra elsewhere
              obtain ⟨other, reservation, there, same⟩ := reserved.resolve_left elsewhere
              have apart : other ≠ id := by
                intro here
                subst here
                obtain rfl := Option.some.inj (found.symm.trans there)
                exact elsewhere same.symm
              exact valid.mp applied other reservation there apart same
            exact agree_updateReservation s.valid agree found stays applied

theorem agree_operate (rt : Runtime) {s : Store} (agree : s.Agree) (operation : Operation) :
    (operate rt s operation).Agree ↔ ReservesNothingNew s operation := by
  cases operation with
  | rent sessionUser item now =>
      refine iff_of_true ?_ trivial
      rw [operate, ← handle_rent]
      exact agree_handle agree _
  | new method payload => exact agree_new agree method payload
  | edit method payload reservation => exact agree_edit agree method payload reservation
  | delete reservation =>
      refine iff_of_true ?_ trivial
      rw [operate, ← handle_delete]
      exact agree_handle agree _
  | submit kind sessionUser method payload =>
      exact iff_of_true (agree_submit rt agree kind sessionUser method payload) trivial

/-- A run keeps statuses and reservations in agreement exactly when none of its
    forms for reservations puts a reservation on a free item. -/
theorem operations_agree (rt : Runtime) {s : Store} (agree : s.Agree)
    (operations : List Operation) :
    (∀ t ∈ Run.states (operate rt) s operations, t.Agree) ↔
      ∀ move ∈ Run.steps (operate rt) s operations, ReservesNothingNew move.1 move.2 :=
  Run.exact_guard (fun s => s.Agree) (fun _ => True) ReservesNothingNew
    (fun _ _ _ _ _ => trivial) (fun _ operation agree _ => agree_operate rt agree operation) agree
    trivial

theorem operations_agree_sample :
    Store.sample.Agree ∧
      ∀ t ∈ Run.states (operate .sample) Store.sample
        [.rent (some .sampleUser) 1 0, .new .post (ReservationForm.sample 1 1),
          .edit .post (ReservationForm.sample 1 1) 1, .delete 1],
        t.Agree :=
  ⟨by decide, (operations_agree .sample (by decide) _).mpr (by decide)⟩

/-- An administrator enters a reservation by hand. -/
theorem operations_reserved_not_rented :
    ¬ ∀ (rt : Runtime) (s : Store) (operations : List Operation), s.Agree →
      ∀ t ∈ Run.states (operate rt) s operations, t.Agree := by
  intro claim
  exact absurd (claim .sample .sample [.new .post (ReservationForm.sample 2 1)] (by decide))
    (by decide)

end WuRegalia.Lending
