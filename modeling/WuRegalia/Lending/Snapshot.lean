import WuRegalia.Controller.Admin
import WuRegalia.Controller.Rent
import WuRegalia.Controller.Reservation
import WuRegalia.Library.TwoPhase

/-! # Rents and returns between their load and their flush

What a rent or a return has read when it is about to write, which part of it
other rents and returns cannot make untrue, and what its flush then does. The
two requests are put together as a two-phase system over the store.
-/

namespace WuRegalia

/-- What rents and returns leave alone: they write reservations and the status
    of an item, nothing else. -/
structure Tables.SameStock (t u : Tables) : Prop where
  status : u.status = t.status
  user : u.user = t.user
  itemType : ∀ id, (u.inventory.find id).map Inventory.itemType =
    (t.inventory.find id).map Inventory.itemType

namespace Tables.SameStock

theorem refl (t : Tables) : t.SameStock t := ⟨rfl, rfl, fun _ => rfl⟩

theorem findStatus {t u : Tables} (same : t.SameStock u) (name : String) :
    u.findStatus name = t.findStatus name := by
  unfold Tables.findStatus
  rw [same.status]

theorem item {t u : Tables} (same : t.SameStock u) {id : Id} {item : Inventory}
    (found : t.inventory.find id = some item) :
    ∃ kept, u.inventory.find id = some kept ∧ kept.itemType = item.itemType := by
  have type := same.itemType id
  rw [found, Option.map_some, Option.map_eq_some_iff] at type
  exact type

end Tables.SameStock

theorem Tables.sameStock_changeItemStatus (id : Id) (loaded : Inventory) (status : Id) (t : Tables) :
    t.SameStock (t.changeItemStatus id loaded status) where
  status := by simp
  user := by simp
  itemType := by
    intro other
    rw [Tables.changeItemStatus_find]
    split
    · cases t.inventory.find other with
      | none => rfl
      | some item => rfl
    · rfl

namespace RentController

theorem mem_types {t : Tables} {user type : Id} :
    type ∈ types t user ↔ ∃ id reservation, t.reservation.find id = some reservation ∧
      reservation.userid = user ∧
      (t.inventory.find reservation.item).map Inventory.itemType = some type := by
  simp only [types, Tables.getReservations, List.mem_filterMap, Prod.exists,
    Relational.Table.mem_findBy, decide_eq_true_eq, and_assoc]

/-- A rent goes on to its flush exactly when every test on the way passes. -/
theorem load_decides {sessionUser : Option SessionUser} {id : Id} {now : DateTime} {t : Tables}
    {rent : Rent} :
    load sessionUser id now t = .decides rent ↔
      rent.itemid = id ∧ rent.now = now ∧ t.inventory.find id = some rent.item ∧
      (∃ account, sessionUser = some account ∧
        isGranted .IS_AUTHENTICATED_FULLY account.roles = true ∧
        t.findUser account.username = some (rent.userid, rent.user)) ∧
      rent.item.itemType ∉ types t rent.userid ∧
      t.findStatus "RENTED" = some rent.rent_status := by
  obtain ⟨userid, user, itemid, item, rent_status, time⟩ := rent
  constructor
  · intro decides
    unfold load at decides
    split at decides
    · cases decides
    · split at decides
      · cases decides
      · rename_i account
        split at decides
        · split at decides
          · cases decides
          · split at decides
            · split at decides <;> cases decides
            · split at decides
              · cases decides
              · cases decides
                exact ⟨rfl, rfl, ‹_›, ⟨account, rfl, ‹_›, ‹_›⟩, ‹_›, ‹_›⟩
        · cases decides
  · intro facts
    obtain ⟨rfl, rfl, present, ⟨account, rfl, granted, row⟩, otherType, rented⟩ := facts
    simp only at present row otherType rented
    simp [load, present, granted, row, otherType, rented]

/-- What a rent in flight may rely on. -/
structure Rent.Known (t : Tables) (rent : Rent) : Prop where
  user : ∃ user, t.user.find rent.userid = some user
  item : ∃ item, t.inventory.find rent.itemid = some item ∧ item.itemType = rent.item.itemType
  rented : t.findStatus "RENTED" = some rent.rent_status

theorem known_of_load {sessionUser : Option SessionUser} {id : Id} {now : DateTime} {t : Tables}
    {rent : Rent} (decides : load sessionUser id now t = .decides rent) : rent.Known t := by
  obtain ⟨rfl, -, present, ⟨account, -, -, row⟩, -, rented⟩ := load_decides.mp decides
  exact ⟨⟨_, (Tables.findUser_some row).1⟩, ⟨_, present, rfl⟩, rented⟩

theorem Rent.Known.of_sameStock {t u : Tables} {rent : Rent} (known : rent.Known t)
    (same : t.SameStock u) : rent.Known u where
  user := same.user ▸ known.user
  item := by
    obtain ⟨item, present, type⟩ := known.item
    obtain ⟨kept, found, keptType⟩ := same.item present
    exact ⟨kept, found, keptType.trans type⟩
  rented := (same.findStatus _).trans known.rented

theorem sameStock_write (rent : Rent) (t : Tables) : t.SameStock (write rent t) := by
  have changed := t.sameStock_changeItemStatus rent.itemid rent.item rent.rent_status
  exact ⟨changed.status, changed.user, changed.itemType⟩

@[simp] theorem write_findStatus (rent : Rent) (t : Tables) (name : String) :
    (write rent t).findStatus name = t.findStatus name :=
  (sameStock_write rent t).findStatus name

theorem write_find (rent : Rent) (t : Tables) (other : Id) :
    (write rent t).inventory.find other =
      if other = rent.itemid ∧ rent.item.itemStatus ≠ rent.rent_status then
        (t.inventory.find other).map (Inventory.setItemStatus rent.rent_status)
      else t.inventory.find other :=
  t.changeItemStatus_find rent.itemid rent.item rent.rent_status other

/-- A rent writes no status, type, color, school or major. -/
theorem write_get (rent : Rent) (t : Tables) (kind : NamedKind) :
    NamedController.get (write rent t) kind = NamedController.get t kind := by
  unfold write Tables.insertReservation Tables.changeItemStatus
  split <;> cases kind <;> rfl

theorem write_reservation (rent : Rent) (t : Tables) :
    (write rent t).reservation =
      t.reservation.insert (.construct rent.userid rent.itemid rent.now) := by
  simp [write, Tables.insertReservation]

theorem reserved_write (rent : Rent) (t : Tables) (item : Id) :
    (write rent t).Reserved item ↔ rent.itemid = item ∨ t.Reserved item := by
  have changed : (t.changeItemStatus rent.itemid rent.item rent.rent_status).Reserved item ↔
      t.Reserved item := by
    simp [Tables.Reserved]
  rw [write, Tables.reserved_insertReservation, changed]
  rfl

/-- Of all the constraints, only the unique item column can stop a rent. -/
theorem Rent.Known.write_valid {t : Tables} {rent : Rent} (valid : t.Valid) (known : rent.Known t) :
    (write rent t).Valid ↔ ¬ t.Reserved rent.itemid := by
  obtain ⟨status, row, -⟩ := Tables.findStatus_some known.rented
  have changed := valid.changeItemStatus rent.itemid rent.item row
  have same := t.sameStock_changeItemStatus rent.itemid rent.item rent.rent_status
  obtain ⟨item, present, -⟩ := known.item
  obtain ⟨kept, found, -⟩ := same.item present
  have insert := changed.insertReservation (.construct rent.userid rent.itemid rent.now)
    (by rw [same.user]; exact known.user) ⟨kept, found⟩
  rw [write, insert]
  simp [Tables.Reserved, Reservation.construct]

/-- A rent of a reserved item is rolled back, any other one is applied. -/
theorem Rent.Known.committed {s : Store} {rent : Rent} (known : rent.Known s.toTables) :
    (s.committed (write rent)).toTables =
      if s.Reserved rent.itemid then s.toTables else write rent s.toTables := by
  have valid := known.write_valid s.valid
  split
  · rename_i reserved
    rw [Store.committed_of_invalid (fun applied => valid.mp applied reserved)]
  · rename_i free
    exact Store.committed_of_valid (valid.mpr free)

/-- The confirmation of a rent can be written and sent. -/
def Confirms (rt : Runtime) (user : User) : Prop :=
  rt.appAdmin.isSome ∧ rt.acceptsAddress user.email = true

instance (rt : Runtime) (user : User) : Decidable (Confirms rt user) :=
  inferInstanceAs (Decidable (_ ∧ _))

theorem finish_of_confirms {rt : Runtime} {rent : Rent} (confirms : Confirms rt rent.user) :
    ∃ admin, rt.appAdmin = some admin ∧
      finish rt rent = ([confirmation rent admin], .ok (.render "rent/rent.html.twig"
        (.item rent.itemid (rent.item.setItemStatus rent.rent_status)))) := by
  obtain ⟨admin, defined⟩ := Option.isSome_iff_exists.mp confirms.1
  have accepts : rt.acceptsAddress (confirmation rent admin).recipient = true := confirms.2
  exact ⟨admin, defined, by simp only [finish, defined, sendMail, accepts, if_true]⟩

theorem finish_of_not_confirms {rt : Runtime} {rent : Rent} (fails : ¬ Confirms rt rent.user) :
    ∃ e, finish rt rent = ([], .error e) := by
  unfold finish
  cases defined : rt.appAdmin with
  | none => exact ⟨_, rfl⟩
  | some admin =>
      have refused : ¬ rt.acceptsAddress (confirmation rent admin).recipient = true :=
        fun accepts => fails ⟨by rw [defined]; rfl, accepts⟩
      exact ⟨_, if_neg refused⟩

/-- The whole action: it reserves the item and goes on to its mail, or it leaves the
    store as it was and sends nothing. -/
theorem rentAction_cases (rt : Runtime) (sessionUser : Option SessionUser) (id : Id)
    (now : DateTime) (s : Store) :
    (∃ rent u, load sessionUser id now s.toTables = .decides rent ∧ ¬ s.Reserved id ∧
        u.toTables = write rent s.toTables ∧ u ≠ s ∧
        rentAction rt sessionUser id now s = ⟨u, (finish rt rent).1, (finish rt rent).2⟩) ∨
      (((load sessionUser id now s.toTables).decision = none ∨ s.Reserved id) ∧
        (rentAction rt sessionUser id now s).store = s ∧
        (rentAction rt sessionUser id now s).mail = []) := by
  unfold rentAction Store.proceed
  cases decides : load sessionUser id now s.toTables with
  | ends result => exact .inr ⟨.inl rfl, rfl, rfl⟩
  | decides rent =>
      have known := known_of_load decides
      obtain ⟨rfl, -⟩ := load_decides.mp decides
      by_cases reserved : s.Reserved rent.itemid
      · have invalid := fun applied => (known.write_valid s.valid).mp applied reserved
        simp only [Store.transact_of_invalid invalid]
        exact .inr ⟨.inr reserved, rfl, rfl⟩
      · obtain ⟨u, after, outcome⟩ := Store.transact_of_valid
          ((known.write_valid s.valid).mpr reserved) (fun _ => finish rt rent)
        have changed : u ≠ s := by
          intro same
          have count := congrArg (fun t => t.reservation.nextId) (same ▸ after)
          simp [write_reservation] at count
        exact .inl ⟨rent, u, rfl, reserved, after, changed, outcome⟩

end RentController

namespace ReservationController

theorem load_decides {id : Id} {t : Tables} {ret : Return} :
    load id t = .decides ret ↔
      ret.reservation = id ∧
      (∃ reservation, t.reservation.find id = some reservation ∧ reservation.item = ret.itemid) ∧
      t.inventory.find ret.itemid = some ret.item ∧ t.findStatus "AVAL" = some ret.status := by
  obtain ⟨key, itemid, item, status⟩ := ret
  constructor
  · intro decides
    unfold load at decides
    split at decides
    · cases decides
    · rename_i reservation found
      split at decides
      · cases decides
        exact ⟨rfl, ⟨reservation, found, rfl⟩, ‹_›, ‹_›⟩
      · cases decides
      · cases decides
  · intro facts
    obtain ⟨rfl, ⟨reservation, found, rfl⟩, present, aval⟩ := facts
    simp only at present aval
    simp [load, found, present, aval]

/-- What a return in flight may rely on. Its reservation may be gone by now, but
    its key has not been given to another one. -/
structure Return.Known (t : Tables) (ret : Return) : Prop where
  item : ∃ item, t.inventory.find ret.itemid = some item
  aval : t.findStatus "AVAL" = some ret.status
  old : ret.reservation < t.reservation.nextId
  same : ∀ reservation, t.reservation.find ret.reservation = some reservation →
    reservation.item = ret.itemid

theorem known_of_load {id : Id} {t : Tables} {ret : Return} (decides : load id t = .decides ret) :
    ret.Known t := by
  obtain ⟨rfl, ⟨reservation, found, item⟩, present, aval⟩ := load_decides.mp decides
  refine ⟨⟨_, present⟩, aval, Relational.Table.lt_nextId found, fun other foundOther => ?_⟩
  rw [found] at foundOther
  exact Option.some.inj foundOther ▸ item

theorem sameStock_write (ret : Return) (t : Tables) : t.SameStock (write ret t) := by
  have changed := t.sameStock_changeItemStatus ret.itemid ret.item ret.status
  exact ⟨changed.status, changed.user, changed.itemType⟩

@[simp] theorem write_findStatus (ret : Return) (t : Tables) (name : String) :
    (write ret t).findStatus name = t.findStatus name :=
  (sameStock_write ret t).findStatus name

theorem write_find (ret : Return) (t : Tables) (other : Id) :
    (write ret t).inventory.find other =
      if other = ret.itemid ∧ ret.item.itemStatus ≠ ret.status then
        (t.inventory.find other).map (Inventory.setItemStatus ret.status)
      else t.inventory.find other :=
  t.changeItemStatus_find ret.itemid ret.item ret.status other

theorem write_reservation (ret : Return) (t : Tables) :
    (write ret t).reservation = t.reservation.delete ret.reservation := by
  simp [write, Tables.deleteReservation]

theorem Return.Known.write_valid {t : Tables} {ret : Return} (valid : t.Valid)
    (known : ret.Known t) : (write ret t).Valid := by
  obtain ⟨status, row, -⟩ := Tables.findStatus_some known.aval
  exact (valid.changeItemStatus ret.itemid ret.item row).deleteReservation ret.reservation

/-- No constraint stops a return. -/
theorem Return.Known.committed {s : Store} {ret : Return} (known : ret.Known s.toTables) :
    (s.committed (write ret)).toTables = write ret s.toTables :=
  Store.committed_of_valid (known.write_valid s.valid)

/-- A return stops only when there is no reservation or no status to give back: the
    item of a reservation is there. -/
theorem load_ends {t : Tables} (valid : t.Valid) {id : Id} (ends : (load id t).decision = none) :
    t.reservation.find id = none ∨ t.findStatus "AVAL" = none := by
  by_contra goes
  obtain ⟨there, available⟩ := not_or.mp goes
  obtain ⟨reservation, found⟩ := Option.ne_none_iff_exists'.mp there
  obtain ⟨status, aval⟩ := Option.ne_none_iff_exists'.mp available
  obtain ⟨item, present⟩ := valid.reservationInventory.target found rfl
  have decides : load id t = .decides ⟨id, reservation.item, item, status⟩ :=
    load_decides.mpr ⟨rfl, ⟨reservation, found, rfl⟩, present, aval⟩
  rw [decides] at ends
  cases ends

/-- The whole action: it removes the reservation, or it leaves the store as it was. -/
theorem deleteAction_cases (id : Id) (s : Store) :
    (∃ ret u, load id s.toTables = .decides ret ∧ u.toTables = write ret s.toTables ∧ u ≠ s ∧
        deleteAction id s = ⟨u, [], redirectToRoute "reservation_index" none⟩) ∨
      ((s.reservation.find id = none ∨ s.findStatus "AVAL" = none) ∧
        (deleteAction id s).store = s ∧ (deleteAction id s).mail = []) := by
  have stops : (load id s.toTables).decision = none → _ := load_ends s.valid
  unfold deleteAction Store.proceed
  cases decides : load id s.toTables with
  | ends result =>
      rw [decides] at stops
      exact .inr ⟨stops rfl, rfl, rfl⟩
  | decides ret =>
      obtain ⟨u, after, outcome⟩ := Store.transact_of_valid
        ((known_of_load decides).write_valid s.valid)
        (fun _ => ([], redirectToRoute "reservation_index" none))
      have changed : u ≠ s := by
        intro same
        obtain ⟨rfl, ⟨reservation, found, -⟩, -⟩ := load_decides.mp decides
        have gone : u.reservation.find ret.reservation = none := by
          rw [after, write_reservation]
          simp [Relational.Table.find_delete]
        rw [same, found] at gone
        cases gone
      exact .inl ⟨ret, u, rfl, after, changed, outcome⟩

/-- A return whose reservation is still there frees its item and no other. -/
theorem Return.Known.reserved_write {t : Tables} {ret : Return} (valid : t.Valid)
    (known : ret.Known t) {reservation : Reservation}
    (found : t.reservation.find ret.reservation = some reservation) (item : Id) :
    (write ret t).Reserved item ↔ item ≠ ret.itemid ∧ t.Reserved item := by
  have free := Tables.reserved_deleteReservation valid found item
  rw [known.same reservation found] at free
  simpa [Tables.Reserved, write, Tables.deleteReservation] using free

/-- A return whose reservation is gone frees nothing. -/
theorem reserved_write_of_gone {t : Tables} {ret : Return}
    (gone : t.reservation.find ret.reservation = none) (item : Id) :
    (write ret t).Reserved item ↔ t.Reserved item := by
  unfold Tables.Reserved
  rw [write_reservation, Relational.Table.delete_missing gone]

end ReservationController

namespace Lending

open RentController (Rent)
open ReservationController (Return)

inductive Request where
  | rent (sessionUser : Option SessionUser) (item : Id) (now : DateTime)
  | delete (reservation : Id)
  deriving DecidableEq, Repr

inductive Decision where
  | rent (rent : Rent)
  | delete (ret : Return)
  deriving DecidableEq, Repr

def load (s : Store) : Request → Option Decision
  | .rent sessionUser item now =>
      (RentController.load sessionUser item now s.toTables).decision.map .rent
  | .delete reservation => (ReservationController.load reservation s.toTables).decision.map .delete

def write : Decision → Tables → Tables
  | .rent rent => RentController.write rent
  | .delete ret => ReservationController.write ret

def requests : TwoPhase Store Request Decision where
  load := load
  flush s decision := s.committed (write decision)

theorem flush_eq (s : Store) (decision : Decision) :
    requests.flush s decision = s.committed (write decision) := rfl

/-- Nothing coming between, the two steps are the action. -/
theorem handle_rent (rt : Runtime) (s : Store) (sessionUser : Option SessionUser) (item : Id)
    (now : DateTime) :
    requests.handle s (.rent sessionUser item now) =
      (RentController.rentAction rt sessionUser item now s).store := by
  rw [RentController.rentAction, Store.proceed_store]
  simp only [TwoPhase.handle, requests, load]
  cases (RentController.load sessionUser item now s.toTables).decision with
  | none => rfl
  | some rent => rfl

theorem handle_delete (s : Store) (reservation : Id) :
    requests.handle s (.delete reservation) =
      (ReservationController.deleteAction reservation s).store := by
  rw [ReservationController.deleteAction, Store.proceed_store]
  simp only [TwoPhase.handle, requests, load]
  cases (ReservationController.load reservation s.toTables).decision with
  | none => rfl
  | some ret => rfl

def Decision.Known (t : Tables) : Decision → Prop
  | .rent decided => decided.Known t
  | .delete decided => decided.Known t

theorem known_of_load {s : Store} {request : Request} {decision : Decision}
    (loaded : requests.load s request = some decision) : decision.Known s.toTables := by
  cases request with
  | rent sessionUser item now =>
      simp only [requests, load, Option.map_eq_some_iff] at loaded
      obtain ⟨rent, decided, rfl⟩ := loaded
      exact RentController.known_of_load (Loaded.decision_eq_some.mp decided)
  | delete reservation =>
      simp only [requests, load, Option.map_eq_some_iff] at loaded
      obtain ⟨ret, decided, rfl⟩ := loaded
      exact ReservationController.known_of_load (Loaded.decision_eq_some.mp decided)

theorem sameStock_flush (s : Store) (decision : Decision) :
    s.SameStock (requests.flush s decision).toTables := by
  rw [flush_eq]
  apply (Store.committed_iff (P := s.SameStock) (.refl _)).mpr
  intro _
  cases decision with
  | rent rent => exact RentController.sameStock_write rent s.toTables
  | delete ret => exact ReservationController.sameStock_write ret s.toTables

theorem nextId_flush (s : Store) (decision : Decision) :
    s.reservation.nextId ≤ (requests.flush s decision).reservation.nextId := by
  rw [flush_eq]
  apply (Store.committed_iff (P := fun u => s.reservation.nextId ≤ u.reservation.nextId)
    (Nat.le_refl _)).mpr
  intro _
  cases decision with
  | rent rent => simp [write, RentController.write_reservation]
  | delete ret => simp [write, ReservationController.write_reservation]

/-- A reservation that is there after a flush, under a key that had been handed
    out, was there before it. -/
theorem find_flush {s : Store} {decision : Decision} {id : Id} {reservation : Reservation}
    (old : id < s.reservation.nextId)
    (found : (requests.flush s decision).reservation.find id = some reservation) :
    s.reservation.find id = some reservation := by
  rw [flush_eq] at found
  revert found
  apply (Store.committed_iff (P := fun u => u.reservation.find id = some reservation →
    s.reservation.find id = some reservation) (fun before => before)).mpr
  intro _ found
  cases decision with
  | rent rent =>
      rw [write, RentController.write_reservation, Relational.Table.find_insert,
        if_neg (Nat.ne_of_lt old)] at found
      exact found
  | delete ret =>
      rw [write, ReservationController.write_reservation, Relational.Table.find_delete] at found
      split at found
      · cases found
      · exact found

/-- What a request in flight relies on, no flush makes untrue. -/
theorem Decision.Known.flush {s : Store} {decision : Decision} (known : decision.Known s.toTables)
    (flushed : Decision) : decision.Known (requests.flush s flushed).toTables := by
  have same := sameStock_flush s flushed
  cases decision with
  | rent rent => exact RentController.Rent.Known.of_sameStock known same
  | delete ret =>
      have known : ret.Known s.toTables := known
      obtain ⟨item, present⟩ := known.item
      obtain ⟨kept, found, -⟩ := same.item present
      exact
        { item := ⟨kept, found⟩
          aval := (same.findStatus _).trans known.aval
          old := Nat.lt_of_lt_of_le known.old (nextId_flush s flushed)
          same := fun reservation there =>
            known.same reservation (find_flush known.old there) }

end Lending

end WuRegalia
