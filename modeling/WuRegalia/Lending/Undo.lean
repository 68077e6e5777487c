import WuRegalia.Lending.Agreement
import WuRegalia.Lending.Availability
import WuRegalia.Library.Run

/-! # A return undoes a rent

Two runs of the same requests: one with a rental outstanding, one without. As
long as nobody else asks for the item or returns the rental, and its user rents
nothing, the requests see the same. The one thing that shows is a page that lists
the available items. Reservations made later have a key one higher.
-/

namespace WuRegalia.Lending

open Relational Availability
open RentController (Rent types)
open ReservationController (Return)

/-- The action behind a request. -/
def act (rt : Runtime) (s : Store) : Request → Outcome
  | .rent sessionUser item now => RentController.rentAction rt sessionUser item now s
  | .delete reservation => ReservationController.deleteAction reservation s

def step (rt : Runtime) (s : Store) (request : Request) : Store := (act rt s request).store

/-- What a request shows to the outside: the mails it sends and its result. -/
def shown (rt : Runtime) (move : Store × Request) : List Mail × Except Exception Response :=
  let outcome := act rt move.1 move.2
  (outcome.mail, outcome.result)

/-- The key a reservation has when the rental `r` is there, from the one it has when
    it is not. -/
def beside (r id : Nat) : Nat := if id < r then id else id + 1

/-- The key a reservation other than `r` has when the rental `r` is not there. -/
def alone (r id : Nat) : Nat := if r < id then id - 1 else id

theorem beside_alone {r id : Nat} (other : id ≠ r) : beside r (alone r id) = id := by
  unfold beside alone
  split <;> split <;> omega

theorem beside_ne (r id : Nat) : beside r id ≠ r := by
  unfold beside
  split <;> omega

theorem beside_injective (r : Nat) : Function.Injective (beside r) := by
  intro id other same
  unfold beside at same
  split at same <;> split at same <;> omega

def Request.alone (r : Id) : Request → Request
  | .rent sessionUser item now => .rent sessionUser item now
  | .delete reservation => .delete (Lending.alone r reservation)

/-- The request is not by the user and names neither the item nor the reservation. -/
def Request.Spares (username : String) (i r : Id) : Request → Prop
  | .rent sessionUser item _ =>
      (∀ account ∈ sessionUser, account.username ≠ username) ∧ item ≠ i
  | .delete reservation => reservation ≠ r

instance (username : String) (i r : Id) :
    (request : Request) → Decidable (request.Spares username i r)
  | .rent .. => inferInstanceAs (Decidable ((∀ _ ∈ _, _) ∧ _))
  | .delete _ => inferInstanceAs (Decidable (_ ≠ _))

/-- A page without an item in its list of available ones. -/
def Response.without (i : Id) : Response → Response
  | .render template (.itemsWithMessage rows message) =>
      .render template (.itemsWithMessage (rows.filter (fun row => row.1 ≠ i)) message)
  | response => response

def without (i : Id) (shown : List Mail × Except Exception Response) :
    List Mail × Except Exception Response :=
  (shown.1, shown.2.map (Response.without i))

/-- The tables `s` are the tables `t` with one rental more: the user of the name has
    item `i` under the key `r`, and `rented` is the key of `RENTED`. -/
structure Outstanding (username : String) (i r rented : Id) (s t : Tables) : Prop where
  named : ∀ kind, NamedController.get s kind = NamedController.get t kind
  users : s.user = t.user
  inventory : s.inventory = t.inventory.update i (Inventory.setItemStatus rented)
  status : t.findStatus "RENTED" = some rented
  item : ∃ item, t.inventory.find i = some item ∧ t.findStatus "AVAL" = some item.itemStatus
  free : ¬ t.Reserved i
  rental : ∃ rental, s.reservation.find r = some rental ∧ rental.item = i ∧
    ∃ user, t.findUser username = some (rental.userid, user)
  renamed : t.reservation.Renamed (beside r) (s.reservation.delete r)
  old : r ≤ t.reservation.nextId
  next : s.reservation.nextId = t.reservation.nextId + 1

namespace Outstanding

variable {username : String} {i r rented : Id} {s t : Tables}

theorem findStatus (held : Outstanding username i r rented s t) (name : String) :
    s.findStatus name = t.findStatus name := by
  unfold Tables.findStatus
  rw [show s.status = t.status from held.named .status]

theorem findUser (held : Outstanding username i r rented s t) (name : String) :
    s.findUser name = t.findUser name := by
  unfold Tables.findUser
  rw [held.users]

theorem find_item (held : Outstanding username i r rented s t) {id : Id} (other : id ≠ i) :
    s.inventory.find id = t.inventory.find id := by
  rw [held.inventory, Table.find_update, if_neg other]

theorem type_item (held : Outstanding username i r rented s t) (id : Id) :
    (s.inventory.find id).map Inventory.itemType = (t.inventory.find id).map Inventory.itemType := by
  rw [held.inventory, Table.find_update]
  split
  · cases t.inventory.find id <;> rfl
  · rfl

theorem find_reservation (held : Outstanding username i r rented s t) {id : Id} (other : id ≠ r) :
    s.reservation.find id = t.reservation.find (alone r id) := by
  have same := held.renamed.find (beside_injective r) (alone r id)
  rw [beside_alone other, Table.find_delete, if_neg other] at same
  exact same

/-- A row that is there without the rental is there with it. -/
theorem find_beside (held : Outstanding username i r rented s t) (id : Id) :
    s.reservation.find (beside r id) = t.reservation.find id := by
  have same := held.renamed.find (beside_injective r) id
  rwa [Table.find_delete, if_neg (beside_ne r id)] at same

theorem reserved (held : Outstanding username i r rented s t) {item : Id} (other : item ≠ i) :
    s.Reserved item ↔ t.Reserved item := by
  obtain ⟨rental, found, onItem, -⟩ := held.rental
  constructor
  · intro reserved
    obtain ⟨id, reservation, there, same⟩ := reserved
    have apart : id ≠ r := by
      intro here
      rw [here, found] at there
      obtain rfl := Option.some.inj there
      exact other (same.symm.trans onItem)
    exact ⟨alone r id, reservation, held.find_reservation apart ▸ there, same⟩
  · intro reserved
    obtain ⟨id, reservation, there, same⟩ := reserved
    exact ⟨beside r id, reservation, (held.find_beside id).trans there, same⟩

/-- Nobody but the user of the rental holds a type on its account. -/
theorem types (held : Outstanding username i r rented s t) {name : String} {userid type : Id}
    {user : User} (other : name ≠ username) (located : t.findUser name = some (userid, user)) :
    type ∈ types s userid ↔ type ∈ RentController.types t userid := by
  obtain ⟨rental, found, -, holder, byUser⟩ := held.rental
  simp only [RentController.mem_types, held.type_item]
  constructor
  · intro holds
    obtain ⟨id, reservation, there, owner, ofType⟩ := holds
    have apart : id ≠ r := by
      intro here
      rw [here, found] at there
      obtain rfl := Option.some.inj there
      obtain ⟨row, named⟩ := Tables.findUser_some located
      obtain ⟨same, holderNamed⟩ := Tables.findUser_some byUser
      rw [owner, row] at same
      obtain rfl := Option.some.inj same
      exact other (named.symm.trans holderNamed)
    exact ⟨alone r id, reservation, held.find_reservation apart ▸ there, owner, ofType⟩
  · intro holds
    obtain ⟨id, reservation, there, owner, ofType⟩ := holds
    exact ⟨beside r id, reservation, (held.find_beside id).trans there, owner, ofType⟩

theorem rented_ne_aval (held : Outstanding username i r rented s t) {aval : Id}
    (available : t.findStatus "AVAL" = some aval) : rented ≠ aval := by
  rintro rfl
  exact absurd (Tables.findStatus_name held.status available) (by decide)

/-- The item is the one that is missing among the available ones. -/
theorem findByItemStatus (held : Outstanding username i r rented s t) {aval : Id}
    (available : t.findStatus "AVAL" = some aval) :
    s.findByItemStatus aval = (t.findByItemStatus aval).filter (fun row => row.1 ≠ i) := by
  unfold Tables.findByItemStatus
  rw [held.inventory]
  apply Table.findBy_update
  intro item
  exact decide_eq_false (held.rented_ne_aval available)

/-- What a rent has read, as far as it is shown. -/
def withoutEnds {π : Type} (i : Id) : Loaded π → Loaded π
  | .ends result => .ends (result.map (Response.without i))
  | .decides decision => .decides decision

theorem load_rent (held : Outstanding username i r rented s t) {sessionUser : Option SessionUser}
    {id : Id} (others : ∀ account ∈ sessionUser, account.username ≠ username) (other : id ≠ i)
    (now : DateTime) :
    RentController.load sessionUser id now s =
      withoutEnds i (RentController.load sessionUser id now t) := by
  have itemType : s.itemType = t.itemType := held.named .itemType
  unfold RentController.load
  rw [held.find_item other]
  cases t.inventory.find id with
  | none => rfl
  | some item =>
      cases sessionUser with
      | none => rfl
      | some account =>
          simp only [held.findUser, held.findStatus, itemType]
          by_cases granted : isGranted .IS_AUTHENTICATED_FULLY account.roles
          · simp only [granted, if_true]
            cases located : t.findUser account.username with
            | none => rfl
            | some row =>
                simp only [held.types (others account rfl) located]
                by_cases holds : item.itemType ∈ RentController.types t row.1
                · simp only [holds, if_true]
                  cases available : t.findStatus "AVAL" with
                  | none => rfl
                  | some aval =>
                      simp only [withoutEnds, Except.map, Response.without,
                        held.findByItemStatus available]
                · simp only [holds, if_false]
                  cases t.findStatus "RENTED" <;> rfl
          · simp only [granted]
            rfl

theorem load_return (held : Outstanding username i r rented s t) {id : Id} (other : id ≠ r) :
    ReservationController.load id s =
      match ReservationController.load (alone r id) t with
      | .ends result => .ends (result.map (Response.without i))
      | .decides ret => .decides { ret with reservation := id } := by
  unfold ReservationController.load
  rw [held.find_reservation other, held.findStatus]
  cases found : t.reservation.find (alone r id) with
  | none => rfl
  | some reservation =>
      have apart : reservation.item ≠ i := fun same => held.free ⟨_, reservation, found, same⟩
      simp only [held.find_item apart]
      cases t.findStatus "AVAL" with
      | none => rfl
      | some aval => cases t.inventory.find reservation.item <;> rfl

/-- Nothing that is written here has a name. -/
theorem named_write (held : Outstanding username i r rented s t) (inventory other : Table Inventory)
    (reservation otherReservation : Table Reservation) (kind : NamedKind) :
    NamedController.get { s with inventory, reservation } kind =
      NamedController.get { t with inventory := other, reservation := otherReservation } kind := by
  have same := held.named kind
  cases kind <;> exact same

theorem changeItemStatus (held : Outstanding username i r rented s t) {id : Id} (other : id ≠ i)
    (loaded : Inventory) (status : Id) :
    Outstanding username i r rented (s.changeItemStatus id loaded status)
      (t.changeItemStatus id loaded status) := by
  unfold Tables.changeItemStatus
  split
  · exact held
  · obtain ⟨item, present, available⟩ := held.item
    exact
      { held with
        named := held.named_write _ _ _ _
        inventory := by
          simp only [held.inventory]
          exact Table.update_update other.symm _ _
        item := ⟨item, by simp only [Table.find_update, if_neg other.symm, present], available⟩ }

theorem insertReservation (held : Outstanding username i r rented s t) {row : Reservation}
    (other : row.item ≠ i) :
    Outstanding username i r rented (s.insertReservation row) (t.insertReservation row) := by
  have later : r ≠ s.reservation.nextId := by
    rw [held.next]
    exact Nat.ne_of_lt (Nat.lt_succ_of_le held.old)
  have nextBeside : (s.reservation.delete r).nextId = beside r t.reservation.nextId := by
    rw [Table.nextId_delete, held.next, beside, if_neg (Nat.not_lt.mpr held.old)]
  obtain ⟨rental, found, rest⟩ := held.rental
  exact
    { named := held.named_write _ _ _ _
      users := held.users
      inventory := held.inventory
      status := held.status
      item := held.item
      free := fun reserved =>
        (Tables.reserved_insertReservation.mp reserved).elim other held.free
      rental := ⟨rental, Table.find_insert_old found, rest⟩
      renamed := by
        simp only [Tables.insertReservation, Table.delete_insert later]
        exact held.renamed.insert nextBeside row
      old := Nat.le_succ_of_le held.old
      next := congrArg (· + 1) held.next }

theorem deleteReservation (held : Outstanding username i r rented s t) {id : Id} (other : id ≠ r) :
    Outstanding username i r rented (s.deleteReservation id)
      (t.deleteReservation (alone r id)) := by
  obtain ⟨rental, found, rest⟩ := held.rental
  have kept : (s.deleteReservation id).reservation.find r = some rental := by
    simp only [Tables.deleteReservation, Table.find_delete, if_neg other.symm, found]
  exact
    { named := held.named_write _ _ _ _
      users := held.users
      inventory := held.inventory
      status := held.status
      item := held.item
      free := by
        intro reserved
        obtain ⟨key, reservation, there, same⟩ := reserved
        simp only [Tables.deleteReservation, Table.find_delete] at there
        split at there
        · cases there
        · exact held.free ⟨key, reservation, there, same⟩
      rental := ⟨rental, kept, rest⟩
      renamed := by
        have renamed := held.renamed.delete (beside_injective r) (alone r id)
        rw [beside_alone other, Table.delete_delete] at renamed
        exact renamed
      old := held.old
      next := held.next }

end Outstanding

/-- The page of a rented item has no list. -/
theorem without_finish (rt : Runtime) (rent : Rent) (i : Id) :
    without i (RentController.finish rt rent) = RentController.finish rt rent := by
  unfold RentController.finish sendMail
  cases rt.appAdmin with
  | none => rfl
  | some admin =>
      simp only
      split <;> rfl

theorem without_redirect (route : String) (i : Id) :
    without i ([], redirectToRoute route none) = ([], redirectToRoute route none) := by
  unfold redirectToRoute
  split <;> rfl

/-- Two transactions that both commit or both are rolled back, and go on alike. -/
theorem Outstanding.transact {username : String} {i r rented : Id} {s t : Store}
    (held : Outstanding username i r rented s.toTables t.toTables) {write other : Tables → Tables}
    (written : Outstanding username i r rented (write s.toTables) (other t.toTables))
    (alike : (write s.toTables).Valid ↔ (other t.toTables).Valid)
    {next : List Mail × Except Exception Response} (listless : without i next = next) :
    Outstanding username i r rented (s.transact write (fun _ => next)).store.toTables
        (t.transact other (fun _ => next)).store.toTables ∧
      ((s.transact write (fun _ => next)).mail, (s.transact write (fun _ => next)).result) =
        without i ((t.transact other (fun _ => next)).mail,
          (t.transact other (fun _ => next)).result) := by
  by_cases valid : (other t.toTables).Valid
  · obtain ⟨u, after, outcome⟩ := Store.transact_of_valid (alike.mpr valid) (fun _ => next)
    obtain ⟨v, otherAfter, otherOutcome⟩ := Store.transact_of_valid valid (fun _ => next)
    rw [outcome, otherOutcome]
    simp only
    rw [after, otherAfter]
    exact ⟨written, listless.symm⟩
  · rw [Store.transact_of_invalid valid, Store.transact_of_invalid (fun both => valid (alike.mp both))]
    exact ⟨held, rfl⟩

/-- Every request that spares the rental shows the same in both runs, but for the
    item in a list, and keeps them one rental apart. -/
theorem Outstanding.act (rt : Runtime) {username : String} {i r rented : Id} {s t : Store}
    {request : Request} (spares : request.Spares username i r)
    (held : Outstanding username i r rented s.toTables t.toTables) :
    Outstanding username i r rented (step rt s request).toTables
        (step rt t (request.alone r)).toTables ∧
      shown rt (s, request) = without i (shown rt (t, request.alone r)) := by
  cases request with
  | rent sessionUser item now =>
      obtain ⟨others, apart⟩ := spares
      have loads := held.load_rent others apart now
      simp only [step, shown, Lending.act, Request.alone, RentController.rentAction, Store.proceed]
      rw [loads]
      cases decides : RentController.load sessionUser item now t.toTables with
      | ends result => exact ⟨held, rfl⟩
      | decides rent =>
          have known := RentController.known_of_load decides
          have knownHeld := RentController.known_of_load (loads.trans (congrArg _ decides))
          obtain ⟨rfl, -⟩ := RentController.load_decides.mp decides
          have changed := held.changeItemStatus apart rent.item rent.rent_status
          have other : (Reservation.construct rent.userid rent.itemid rent.now).item ≠ i := apart
          have written := changed.insertReservation other
          have alike := (knownHeld.write_valid s.valid).trans
            ((not_congr (held.reserved apart)).trans (known.write_valid t.valid).symm)
          exact held.transact written alike (without_finish rt rent i)
  | delete reservation =>
      have loads := held.load_return spares
      simp only [step, shown, Lending.act, Request.alone, ReservationController.deleteAction,
        Store.proceed]
      rw [loads]
      cases decides : ReservationController.load (Lending.alone r reservation) t.toTables with
      | ends result => exact ⟨held, rfl⟩
      | decides ret =>
          have known := ReservationController.known_of_load decides
          have knownHeld := ReservationController.known_of_load (loads.trans (by rw [decides]))
          obtain ⟨same, ⟨row, found, onItem⟩, -⟩ := ReservationController.load_decides.mp decides
          have apart : ret.itemid ≠ i := fun here => held.free ⟨_, row, found, onItem.trans here⟩
          have written := (held.changeItemStatus apart ret.item ret.status).deleteReservation spares
          rw [← same] at written
          exact held.transact written
            (iff_of_true (knownHeld.write_valid s.valid) (known.write_valid t.valid))
            (without_redirect _ i)

/-- A reservation has been made under a new key. -/
def Reserves (before after : Store) (r : Id) : Prop :=
  before.reservation.find r = none ∧ ∃ row, after.reservation.find r = some row

/-- A rent of an available item that makes a reservation sets the two runs apart. -/
theorem outstanding_of_rent {rt : Runtime} {s : Store} {account : SessionUser} {i r : Id}
    {now : DateTime} (available : IsAvailable s.toTables i)
    (made : Reserves s (RentController.rentAction rt (some account) i now s).store r) :
    ∃ rented, Outstanding account.username i r rented
      (RentController.rentAction rt (some account) i now s).store.toTables s.toTables := by
  obtain ⟨new, row, there⟩ := made
  cases RentController.rentAction_cases rt (some account) i now s with
  | inr unchanged =>
      rw [unchanged.2.1, new] at there
      cases there
  | inl applied =>
      obtain ⟨rent, u, decides, free, after, -, outcome⟩ := applied
      rw [outcome] at there ⊢
      simp only at there ⊢
      have written := RentController.write_reservation rent s.toTables
      obtain ⟨rfl, -, present, ⟨_, same, -, located⟩, -, rented⟩ :=
        RentController.load_decides.mp decides
      obtain rfl := Option.some.inj same
      obtain ⟨item, found, named⟩ := available
      rw [Option.mem_def, present] at found
      obtain rfl := Option.some.inj found
      have aval := s.valid.statusName_iff.mp named
      have apart : rent.item.itemStatus ≠ rent.rent_status := by
        intro same
        exact absurd (Tables.findStatus_name (same ▸ aval) rented) (by decide)
      have next : r = s.reservation.nextId := by
        rw [after, written, Table.find_insert] at there
        split at there
        · assumption
        · rw [new] at there
          cases there
      subst next
      refine ⟨rent.rent_status, ?_⟩
      rw [after]
      exact
        { named := RentController.write_get rent s.toTables
          users := (RentController.sameStock_write rent s.toTables).user
          inventory := by
            simp [RentController.write, Tables.insertReservation, Tables.changeItemStatus, apart]
          status := rented
          item := ⟨rent.item, present, aval⟩
          free := free
          rental := ⟨_, by rw [written, Table.find_insert_self], rfl, rent.user, located⟩
          renamed := by
            rw [written]
            apply Table.Renamed.of_insert_delete
            intro id before
            rw [beside, if_pos before]
          old := Nat.le_refl _
          next := by rw [written]; rfl }

/-- The return of the rental leaves the tables of the run without it. -/
theorem Outstanding.delete {username : String} {i r rented : Id} {s t : Store}
    (held : Outstanding username i r rented s.toTables t.toTables) :
    (ReservationController.deleteAction r s).result = .ok (.redirect "reservation_index" none) ∧
      (ReservationController.deleteAction r s).store.inventory = t.inventory ∧
      t.reservation.Renamed (beside r) (ReservationController.deleteAction r s).store.reservation := by
  obtain ⟨rental, found, onItem, -⟩ := held.rental
  obtain ⟨item, present, available⟩ := held.item
  cases ReservationController.deleteAction_cases r s with
  | inr unchanged =>
      rcases unchanged.1 with missing | unknown
      · exact absurd (missing.symm.trans found) (by simp)
      · rw [held.findStatus, available] at unknown
        cases unknown
  | inl applied =>
      obtain ⟨ret, u, decides, after, -, outcome⟩ := applied
      obtain ⟨rfl, ⟨row, there, same⟩, loaded, aval⟩ := ReservationController.load_decides.mp decides
      have here : ret.itemid = i := by
        rw [found] at there
        obtain rfl := Option.some.inj there
        exact same.symm.trans onItem
      subst here
      have status : ret.status = item.itemStatus := by
        rw [held.findStatus, available] at aval
        exact (Option.some.inj aval).symm
      have apart : ret.item.itemStatus ≠ ret.status := by
        rw [held.inventory, Table.find_update, if_pos rfl, present] at loaded
        rw [status, ← Option.some.inj loaded]
        exact held.rented_ne_aval available
      rw [outcome]
      simp only
      rw [after]
      refine ⟨by decide, ?_, ?_⟩
      · simp only [ReservationController.write, Tables.deleteReservation, Tables.changeItemStatus,
          if_neg apart, held.inventory]
        have forgets : ∀ a : Inventory, (a.setItemStatus rented).setItemStatus ret.status =
          a.setItemStatus ret.status := fun _ => rfl
        rw [Table.update_again _ _ forgets]
        apply Table.update_same
        intro old atItem
        rw [present] at atItem
        obtain rfl := Option.some.inj atItem
        rw [status]
        rfl
      · rw [ReservationController.write_reservation]
        exact held.renamed

/-- A rent, requests of others, and the return of the rental: the requests show what
    they show without the rent, but for the item in the list a refused rent comes
    with, and leave what they leave without it, the reservations made after the
    rent under the next keys. -/
theorem delete_undoes_rent (rt : Runtime) {s : Store} {account : SessionUser} {i r : Id}
    {now : DateTime} (available : IsAvailable s.toTables i)
    (made : Reserves s (RentController.rentAction rt (some account) i now s).store r)
    {w : List Request} (others : ∀ request ∈ w, request.Spares account.username i r) :
    let rented := (RentController.rentAction rt (some account) i now s).store
    let returned := ReservationController.deleteAction r (Run.final (step rt) rented w)
    let spared := w.map (Request.alone r)
    (Run.steps (step rt) rented w).map (shown rt) =
        (Run.steps (step rt) s spared).map (fun move => without i (shown rt move)) ∧
      returned.result = .ok (.redirect "reservation_index" none) ∧
      returned.store.inventory = (Run.final (step rt) s spared).inventory ∧
      (Run.final (step rt) s spared).reservation.Renamed (beside r) returned.store.reservation := by
  obtain ⟨status, held⟩ := outstanding_of_rent available made
  obtain ⟨ends, same⟩ := Run.lockstep
    (fun s t : Store => Outstanding account.username i r status s.toTables t.toTables)
    (fun request => request.Spares account.username i r) (Request.alone r) (shown rt)
    (fun move => without i (shown rt move)) (fun _ _ _ spares held => held.act rt spares) held others
  exact ⟨same, ends.delete⟩

/-- Ann rents the hood and gives it back; meanwhile Bob rents a gown, asks for the
    other one and is refused, and gives his back. -/
theorem delete_undoes_rent_sample :
    let w : List Request :=
      [.rent (some .sampleUser) 1 0, .rent (some .sampleUser) 2 0, .delete 2]
    let rented := (RentController.rentAction .sample (some .sampleAdmin) 3 0 .sample).store
    let returned := ReservationController.deleteAction 1 (Run.final (step .sample) rented w)
    (Run.steps (step .sample) rented w).map (shown .sample) =
        (Run.steps (step .sample) .sample (w.map (Request.alone 1))).map
          (fun move => without 3 (shown .sample move)) ∧
      returned.result = .ok (.redirect "reservation_index" none) ∧
      returned.store.inventory =
        (Run.final (step .sample) .sample (w.map (Request.alone 1))).inventory ∧
      (Run.final (step .sample) .sample (w.map (Request.alone 1))).reservation.Renamed (beside 1)
        returned.store.reservation :=
  delete_undoes_rent .sample (by decide) ⟨by decide, _, rfl⟩ (by decide)

/-- The page that refuses Bob the second gown lists the hood, unless Ann has it. -/
theorem refusal_shows_rental : ¬ ∀ (rt : Runtime) (s : Store) (account : SessionUser) (i r : Id)
    (now : DateTime) (w : List Request), s.Agree → IsAvailable s.toTables i →
      Reserves s (RentController.rentAction rt (some account) i now s).store r →
      (∀ request ∈ w, request.Spares account.username i r) →
      (Run.steps (step rt) (RentController.rentAction rt (some account) i now s).store w).map
          (shown rt) =
        (Run.steps (step rt) s (w.map (Request.alone r))).map (shown rt) := by
  intro claim
  have same := claim .sample .sample .sampleAdmin 3 1 0
    [.rent (some .sampleUser) 1 0, .rent (some .sampleUser) 2 0] (by decide) (by decide)
    ⟨by decide, _, rfl⟩ (by decide)
  have listed := congrArg (fun all => all[1]?.map (fun shown =>
    shown.2.toOption.map (fun response => match response with
      | .render _ (.itemsWithMessage rows _) => rows.map Prod.fst
      | _ => []))) same
  exact absurd listed (by decide)

end WuRegalia.Lending
