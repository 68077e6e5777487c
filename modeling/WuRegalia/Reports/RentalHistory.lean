import WuRegalia.Controller.Pages
import WuRegalia.Lending.Availability
import WuRegalia.Security.Login

/-! # The rental history against the rents

The reports on rentals list the reservations there are. A reservation is deleted
when its item comes back, so the reports list the rents made so far exactly as
long as nothing is returned.
-/

namespace WuRegalia.RentalHistory

open Relational Availability
open Run (Recorded record)

/-- The requests of the rental side and of the workflow, and logins. -/
inductive Event where
  | operation (operation : Operation)
  | login (directory : Directory) (now : DateTime) (credentials : Credentials)

/-- The store an event leaves behind. -/
def step (rt : Runtime) (s : Store) : Event → Store
  | .operation operation => (act rt s operation).store
  | .login directory now credentials => (attemptAuthentication directory s now credentials).1

/-- The user a rent is for: the row of the session user. -/
def renter (s : Store) : Event → Option Id
  | .operation (.rent sessionUser _ _) => RequestController.owner sessionUser s.toTables
  | .operation (.submit ..) | .operation (.accept ..) | .operation (.reject ..)
  | .operation (.delete _) | .login .. => none

/-- The entry of a rent of the user, when it is successful: the reservation that is
    there afterwards under a key that had not been handed out. -/
def rental (rt : Runtime) (user : Id) (move : Store × Event) : Option (Id × Reservation) :=
  if renter move.1 move.2 = some user then
    ((step rt move.1 move.2).reservation.find move.1.reservation.nextId).map
      (fun row => (move.1.reservation.nextId, row))
  else none

/-- The entries of all successful rents of the user. -/
def rentals (rt : Runtime) (user : Id) (past : List (Store × Event)) : List (Id × Reservation) :=
  past.filterMap (rental rt user)

/-- The report on each user has one entry for each successful rent of the user, the
    report on all users has the entries of all of them, and nothing that either has
    ever listed is missing. -/
structure IsHistory (rt : Runtime) (r : Recorded Store Event) : Prop where
  user : ∀ user, ∃ rows, (ReportsController.showUserRentalHistory user r.now).result =
      .ok (.render "reports/users.rentalHistory.html.twig" (.reservations rows)) ∧
    rows.Perm (rentals rt user r.past)
  all : ∃ rows, (ReportsController.showRentalHistory r.now).result =
      .ok (.render "reports/rentalHistory.html.twig" (.reservations rows)) ∧
    rows.Nodup ∧ ∀ row, row ∈ rows ↔ ∃ user, row ∈ rentals rt user r.past
  userPersists : ∀ move ∈ r.past, ∀ user, ∀ earlier now : List (Id × Reservation),
    (ReportsController.showUserRentalHistory user move.1).result =
        .ok (.render "reports/users.rentalHistory.html.twig" (.reservations earlier)) →
      (ReportsController.showUserRentalHistory user r.now).result =
        .ok (.render "reports/users.rentalHistory.html.twig" (.reservations now)) → earlier ⊆ now
  persists : ∀ move ∈ r.past, ∀ earlier now : List (Id × Reservation),
    (ReportsController.showRentalHistory move.1).result =
        .ok (.render "reports/rentalHistory.html.twig" (.reservations earlier)) →
      (ReportsController.showRentalHistory r.now).result =
        .ok (.render "reports/rentalHistory.html.twig" (.reservations now)) → earlier ⊆ now

/-- A return finds no reservation, or no status to give back. -/
def ReturnsNothing (s : Store) : Event → Prop
  | .operation (.delete reservation) =>
      s.reservation.find reservation = none ∨ s.findStatus "AVAL" = none
  | .operation (.submit ..) | .operation (.accept ..) | .operation (.reject ..)
  | .operation (.rent ..) | .login .. => True

instance (s : Store) : (event : Event) → Decidable (ReturnsNothing s event)
  | .operation (.delete _) => inferInstanceAs (Decidable (_ ∨ _))
  | .operation (.submit ..) | .operation (.accept ..) | .operation (.reject ..)
  | .operation (.rent ..) | .login .. => .isTrue trivial

/-- Everything an event can do to the reservations. -/
inductive Effect (s : Store) : Event → Store → Prop where
  | keeps {event : Event} {u : Store} (same : u.reservation = s.reservation)
      (guard : ReturnsNothing s event) : Effect s event u
  | rents {sessionUser : Option SessionUser} {item user : Id} {now : DateTime} {u : Store}
      (owner : RequestController.owner sessionUser s.toTables = some user)
      (added : u.reservation = s.reservation.insert (.construct user item now)) :
      Effect s (.operation (.rent sessionUser item now)) u
  | returns {id : Id} {row : Reservation} {u : Store} (found : s.reservation.find id = some row)
      (aval : s.findStatus "AVAL" ≠ none) (removed : u.reservation = s.reservation.delete id) :
      Effect s (.operation (.delete id)) u

theorem effect (rt : Runtime) (s : Store) (event : Event) : Effect s event (step rt s event) := by
  cases event with
  | login directory now credentials =>
      have writes := attemptAuthentication_writes directory s now credentials
      refine .keeps ?_ trivial
      rw [step]
      generalize (attemptAuthentication directory s now credentials).1 = u at writes
      cases writes with
      | nothing => rfl
      | added row after ordinary => rw [after, Tables.insertUser]
  | operation operation =>
      cases operation with
      | submit kind sessionUser method payload =>
          refine .keeps ?_ trivial
          cases RequestController.indexAction_cases kind rt sessionUser method payload s with
          | inr nothing => rw [step, act, nothing.2.1]
          | inl inserted =>
              obtain ⟨row, u, -, after, -, outcome⟩ := inserted
              rw [step, act, outcome, after]
              rfl
      | accept kind sessionUser id =>
          refine .keeps ?_ trivial
          cases RequestController.adminChangeStatusAction_cases kind rt sessionUser id s with
          | inr nothing =>
              obtain ⟨-, e, raised⟩ := nothing
              rw [step, act, raised]
              rfl
          | inl applied =>
              obtain ⟨item, arrival, u, -, -, after, -, outcome⟩ := applied
              rw [step, act, outcome]
              exact (congrArg Tables.reservation after).trans
                (Tables.changeItemStatus_reservation id item arrival _)
      | reject kind sessionUser id =>
          refine .keeps ?_ trivial
          cases RequestController.adminRejectSpecialRequestAction_cases kind rt sessionUser id s with
          | inr nothing =>
              obtain ⟨-, e, raised⟩ := nothing
              rw [step, act, raised]
              rfl
          | inl applied =>
              obtain ⟨item, u, -, -, after, -, outcome⟩ := applied
              rw [step, act, outcome, after]
              rfl
      | rent sessionUser id now =>
          cases RentController.rentAction_cases rt sessionUser id now s with
          | inr stopped =>
              refine .keeps ?_ trivial
              rw [step, act, stopped.2.1]
          | inl applied =>
              obtain ⟨rent, u, decides, -, after, -, outcome⟩ := applied
              obtain ⟨rfl, rfl, -, ⟨account, rfl, -, located⟩, -⟩ :=
                RentController.load_decides.mp decides
              have owner : RequestController.owner (some account) s.toTables = some rent.userid := by
                simp [RequestController.owner, located]
              refine .rents owner ?_
              rw [step, act, outcome, after]
              exact RentController.write_reservation rent s.toTables
      | delete id =>
          cases ReservationController.deleteAction_cases id s with
          | inl applied =>
              obtain ⟨ret, u, decides, after, -, outcome⟩ := applied
              obtain ⟨rfl, ⟨row, found, -⟩, -, aval⟩ := ReservationController.load_decides.mp decides
              refine .returns found (by simp [aval]) ?_
              rw [step, act, outcome, after]
              exact ReservationController.write_reservation ret s.toTables
          | inr unchanged =>
              refine .keeps ?_ unchanged.1
              rw [step, act, unchanged.2.1]

section Complete

variable {rt : Runtime} {r : Recorded Store Event}

/-- Each user's reservations are the entries of the user's rents, in their order. -/
structure Complete (rt : Runtime) (r : Recorded Store Event) : Prop where
  user : ∀ user, r.now.getReservations user = rentals rt user r.past
  persists : ∀ move ∈ r.past, move.1.reservation.rows ⊆ r.now.reservation.rows

theorem shown_eq_rows {s : Store} {shown : List (Id × Reservation)}
    (result : (ReportsController.showRentalHistory s).result =
      .ok (.render "reports/rentalHistory.html.twig" (.reservations shown))) :
    s.reservation.rows = shown := by
  simpa only [ReportsController.showRentalHistory, Outcome.answer, Table.findAll, Except.ok.injEq,
    Response.render.injEq, PageData.reservations.injEq, true_and] using result

theorem shown_eq_getReservations {s : Store} {user : Id} {shown : List (Id × Reservation)}
    (result : (ReportsController.showUserRentalHistory user s).result =
      .ok (.render "reports/users.rentalHistory.html.twig" (.reservations shown))) :
    s.getReservations user = shown := by
  simpa only [ReportsController.showUserRentalHistory, Outcome.answer, Except.ok.injEq,
    Response.render.injEq, PageData.reservations.injEq, true_and] using result

theorem Complete.isHistory (complete : Complete rt r) : IsHistory rt r where
  user user := ⟨_, rfl, .of_eq (complete.user user)⟩
  all := by
    refine ⟨_, rfl, r.now.reservation.ascending.imp fun less same => ?_, fun row => ?_⟩
    · exact absurd (congrArg Prod.fst same) (Nat.ne_of_lt less)
    · simp only [← complete.user, Tables.getReservations, Table.findBy, Table.findAll,
        List.mem_filter, decide_eq_true_eq]
      constructor
      · intro member
        exact ⟨row.2.userid, member, rfl⟩
      · rintro ⟨user, member, -⟩
        exact member
  userPersists := by
    intro move before user earlier now shownBefore shownNow
    obtain rfl := shown_eq_getReservations shownBefore
    obtain rfl := shown_eq_getReservations shownNow
    intro row member
    obtain ⟨there, belongs⟩ := List.mem_filter.mp member
    exact List.mem_filter.mpr ⟨complete.persists move before there, belongs⟩
  persists := by
    intro move before earlier now shownBefore shownNow
    obtain rfl := shown_eq_rows shownBefore
    obtain rfl := shown_eq_rows shownNow
    exact complete.persists move before

theorem rentals_concat (user : Id) (past : List (Store × Event)) (move : Store × Event) :
    rentals rt user (past ++ [move]) = rentals rt user past ++ (rental rt user move).toList := by
  rw [rentals, List.filterMap_append]
  cases entry : rental rt user move <;> simp [rentals, entry]

/-- No key is handed out, so no rent has succeeded. -/
theorem rental_of_same {s : Store} {event : Event}
    (same : (step rt s event).reservation = s.reservation) (user : Id) :
    rental rt user (s, event) = none := by
  simp [rental, same]

theorem rental_of_rent {s : Store} {sessionUser : Option SessionUser} {item user : Id}
    {now : DateTime} (owner : RequestController.owner sessionUser s.toTables = some user)
    (added : (step rt s (.operation (.rent sessionUser item now))).reservation =
      s.reservation.insert (.construct user item now)) (other : Id) :
    rental rt other (s, .operation (.rent sessionUser item now)) =
      if user = other then some (s.reservation.nextId, .construct user item now) else none := by
  simp [rental, renter, owner, added, Table.find_insert_self]

theorem getReservations_insert {s : Store} {row : Reservation} (user : Id) :
    (s.reservation.insert row).findBy (fun reservation => reservation.userid = user) =
      s.getReservations user ++
        (if row.userid = user then some (s.reservation.nextId, row) else none).toList := by
  rw [Tables.getReservations, Table.findBy, Table.findBy, Table.insert, List.filter_append]
  split <;> simp_all

/-- What is not returned stays listed, and a rent adds its entry. -/
theorem complete_step (complete : Complete rt r) {event : Event}
    (guard : ReturnsNothing r.now event) : Complete rt (record (step rt) r event) := by
  have effect := effect rt r.now event
  generalize after : step rt r.now event = u at effect
  cases effect with
  | keeps same _ =>
      have unchanged : (step rt r.now event).reservation = r.now.reservation := by rw [after, same]
      have entry := rental_of_same unchanged
      constructor
      · intro user
        simp only [record, after, rentals_concat, entry, Option.toList_none, List.append_nil]
        rw [← complete.user, Tables.getReservations, Tables.getReservations, same]
      · simp only [record, after, same, List.mem_append, List.mem_singleton]
        rintro move (before | rfl)
        · exact complete.persists move before
        · exact List.Subset.refl _
  | rents owner added =>
      have entry := rental_of_rent owner (by rw [after, added])
      constructor
      · intro user
        simp only [record, after, rentals_concat, entry]
        rw [Tables.getReservations, added, getReservations_insert, complete.user]
        rfl
      · simp only [record, after, added, Table.insert, List.mem_append, List.mem_singleton]
        rintro move (before | rfl)
        · exact fun row member => List.mem_append_left _ (complete.persists move before member)
        · exact fun row member => List.mem_append_left _ member
  | returns found aval removed =>
      rcases guard with missing | noStatus
      · rw [found] at missing
        cases missing
      · exact absurd noStatus aval

/-- What is returned is not listed any more. -/
theorem not_isHistory_of_return {event : Event} {id : Id} {row : Reservation}
    (found : r.now.reservation.find id = some row)
    (removed : (step rt r.now event).reservation = r.now.reservation.delete id) :
    ¬ IsHistory rt (record (step rt) r event) := by
  intro history
  have kept := history.persists (r.now, event) (by simp [record]) _ _ rfl rfl
    (Table.mem_of_find found)
  simp only [record, removed, Table.findAll] at kept
  have there := Table.find_of_mem kept
  simp [Table.find_delete] at there

theorem isHistory_step (complete : Complete rt r) (event : Event) :
    IsHistory rt (record (step rt) r event) ↔ ReturnsNothing r.now event := by
  constructor
  · intro history
    have effect := effect rt r.now event
    generalize after : step rt r.now event = u at effect
    cases effect with
    | keeps same guard => exact guard
    | rents owner added => trivial
    | returns found aval removed =>
        exact absurd history (not_isHistory_of_return found (by rw [after, removed]))
  · exact fun guard => (complete_step complete guard).isHistory

end Complete

/-- From a store without reservations, the reports are a history at every point of a
    run exactly when no step of the run returns anything. -/
theorem rentalHistory_isHistory (rt : Runtime) {s : Store} (empty : s.reservation.rows = [])
    (events : List Event) :
    (∀ moment ∈ Run.states (record (step rt)) (.start s) events, IsHistory rt moment) ↔
      ∀ move ∈ Run.steps (step rt) s events, ReturnsNothing move.1 move.2 := by
  have complete : Complete rt (.start s) := by
    constructor
    · intro user
      simp [Recorded.start, Tables.getReservations, Table.findBy, empty, rentals]
    · simp [Recorded.start]
  refine Iff.trans ?_ (Run.forall_steps_record (r := .start s))
  exact Run.exact_guard (IsHistory rt) (Complete rt) (fun r event => ReturnsNothing r.now event)
    (fun r event _ complete guard => complete_step complete guard)
    (fun r event _ complete => isHistory_step complete event) complete.isHistory complete

/-- Bob and Ann rent an item each. -/
theorem rentalHistory_isHistory_sample : Store.sample.reservation.rows = [] ∧
    ∀ moment ∈ Run.states (record (step .sample)) (.start .sample)
        [.operation (.rent (some .sampleUser) 1 0), .operation (.rent (some .sampleAdmin) 2 0)],
      IsHistory .sample moment :=
  ⟨rfl, (rentalHistory_isHistory .sample rfl _).mpr (by decide)⟩

/-- Bob rents an item and brings it back. -/
theorem returned_rental_missing : ¬ ∀ (rt : Runtime) (s : Store) (events : List Event),
    s.reservation.rows = [] →
    ∀ moment ∈ Run.states (record (step rt)) (.start s) events, IsHistory rt moment := by
  intro claim
  let rent : Event := .operation (.rent (some .sampleUser) 1 0)
  let rented : Store := step .sample .sample rent
  have history := claim .sample .sample [rent, .operation (.delete 1)] rfl
    (Run.final (record (step .sample)) (.start .sample) [rent, .operation (.delete 1)])
    (by simp [Run.states])
  have kept := history.persists (rented, .operation (.delete 1))
    (by simp [record, Recorded.start, rented]) _ _ rfl rfl
  have there := kept (a := (1, .construct 2 1 0)) (by decide)
  exact absurd there (by decide)

end WuRegalia.RentalHistory
