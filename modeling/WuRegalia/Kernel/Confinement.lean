import WuRegalia.Kernel.Effect
import WuRegalia.Lending.Availability

/-! # What users without `ROLE_ADMIN` can change

Off `localhost`, three requests of such a session write at all: a login, a rent
and a submission. Over a run they add users, reservations and requests of their
own, and turn items to `RENTED`. All a run leaves behind is as confined as that,
but for one thing: a request that was submitted can be rented too.
-/

namespace WuRegalia

open Relational

/-- The writes of a session without `ROLE_ADMIN`. -/
inductive OrdinaryWrites (rt : Runtime) (w : World) (req : Request) : Store → Prop where
  | nothing : OrdinaryWrites rt w req w.store
  | signsIn {u : Store} (row : User) (after : u.toTables = w.store.insertUser row)
      (ordinary : row.adminpriv = 0) : OrdinaryWrites rt w req u
  | rents {u : Store} (args : List (List Char)) (rent : RentController.Rent)
      (passes : passage req (w.roles req.session) = .action .rentItem args)
      (asked : rent.itemid = idOf rt args)
      (decides : RentController.load (w.sessions req.session) rent.itemid req.now w.store.toTables =
        .decides rent)
      (free : ¬ w.store.Reserved rent.itemid)
      (after : u.toTables = RentController.write rent w.store.toTables) : OrdinaryWrites rt w req u
  | submits {u : Store} (kind : RequestKind) (row : Inventory)
      (accepted : RequestController.submitted kind (w.sessions req.session) w.store.toTables
        req.method req.payload = some row)
      (after : u.toTables = w.store.insertInventory row) : OrdinaryWrites rt w req u

theorem ordinaryWrites_step (rt : Runtime) {w : World} {req : Request}
    (elsewhere : ¬ IsLocalhost req.host) (ordinary : ¬ w.HoldsAdmin req.session) :
    OrdinaryWrites rt w req (World.step rt w req).store := by
  rw [step_eq]
  cases passes : passage req (w.roles req.session) with
  | noRoute | denied | logout => exact .nothing
  | login =>
      simp only [login_store]
      generalize signedIn : attemptAuthentication _ _ _ _ = attempt
      have writes : LoginWrites w.store attempt.1 :=
        signedIn ▸ attemptAuthentication_writes _ _ _ _
      generalize attempt.1 = u at writes
      cases writes with
      | nothing => exact .nothing
      | added row after plain => exact .signsIn row after plain
  | action action args =>
      simp only [Closet.after_store]
      cases writes : action.writes with
      | false =>
          rw [dispatch_of_not_writes writes]
          exact .nothing
      | true =>
          rcases demanded_of_writes writes with demands | rfl | ⟨kind, rfl⟩
          · have meets := meets_of_action elsewhere passes
            simp only [Meets, demands, mem_reachableRoles_admin] at meets
            exact absurd meets ordinary
          · simp only [dispatch]
            cases RentController.rentAction_cases rt (w.sessions req.session) (idOf rt args) req.now
              w.store with
            | inl applied =>
                obtain ⟨rent, u, decides, free, after, -, outcome⟩ := applied
                obtain ⟨same, -⟩ := RentController.load_decides.mp decides
                rw [outcome]
                exact .rents args rent passes same (same ▸ decides) (same ▸ free) after
            | inr unchanged =>
                rw [unchanged.2.1]
                exact .nothing
          · simp only [dispatch, RequestController.indexAction_store]
            split
            · rename_i row accepted
              cases w.store.committed_cases (Tables.insertInventory row) with
              | inl applied => exact .submits kind row accepted applied.2
              | inr rejected =>
                  rw [rejected.2]
                  exact .nothing
            · exact .nothing

section Frame

variable (rt : Runtime)

/-- The request inserts the reservation for the user of its session. -/
def Reserves (id : Id) (reservation : Reservation) (w : World) (req : Request) : Prop :=
  w.store.reservation.find id = none ∧
    (World.step rt w req).store.reservation.find id = some reservation ∧
    RequestController.owner (w.sessions req.session) w.store.toTables = some reservation.userid

/-- The request changes the item and inserts a reservation for it. -/
def RentsOut (id : Id) (w : World) (req : Request) : Prop :=
  (World.step rt w req).store.inventory.find id ≠ w.store.inventory.find id ∧
    ∃ key reservation, Reserves rt key reservation w req ∧ reservation.item = id

/-- The request inserts an item for the user of its session. -/
def Submits (id : Id) (owner : Option Id) (w : World) (req : Request) : Prop :=
  w.store.inventory.find id = none ∧
    ((World.step rt w req).store.inventory.find id).isSome ∧ owner.isSome ∧
    RequestController.owner (w.sessions req.session) w.store.toTables = owner

/-- The store at the end of a run against the one at its start, with the requests
    that made the difference. -/
structure Frame (s : Store) (moves : List (World × Request)) (u : Store) : Prop where
  user : ∀ id user, s.user.find id = some user → u.user.find id = some user
  newUser : ∀ id user, u.user.find id = some user → s.user.find id = none → user.adminpriv = 0
  named : ∀ kind, NamedController.get u.toTables kind = NamedController.get s.toTables kind
  reservation : ∀ id reservation, s.reservation.find id = some reservation →
    u.reservation.find id = some reservation
  newReservation : ∀ id reservation, u.reservation.find id = some reservation →
    s.reservation.find id = none → reservation.approved = false ∧
      ∃ move ∈ moves, Reserves rt id reservation move.1 move.2
  item : ∀ id item, s.inventory.find id = some item → ∃ kept, u.inventory.find id = some kept ∧
    (kept = item ∨ ∃ rented, s.findStatus "RENTED" = some rented ∧
      kept = item.setItemStatus rented ∧ ∃ move ∈ moves, RentsOut rt id move.1 move.2)
  newItem : ∀ id item, u.inventory.find id = some item → s.inventory.find id = none →
    ∃ move ∈ moves, Submits rt id item.user move.1 move.2

theorem Frame.refl (s : Store) : Frame rt s [] s where
  user _ _ found := found
  newUser id user found missing := by simp [found] at missing
  named _ := rfl
  reservation _ _ found := found
  newReservation id reservation found missing := by simp [found] at missing
  item _ item found := ⟨item, found, .inl rfl⟩
  newItem id item found missing := by simp [found] at missing

variable {rt}

theorem Frame.findStatus {s u : Store} {moves : List (World × Request)} (frame : Frame rt s moves u)
    (name : String) : u.findStatus name = s.findStatus name := by
  have same : u.status = s.status := frame.named .status
  unfold Tables.findStatus
  rw [same]

/-- What a run leaves behind, seen as part of a longer run. -/
theorem Frame.mono {s u : Store} {moves longer : List (World × Request)}
    (frame : Frame rt s moves u) (part : moves ⊆ longer) : Frame rt s longer u :=
  { frame with
    newReservation := by
      intro id reservation found missing
      obtain ⟨plain, made, there, reserves⟩ := frame.newReservation id reservation found missing
      exact ⟨plain, made, part there, reserves⟩
    item := by
      intro id item found
      obtain ⟨kept, present, either⟩ := frame.item id item found
      refine ⟨kept, present, either.imp_right fun changed => ?_⟩
      obtain ⟨rented, located, set, made, there, rents⟩ := changed
      exact ⟨rented, located, set, made, part there, rents⟩
    newItem := by
      intro id item found missing
      obtain ⟨made, there, submits⟩ := frame.newItem id item found missing
      exact ⟨made, part there, submits⟩ }

section Step

variable {s u : Store} {moves : List (World × Request)} {w : World} {req : Request}

theorem Frame.signsIn (frame : Frame rt s moves w.store) (row : User)
    (after : u.toTables = w.store.insertUser row) (ordinary : row.adminpriv = 0) :
    Frame rt s (moves ++ [(w, req)]) u := by
  have frame := frame.mono (List.subset_append_left moves [(w, req)])
  obtain ⟨tables, valid⟩ := u
  subst after
  exact
    { frame with
      user := fun id user found => Table.find_insert_old (frame.user id user found)
      newUser := by
        intro id user found missing
        simp only [Tables.insertUser, Table.find_insert] at found
        split at found
        · obtain rfl := Option.some.inj found
          exact ordinary
        · exact frame.newUser id user found missing }

theorem Frame.submits (frame : Frame rt s moves w.store) (same : (World.step rt w req).store = u)
    (kind : RequestKind) (row : Inventory)
    (accepted : RequestController.submitted kind (w.sessions req.session) w.store.toTables
      req.method req.payload = some row)
    (after : u.toTables = w.store.insertInventory row) : Frame rt s (moves ++ [(w, req)]) u := by
  have frame := frame.mono (List.subset_append_left moves [(w, req)])
  obtain ⟨-, owned, isOwned⟩ := RequestController.submitted_some accepted
  obtain ⟨tables, valid⟩ := u
  subst after
  exact
    { frame with
      item := by
        intro id item found
        obtain ⟨kept, present, either⟩ := frame.item id item found
        exact ⟨kept, Table.find_insert_old present, either⟩
      newItem := by
        intro id item found missing
        have inserted := found
        simp only [Tables.insertInventory, Table.find_insert] at found
        split at found
        · rename_i new
          obtain rfl := Option.some.inj found
          refine ⟨(w, req), by simp, ?_, ?_, ?_, owned.symm⟩
          · rw [new]
            exact Table.find_nextId _
          · rw [same, inserted]
            rfl
          · rw [owned]
            exact isOwned
        · exact frame.newItem id item found missing }

theorem Frame.rents (frame : Frame rt s moves w.store) (same : (World.step rt w req).store = u)
    (rent : RentController.Rent)
    (decides : RentController.load (w.sessions req.session) rent.itemid req.now w.store.toTables =
      .decides rent)
    (after : u.toTables = RentController.write rent w.store.toTables) :
    Frame rt s (moves ++ [(w, req)]) u := by
  have earlier := frame
  have frame := frame.mono (List.subset_append_left moves [(w, req)])
  obtain ⟨-, -, -, ⟨account, signedIn, -, located⟩, -, rented⟩ :=
    RentController.load_decides.mp decides
  have reservations : u.reservation =
      w.store.reservation.insert (.construct rent.userid rent.itemid rent.now) := by
    rw [after, RentController.write_reservation]
  have reserves : Reserves rt w.store.reservation.nextId
      (.construct rent.userid rent.itemid rent.now) w req := by
    refine ⟨Table.find_nextId _, ?_, ?_⟩
    · rw [same, reservations]
      exact Table.find_insert_self _ _
    · simp [RequestController.owner, signedIn, located, Reservation.construct]
  have users : u.user = w.store.user := by
    rw [after]
    exact (RentController.sameStock_write rent w.store.toTables).user
  exact
    { user := fun id user found => by rw [users]; exact frame.user id user found
      newUser := fun id user found missing => frame.newUser id user (users ▸ found) missing
      named := by
        intro kind
        rw [after, RentController.write_get]
        exact frame.named kind
      reservation := by
        intro id reservation found
        rw [reservations]
        exact Table.find_insert_old (frame.reservation id reservation found)
      newReservation := by
        intro id reservation found missing
        rw [reservations, Table.find_insert] at found
        split at found
        · rename_i new
          obtain rfl := Option.some.inj found
          exact ⟨rfl, (w, req), by simp, new ▸ reserves⟩
        · exact frame.newReservation id reservation found missing
      item := by
        intro id item found
        obtain ⟨kept, present, either⟩ := frame.item id item found
        have now : u.inventory.find id = _ := (congrArg (fun t => t.inventory.find id) after).trans
          (RentController.write_find rent w.store.toTables id)
        by_cases changes : u.inventory.find id = w.store.inventory.find id
        · exact ⟨kept, changes.trans present, either⟩
        · split at now
          · rename_i here
            rw [present, Option.map_some] at now
            refine ⟨_, now, .inr ⟨rent.rent_status, (earlier.findStatus _).symm.trans rented, ?_,
              (w, req), by simp, ?_, _, _, reserves, here.1.symm⟩⟩
            · cases either with
              | inl unchanged => rw [unchanged]
              | inr changed =>
                  obtain ⟨status, -, set, -⟩ := changed
                  rw [set]
                  rfl
            · rw [same]
              exact changes
          · exact absurd now changes
      newItem := by
        intro id item found missing
        have now := found
        rw [after, RentController.write_find] at now
        split at now
        · obtain ⟨before, present, rfl⟩ := Option.map_eq_some_iff.mp now
          exact frame.newItem id before present missing
        · exact frame.newItem id item now missing }

/-- Every request of a session without `ROLE_ADMIN` extends the frame. -/
theorem Frame.step (frame : Frame rt s moves w.store) (elsewhere : ¬ IsLocalhost req.host)
    (ordinary : ¬ w.HoldsAdmin req.session) :
    Frame rt s (moves ++ [(w, req)]) (World.step rt w req).store := by
  have writes := ordinaryWrites_step rt elsewhere ordinary
  generalize same : (World.step rt w req).store = u at writes
  cases writes with
  | nothing => exact frame.mono (List.subset_append_left _ _)
  | signsIn row after plain => exact frame.signsIn row after plain
  | rents args rent passes asked decides free after => exact frame.rents same rent decides after
  | submits kind row accepted after => exact frame.submits same kind row accepted after

end Step

end Frame

/-- All requests of the run come from elsewhere than `localhost`, and from
    sessions without `ROLE_ADMIN`. -/
def OrdinaryRun (rt : Runtime) (w : World) (requests : List Request) : Prop :=
  ∀ move ∈ Run.steps (World.step rt) w requests,
    ¬ IsLocalhost move.2.host ∧ ¬ move.1.HoldsAdmin move.2.session

instance (rt : Runtime) (w : World) (requests : List Request) :
    Decidable (OrdinaryRun rt w requests) :=
  inferInstanceAs (Decidable (∀ _ ∈ _, _ ∧ _))

theorem OrdinaryRun.suffix {rt : Runtime} {w : World} {requests before after : List Request}
    {req : Request} (ordinary : OrdinaryRun rt w requests) (split : requests = before ++ req :: after) :
    OrdinaryRun rt (World.step rt (Run.final (World.step rt) w before) req) after := by
  intro move member
  obtain ⟨t, next⟩ := move
  obtain ⟨earlier, rest, rfl, rfl⟩ := (Run.mem_steps _).mp member
  refine ordinary (_, next) ((Run.mem_steps _).mpr ⟨before ++ req :: earlier, rest, ?_, ?_⟩)
  · simp [split]
  · rw [Run.final_append, Run.final_cons]

theorem frame_run {rt : Runtime} {w : World} {requests : List Request}
    (ordinary : OrdinaryRun rt w requests) :
    Frame rt w.store (Run.steps (World.step rt) w requests)
      (Run.final (World.step rt) w requests).store :=
  Run.traced (fun moves t => Frame rt w.store moves t.store) (Frame.refl rt w.store)
    fun _ t req move frame => frame.step (ordinary (t, req) move).1 (ordinary (t, req) move).2

/-- What the run leaves behind is confined: the frame, and every item it inserted
    is a request still to be decided. -/
def Confined (rt : Runtime) (w : World) (requests : List Request) : Prop :=
  let u := (Run.final (World.step rt) w requests).store
  Frame rt w.store (Run.steps (World.step rt) w requests) u ∧
    ∀ id item, u.inventory.find id = some item → w.store.inventory.find id = none →
      ∃ kind, u.statusName item = some (RequestController.texts kind).pending

/-- The item a request asks to rent. -/
def rentedItem (rt : Runtime) : Passage → Option Id
  | .action .rentItem args => some (idOf rt args)
  | _ => none

theorem rentedItem_some {rt : Runtime} {passes : Passage} {id : Id} :
    rentedItem rt passes = some id ↔
      ∃ args, passes = .action .rentItem args ∧ idOf rt args = id := by
  unfold rentedItem
  split
  · simp
  · rename_i other
    simp only [reduceCtorEq, false_iff, not_exists, not_and]
    intro args here
    exact absurd here (other args)

/-- A rent is refused, or is of an item that was there when the run began. -/
def RentsOldItem (rt : Runtime) (s : Store) (w : World) (req : Request) : Prop :=
  ∀ id ∈ rentedItem rt (passage req (w.roles req.session)),
    Availability.Refused w.store (w.sessions req.session) id ∨ (s.inventory.find id).isSome

instance (rt : Runtime) (s : Store) (w : World) (req : Request) :
    Decidable (RentsOldItem rt s w req) :=
  inferInstanceAs (Decidable (∀ _ ∈ _, _ ∨ _))

/-- The items a run has inserted are pending. -/
def NewPending (s u : Store) : Prop :=
  ∀ id item, u.inventory.find id = some item → s.inventory.find id = none →
    ∃ kind, u.findStatus (RequestController.texts kind).pending = some item.itemStatus

theorem newPending_step {rt : Runtime} {s : Store} {w : World} {req : Request}
    (elsewhere : ¬ IsLocalhost req.host) (ordinary : ¬ w.HoldsAdmin req.session)
    (rentsOld : RentsOldItem rt s w req) (pending : NewPending s w.store) :
    NewPending s (World.step rt w req).store := by
  have writes := ordinaryWrites_step rt elsewhere ordinary
  generalize (World.step rt w req).store = u at writes
  intro id item found missing
  cases writes with
  | nothing => exact pending id item found missing
  | signsIn row after plain =>
      rw [after] at found ⊢
      exact pending id item found missing
  | submits kind row accepted after =>
      rw [after] at found ⊢
      simp only [Tables.insertInventory, Table.find_insert] at found
      split at found
      · obtain rfl := Option.some.inj found
        exact ⟨kind, (RequestController.submitted_some accepted).1⟩
      · exact pending id item found missing
  | rents args rent passes asked decides free after =>
      rw [after, RentController.write_find] at found
      simp only [after, RentController.write_findStatus]
      have old : id ≠ rent.itemid := by
        intro here
        have rents : rentedItem rt (passage req (w.roles req.session)) = some rent.itemid :=
          rentedItem_some.mpr ⟨args, passes, asked.symm⟩
        cases rentsOld rent.itemid rents with
        | inl refused =>
            rcases (Availability.refused_iff req.now).mp refused with ended | reserved
            · simp [decides, Loaded.decision] at ended
            · exact free reserved
        | inr there => simp [← here, missing] at there
      rw [if_neg (fun both => old both.1)] at found
      exact pending id item found missing

/-- A rent that is not refused leaves its item with the status `RENTED`. -/
theorem rented_step (rt : Runtime) {w : World} {req : Request} {args : List (List Char)}
    (passes : passage req (w.roles req.session) = .action .rentItem args)
    (accepted : ¬ Availability.Refused w.store (w.sessions req.session) (idOf rt args)) :
    ∃ item, (World.step rt w req).store.inventory.find (idOf rt args) = some item ∧
      (World.step rt w req).store.findStatus "RENTED" = some item.itemStatus := by
  simp only [step_eq, passes, Closet.after_store, dispatch]
  rw [Availability.refused_iff req.now] at accepted
  cases RentController.rentAction_cases rt (w.sessions req.session) (idOf rt args) req.now
    w.store with
  | inr unchanged => exact absurd unchanged.1 accepted
  | inl applied =>
      obtain ⟨rent, u, decides, -, after, -, outcome⟩ := applied
      obtain ⟨same, -, present, -, -, rented⟩ := RentController.load_decides.mp decides
      rw [outcome, after, RentController.write_findStatus, RentController.write_find, present, rented]
      split
      · exact ⟨_, rfl, rfl⟩
      · rename_i unchanged
        have already : rent.item.itemStatus = rent.rent_status := by
          by_contra differs
          exact unchanged ⟨same.symm, differs⟩
        exact ⟨rent.item, rfl, already ▸ rfl⟩

/-- A run of sessions without `ROLE_ADMIN` leaves only their own rentals and
    requests behind exactly when it rents no request that was submitted during it. -/
theorem confined_iff (rt : Runtime) {w : World} {requests : List Request}
    (ordinary : OrdinaryRun rt w requests) :
    Confined rt w requests ↔
      ∀ move ∈ Run.steps (World.step rt) w requests, RentsOldItem rt w.store move.1 move.2 := by
  have named : ∀ (u : Store) (item : Inventory) (kind : RequestKind),
      u.statusName item = some (RequestController.texts kind).pending ↔
        u.findStatus (RequestController.texts kind).pending = some item.itemStatus :=
    fun u _ _ => u.valid.statusName_iff
  constructor
  · intro confined move member
    obtain ⟨t, req⟩ := move
    intro id rents
    obtain ⟨args, passes, rfl⟩ := rentedItem_some.mp rents
    by_contra neither
    obtain ⟨accepted, absent⟩ := not_or.mp neither
    have missing : w.store.inventory.find (idOf rt args) = none := by simpa using absent
    obtain ⟨before, after, rfl, rfl⟩ := (Run.mem_steps _).mp member
    obtain ⟨item, found, rented⟩ := rented_step rt passes accepted
    -- the rest of the run leaves the item rented
    have later := frame_run (ordinary.suffix rfl)
    obtain ⟨kept, present, either⟩ := later.item (idOf rt args) item found
    have stillRented : (Run.final (World.step rt) w (before ++ req :: after)).store.findStatus
        "RENTED" = some kept.itemStatus := by
      rw [Run.final_append, Run.final_cons, later.findStatus]
      cases either with
      | inl unchanged => rw [unchanged, rented]
      | inr changed =>
          obtain ⟨status, located, set, -⟩ := changed
          rw [set, located]
          rfl
    rw [← Run.final_cons, ← Run.final_append] at present
    obtain ⟨kind, pending⟩ := confined.2 (idOf rt args) kept present missing
    have names := Tables.findStatus_name stillRented ((named _ kept kind).mp pending)
    cases kind <;> exact absurd names (by decide)
  · intro rentsOld
    refine ⟨frame_run ordinary, ?_⟩
    simp only [named]
    refine Run.invariant (fun t : World => NewPending w.store t.store) ?_ fun t req move pending =>
      newPending_step (ordinary (t, req) move).1 (ordinary (t, req) move).2 (rentsOld (t, req) move)
        pending
    intro id item found missing
    simp [found] at missing

/-- Bob signs in, submits a donation and rents what was there before. -/
theorem confined_iff_sample : Confined .sample .sample
    [.signIn 1 "jonesb", .post 1 "/donation_request" RequestForm.sample, .visit 1 .get "/rent/1"] :=
  (confined_iff .sample (by decide)).mpr (by decide)

/-- Bob rents the donation he has just submitted. -/
theorem rented_request_not_confined : ¬ ∀ (rt : Runtime) (w : World) (requests : List Request),
    OrdinaryRun rt w requests → Confined rt w requests := by
  intro claim
  let requests : List Request :=
    [.signIn 1 "jonesb", .post 1 "/donation_request" RequestForm.sample, .visit 1 .get "/rent/4"]
  have confined := (claim .sample .sample requests (by decide)).2
  have rented : (Run.final (World.step .sample) .sample requests).store.inventory.find 4 =
      some ⟨2, 2, 1, 1, 1, "a hood of mine", none, some 2⟩ := by decide
  obtain ⟨kind, pending⟩ := confined 4 _ rented (by decide)
  cases kind <;> exact absurd pending (by decide)

end WuRegalia
