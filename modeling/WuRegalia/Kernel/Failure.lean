import WuRegalia.Kernel.Effect
import WuRegalia.Workflow.Notices

/-! # Actions that fail after their flush

A flush that violates a constraint is rolled back, but what comes after a flush
that was applied can fail as well: the redirect of `newAction` for reservations
names no route, and a mail needs a parameter, a session user and an address that
is not refused. Then the user is shown an error and the rows stay. The main
result lists these cases; there are no others.
-/

namespace WuRegalia

open Relational Availability
open Workflow (Unreachable)

/-- An action that ends with an exception has changed nothing. -/
def Outcome.Clean (s : Store) (o : Outcome) : Prop := ∀ e, o.result = .error e → o.store = s

theorem Outcome.Clean.of_store {s : Store} {o : Outcome} (same : o.store = s) : o.Clean s :=
  fun _ _ => same

theorem Outcome.Clean.of_ok {s : Store} {o : Outcome} {response : Response}
    (answered : o.result = .ok response) : o.Clean s := by
  intro e failed
  rw [answered] at failed
  cases failed

theorem Outcome.not_clean {s : Store} {o : Outcome} {e : Exception} (failed : o.result = .error e)
    (changed : o.store ≠ s) : ¬ o.Clean s :=
  fun clean => changed (clean e failed)

/-- The action flushes and then fails. -/
def FailsAfterFlush (rt : Runtime) (action : Action) (args : List (List Char)) (req : Request)
    (sessionUser : Option SessionUser) (s : Store) : Prop :=
  match action with
  | .reservationNew =>
      ∃ row ∈ (ReservationType s.toTables).submitted req.method req.payload, ¬ s.Reserved row.item
  | .rentItem =>
      ¬ Refused s sessionUser (idOf rt args) ∧ ∃ account ∈ sessionUser,
        ∃ row ∈ s.findUser account.username, ¬ RentController.Confirms rt row.2
  | .requestIndex kind =>
      (RequestController.submitted kind sessionUser s.toTables req.method req.payload).isSome ∧
        Unreachable rt sessionUser
  | .requestAccept _ =>
      (∃ item ∈ s.inventory.find (idOf rt args), ∃ arrival ∈ s.findStatus "PENDING_ARRIVAL",
        item.itemStatus ≠ arrival) ∧ Unreachable rt sessionUser
  | .requestReject _ =>
      ((s.inventory.find (idOf rt args)).isSome ∧ ¬ s.Reserved (idOf rt args)) ∧
        Unreachable rt sessionUser
  | _ => False

/-- A name some controller declares has a URL. -/
theorem redirectToRoute_declared {name : String} (declared : name ∈ routes.map Route.name)
    (id : Option Id) : redirectToRoute name id = .ok (.redirect name id) := by
  rw [redirectToRoute, if_pos declared]

theorem transact_clean (s : Store) (write : Tables → Tables)
    {next : Store → List Mail × Except Exception Response} {response : Response}
    (answers : ∀ u, (next u).2 = .ok response) : (s.transact write next).Clean s := by
  by_cases valid : (write s.toTables).Valid
  · obtain ⟨u, -, outcome⟩ := Store.transact_of_valid valid next
    rw [outcome]
    exact .of_ok (answers u)
  · rw [Store.transact_of_invalid valid]
    exact .of_store rfl

theorem save_clean {α : Type} (form : FormType α) (method : Method) (payload : Payload)
    (write : α → Tables → Tables) {name : String} (declared : name ∈ routes.map Route.name)
    (id : Option Id) (page : Response) (s : Store) :
    (form.save method payload write (redirectToRoute name id) page s).Clean s := by
  cases accepted : form.submitted method payload with
  | none =>
      refine .of_store ?_
      rw [FormType.save_store, accepted]
  | some row =>
      rw [FormType.save_of_submitted accepted]
      exact transact_clean s _ fun _ => redirectToRoute_declared declared id

theorem deleteEntity_clean (method : Method) (payload : Payload) {name : String}
    (declared : name ∈ routes.map Route.name) (id : Option Id) (remove : Tables → Tables)
    (s : Store) : (deleteEntity method payload (redirectToRoute name id) remove s).Clean s := by
  unfold deleteEntity
  split
  · split
    · exact transact_clean s _ fun _ => redirectToRoute_declared declared id
    · exact .of_store rfl
  · exact .of_store rfl

/-- A change followed by a mail to the session user. -/
theorem mailToUser_clean {s u : Store} {rt : Runtime} {sessionUser : Option SessionUser}
    {text : String × (Id → MailBody)} {id : Id} {response : Response} (changed : u ≠ s) :
    Outcome.Clean s ⟨u, (RequestController.mailToUser rt sessionUser text id (.ok response)).1,
      (RequestController.mailToUser rt sessionUser text id (.ok response)).2⟩ ↔
      ¬ Unreachable rt sessionUser := by
  by_cases unreachable : Unreachable rt sessionUser
  · obtain ⟨e, failed⟩ := Notices.mailToUser_of_unreachable unreachable text id (.ok response)
    refine iff_of_false (Outcome.not_clean (e := e) ?_ changed) (not_not.mpr unreachable)
    rw [failed]
  · obtain ⟨account, rfl, accepts⟩ := Notices.reachable_of_not unreachable
    refine iff_of_true (.of_ok (show _ = Except.ok response from ?_)) unreachable
    rw [Notices.mailToUser_of_accepted accepts]

theorem clean_rentAction (rt : Runtime) (sessionUser : Option SessionUser) (id : Id)
    (now : DateTime) (s : Store) :
    (RentController.rentAction rt sessionUser id now s).Clean s ↔
      ¬ (¬ Refused s sessionUser id ∧ ∃ account ∈ sessionUser,
        ∃ row ∈ s.findUser account.username, ¬ RentController.Confirms rt row.2) := by
  rw [refused_iff now]
  cases RentController.rentAction_cases rt sessionUser id now s with
  | inr stopped => exact iff_of_true (.of_store stopped.2.1) fun fails => fails.1 stopped.1
  | inl applied =>
      obtain ⟨rent, u, decides, free, -, changed, outcome⟩ := applied
      obtain ⟨rfl, -, -, ⟨account, rfl, -, row⟩, -⟩ := RentController.load_decides.mp decides
      have accepted :
          ¬ ((RentController.load (some account) rent.itemid now s.toTables).decision = none ∨
            s.Reserved rent.itemid) := by
        simp [decides, Loaded.decision, free]
      rw [outcome]
      simp only [accepted, not_false_eq_true, true_and, Option.mem_some_iff, exists_eq_left', row,
        not_not]
      by_cases confirms : RentController.Confirms rt rent.user
      · obtain ⟨admin, -, finished⟩ := RentController.finish_of_confirms confirms
        refine iff_of_true ?_ confirms
        rw [finished]
        exact .of_ok rfl
      · obtain ⟨e, failed⟩ := RentController.finish_of_not_confirms confirms
        refine iff_of_false ?_ confirms
        rw [failed]
        exact Outcome.not_clean rfl changed

theorem clean_newReservation (method : Method) (payload : Payload) (s : Store) :
    (ReservationController.newAction method payload s).Clean s ↔
      ¬ ∃ row ∈ (ReservationType s.toTables).submitted method payload, ¬ s.Reserved row.item := by
  unfold ReservationController.newAction
  cases accepted : (ReservationType s.toTables).submitted method payload with
  | none =>
      refine iff_of_true (.of_store ?_) (by simp)
      rw [FormType.save_store, accepted]
  | some row =>
      obtain ⟨user, item⟩ := ReservationType.targets accepted
      have valid := s.valid.insertReservation row user item
      rw [FormType.save_of_submitted accepted]
      simp only [Option.mem_some_iff, exists_eq_left', not_not]
      by_cases reserved : s.Reserved row.item
      · rw [Store.transact_of_invalid fun applied => valid.mp applied reserved]
        exact iff_of_true (.of_store rfl) reserved
      · obtain ⟨u, after, outcome⟩ := Store.transact_of_valid (valid.mpr reserved)
          (fun _ => ([], redirectToRoute "reservation_show" (some s.reservation.nextId)))
        have undeclared : redirectToRoute "reservation_show" (some s.reservation.nextId) =
            .error (.routeNotFound "reservation_show") := by
          rw [redirectToRoute, if_neg (by decide)]
        rw [outcome]
        refine iff_of_false (Outcome.not_clean undeclared fun same => ?_) reserved
        have same : u = s := same
        have count := congrArg (fun t => t.reservation.nextId) (same ▸ after)
        simp [Tables.insertReservation] at count

theorem clean_submission (kind : RequestKind) (rt : Runtime) (sessionUser : Option SessionUser)
    (method : Method) (payload : Payload) (s : Store) :
    (RequestController.indexAction kind rt sessionUser method payload s).Clean s ↔
      ¬ ((RequestController.submitted kind sessionUser s.toTables method payload).isSome ∧
        Unreachable rt sessionUser) := by
  cases RequestController.indexAction_cases kind rt sessionUser method payload s with
  | inr nothing =>
      obtain ⟨none, store, -⟩ := nothing
      exact iff_of_true (.of_store store) (by simp [none])
  | inl inserted =>
      obtain ⟨row, u, accepted, -, changed, outcome⟩ := inserted
      rw [outcome, accepted]
      simp only [Option.isSome_some, true_and]
      exact mailToUser_clean changed

theorem clean_accept (kind : RequestKind) (rt : Runtime) (sessionUser : Option SessionUser)
    (id : Id) (s : Store) :
    (RequestController.adminChangeStatusAction kind rt sessionUser id s).Clean s ↔
      ¬ ((∃ item ∈ s.inventory.find id, ∃ arrival ∈ s.findStatus "PENDING_ARRIVAL",
        item.itemStatus ≠ arrival) ∧ Unreachable rt sessionUser) := by
  cases RequestController.adminChangeStatusAction_cases kind rt sessionUser id s with
  | inr nothing =>
      obtain ⟨missing, e, raised⟩ := nothing
      refine iff_of_true (.of_store (by rw [raised]; rfl)) ?_
      rcases missing with noRecord | noStatus
      · simp [noRecord]
      · simp [noStatus]
  | inl applied =>
      obtain ⟨item, arrival, u, present, located, -, changes, outcome⟩ := applied
      simp only [present, located, Option.mem_some_iff, exists_eq_left']
      rw [outcome]
      by_cases arrived : item.itemStatus = arrival
      · exact iff_of_true (.of_store (changes.mpr arrived)) (by simp [arrived])
      · simp only [ne_eq, arrived, not_false_eq_true, true_and]
        exact mailToUser_clean (mt changes.mp arrived)

theorem clean_reject (kind : RequestKind) (rt : Runtime) (sessionUser : Option SessionUser)
    (id : Id) (s : Store) :
    (RequestController.adminRejectSpecialRequestAction kind rt sessionUser id s).Clean s ↔
      ¬ (((s.inventory.find id).isSome ∧ ¬ s.Reserved id) ∧ Unreachable rt sessionUser) := by
  cases RequestController.adminRejectSpecialRequestAction_cases kind rt sessionUser id s with
  | inr nothing =>
      obtain ⟨stopped, e, raised⟩ := nothing
      refine iff_of_true (.of_store (by rw [raised]; rfl)) ?_
      rcases stopped with noRecord | reserved
      · simp [noRecord]
      · exact fun fails => fails.1.2 reserved
  | inl applied =>
      obtain ⟨item, u, present, free, -, changed, outcome⟩ := applied
      rw [outcome]
      simp only [present, Option.isSome_some, free, not_false_eq_true, and_self, true_and]
      exact mailToUser_clean changed

/-- An action that ends with an exception has changed nothing, unless it is one of
    the five that can fail after their flush, and does. -/
theorem dispatch_clean (rt : Runtime) (action : Action) (args : List (List Char)) (req : Request)
    (sessionUser : Option SessionUser) (s : Store) :
    (∀ e, (dispatch rt action args req sessionUser s).result = .error e →
        (dispatch rt action args req sessionUser s).store = s) ↔
      ¬ FailsAfterFlush rt action args req sessionUser s := by
  cases writes : action.writes with
  | false =>
      refine iff_of_true (fun _ _ => dispatch_of_not_writes writes args req sessionUser s) ?_
      cases action with
      | inventory | user | named => exact id
      | rentItem | requestIndex | requestAccept | requestReject | reservationNew | reservationEdit
      | reservationDelete => cases writes
      | account | homepage | filter | downloadUser | downloadAdmin | login | rentShow | reportsIndex
      | report | reservationIndex | reservationNotify | requestAdmin | logout => exact id
  | true =>
      cases action with
      | rentItem => exact clean_rentAction rt sessionUser (idOf rt args) req.now s
      | requestIndex kind => exact clean_submission kind rt sessionUser req.method req.payload s
      | requestAccept kind => exact clean_accept kind rt sessionUser (idOf rt args) s
      | requestReject kind => exact clean_reject kind rt sessionUser (idOf rt args) s
      | reservationNew => exact clean_newReservation req.method req.payload s
      | reservationEdit =>
          refine iff_of_true (show Outcome.Clean s _ from ?_) id
          simp only [dispatch, ReservationController.editAction]
          split
          · exact .of_store rfl
          · split
            · exact .of_store rfl
            · exact save_clean _ _ _ _ (by decide) _ _ s
      | reservationDelete =>
          refine iff_of_true (show Outcome.Clean s _ from ?_) id
          cases ReservationController.deleteAction_cases (idOf rt args) s with
          | inr unchanged => exact .of_store unchanged.2.1
          | inl applied =>
              obtain ⟨ret, u, -, -, -, outcome⟩ := applied
              have declared : "reservation_index" ∈ routes.map Route.name := by decide
              rw [dispatch, outcome]
              exact .of_ok (redirectToRoute_declared declared none)
      | inventory crud =>
          refine iff_of_true (show Outcome.Clean s _ from ?_) id
          cases crud with
          | index | «show» => cases writes
          | new => exact save_clean _ _ _ _ (by decide) _ _ s
          | edit =>
              simp only [dispatch, InventoryController.editAction]
              split
              · exact .of_store rfl
              · split
                · exact .of_store rfl
                · exact save_clean _ _ _ _ (by decide) _ _ s
          | delete =>
              simp only [dispatch, InventoryController.deleteAction]
              split
              · exact .of_store rfl
              · exact deleteEntity_clean _ _ (by decide) _ _ s
      | user crud =>
          refine iff_of_true (show Outcome.Clean s _ from ?_) id
          cases crud with
          | index | «show» => cases writes
          | new => exact save_clean _ _ _ _ (by decide) _ _ s
          | edit =>
              simp only [dispatch, UserController.editAction]
              split
              · exact .of_store rfl
              · exact save_clean _ _ _ _ (by decide) _ _ s
          | delete =>
              simp only [dispatch, UserController.deleteAction]
              split
              · exact .of_store rfl
              · exact deleteEntity_clean _ _ (by decide) _ _ s
      | named kind crud =>
          refine iff_of_true (show Outcome.Clean s _ from ?_) id
          cases crud with
          | index | «show» => cases writes
          | new => exact save_clean _ _ _ _ (by cases kind <;> decide) _ _ s
          | edit =>
              simp only [dispatch, NamedController.editAction]
              split
              · exact .of_store rfl
              · exact save_clean _ _ _ _ (by cases kind <;> decide) _ _ s
          | delete =>
              simp only [dispatch, NamedController.deleteAction]
              split
              · exact .of_store rfl
              · exact deleteEntity_clean _ _ (by cases kind <;> decide) _ _ s
      | account | homepage | filter | downloadUser | downloadAdmin | login | rentShow | reportsIndex
      | report | reservationIndex | reservationNotify | requestAdmin | logout => cases writes

/-- An administrator enters a reservation by hand. -/
theorem new_reservation_fails_after_flush : ¬ ∀ (rt : Runtime) (action : Action)
    (args : List (List Char)) (req : Request) (sessionUser : Option SessionUser) (s : Store),
    ∀ e, (dispatch rt action args req sessionUser s).result = .error e →
      (dispatch rt action args req sessionUser s).store = s := by
  intro claim
  have unchanged := claim .sample .reservationNew []
    (.post 0 "/admin/res/new" (ReservationForm.sample 2 1)) (some .sampleAdmin) .sample
    (.routeNotFound "reservation_show") (by decide)
  exact absurd unchanged (by decide)

end WuRegalia
