import WuRegalia.Workflow.Lifecycle

/-! # Rents in any order

Requests to rent that do not compete, neither for an item nor for the one item of a type
that a user may have, can be handled in any order: in the end the same users have the same
items. The collection the closet stands for knows no order of loans; the lemmas here find
its loans again in a list of requests.
-/

namespace WuRegalia.Lifecycle

open Relational Circulation InventoryReports

/-- A request to rent an item. -/
structure RentRequest where
  sessionUser : Option SessionUser
  item : Id
  now : DateTime
  deriving DecidableEq, Repr

def RentRequest.operation (request : RentRequest) : Operation :=
  .workflow (.rent request.sessionUser request.item request.now)

/-- The users who are let through, each with the item it asks for. -/
def loans (t : Tables) (requests : List RentRequest) : List (Id × Id) :=
  requests.filterMap fun request =>
    (borrower t request.sessionUser).map fun user => (user, request.item)

/-- The item is on the homepage. -/
def Listed (t : Tables) (id : Id) : Prop :=
  ∃ rows ∈ DefaultController.listed t, ∃ row ∈ rows, row.1 = id

instance (t : Tables) (id : Id) : Decidable (Listed t id) :=
  inferInstanceAs (Decidable (∃ _ ∈ _, ∃ _ ∈ _, _))

/-- Two requests name different items, and items of different types when they come from
    one user. -/
def Uncontested (t : Tables) (request other : RentRequest) : Prop :=
  request.item ≠ other.item ∧
    ∀ user ∈ borrower t request.sessionUser, user ∈ borrower t other.sessionUser →
      (t.inventory.find request.item).map Inventory.itemType ≠
        (t.inventory.find other.item).map Inventory.itemType

instance (t : Tables) (request other : RentRequest) : Decidable (Uncontested t request other) :=
  inferInstanceAs (Decidable (_ ∧ ∀ _ ∈ _, _ → _))

section Rents

variable (rt : Runtime) {s : Store}

theorem listed_iff {id : Id} :
    Listed s.toTables id ↔ stage s.toTables id = .shelved := by
  constructor
  · intro listed
    obtain ⟨item, present, available⟩ := listed_find listed
    rw [stage_of_find present, available]
    rfl
  · intro shelved
    cases present : s.inventory.find id with
    | none =>
        rw [stage_absent present] at shelved
        cases shelved
    | some item =>
        rw [stage_of_find present] at shelved
        have available := s.valid.statusName_iff.mp (stageOf_shelved.mp shelved)
        refine ⟨_, Option.map_eq_some_iff.mpr ⟨_, available, rfl⟩, (id, item), ?_, rfl⟩
        exact Table.mem_findBy.mpr ⟨present, by simp⟩

theorem step_rent_user (request : RentRequest) : (step rt s request.operation).user = s.user := by
  show (RentController.rentAction rt request.sessionUser request.item request.now s).store.user = _
  cases RentController.rentAction_cases rt request.sessionUser request.item request.now s with
  | inl carried =>
      obtain ⟨rent, u, -, -, after, -, outcome⟩ := carried
      rw [outcome, after, (RentController.sameStock_write rent _).user]
  | inr stopped => rw [stopped.2.1]

theorem borrower_step (request : RentRequest) (sessionUser : Option SessionUser) :
    borrower (step rt s request.operation).toTables sessionUser =
      borrower s.toTables sessionUser := by
  unfold borrower Tables.findUser
  rw [step_rent_user]

theorem loans_step (request : RentRequest) (requests : List RentRequest) :
    loans (step rt s request.operation).toTables requests = loans s.toTables requests := by
  simp only [loans, borrower_step]

/-- Another item stays where it is. -/
theorem stage_step_rent (ready : Ready s) (request : RentRequest)
    (listed : Listed s.toTables request.item) {id : Id} (apart : id ≠ request.item) :
    stage (step rt s request.operation).toTables id = stage s.toTables id := by
  have carries := carries_rent rt ready request.sessionUser request.now listed
  have view : (view (step rt s request.operation).toTables).stage id = _ :=
    congrArg (fun c => c.stage id) carries.view
  refine view.trans ?_
  simp only [event]
  cases borrower s.toTables request.sessionUser with
  | none => rfl
  | some user => exact (Collection.perform_of_ne (e := .borrow user request.item) apart).1

theorem follows_rents (ready : Ready s) {requests : List RentRequest}
    (listed : ∀ request ∈ requests, Listed s.toTables request.item)
    (apart : requests.Pairwise fun request other => request.item ≠ other.item) :
    ∀ move ∈ Run.steps (step rt) s (requests.map RentRequest.operation),
      Follows move.1 move.2 := by
  induction requests generalizing s with
  | nil => simp [Run.steps]
  | cons request requests ih =>
      obtain ⟨here, later⟩ := List.pairwise_cons.mp apart
      have follows : Follows s request.operation := listed request List.mem_cons_self
      have readyAfter := ready_step rt ready follows
      simp only [List.map_cons, Run.steps, List.forall_mem_cons]
      refine ⟨follows, ih readyAfter (fun other member => ?_) later⟩
      rw [listed_iff, stage_step_rent rt ready request follows (here other member).symm,
        ← listed_iff]
      exact listed other (List.mem_cons_of_mem _ member)

theorem events_rents (requests : List RentRequest) :
    events rt s (requests.map RentRequest.operation) =
      (loans s.toTables requests).map fun loan => .borrow loan.1 loan.2 := by
  induction requests generalizing s with
  | nil => rfl
  | cons request requests ih =>
      have rest := ih (s := step rt s request.operation)
      rw [loans_step] at rest
      unfold events at rest ⊢
      simp only [List.map_cons, Run.steps, List.filterMap_cons, rest, loans]
      simp only [RentRequest.operation, event]
      cases borrower s.toTables request.sessionUser <;> rfl

end Rents

theorem Uncontested.symm {t : Tables} {request other : RentRequest}
    (free : Uncontested t request other) : Uncontested t other request :=
  ⟨free.1.symm, fun user asks asksToo types => free.2 user asksToo asks types.symm⟩

theorem loans_uncontested {t : Tables} {requests : List RentRequest}
    (apart : requests.Pairwise (Uncontested t)) :
    (loans t requests).Pairwise fun loan next => ¬ Collection.Compete (view t).kind loan next := by
  apply List.Pairwise.filterMap _ _ apart
  intro request next free loan asked further askedToo
  obtain ⟨user, found, rfl⟩ := Option.map_eq_some_iff.mp asked
  obtain ⟨userToo, foundToo, rfl⟩ := Option.map_eq_some_iff.mp askedToo
  rintro (same | ⟨users, types⟩)
  · exact free.1 same
  · obtain rfl : user = userToo := users
    exact free.2 user found foundToo types

/-- Requests to rent available items that do not compete leave every item where it is and
    with whom it is in whatever order they are handled. -/
theorem rents_any_order (rt : Runtime) {s : Store} (ready : Ready s)
    {requests other : List RentRequest} (perm : requests.Perm other)
    (listed : ∀ request ∈ requests, Listed s.toTables request.item)
    (apart : requests.Pairwise (Uncontested s.toTables)) :
    let t := Run.final (step rt) s (requests.map RentRequest.operation)
    let u := Run.final (step rt) s (other.map RentRequest.operation)
    view t.toTables = view u.toTables ∧ ∀ item, holder t.toTables item = holder u.toTables item := by
  intro t u
  have apartToo := (perm.pairwise_iff Uncontested.symm).mp apart
  have follows := follows_rents rt ready listed (apart.imp fun free => free.1)
  have followsToo := follows_rents rt ready
    (fun request member => listed request (perm.mem_iff.mpr member))
    (apartToo.imp fun free => free.1)
  have views : view t.toTables = view u.toTables := by
    rw [view_run rt ready _ follows, view_run rt ready _ followsToo, events_rents, events_rents]
    exact loans_perm (perm.filterMap _) (loans_uncontested apart)
  refine ⟨views, fun item => Option.ext fun user => ?_⟩
  have readyAfter : Ready t := ready_run rt ready _ follows _ (Run.final_mem_states _ _ _)
  have readyToo : Ready u := ready_run rt ready _ followsToo _ (Run.final_mem_states _ _ _)
  have stages : stage t.toTables item = stage u.toTables item :=
    congrArg (fun c => c.stage item) views
  rw [← readyAfter.lent_iff, ← readyToo.lent_iff, stages]

/-- Bob rents a gown and a hood, and Ann the other gown. -/
def sampleRents : List RentRequest :=
  [⟨some .sampleUser, 1, 0⟩, ⟨some .sampleAdmin, 2, 0⟩, ⟨some .sampleUser, 3, 0⟩]

theorem rents_any_order_sample :
    Ready .sample ∧ sampleRents.Perm sampleRents.reverse ∧
      (∀ request ∈ sampleRents, Listed Store.sample.toTables request.item) ∧
      sampleRents.Pairwise (Uncontested Store.sample.toTables) ∧
      view (Run.final (step .sample) .sample (sampleRents.map RentRequest.operation)).toTables =
        view (Run.final (step .sample) .sample
          (sampleRents.reverse.map RentRequest.operation)).toTables := by
  have perm : sampleRents.Perm sampleRents.reverse := (List.reverse_perm sampleRents).symm
  have listed : ∀ request ∈ sampleRents, Listed Store.sample.toTables request.item := by decide
  have apart : sampleRents.Pairwise (Uncontested Store.sample.toTables) := by decide
  exact ⟨sample_ready, perm, listed, apart,
    (rents_any_order .sample sample_ready perm listed apart).1⟩

end WuRegalia.Lifecycle
