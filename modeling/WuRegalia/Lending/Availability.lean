import WuRegalia.Lending.Snapshot
import WuRegalia.Controller.Request

/-! # Which items are rented

The pages offer the items whose status is `AVAL`; the action behind them never
reads the status. An item that is not available stays untouched only when the
action stops for another reason, or when the item is reserved already.
-/

namespace WuRegalia.Availability

/-- The requests of the rental side and of the request workflow. -/
inductive Operation where
  | submit (kind : RequestKind) (sessionUser : Option SessionUser) (method : Method)
      (payload : Payload)
  | accept (kind : RequestKind) (sessionUser : Option SessionUser) (record : Id)
  | reject (kind : RequestKind) (sessionUser : Option SessionUser) (record : Id)
  | rent (sessionUser : Option SessionUser) (item : Id) (now : DateTime)
  | delete (reservation : Id)
  deriving DecidableEq, Repr

def act (rt : Runtime) (s : Store) : Operation → Outcome
  | .submit kind sessionUser method payload =>
      RequestController.indexAction kind rt sessionUser method payload s
  | .accept kind sessionUser record =>
      RequestController.adminChangeStatusAction kind rt sessionUser record s
  | .reject kind sessionUser record =>
      RequestController.adminRejectSpecialRequestAction kind rt sessionUser record s
  | .rent sessionUser item now => RentController.rentAction rt sessionUser item now s
  | .delete reservation => ReservationController.deleteAction reservation s

def step (rt : Runtime) (c : Closet) (operation : Operation) : Closet :=
  c.after (act rt c.store operation)

/-- The item is there and available. -/
def IsAvailable (t : Tables) (id : Id) : Prop :=
  ∃ item ∈ t.inventory.find id, t.statusName item = some "AVAL"

instance (t : Tables) (id : Id) : Decidable (IsAvailable t id) :=
  match found : t.inventory.find id with
  | some item =>
      decidable_of_iff (t.statusName item = some "AVAL") (by simp [IsAvailable, found])
  | none => .isFalse (by simp [IsAvailable, found])

/-- A rent reserves available items only, and leaves items with any other status,
    the reservations and the outgoing mail as they are. -/
def RentsAvailable (rt : Runtime) (c : Closet) : Operation → Prop
  | .rent sessionUser id now =>
      let after := step rt c (.rent sessionUser id now)
      (∀ row ∈ after.store.reservation.rows, row ∉ c.store.reservation.rows →
        IsAvailable c.store.toTables row.2.item) ∧
      (¬ IsAvailable c.store.toTables id →
        after.store.inventory = c.store.inventory ∧
          after.store.reservation = c.store.reservation ∧ after.mail = c.mail)
  | .submit .. | .accept .. | .reject .. | .delete .. => True

instance (rt : Runtime) (c : Closet) :
    (operation : Operation) → Decidable (RentsAvailable rt c operation)
  | .rent .. => inferInstanceAs (Decidable (_ ∧ _))
  | .submit .. | .accept .. | .reject .. | .delete .. => .isTrue trivial

/-- Whatever the item's status, a rent of it is refused: there is no item, it is
    reserved, the status `RENTED` is missing, or the session user is not fully
    authenticated, has no row or has reserved an item of the type. -/
def Refused (s : Store) (sessionUser : Option SessionUser) (id : Id) : Prop :=
  ∀ item ∈ s.inventory.find id, s.Reserved id ∨ s.findStatus "RENTED" = none ∨
    ∀ account ∈ sessionUser, isGranted .IS_AUTHENTICATED_FULLY account.roles = true →
      ∀ row ∈ s.findUser account.username, item.itemType ∈ RentController.types s.toTables row.1

instance (s : Store) (sessionUser : Option SessionUser) (id : Id) :
    Decidable (Refused s sessionUser id) :=
  inferInstanceAs (Decidable (∀ _ ∈ _, _ ∨ _ ∨ ∀ _ ∈ _, _ → ∀ _ ∈ _, _))

/-- A rent names an available item, or is refused for another reason. -/
def AvailableOrRefused (c : Closet) : Operation → Prop
  | .rent sessionUser id _ => IsAvailable c.store.toTables id ∨ Refused c.store sessionUser id
  | .submit .. | .accept .. | .reject .. | .delete .. => True

instance (c : Closet) : (operation : Operation) → Decidable (AvailableOrRefused c operation)
  | .rent .. => inferInstanceAs (Decidable (_ ∨ _))
  | .submit .. | .accept .. | .reject .. | .delete .. => .isTrue trivial

theorem refused_iff {s : Store} {sessionUser : Option SessionUser} {id : Id} (now : DateTime) :
    Refused s sessionUser id ↔
      (RentController.load sessionUser id now s.toTables).decision = none ∨ s.Reserved id := by
  constructor
  · intro refused
    cases decides : RentController.load sessionUser id now s.toTables with
    | ends result => exact .inl rfl
    | decides rent =>
        obtain ⟨rfl, -, present, ⟨account, rfl, granted, row⟩, otherType, rented⟩ :=
          RentController.load_decides.mp decides
        rcases refused rent.item present with reserved | missing | held
        · exact .inr reserved
        · exact absurd (missing.symm.trans rented) (by simp)
        · exact absurd (held account rfl granted _ row) otherType
  · intro stopped item present
    by_contra accepted
    simp only [not_or, not_forall] at accepted
    obtain ⟨free, found, account, signedIn, granted, row, located, otherType⟩ := accepted
    obtain ⟨status, rented⟩ := Option.ne_none_iff_exists'.mp found
    have decides : RentController.load sessionUser id now s.toTables =
        .decides ⟨row.1, row.2, id, item, status, now⟩ :=
      RentController.load_decides.mpr
        ⟨rfl, rfl, present, ⟨account, signedIn, granted, located⟩, otherType, rented⟩
    rcases stopped with ended | reserved
    · exact absurd ended (by simp [decides, Loaded.decision])
    · exact free reserved

theorem rentsAvailable_iff (rt : Runtime) (c : Closet) (operation : Operation) :
    RentsAvailable rt c operation ↔ AvailableOrRefused c operation := by
  cases operation with
  | submit | accept | reject | delete => exact Iff.rfl
  | rent sessionUser id now =>
      simp only [RentsAvailable, AvailableOrRefused, refused_iff now, step, act,
        Closet.after_store, Closet.after_mail]
      cases RentController.rentAction_cases rt sessionUser id now c.store with
      | inr unchanged =>
          obtain ⟨stopped, store, mail⟩ := unchanged
          rw [store, mail]
          refine iff_of_true ⟨fun row new old => absurd new old, fun _ => ⟨rfl, rfl, ?_⟩⟩ (.inr stopped)
          exact List.append_nil _
      | inl applied =>
          obtain ⟨rent, u, decides, free, store, -, outcome⟩ := applied
          obtain ⟨rfl, -⟩ := RentController.load_decides.mp decides
          have notStopped :
              ¬ ((RentController.load sessionUser rent.itemid now c.store.toTables).decision = none ∨
                c.store.Reserved rent.itemid) := by
            simp [decides, Loaded.decision, free]
          rw [outcome]
          simp only
          rw [store, RentController.write_reservation, or_iff_left notStopped]
          constructor
          · intro law
            by_contra unavailable
            have same := congrArg Relational.Table.nextId (law.2 unavailable).2.1
            simp at same
          · intro available
            refine ⟨fun row new old => ?_, fun unavailable => absurd available unavailable⟩
            rcases List.mem_append.mp new with before | inserted
            · exact absurd before old
            · obtain rfl := List.mem_singleton.mp inserted
              exact available

/-- In a run, rents are of available items only exactly when each of them names
    an available item or is refused for another reason. -/
theorem rents_available (rt : Runtime) (c : Closet) (operations : List Operation) :
    (∀ move ∈ Run.steps (step rt) c operations, RentsAvailable rt move.1 move.2) ↔
      ∀ move ∈ Run.steps (step rt) c operations, AvailableOrRefused move.1 move.2 :=
  forall₂_congr fun move _ => rentsAvailable_iff rt move.1 move.2

/-- A user donates an item and rents it before anybody has decided. -/
theorem rents_pending_donation : ¬ ∀ (rt : Runtime) (c : Closet) (operations : List Operation),
    ∀ move ∈ Run.steps (step rt) c operations, RentsAvailable rt move.1 move.2 := by
  intro claim
  exact absurd (claim .sample ⟨.sample, []⟩
    [.submit .donation (some .sampleUser) .post RequestForm.sample, .rent (some .sampleUser) 4 0])
    (by decide)

end WuRegalia.Availability
