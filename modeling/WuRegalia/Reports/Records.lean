import WuRegalia.Controller.Admin
import WuRegalia.Lending.Availability

/-! # What becomes of the inventory records

The requests of the workflow together with the edits of items, and everything one
of them can do: put a record there, take one away, or give one another status.
-/

namespace WuRegalia.DonationHistory

open Relational Availability
open RequestController (texts submitted_some)
open InventoryController (edited)

/-- The requests of the workflow, and edits of items. -/
inductive Operation where
  | workflow (operation : Availability.Operation)
  | edit (method : Method) (payload : Payload) (id : Id)
  deriving DecidableEq, Repr

/-- The store an operation leaves behind. -/
def step (rt : Runtime) (s : Store) : Operation → Store
  | .workflow operation => (act rt s operation).store
  | .edit method payload id => (InventoryController.editAction method payload id s).store

/-- An edit leaves the owner of its item as it is. -/
def KeepsOwner (rt : Runtime) (s : Store) : Operation → Prop
  | .edit method payload id =>
      ((step rt s (.edit method payload id)).inventory.find id).map Inventory.user =
        (s.inventory.find id).map Inventory.user
  | .workflow _ => True

instance (rt : Runtime) (s : Store) : (operation : Operation) → Decidable (KeepsOwner rt s operation)
  | .edit .. => inferInstanceAs (Decidable (_ = _))
  | .workflow _ => .isTrue trivial

/-- One record is written, its owner stays. -/
structure Rewrites (s u : Store) (id : Id) (old row : Inventory) : Prop where
  present : s.inventory.find id = some old
  find : ∀ other, u.inventory.find other = if other = id then some row else s.inventory.find other
  nextId : u.inventory.nextId = s.inventory.nextId
  owner : row.user = old.user
  status : u.status = s.status

/-- The operation does nothing for a reason that can be read off the store. -/
def Idle (s : Store) : Operation → Prop
  | .workflow (.accept _ _ record) =>
      s.inventory.find record = none ∨ s.findStatus "PENDING_ARRIVAL" = none
  | .workflow (.rent sessionUser id _) => Refused s sessionUser id
  | .workflow (.submit ..) | .workflow (.reject ..) | .workflow (.delete _) => True
  | .edit method payload id =>
      ∀ old ∈ s.inventory.find id, edited s.toTables method payload old = none

/-- Everything an operation can do to the records and to what is reserved. -/
inductive Effect (s : Store) : Operation → Store → Prop where
  | nothing {operation : Operation} (idle : Idle s operation) : Effect s operation s
  | submits {kind : RequestKind} {sessionUser : Option SessionUser} {method : Method}
      {payload : Payload} {row : Inventory} {user : Id} {u : Store}
      (pending : s.findStatus (texts kind).pending = some row.itemStatus)
      (owned : row.user = some user) (after : u.toTables = s.insertInventory row) :
      Effect s (.workflow (.submit kind sessionUser method payload)) u
  | rejects {kind : RequestKind} {sessionUser : Option SessionUser} {id : Id} {item : Inventory}
      {u : Store} (present : s.inventory.find id = some item)
      (after : u.toTables = s.deleteInventory id) :
      Effect s (.workflow (.reject kind sessionUser id)) u
  | accepts {kind : RequestKind} {sessionUser : Option SessionUser} {id : Id} {old row : Inventory}
      {u : Store} (rewrites : Rewrites s u id old row)
      (arrival : s.findStatus "PENDING_ARRIVAL" = some row.itemStatus)
      (reserved : u.reservation = s.reservation) :
      Effect s (.workflow (.accept kind sessionUser id)) u
  | rents {sessionUser : Option SessionUser} {id : Id} {now : DateTime} {old row : Inventory}
      {u : Store} (rewrites : Rewrites s u id old row) (accepted : ¬ Refused s sessionUser id)
      (rented : s.findStatus "RENTED" = some row.itemStatus)
      (reserved : ∀ other, u.Reserved other → other = id ∨ s.Reserved other) :
      Effect s (.workflow (.rent sessionUser id now)) u
  | returns {reservation id : Id} {old row : Inventory} {u : Store}
      (rewrites : Rewrites s u id old row) (held : s.Reserved id)
      (aval : s.findStatus "AVAL" = some row.itemStatus)
      (reserved : ∀ other, u.Reserved other → s.Reserved other) :
      Effect s (.workflow (.delete reservation)) u
  | edits {method : Method} {payload : Payload} {id : Id} {old row : Inventory} {u : Store}
      (rewrites : Rewrites s u id old row)
      (accepted : edited s.toTables method payload old = some row)
      (reserved : u.reservation = s.reservation) : Effect s (.edit method payload id) u

/-- The status of an item as it is was set, and nothing else in the inventory. -/
theorem Rewrites.of_status {s u : Store} {id status : Id} {old : Inventory}
    (present : s.inventory.find id = some old)
    (inventory : u.inventory = (s.changeItemStatus id old status).inventory)
    (statuses : u.status = s.status) : Rewrites s u id old (old.setItemStatus status) where
  present
  find other := by rw [inventory, Tables.changeItemStatus_find_of_present id old status _ present]
  nextId := by rw [inventory, Tables.changeItemStatus_nextId]
  owner := rfl
  status := statuses

/-- The item as a whole was written, its owner kept. -/
theorem Rewrites.of_update {s u : Store} {id : Id} {old row : Inventory}
    (present : s.inventory.find id = some old) (after : u.toTables = s.updateInventory id row)
    (owner : row.user = old.user) : Rewrites s u id old row where
  present
  find other := by
    rw [after, Tables.updateInventory, Table.find_update]
    by_cases here : other = id
    · simp [here, present]
    · simp [here]
  nextId := by rw [after, Tables.updateInventory, Table.nextId_update]
  owner
  status := by rw [after]; rfl

theorem effect_workflow (rt : Runtime) (s : Store) (operation : Availability.Operation) :
    Effect s (.workflow operation) (step rt s (.workflow operation)) := by
  cases operation with
  | submit kind sessionUser method payload =>
      cases RequestController.indexAction_cases kind rt sessionUser method payload s with
      | inr nothing =>
          rw [step, act, nothing.2.1]
          exact .nothing trivial
      | inl inserted =>
          obtain ⟨row, u, accepted, after, -, outcome⟩ := inserted
          obtain ⟨pending, owned, named⟩ := submitted_some accepted
          obtain ⟨user, belongs⟩ := Option.isSome_iff_exists.mp named
          rw [step, act, outcome]
          exact .submits pending (owned.trans belongs) after
  | accept kind sessionUser id =>
      cases RequestController.adminChangeStatusAction_cases kind rt sessionUser id s with
      | inr nothing =>
          obtain ⟨missing, e, raised⟩ := nothing
          rw [step, act, raised]
          exact .nothing missing
      | inl applied =>
          obtain ⟨item, arrival, u, present, located, after, -, outcome⟩ := applied
          rw [step, act, outcome]
          have rewrites : Rewrites s u id item (item.setItemStatus arrival) :=
            .of_status present (by rw [after]) (by rw [after, Tables.changeItemStatus_status])
          exact .accepts rewrites located (by rw [after, Tables.changeItemStatus_reservation])
  | reject kind sessionUser id =>
      cases RequestController.adminRejectSpecialRequestAction_cases kind rt sessionUser id s with
      | inr nothing =>
          obtain ⟨-, e, raised⟩ := nothing
          rw [step, act, raised]
          exact .nothing trivial
      | inl applied =>
          obtain ⟨item, u, present, -, after, -, outcome⟩ := applied
          rw [step, act, outcome]
          exact .rejects present after
  | rent sessionUser id now =>
      cases RentController.rentAction_cases rt sessionUser id now s with
      | inr stopped =>
          obtain ⟨refused, store, -⟩ := stopped
          rw [step, act, store]
          exact .nothing ((refused_iff now).mpr refused)
      | inl applied =>
          obtain ⟨rent, u, decides, free, after, -, outcome⟩ := applied
          have accepted : ¬ Refused s sessionUser id := by
            rw [refused_iff now]
            simp [decides, Loaded.decision, free]
          obtain ⟨rfl, -, present, -, -, rented⟩ := RentController.load_decides.mp decides
          rw [step, act, outcome]
          have rewrites :
              Rewrites s u rent.itemid rent.item (rent.item.setItemStatus rent.rent_status) :=
            .of_status present (by rw [after]; rfl)
              (by rw [after, (RentController.sameStock_write rent _).status])
          refine .rents rewrites accepted rented fun other reserved => ?_
          rw [after, RentController.reserved_write] at reserved
          exact reserved.imp_left Eq.symm
  | delete reservation =>
      cases ReservationController.deleteAction_cases reservation s with
      | inr unchanged =>
          rw [step, act, unchanged.2.1]
          exact .nothing trivial
      | inl applied =>
          obtain ⟨ret, u, decides, after, -, outcome⟩ := applied
          obtain ⟨rfl, ⟨row, found, item⟩, present, aval⟩ :=
            ReservationController.load_decides.mp decides
          rw [step, act, outcome]
          have rewrites : Rewrites s u ret.itemid ret.item (ret.item.setItemStatus ret.status) :=
            .of_status present (by rw [after]; rfl)
              (by rw [after, (ReservationController.sameStock_write ret _).status])
          refine .returns rewrites ⟨_, row, found, item⟩ aval fun other reserved => ?_
          have known := ReservationController.known_of_load decides
          rw [after, known.reserved_write s.valid found] at reserved
          exact reserved.2

/-- One step, an edit keeping the owner of its item. -/
theorem effect {rt : Runtime} {s : Store} {operation : Operation}
    (keeps : KeepsOwner rt s operation) : Effect s operation (step rt s operation) := by
  cases operation with
  | workflow operation => exact effect_workflow rt s operation
  | edit method payload id =>
      have store := InventoryController.editAction_store method payload id s
      simp only [KeepsOwner, step] at keeps ⊢
      cases present : s.inventory.find id with
      | none =>
          rw [present] at store
          rw [store]
          exact .nothing (by simp [Idle, present])
      | some old =>
          simp only [present] at store keeps
          cases accepted : edited s.toTables method payload old with
          | none =>
              rw [accepted] at store
              rw [store]
              exact .nothing (by simp [Idle, present, accepted])
          | some row =>
              have after := InventoryController.editAction_tables method payload id s
              simp only [present, accepted] at after
              have owner : row.user = old.user := by
                rw [after, Tables.updateInventory, Table.find_update, if_pos rfl, present] at keeps
                exact Option.some.inj keeps
              exact .edits (.of_update present after owner) accepted (by rw [after]; rfl)

end WuRegalia.DonationHistory
