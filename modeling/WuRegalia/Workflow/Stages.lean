import WuRegalia.Lending.Requests
import WuRegalia.Library.Circulation
import WuRegalia.Reports.InventoryReports

/-! # The closet as a collection in circulation

Seen from outside, the closet is a collection of items that are proposed, let in, shelved,
lent and given back. The view reads the stage of an item off the name of its status and
the reservation that references it; a write of one item, or of what references it, is a
move of that item and of no other.
-/

namespace WuRegalia.Lifecycle

open Relational Circulation InventoryReports
open RequestController (undecided texts)
open InventoryController (edited)

/-- The user whose reservation references the item. -/
def holder (t : Tables) (item : Id) : Option Id :=
  (t.reservation.findOneBy (fun row => row.item = item)).map (fun row => row.2.userid)

def stageOf (status : Option String) (holder : Option Id) : Stage Id RequestKind :=
  if status = some "AVAL" then .shelved
  else if status = some "PENDING_ARRIVAL" then .expected
  else if status = some "PENDING_DONATION" then .proposed .donation
  else if status = some "PENDING_SPECIAL" then .proposed .special
  else if status = some "RENTED" then
    match holder with
    | some user => .lent user
    | none => .aside
  else .aside

def stage (t : Tables) (id : Id) : Stage Id RequestKind :=
  match t.inventory.find id with
  | none => .absent
  | some item => stageOf (t.statusName item) (holder t id)

/-- The collection the tables stand for. -/
def view (t : Tables) : Collection Id Id Id RequestKind where
  stage := stage t
  kind id := (t.inventory.find id).map Inventory.itemType

/-- The user a rent is for, when the session is let through and has a row. -/
def borrower (t : Tables) (sessionUser : Option SessionUser) : Option Id :=
  sessionUser.bind fun account =>
    if isGranted .IS_AUTHENTICATED_FULLY account.roles then (t.findUser account.username).map Prod.fst
    else none

/-- The event a request asks for. -/
def event (s : Store) : Operation → Option (Event Id Id Id RequestKind)
  | .workflow (.submit kind sessionUser method payload) =>
      (RequestController.submitted kind sessionUser s.toTables method payload).bind fun row =>
        row.user.map fun user => .propose kind user s.inventory.nextId row.itemType
  | .workflow (.accept kind _ id) => some (.accept kind id)
  | .workflow (.reject kind _ id) => some (.reject kind id)
  | .workflow (.rent sessionUser id _) =>
      (borrower s.toTables sessionUser).map fun user => .borrow user id
  | .workflow (.delete reservation) =>
      (s.reservation.find reservation).map fun row => .giveBack row.item
  | .new method payload =>
      ((InventoryType s.toTables).submitted method payload).map fun row =>
        .stock s.inventory.nextId row.itemType
  | .edit method payload id =>
      (s.inventory.find id).bind fun old => (edited s.toTables method payload old).bind fun row =>
        if s.statusName row = s.statusName old then
          if row.itemType = old.itemType then none else some (.describe id row.itemType)
        else if s.statusName row = some "AVAL" then some (.shelve id row.itemType)
        else some (.setAside id row.itemType)
  | .delete method payload id =>
      if DeleteForm.submitted method payload then some (.remove id) else none
  | .newStatus .. => none

/-- An edit keeps the status, and the type of an item somebody has, or it moves an item
    that is not waiting for a decision to the shelf or to a status of no meaning to the
    code. -/
def Resettles (s : Store) (id : Id) (old row : Inventory) : Prop :=
  s.statusName row = s.statusName old ∧ (row.itemType = old.itemType ∨ ¬ s.Reserved id) ∨
    (stage s.toTables id).Movable ∧
      (s.statusName row = some "AVAL" ∨ ∀ name ∈ reliedOn, s.statusName row ≠ some name)

instance (s : Store) (id : Id) (old row : Inventory) : Decidable (Resettles s id old row) :=
  inferInstanceAs (Decidable (_ ∧ (_ ∨ ¬ _) ∨ _ ∧ (_ ∨ ∀ _ ∈ _, _)))

/-- Decisions and rents name an item of the page they are offered on; new items are
    available, and edits resettle theirs. -/
def Follows (s : Store) : Operation → Prop
  | .workflow (.accept kind _ id) | .workflow (.reject kind _ id) =>
      ∃ row ∈ undecided kind s.toTables, row.1 = id
  | .workflow (.rent _ id _) =>
      ∃ rows ∈ DefaultController.listed s.toTables, ∃ row ∈ rows, row.1 = id
  | .new method payload => ∀ row ∈ (InventoryType s.toTables).submitted method payload,
      s.statusName row = some "AVAL"
  | .edit method payload id => ∀ old ∈ s.inventory.find id,
      ∀ row ∈ edited s.toTables method payload old, Resettles s id old row
  | .workflow (.submit ..) | .workflow (.delete _) | .delete .. | .newStatus .. => True

instance (s : Store) : (operation : Operation) → Decidable (Follows s operation)
  | .workflow (.accept ..) | .workflow (.reject ..) => inferInstanceAs (Decidable (∃ _ ∈ _, _))
  | .workflow (.rent ..) => inferInstanceAs (Decidable (∃ _ ∈ _, ∃ _ ∈ _, _))
  | .new .. => inferInstanceAs (Decidable (∀ _ ∈ _, _))
  | .edit .. => inferInstanceAs (Decidable (∀ _ ∈ _, ∀ _ ∈ _, _))
  | .workflow (.submit ..) | .workflow (.delete _) | .delete .. | .newStatus .. => .isTrue trivial

/-- The five statuses are there, and the items that are rented are those reserved. -/
structure Ready (s : Store) : Prop where
  present : ∀ name ∈ reliedOn, s.findStatus name ≠ none
  agree : s.Agree

theorem holder_some {t : Tables} (valid : t.Valid) {item user : Id} :
    holder t item = some user ↔
      ∃ id row, t.reservation.find id = some row ∧ row.item = item ∧ row.userid = user := by
  constructor
  · intro holds
    obtain ⟨⟨id, row⟩, located, rfl⟩ := Option.map_eq_some_iff.mp holds
    obtain ⟨found, same⟩ := Table.findOneBy_some located
    exact ⟨id, row, found, by simpa using same, rfl⟩
  · intro reserved
    obtain ⟨id, row, found, rfl, rfl⟩ := reserved
    unfold holder
    cases located : t.reservation.findOneBy (fun other => other.item = row.item) with
    | none => simpa using Table.findOneBy_none.mp located id row found
    | some other =>
        obtain ⟨foundToo, same⟩ := Table.findOneBy_some located
        have key := valid.reservationItem.eq foundToo found (by simpa using same)
        rw [key, found] at foundToo
        rw [Option.map_some, Option.some.inj foundToo]

theorem holder_none {t : Tables} {item : Id} : holder t item = none ↔ ¬ t.Reserved item := by
  unfold holder Tables.Reserved
  rw [Option.map_eq_none_iff, Table.findOneBy_none]
  simp only [decide_eq_false_iff_not, not_exists, not_and]

theorem holder_isSome {t : Tables} {item : Id} : (holder t item).isSome ↔ t.Reserved item := by
  rw [← not_iff_not, ← holder_none, Option.isSome_iff_ne_none, not_not]

theorem stage_of_find {t : Tables} {id : Id} {item : Inventory}
    (present : t.inventory.find id = some item) :
    stage t id = stageOf (t.statusName item) (holder t id) := by
  rw [stage, present]

/-- Where an item is, given its row and who has it. -/
def place (t : Tables) (item : Option Inventory) (holder : Option Id) : Stage Id RequestKind :=
  match item with
  | none => .absent
  | some row => stageOf (t.statusName row) holder

theorem stage_eq_place (t : Tables) (id : Id) :
    stage t id = place t (t.inventory.find id) (holder t id) := by
  unfold stage place
  cases t.inventory.find id <;> rfl

theorem stageOf_lent {status : Option String} {holder : Option Id} {user : Id} :
    stageOf status holder = .lent user ↔ status = some "RENTED" ∧ holder = some user := by
  unfold stageOf
  by_cases rented : status = some "RENTED"
  · subst rented
    cases holder <;> simp
  · split_ifs <;> simp_all

theorem stageOf_proposed {status : Option String} {holder : Option Id} {kind : RequestKind} :
    stageOf status holder = .proposed kind ↔ status = some (texts kind).pending := by
  unfold stageOf
  by_cases rented : status = some "RENTED"
  · subst rented
    cases holder <;> cases kind <;> simp [texts]
  · cases kind <;> split_ifs <;> simp_all [texts]

theorem stageOf_shelved {status : Option String} {holder : Option Id} :
    stageOf status holder = .shelved ↔ status = some "AVAL" := by
  unfold stageOf
  split_ifs <;> cases holder <;> simp_all

theorem stageOf_aside {status : Option String} {holder : Option Id}
    (other : ∀ name ∈ reliedOn, status ≠ some name) : stageOf status holder = .aside := by
  simp only [reliedOn, List.forall_mem_cons] at other
  simp [stageOf, other]

theorem stageOf_ne_absent {status : Option String} {holder : Option Id} :
    stageOf status holder ≠ .absent := by
  unfold stageOf
  cases holder <;> split_ifs <;> simp

section Ready

variable {s : Store} {id user : Id}

/-- An item whose status is that of a rental is the one somebody has. -/
theorem Ready.rented_iff (ready : Ready s) {item : Inventory}
    (present : s.inventory.find id = some item) :
    s.statusName item = some "RENTED" ↔ s.Reserved id := by
  rw [s.valid.statusName_iff]
  exact s.valid.agree_iff.mp ready.agree id item present

/-- In a store that is ready, an item is lent to the user whose reservation references it. -/
theorem Ready.lent_iff (ready : Ready s) : stage s.toTables id = .lent user ↔
    holder s.toTables id = some user := by
  rw [stage_eq_place]
  constructor
  · intro lent
    unfold place at lent
    split at lent
    · cases lent
    · exact (stageOf_lent.mp lent).2
  · intro holds
    have reserved : s.Reserved id := holder_isSome.mp (by rw [holds]; rfl)
    obtain ⟨item, present⟩ := s.valid.item_of_reserved reserved
    rw [present]
    exact stageOf_lent.mpr ⟨(ready.rented_iff present).mpr reserved, holds⟩

theorem Ready.present_iff (ready : Ready s) :
    (stage s.toTables id).Present ↔ s.inventory.find id ≠ none ∧ ¬ s.Reserved id := by
  unfold Stage.Present
  simp only [ne_eq, ready.lent_iff, ← holder_none, Option.eq_none_iff_forall_ne_some]
  refine and_congr_left fun _ => not_congr ?_
  rw [stage_eq_place]
  unfold place
  cases s.inventory.find id with
  | none => simp
  | some item => simp [stageOf_ne_absent]

/-- What may be moved is there, and nobody has it. -/
theorem present_of_movable {stage : Stage Id RequestKind} (movable : stage.Movable) :
    stage.Present := by
  rcases movable with rfl | rfl | rfl <;> simp [Stage.Present]

theorem stage_absent {t : Tables} (missing : t.inventory.find id = none) :
    stage t id = .absent := by
  rw [stage_eq_place, missing]
  rfl

end Ready

/-- What a page of requests lists waits for its decision. -/
theorem undecided_find {s : Store} {kind : RequestKind} {id : Id}
    (listed : ∃ row ∈ undecided kind s.toTables, row.1 = id) :
    ∃ item, s.inventory.find id = some item ∧ s.statusName item = some (texts kind).pending := by
  obtain ⟨⟨_, item⟩, member, rfl⟩ := listed
  unfold undecided at member
  split at member
  · rename_i status located
    obtain ⟨present, same⟩ := Table.mem_findBy.mp member
    obtain rfl := of_decide_eq_true same
    exact ⟨item, present, s.valid.statusName_iff.mpr located⟩
  · cases member

theorem listed_find {s : Store} {id : Id}
    (listed : ∃ rows ∈ DefaultController.listed s.toTables, ∃ row ∈ rows, row.1 = id) :
    ∃ item, s.inventory.find id = some item ∧ s.statusName item = some "AVAL" := by
  obtain ⟨rows, some, ⟨_, item⟩, member, rfl⟩ := listed
  obtain ⟨status, located, rfl⟩ := Option.map_eq_some_iff.mp some
  obtain ⟨present, same⟩ := Table.mem_findBy.mp member
  obtain rfl := of_decide_eq_true same
  exact ⟨item, present, s.valid.statusName_iff.mpr located⟩

/-- One item is written, or what references it; the statuses are those there were. -/
structure Touches (s u : Store) (id : Id) (item : Option Inventory) (has : Option Id) : Prop where
  status : u.status = s.status
  find : u.inventory.find id = item
  holder : holder u.toTables id = has
  others : ∀ other, other ≠ id → u.inventory.find other = s.inventory.find other ∧
    Lifecycle.holder u.toTables other = Lifecycle.holder s.toTables other

/-- The request is the event, and leaves what is rented and what is reserved the same. -/
structure Carries (s u : Store) (e : Option (Event Id Id Id RequestKind)) : Prop where
  view : view u.toTables = e.elim (view s.toTables) (view s.toTables).perform
  agree : u.Agree

theorem Carries.refl {s : Store} (agree : s.Agree) : Carries s s none := ⟨rfl, agree⟩

section Touches

variable {s u : Store} {id : Id} {item : Option Inventory} {has : Option Id}

theorem statusName_congr {t w : Tables} (status : w.status = t.status) (row : Inventory) :
    w.statusName row = t.statusName row := by
  rw [Tables.statusName, status]
  rfl

theorem place_congr {t w : Tables} (status : w.status = t.status) (item : Option Inventory)
    (has : Option Id) : place w item has = place t item has := by
  cases item with
  | none => rfl
  | some row => rw [place, place, statusName_congr status]

theorem Touches.stage (touches : Touches s u id item has) (other : Id) :
    stage u.toTables other = if other = id then place s.toTables item has
      else stage s.toTables other := by
  rw [stage_eq_place, place_congr touches.status]
  split
  · rename_i here
    rw [here, touches.find, touches.holder]
  · rename_i apart
    obtain ⟨find, holder⟩ := touches.others other apart
    rw [find, holder, ← stage_eq_place]

theorem Touches.kind (touches : Touches s u id item has) (other : Id) :
    (view u.toTables).kind other = if other = id then item.map Inventory.itemType
      else (view s.toTables).kind other := by
  simp only [view]
  split
  · rename_i here
    rw [here, touches.find]
  · rename_i apart
    rw [(touches.others other apart).1]

/-- The agreement is decided at the item. -/
theorem Touches.agree (touches : Touches s u id item has) (ready : Ready s)
    (here : ∀ row, item = some row → (s.statusName row = some "RENTED" ↔ has.isSome)) : u.Agree := by
  have name : u.findStatus "RENTED" = s.findStatus "RENTED" := by
    simp only [Tables.findStatus, touches.status]
  have others : ∀ other, other ≠ id → u.inventory.find other = s.inventory.find other ∧
      (u.Reserved other ↔ s.Reserved other) := by
    intro other apart
    obtain ⟨find, holder⟩ := touches.others other apart
    rw [← holder_isSome, ← holder_isSome, holder]
    exact ⟨find, Iff.rfl⟩
  rw [Tables.Agree.iff_at ready.agree s.valid u.valid id name others]
  intro row present
  rw [touches.find] at present
  rw [← s.valid.statusName_iff, ← holder_isSome, touches.holder]
  exact here row present

/-- A write of one item is an event when it takes the item where the event does. -/
theorem Touches.carries (touches : Touches s u id item has) (ready : Ready s)
    (e : Event Id Id Id RequestKind) (about : e.item = id) (due : (view s.toTables).Due e)
    (target : place s.toTables item has = e.target (Lifecycle.stage s.toTables id))
    (label : item.map Inventory.itemType = e.label ((view s.toTables).kind id))
    (here : ∀ row, item = some row → (s.statusName row = some "RENTED" ↔ has.isSome)) :
    Carries s u (some e) := by
  subst about
  refine ⟨?_, touches.agree ready here⟩
  rw [Option.elim_some, Collection.perform_of_due due]
  ext1
  · funext other
    rw [Collection.moved_stage]
    exact (touches.stage other).trans (by rw [target]; rfl)
  · funext other
    rw [Collection.moved_kind, touches.kind, label]

/-- Nor is it one when the item stays where it was. -/
theorem Touches.carries_none (touches : Touches s u id item has) (ready : Ready s)
    (target : place s.toTables item has = Lifecycle.stage s.toTables id)
    (label : item.map Inventory.itemType = (view s.toTables).kind id)
    (here : ∀ row, item = some row → (s.statusName row = some "RENTED" ↔ has.isSome)) :
    Carries s u none := by
  refine ⟨?_, touches.agree ready here⟩
  rw [Option.elim_none]
  ext1
  · funext other
    refine (touches.stage other).trans ?_
    split
    · rename_i same
      rw [target, same]
      rfl
    · rfl
  · funext other
    rw [touches.kind]
    split
    · rename_i same
      rw [label, same]
    · rfl

end Touches

section Writes

variable {s u : Store} {id : Id} {old row : Inventory}

/-- Reservations of the item that are the same have the same holder. -/
theorem holder_congr {t w : Tables} (valid : t.Valid) (validAfter : w.Valid) {item : Id}
    (same : ∀ key row, row.item = item →
      (w.reservation.find key = some row ↔ t.reservation.find key = some row)) :
    holder w item = holder t item := by
  ext user
  rw [holder_some valid, holder_some validAfter]
  refine exists₂_congr fun key row => and_congr_left fun about => same key row about.1

theorem holder_of_reservation (reservation : u.reservation = s.reservation) (item : Id) :
    holder u.toTables item = holder s.toTables item := by
  simp only [holder, reservation]

/-- An item nobody rents is reserved by nobody. -/
theorem Ready.unheld (ready : Ready s) (present : s.inventory.find id = some old)
    (other : s.statusName old ≠ some "RENTED") : holder s.toTables id = none :=
  holder_none.mpr fun reserved => other ((ready.rented_iff present).mpr reserved)

theorem holder_of_missing (missing : s.inventory.find id = none) : holder s.toTables id = none := by
  apply holder_none.mpr
  intro reserved
  obtain ⟨item, present⟩ := s.valid.item_of_reserved reserved
  rw [missing] at present
  cases present

theorem touches_insert (after : u.toTables = s.insertInventory row) :
    Touches s u s.inventory.nextId (some row) none := by
  have reservation : u.reservation = s.reservation := by
    rw [after]
    rfl
  constructor
  case status => rw [after, Tables.insertInventory]
  case find =>
    rw [after]
    exact s.inventory.find_insert_self row
  case holder =>
    rw [holder_of_reservation reservation]
    exact holder_of_missing s.inventory.find_nextId
  case others =>
    intro other apart
    rw [holder_of_reservation reservation, after, Tables.insertInventory, Table.find_insert,
      if_neg apart]
    exact ⟨rfl, rfl⟩

theorem touches_status {status : Id} (present : s.inventory.find id = some old)
    (after : u.toTables = s.changeItemStatus id old status) :
    Touches s u id (some (old.setItemStatus status)) (holder s.toTables id) := by
  have reservation : u.reservation = s.reservation := by
    rw [after, Tables.changeItemStatus_reservation]
  constructor
  case status => rw [after, Tables.changeItemStatus_status]
  case find => rw [after, Tables.changeItemStatus_find_of_present _ _ _ _ present, if_pos rfl]
  case holder => exact holder_of_reservation reservation id
  case others =>
    intro other apart
    rw [holder_of_reservation reservation, after,
      Tables.changeItemStatus_find_of_present _ _ _ _ present, if_neg apart]
    exact ⟨rfl, rfl⟩

theorem touches_update (present : s.inventory.find id = some old)
    (after : u.toTables = s.updateInventory id row) :
    Touches s u id (some row) (holder s.toTables id) := by
  have reservation : u.reservation = s.reservation := by
    rw [after]
    rfl
  constructor
  case status => rw [after, Tables.updateInventory]
  case find =>
    rw [after, Tables.updateInventory, Table.find_update, if_pos rfl, present]
    rfl
  case holder => exact holder_of_reservation reservation id
  case others =>
    intro other apart
    rw [holder_of_reservation reservation, after, Tables.updateInventory, Table.find_update,
      if_neg apart]
    exact ⟨rfl, rfl⟩

theorem touches_delete (free : ¬ s.Reserved id) (after : u.toTables = s.deleteInventory id) :
    Touches s u id none none := by
  have reservation : u.reservation = s.reservation := by
    rw [after]
    rfl
  constructor
  case status => rw [after, Tables.deleteInventory]
  case find => rw [after, Tables.deleteInventory, Table.find_delete, if_pos rfl]
  case holder => rw [holder_of_reservation reservation, holder_none.mpr free]
  case others =>
    intro other apart
    rw [holder_of_reservation reservation, after, Tables.deleteInventory, Table.find_delete,
      if_neg apart]
    exact ⟨rfl, rfl⟩

theorem touches_rent {rent : RentController.Rent}
    (present : s.inventory.find rent.itemid = some rent.item)
    (after : u.toTables = RentController.write rent s.toTables) :
    Touches s u rent.itemid (some (rent.item.setItemStatus rent.rent_status)) (some rent.userid) where
  status := by rw [after, (RentController.sameStock_write rent _).status]
  find := by
    rw [after]
    exact (Tables.changeItemStatus_find_of_present _ _ _ _ present _).trans (if_pos rfl)
  holder := by
    apply (holder_some u.valid).mpr
    refine ⟨s.reservation.nextId, .construct rent.userid rent.itemid rent.now, ?_, rfl, rfl⟩
    rw [after, RentController.write_reservation, Table.find_insert_self]
  others := by
    intro other apart
    constructor
    · rw [after]
      exact (Tables.changeItemStatus_find_of_present _ _ _ _ present _).trans (if_neg apart)
    · apply holder_congr s.valid u.valid
      intro key row about
      rw [after, RentController.write_reservation, Table.find_insert]
      split
      · rename_i new
        subst new
        rw [Table.find_nextId]
        refine iff_of_false (fun same => ?_) (by simp)
        obtain rfl := Option.some.inj same
        exact apart about.symm
      · rfl

theorem touches_return {ret : ReservationController.Return} {reservation : Reservation}
    (found : s.reservation.find ret.reservation = some reservation)
    (item : reservation.item = ret.itemid) (present : s.inventory.find ret.itemid = some ret.item)
    (after : u.toTables = ReservationController.write ret s.toTables) :
    Touches s u ret.itemid (some (ret.item.setItemStatus ret.status)) none where
  status := by rw [after, (ReservationController.sameStock_write ret _).status]
  find := by
    rw [after]
    exact (Tables.changeItemStatus_find_of_present _ _ _ _ present _).trans (if_pos rfl)
  holder := by
    apply holder_none.mpr
    intro reserved
    obtain ⟨key, row, kept, about⟩ := reserved
    rw [after, ReservationController.write_reservation, Table.find_delete] at kept
    split at kept
    · cases kept
    · rename_i apart
      exact apart (s.valid.reservationItem.eq kept found (about.trans item.symm))
  others := by
    intro other apart
    constructor
    · rw [after]
      exact (Tables.changeItemStatus_find_of_present _ _ _ _ present _).trans (if_neg apart)
    · apply holder_congr s.valid u.valid
      intro key row about
      rw [after, ReservationController.write_reservation, Table.find_delete]
      split
      · rename_i gone
        subst gone
        refine iff_of_false (by simp) fun there => ?_
        rw [found] at there
        obtain rfl := Option.some.inj there
        exact apart (about.symm.trans item)
      · rfl

end Writes

end WuRegalia.Lifecycle
