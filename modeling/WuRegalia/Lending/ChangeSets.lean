import WuRegalia.Controller.Admin
import WuRegalia.Lending.Snapshot

/-! # Change sets

A flush writes the columns that differ from those loaded, and no others. Edits of items
are split like rents and returns: what they load, the change set they decide on, and its
flush. Whatever is flushed between, no constraint stops it.
-/

namespace WuRegalia

open Relational

/-- What a column holds once it has been set, where it had been loaded. -/
def changed {α : Type} [DecidableEq α] (loaded set now : α) : α := if loaded = set then now else set

@[simp] theorem changed_self {α : Type} [DecidableEq α] (loaded now : α) :
    changed loaded loaded now = now := if_pos rfl

/-- Nothing having come between, the column holds what was set. -/
@[simp] theorem changed_loaded {α : Type} [DecidableEq α] (loaded set : α) :
    changed loaded set loaded = set := by
  unfold changed
  split
  · rename_i same
    exact same
  · rfl

theorem changed_mem {α : Type} [DecidableEq α] {P : α → Prop} {loaded set now : α} (onSet : P set)
    (onNow : P now) : P (changed loaded set now) := by
  unfold changed
  split
  · exact onNow
  · exact onSet

/-- The row an item has after the flush of an edit that loaded one row and set another. -/
def Inventory.changed (loaded set now : Inventory) : Inventory where
  itemStatus := WuRegalia.changed loaded.itemStatus set.itemStatus now.itemStatus
  itemType := WuRegalia.changed loaded.itemType set.itemType now.itemType
  itemColor := WuRegalia.changed loaded.itemColor set.itemColor now.itemColor
  itemSchool := WuRegalia.changed loaded.itemSchool set.itemSchool now.itemSchool
  itemMajor := WuRegalia.changed loaded.itemMajor set.itemMajor now.itemMajor
  itemDescription := WuRegalia.changed loaded.itemDescription set.itemDescription now.itemDescription
  itemSize := WuRegalia.changed loaded.itemSize set.itemSize now.itemSize
  user := WuRegalia.changed loaded.user set.user now.user

theorem Inventory.changed_loaded (loaded set : Inventory) : loaded.changed set loaded = set := by
  simp only [Inventory.changed, WuRegalia.changed_loaded]

namespace Tables

/-- The flush of an edited item; when the item is gone, no row is written. -/
def changeInventory (id : Id) (loaded set : Inventory) (t : Tables) : Tables :=
  { t with inventory := t.inventory.update id (loaded.changed set) }

theorem changeInventory_find (id : Id) (loaded set : Inventory) (t : Tables) (other : Id) :
    (changeInventory id loaded set t).inventory.find other =
      if other = id then (t.inventory.find other).map (loaded.changed set)
      else t.inventory.find other := by
  rw [changeInventory, Table.find_update]

/-- A change of status is the change set of one column. -/
theorem changeItemStatus_eq (id : Id) (loaded : Inventory) (status : Id) (t : Tables) :
    changeItemStatus id loaded status t =
      changeInventory id loaded (loaded.setItemStatus status) t := by
  unfold changeItemStatus changeInventory
  have columns : ∀ now, loaded.changed (loaded.setItemStatus status) now =
      if loaded.itemStatus = status then now else now.setItemStatus status := by
    intro now
    simp only [Inventory.changed, Inventory.setItemStatus, changed_self]
    unfold changed
    split <;> rfl
  split
  · rename_i same
    rw [Table.update_same]
    intro now _
    rw [columns, if_pos same]
  · rename_i differs
    have set : loaded.changed (loaded.setItemStatus status) = Inventory.setItemStatus status := by
      funext now
      rw [columns, if_neg differs]
    rw [set]

/-- Of an item as it was loaded, the whole row is set. -/
theorem changeInventory_eq {id : Id} {loaded : Inventory} (set : Inventory) {t : Tables}
    (present : t.inventory.find id = some loaded) :
    changeInventory id loaded set t = updateInventory id set t := by
  unfold changeInventory updateInventory
  congr 1
  apply Table.update_congr
  intro now found
  obtain rfl := Option.some.inj (present.symm.trans found)
  exact loaded.changed_loaded set

/-- The columns of a row are set to rows that are there, or are as they were. -/
theorem Valid.changeInventory {t : Tables} (valid : t.Valid) (id : Id) (loaded : Inventory)
    {set : Inventory} (grounded : t.Grounded set) : (changeInventory id loaded set t).Valid := by
  cases present : t.inventory.find id with
  | none =>
      rw [Tables.changeInventory, Table.update_missing present]
      exact valid
  | some now =>
      have whole : Tables.changeInventory id loaded set t =
          Tables.updateInventory id (loaded.changed set now) t := by
        unfold Tables.changeInventory Tables.updateInventory
        congr 1
        apply Table.update_congr
        intro there found
        rw [Option.some.inj (present.symm.trans found)]
      rw [whole]
      apply valid.updateInventory present
      have old := valid.grounded present
      exact
        { itemStatus := changed_mem (P := fun key => ∃ row, t.status.find key = some row)
            grounded.itemStatus old.itemStatus
          itemType := changed_mem (P := fun key => ∃ row, t.itemType.find key = some row)
            grounded.itemType old.itemType
          itemColor := changed_mem (P := fun key => ∃ row, t.color.find key = some row)
            grounded.itemColor old.itemColor
          itemSchool := changed_mem (P := fun key => ∃ row, t.school.find key = some row)
            grounded.itemSchool old.itemSchool
          itemMajor := changed_mem (P := fun key => ∃ row, t.major.find key = some row)
            grounded.itemMajor old.itemMajor
          user := changed_mem
            (P := fun owner => ∀ key, owner = some key → ∃ row, t.user.find key = some row)
            grounded.user old.user }

end Tables

namespace ConcurrentEdits

open TwoPhase (State)

inductive Request where
  | lending (request : Lending.Request)
  | edit (method : Method) (payload : Payload) (id : Id)
  deriving DecidableEq, Repr

/-- An edit has decided on the row the form was mapped to, and remembers the one loaded. -/
inductive Decision where
  | lending (decision : Lending.Decision)
  | edit (id : Id) (loaded set : Inventory)
  deriving DecidableEq, Repr

def load (s : Store) : Request → Option Decision
  | .lending request => (Lending.load s request).map .lending
  | .edit method payload id =>
      (s.inventory.find id).bind fun loaded =>
        (InventoryController.edited s.toTables method payload loaded).map (.edit id loaded)

def write : Decision → Tables → Tables
  | .lending decision => Lending.write decision
  | .edit id loaded set => Tables.changeInventory id loaded set

def requests : TwoPhase Store Request Decision where
  load := load
  flush s decision := s.committed (write decision)

theorem flush_eq (s : Store) (decision : Decision) :
    requests.flush s decision = s.committed (write decision) := rfl

/-- Nothing coming between, the two steps of an edit are the action. -/
theorem handle_edit (s : Store) (method : Method) (payload : Payload) (id : Id) :
    requests.handle s (.edit method payload id) =
      (InventoryController.editAction method payload id s).store := by
  rw [InventoryController.editAction_store]
  simp only [TwoPhase.handle, requests, load]
  cases present : s.inventory.find id with
  | none => rfl
  | some loaded =>
      simp only [Option.bind_some]
      cases InventoryController.edited s.toTables method payload loaded with
      | none => rfl
      | some set =>
          simp only [Option.map_some]
          unfold Store.committed Store.flush
          simp only [write, Tables.changeInventory_eq set present]

theorem handle_lending (s : Store) (request : Lending.Request) :
    requests.handle s (.lending request) = Lending.requests.handle s request := by
  simp only [TwoPhase.handle, requests, load, Lending.requests]
  cases Lending.load s request <;> rfl

/-- The tables forms choose from, the users, and which items there are. -/
structure SameChoices (t u : Tables) : Prop where
  status : u.status = t.status
  itemType : u.itemType = t.itemType
  color : u.color = t.color
  school : u.school = t.school
  major : u.major = t.major
  user : u.user = t.user
  items : ∀ id, (u.inventory.find id).isSome = (t.inventory.find id).isSome

theorem SameChoices.symm {t u : Tables} (same : SameChoices t u) : SameChoices u t where
  status := same.status.symm
  itemType := same.itemType.symm
  color := same.color.symm
  school := same.school.symm
  major := same.major.symm
  user := same.user.symm
  items id := (same.items id).symm

theorem SameChoices.trans {t u v : Tables} (same : SameChoices t u) (next : SameChoices u v) :
    SameChoices t v where
  status := next.status.trans same.status
  itemType := next.itemType.trans same.itemType
  color := next.color.trans same.color
  school := next.school.trans same.school
  major := next.major.trans same.major
  user := next.user.trans same.user
  items id := (next.items id).trans (same.items id)

theorem SameChoices.changeInventory (id : Id) (loaded set : Inventory) (t : Tables) :
    SameChoices t (t.changeInventory id loaded set) where
  status := rfl
  itemType := rfl
  color := rfl
  school := rfl
  major := rfl
  user := rfl
  items := by
    intro other
    rw [Tables.changeInventory_find]
    split
    · rw [Option.isSome_map]
    · rfl

theorem SameChoices.write (decision : Decision) (t : Tables) :
    SameChoices t (write decision t) := by
  cases decision with
  | edit id loaded set => exact .changeInventory id loaded set t
  | lending decision =>
      cases decision with
      | rent rent =>
          have kept := SameChoices.changeInventory rent.itemid rent.item
            (rent.item.setItemStatus rent.rent_status) t
          rw [← Tables.changeItemStatus_eq] at kept
          exact ⟨kept.status, kept.itemType, kept.color, kept.school, kept.major, kept.user, kept.items⟩
      | delete ret =>
          have kept := SameChoices.changeInventory ret.itemid ret.item
            (ret.item.setItemStatus ret.status) t
          rw [← Tables.changeItemStatus_eq] at kept
          exact ⟨kept.status, kept.itemType, kept.color, kept.school, kept.major, kept.user, kept.items⟩

/-- What a decision in flight may rely on: the keys it writes are keys of rows. -/
def Knows (s : Store) : Decision → Prop
  | .lending (.rent rent) => s.findStatus "RENTED" = some rent.rent_status ∧
      (∃ user, s.user.find rent.userid = some user) ∧ (s.inventory.find rent.itemid).isSome
  | .lending (.delete ret) => s.findStatus "AVAL" = some ret.status
  | .edit _ _ set => s.Grounded set

theorem Knows.of_sameChoices {s u : Store} {decision : Decision} (knows : Knows s decision)
    (same : SameChoices s.toTables u.toTables) : Knows u decision := by
  have statuses : ∀ name, u.findStatus name = s.findStatus name := by
    intro name
    unfold Tables.findStatus
    rw [same.status]
  cases decision with
  | edit id loaded set =>
      have grounded : s.Grounded set := knows
      exact
        { itemStatus := same.status ▸ grounded.itemStatus
          itemType := same.itemType ▸ grounded.itemType
          itemColor := same.color ▸ grounded.itemColor
          itemSchool := same.school ▸ grounded.itemSchool
          itemMajor := same.major ▸ grounded.itemMajor
          user := same.user ▸ grounded.user }
  | lending decision =>
      cases decision with
      | rent rent =>
          obtain ⟨rented, user, item⟩ := knows
          exact ⟨(statuses _).trans rented, same.user ▸ user, (same.items _).trans item⟩
      | delete ret => exact (statuses _).trans knows

theorem knows_of_load {s : Store} {request : Request} {decision : Decision}
    (loaded : requests.load s request = some decision) : Knows s decision := by
  cases request with
  | edit method payload id =>
      simp only [requests, load, Option.bind_eq_some_iff, Option.map_eq_some_iff] at loaded
      obtain ⟨old, present, set, accepted, rfl⟩ := loaded
      exact InventoryController.edited_grounded accepted
  | lending request =>
      simp only [requests, load, Option.map_eq_some_iff] at loaded
      obtain ⟨lending, decided, rfl⟩ := loaded
      have known := Lending.known_of_load (s := s) decided
      cases lending with
      | rent rent =>
          have known : rent.Known s.toTables := known
          obtain ⟨item, present, -⟩ := known.item
          exact ⟨known.rented, known.user, by rw [present]; rfl⟩
      | delete ret =>
          have known : ret.Known s.toTables := known
          exact known.aval

/-- Whether it is applied or rolled back. -/
theorem SameChoices.flush (s : Store) (decision : Decision) :
    SameChoices s.toTables (requests.flush s decision).toTables := by
  rw [flush_eq]
  rcases s.committed_cases (ConcurrentEdits.write decision) with ⟨-, after⟩ | ⟨-, kept⟩
  · rw [after]
    exact .write decision s.toTables
  · rw [kept]
    exact ⟨rfl, rfl, rfl, rfl, rfl, rfl, fun _ => rfl⟩

theorem Knows.flush {s : Store} {decision : Decision} (knows : Knows s decision)
    (flushed : Decision) : Knows (requests.flush s flushed) decision :=
  knows.of_sameChoices (.flush s flushed)

/-- A rent is stopped by a reservation of its item and by nothing else, whatever has become
    of the other columns. -/
theorem Knows.rent_valid {s : Store} {rent : RentController.Rent}
    (knows : Knows s (.lending (.rent rent))) :
    (RentController.write rent s.toTables).Valid ↔ ¬ s.Reserved rent.itemid := by
  obtain ⟨rented, user, there⟩ := knows
  obtain ⟨item, present⟩ := Option.isSome_iff_exists.mp there
  -- the rent as it would have been decided on the item as it is now
  have known : RentController.Rent.Known s.toTables
      { rent with item := { rent.item with itemType := item.itemType } } :=
    ⟨user, ⟨item, present, rfl⟩, rented⟩
  have valid := known.write_valid s.valid
  exact valid

theorem Knows.delete_valid {s : Store} {ret : ReservationController.Return}
    (knows : Knows s (.lending (.delete ret))) :
    (ReservationController.write ret s.toTables).Valid := by
  obtain ⟨status, row, -⟩ := Tables.findStatus_some knows
  exact (s.valid.changeItemStatus ret.itemid ret.item row).deleteReservation ret.reservation

theorem Knows.edit_valid {s : Store} {id : Id} {loaded set : Inventory}
    (knows : Knows s (.edit id loaded set)) :
    (Tables.changeInventory id loaded set s.toTables).Valid :=
  s.valid.changeInventory id loaded knows

end ConcurrentEdits

end WuRegalia
