import WuRegalia.Store

/-! # Writes

The statements a unit of work is made of, each with what it leaves alone, what
it does to a lookup, and when it keeps the constraints.
-/

namespace WuRegalia

open Relational

namespace Tables

def insertReservation (row : Reservation) (t : Tables) : Tables :=
  { t with reservation := t.reservation.insert row }

def updateReservation (id : Id) (row : Reservation) (t : Tables) : Tables :=
  { t with reservation := t.reservation.update id (fun _ => row) }

def deleteReservation (id : Id) (t : Tables) : Tables :=
  { t with reservation := t.reservation.delete id }

def insertInventory (row : Inventory) (t : Tables) : Tables :=
  { t with inventory := t.inventory.insert row }

def updateInventory (id : Id) (row : Inventory) (t : Tables) : Tables :=
  { t with inventory := t.inventory.update id (fun _ => row) }

def deleteInventory (id : Id) (t : Tables) : Tables :=
  { t with inventory := t.inventory.delete id }

/-- The change set of an item whose status was set: the column is written only
    when it differs from the one loaded, and to no row when the item is gone. -/
def changeItemStatus (id : Id) (loaded : Inventory) (status : Id) (t : Tables) : Tables :=
  if loaded.itemStatus = status then t
  else { t with inventory := t.inventory.update id (Inventory.setItemStatus status) }

def insertUser (row : User) (t : Tables) : Tables := { t with user := t.user.insert row }

def updateUser (id : Id) (row : User) (t : Tables) : Tables :=
  { t with user := t.user.update id (fun _ => row) }

def deleteUser (id : Id) (t : Tables) : Tables := { t with user := t.user.delete id }

def updateStatus (id : Id) (row : Status) (t : Tables) : Tables :=
  { t with status := t.status.update id (fun _ => row) }

def deleteStatus (id : Id) (t : Tables) : Tables := { t with status := t.status.delete id }

section ChangeItemStatus

variable (id : Id) (loaded : Inventory) (status : Id) (t : Tables)

@[simp] theorem changeItemStatus_status : (changeItemStatus id loaded status t).status = t.status := by
  unfold changeItemStatus
  split <;> rfl

@[simp] theorem changeItemStatus_user : (changeItemStatus id loaded status t).user = t.user := by
  unfold changeItemStatus
  split <;> rfl

@[simp] theorem changeItemStatus_reservation :
    (changeItemStatus id loaded status t).reservation = t.reservation := by
  unfold changeItemStatus
  split <;> rfl

theorem changeItemStatus_find (other : Id) :
    (changeItemStatus id loaded status t).inventory.find other =
      if other = id ∧ loaded.itemStatus ≠ status then
        (t.inventory.find other).map (Inventory.setItemStatus status)
      else t.inventory.find other := by
  unfold changeItemStatus
  by_cases same : loaded.itemStatus = status
  · simp [same]
  · simp [same, Table.find_update]

@[simp] theorem changeItemStatus_nextId :
    (changeItemStatus id loaded status t).inventory.nextId = t.inventory.nextId := by
  unfold changeItemStatus
  split <;> rfl

/-- Of an item as it is, the status is set whether it was written or not. -/
theorem changeItemStatus_find_of_present (present : t.inventory.find id = some loaded) (other : Id) :
    (changeItemStatus id loaded status t).inventory.find other =
      if other = id then some (loaded.setItemStatus status) else t.inventory.find other := by
  rw [changeItemStatus_find]
  by_cases here : other = id
  · subst here
    by_cases same : loaded.itemStatus = status
    · subst same
      simp [present, Inventory.setItemStatus]
    · simp [present, same]
  · simp [here]

end ChangeItemStatus

theorem Valid.changeItemStatus {t : Tables} (valid : t.Valid) (id : Id) (loaded : Inventory)
    {status : Id} {row : Status} (found : t.status.find status = some row) :
    (changeItemStatus id loaded status t).Valid := by
  unfold Tables.changeItemStatus
  split
  · exact valid
  · have statusReference : (t.inventory.update id (Inventory.setItemStatus status)).References
        (fun i => some i.itemStatus) t.status := by
      cases present : t.inventory.find id with
      | none => rw [Table.update_missing present]; exact valid.inventoryStatus
      | some item =>
          refine (Table.references_update valid.inventoryStatus present).mpr fun key points => ?_
          obtain rfl := Option.some.inj points
          exact ⟨row, found⟩
    exact
      { valid with
        inventoryStatus := statusReference
        inventoryType := Table.references_update_of_column id (fun _ => rfl) valid.inventoryType
        inventoryColor := Table.references_update_of_column id (fun _ => rfl) valid.inventoryColor
        inventorySchool := Table.references_update_of_column id (fun _ => rfl) valid.inventorySchool
        inventoryMajor := Table.references_update_of_column id (fun _ => rfl) valid.inventoryMajor
        inventoryUser := Table.references_update_of_column id (fun _ => rfl) valid.inventoryUser
        reservationInventory := Table.references_target_update id _ valid.reservationInventory }

/-- A reservation can be inserted when its user and item exist and the item is
    not reserved. -/
theorem Valid.insertReservation {t : Tables} (valid : t.Valid) (row : Reservation)
    (user : ∃ u, t.user.find row.userid = some u) (item : ∃ i, t.inventory.find row.item = some i) :
    (insertReservation row t).Valid ↔ ¬ t.Reserved row.item := by
  constructor
  · intro after reserved
    obtain ⟨id, reservation, found, same⟩ := reserved
    exact (Table.unique_insert valid.reservationItem).mp after.reservationItem id reservation found
      same
  · intro free
    exact
      { valid with
        reservationUser := (Table.references_insert valid.reservationUser).mpr
          fun id points => Option.some.inj points ▸ user
        reservationInventory := (Table.references_insert valid.reservationInventory).mpr
          fun id points => Option.some.inj points ▸ item
        reservationItem := (Table.unique_insert valid.reservationItem).mpr
          fun id reservation found same => free ⟨id, reservation, found, same⟩ }

theorem Valid.deleteReservation {t : Tables} (valid : t.Valid) (id : Id) :
    (deleteReservation id t).Valid :=
  { valid with
    reservationUser := Table.references_delete id valid.reservationUser
    reservationInventory := Table.references_delete id valid.reservationInventory
    reservationItem := Table.unique_delete id valid.reservationItem }

/-- A reservation can be moved to an item no other reservation is on. -/
theorem Valid.updateReservation {t : Tables} (valid : t.Valid) {id : Id}
    {row old : Reservation} (found : t.reservation.find id = some old)
    (user : ∃ u, t.user.find row.userid = some u) (item : ∃ i, t.inventory.find row.item = some i) :
    (updateReservation id row t).Valid ↔
      ∀ other reservation, t.reservation.find other = some reservation → other ≠ id →
        reservation.item ≠ row.item := by
  constructor
  · exact fun after => (Table.unique_update valid.reservationItem found).mp after.reservationItem
  · intro free
    exact
      { valid with
        reservationUser := (Table.references_update valid.reservationUser found).mpr
          fun id points => Option.some.inj points ▸ user
        reservationInventory := (Table.references_update valid.reservationInventory found).mpr
          fun id points => Option.some.inj points ▸ item
        reservationItem := (Table.unique_update valid.reservationItem found).mpr free }

/-- An item can go when no reservation references it. -/
theorem Valid.deleteInventory {t : Tables} (valid : t.Valid) (id : Id) :
    (deleteInventory id t).Valid ↔ ¬ t.Reserved id := by
  constructor
  · intro after reserved
    obtain ⟨key, reservation, found, same⟩ := reserved
    exact (Table.references_target_delete valid.reservationInventory).mp after.reservationInventory
      key reservation found (congrArg some same)
  · intro free
    exact
      { valid with
        inventoryStatus := Table.references_delete id valid.inventoryStatus
        inventoryType := Table.references_delete id valid.inventoryType
        inventoryColor := Table.references_delete id valid.inventoryColor
        inventorySchool := Table.references_delete id valid.inventorySchool
        inventoryMajor := Table.references_delete id valid.inventoryMajor
        inventoryUser := Table.references_delete id valid.inventoryUser
        reservationInventory := (Table.references_target_delete valid.reservationInventory).mpr
          fun key reservation found points => free ⟨key, reservation, found, Option.some.inj points⟩ }

/-- Every key an item's row has is the key of a row. -/
structure Grounded (t : Tables) (row : Inventory) : Prop where
  itemStatus : ∃ status, t.status.find row.itemStatus = some status
  itemType : ∃ itemType, t.itemType.find row.itemType = some itemType
  itemColor : ∃ color, t.color.find row.itemColor = some color
  itemSchool : ∃ school, t.school.find row.itemSchool = some school
  itemMajor : ∃ major, t.major.find row.itemMajor = some major
  user : ∀ id, row.user = some id → ∃ user, t.user.find id = some user

theorem Valid.grounded {t : Tables} (valid : t.Valid) {id : Id} {row : Inventory}
    (present : t.inventory.find id = some row) : t.Grounded row where
  itemStatus := valid.inventoryStatus.target present rfl
  itemType := valid.inventoryType.target present rfl
  itemColor := valid.inventoryColor.target present rfl
  itemSchool := valid.inventorySchool.target present rfl
  itemMajor := valid.inventoryMajor.target present rfl
  user := fun _ owned => valid.inventoryUser.target present owned

/-- No other constraint stops an item from being inserted. -/
theorem Valid.insertInventory {t : Tables} (valid : t.Valid) {row : Inventory}
    (grounded : t.Grounded row) : (insertInventory row t).Valid :=
  { valid with
    inventoryStatus := (Table.references_insert valid.inventoryStatus).mpr
      fun _ points => Option.some.inj points ▸ grounded.itemStatus
    inventoryType := (Table.references_insert valid.inventoryType).mpr
      fun _ points => Option.some.inj points ▸ grounded.itemType
    inventoryColor := (Table.references_insert valid.inventoryColor).mpr
      fun _ points => Option.some.inj points ▸ grounded.itemColor
    inventorySchool := (Table.references_insert valid.inventorySchool).mpr
      fun _ points => Option.some.inj points ▸ grounded.itemSchool
    inventoryMajor := (Table.references_insert valid.inventoryMajor).mpr
      fun _ points => Option.some.inj points ▸ grounded.itemMajor
    inventoryUser := (Table.references_insert valid.inventoryUser).mpr grounded.user
    reservationInventory := Table.references_target_insert row valid.reservationInventory }

/-- Nor from being changed. -/
theorem Valid.updateInventory {t : Tables} (valid : t.Valid) {id : Id} {old row : Inventory}
    (found : t.inventory.find id = some old) (grounded : t.Grounded row) :
    (updateInventory id row t).Valid :=
  { valid with
    inventoryStatus := (Table.references_update valid.inventoryStatus found).mpr
      fun _ points => Option.some.inj points ▸ grounded.itemStatus
    inventoryType := (Table.references_update valid.inventoryType found).mpr
      fun _ points => Option.some.inj points ▸ grounded.itemType
    inventoryColor := (Table.references_update valid.inventoryColor found).mpr
      fun _ points => Option.some.inj points ▸ grounded.itemColor
    inventorySchool := (Table.references_update valid.inventorySchool found).mpr
      fun _ points => Option.some.inj points ▸ grounded.itemSchool
    inventoryMajor := (Table.references_update valid.inventoryMajor found).mpr
      fun _ points => Option.some.inj points ▸ grounded.itemMajor
    inventoryUser := (Table.references_update valid.inventoryUser found).mpr grounded.user
    reservationInventory := Table.references_target_update id _ valid.reservationInventory }

/-- A user can be inserted when neither its address nor its name is taken. -/
theorem Valid.insertUser {t : Tables} (valid : t.Valid) (row : User) :
    (insertUser row t).Valid ↔
      ∀ id user, t.user.find id = some user → user.email ≠ row.email ∧ user.username ≠ row.username := by
  constructor
  · intro after id user found
    exact ⟨(Table.unique_insert valid.userEmail).mp after.userEmail id user found,
      (Table.unique_insert valid.userUsername).mp after.userUsername id user found⟩
  · intro free
    exact
      { valid with
        userEmail := (Table.unique_insert valid.userEmail).mpr fun id user found => (free id user found).1
        userUsername := (Table.unique_insert valid.userUsername).mpr
          fun id user found => (free id user found).2
        inventoryUser := Table.references_target_insert row valid.inventoryUser
        reservationUser := Table.references_target_insert row valid.reservationUser }

/-- A user's row can take an address and a name no other row has. -/
theorem Valid.updateUser {t : Tables} (valid : t.Valid) {id : Id} {old : User}
    (found : t.user.find id = some old) (row : User) :
    (updateUser id row t).Valid ↔
      ∀ other user, t.user.find other = some user → other ≠ id →
        user.email ≠ row.email ∧ user.username ≠ row.username := by
  constructor
  · intro after other user there apart
    exact ⟨(Table.unique_update valid.userEmail found).mp after.userEmail other user there apart,
      (Table.unique_update valid.userUsername found).mp after.userUsername other user there apart⟩
  · intro free
    exact
      { valid with
        userEmail := (Table.unique_update valid.userEmail found).mpr
          fun other user there apart => (free other user there apart).1
        userUsername := (Table.unique_update valid.userUsername found).mpr
          fun other user there apart => (free other user there apart).2
        inventoryUser := Table.references_target_update id _ valid.inventoryUser
        reservationUser := Table.references_target_update id _ valid.reservationUser }

/-- Some item or reservation belongs to the user. -/
def UserReferenced (t : Tables) (id : Id) : Prop :=
  (∃ row ∈ t.inventory.rows, row.2.user = some id) ∨ ∃ row ∈ t.reservation.rows, row.2.userid = id

instance (t : Tables) (id : Id) : Decidable (t.UserReferenced id) :=
  inferInstanceAs (Decidable ((∃ _ ∈ _, _) ∨ ∃ _ ∈ _, _))

/-- A user can go when nothing belongs to it. -/
theorem Valid.deleteUser {t : Tables} (valid : t.Valid) (id : Id) :
    (deleteUser id t).Valid ↔ ¬ t.UserReferenced id := by
  constructor
  · intro after referenced
    cases referenced with
    | inl owned =>
        obtain ⟨⟨key, item⟩, there, owner⟩ := owned
        exact (Table.references_target_delete valid.inventoryUser).mp after.inventoryUser key item
          (Table.mem_rows_iff.mp there) owner
    | inr reserved =>
        obtain ⟨⟨key, reservation⟩, there, owner⟩ := reserved
        exact (Table.references_target_delete valid.reservationUser).mp after.reservationUser key
          reservation (Table.mem_rows_iff.mp there) (congrArg some owner)
  · intro free
    exact
      { valid with
        userEmail := Table.unique_delete id valid.userEmail
        userUsername := Table.unique_delete id valid.userUsername
        inventoryUser := (Table.references_target_delete valid.inventoryUser).mpr
          fun key item found owner => free (.inl ⟨(key, item), Table.mem_rows_iff.mpr found, owner⟩)
        reservationUser := (Table.references_target_delete valid.reservationUser).mpr
          fun key reservation found owner => free
            (.inr ⟨(key, reservation), Table.mem_rows_iff.mpr found, Option.some.inj owner⟩) }

/-- Another status has the name of the submitted one. -/
def StatusTaken (t : Tables) (id : Id) (row : Status) : Prop :=
  ∃ other ∈ t.status.rows, other.1 ≠ id ∧ other.2.name = row.name

instance (t : Tables) (id : Id) (row : Status) : Decidable (t.StatusTaken id row) :=
  inferInstanceAs (Decidable (∃ _ ∈ _, _ ∧ _))

/-- A status can be renamed when no other status has the name. -/
theorem Valid.updateStatus {t : Tables} (valid : t.Valid) {id : Id} {old : Status}
    (found : t.status.find id = some old) (row : Status) :
    (updateStatus id row t).Valid ↔ ¬ t.StatusTaken id row := by
  constructor
  · intro after taken
    obtain ⟨⟨other, status⟩, there, apart, same⟩ := taken
    exact (Table.unique_update valid.statusName found).mp after.statusName other status
      (Table.mem_rows_iff.mp there) apart same
  · intro free
    exact
      { valid with
        statusName := (Table.unique_update valid.statusName found).mpr
          fun other status there apart same =>
            free ⟨(other, status), Table.mem_rows_iff.mpr there, apart, same⟩
        inventoryStatus := Table.references_target_update id _ valid.inventoryStatus }

/-- Some item has the status. -/
def StatusUsed (t : Tables) (id : Id) : Prop := ∃ row ∈ t.inventory.rows, row.2.itemStatus = id

instance (t : Tables) (id : Id) : Decidable (t.StatusUsed id) :=
  inferInstanceAs (Decidable (∃ _ ∈ _, _))

/-- A status can go when no item has it. -/
theorem Valid.deleteStatus {t : Tables} (valid : t.Valid) (id : Id) :
    (deleteStatus id t).Valid ↔ ¬ t.StatusUsed id := by
  constructor
  · intro after used
    obtain ⟨⟨key, item⟩, there, same⟩ := used
    exact (Table.references_target_delete valid.inventoryStatus).mp after.inventoryStatus key item
      (Table.mem_rows_iff.mp there) (congrArg some same)
  · intro free
    exact
      { valid with
        statusName := Table.unique_delete id valid.statusName
        inventoryStatus := (Table.references_target_delete valid.inventoryStatus).mpr
          fun key item found points =>
            free ⟨(key, item), Table.mem_rows_iff.mpr found, Option.some.inj points⟩ }

theorem reserved_insertReservation {t : Tables} {row : Reservation} {item : Id} :
    (insertReservation row t).Reserved item ↔ row.item = item ∨ t.Reserved item := by
  constructor
  · intro reserved
    obtain ⟨id, reservation, found, same⟩ := reserved
    simp only [insertReservation, Table.find_insert] at found
    split at found
    · obtain rfl := Option.some.inj found
      exact .inl same
    · exact .inr ⟨id, reservation, found, same⟩
  · intro either
    cases either with
    | inl same => exact ⟨_, row, t.reservation.find_insert_self row, same⟩
    | inr reserved =>
        obtain ⟨id, reservation, found, same⟩ := reserved
        exact ⟨id, reservation, Table.find_insert_old found, same⟩

/-- Deleting a reservation frees its item and no other. -/
theorem reserved_deleteReservation {t : Tables} (valid : t.Valid) {id : Id} {row : Reservation}
    (found : t.reservation.find id = some row) (item : Id) :
    (deleteReservation id t).Reserved item ↔ item ≠ row.item ∧ t.Reserved item := by
  constructor
  · intro reserved
    obtain ⟨other, reservation, kept, same⟩ := reserved
    simp only [deleteReservation, Table.find_delete] at kept
    split at kept
    · cases kept
    · rename_i different
      refine ⟨fun clash => different ?_, other, reservation, kept, same⟩
      exact valid.reservationItem.eq kept found (same.trans clash)
  · intro both
    obtain ⟨different, other, reservation, old, same⟩ := both
    refine ⟨other, reservation, ?_, same⟩
    have apart : other ≠ id := by
      intro clash
      obtain rfl := Option.some.inj ((clash ▸ old).symm.trans found)
      exact different same.symm
    simp only [deleteReservation, Table.find_delete, if_neg apart, old]

/-- A reservation that is moved frees the item it was on and takes the one it is
    moved to. -/
theorem reserved_updateReservation {t : Tables} (valid : t.Valid) {id : Id} {old : Reservation}
    (found : t.reservation.find id = some old) (row : Reservation) (item : Id) :
    (updateReservation id row t).Reserved item ↔
      row.item = item ∨ (item ≠ old.item ∧ t.Reserved item) := by
  have changed : (updateReservation id row t).reservation.find id = some row := by
    simp [updateReservation, Table.find_update, found]
  constructor
  · intro reserved
    obtain ⟨other, reservation, kept, same⟩ := reserved
    by_cases here : other = id
    · subst here
      obtain rfl := Option.some.inj (changed.symm.trans kept)
      exact .inl same
    · simp only [updateReservation, Table.find_update, if_neg here] at kept
      refine .inr ⟨fun clash => here ?_, other, reservation, kept, same⟩
      exact valid.reservationItem.eq kept found (same.trans clash)
  · intro either
    cases either with
    | inl moved => exact ⟨id, row, changed, moved⟩
    | inr both =>
        obtain ⟨different, other, reservation, kept, same⟩ := both
        have apart : other ≠ id := by
          intro clash
          obtain rfl := Option.some.inj ((clash ▸ kept).symm.trans found)
          exact different same.symm
        refine ⟨other, reservation, ?_, same⟩
        simp only [updateReservation, Table.find_update, if_neg apart, kept]

end Tables

end WuRegalia
