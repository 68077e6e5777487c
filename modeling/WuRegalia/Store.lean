import WuRegalia.Entity
import WuRegalia.Library.Table

/-! # The database

The tables of the mapping and its constraints: unique columns, foreign keys
and, through the column types, non-null columns. A `Store` is a set of tables
that meets them. A flush is one transaction: the tables it leads to either
meet the constraints and become the store, or nothing of it happens. Texts are
equal when all their characters are, as under a binary collation.
-/

namespace WuRegalia

open Relational

@[ext] structure Tables where
  status : Table Status
  itemType : Table ItemType
  color : Table Color
  school : Table School
  major : Table Major
  user : Table User
  inventory : Table Inventory
  reservation : Table Reservation
  deriving DecidableEq

namespace Tables

/-- The constraints of the mapping. -/
structure Valid (t : Tables) : Prop where
  statusName : t.status.Unique NamedEntity.name
  itemTypeName : t.itemType.Unique NamedEntity.name
  colorName : t.color.Unique NamedEntity.name
  schoolName : t.school.Unique NamedEntity.name
  majorName : t.major.Unique NamedEntity.name
  userEmail : t.user.Unique User.email
  userUsername : t.user.Unique User.username
  inventoryStatus : t.inventory.References (fun i => some i.itemStatus) t.status
  inventoryType : t.inventory.References (fun i => some i.itemType) t.itemType
  inventoryColor : t.inventory.References (fun i => some i.itemColor) t.color
  inventorySchool : t.inventory.References (fun i => some i.itemSchool) t.school
  inventoryMajor : t.inventory.References (fun i => some i.itemMajor) t.major
  inventoryUser : t.inventory.References Inventory.user t.user
  reservationUser : t.reservation.References (fun r => some r.userid) t.user
  reservationInventory : t.reservation.References (fun r => some r.item) t.inventory
  reservationItem : t.reservation.Unique Reservation.item

instance (t : Tables) : Decidable t.Valid :=
  decidable_of_iff
    (t.status.Unique NamedEntity.name ∧ t.itemType.Unique NamedEntity.name ∧
      t.color.Unique NamedEntity.name ∧ t.school.Unique NamedEntity.name ∧
      t.major.Unique NamedEntity.name ∧ t.user.Unique User.email ∧ t.user.Unique User.username ∧
      t.inventory.References (fun i => some i.itemStatus) t.status ∧
      t.inventory.References (fun i => some i.itemType) t.itemType ∧
      t.inventory.References (fun i => some i.itemColor) t.color ∧
      t.inventory.References (fun i => some i.itemSchool) t.school ∧
      t.inventory.References (fun i => some i.itemMajor) t.major ∧
      t.inventory.References Inventory.user t.user ∧
      t.reservation.References (fun r => some r.userid) t.user ∧
      t.reservation.References (fun r => some r.item) t.inventory ∧
      t.reservation.Unique Reservation.item)
    ⟨fun ⟨a, b, c, d, e, f, g, h, i, j, k, l, m, n, o, p⟩ =>
        ⟨a, b, c, d, e, f, g, h, i, j, k, l, m, n, o, p⟩,
      fun ⟨a, b, c, d, e, f, g, h, i, j, k, l, m, n, o, p⟩ =>
        ⟨a, b, c, d, e, f, g, h, i, j, k, l, m, n, o, p⟩⟩

/-- `findOneByName` on the status repository. -/
def findStatus (t : Tables) (name : String) : Option Id :=
  (t.status.findOneBy (fun status => status.name = name)).map Prod.fst

/-- `findOneByUsername` on the user repository. -/
def findUser (t : Tables) (username : String) : Option (Id × User) :=
  t.user.findOneBy (fun user => user.username = username)

/-- `findByItemStatus` on the inventory repository. -/
def findByItemStatus (t : Tables) (status : Id) : List (Id × Inventory) :=
  t.inventory.findBy (fun item => item.itemStatus = status)

/-- `User::getReservations`. -/
def getReservations (t : Tables) (user : Id) : List (Id × Reservation) :=
  t.reservation.findBy (fun reservation => reservation.userid = user)

/-- The name of an item's status. -/
def statusName (t : Tables) (item : Inventory) : Option String :=
  (t.status.find item.itemStatus).map NamedEntity.name

/-- The reservations that reference an item. -/
def referencing (t : Tables) (item : Id) : List (Id × Reservation) :=
  t.reservation.findBy (fun reservation => reservation.item = item)

/-- Some reservation references the item. -/
def Reserved (t : Tables) (item : Id) : Prop :=
  ∃ id reservation, t.reservation.find id = some reservation ∧ reservation.item = item

theorem reserved_iff_referencing {t : Tables} {item : Id} :
    t.Reserved item ↔ t.referencing item ≠ [] := by
  constructor
  · intro reserved empty
    obtain ⟨id, reservation, found, same⟩ := reserved
    have member : (id, reservation) ∈ t.referencing item :=
      Table.mem_findBy.mpr ⟨found, by simpa using same⟩
    simp [empty] at member
  · intro nonempty
    obtain ⟨⟨id, reservation⟩, member⟩ := List.exists_mem_of_ne_nil _ nonempty
    obtain ⟨found, same⟩ := Table.mem_findBy.mp member
    exact ⟨id, reservation, found, by simpa using same⟩

instance (t : Tables) (item : Id) : Decidable (t.Reserved item) :=
  decidable_of_iff _ reserved_iff_referencing.symm

theorem findStatus_some {t : Tables} {name : String} {id : Id} (found : t.findStatus name = some id) :
    ∃ status, t.status.find id = some status ∧ status.name = name := by
  obtain ⟨⟨key, status⟩, located, rfl⟩ := Option.map_eq_some_iff.mp found
  obtain ⟨row, named⟩ := Table.findOneBy_some located
  exact ⟨status, row, by simpa using named⟩

/-- A key is looked up under one name only. -/
theorem findStatus_name {t : Tables} {name other : String} {id : Id}
    (found : t.findStatus name = some id) (foundOther : t.findStatus other = some id) :
    name = other := by
  obtain ⟨status, row, rfl⟩ := findStatus_some found
  obtain ⟨same, rowSame, rfl⟩ := findStatus_some foundOther
  rw [row] at rowSame
  rw [Option.some.inj rowSame]

theorem findUser_some {t : Tables} {username : String} {id : Id} {user : User}
    (found : t.findUser username = some (id, user)) :
    t.user.find id = some user ∧ user.username = username := by
  obtain ⟨row, named⟩ := Table.findOneBy_some found
  exact ⟨row, by simpa using named⟩

theorem findUser_none {t : Tables} {username : String} :
    t.findUser username = none ↔ ∀ id user, t.user.find id = some user → user.username ≠ username := by
  simp only [findUser, Table.findOneBy_none, decide_eq_false_iff_not]

/-- Reservations of one item are at most one, its column being unique. -/
theorem Valid.referencing_length {t : Tables} (valid : t.Valid) (item : Id) :
    (t.referencing item).length ≤ 1 := by
  have same : ∀ row ∈ t.referencing item, ∀ other ∈ t.referencing item, row.1 = other.1 := by
    intro row member other otherMember
    obtain ⟨found, named⟩ := Table.mem_findBy.mp member
    obtain ⟨otherFound, otherNamed⟩ := Table.mem_findBy.mp otherMember
    have names : row.2.item = item ∧ other.2.item = item := by simpa using And.intro named otherNamed
    exact valid.reservationItem.eq found otherFound (names.1.trans names.2.symm)
  have ascending : (t.referencing item).Pairwise (fun row later => row.1 < later.1) :=
    t.reservation.ascending.filter _
  cases rows : t.referencing item with
  | nil => simp
  | cons first rest =>
      cases rest with
      | nil => simp
      | cons second others =>
          rw [rows] at same ascending
          have less : first.1 < second.1 := (List.pairwise_cons.mp ascending).1 second (by simp)
          have equal : first.1 = second.1 := same first (by simp) second (by simp)
          exact absurd equal (Nat.ne_of_lt less)

theorem Valid.referencing_one {t : Tables} (valid : t.Valid) (item : Id) :
    (t.referencing item).length = 1 ↔ t.Reserved item := by
  have atMost := valid.referencing_length item
  rw [reserved_iff_referencing]
  cases rows : t.referencing item with
  | nil => simp
  | cons first rest =>
      rw [rows] at atMost
      simp only [List.length_cons] at atMost ⊢
      exact ⟨fun _ => by simp, fun _ => by omega⟩

theorem Valid.findStatus_iff {t : Tables} (valid : t.Valid) {name : String} {id : Id} :
    t.findStatus name = some id ↔ ∃ status, t.status.find id = some status ∧ status.name = name := by
  refine ⟨findStatus_some, ?_⟩
  intro named
  obtain ⟨status, found, rfl⟩ := named
  cases located : t.findStatus status.name with
  | none =>
      have absent := Table.findOneBy_none.mp (Option.map_eq_none_iff.mp located) id status found
      simp at absent
  | some other =>
      obtain ⟨same, foundSame, sameName⟩ := findStatus_some located
      rw [valid.statusName.eq foundSame found sameName]

/-- An item has the status of a given name when its key is the one looked up. -/
theorem Valid.statusName_iff {t : Tables} (valid : t.Valid) {name : String} {item : Inventory} :
    t.statusName item = some name ↔ t.findStatus name = some item.itemStatus := by
  rw [valid.findStatus_iff]
  simp only [Tables.statusName, Option.map_eq_some_iff]

end Tables

@[ext] structure Store extends Tables where
  valid : toTables.Valid

namespace Store

instance : DecidableEq Store := fun s u =>
  decidable_of_iff (s.toTables = u.toTables)
    ⟨fun h => by cases s; cases u; simp_all, fun h => h ▸ rfl⟩

theorem eq_of_toTables {s u : Store} (same : s.toTables = u.toTables) : s = u := by
  cases s
  cases u
  simp_all

/-- One transaction: `none` when a constraint is violated. -/
def flush (s : Store) (write : Tables → Tables) : Option Store :=
  if valid : (write s.toTables).Valid then some ⟨write s.toTables, valid⟩ else none

/-- The store a flush leaves, whether it was applied or rolled back. -/
def committed (s : Store) (write : Tables → Tables) : Store := (s.flush write).getD s

theorem flush_eq_some {s u : Store} {write : Tables → Tables} :
    s.flush write = some u ↔ u.toTables = write s.toTables := by
  unfold flush
  split
  · constructor
    · intro same
      obtain rfl := Option.some.inj same
      rfl
    · exact fun same => congrArg some (eq_of_toTables same.symm)
  · rename_i invalid
    constructor
    · intro impossible
      cases impossible
    · exact fun same => absurd (same ▸ u.valid) invalid

theorem flush_eq_none {s : Store} {write : Tables → Tables} :
    s.flush write = none ↔ ¬ (write s.toTables).Valid := by
  unfold flush
  split <;> simp_all

theorem committed_of_valid {s : Store} {write : Tables → Tables} (valid : (write s.toTables).Valid) :
    (s.committed write).toTables = write s.toTables := by
  simp [committed, flush, valid]

theorem committed_of_invalid {s : Store} {write : Tables → Tables}
    (invalid : ¬ (write s.toTables).Valid) : s.committed write = s := by
  simp [committed, flush, invalid]

/-- All or nothing. -/
theorem committed_cases (s : Store) (write : Tables → Tables) :
    ((write s.toTables).Valid ∧ (s.committed write).toTables = write s.toTables) ∨
      (¬ (write s.toTables).Valid ∧ s.committed write = s) := by
  by_cases valid : (write s.toTables).Valid
  · exact .inl ⟨valid, committed_of_valid valid⟩
  · exact .inr ⟨valid, committed_of_invalid valid⟩

/-- A part of the tables that the write leaves alone is left alone by the flush. -/
theorem committed_keeps {γ : Type} (s : Store) {write : Tables → Tables} (part : Tables → γ)
    (keeps : part (write s.toTables) = part s.toTables) :
    part (s.committed write).toTables = part s.toTables := by
  cases s.committed_cases write with
  | inl applied => rw [applied.2, keeps]
  | inr rejected => rw [rejected.2]

/-- A property of the store after a flush, when the store before it has the property. -/
theorem committed_iff {s : Store} {write : Tables → Tables} {P : Tables → Prop}
    (before : P s.toTables) :
    P (s.committed write).toTables ↔ ((write s.toTables).Valid → P (write s.toTables)) := by
  cases s.committed_cases write with
  | inl applied =>
      rw [applied.2]
      exact ⟨fun after _ => after, fun after => after applied.1⟩
  | inr rejected =>
      rw [rejected.2]
      exact iff_of_true before fun valid => absurd valid rejected.1

/-- A write that has nothing to add to itself, or cannot be added to itself, is committed once. -/
theorem committed_again {s : Store} {write : Tables → Tables}
    (again : write (write s.toTables) = write s.toTables ∨
      ¬ (write (write s.toTables)).Valid) :
    (s.committed write).committed write = s.committed write := by
  cases s.committed_cases write with
  | inr rejected => rw [rejected.2, rejected.2]
  | inl applied =>
      rw [← applied.2] at again
      cases (s.committed write).committed_cases write with
      | inr rejected => exact rejected.2
      | inl twice =>
          refine Store.eq_of_toTables (twice.2.trans (again.resolve_right ?_))
          exact not_not_intro twice.1

/-- A small closet that examples start from: three available items, an
    administrator and a user, nothing reserved. -/
def sample : Store where
  status := .ofList
    [⟨"AVAL"⟩, ⟨"RENTED"⟩, ⟨"PENDING_DONATION"⟩, ⟨"PENDING_SPECIAL"⟩, ⟨"PENDING_ARRIVAL"⟩]
  itemType := .ofList [⟨"Gown"⟩, ⟨"Hood"⟩]
  color := .ofList [⟨"Black"⟩]
  school := .ofList [⟨"Winthrop"⟩]
  major := .ofList [⟨"Art"⟩]
  user := .ofList
    [⟨"Ann", "Smith", "smitha@winthrop.edu", "smitha", 0, 1⟩,
      ⟨"Bob", "Jones", "jonesb@winthrop.edu", "jonesb", 0, 0⟩]
  inventory := .ofList
    [⟨1, 1, 1, 1, 1, "a gown", none, none⟩, ⟨1, 1, 1, 1, 1, "another gown", none, none⟩,
      ⟨1, 2, 1, 1, 1, "a hood", none, none⟩]
  reservation := .empty
  valid := by decide

end Store

end WuRegalia
