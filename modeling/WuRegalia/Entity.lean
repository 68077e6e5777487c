/-! # Entities

One structure for each mapped class, with the columns of its table. A generated
key is not a field: it belongs to the table a row is stored in. Columns mapped
`nullable=false` have plain types, so a row with a null in one cannot be built.
-/

namespace WuRegalia

abbrev Id := Nat

/-- A wall-clock time, in seconds. -/
abbrev DateTime := Nat

/-- `date_add` with an interval of whole days. -/
def DateTime.addDays (t : DateTime) (days : Nat) : DateTime := t + days * 86400

/-- `Status`, `ItemType`, `Color`, `School` and `Major` are the same class up to
    its name: a unique name under a generated key. -/
structure NamedEntity where
  name : String
  deriving DecidableEq, Repr

abbrev Status := NamedEntity
abbrev ItemType := NamedEntity
abbrev Color := NamedEntity
abbrev School := NamedEntity
abbrev Major := NamedEntity

structure User where
  fname : String
  lname : String
  email : String
  username : String
  signup_date : DateTime
  adminpriv : Int
  deriving DecidableEq, Repr

namespace User

/-- True exactly when `adminpriv` is 1; every other integer is no administrator. -/
def isAdmin (u : User) : Bool := u.adminpriv == 1

def grantAdminPriv (u : User) : User := { u with adminpriv := 1 }

def revokeAdminPriv (u : User) : User := { u with adminpriv := 0 }

@[simp] theorem isAdmin_iff {u : User} : u.isAdmin = true ↔ u.adminpriv = 1 := by
  simp [isAdmin]

end User

structure Inventory where
  itemStatus : Id
  itemType : Id
  itemColor : Id
  itemSchool : Id
  itemMajor : Id
  itemDescription : String
  itemSize : Option String
  user : Option Id
  deriving DecidableEq, Repr

def Inventory.setItemStatus (status : Id) (item : Inventory) : Inventory :=
  { item with itemStatus := status }

structure Reservation where
  userid : Id
  item : Id
  createDate : DateTime
  dueDate : DateTime
  approved : Bool
  deriving DecidableEq, Repr

/-- The constructor with both arguments: due in 14 days, not approved. -/
def Reservation.construct (user item : Id) (now : DateTime) : Reservation where
  userid := user
  item := item
  createDate := now
  dueDate := now.addDays 14
  approved := false

end WuRegalia
