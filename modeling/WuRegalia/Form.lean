import WuRegalia.Store

/-! # Requests and forms

A payload is what a request body carries for each form, under the form's name:
whether its CSRF token is valid, and the fields that are not empty. A form
reads its own fields and nothing else; a field it does not have makes it
invalid.
-/

namespace WuRegalia

/-- The method after `http_method_override`. -/
inductive Method where
  | get | head | post | put | patch | delete
  deriving DecidableEq, Repr

/-- One submitted value, as the field's type reads it. Texts are trimmed. -/
inductive Submitted where
  | text (value : String)
  | integer (value : Int)
  | dateTime (value : DateTime)
  | choice (key : Id)
  | checked
  deriving DecidableEq, Repr

structure Submission where
  token : Bool
  fields : List (String × Submitted)
  deriving DecidableEq, Repr

abbrev Payload := List (String × Submission)

/-- `handleRequest`: the submission of the form, when its method is used and the
    body has an entry under its name. -/
def Payload.handle (payload : Payload) (name : String) (configured method : Method) :
    Option Submission :=
  if method = configured then payload.lookup name else none

/-- What the form knows of a field after it has been submitted. -/
inductive Field (α : Type) where
  /-- The value could not be transformed, or is no allowed choice. -/
  | broken
  | empty
  | value (a : α)
  deriving DecidableEq, Repr

namespace Field

variable {α : Type}

def isOk : Field α → Bool
  | .broken => false
  | .empty | .value _ => true

/-- The value written to the entity; `none` is PHP's null. -/
def get? : Field α → Option α
  | .value a => some a
  | .broken | .empty => none

def isEmpty : Field α → Bool
  | .empty => true
  | .broken | .value _ => false

end Field

namespace Submission

def text (s : Submission) (field : String) : Field String :=
  match s.fields.lookup field with
  | none | some (.text "") => .empty
  | some (.text value) => .value value
  | some _ => .broken

def integer (s : Submission) (field : String) : Field Int :=
  match s.fields.lookup field with
  | none => .empty
  | some (.integer value) => .value value
  | some _ => .broken

def dateTime (s : Submission) (field : String) : Field DateTime :=
  match s.fields.lookup field with
  | none => .empty
  | some (.dateTime value) => .value value
  | some _ => .broken

/-- A choice among the rows of a table. -/
def entity {α : Type} (s : Submission) (field : String) (choices : Relational.Table α) : Field Id :=
  match s.fields.lookup field with
  | none => .empty
  | some (.choice key) => if (choices.find key).isSome then .value key else .broken
  | some _ => .broken

theorem entity_value {α : Type} {s : Submission} {field : String} {choices : Relational.Table α}
    {key : Id} (chosen : (s.entity field choices).get? = some key) :
    ∃ row, choices.find key = some row := by
  unfold entity at chosen
  split at chosen
  · cases chosen
  · split at chosen
    · rename_i present
      obtain rfl := Option.some.inj chosen
      exact Option.isSome_iff_exists.mp present
    · cases chosen
  · cases chosen

def checkbox (s : Submission) (field : String) : Field Bool :=
  match s.fields.lookup field with
  | none => .value false
  | some .checked => .value true
  | some _ => .broken

/-- The token is valid and no field is there that the form does not have. -/
def accepted (s : Submission) (form : List String) : Bool :=
  s.token && s.fields.all (fun field => field.1 ∈ form)

end Submission

/-- A form as a controller uses it: the name its fields come under, the valid
    submissions, and the row one of them stands for, `none` when a non-null column
    is still null. -/
structure FormType (α : Type) where
  name : String
  isValid : Submission → Bool
  row : Submission → Option α

namespace FormType

variable {α : Type}

/-- Every form that has a row is posted. -/
def handle (form : FormType α) (method : Method) (payload : Payload) : Option Submission :=
  payload.handle form.name .post method

/-- The row a request stands for, when the form accepts it and is complete. -/
def submitted (form : FormType α) (method : Method) (payload : Payload) : Option α :=
  match form.handle method payload with
  | some submission => if form.isValid submission then form.row submission else none
  | none => none

theorem submitted_some {form : FormType α} {method : Method} {payload : Payload} {row : α}
    (accepted : form.submitted method payload = some row) :
    ∃ submission, form.handle method payload = some submission ∧
      form.isValid submission = true ∧ form.row submission = some row := by
  unfold submitted at accepted
  split at accepted
  · rename_i submission handled
    split at accepted
    · rename_i valid
      exact ⟨submission, handled, valid, accepted⟩
    · cases accepted
  · cases accepted

end FormType

/-- `NotBlank` and `Length(max = 500)` on the description. -/
def describes : Field String → Bool
  | .value text => text.length ≤ 500
  | .broken | .empty => false

/-- `Length(max = 20)` on the size. -/
def sizes : Field String → Bool
  | .value text => text.length ≤ 20
  | .empty => true
  | .broken => false

structure RequestForm where
  itemType : Field Id
  itemColor : Field Id
  itemSchool : Field Id
  itemMajor : Field Id
  itemSize : Field String
  itemDescription : Field String
  deriving DecidableEq, Repr

namespace RequestForm

def fields : List String :=
  ["itemType", "itemColor", "itemSchool", "itemMajor", "itemSize", "itemDescription", "save"]

def read (t : Tables) (s : Submission) : RequestForm where
  itemType := s.entity "itemType" t.itemType
  itemColor := s.entity "itemColor" t.color
  itemSchool := s.entity "itemSchool" t.school
  itemMajor := s.entity "itemMajor" t.major
  itemSize := s.text "itemSize"
  itemDescription := s.text "itemDescription"

def isValid (t : Tables) (s : Submission) : Bool :=
  let form := read t s
  s.accepted fields && form.itemType.isOk && form.itemColor.isOk && form.itemSchool.isOk &&
    form.itemMajor.isOk && sizes form.itemSize && describes form.itemDescription

/-- The row to insert; `none` when a non-null column is still null. -/
def row (form : RequestForm) (status user : Id) : Option Inventory := do
  let itemType ← form.itemType.get?
  let itemColor ← form.itemColor.get?
  let itemSchool ← form.itemSchool.get?
  let itemMajor ← form.itemMajor.get?
  let itemDescription ← form.itemDescription.get?
  return { itemStatus := status, itemType, itemColor, itemSchool, itemMajor, itemDescription,
           itemSize := form.itemSize.get?, user := some user }

/-- Whatever was submitted, status and owner are those the action sets. -/
theorem row_some {form : RequestForm} {status user : Id} {item : Inventory}
    (built : form.row status user = some item) :
    item.itemStatus = status ∧ item.user = some user := by
  simp only [row, Option.bind_eq_bind, Option.bind_eq_some_iff, Option.pure_def,
    Option.some.injEq] at built
  obtain ⟨itemType, -, itemColor, -, itemSchool, -, itemMajor, -, itemDescription, -, rfl⟩ := built
  exact ⟨rfl, rfl⟩

/-- The form, filled in completely for the choices of `Store.sample`. -/
def sample : Payload :=
  [("form", ⟨true, [("itemType", .choice 2), ("itemColor", .choice 1), ("itemSchool", .choice 1),
    ("itemMajor", .choice 1), ("itemDescription", .text "a hood of mine")]⟩)]

end RequestForm

structure InventoryForm extends RequestForm where
  itemStatus : Field Id
  user : Field Id
  deriving DecidableEq, Repr

namespace InventoryForm

def fields : List String :=
  ["itemDescription", "itemSize", "itemStatus", "itemType", "itemColor", "itemSchool", "itemMajor",
    "user"]

def read (t : Tables) (s : Submission) : InventoryForm where
  toRequestForm := RequestForm.read t s
  itemStatus := s.entity "itemStatus" t.status
  user := s.entity "user" t.user

def isValid (t : Tables) (s : Submission) : Bool :=
  let form := read t s
  s.accepted fields && form.itemStatus.isOk && form.itemType.isOk && form.itemColor.isOk &&
    form.itemSchool.isOk && form.itemMajor.isOk && form.user.isOk && sizes form.itemSize &&
    describes form.itemDescription

def row (form : InventoryForm) : Option Inventory := do
  let itemStatus ← form.itemStatus.get?
  let itemType ← form.itemType.get?
  let itemColor ← form.itemColor.get?
  let itemSchool ← form.itemSchool.get?
  let itemMajor ← form.itemMajor.get?
  let itemDescription ← form.itemDescription.get?
  return { itemStatus, itemType, itemColor, itemSchool, itemMajor, itemDescription,
           itemSize := form.itemSize.get?, user := form.user.get? }

/-- A setter with a class type hint is called with null. A null that is already
    there is not set again. -/
def setsNull (form : InventoryForm) (current : Inventory) : Bool :=
  form.itemStatus.isEmpty || form.itemType.isEmpty || form.itemColor.isEmpty ||
    form.itemSchool.isEmpty || form.itemMajor.isEmpty || (form.user.isEmpty && current.user.isSome)

end InventoryForm

def InventoryType (t : Tables) : FormType Inventory where
  name := "inventory"
  isValid := InventoryForm.isValid t
  row submission := (InventoryForm.read t submission).row

structure ReservationForm where
  createDate : Field DateTime
  dueDate : Field DateTime
  approved : Field Bool
  userid : Field Id
  item : Field Id
  deriving DecidableEq, Repr

namespace ReservationForm

def fields : List String := ["createDate", "dueDate", "approved", "userid", "item"]

def read (t : Tables) (s : Submission) : ReservationForm where
  createDate := s.dateTime "createDate"
  dueDate := s.dateTime "dueDate"
  approved := s.checkbox "approved"
  userid := s.entity "userid" t.user
  item := s.entity "item" t.inventory

def isValid (t : Tables) (s : Submission) : Bool :=
  let form := read t s
  s.accepted fields && form.createDate.isOk && form.dueDate.isOk && form.approved.isOk &&
    form.userid.isOk && form.item.isOk

def row (form : ReservationForm) : Option Reservation := do
  let createDate ← form.createDate.get?
  let dueDate ← form.dueDate.get?
  let approved ← form.approved.get?
  let userid ← form.userid.get?
  let item ← form.item.get?
  return { createDate, dueDate, approved, userid, item }

/-- `setUserid` or `setItem` is called with null. -/
def setsNull (form : ReservationForm) : Bool := form.userid.isEmpty || form.item.isEmpty

theorem row_some {form : ReservationForm} {row : Reservation} (built : form.row = some row) :
    form.userid.get? = some row.userid ∧ form.item.get? = some row.item := by
  simp only [ReservationForm.row, Option.bind_eq_bind, Option.bind_eq_some_iff, Option.pure_def,
    Option.some.injEq] at built
  obtain ⟨createDate, -, dueDate, -, approved, -, userid, user, item, chosen, rfl⟩ := built
  exact ⟨user, chosen⟩

/-- A complete form sets no null. -/
theorem setsNull_of_row {form : ReservationForm} {row : Reservation} (built : form.row = some row) :
    form.setsNull = false := by
  obtain ⟨user, item⟩ := row_some built
  unfold setsNull
  cases userField : form.userid <;> cases itemField : form.item <;>
    simp_all [Field.get?, Field.isEmpty]

/-- The form, filled in for a user and an item. -/
def sample (user item : Id) : Payload :=
  [("reservation", ⟨true, [("createDate", .dateTime 0), ("dueDate", .dateTime 0),
    ("userid", .choice user), ("item", .choice item)]⟩)]

end ReservationForm

def ReservationType (t : Tables) : FormType Reservation where
  name := "reservation"
  isValid := ReservationForm.isValid t
  row submission := (ReservationForm.read t submission).row

/-- User and item of a submitted row were chosen among those there are. -/
theorem ReservationType.targets {t : Tables} {method : Method} {payload : Payload}
    {row : Reservation} (accepted : (ReservationType t).submitted method payload = some row) :
    (∃ user, t.user.find row.userid = some user) ∧
      ∃ item, t.inventory.find row.item = some item := by
  obtain ⟨submission, -, -, built⟩ := FormType.submitted_some accepted
  obtain ⟨user, item⟩ := ReservationForm.row_some built
  exact ⟨Submission.entity_value user, Submission.entity_value item⟩

structure UserForm where
  fname : Field String
  lname : Field String
  email : Field String
  username : Field String
  signup_date : Field DateTime
  adminpriv : Field Int
  deriving DecidableEq, Repr

namespace UserForm

def fields : List String := ["fname", "lname", "email", "username", "signup_date", "adminpriv"]

def read (s : Submission) : UserForm where
  fname := s.text "fname"
  lname := s.text "lname"
  email := s.text "email"
  username := s.text "username"
  signup_date := s.dateTime "signup_date"
  adminpriv := s.integer "adminpriv"

def isValid (s : Submission) : Bool :=
  let form := read s
  s.accepted fields && form.fname.isOk && form.lname.isOk && form.email.isOk &&
    form.username.isOk && form.signup_date.isOk && form.adminpriv.isOk

def row (form : UserForm) : Option User := do
  let fname ← form.fname.get?
  let lname ← form.lname.get?
  let email ← form.email.get?
  let username ← form.username.get?
  let signup_date ← form.signup_date.get?
  let adminpriv ← form.adminpriv.get?
  return { fname, lname, email, username, signup_date, adminpriv }

end UserForm

def UserType : FormType User where
  name := "user"
  isValid := UserForm.isValid
  row submission := (UserForm.read submission).row

namespace NamedForm

def fields : List String := ["name"]

def isValid (s : Submission) : Bool := s.accepted fields && (s.text "name").isOk

def row (s : Submission) : Option NamedEntity := (s.text "name").get?.map NamedEntity.mk

end NamedForm

/-- The five form types are the same but for the name of the form. -/
def NamedType (name : String) : FormType NamedEntity where
  name
  isValid := NamedForm.isValid
  row := NamedForm.row

def StatusType : FormType NamedEntity := NamedType "status"
def ItemTypeType : FormType NamedEntity := NamedType "item_type"
def ColorType : FormType NamedEntity := NamedType "color"
def SchoolType : FormType NamedEntity := NamedType "school"
def MajorType : FormType NamedEntity := NamedType "major"

/-- The delete forms have no field but their token. -/
def DeleteForm.isValid (s : Submission) : Bool := s.accepted []

/-- The delete form is submitted and accepted. -/
def DeleteForm.submitted (method : Method) (payload : Payload) : Bool :=
  (payload.handle "form" .delete method).any DeleteForm.isValid

end WuRegalia
