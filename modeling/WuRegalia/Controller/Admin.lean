import WuRegalia.Controller.Generated
import WuRegalia.Routing

/-! # `InventoryController`, `UserController` and the controllers of named entities

The generated controllers: list, create, show, edit and delete one entity. The
five controllers of named entities are one definition over the table they work
on.
-/

namespace WuRegalia

open Relational

namespace InventoryController

def indexAction (s : Store) : Outcome :=
  match s.findStatus "AVAL" with
  | none => .raise s .nullDereference
  | some avalStatus =>
      .answer s (.render "inventory/index.html.twig" (.items (s.findByItemStatus avalStatus)))

def newAction (method : Method) (payload : Payload) (s : Store) : Outcome :=
  (InventoryType s.toTables).save method payload Tables.insertInventory
    (redirectToRoute "inventory_show" (some s.inventory.nextId))
    (.render "inventory/new.html.twig" .nothing) s

def showAction (id : Id) (s : Store) : Outcome :=
  match s.inventory.find id with
  | none => .raise s .notFound
  | some inventory => .answer s (.render "inventory/show.html.twig" (.item id inventory))

/-- The form is mapped to the entity before it is validated. -/
def editAction (method : Method) (payload : Payload) (id : Id) (s : Store) : Outcome :=
  match s.inventory.find id with
  | none => .raise s .notFound
  | some inventory =>
      let form := InventoryType s.toTables
      if (form.handle method payload).any
          (fun submission => (InventoryForm.read s.toTables submission).setsNull inventory) then
        .raise s .typeError
      else
        form.save method payload (Tables.updateInventory id)
          (redirectToRoute "inventory_edit" (some id))
          (.render "inventory/edit.html.twig" (.item id inventory)) s

def deleteAction (method : Method) (payload : Payload) (id : Id) (s : Store) : Outcome :=
  match s.inventory.find id with
  | none => .raise s .notFound
  | some _ =>
      deleteEntity method payload (redirectToRoute "inventory_index" none)
        (Tables.deleteInventory id) s

/-- The row an edit writes, when the form is accepted and complete and sets no null. -/
def edited (t : Tables) (method : Method) (payload : Payload) (inventory : Inventory) :
    Option Inventory :=
  if ((InventoryType t).handle method payload).any
      (fun submission => (InventoryForm.read t submission).setsNull inventory) then none
  else (InventoryType t).submitted method payload

theorem editAction_store (method : Method) (payload : Payload) (id : Id) (s : Store) :
    (editAction method payload id s).store =
      match s.inventory.find id with
      | some inventory =>
          match edited s.toTables method payload inventory with
          | some row => s.committed (Tables.updateInventory id row)
          | none => s
      | none => s := by
  unfold editAction edited
  cases s.inventory.find id with
  | none => rfl
  | some inventory =>
      simp only
      split
      · rfl
      · rw [FormType.save_store]
        cases (InventoryType s.toTables).submitted method payload <;> rfl

/-- Every key of the row was chosen among those there are. -/
theorem submitted_grounded {t : Tables} {method : Method} {payload : Payload} {row : Inventory}
    (accepted : (InventoryType t).submitted method payload = some row) : t.Grounded row := by
  obtain ⟨submission, -, -, built⟩ := FormType.submitted_some accepted
  simp only [InventoryType, InventoryForm.row, Option.bind_eq_bind, Option.bind_eq_some_iff,
    Option.pure_def, Option.some.injEq] at built
  obtain ⟨itemStatus, status, itemType, type, itemColor, color, itemSchool, school, itemMajor,
    major, -, -, rfl⟩ := built
  exact
    { itemStatus := Submission.entity_value status
      itemType := Submission.entity_value type
      itemColor := Submission.entity_value color
      itemSchool := Submission.entity_value school
      itemMajor := Submission.entity_value major
      user := fun _ chosen => Submission.entity_value chosen }

theorem edited_grounded {t : Tables} {method : Method} {payload : Payload} {inventory row : Inventory}
    (accepted : edited t method payload inventory = some row) : t.Grounded row := by
  unfold edited at accepted
  split at accepted
  · cases accepted
  · exact submitted_grounded accepted

/-- A new item is inserted whenever the form is accepted and complete. -/
theorem newAction_tables (method : Method) (payload : Payload) (s : Store) :
    (newAction method payload s).store.toTables =
      match (InventoryType s.toTables).submitted method payload with
      | some row => s.insertInventory row
      | none => s.toTables := by
  rw [newAction, FormType.save_store]
  cases accepted : (InventoryType s.toTables).submitted method payload with
  | none => rfl
  | some row => exact Store.committed_of_valid (s.valid.insertInventory (submitted_grounded accepted))

/-- So is an edited one changed. -/
theorem editAction_tables (method : Method) (payload : Payload) (id : Id) (s : Store) :
    (editAction method payload id s).store.toTables =
      match s.inventory.find id with
      | some inventory =>
          match edited s.toTables method payload inventory with
          | some row => s.updateInventory id row
          | none => s.toTables
      | none => s.toTables := by
  rw [editAction_store]
  cases found : s.inventory.find id with
  | none => rfl
  | some inventory =>
      simp only
      cases accepted : edited s.toTables method payload inventory with
      | none => rfl
      | some row =>
          exact Store.committed_of_valid (s.valid.updateInventory found (edited_grounded accepted))

end InventoryController

namespace UserController

def indexAction (s : Store) : Outcome :=
  .answer s (.render "user/index.html.twig" (.users s.user.findAll))

def newAction (method : Method) (payload : Payload) (s : Store) : Outcome :=
  UserType.save method payload Tables.insertUser (redirectToRoute "user_show" (some s.user.nextId))
    (.render "user/new.html.twig" .nothing) s

def showAction (id : Id) (s : Store) : Outcome :=
  match s.user.find id with
  | none => .raise s .notFound
  | some user => .answer s (.render "user/show.html.twig" (.user id user))

def editAction (method : Method) (payload : Payload) (id : Id) (s : Store) : Outcome :=
  match s.user.find id with
  | none => .raise s .notFound
  | some user =>
      UserType.save method payload (Tables.updateUser id) (redirectToRoute "user_edit" (some id))
        (.render "user/edit.html.twig" (.user id user)) s

def deleteAction (method : Method) (payload : Payload) (id : Id) (s : Store) : Outcome :=
  match s.user.find id with
  | none => .raise s .notFound
  | some _ =>
      deleteEntity method payload (redirectToRoute "user_index" none) (Tables.deleteUser id) s

theorem editAction_store (method : Method) (payload : Payload) (id : Id) (s : Store) :
    (editAction method payload id s).store =
      match s.user.find id, UserType.submitted method payload with
      | some _, some row => s.committed (Tables.updateUser id row)
      | _, _ => s := by
  unfold editAction
  cases s.user.find id with
  | none => rfl
  | some old =>
      simp only [FormType.save_store]
      cases UserType.submitted method payload <;> rfl

theorem deleteAction_store (method : Method) (payload : Payload) (id : Id) (s : Store) :
    (deleteAction method payload id s).store =
      match s.user.find id with
      | some _ =>
          if DeleteForm.submitted method payload then s.committed (Tables.deleteUser id) else s
      | none => s := by
  unfold deleteAction
  cases s.user.find id with
  | none => rfl
  | some old => exact deleteEntity_store method payload _ (Tables.deleteUser id) s

/-- What an edit does to a property of the tables: nothing, or what the change of one
    row does. -/
theorem editAction_iff {s : Store} {P : Tables → Prop} (before : P s.toTables) (method : Method)
    (payload : Payload) (id : Id) :
    P (editAction method payload id s).store.toTables ↔
      ∀ old ∈ s.user.find id, ∀ row ∈ UserType.submitted method payload,
        (s.updateUser id row).Valid → P (s.updateUser id row) := by
  rw [editAction_store]
  cases s.user.find id with
  | none => exact iff_of_true before (by simp)
  | some old =>
      cases UserType.submitted method payload with
      | none => exact iff_of_true before (by simp)
      | some row =>
          simp only [Option.mem_some_iff, forall_eq']
          exact Store.committed_iff before

theorem deleteAction_iff {s : Store} {P : Tables → Prop} (before : P s.toTables)
    (method : Method) (payload : Payload) (id : Id) :
    P (deleteAction method payload id s).store.toTables ↔
      (DeleteForm.submitted method payload = true → ∀ old ∈ s.user.find id,
        (s.deleteUser id).Valid → P (s.deleteUser id)) := by
  rw [deleteAction_store]
  cases s.user.find id with
  | none => exact iff_of_true before (by simp)
  | some old =>
      simp only [Option.mem_some_iff, forall_eq']
      split
      · rename_i accepted
        rw [Store.committed_iff before]
        exact ⟨fun after _ => after, fun after => after accepted⟩
      · rename_i refused
        exact iff_of_true before fun accepted => absurd accepted refused

end UserController

namespace NamedController

/-- The table a controller of named entities works on. -/
def get (t : Tables) : NamedKind → Table NamedEntity
  | .status => t.status
  | .itemType => t.itemType
  | .color => t.color
  | .school => t.school
  | .major => t.major

def set (t : Tables) (kind : NamedKind) (table : Table NamedEntity) : Tables :=
  match kind with
  | .status => { t with status := table }
  | .itemType => { t with itemType := table }
  | .color => { t with color := table }
  | .school => { t with school := table }
  | .major => { t with major := table }

/-- The name of the routes and templates of a controller. -/
def slug : NamedKind → String
  | .status => "status"
  | .itemType => "itemtype"
  | .color => "color"
  | .school => "school"
  | .major => "major"

/-- The form type of a controller. -/
def formType : NamedKind → FormType NamedEntity
  | .status => StatusType
  | .itemType => ItemTypeType
  | .color => ColorType
  | .school => SchoolType
  | .major => MajorType

theorem formType_isValid (kind : NamedKind) : (formType kind).isValid = NamedForm.isValid := by
  cases kind <;> rfl

def template (kind : NamedKind) (page : String) : String :=
  slug kind ++ "/" ++ page ++ ".html.twig"

def indexAction (kind : NamedKind) (s : Store) : Outcome :=
  .answer s (.render (template kind "index") (.named (get s.toTables kind).findAll))

def newAction (kind : NamedKind) (method : Method) (payload : Payload) (s : Store) : Outcome :=
  (formType kind).save method payload
    (fun row t => set t kind ((get t kind).insert row))
    (redirectToRoute (slug kind ++ "_show") (some (get s.toTables kind).nextId))
    (.render (template kind "new") .nothing) s

def showAction (kind : NamedKind) (id : Id) (s : Store) : Outcome :=
  match (get s.toTables kind).find id with
  | none => .raise s .notFound
  | some entity => .answer s (.render (template kind "show") (.namedOne id entity))

def editAction (kind : NamedKind) (method : Method) (payload : Payload) (id : Id) (s : Store) :
    Outcome :=
  match (get s.toTables kind).find id with
  | none => .raise s .notFound
  | some entity =>
      (formType kind).save method payload
        (fun row t => set t kind ((get t kind).update id (fun _ => row)))
        (redirectToRoute (slug kind ++ "_edit") (some id))
        (.render (template kind "edit") (.namedOne id entity)) s

def deleteAction (kind : NamedKind) (method : Method) (payload : Payload) (id : Id) (s : Store) :
    Outcome :=
  match (get s.toTables kind).find id with
  | none => .raise s .notFound
  | some _ =>
      deleteEntity method payload (redirectToRoute (slug kind ++ "_index") none)
        (fun t => set t kind ((get t kind).delete id)) s

theorem editAction_store (kind : NamedKind) (method : Method) (payload : Payload) (id : Id)
    (s : Store) :
    (editAction kind method payload id s).store =
      match (get s.toTables kind).find id, (formType kind).submitted method payload with
      | some _, some row => s.committed (fun t => set t kind ((get t kind).update id (fun _ => row)))
      | _, _ => s := by
  unfold editAction
  cases (get s.toTables kind).find id with
  | none => rfl
  | some old =>
      simp only [FormType.save_store]
      cases (formType kind).submitted method payload <;> rfl

theorem deleteAction_store (kind : NamedKind) (method : Method) (payload : Payload) (id : Id)
    (s : Store) :
    (deleteAction kind method payload id s).store =
      match (get s.toTables kind).find id with
      | some _ =>
          if DeleteForm.submitted method payload then
            s.committed (fun t => set t kind ((get t kind).delete id))
          else s
      | none => s := by
  unfold deleteAction
  cases (get s.toTables kind).find id with
  | none => rfl
  | some old => exact deleteEntity_store method payload _ _ s

theorem editAction_iff {s : Store} {P : Tables → Prop} (before : P s.toTables) (kind : NamedKind)
    (method : Method) (payload : Payload) (id : Id) :
    P (editAction kind method payload id s).store.toTables ↔
      ∀ old ∈ (get s.toTables kind).find id, ∀ row ∈ (formType kind).submitted method payload,
          (set s.toTables kind ((get s.toTables kind).update id (fun _ => row))).Valid →
            P (set s.toTables kind ((get s.toTables kind).update id (fun _ => row))) := by
  rw [editAction_store]
  cases (get s.toTables kind).find id with
  | none => exact iff_of_true before (by simp)
  | some old =>
      cases (formType kind).submitted method payload with
      | none => exact iff_of_true before (by simp)
      | some row =>
          simp only [Option.mem_some_iff, forall_eq']
          exact Store.committed_iff before

theorem deleteAction_iff {s : Store} {P : Tables → Prop} (before : P s.toTables)
    (kind : NamedKind) (method : Method) (payload : Payload) (id : Id) :
    P (deleteAction kind method payload id s).store.toTables ↔
      (DeleteForm.submitted method payload = true → ∀ old ∈ (get s.toTables kind).find id,
        (set s.toTables kind ((get s.toTables kind).delete id)).Valid →
          P (set s.toTables kind ((get s.toTables kind).delete id))) := by
  rw [deleteAction_store]
  cases (get s.toTables kind).find id with
  | none => exact iff_of_true before (by simp)
  | some old =>
      simp only [Option.mem_some_iff, forall_eq']
      split
      · rename_i accepted
        rw [Store.committed_iff before]
        exact ⟨fun after _ => after, fun after => after accepted⟩
      · rename_i refused
        exact iff_of_true before fun accepted => absurd accepted refused

end NamedController

namespace StatusController

def indexAction := NamedController.indexAction .status
def newAction := NamedController.newAction .status
def showAction := NamedController.showAction .status
def editAction := NamedController.editAction .status
def deleteAction := NamedController.deleteAction .status

end StatusController

namespace ItemTypeController

def indexAction := NamedController.indexAction .itemType
def newAction := NamedController.newAction .itemType
def showAction := NamedController.showAction .itemType
def editAction := NamedController.editAction .itemType
def deleteAction := NamedController.deleteAction .itemType

end ItemTypeController

namespace ColorController

def indexAction := NamedController.indexAction .color
def newAction := NamedController.newAction .color
def showAction := NamedController.showAction .color
def editAction := NamedController.editAction .color
def deleteAction := NamedController.deleteAction .color

end ColorController

namespace SchoolController

def indexAction := NamedController.indexAction .school
def newAction := NamedController.newAction .school
def showAction := NamedController.showAction .school
def editAction := NamedController.editAction .school
def deleteAction := NamedController.deleteAction .school

end SchoolController

namespace MajorController

def indexAction := NamedController.indexAction .major
def newAction := NamedController.newAction .major
def showAction := NamedController.showAction .major
def editAction := NamedController.editAction .major
def deleteAction := NamedController.deleteAction .major

end MajorController

end WuRegalia
