import WuRegalia.Kernel.Failure
import WuRegalia.Kernel.Preservation
import WuRegalia.Library.TextField
import WuRegalia.Navigation.Urls

/-! # The edit page of an item, sent back

The fields of the page hold the columns of the item, its texts in one line each. Sent back
as it is shown, or with another status, it is accepted for every item that has come in
through a form, and writes what it shows: requests may describe an item in several lines,
and such a description comes back in one.
-/

namespace WuRegalia

open Relational TextField

/-- A text a form has let in. -/
structure Entered (limit : Nat) (text : String) : Prop where
  nonempty : text ≠ ""
  short : text.length ≤ limit
  trimmed : Trimmed text

instance (limit : Nat) (text : String) : Decidable (Entered limit text) :=
  decidable_of_iff (text ≠ "" ∧ text.length ≤ limit ∧ Trimmed text)
    ⟨fun both => ⟨both.1, both.2.1, both.2.2⟩, fun entered => ⟨entered.1, entered.2, entered.3⟩⟩

/-- The texts of the item were let in by a form. -/
structure Inventory.Described (item : Inventory) : Prop where
  description : Entered 500 item.itemDescription
  size : ∀ size ∈ item.itemSize, Entered 20 size

instance (item : Inventory) : Decidable item.Described :=
  decidable_of_iff (Entered 500 item.itemDescription ∧ ∀ size ∈ item.itemSize, Entered 20 size)
    ⟨fun both => ⟨both.1, both.2⟩, fun described => ⟨described.1, described.2⟩⟩

def Tables.Described (t : Tables) : Prop := ∀ row ∈ t.inventory.rows, row.2.Described

instance (t : Tables) : Decidable t.Described := inferInstanceAs (Decidable (∀ _ ∈ _, _))

theorem described_iff {t : Tables} :
    t.Described ↔ ∀ id item, t.inventory.find id = some item → item.Described := by
  simp only [Tables.Described, Prod.forall, Table.mem_rows_iff]

/-- Texts are trimmed before a form gets them. -/
def Submitted.Trimmed : Submitted → Prop
  | .text value => TextField.Trimmed value
  | .integer _ | .dateTime _ | .choice _ | .checked => True

instance : (sent : Submitted) → Decidable sent.Trimmed
  | .text value => inferInstanceAs (Decidable (TextField.Trimmed value))
  | .integer _ | .dateTime _ | .choice _ | .checked => .isTrue trivial

def Payload.Trimmed (payload : Payload) : Prop :=
  ∀ sent ∈ payload, ∀ field ∈ sent.2.fields, field.2.Trimmed

instance (payload : Payload) : Decidable payload.Trimmed :=
  inferInstanceAs (Decidable (∀ _ ∈ _, ∀ _ ∈ _, _))

theorem text_some {s : Submission} {field value : String}
    (sent : (s.text field).get? = some value) :
    s.text field = .value value ∧ value ≠ "" ∧ (field, .text value) ∈ s.fields := by
  unfold Submission.text at sent ⊢
  split at sent
  · cases sent
  · cases sent
  · rename_i text nonempty located
    obtain rfl := Option.some.inj sent
    obtain ⟨before, after, split, -⟩ := List.lookup_eq_some_iff.mp located
    refine ⟨rfl, nonempty, ?_⟩
    rw [split]
    exact List.mem_append_right before List.mem_cons_self
  · cases sent

theorem described_of_payload {payload : Payload} (trimmed : payload.Trimmed) {row : Inventory}
    (describes : payload.Describes row) : row.Described := by
  obtain ⟨sent, member, description, described, size, sized⟩ := describes
  have entered : ∀ {field value : String} (limit : Nat),
      (sent.2.text field).get? = some value → value.length ≤ limit → Entered limit value := by
    intro field value limit read short
    obtain ⟨-, nonempty, inside⟩ := text_some read
    exact ⟨nonempty, short, trimmed sent member _ inside⟩
  constructor
  case description =>
    rw [(text_some description).1] at described
    exact entered 500 description (of_decide_eq_true described)
  case size =>
    intro value same
    have read := size.trans same
    rw [(text_some read).1] at sized
    exact entered 20 read (of_decide_eq_true sized)

/-- No write undoes what the forms have let in. -/
theorem described_preserved {payload : Payload} (trimmed : payload.Trimmed) :
    Preserved payload fun t => ∀ id item, t.inventory.find id = some item → item.Described where
  insertInventory := by
    intro t row describes before id item found
    rw [Tables.insertInventory, Table.find_insert] at found
    split at found
    · exact Option.some.inj found ▸ described_of_payload trimmed describes
    · exact before id item found
  updateInventory := by
    intro t row key describes before id item found
    rw [Tables.updateInventory, Table.find_update] at found
    split at found
    · obtain ⟨old, -, rfl⟩ := Option.map_eq_some_iff.mp found
      exact described_of_payload trimmed describes
    · exact before id item found
  changeItemStatus := by
    intro t key loaded status before id item found
    rw [Tables.changeItemStatus_find] at found
    split at found
    · obtain ⟨old, located, rfl⟩ := Option.map_eq_some_iff.mp found
      obtain ⟨description, size⟩ := before id old located
      exact ⟨description, size⟩
    · exact before id item found
  deleteInventory := by
    intro t key before id item found
    rw [Tables.deleteInventory, Table.find_delete] at found
    split at found
    · cases found
    · exact before id item found
  insertReservation _ before := before
  updateReservation _ _ before := before
  deleteReservation _ before := before
  insertUser _ before := before
  updateUser _ _ before := before
  deleteUser _ before := before
  insertNamed kind _ before := by cases kind <;> exact before
  updateNamed kind _ _ before := by cases kind <;> exact before
  deleteNamed kind _ before := by cases kind <;> exact before

/-- A field that may be empty, filled in for a value. -/
def Field.ofOption {α : Type} (o : Option α) : Field α := o.elim .empty .value

section OfOption

variable {α : Type}

theorem isOk_ofOption (o : Option α) : (Field.ofOption o).isOk = true := by
  cases o <;> rfl

theorem get_ofOption (o : Option α) : (Field.ofOption o).get? = o := by
  cases o <;> rfl

theorem isEmpty_ofOption (o : Option α) : (Field.ofOption o).isEmpty = o.isNone := by
  cases o <;> rfl

end OfOption

/-- What a field of one line that shows a text is read as when it is sent back. -/
def fieldOf (text : String) : Submitted := .text (trim (oneLine text))

/-- The edit page of the item, sent back with a status. -/
def Inventory.page (item : Inventory) (status : Id) : Submission where
  token := true
  fields :=
    [("itemDescription", fieldOf item.itemDescription),
      ("itemSize", fieldOf (item.itemSize.getD "")), ("itemStatus", .choice status),
      ("itemType", .choice item.itemType), ("itemColor", .choice item.itemColor),
      ("itemSchool", .choice item.itemSchool), ("itemMajor", .choice item.itemMajor)] ++
    match item.user with
    | some user => [("user", .choice user)]
    | none => []

/-- The item with its texts in one line and a status. -/
def Inventory.shown (item : Inventory) (status : Id) : Inventory :=
  { item with
    itemStatus := status
    itemDescription := oneLine item.itemDescription
    itemSize := item.itemSize.map oneLine }

/-- Neither text has a line break. -/
def Inventory.InOneLine (item : Inventory) : Prop :=
  TextField.InOneLine item.itemDescription ∧ ∀ size ∈ item.itemSize, TextField.InOneLine size

instance (item : Inventory) : Decidable item.InOneLine := inferInstanceAs (Decidable (_ ∧ _))

theorem shown_eq_iff {item : Inventory} {status : Id} :
    item.shown status = item ↔ status = item.itemStatus ∧ item.InOneLine := by
  have sizes : item.itemSize.map oneLine = item.itemSize ↔
      ∀ size ∈ item.itemSize, TextField.InOneLine size := by
    cases item.itemSize with
    | none => simp
    | some size => simp [oneLine_eq_iff]
  unfold Inventory.InOneLine
  rw [← oneLine_eq_iff, ← sizes]
  constructor
  · intro same
    exact ⟨congrArg Inventory.itemStatus same, congrArg Inventory.itemDescription same,
      congrArg Inventory.itemSize same⟩
  · rintro ⟨status, description, size⟩
    unfold Inventory.shown
    rw [status, description, size]

theorem Entered.oneLine {limit : Nat} {text : String} (entered : Entered limit text) :
    TextField.oneLine text ≠ "" ∧ (TextField.oneLine text).length ≤ limit :=
  ⟨entered.trimmed.oneLine_ne_empty entered.nonempty,
    (length_oneLine text).trans entered.short⟩

theorem text_fieldOf {s : Submission} {field text : String} {limit : Nat}
    (entered : Entered limit text) (sent : s.fields.lookup field = some (fieldOf text)) :
    s.text field = .value (oneLine text) := by
  have sentAs : s.fields.lookup field = some (.text (oneLine text)) := by
    rw [sent, fieldOf, entered.trimmed.sent]
  have nonempty := entered.oneLine.1
  unfold Submission.text
  rw [sentAs]
  split
  · rename_i none
    cases none
  · rename_i empty
    exact absurd (Submitted.text.inj (Option.some.inj empty)) nonempty
  · rename_i same
    exact congrArg Field.value (Submitted.text.inj (Option.some.inj same)).symm
  · rename_i other same
    exact absurd (Option.some.inj same).symm (other _)

theorem entity_choice {α : Type} {s : Submission} {field : String} {choices : Table α} {key : Id}
    {row : α} (sent : s.fields.lookup field = some (.choice key))
    (there : choices.find key = some row) : s.entity field choices = .value key := by
  unfold Submission.entity
  rw [sent]
  simp only [there, Option.isSome_some, if_true]

/-- What the form reads on the page. -/
theorem read_page {t : Tables} {item : Inventory} (described : item.Described)
    (grounded : t.Grounded item) {status : Id} {name : Status}
    (known : t.status.find status = some name) :
    InventoryForm.read t (item.page status) =
      { itemType := .value item.itemType
        itemColor := .value item.itemColor
        itemSchool := .value item.itemSchool
        itemMajor := .value item.itemMajor
        itemSize := .ofOption (item.shown status).itemSize
        itemDescription := .value (oneLine item.itemDescription)
        itemStatus := .value status
        user := .ofOption item.user } := by
  obtain ⟨-, ⟨type, typeFound⟩, ⟨color, colorFound⟩, ⟨school, schoolFound⟩, ⟨major, majorFound⟩,
    owner⟩ := grounded
  have description : (item.page status).text "itemDescription" =
      .value (oneLine item.itemDescription) := text_fieldOf described.description rfl
  have size : (item.page status).text "itemSize" =
      .ofOption (item.shown status).itemSize := by
    unfold Inventory.shown
    cases sized : item.itemSize with
    | none =>
        have sent : (item.page status).fields.lookup "itemSize" = some (.text "") := by
          rw [Inventory.page, sized]
          rfl
        unfold Submission.text
        rw [sent]
        rfl
    | some value =>
        have sent : (item.page status).fields.lookup "itemSize" = some (fieldOf value) := by
          rw [Inventory.page, sized]
          rfl
        exact text_fieldOf (described.size value sized) sent
  have user : (item.page status).entity "user" t.user = .ofOption item.user := by
    cases owned : item.user with
    | none =>
        have sent : (item.page status).fields.lookup "user" = none := by
          rw [Inventory.page, owned]
          rfl
        unfold Submission.entity
        rw [sent]
        rfl
    | some key =>
        obtain ⟨account, there⟩ := owner key owned
        have sent : (item.page status).fields.lookup "user" = some (.choice key) := by
          rw [Inventory.page, owned]
          rfl
        exact entity_choice sent there
  rw [InventoryForm.read, RequestForm.read, description, size, user, entity_choice rfl known,
    entity_choice rfl typeFound, entity_choice rfl colorFound, entity_choice rfl schoolFound,
    entity_choice rfl majorFound]

theorem Entered.fieldOf {limit : Nat} {text : String} (entered : Entered limit text) :
    (WuRegalia.fieldOf text).Trimmed := by
  have trimmed := entered.trimmed.oneLine
  rw [← entered.trimmed.sent] at trimmed
  exact trimmed

theorem page_trimmed {item : Inventory} (described : item.Described) (status : Id) :
    Payload.Trimmed [("inventory", item.page status)] := by
  have size : (fieldOf (item.itemSize.getD "")).Trimmed := by
    cases sized : item.itemSize with
    | none => exact (by decide : (fieldOf "").Trimmed)
    | some value => exact (described.size value sized).fieldOf
  intro sent here field inside
  obtain rfl := List.mem_singleton.mp here
  rcases List.mem_append.mp inside with column | user
  · simp only [List.mem_cons, List.not_mem_nil, or_false] at column
    rcases column with rfl | rfl | rfl | rfl | rfl | rfl | rfl
    · exact described.description.fieldOf
    · exact size
    all_goals trivial
  · split at user
    · obtain rfl := List.mem_singleton.mp user
      trivial
    · cases user

section Page

variable {t : Tables} {item : Inventory} {status : Id} {name : Status}

theorem page_isValid (described : item.Described) (grounded : t.Grounded item)
    (known : t.status.find status = some name) :
    InventoryForm.isValid t (item.page status) = true := by
  have accepted : (item.page status).accepted InventoryForm.fields = true := by
    unfold Inventory.page Submission.accepted
    cases item.user <;> rfl
  have long : describes (.value (oneLine item.itemDescription)) = true :=
    decide_eq_true described.description.oneLine.2
  have size : sizes (.ofOption (item.shown status).itemSize) = true := by
    unfold Inventory.shown
    cases sized : item.itemSize with
    | none => rfl
    | some value => exact decide_eq_true (described.size value sized).oneLine.2
  have chosen : ∀ key : Id, (Field.value key).isOk = true := fun _ => rfl
  simp only [InventoryForm.isValid, read_page described grounded known, accepted, long, size, chosen,
    isOk_ofOption, Bool.and_self]

theorem page_row (described : item.Described) (grounded : t.Grounded item)
    (known : t.status.find status = some name) :
    (InventoryForm.read t (item.page status)).row = some (item.shown status) := by
  simp only [InventoryForm.row, read_page described grounded known, get_ofOption]
  rfl

theorem page_setsNull (described : item.Described) (grounded : t.Grounded item)
    (known : t.status.find status = some name) :
    (InventoryForm.read t (item.page status)).setsNull item = false := by
  have user : (item.user.isNone && item.user.isSome) = false := by
    cases item.user <;> rfl
  have chosen : ∀ key : Id, (Field.value key).isEmpty = false := fun _ => rfl
  simp only [InventoryForm.setsNull, read_page described grounded known, isEmpty_ofOption, user,
    chosen, Bool.or_self]

end Page

/-- The page is accepted and writes what it shows. -/
theorem editAction_page {s : Store} {id : Id} {item : Inventory}
    (there : s.inventory.find id = some item) (described : item.Described) {status : Id}
    {name : Status} (known : s.status.find status = some name) :
    ∃ u : Store, u.toTables = s.updateInventory id (item.shown status) ∧
      InventoryController.editAction .post [("inventory", item.page status)] id s =
        ⟨u, [], .ok (.redirect "inventory_edit" (some id))⟩ := by
  have grounded := s.valid.grounded there
  have handled : (InventoryType s.toTables).handle .post [("inventory", item.page status)] =
      some (item.page status) := rfl
  have submitted : (InventoryType s.toTables).submitted .post [("inventory", item.page status)] =
      some (item.shown status) := by
    rw [FormType.submitted, handled]
    simp only [InventoryType, page_isValid described grounded known, if_true,
      page_row described grounded known]
  have valid : (s.updateInventory id (item.shown status)).Valid :=
    s.valid.updateInventory there (InventoryController.submitted_grounded submitted)
  obtain ⟨u, after, outcome⟩ := Store.transact_of_valid valid
    (fun _ => ([], redirectToRoute "inventory_edit" (some id)))
  refine ⟨u, after, ?_⟩
  unfold InventoryController.editAction
  simp only [there, handled, Option.any_some, page_setsNull described grounded known,
    Bool.false_eq_true, if_false]
  have declared : "inventory_edit" ∈ routes.map Route.name := by decide
  rw [FormType.save_of_submitted submitted, outcome, redirectToRoute_declared declared]

/-- Administrators are let through everywhere. -/
theorem accessGranted_of_admin {roles : List Role} (admin : .ROLE_ADMIN ∈ roles)
    (host path : String) : accessGranted host path roles = true := by
  have granted : ∀ rule ∈ accessControl, isGranted rule.roles roles = true := by
    intro rule member
    simp only [accessControl, List.mem_cons, List.not_mem_nil, or_false] at member
    rcases member with rfl | rfl | rfl | rfl | rfl | rfl
    · rfl
    · exact decide_eq_true (mem_reachableRoles_admin.mpr admin)
    all_goals exact decide_eq_true (mem_reachableRoles_user.mpr (.inr admin))
  unfold accessGranted
  split
  · rename_i required asked
    obtain ⟨rule, found, rfl⟩ := Option.map_eq_some_iff.mp asked
    exact granted rule (List.mem_of_find?_eq_some found)
  · rfl

/-- The URL of a row leads an administrator to the action of its route. -/
theorem passage_keyed {name : String} {method : Method} {action : Action}
    (declared : ∃ route ∈ routes, route.name = name ∧ route.action = action ∧
      route.keyed = true ∧ route.allows method = true)
    (ordinary : action ≠ .logout ∧ action ≠ .login) {roles : List Role}
    (admin : .ROLE_ADMIN ∈ roles) (id : Id) :
    ∃ path args, generate name (some (digits id)) = some path ∧ (∀ rt, idOf rt args = id) ∧
      ∀ req : Request, req.method = method → req.path = path →
        passage req roles = .action action args := by
  obtain ⟨route, member, rfl, rfl, keyed, allows⟩ := declared
  obtain ⟨path, args, url, fits, key⟩ := generate_keyed member keyed allows id
  refine ⟨path, args, url, key, fun req same there => ?_⟩
  unfold passage
  simp only [same, there, fits, if_neg ordinary.1, ordinary.2, false_and, if_false,
    accessGranted_of_admin admin, if_true]

/-- What an administrator's request with the page does. -/
theorem page_written (rt : Runtime) {v : World} (req : Request) {id : Id} {item : Inventory}
    (there : v.store.inventory.find id = some item) (described : item.Described) {status : Id}
    {name : Status} (known : v.store.status.find status = some name)
    (admin : v.HoldsAdmin req.session)
    (leads : generate "inventory_edit" (some (digits id)) = some req.path)
    (posts : req.method = .post) (body : req.payload = [("inventory", item.page status)]) :
    ∃ u : Store, u.toTables = v.store.updateInventory id (item.shown status) ∧
      (handle rt req v).2 = .ok (.redirect "inventory_edit" (some id)) ∧
      World.step rt v req =
        { v with toCloset := v.toCloset.after ⟨u, [], .ok (.redirect "inventory_edit" (some id))⟩ } := by
  have declared : ∃ route ∈ routes, route.name = "inventory_edit" ∧
      route.action = .inventory .edit ∧ route.keyed = true ∧ route.allows .post = true := by
    decide
  obtain ⟨path, args, url, key, through⟩ := passage_keyed declared (by decide) admin id
  have passes := through req posts (Option.some.inj (leads.symm.trans url))
  obtain ⟨u, after, outcome⟩ := editAction_page there described known
  have acted : dispatch rt (.inventory .edit) args req (v.sessions req.session) v.store =
      ⟨u, [], .ok (.redirect "inventory_edit" (some id))⟩ := by
    simp only [dispatch, posts, body, key]
    exact outcome
  exact ⟨u, after, action_taken passes acted⟩

/-- After any run, the edit page of every item is accepted as it is shown and with every
    other status, and nothing is changed by it exactly if the status is that of the item
    and its texts are of one line. -/
theorem edit_page_sent_back (rt : Runtime) {w : World} (start : w.store.toTables.Described)
    {requests : List Request} (trimmed : ∀ req ∈ requests, req.payload.Trimmed) {id : Id}
    {item : Inventory}
    (there : (Run.final (World.step rt) w requests).store.inventory.find id = some item)
    {status : Id} {name : Status}
    (known : (Run.final (World.step rt) w requests).store.status.find status = some name)
    {req : Request} (admin : (Run.final (World.step rt) w requests).HoldsAdmin req.session)
    (leads : generate "inventory_edit" (some (digits id)) = some req.path)
    (posts : req.method = .post) (body : req.payload = [("inventory", item.page status)]) :
    let v := Run.final (World.step rt) w requests
    (handle rt req v).2 = .ok (.redirect "inventory_edit" (some id)) ∧
      (World.step rt v req).store.toTables = v.store.updateInventory id (item.shown status) ∧
      ((World.step rt v req).store = v.store ↔ status = item.itemStatus ∧ item.InOneLine) := by
  intro v
  have described : item.Described :=
    run_preserved rt (fun req member => described_preserved (trimmed req member))
      (described_iff.mp start) v (Run.final_mem_states _ w requests) id item there
  obtain ⟨u, after, answered, stepped⟩ :=
    page_written rt req there described known admin leads posts body
  have store : (World.step rt v req).store = u := congrArg (fun v => v.store) stepped
  rw [store]
  refine ⟨answered, after, ?_⟩
  rw [← shown_eq_iff]
  constructor
  · intro same
    have found : u.inventory.find id = some (item.shown status) := by
      rw [after, Tables.updateInventory, Table.find_update, if_pos rfl, there, Option.map_some]
    rw [same, there] at found
    exact (Option.some.inj found).symm
  · intro same
    refine Store.eq_of_toTables ?_
    rw [after, same, Tables.updateInventory,
      Table.update_same fun other found => Option.some.inj (there.symm.trans found)]

/-- Bob describes a gown in two lines, and Ann signs in. -/
def Request.twoLines : List Request :=
  [.signIn 1 "jonesb",
    .post 1 "/donation_request" [("form", ⟨true, [("itemType", .choice 2), ("itemColor", .choice 1),
      ("itemSchool", .choice 1), ("itemMajor", .choice 1),
      ("itemDescription", .text "a hood\nof mine")]⟩)],
    .signIn 0 "smitha"]

def Inventory.twoLines : Inventory := ⟨3, 2, 1, 1, 1, "a hood\nof mine", none, some 2⟩

/-- Ann does no more than send the page back, and the description is in one line. -/
theorem edit_page_sent_back_sample :
    let v := Run.final (World.step .sample) .sample Request.twoLines
    let req : Request := .post 0 "/admin/inv/4/edit" [("inventory", Inventory.twoLines.page 3)]
    (handle .sample req v).2 = .ok (.redirect "inventory_edit" (some 4)) ∧
      (World.step .sample v req).store ≠ v.store := by
  intro v req
  have start : World.sample.store.toTables.Described := by decide
  have trimmed : ∀ request ∈ Request.twoLines, request.payload.Trimmed := by decide
  have there : v.store.inventory.find 4 = some .twoLines := by decide
  have known : v.store.status.find 3 = some ⟨"PENDING_DONATION"⟩ := by decide
  have admin : v.HoldsAdmin 0 := by decide
  have leads : generate "inventory_edit" (some (digits 4)) = some req.path := by decide
  obtain ⟨answered, -, unchanged⟩ :=
    edit_page_sent_back .sample start trimmed there known admin leads rfl rfl
  have broken : ¬ Inventory.twoLines.InOneLine := by decide
  exact ⟨answered, fun same => broken (unchanged.mp same).2⟩

end WuRegalia
