import WuRegalia.Kernel.Effect
import WuRegalia.Navigation.Links

/-! # How actions end

An action ends with one of its own pages or redirects, and the rows these show are there.
It misses something only when there is no row under the key in its URL, and refuses a
session only at its own check.
-/

namespace WuRegalia

open Relational

/-- How an action ends: with a response of its own, with `notFound` only when nothing was
    `found` under its key, and refused only when it did not let the session `through`. -/
inductive Ends (action : Action) (found through : Prop) : Outcome → Prop where
  | answers {u : Store} {mail : List Mail} {response : Response}
      (faithful : response.Faithful action u.toTables) :
      Ends action found through ⟨u, mail, .ok response⟩
  | fails {u : Store} {mail : List Mail} {e : Exception} (missing : e = .notFound → ¬ found)
      (refused : e = .accessDenied → ¬ through) : Ends action found through ⟨u, mail, .error e⟩

theorem mem_findAll_ids {α : Type} {t : Table α} {id : Id}
    (member : id ∈ t.findAll.map Prod.fst) : ∃ row, t.find id = some row := by
  obtain ⟨⟨key, row⟩, listed, rfl⟩ := List.mem_map.mp member
  exact ⟨row, Table.mem_rows_iff.mp listed⟩

theorem mem_findBy_ids {α : Type} {t : Table α} {p : α → Bool} {id : Id}
    (member : id ∈ (t.findBy p).map Prod.fst) : ∃ row, t.find id = some row := by
  obtain ⟨⟨key, row⟩, listed, rfl⟩ := List.mem_map.mp member
  exact ⟨row, (Table.mem_findBy.mp listed).1⟩

theorem update_holds {α : Type} {t : Table α} {id : Id} {old : α} (located : t.find id = some old)
    (f : α → α) : ∃ row, (t.update id f).find id = some row :=
  ⟨f old, by rw [Table.find_update, if_pos rfl, located]; rfl⟩

section Actions

variable {action : Action} {found through : Prop} {s : Store}

theorem ends_raise {e : Exception} (missing : e = .notFound → ¬ found)
    (refused : e = .accessDenied → ¬ through) : Ends action found through (.raise s e) :=
  .fails missing refused

/-- A getter on a row that is not there. -/
theorem ends_null : Ends action found through (.raise s .nullDereference) :=
  ends_raise nofun nofun

theorem ends_typeError : Ends action found through (.raise s .typeError) :=
  ends_raise nofun nofun

theorem ends_violation : Ends action found through (.raise s .constraintViolation) :=
  ends_raise nofun nofun

/-- What an action looks for is not there. -/
theorem ends_notFound {mail : List Mail} {entity : Entity} {id : Id}
    (present : found → entity.Holds s.toTables id) (absent : ¬ entity.Holds s.toTables id) :
    Ends action found through ⟨s, mail, .error .notFound⟩ :=
  .fails (fun _ there => absent (present there)) nofun

/-- A page with rows of one table. -/
theorem ends_render {mail : List Mail} {template : String} {data : PageData} {entity : Entity}
    (page : template ∈ action.pages) (rows : action.rows = some entity)
    (there : ∀ id ∈ data.ids, entity.Holds s.toTables id) :
    Ends action found through ⟨s, mail, .ok (.render template data)⟩ := by
  refine .answers ⟨page, fun other shown => ?_⟩
  obtain rfl := Option.some.inj (rows.symm.trans shown)
  exact there

/-- A page with one row. -/
theorem ends_render_one {mail : List Mail} {template : String} {data : PageData} {entity : Entity}
    {id : Id} (page : template ∈ action.pages) (rows : action.rows = some entity)
    (one : data.ids = [id]) (there : entity.Holds s.toTables id) :
    Ends action found through ⟨s, mail, .ok (.render template data)⟩ := by
  refine ends_render page rows fun key member => ?_
  rw [one, List.mem_singleton] at member
  exact member ▸ there

/-- A page without rows. -/
theorem ends_render_nothing {mail : List Mail} {template : String}
    (page : template ∈ action.pages) :
    Ends action found through ⟨s, mail, .ok (.render template .nothing)⟩ :=
  .answers ⟨page, fun _ _ _ none => absurd none List.not_mem_nil⟩

theorem ends_redirect {mail : List Mail} {name : String}
    (next : (name, false) ∈ action.successors) :
    Ends action found through ⟨s, mail, redirectToRoute name none⟩ := by
  unfold redirectToRoute
  split
  · exact .answers ⟨next, fun _ _ _ none => nomatch none⟩
  · exact .fails nofun nofun

theorem ends_redirect_key {mail : List Mail} {name : String} {id : Id} {entity : Entity}
    (next : (name, true) ∈ action.successors) (rows : action.rows = some entity)
    (there : entity.Holds s.toTables id) :
    Ends action found through ⟨s, mail, redirectToRoute name (some id)⟩ := by
  unfold redirectToRoute
  split
  · refine .answers ⟨next, fun other shown key same => ?_⟩
    obtain rfl := Option.some.inj (rows.symm.trans shown)
    exact Option.some.inj same ▸ there
  · exact .fails nofun nofun

theorem ends_transact {write : Tables → Tables}
    {next : Store → List Mail × Except Exception Response}
    (goesOn : ∀ u : Store, u.toTables = write s.toTables →
      Ends action found through ⟨u, (next u).1, (next u).2⟩) :
    Ends action found through (s.transact write next) := by
  by_cases valid : (write s.toTables).Valid
  · obtain ⟨u, after, outcome⟩ := Store.transact_of_valid valid next
    rw [outcome]
    exact goesOn u after
  · rw [Store.transact_of_invalid valid]
    exact ends_violation

theorem ends_proceed {π : Type} {loaded : Loaded π} {write : π → Tables → Tables}
    {next : π → Store → List Mail × Except Exception Response}
    (stops : ∀ result, loaded = .ends result → Ends action found through ⟨s, [], result⟩)
    (goesOn : ∀ p, loaded = .decides p → ∀ u : Store, u.toTables = write p s.toTables →
      Ends action found through ⟨u, (next p u).1, (next p u).2⟩) :
    Ends action found through (s.proceed loaded write next) := by
  cases loaded with
  | ends result => exact stops result rfl
  | decides p => exact ends_transact (goesOn p rfl)

theorem ends_save {α : Type} {form : FormType α} {method : Method} {payload : Payload}
    {write : α → Tables → Tables} {saved : Except Exception Response} {page : Response}
    (shown : Ends action found through ⟨s, [], .ok page⟩)
    (goesOn : ∀ row, ∀ u : Store, u.toTables = write row s.toTables →
      Ends action found through ⟨u, [], saved⟩) :
    Ends action found through (form.save method payload write saved page s) := by
  unfold FormType.save
  split
  · split
    · unfold Store.persist
      split
      · exact ends_transact (goesOn _)
      · exact ends_violation
    · exact shown
  · exact shown

theorem ends_deleteEntity {method : Method} {payload : Payload}
    {redirect : Except Exception Response} {remove : Tables → Tables}
    (goesOn : ∀ u, Ends action found through ⟨u, [], redirect⟩) :
    Ends action found through (deleteEntity method payload redirect remove s) := by
  unfold deleteEntity
  split
  · split
    · exact ends_transact fun u _ => goesOn u
    · exact goesOn s
  · exact goesOn s

theorem ends_sendMail {rt : Runtime} {mail : Mail} {next : Except Exception Response}
    (goesOn : ∀ mail, Ends action found through ⟨s, mail, next⟩) :
    Ends action found through ⟨s, (sendMail rt mail next).1, (sendMail rt mail next).2⟩ := by
  unfold sendMail
  split
  · exact goesOn _
  · exact .fails nofun nofun

theorem ends_mailToUser {rt : Runtime} {sessionUser : Option SessionUser}
    {text : String × (Id → MailBody)} {id : Id} {next : Except Exception Response}
    (goesOn : ∀ mail, Ends action found through ⟨s, mail, next⟩) :
    Ends action found through ⟨s, (RequestController.mailToUser rt sessionUser text id next).1,
      (RequestController.mailToUser rt sessionUser text id next).2⟩ := by
  unfold RequestController.mailToUser
  split
  · exact .fails nofun nofun
  · exact ends_sendMail goesOn

theorem ends_account {sessionUser : Option SessionUser}
    (refuses : checkedInAction .account (rolesOf sessionUser) = false → ¬ through) :
    Ends .account found through (AccountPageController.indexAction sessionUser s) := by
  have denied := @account_denied sessionUser s
  unfold AccountPageController.indexAction at denied ⊢
  cases sessionUser with
  | none => exact ends_raise nofun fun _ => refuses (denied.mp rfl)
  | some account =>
      simp only at denied ⊢
      split
      · split
        · exact ends_null
        · exact ends_render (List.mem_singleton.mpr rfl) rfl fun id member => mem_findBy_ids member
      · rename_i unauthenticated
        rw [if_neg unauthenticated] at denied
        exact ends_raise nofun fun _ => refuses (denied.mp rfl)

/-- The rows of the homepage, all of them or some. -/
theorem ends_listed {message : Option String}
    {narrow : List (Id × Inventory) → List (Id × Inventory)}
    (narrows : ∀ rows, narrow rows ⊆ rows) (page : "default/index.html.twig" ∈ action.pages)
    (rows : action.rows = some .inventory) :
    Ends action found through
      (match DefaultController.listed s.toTables with
        | none => .raise s .nullDereference
        | some inventories => .answer s (.render "default/index.html.twig"
            (.itemsWithMessage (narrow inventories) message))) := by
  unfold DefaultController.listed
  cases s.findStatus "AVAL" with
  | none => exact ends_null
  | some status =>
      refine ends_render page rows fun id member => ?_
      obtain ⟨row, listed, rfl⟩ := List.mem_map.mp member
      exact mem_findBy_ids (List.mem_map_of_mem (narrows _ listed))

theorem ends_showByStatus {name template : String} (page : template ∈ action.pages)
    (rows : action.rows = some .inventory) :
    Ends action found through (ReportsController.showByStatus name template s) := by
  unfold ReportsController.showByStatus
  split
  · exact ends_null
  · exact ends_render page rows fun id member => mem_findBy_ids member

theorem ends_report (report : Report) (id : Id) :
    Ends (.report report) found through (dispatchReport report id s) := by
  cases report with
  | showUsers => exact ends_render (List.mem_singleton.mpr rfl) rfl fun id => mem_findAll_ids
  | showAdmins | showRegisteredUsers =>
      exact ends_render (List.mem_singleton.mpr rfl) rfl fun id => mem_findBy_ids
  | showUserRentalHistory =>
      exact ends_render (List.mem_singleton.mpr rfl) rfl fun id => mem_findBy_ids
  | showInventory | showUserDonationHistory =>
      exact ends_render (List.mem_singleton.mpr rfl) rfl fun id => mem_findBy_ids
  | showRentalHistory =>
      exact ends_render (List.mem_singleton.mpr rfl) rfl fun id => mem_findAll_ids
  | showAvailibleInventory | showRentedInventory | showDonationInventory | showSpecialRequests
  | showPendingArrivals => exact ends_showByStatus (List.mem_singleton.mpr rfl) rfl

theorem ends_rentShow (sessionUser : Option SessionUser) :
    Ends .rentShow found through (RentController.showAction sessionUser s) := by
  unfold RentController.showAction
  split
  · exact ends_render (List.mem_singleton.mpr rfl) rfl fun id => mem_findBy_ids
  · exact ends_null

theorem ends_rentItem {rt : Runtime} {sessionUser : Option SessionUser} {id : Id} {now : DateTime}
    (present : found → Entity.inventory.Holds s.toTables id)
    (refuses : checkedInAction .rentItem (rolesOf sessionUser) = false → ¬ through) :
    Ends .rentItem found through (RentController.rentAction rt sessionUser id now s) := by
  refine ends_proceed ?_ ?_
  · intro result stopped
    unfold RentController.load at stopped
    cases located : s.inventory.find id with
    | none =>
        simp only [located] at stopped
        cases stopped
        exact ends_notFound present (by simp [Entity.Holds, located])
    | some item =>
        simp only [located] at stopped
        cases sessionUser with
        | none =>
            cases stopped
            exact .fails nofun fun _ => refuses rfl
        | some account =>
            simp only at stopped
            split at stopped
            · split at stopped
              · cases stopped
                exact .fails nofun nofun
              · split at stopped
                · split at stopped
                  · cases stopped
                    exact .fails nofun nofun
                  · cases stopped
                    exact ends_render List.mem_cons_self rfl fun id => mem_findBy_ids
                · split at stopped
                  · cases stopped
                    exact .fails nofun nofun
                  · cases stopped
            · rename_i unauthenticated
              cases stopped
              exact .fails nofun fun _ => refuses (Bool.eq_false_iff.mpr unauthenticated)
  · intro rent decides u after
    unfold RentController.finish
    split
    · exact .fails nofun nofun
    · refine ends_sendMail fun mail => ends_render_one
        (List.mem_cons_of_mem _ List.mem_cons_self) rfl rfl ?_
      obtain ⟨rfl, -, there, -⟩ := RentController.load_decides.mp decides
      refine ⟨rent.item.setItemStatus rent.rent_status, ?_⟩
      rw [after]
      exact (Tables.changeItemStatus_find_of_present _ _ _ _ there _).trans (if_pos rfl)

theorem ends_reservationIndex :
    Ends .reservationIndex found through (ReservationController.indexAction s) :=
  ends_render (List.mem_singleton.mpr rfl) rfl fun _ => mem_findAll_ids

/-- There is no page for a new reservation to go on to. -/
theorem ends_reservationNew (method : Method) (payload : Payload) :
    Ends .reservationNew found through (ReservationController.newAction method payload s) := by
  refine ends_save (ends_render_nothing (List.mem_singleton.mpr rfl)) fun row u _ => ?_
  have undeclared : "reservation_show" ∉ routes.map Route.name := by decide
  rw [redirectToRoute, if_neg undeclared]
  exact .fails nofun nofun

theorem ends_notifyLoop {rt : Runtime} (t : Tables) (rows : List (Id × Reservation)) :
    Ends .reservationNotify found through ⟨s, (ReservationController.notifyLoop rt t rows).1,
      (ReservationController.notifyLoop rt t rows).2⟩ := by
  cases rows with
  | nil =>
      have next : ("reservation_index", false) ∈ Action.reservationNotify.successors := by decide
      exact ends_redirect next
  | cons row rest => exact .fails nofun nofun

theorem ends_reservationEdit {method : Method} {payload : Payload} {id : Id}
    (present : found → Entity.reservation.Holds s.toTables id) :
    Ends .reservationEdit found through (ReservationController.editAction method payload id s) := by
  unfold ReservationController.editAction
  cases located : s.reservation.find id with
  | none => exact ends_notFound present (by simp [Entity.Holds, located])
  | some reservation =>
      simp only
      split
      · exact ends_typeError
      · refine ends_save ?_ fun row u after =>
          ends_redirect_key (List.mem_singleton.mpr rfl) rfl ?_
        · exact ends_render_one (List.mem_singleton.mpr rfl) rfl rfl ⟨_, located⟩
        · rw [after]
          exact update_holds located _

theorem ends_reservationDelete {id : Id}
    (present : found → Entity.reservation.Holds s.toTables id) :
    Ends .reservationDelete found through (ReservationController.deleteAction id s) := by
  have next : ("reservation_index", false) ∈ Action.reservationDelete.successors := by decide
  refine ends_proceed ?_ fun ret decides u after => ends_redirect next
  intro result stopped
  unfold ReservationController.load at stopped
  cases located : s.reservation.find id with
  | none =>
      simp only [located] at stopped
      cases stopped
      exact ends_notFound present (by simp [Entity.Holds, located])
  | some reservation =>
      obtain ⟨item, there⟩ := s.valid.reservationInventory.target located rfl
      simp only [located, there] at stopped
      split at stopped
      · cases stopped
      · cases stopped
        exact .fails nofun nofun
      · rename_i impossible
        cases impossible

theorem ends_adminPage {kind : RequestKind} {mail : List Mail}
    (page : (RequestController.texts kind).adminTemplate ∈ action.pages)
    (rows : action.rows = some .inventory) :
    Ends action found through ⟨s, mail, .ok (RequestController.adminPage kind s.toTables)⟩ := by
  refine ends_render page rows fun id member => ?_
  unfold RequestController.undecided at member
  split at member
  · exact mem_findBy_ids member
  · cases member

theorem ends_requestIndex {kind : RequestKind} {rt : Runtime} {sessionUser : Option SessionUser}
    {method : Method} {payload : Payload} :
    Ends (.requestIndex kind) found through
      (RequestController.indexAction kind rt sessionUser method payload s) := by
  have form : Ends (.requestIndex kind) found through
      (.answer s (.render (RequestController.texts kind).newTemplate .nothing)) :=
    ends_render_nothing List.mem_cons_self
  unfold RequestController.indexAction
  split
  · split
    · split
      · unfold Store.persist
        split
        · refine ends_transact fun u _ => ends_mailToUser fun mail => ?_
          exact ends_render_nothing (List.mem_cons_of_mem _ List.mem_cons_self)
        · exact ends_violation
      · exact ends_typeError
    · exact form
  · exact form

theorem ends_requestAccept {kind : RequestKind} {rt : Runtime} {sessionUser : Option SessionUser}
    {id : Id} : Ends (.requestAccept kind) found through
      (RequestController.adminChangeStatusAction kind rt sessionUser id s) := by
  refine ends_proceed ?_ fun accept decides u after => ends_mailToUser fun mail =>
    ends_adminPage (List.mem_singleton.mpr rfl) rfl
  intro result stopped
  unfold RequestController.loadAccept at stopped
  split at stopped <;> cases stopped <;> exact .fails nofun nofun

theorem ends_requestReject {kind : RequestKind} {rt : Runtime} {sessionUser : Option SessionUser}
    {id : Id} : Ends (.requestReject kind) found through
      (RequestController.adminRejectSpecialRequestAction kind rt sessionUser id s) := by
  refine ends_proceed ?_ fun reject decides u after => ends_mailToUser fun mail =>
    ends_adminPage (List.mem_singleton.mpr rfl) rfl
  intro result stopped
  unfold RequestController.loadReject at stopped
  split at stopped <;> cases stopped
  exact .fails nofun nofun

section Generated

variable {rt : Runtime} {args : List (List Char)} {req : Request}
  {sessionUser : Option SessionUser} {crud : Crud}

theorem ends_inventory
    (present : found → ∀ entity, (Action.inventory crud).subject = some entity →
      entity.Holds s.toTables (idOf rt args)) :
    Ends (.inventory crud) found through
      (dispatch rt (.inventory crud) args req sessionUser s) := by
  cases crud with
  | index =>
      simp only [dispatch, InventoryController.indexAction]
      split
      · exact ends_null
      · exact ends_render (List.mem_singleton.mpr rfl) rfl fun id => mem_findBy_ids
  | new =>
      refine ends_save (ends_render_nothing (List.mem_singleton.mpr rfl)) fun row u after =>
        ends_redirect_key (List.mem_singleton.mpr rfl) rfl ?_
      rw [after]
      exact ⟨row, Table.find_insert_self _ row⟩
  | «show» =>
      simp only [dispatch, InventoryController.showAction]
      cases located : s.inventory.find (idOf rt args) with
      | none =>
          exact ends_notFound (fun there => present there _ rfl) (by simp [Entity.Holds, located])
      | some item => exact ends_render_one (List.mem_singleton.mpr rfl) rfl rfl ⟨_, located⟩
  | edit =>
      simp only [dispatch, InventoryController.editAction]
      cases located : s.inventory.find (idOf rt args) with
      | none =>
          exact ends_notFound (fun there => present there _ rfl) (by simp [Entity.Holds, located])
      | some item =>
          simp only
          split
          · exact ends_typeError
          · refine ends_save ?_ fun row u after =>
              ends_redirect_key (List.mem_singleton.mpr rfl) rfl ?_
            · exact ends_render_one (List.mem_singleton.mpr rfl) rfl rfl ⟨_, located⟩
            · rw [after]
              exact update_holds located _
  | delete =>
      simp only [dispatch, InventoryController.deleteAction]
      cases located : s.inventory.find (idOf rt args) with
      | none =>
          exact ends_notFound (fun there => present there _ rfl) (by simp [Entity.Holds, located])
      | some item => exact ends_deleteEntity fun u => ends_redirect (List.mem_singleton.mpr rfl)

theorem ends_user
    (present : found → ∀ entity, (Action.user crud).subject = some entity →
      entity.Holds s.toTables (idOf rt args)) :
    Ends (.user crud) found through (dispatch rt (.user crud) args req sessionUser s) := by
  cases crud with
  | index => exact ends_render (List.mem_singleton.mpr rfl) rfl fun id => mem_findAll_ids
  | new =>
      refine ends_save (ends_render_nothing (List.mem_singleton.mpr rfl)) fun row u after =>
        ends_redirect_key (List.mem_singleton.mpr rfl) rfl ?_
      rw [after]
      exact ⟨row, Table.find_insert_self _ row⟩
  | «show» =>
      simp only [dispatch, UserController.showAction]
      cases located : s.user.find (idOf rt args) with
      | none =>
          exact ends_notFound (fun there => present there _ rfl) (by simp [Entity.Holds, located])
      | some user => exact ends_render_one (List.mem_singleton.mpr rfl) rfl rfl ⟨_, located⟩
  | edit =>
      simp only [dispatch, UserController.editAction]
      cases located : s.user.find (idOf rt args) with
      | none =>
          exact ends_notFound (fun there => present there _ rfl) (by simp [Entity.Holds, located])
      | some user =>
          refine ends_save ?_ fun row u after =>
            ends_redirect_key (List.mem_singleton.mpr rfl) rfl ?_
          · exact ends_render_one (List.mem_singleton.mpr rfl) rfl rfl ⟨_, located⟩
          · rw [after]
            exact update_holds located _
  | delete =>
      simp only [dispatch, UserController.deleteAction]
      cases located : s.user.find (idOf rt args) with
      | none =>
          exact ends_notFound (fun there => present there _ rfl) (by simp [Entity.Holds, located])
      | some user => exact ends_deleteEntity fun u => ends_redirect (List.mem_singleton.mpr rfl)

theorem named_get_set (t : Tables) (kind : NamedKind) (table : Table NamedEntity) :
    NamedController.get (NamedController.set t kind table) kind = table := by
  cases kind <;> rfl

/-- The pages of the named entities, whatever the entity is. -/
theorem named_pages (kind : NamedKind) :
    NamedController.template kind "index" ∈ (Action.named kind .index).pages ∧
      NamedController.template kind "new" ∈ (Action.named kind .new).pages ∧
      NamedController.template kind "show" ∈ (Action.named kind .show).pages ∧
      NamedController.template kind "edit" ∈ (Action.named kind .edit).pages := by
  cases kind <;> decide

theorem ends_named {kind : NamedKind}
    (present : found → ∀ entity, (Action.named kind crud).subject = some entity →
      entity.Holds s.toTables (idOf rt args)) :
    Ends (.named kind crud) found through
      (dispatch rt (.named kind crud) args req sessionUser s) := by
  obtain ⟨index, new, one, edit⟩ := named_pages kind
  cases crud with
  | index => exact ends_render index rfl fun id => mem_findAll_ids
  | new =>
      refine ends_save (ends_render_nothing new) fun row u after =>
        ends_redirect_key (List.mem_singleton.mpr rfl) rfl ?_
      rw [after]
      refine ⟨row, ?_⟩
      rw [named_get_set]
      exact Table.find_insert_self _ row
  | «show» =>
      simp only [dispatch, NamedController.showAction]
      cases located : (NamedController.get s.toTables kind).find (idOf rt args) with
      | none =>
          exact ends_notFound (fun there => present there _ rfl) (by simp [Entity.Holds, located])
      | some entity => exact ends_render_one one rfl rfl ⟨_, located⟩
  | edit =>
      simp only [dispatch, NamedController.editAction]
      cases located : (NamedController.get s.toTables kind).find (idOf rt args) with
      | none =>
          exact ends_notFound (fun there => present there _ rfl) (by simp [Entity.Holds, located])
      | some entity =>
          refine ends_save (ends_render_one edit rfl rfl ⟨_, located⟩) fun row u after =>
            ends_redirect_key (List.mem_singleton.mpr rfl) rfl ?_
          rw [after]
          obtain ⟨written, there⟩ := update_holds located fun _ => row
          refine ⟨written, ?_⟩
          rw [named_get_set]
          exact there
  | delete =>
      simp only [dispatch, NamedController.deleteAction]
      cases located : (NamedController.get s.toTables kind).find (idOf rt args) with
      | none =>
          exact ends_notFound (fun there => present there _ rfl) (by simp [Entity.Holds, located])
      | some entity => exact ends_deleteEntity fun u => ends_redirect (List.mem_singleton.mpr rfl)

end Generated

end Actions

/-- The key in the URL is the key of a row. -/
def Found (rt : Runtime) (action : Action) (args : List (List Char)) (t : Tables) : Prop :=
  ∀ entity, action.subject = some entity → entity.Holds t (idOf rt args)

theorem dispatch_ends (rt : Runtime) (action : Action) (args : List (List Char)) (req : Request)
    (sessionUser : Option SessionUser) (s : Store) :
    Ends action (Found rt action args s.toTables)
      (checkedInAction action (rolesOf sessionUser) = true)
      (dispatch rt action args req sessionUser s) := by
  have refuses : ∀ verdict, verdict = false → ¬ verdict = true :=
    fun verdict stopped through => absurd (stopped.symm.trans through) (by decide)
  cases action with
  | account => exact ends_account (refuses _)
  | homepage | login => exact ends_listed (fun rows => List.Subset.refl rows) (by decide) rfl
  | filter => exact ends_listed (fun rows => List.filter_subset_self _) (by decide) rfl
  | downloadUser | downloadAdmin => exact .answers trivial
  | inventory crud => exact ends_inventory fun there entity subject => there entity subject
  | rentShow => exact ends_rentShow sessionUser
  | rentItem => exact ends_rentItem (fun there => there _ rfl) (refuses _)
  | reportsIndex => exact ends_render_nothing (by decide)
  | report report => exact ends_report report _
  | reservationIndex => exact ends_reservationIndex
  | reservationNew => exact ends_reservationNew _ _
  | reservationNotify => exact ends_notifyLoop _ _
  | reservationEdit => exact ends_reservationEdit fun there => there _ rfl
  | reservationDelete => exact ends_reservationDelete fun there => there _ rfl
  | user crud => exact ends_user fun there entity subject => there entity subject
  | named kind crud => exact ends_named fun there entity subject => there entity subject
  | requestIndex kind => exact ends_requestIndex
  | requestAdmin kind => exact ends_adminPage (List.mem_singleton.mpr rfl) rfl
  | requestAccept kind => exact ends_requestAccept
  | requestReject kind => exact ends_requestReject
  | logout => exact .answers ⟨by decide, fun _ _ _ none => nomatch none⟩

theorem faithful_of_ends {action : Action} {found through : Prop} {o : Outcome}
    (ends : Ends action found through o) {response : Response} (answered : o.result = .ok response) :
    response.Faithful action o.store.toTables := by
  cases ends with
  | answers faithful =>
      cases answered
      exact faithful
  | fails => cases answered

theorem error_of_ends {action : Action} {found through : Prop} {o : Outcome}
    (ends : Ends action found through o) {e : Exception} (failed : o.result = .error e) :
    (e = .notFound → ¬ found) ∧ (e = .accessDenied → ¬ through) := by
  cases ends with
  | answers => cases failed
  | fails missing refused =>
      cases failed
      exact ⟨missing, refused⟩

/-- An action whose row is there refuses a session exactly at its check. -/
theorem dispatch_denied_iff (rt : Runtime) {action : Action} {args : List (List Char)}
    (req : Request) (sessionUser : Option SessionUser) {s : Store}
    (found : Found rt action args s.toTables) :
    (dispatch rt action args req sessionUser s).result = .error .accessDenied ↔
      ¬ checkedInAction action (rolesOf sessionUser) = true := by
  constructor
  · exact fun denied => (error_of_ends (dispatch_ends rt action args req sessionUser s) denied).2 rfl
  · intro stopped
    have stops : checkedInAction action (rolesOf sessionUser) = false := Bool.eq_false_iff.mpr stopped
    cases action with
    | account => exact account_denied.mpr stops
    | rentItem =>
        obtain ⟨item, there⟩ := found _ rfl
        exact rentItem_denied.mpr ⟨Option.isSome_iff_exists.mpr ⟨item, there⟩, stops⟩
    | _ => cases stops

/-- What can go wrong with a login that is no failed login. -/
theorem attemptAuthentication_fails {dir : Directory} {s : Store} {now : DateTime}
    {c : Credentials} {e : Exception} (fails : (attemptAuthentication dir s now c).2 = .error e) :
    isAuthenticationException e = true ∨ e = .constraintViolation := by
  have loads : ∀ u, LdapSessionUserProvider.loadUserByUsername dir s now c.username = (u, .error e) →
      isAuthenticationException e = true ∨ e = .constraintViolation := by
    intro u loaded
    rcases loadUserByUsername_cases dir s now c.username with
      ⟨entry, checks⟩ | ⟨message, unknown⟩
    · rw [checks] at loaded
      rcases LdapSessionUserProvider.checkDatabase_cases s now
        (LdapSessionUserProvider.loadUser (LdapSessionUserProvider.escape c.username) entry) with
        ⟨id, user, found, result⟩ | ⟨adds, row, u, built, after, result⟩ | ⟨absent, full, result⟩
      · rw [result] at loaded
        cases loaded
      · rw [result] at loaded
        cases loaded
      · rw [result] at loaded
        cases loaded
        exact .inr rfl
    · rw [unknown] at loaded
      cases loaded
      exact .inl rfl
  unfold attemptAuthentication at fails
  split at fails
  · split at fails
    · cases fails
      exact .inl rfl
    · split at fails
      · rename_i loaded
        cases fails
        exact loads _ loaded
      · split at fails <;> cases fails
        exact .inl rfl
  · cases fails
    exact .inl rfl

/-- A login neither misses a row nor is refused. -/
theorem login_ends (req : Request) (w : World) :
    (login req w).2 ≠ .error .notFound ∧ (login req w).2 ≠ .error .accessDenied := by
  unfold login
  split
  · exact ⟨nofun, nofun⟩
  · rename_i u e failed
    split
    · exact ⟨nofun, nofun⟩
    · rename_i unexpected
      rcases attemptAuthentication_fails (congrArg Prod.snd failed) with expected | rfl
      · exact absurd expected unexpected
      · exact ⟨nofun, nofun⟩

theorem login_redirects {req : Request} {w : World} {response : Response}
    (answered : (login req w).2 = .ok response) :
    response = .redirect "homepage" none ∨ response = .redirect "login" none := by
  unfold login at answered
  split at answered
  · cases answered
    exact .inl rfl
  · split at answered <;> cases answered
    exact .inr rfl

end WuRegalia
