import WuRegalia.Kernel.Preservation
import WuRegalia.Navigation.Unbroken

/-! # Links that have become stale

Keys are handed out once. A link that was shown for a row leads to this row as long as it
is there, and to nothing after that: the request fails and changes nothing.
-/

namespace WuRegalia

open Relational

/-- A property of the table an entity is in. -/
def Entity.In (Q : ∀ {α : Type}, Table α → Prop) (t : Tables) : Entity → Prop
  | .inventory => Q t.inventory
  | .reservation => Q t.reservation
  | .user => Q t.user
  | .named kind => Q (NamedController.get t kind)

theorem named_get_set_ne {kind other : NamedKind} (apart : kind ≠ other) (t : Tables)
    (table : Table NamedEntity) :
    NamedController.get (NamedController.set t kind table) other = NamedController.get t other := by
  cases kind <;> cases other <;> first | rfl | exact absurd rfl apart

/-- What inserts, updates and deletes keep in every table, the application keeps in
    every table. -/
theorem preserved_in (Q : ∀ {α : Type}, Table α → Prop)
    (insert : ∀ {α : Type} {t : Table α} (a : α), Q t → Q (t.insert a))
    (update : ∀ {α : Type} {t : Table α} (id : Id) (f : α → α), Q t → Q (t.update id f))
    (delete : ∀ {α : Type} {t : Table α} (id : Id), Q t → Q (t.delete id))
    (entity : Entity) (payload : Payload) : Preserved payload fun t => entity.In Q t := by
  have named : ∀ {t : Tables} {kind : NamedKind} {table : Table NamedEntity},
      (Q (NamedController.get t kind) → Q table) → entity.In Q t →
        entity.In Q (NamedController.set t kind table) := by
    intro t kind table keeps here
    cases entity with
    | named other =>
        by_cases same : kind = other
        · subst same
          rw [Entity.In, named_get_set]
          exact keeps here
        · rw [Entity.In, named_get_set_ne same]
          exact here
    | inventory | reservation | user => cases kind <;> exact here
  constructor
  case changeItemStatus =>
    intro t id loaded status here
    unfold Tables.changeItemStatus
    split
    · exact here
    · cases entity with
      | inventory => exact update _ _ here
      | reservation | user | named => exact here
  case insertInventory =>
    intro t row _ here
    cases entity with
    | inventory => exact insert row here
    | reservation | user | named => exact here
  case updateInventory =>
    intro t row id _ here
    cases entity with
    | inventory => exact update id (fun _ => row) here
    | reservation | user | named => exact here
  case deleteInventory =>
    intro t id here
    cases entity with
    | inventory => exact delete id here
    | reservation | user | named => exact here
  case insertReservation =>
    intro t row here
    cases entity with
    | reservation => exact insert row here
    | inventory | user | named => exact here
  case updateReservation =>
    intro t id row here
    cases entity with
    | reservation => exact update id (fun _ => row) here
    | inventory | user | named => exact here
  case deleteReservation =>
    intro t id here
    cases entity with
    | reservation => exact delete id here
    | inventory | user | named => exact here
  case insertUser =>
    intro t row here
    cases entity with
    | user => exact insert row here
    | inventory | reservation | named => exact here
  case updateUser =>
    intro t id row here
    cases entity with
    | user => exact update id (fun _ => row) here
    | inventory | reservation | named => exact here
  case deleteUser =>
    intro t id here
    cases entity with
    | user => exact delete id here
    | inventory | reservation | named => exact here
  case insertNamed => exact fun kind row => named (insert row)
  case updateNamed => exact fun kind id row => named (update id fun _ => row)
  case deleteNamed => exact fun kind id => named (delete id)

/-- The key was handed out for a row of the entity. -/
def Entity.Issued (id : Id) (t : Tables) (entity : Entity) : Prop :=
  entity.In (fun table => id < table.nextId) t

/-- And the row is gone. -/
def Entity.Spent (id : Id) (t : Tables) (entity : Entity) : Prop :=
  entity.In (fun table => table.Spent id) t

theorem issued_of_holds {entity : Entity} {t : Tables} {id : Id} (there : entity.Holds t id) :
    entity.Issued id t := by
  cases entity <;>
    · obtain ⟨row, found⟩ := there
      exact Table.lt_nextId found

theorem spent_iff {entity : Entity} {t : Tables} {id : Id} :
    entity.Spent id t ↔ entity.Issued id t ∧ ¬ entity.Holds t id := by
  cases entity <;>
    simp only [Entity.Spent, Entity.Issued, Entity.In, Entity.Holds, Table.Spent, not_exists,
      Option.eq_none_iff_forall_ne_some]

/-- A row that is there before and after a run is there all along. -/
theorem holds_throughout (rt : Runtime) {w : World} {requests : List Request} {entity : Entity}
    {id : Id} (there : entity.Holds w.store.toTables id)
    (still : entity.Holds (Run.final (World.step rt) w requests).store.toTables id) :
    ∀ v ∈ Run.states (World.step rt) w requests, entity.Holds v.store.toTables id := by
  intro v visited
  obtain ⟨before, after, rfl, rfl⟩ := (Run.mem_states _).mp visited
  by_contra gone
  have issued : ∀ u ∈ Run.states (World.step rt) w before, entity.Issued id u.store.toTables :=
    run_preserved rt (fun req _ => preserved_in (fun table => id < table.nextId)
      (fun _ => Nat.lt_succ_of_lt) (fun _ _ issued => issued) (fun _ issued => issued) entity
      req.payload)
      (issued_of_holds there)
  have spent := spent_iff.mpr ⟨issued _ (Run.final_mem_states _ w before), gone⟩
  have ever : ∀ u ∈ Run.states (World.step rt) (Run.final (World.step rt) w before) after,
      entity.Spent id u.store.toTables :=
    run_preserved rt (fun req _ => preserved_in (fun table => table.Spent id)
      (fun a spent => spent.insert a) (fun other f spent => spent.update other f)
      (fun other spent => spent.delete other) entity req.payload) spent
  rw [Run.final_append] at still
  exact (spent_iff.mp (ever _ (Run.final_mem_states _ _ after))).2 still

/-- An action whose row is gone fails before it does anything. -/
theorem dispatch_missing (rt : Runtime) {action : Action} {args : List (List Char)} (req : Request)
    (sessionUser : Option SessionUser) {s : Store} {entity : Entity}
    (subject : action.subject = some entity) (gone : ¬ entity.Holds s.toTables (idOf rt args)) :
    ∃ e, dispatch rt action args req sessionUser s = .raise s e := by
  have item : entity = .inventory → s.inventory.find (idOf rt args) = none := by
    rintro rfl
    exact Option.eq_none_iff_forall_ne_some.mpr fun row found => gone ⟨row, found⟩
  have reservation : entity = .reservation → s.reservation.find (idOf rt args) = none := by
    rintro rfl
    exact Option.eq_none_iff_forall_ne_some.mpr fun row found => gone ⟨row, found⟩
  have user : entity = .user → s.user.find (idOf rt args) = none := by
    rintro rfl
    exact Option.eq_none_iff_forall_ne_some.mpr fun row found => gone ⟨row, found⟩
  have named : ∀ kind, entity = .named kind →
      (NamedController.get s.toTables kind).find (idOf rt args) = none := by
    rintro kind rfl
    exact Option.eq_none_iff_forall_ne_some.mpr fun row found => gone ⟨row, found⟩
  cases action with
  | rentItem =>
      cases subject
      simp only [dispatch, RentController.rentAction, RentController.load, item rfl]
      exact ⟨_, rfl⟩
  | requestAccept kind =>
      cases subject
      simp only [dispatch, RequestController.adminChangeStatusAction, RequestController.loadAccept,
        item rfl]
      exact ⟨_, rfl⟩
  | requestReject kind =>
      cases subject
      simp only [dispatch, RequestController.adminRejectSpecialRequestAction,
        RequestController.loadReject, item rfl]
      exact ⟨_, rfl⟩
  | reservationEdit =>
      cases subject
      simp only [dispatch, ReservationController.editAction, reservation rfl]
      exact ⟨_, rfl⟩
  | reservationDelete =>
      cases subject
      simp only [dispatch, ReservationController.deleteAction, ReservationController.load,
        reservation rfl]
      exact ⟨_, rfl⟩
  | inventory crud =>
      cases crud with
      | index | new => cases subject
      | «show» | edit | delete =>
          cases subject
          simp only [dispatch, InventoryController.showAction, InventoryController.editAction,
            InventoryController.deleteAction, item rfl]
          exact ⟨_, rfl⟩
  | user crud =>
      cases crud with
      | index | new => cases subject
      | «show» | edit | delete =>
          cases subject
          simp only [dispatch, UserController.showAction, UserController.editAction,
            UserController.deleteAction, user rfl]
          exact ⟨_, rfl⟩
  | named kind crud =>
      cases crud with
      | index | new => cases subject
      | «show» | edit | delete =>
          cases subject
          simp only [dispatch, NamedController.showAction, NamedController.editAction,
            NamedController.deleteAction, named kind rfl]
          exact ⟨_, rfl⟩
  | account | homepage | filter | downloadUser | downloadAdmin | login | rentShow | reportsIndex
  | report | reservationIndex | reservationNew | reservationNotify | requestIndex | requestAdmin
  | logout => cases subject

/-- Neither logins nor logouts are about a row. -/
theorem passage_of_subject {req : Request} {route : Route} {args : List (List Char)}
    (fits : matchRoute req.method req.path = some (route, args)) {entity : Entity}
    (subject : route.action.subject = some entity) (roles : List Role) :
    passage req roles =
      if accessGranted req.host req.path roles then .action route.action args else .denied := by
  have stays : route.action ≠ .logout := by
    intro same
    rw [same] at subject
    cases subject
  have noLogin : route.action ≠ .login := by
    intro same
    rw [same] at subject
    cases subject
  unfold passage
  simp only [fits, if_neg stays, noLogin, false_and, if_false]

/-- A request for a row that is gone fails and changes nothing. -/
theorem handle_missing (rt : Runtime) {w : World} {req : Request} {route : Route}
    {args : List (List Char)} (fits : matchRoute req.method req.path = some (route, args))
    {entity : Entity} (subject : route.action.subject = some entity)
    (gone : ¬ entity.Holds w.store.toTables (idOf rt args)) :
    (∃ e, (handle rt req w).2 = .error e) ∧ World.step rt w req = w := by
  rw [handle_result, step_eq, passage_of_subject fits subject]
  cases accessGranted req.host req.path (w.roles req.session) with
  | false => exact ⟨⟨_, rfl⟩, rfl⟩
  | true =>
      obtain ⟨e, fails⟩ := dispatch_missing rt req (w.sessions req.session) subject gone
      simp only [if_true, fails]
      refine ⟨⟨e, rfl⟩, ?_⟩
      simp only [Closet.after, Outcome.raise, List.append_nil]

/-- A link leads to the row it was shown for as long as this row is there, whatever
    happens in between. After that it leads to an error and changes nothing. -/
theorem stale_links (rt : Runtime) {w : World} {req : Request} {response : Response}
    (elsewhere : ¬ IsLocalhost req.host) (answered : (handle rt req w).2 = .ok response)
    {link : Link} (shown : link ∈ response.links ((w.step rt req).sessions req.session)) :
    ∃ path route args, link.url = some path ∧ matchRoute link.method path = some (route, args) ∧
      ∀ (later : List Request) (next : Request), next.method = link.method → next.path = path →
        (∀ entity, route.action.subject = some entity →
          ∀ v ∈ Run.states (World.step rt) (w.step rt req) later,
            entity.Holds v.store.toTables (idOf rt args)) ∨
        ((∃ e, (handle rt next (Run.final (World.step rt) (w.step rt req) later)).2 = .error e) ∧
          World.step rt (Run.final (World.step rt) (w.step rt req) later) next =
            Run.final (World.step rt) (w.step rt req) later) := by
  obtain ⟨origin, declared, faithful, granted⟩ := answered_faithful elsewhere answered
  obtain ⟨path, route, args, lands⟩ := link_lands rt declared faithful granted shown
  refine ⟨path, route, args, lands.url, lands.fits, fun later next method there => ?_⟩
  have fits : matchRoute next.method next.path = some (route, args) := by
    rw [method, there]
    exact lands.fits
  cases subject : route.action.subject with
  | none => exact .inl nofun
  | some entity =>
      by_cases still : entity.Holds
        (Run.final (World.step rt) (w.step rt req) later).store.toTables (idOf rt args)
      · refine .inl fun other same => ?_
        obtain rfl := Option.some.inj same
        exact holds_throughout rt (lands.found entity subject) still
      · exact .inr (handle_missing rt fits subject still)

/-- Ann is signed in. -/
def World.sampleAnn : World := World.sample.setSession 0 (some .sampleAdmin)

/-- She deletes the hood. -/
def Request.deleteHood : Request :=
  { Request.visit 0 .delete "/admin/inv/3" with payload := [("form", ⟨true, []⟩)] }

/-- A visitor who has seen the hood on the homepage can no longer ask for it. -/
theorem stale_links_sample :
    let gone := Run.final (World.step .sample) (World.sampleAnn.step .sample (.visit 1 .get "/"))
      [.deleteHood]
    (∃ e, (handle .sample (.visit 1 .get "/rent/3") gone).2 = .error e) ∧
      World.step .sample gone (.visit 1 .get "/rent/3") = gone := by
  intro gone
  let page := Response.render "default/index.html.twig"
    (.itemsWithMessage Store.sample.inventory.rows none)
  have answered : (handle .sample (.visit 1 .get "/") .sampleAnn).2 = .ok page := rfl
  have shown : (⟨.get, .route "rent_item" (some (digits 3))⟩ : Link) ∈ page.links none := by decide
  obtain ⟨path, route, args, url, fits, follows⟩ :=
    stale_links .sample (by decide) answered shown
  have there : path = "/rent/3" := Option.some.inj (url.symm.trans (by decide))
  subst there
  have leads : (matchRoute .get "/rent/3").map (fun fit => (fit.1.action, idOf .sample fit.2)) =
      some (.rentItem, 3) := by
    decide
  rw [fits, Option.map_some, Option.some.injEq, Prod.mk.injEq] at leads
  rcases follows [.deleteHood] (.visit 1 .get "/rent/3") rfl rfl with still | fails
  · have holds := still .inventory (by rw [leads.1]; rfl) gone (Run.final_mem_states _ _ _)
    rw [leads.2] at holds
    obtain ⟨row, found⟩ := holds
    have missing : gone.store.inventory.find 3 = none := by decide
    rw [missing] at found
    cases found
  · exact fails

end WuRegalia
