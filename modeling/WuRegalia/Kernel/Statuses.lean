import WuRegalia.Kernel.Effect

/-! # The statuses the code knows by name

Five statuses are looked up by a literal name, in pages, logins, rents, returns,
reports and requests. The same statuses can be renamed and deleted like any
other, by the administrators' form. The names stand exactly as long as nobody
does that to one of the five.
-/

namespace WuRegalia

open Relational

/-- The names statuses are looked up by. -/
def reliedOn : List String :=
  ["AVAL", "RENTED", "PENDING_DONATION", "PENDING_SPECIAL", "PENDING_ARRIVAL"]

/-- The names lead to the keys they led to at the start. -/
def NamesKept (start now : Tables) : Prop :=
  ∀ name ∈ reliedOn, now.findStatus name = start.findStatus name

/-- What an item is to the code: the name that leads to its status. -/
def effectiveState (t : Tables) (item : Inventory) : Option String :=
  reliedOn.find? (fun name => t.findStatus name = some item.itemStatus)

/-- No lookup of a status comes back empty where its result is used: as the receiver
    of a call, or for a parameter that takes no null. -/
structure LookupsServed (rt : Runtime) (s : Store) : Prop where
  homepage : (DefaultController.indexAction s).result ≠ .error .nullDereference
  filter : ∀ filter, (DefaultController.filterAction rt filter s).result ≠ .error .nullDereference
  login : (LoginController.loginAction s).result ≠ .error .nullDereference
  inventory : (InventoryController.indexAction s).result ≠ .error .nullDereference
  rentShow : ∀ account, (RentController.showAction (some account) s).result ≠ .error .nullDereference
  reports : ∀ report id, (dispatchReport report id s).result ≠ .error .nullDereference
  refusal : ∀ account id now, (s.findUser account.username).isSome →
    (RentController.rentAction rt (some account) id now s).result ≠ .error .nullDereference
  rent : ∀ sessionUser id now,
    (RentController.rentAction rt sessionUser id now s).result ≠ .error .typeError
  «return» : ∀ id, (ReservationController.deleteAction id s).result ≠ .error .typeError
  submission : ∀ kind account method payload, (s.findUser account.username).isSome →
    (RequestController.indexAction kind rt (some account) method payload s).result ≠ .error .typeError
  accept : ∀ kind sessionUser id,
    (RequestController.adminChangeStatusAction kind rt sessionUser id s).result ≠ .error .typeError

/-- The names stand: they are there under their keys, no lookup of them fails, and
    an item that keeps its status is to the code what it was. -/
structure StatusesStand (rt : Runtime) (start now : Store) : Prop where
  kept : NamesKept start.toTables now.toTables
  served : LookupsServed rt now
  state : ∀ item, effectiveState now.toTables item = effectiveState start.toTables item

/-- The request leaves the five names where they are: an accepted edit of one of
    the five keeps its name, and none of the five is deleted. A name that another
    status has, and a status that an item has, the database protects. -/
def KeepsStatuses (rt : Runtime) (w : World) (req : Request) : Prop :=
  match passage req (w.roles req.session) with
  | .action (.named .status .edit) args =>
      ∀ old ∈ w.store.status.find (idOf rt args),
        ∀ row ∈ StatusType.submitted req.method req.payload,
          old.name ∈ reliedOn → row.name = old.name ∨ w.store.StatusTaken (idOf rt args) row
  | .action (.named .status .delete) args =>
      DeleteForm.submitted req.method req.payload = true →
        ∀ old ∈ w.store.status.find (idOf rt args),
          old.name ∈ reliedOn → w.store.StatusUsed (idOf rt args)
  | _ => True

section Lookups

variable {rt : Runtime} {s : Store}

theorem listed_of_present {t : Tables} (aval : t.findStatus "AVAL" ≠ none) :
    ∃ rows, DefaultController.listed t = some rows := by
  obtain ⟨status, found⟩ := Option.ne_none_iff_exists'.mp aval
  exact ⟨_, by rw [DefaultController.listed, found]; rfl⟩

theorem showByStatus_served {name template : String} (there : s.findStatus name ≠ none) :
    (ReportsController.showByStatus name template s).result ≠ .error .nullDereference := by
  obtain ⟨status, found⟩ := Option.ne_none_iff_exists'.mp there
  simp [ReportsController.showByStatus, found, Outcome.answer]

theorem dispatchReport_served (present : ∀ name ∈ reliedOn, s.findStatus name ≠ none)
    (report : Report) (id : Id) :
    (dispatchReport report id s).result ≠ .error .nullDereference := by
  cases report with
  | showUsers | showAdmins | showRegisteredUsers | showUserRentalHistory | showInventory
  | showUserDonationHistory | showRentalHistory =>
      intro impossible
      cases impossible
  | showAvailibleInventory => exact showByStatus_served (present _ (by decide))
  | showRentedInventory => exact showByStatus_served (present _ (by decide))
  | showDonationInventory => exact showByStatus_served (present _ (by decide))
  | showSpecialRequests => exact showByStatus_served (present _ (by decide))
  | showPendingArrivals => exact showByStatus_served (present _ (by decide))

/-- What comes after the flush of a rent dereferences nothing and passes no null. -/
theorem finish_served (rent : RentController.Rent) {e : Exception}
    (about : e = .nullDereference ∨ e = .typeError) :
    (RentController.finish rt rent).2 ≠ .error e := by
  unfold RentController.finish
  split
  · rcases about with rfl | rfl <;> simp
  · rcases about with rfl | rfl <;> exact sendMail_result (by simp) (by simp)

theorem rentAction_served (rented : s.findStatus "RENTED" ≠ none)
    (sessionUser : Option SessionUser) (id : Id) (now : DateTime) :
    (RentController.rentAction rt sessionUser id now s).result ≠ .error .typeError := by
  refine Store.proceed_result (by simp) ?_ fun rent _ => finish_served rent (.inr rfl)
  obtain ⟨status, found⟩ := Option.ne_none_iff_exists'.mp rented
  unfold RentController.load
  simp only [found]
  repeat' split
  all_goals simp

theorem rentAction_refusal_served (aval : s.findStatus "AVAL" ≠ none) {account : SessionUser}
    (row : (s.findUser account.username).isSome) (id : Id) (now : DateTime) :
    (RentController.rentAction rt (some account) id now s).result ≠ .error .nullDereference := by
  refine Store.proceed_result (by simp) ?_ fun rent _ => finish_served rent (.inl rfl)
  obtain ⟨status, found⟩ := Option.ne_none_iff_exists'.mp aval
  obtain ⟨user, located⟩ := Option.isSome_iff_exists.mp row
  unfold RentController.load
  simp only [found, located]
  repeat' split
  all_goals simp

theorem deleteAction_served (aval : s.findStatus "AVAL" ≠ none) (id : Id) :
    (ReservationController.deleteAction id s).result ≠ .error .typeError := by
  have redirects : ∀ e, redirectToRoute "reservation_index" none = .error e → e ≠ .typeError := by
    intro e fails
    unfold redirectToRoute at fails
    split at fails <;> cases fails
    simp
  refine Store.proceed_result (by simp) ?_ fun _ _ same => redirects _ same rfl
  obtain ⟨status, found⟩ := Option.ne_none_iff_exists'.mp aval
  unfold ReservationController.load
  simp only [found]
  repeat' split
  all_goals simp_all

theorem mailToUser_served (account : SessionUser) (text : String × (Id → MailBody)) (id : Id)
    (response : Response) :
    (RequestController.mailToUser rt (some account) text id (.ok response)).2 ≠ .error .typeError :=
  sendMail_result (by simp) (by simp)

theorem submission_served {kind : RequestKind}
    (pending : s.findStatus (RequestController.texts kind).pending ≠ none) {account : SessionUser}
    (row : (s.findUser account.username).isSome) (method : Method) (payload : Payload) :
    (RequestController.indexAction kind rt (some account) method payload s).result ≠
      .error .typeError := by
  obtain ⟨status, found⟩ := Option.ne_none_iff_exists'.mp pending
  obtain ⟨user, located⟩ := Option.isSome_iff_exists.mp row
  unfold RequestController.indexAction RequestController.owner
  simp only [found, located, Option.map_some]
  split
  · split
    · exact Store.persist_result (by simp) fun _ => mailToUser_served account _ _ _
    · simp [Outcome.answer]
  · simp [Outcome.answer]

theorem accept_served (arrival : s.findStatus "PENDING_ARRIVAL" ≠ none) (kind : RequestKind)
    (sessionUser : Option SessionUser) (id : Id) :
    (RequestController.adminChangeStatusAction kind rt sessionUser id s).result ≠
      .error .typeError := by
  obtain ⟨status, found⟩ := Option.ne_none_iff_exists'.mp arrival
  refine Store.proceed_result (by simp) ?_ fun accept _ => ?_
  · unfold RequestController.loadAccept
    cases s.inventory.find id <;> simp [found]
  · cases sessionUser with
    | none => simp [RequestController.finishAccept, RequestController.mailToUser]
    | some account => exact mailToUser_served account _ _ _

theorem lookupsServed_of_present (present : ∀ name ∈ reliedOn, s.findStatus name ≠ none) :
    LookupsServed rt s := by
  have aval : s.findStatus "AVAL" ≠ none := present _ (by decide)
  obtain ⟨status, found⟩ := Option.ne_none_iff_exists'.mp aval
  obtain ⟨rows, listed⟩ := listed_of_present aval
  constructor
  case homepage => simp [DefaultController.indexAction, listed, Outcome.answer]
  case filter => simp [DefaultController.filterAction, listed, Outcome.answer]
  case login => simp [LoginController.loginAction, listed, Outcome.answer]
  case inventory => simp [InventoryController.indexAction, found, Outcome.answer]
  case rentShow => simp [RentController.showAction, found, Outcome.answer]
  case reports => exact dispatchReport_served present
  case refusal => exact fun account id now row => rentAction_refusal_served aval row id now
  case rent => exact rentAction_served (present _ (by decide))
  case «return» => exact deleteAction_served aval
  case submission =>
    intro kind account method payload row
    refine submission_served (present _ ?_) row method payload
    cases kind <;> decide
  case accept => exact accept_served (present _ (by decide))

end Lookups

section Names

variable {start : Tables} {s : Store}

theorem present_of_kept {t : Tables} (kept : NamesKept start t)
    (present : ∀ name ∈ reliedOn, start.findStatus name ≠ none) :
    ∀ name ∈ reliedOn, t.findStatus name ≠ none := by
  intro name known
  rw [kept name known]
  exact present name known

/-- Rows under the names are enough for the names to be kept. -/
theorem namesKept_of_rows {t u : Tables} (kept : NamesKept start t)
    (present : ∀ name ∈ reliedOn, start.findStatus name ≠ none) (valid : u.Valid)
    (rows : ∀ id status, status.name ∈ reliedOn → t.status.find id = some status →
      ∃ after, u.status.find id = some after ∧ after.name = status.name) : NamesKept start u := by
  intro name known
  obtain ⟨id, found⟩ := Option.ne_none_iff_exists'.mp (present name known)
  obtain ⟨status, row, rfl⟩ := Tables.findStatus_some ((kept name known).trans found)
  rw [found]
  exact valid.findStatus_iff.mpr (rows id status known row)

/-- Inserting a status takes no name from another. -/
theorem namesKept_newAction (kept : NamesKept start s.toTables)
    (present : ∀ name ∈ reliedOn, start.findStatus name ≠ none) (method : Method)
    (payload : Payload) :
    NamesKept start (NamedController.newAction .status method payload s).store.toTables := by
  simp only [NamedController.newAction, FormType.save_store]
  split
  · rename_i row accepted
    apply (Store.committed_iff kept).mpr
    intro applied
    apply namesKept_of_rows kept present applied
    intro id status _ found
    exact ⟨status, Table.find_insert_old found, rfl⟩
  · exact kept

/-- The names are kept by an edit that goes through exactly when it does not rename
    one of the five. -/
theorem namesKept_updateStatus (kept : NamesKept start s.toTables)
    (present : ∀ name ∈ reliedOn, start.findStatus name ≠ none) {id : Id} {old row : Status}
    (found : s.status.find id = some old) (applied : (s.updateStatus id row).Valid) :
    NamesKept start (s.updateStatus id row) ↔ (old.name ∈ reliedOn → row.name = old.name) := by
  have changed : (s.updateStatus id row).status.find id = some row := by
    simp [Tables.updateStatus, Table.find_update, found]
  constructor
  · intro after known
    have before : start.findStatus old.name = some id :=
      (kept _ known).symm.trans (s.valid.findStatus_iff.mpr ⟨old, found, rfl⟩)
    obtain ⟨status, there, same⟩ := Tables.findStatus_some ((after _ known).trans before)
    rw [changed] at there
    exact Option.some.inj there ▸ same
  · intro guard
    apply namesKept_of_rows kept present applied
    intro other status known there
    by_cases here : other = id
    · subst here
      obtain rfl := Option.some.inj (found.symm.trans there)
      exact ⟨row, changed, guard known⟩
    · refine ⟨status, ?_, rfl⟩
      simp only [Tables.updateStatus, Table.find_update, if_neg here, there]

theorem namesKept_deleteStatus (kept : NamesKept start s.toTables)
    (present : ∀ name ∈ reliedOn, start.findStatus name ≠ none) {id : Id} {old : Status}
    (found : s.status.find id = some old) (applied : (s.deleteStatus id).Valid) :
    NamesKept start (s.deleteStatus id) ↔ old.name ∉ reliedOn := by
  constructor
  · intro after known
    have before : start.findStatus old.name = some id :=
      (kept _ known).symm.trans (s.valid.findStatus_iff.mpr ⟨old, found, rfl⟩)
    obtain ⟨status, there, -⟩ := Tables.findStatus_some ((after _ known).trans before)
    simp [Tables.deleteStatus, Table.find_delete] at there
  · intro unknown
    apply namesKept_of_rows kept present applied
    intro other status known there
    refine ⟨status, ?_, rfl⟩
    have apart : other ≠ id := by
      intro here
      subst here
      obtain rfl := Option.some.inj (found.symm.trans there)
      exact unknown known
    simp only [Tables.deleteStatus, Table.find_delete, if_neg apart, there]

theorem namesKept_editAction (kept : NamesKept start s.toTables)
    (present : ∀ name ∈ reliedOn, start.findStatus name ≠ none) (method : Method)
    (payload : Payload) (id : Id) :
    NamesKept start (NamedController.editAction .status method payload id s).store.toTables ↔
      ∀ old ∈ s.status.find id, ∀ row ∈ StatusType.submitted method payload,
        old.name ∈ reliedOn → row.name = old.name ∨ s.StatusTaken id row := by
  rw [NamedController.editAction_iff (P := NamesKept start) kept]
  refine forall₂_congr fun old found => forall₂_congr fun row _ => ?_
  have valid := s.valid.updateStatus found row
  constructor
  · intro after known
    by_cases taken : s.StatusTaken id row
    · exact .inr taken
    · have applied := valid.mpr taken
      exact .inl ((namesKept_updateStatus kept present found applied).mp (after applied) known)
  · intro guard applied
    apply (namesKept_updateStatus kept present found applied).mpr
    exact fun known => (guard known).resolve_right (valid.mp applied)

theorem namesKept_deleteAction (kept : NamesKept start s.toTables)
    (present : ∀ name ∈ reliedOn, start.findStatus name ≠ none) (method : Method)
    (payload : Payload) (id : Id) :
    NamesKept start (NamedController.deleteAction .status method payload id s).store.toTables ↔
      (DeleteForm.submitted method payload = true → ∀ old ∈ s.status.find id,
        old.name ∈ reliedOn → s.StatusUsed id) := by
  rw [NamedController.deleteAction_iff (P := NamesKept start) kept]
  refine forall_congr' fun _ => forall₂_congr fun old found => ?_
  have valid := s.valid.deleteStatus id
  constructor
  · intro after known
    by_contra unused
    have applied := valid.mpr unused
    exact (namesKept_deleteStatus kept present found applied).mp (after applied) known
  · intro guard applied
    apply (namesKept_deleteStatus kept present found applied).mpr
    exact fun known => valid.mp applied (guard known)

/-- Whatever else is asked for keeps the names. -/
theorem namesKept_dispatch (kept : NamesKept start s.toTables)
    (present : ∀ name ∈ reliedOn, start.findStatus name ≠ none) {rt : Runtime} {action : Action}
    (edit : action ≠ .named .status .edit) (delete : action ≠ .named .status .delete)
    (args : List (List Char)) (req : Request) (sessionUser : Option SessionUser) :
    NamesKept start (dispatch rt action args req sessionUser s).store.toTables := by
  by_cases crud : ∃ crud, action = .named .status crud
  · obtain ⟨crud, rfl⟩ := crud
    cases crud with
    | edit => exact absurd rfl edit
    | delete => exact absurd rfl delete
    | index | «show» =>
        rw [dispatch_of_not_writes (by rfl)]
        exact kept
    | new => exact namesKept_newAction kept present req.method req.payload
  · have frame := dispatch_status rt (fun c same => crud ⟨c, same⟩) args req sessionUser s
    intro name known
    rw [← kept name known]
    unfold Tables.findStatus
    rw [frame]

end Names

theorem LoginWrites.status {s u : Store} (writes : LoginWrites s u) : u.status = s.status := by
  cases writes with
  | nothing => rfl
  | added row after ordinary => rw [after, Tables.insertUser]

theorem namesKept_step (rt : Runtime) {start : Tables} {w : World}
    (kept : NamesKept start w.store.toTables)
    (present : ∀ name ∈ reliedOn, start.findStatus name ≠ none) (req : Request) :
    NamesKept start (World.step rt w req).store.toTables ↔ KeepsStatuses rt w req := by
  rw [step_eq]
  unfold KeepsStatuses
  cases passage req (w.roles req.session) with
  | noRoute | denied | logout => exact iff_of_true kept trivial
  | login =>
      refine iff_of_true ?_ trivial
      have writes := attemptAuthentication_writes req.directory w.store req.now req.credentials
      have frame : (login req w).1.store.status = w.store.status := login_store req w ▸ writes.status
      intro name known
      rw [← kept name known]
      unfold Tables.findStatus
      rw [frame]
  | action action args =>
      simp only
      split
      · rename_i same
        cases same
        exact namesKept_editAction kept present req.method req.payload (idOf rt args)
      · rename_i same
        cases same
        exact namesKept_deleteAction kept present req.method req.payload (idOf rt args)
      · rename_i edit delete
        refine iff_of_true ?_ trivial
        exact namesKept_dispatch kept present (fun same => edit args (same ▸ rfl))
          (fun same => delete args (same ▸ rfl)) args req (w.sessions req.session)

theorem statusesStand_iff {rt : Runtime} {start now : Store}
    (present : ∀ name ∈ reliedOn, start.findStatus name ≠ none) :
    StatusesStand rt start now ↔ NamesKept start.toTables now.toTables := by
  constructor
  · exact StatusesStand.kept
  · intro kept
    refine ⟨kept, lookupsServed_of_present (present_of_kept kept present), fun item => ?_⟩
    unfold effectiveState
    refine List.find?_congr fun name known => ?_
    rw [kept name known]

/-- From a store with the five statuses, the names stand in every state of a run,
    exactly when no request of the run renames or deletes one of the five. -/
theorem statusesStand_run (rt : Runtime) {w : World}
    (present : ∀ name ∈ reliedOn, w.store.findStatus name ≠ none) (requests : List Request) :
    (∀ t ∈ Run.states (World.step rt) w requests, StatusesStand rt w.store t.store) ↔
      ∀ move ∈ Run.steps (World.step rt) w requests, KeepsStatuses rt move.1 move.2 := by
  simp only [statusesStand_iff present]
  exact Run.exact_guard (fun t : World => NamesKept w.store.toTables t.store.toTables)
    (fun _ => True) (KeepsStatuses rt) (fun _ _ _ _ _ => trivial)
    (fun t req kept _ => namesKept_step rt kept present req) (fun _ _ => rfl) trivial

theorem keepsStatuses_of_no_form {rt : Runtime} {w : World} {req : Request}
    (edit : StatusType.submitted req.method req.payload = none)
    (delete : DeleteForm.submitted req.method req.payload = false) :
    KeepsStatuses rt w req := by
  unfold KeepsStatuses
  split
  · intro old _ row accepted
    simp [edit] at accepted
  · simp [delete]
  · trivial

/-- The form of statuses, filled in. -/
def statusForm (name : String) : Payload := [("status", ⟨true, [("name", .text name)]⟩)]

/-- Ann signs in, adds a status and renames it. -/
theorem statusesStand_run_sample :
    (∀ name ∈ reliedOn, World.sample.store.findStatus name ≠ none) ∧
      ∀ t ∈ Run.states (World.step .sample) .sample
        [.signIn 0 "smitha", .post 0 "/admin/status/new" (statusForm "LOST"),
          .post 0 "/admin/status/6/edit" (statusForm "MISSING")],
        StatusesStand .sample World.sample.store t.store := by
  have present : ∀ name ∈ reliedOn, World.sample.store.findStatus name ≠ none := by decide
  refine ⟨present, (statusesStand_run .sample present _).mpr ?_⟩
  simp only [Run.steps, List.forall_mem_cons, List.not_mem_nil, false_imp_iff, implies_true,
    and_true]
  refine ⟨?_, ?_, ?_⟩
  · exact keepsStatuses_of_no_form (by decide) (by decide)
  · let new : Request := .post 0 "/admin/status/new" (statusForm "LOST")
    generalize signedIn : World.step .sample .sample (.signIn 0 "smitha") = w
    have adds : passage new (w.roles new.session) = .action (.named .status .new) [] := by
      rw [← signedIn]
      decide
    unfold KeepsStatuses
    rw [adds]
    trivial
  · let edit : Request := .post 0 "/admin/status/6/edit" (statusForm "MISSING")
    generalize added : World.step .sample (World.step .sample .sample (.signIn 0 "smitha"))
      (.post 0 "/admin/status/new" (statusForm "LOST")) = w
    have edits : passage edit (w.roles edit.session) =
        .action (.named .status .edit) ["6".toList] := by
      rw [← added]
      decide
    have there : w.store.status.find 6 = some ⟨"LOST"⟩ := by
      rw [← added]
      decide
    unfold KeepsStatuses
    rw [edits]
    intro old found row _ known
    cases there.symm.trans found
    exact absurd known (by decide)

/-- Ann renames the first status, and no lookup finds it. -/
theorem renamed_status_is_lost : ¬ ∀ (rt : Runtime) (w : World) (requests : List Request),
    (∀ name ∈ reliedOn, w.store.findStatus name ≠ none) →
      ∀ t ∈ Run.states (World.step rt) w requests, StatusesStand rt w.store t.store := by
  intro claim
  let requests : List Request :=
    [.signIn 0 "smitha", .post 0 "/admin/status/1/edit" (statusForm "AVAILABLE")]
  have stand := claim .sample .sample requests (by decide)
    (Run.final (World.step .sample) .sample requests) (by simp [requests, Run.states])
  have lost : (Run.final (World.step .sample) .sample requests).store.findStatus "AVAL" = none := by
    decide
  have kept := stand.kept "AVAL" (by decide)
  rw [lost] at kept
  exact absurd kept (by decide)

end WuRegalia
