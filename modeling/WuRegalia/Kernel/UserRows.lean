import WuRegalia.Kernel.Effect

/-! # The rows behind live sessions

A session is started from a row of the user table, and the row can be edited or
deleted while the session lives. For a kind of sessions and a test of rows, every
live session of the kind keeps a row that passes exactly as long as nobody edits
or deletes the row of one of them.
-/

namespace WuRegalia

open Relational

/-- A row of the name passes the test. -/
def RowWith (test : User → Bool) (t : Tables) (username : String) : Prop :=
  ∃ row ∈ t.user.rows, row.2.username = username ∧ test row.2 = true

section RowWith

variable {test : User → Bool} {t : Tables} {username : String}

theorem rowWith_iff :
    RowWith test t username ↔
      ∃ id user, t.user.find id = some user ∧ user.username = username ∧ test user = true := by
  simp only [RowWith, Prod.exists, Table.mem_rows_iff]

theorem rowWith_insertUser {row : User} (before : RowWith test t username) :
    RowWith test (t.insertUser row) username := by
  obtain ⟨entry, there, facts⟩ := before
  exact ⟨entry, List.mem_append_left _ there, facts⟩

/-- Editing a row decides about the names it had and gets, and about no others. -/
theorem rowWith_updateUser (valid : t.Valid) {id : Id} {old row : User}
    (found : t.user.find id = some old) :
    RowWith test (t.updateUser id row) username ↔
      (row.username = username ∧ test row = true) ∨
        (old.username ≠ username ∧ RowWith test t username) := by
  rw [rowWith_iff, rowWith_iff]
  simp only [Tables.updateUser, Table.find_update]
  constructor
  · intro after
    obtain ⟨key, user, there, named, passes⟩ := after
    split at there
    · rename_i here
      rw [here, found] at there
      obtain rfl := Option.some.inj there
      exact .inl ⟨named, passes⟩
    · rename_i apart
      refine .inr ⟨fun same => apart ?_, key, user, there, named, passes⟩
      exact valid.userUsername.eq there found (named.trans same.symm)
  · intro either
    cases either with
    | inl edited => exact ⟨id, row, by rw [if_pos rfl, found]; rfl, edited⟩
    | inr other =>
        obtain ⟨different, key, user, there, named, passes⟩ := other
        refine ⟨key, user, ?_, named, passes⟩
        have apart : key ≠ id := by
          intro here
          rw [here, found] at there
          obtain rfl := Option.some.inj there
          exact different named
        rw [if_neg apart, there]

theorem rowWith_deleteUser (valid : t.Valid) {id : Id} {old : User}
    (found : t.user.find id = some old) :
    RowWith test (t.deleteUser id) username ↔
      old.username ≠ username ∧ RowWith test t username := by
  rw [rowWith_iff, rowWith_iff]
  simp only [Tables.deleteUser, Table.find_delete]
  constructor
  · intro after
    obtain ⟨key, user, there, named, passes⟩ := after
    split at there
    · cases there
    · rename_i apart
      refine ⟨fun same => apart ?_, key, user, there, named, passes⟩
      exact valid.userUsername.eq there found (named.trans same.symm)
  · intro other
    obtain ⟨different, key, user, there, named, passes⟩ := other
    refine ⟨key, user, ?_, named, passes⟩
    have apart : key ≠ id := by
      intro here
      rw [here, found] at there
      obtain rfl := Option.some.inj there
      exact different named
    rw [if_neg apart, there]

end RowWith

theorem LoginWrites.rowWith {test : User → Bool} {s u : Store} (writes : LoginWrites s u)
    {username : String} (before : RowWith test s.toTables username) :
    RowWith test u.toTables username := by
  cases writes with
  | nothing => exact before
  | added row after ordinary =>
      rw [after]
      exact rowWith_insertUser before

/-- Another row has the address or the name of the submitted one. -/
def Taken (t : Tables) (id : Id) (row : User) : Prop :=
  ∃ other ∈ t.user.rows, other.1 ≠ id ∧
    (other.2.email = row.email ∨ other.2.username = row.username)

instance (t : Tables) (id : Id) (row : User) : Decidable (Taken t id row) :=
  inferInstanceAs (Decidable (∃ _ ∈ _, _ ∧ _))

theorem updateUser_valid {t : Tables} (valid : t.Valid) {id : Id} {old : User}
    (found : t.user.find id = some old) (row : User) :
    (t.updateUser id row).Valid ↔ ¬ Taken t id row := by
  rw [valid.updateUser found]
  simp only [Taken, Prod.exists, Table.mem_rows_iff]
  grind

/-- A live session of the kind signed in under the name. -/
def World.Named (kind : SessionUser → Prop) (w : World) (username : String) : Prop :=
  ∃ sid account, w.sessions sid = some account ∧ kind account ∧ account.username = username

/-- Every live session of the kind has a row that passes the test. -/
def World.Backed (kind : SessionUser → Prop) (test : User → Bool) (w : World) : Prop :=
  ∀ sid account, w.sessions sid = some account → kind account →
    RowWith test w.store.toTables account.username

/-- The request takes no such row from a session of the kind: an accepted edit
    leaves the name and passes, an accepted deletion is of somebody else, or the
    database rejects either. -/
def KeepsRows (rt : Runtime) (kind : SessionUser → Prop) (test : User → Bool) (w : World)
    (req : Request) : Prop :=
  match passage req (w.roles req.session) with
  | .action (.user .edit) args =>
      ∀ old ∈ w.store.user.find (idOf rt args), ∀ row ∈ UserType.submitted req.method req.payload,
        Taken w.store.toTables (idOf rt args) row ∨
          (w.Named kind old.username → row.username = old.username ∧ test row = true)
  | .action (.user .delete) args =>
      DeleteForm.submitted req.method req.payload = true →
        ∀ old ∈ w.store.user.find (idOf rt args),
          w.store.UserReferenced (idOf rt args) ∨ ¬ w.Named kind old.username
  | _ => True

section Backed

variable {kind : SessionUser → Prop} {test : User → Bool} {w : World}

theorem backed_iff :
    w.Backed kind test ↔
      ∀ username, w.Named kind username → RowWith test w.store.toTables username := by
  constructor
  · intro backed username named
    obtain ⟨sid, account, live, isKind, rfl⟩ := named
    exact backed sid account live isKind
  · intro backed sid account live isKind
    exact backed account.username ⟨sid, account, live, isKind, rfl⟩

theorem keepsRows_of_no_form {rt : Runtime} {req : Request}
    (edit : UserType.submitted req.method req.payload = none)
    (delete : DeleteForm.submitted req.method req.payload = false) :
    KeepsRows rt kind test w req := by
  unfold KeepsRows
  split
  · intro old _ row accepted
    simp [edit] at accepted
  · simp [delete]
  · trivial

/-- An edit leaves the sessions backed exactly when it does not take the row, as it
    was, from one of them. -/
theorem rows_editAction (backed : w.Backed kind test) (method : Method) (payload : Payload)
    (id : Id) :
    (∀ username, w.Named kind username →
        RowWith test (UserController.editAction method payload id w.store).store.toTables username) ↔
      ∀ old ∈ w.store.user.find id, ∀ row ∈ UserType.submitted method payload,
        Taken w.store.toTables id row ∨
          (w.Named kind old.username → row.username = old.username ∧ test row = true) := by
  have before := backed_iff.mp backed
  rw [UserController.editAction_iff
    (P := fun t => ∀ username, w.Named kind username → RowWith test t username) before]
  refine forall₂_congr fun old found => forall₂_congr fun row _ => ?_
  rw [updateUser_valid w.store.valid found, ← or_iff_not_imp_left]
  apply or_congr_right
  constructor
  · intro after named
    cases (rowWith_updateUser w.store.valid found).mp (after _ named) with
    | inl edited => exact edited
    | inr other => exact absurd rfl other.1
  · intro guard username named
    apply (rowWith_updateUser w.store.valid found).mpr
    by_cases same : old.username = username
    · subst same
      exact .inl (guard named)
    · exact .inr ⟨same, before username named⟩

theorem rows_deleteAction (backed : w.Backed kind test) (method : Method) (payload : Payload)
    (id : Id) :
    (∀ username, w.Named kind username →
        RowWith test (UserController.deleteAction method payload id w.store).store.toTables username) ↔
      (DeleteForm.submitted method payload = true → ∀ old ∈ w.store.user.find id,
        w.store.UserReferenced id ∨ ¬ w.Named kind old.username) := by
  have before := backed_iff.mp backed
  rw [UserController.deleteAction_iff
    (P := fun t => ∀ username, w.Named kind username → RowWith test t username) before]
  refine forall_congr' fun _ => forall₂_congr fun old found => ?_
  rw [w.store.valid.deleteUser id, ← or_iff_not_imp_left]
  apply or_congr_right
  constructor
  · intro after named
    exact absurd rfl ((rowWith_deleteUser w.store.valid found).mp (after _ named)).1
  · intro guard username named
    apply (rowWith_deleteUser w.store.valid found).mpr
    exact ⟨fun same => guard (same ▸ named), before username named⟩

/-- Every other action leaves the rows there. -/
theorem rowWith_dispatch {rt : Runtime} {action : Action} (edit : action ≠ .user .edit)
    (delete : action ≠ .user .delete) {args : List (List Char)} {req : Request}
    {sessionUser : Option SessionUser} {s : Store} {username : String}
    (before : RowWith test s.toTables username) :
    RowWith test (dispatch rt action args req sessionUser s).store.toTables username := by
  by_cases crud : ∃ crud, action = .user crud
  · obtain ⟨crud, rfl⟩ := crud
    cases crud with
    | edit => exact absurd rfl edit
    | delete => exact absurd rfl delete
    | index | «show» =>
        rw [dispatch_of_not_writes (by rfl)]
        exact before
    | new =>
        simp only [dispatch, UserController.newAction, FormType.save_store]
        split
        · rename_i row accepted
          apply (Store.committed_iff (P := fun t => RowWith test t username) before).mpr
          exact fun _ => rowWith_insertUser before
        · exact before
  · have frame := dispatch_user rt (fun c same => crud ⟨c, same⟩) args req sessionUser s
    unfold RowWith
    rw [frame]
    exact before

/-- One request keeps the sessions backed exactly when it takes no row from one of
    them, provided that logins of the kind leave a row that passes. -/
theorem backed_step (rt : Runtime) (backed : w.Backed kind test) (req : Request)
    (starts : ∀ account, kind account →
      (attemptAuthentication req.directory w.store req.now req.credentials).2 = .ok account →
      RowWith test (login req w).1.store.toTables account.username) :
    (World.step rt w req).Backed kind test ↔ KeepsRows rt kind test w req := by
  rw [step_eq]
  unfold KeepsRows
  cases passage req (w.roles req.session) with
  | noRoute | denied => exact iff_of_true backed trivial
  | login =>
      refine iff_of_true (fun sid account live isKind => ?_) trivial
      cases login_sessions req w live with
      | inl old =>
          have writes := attemptAuthentication_writes req.directory w.store req.now req.credentials
          rw [login_store]
          exact writes.rowWith (backed sid account old isKind)
      | inr started => exact starts account isKind started.2
  | logout =>
      refine iff_of_true (fun sid account live isKind => ?_) trivial
      simp only [World.setSession, Function.update_apply] at live
      split at live
      · cases live
      · exact backed sid account live isKind
  | action action args =>
      simp only
      split
      · rename_i same
        cases same
        rw [backed_iff]
        exact rows_editAction backed req.method req.payload (idOf rt args)
      · rename_i same
        cases same
        rw [backed_iff]
        exact rows_deleteAction backed req.method req.payload (idOf rt args)
      · rename_i edit delete
        refine iff_of_true (fun sid account live isKind => ?_) trivial
        exact rowWith_dispatch (fun same => edit args (same ▸ rfl))
          (fun same => delete args (same ▸ rfl)) (backed sid account live isKind)

end Backed

/-- Without sessions there is nothing to back; from there on, every session of a run
    stays backed exactly when no request of the run takes a row from one. -/
theorem backed_run (rt : Runtime) {kind : SessionUser → Prop} {test : User → Bool} {w : World}
    (starts : ∀ (t : World) (req : Request) (account : SessionUser), kind account →
      (attemptAuthentication req.directory t.store req.now req.credentials).2 = .ok account →
      RowWith test (login req t).1.store.toTables account.username)
    (start : w.NoSession) (requests : List Request) :
    (∀ t ∈ Run.states (World.step rt) w requests, t.Backed kind test) ↔
      ∀ move ∈ Run.steps (World.step rt) w requests, KeepsRows rt kind test move.1 move.2 := by
  have backed : w.Backed kind test := by
    intro sid account live
    simp [start sid] at live
  exact Run.exact_guard (World.Backed kind test) (fun _ => True) (KeepsRows rt kind test)
    (fun _ _ _ _ _ => trivial) (fun t req backed _ => backed_step rt backed req (starts t req))
    backed trivial

end WuRegalia
