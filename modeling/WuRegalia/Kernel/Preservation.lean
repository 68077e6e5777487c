import WuRegalia.Kernel.Effect

/-! # Properties every write keeps

The induction rule for properties of the tables, whatever the request: each write of the
application has to keep the property, and the items that come from forms are known to have
the texts that were submitted.
-/

namespace WuRegalia

/-- The texts of the item are those of a submission and pass its checks. -/
structure Submission.Describes (s : Submission) (row : Inventory) : Prop where
  description : (s.text "itemDescription").get? = some row.itemDescription
  described : describes (s.text "itemDescription") = true
  size : (s.text "itemSize").get? = row.itemSize
  sized : sizes (s.text "itemSize") = true

def Payload.Describes (payload : Payload) (row : Inventory) : Prop :=
  ∃ sent ∈ payload, sent.2.Describes row

theorem mem_of_handle {payload : Payload} {name : String} {configured method : Method}
    {s : Submission} (handled : payload.handle name configured method = some s) :
    (name, s) ∈ payload := by
  unfold Payload.handle at handled
  split at handled
  · obtain ⟨before, after, split, -⟩ := List.lookup_eq_some_iff.mp handled
    rw [split]
    exact List.mem_append_right before List.mem_cons_self
  · cases handled

/-- An item an administrator creates or edits. -/
theorem describes_of_inventory {t : Tables} {method : Method} {payload : Payload} {row : Inventory}
    (accepted : (InventoryType t).submitted method payload = some row) : payload.Describes row := by
  obtain ⟨s, handled, valid, built⟩ := FormType.submitted_some accepted
  simp only [InventoryType, InventoryForm.isValid, InventoryForm.read, RequestForm.read,
    Bool.and_eq_true] at valid
  simp only [InventoryType, InventoryForm.row, InventoryForm.read, RequestForm.read,
    Option.bind_eq_bind, Option.bind_eq_some_iff, Option.pure_def, Option.some.injEq] at built
  obtain ⟨status, -, type, -, color, -, school, -, major, -, description, text, rfl⟩ := built
  exact ⟨_, mem_of_handle handled, text, valid.2, rfl, valid.1.2⟩

/-- An item a user submits. -/
theorem describes_of_request {kind : RequestKind} {sessionUser : Option SessionUser} {t : Tables}
    {method : Method} {payload : Payload} {row : Inventory}
    (accepted : RequestController.submitted kind sessionUser t method payload = some row) :
    payload.Describes row := by
  unfold RequestController.submitted at accepted
  split at accepted
  · rename_i s handled
    split at accepted
    · rename_i valid
      split at accepted
      · simp only [RequestForm.isValid, RequestForm.read, Bool.and_eq_true] at valid
        simp only [RequestForm.row, RequestForm.read, Option.bind_eq_bind, Option.bind_eq_some_iff,
          Option.pure_def, Option.some.injEq] at accepted
        obtain ⟨type, -, color, -, school, -, major, -, description, text, rfl⟩ := accepted
        exact ⟨_, mem_of_handle handled, text, valid.2, rfl, valid.1.2⟩
      · cases accepted
    · cases accepted
  · cases accepted

/-- Every write of a request with this payload keeps the property. -/
structure Preserved (payload : Payload) (P : Tables → Prop) : Prop where
  insertInventory : ∀ {t row}, payload.Describes row → P t → P (t.insertInventory row)
  updateInventory : ∀ {t row} (id), payload.Describes row → P t → P (t.updateInventory id row)
  changeItemStatus : ∀ {t} (id loaded status), P t → P (t.changeItemStatus id loaded status)
  deleteInventory : ∀ {t} (id), P t → P (t.deleteInventory id)
  insertReservation : ∀ {t} (row), P t → P (t.insertReservation row)
  updateReservation : ∀ {t} (id row), P t → P (t.updateReservation id row)
  deleteReservation : ∀ {t} (id), P t → P (t.deleteReservation id)
  insertUser : ∀ {t} (row), P t → P (t.insertUser row)
  updateUser : ∀ {t} (id row), P t → P (t.updateUser id row)
  deleteUser : ∀ {t} (id), P t → P (t.deleteUser id)
  insertNamed : ∀ {t} (kind row), P t →
    P (NamedController.set t kind ((NamedController.get t kind).insert row))
  updateNamed : ∀ {t} (kind id row), P t →
    P (NamedController.set t kind ((NamedController.get t kind).update id fun _ => row))
  deleteNamed : ∀ {t} (kind id), P t →
    P (NamedController.set t kind ((NamedController.get t kind).delete id))

section Rule

variable {payload : Payload} {P : Tables → Prop} {s : Store}

theorem committed_preserved {write : Tables → Tables} (before : P s.toTables)
    (keeps : P s.toTables → P (write s.toTables)) : P (s.committed write).toTables :=
  (Store.committed_iff before).mpr fun _ => keeps before

theorem proceed_preserved {π : Type} {loaded : Loaded π} {write : π → Tables → Tables}
    {next : π → Store → List Mail × Except Exception Response} (before : P s.toTables)
    (keeps : ∀ p, P s.toTables → P (write p s.toTables)) :
    P (s.proceed loaded write next).store.toTables := by
  rw [Store.proceed_store]
  split
  · exact committed_preserved before (keeps _)
  · exact before

theorem save_preserved {α : Type} {form : FormType α} {method : Method}
    {write : α → Tables → Tables} {saved : Except Exception Response} {page : Response}
    (before : P s.toTables)
    (keeps : ∀ row, form.submitted method payload = some row → P s.toTables →
      P (write row s.toTables)) :
    P (form.save method payload write saved page s).store.toTables := by
  rw [FormType.save_store]
  split
  · rename_i row accepted
    exact committed_preserved before (keeps row accepted)
  · exact before

theorem deleteEntity_preserved {method : Method} {redirect : Except Exception Response}
    {remove : Tables → Tables} (before : P s.toTables)
    (keeps : P s.toTables → P (remove s.toTables)) :
    P (deleteEntity method payload redirect remove s).store.toTables := by
  rw [deleteEntity_store]
  split
  · exact committed_preserved before keeps
  · exact before

/-- Actions keep what every write keeps. -/
theorem dispatch_preserved (rt : Runtime) (action : Action) (args : List (List Char))
    {req : Request} (sessionUser : Option SessionUser) (preserved : Preserved req.payload P)
    (before : P s.toTables) :
    P (dispatch rt action args req sessionUser s).store.toTables := by
  cases writes : action.writes with
  | false => rwa [dispatch_of_not_writes writes]
  | true =>
      cases action with
      | rentItem =>
          exact proceed_preserved before fun rent here =>
            preserved.insertReservation _ (preserved.changeItemStatus _ _ _ here)
      | reservationDelete =>
          exact proceed_preserved before fun ret here =>
            preserved.deleteReservation _ (preserved.changeItemStatus _ _ _ here)
      | requestAccept kind =>
          exact proceed_preserved before fun accept => preserved.changeItemStatus _ _ _
      | requestReject kind =>
          exact proceed_preserved before fun reject => preserved.deleteInventory _
      | requestIndex kind =>
          simp only [dispatch, RequestController.indexAction_store]
          split
          · rename_i row accepted
            exact committed_preserved before
              (preserved.insertInventory (describes_of_request accepted))
          · exact before
      | reservationNew =>
          exact save_preserved before fun row _ => preserved.insertReservation row
      | reservationEdit =>
          simp only [dispatch, ReservationController.editAction_store]
          split
          · exact committed_preserved before (preserved.updateReservation _ _)
          · exact before
      | inventory crud =>
          cases crud with
          | index | «show» => cases writes
          | new =>
              exact save_preserved before fun row accepted =>
                preserved.insertInventory (describes_of_inventory accepted)
          | edit =>
              simp only [dispatch, InventoryController.editAction]
              split
              · exact before
              · split
                · exact before
                · exact save_preserved before fun row accepted =>
                    preserved.updateInventory _ (describes_of_inventory accepted)
          | delete =>
              simp only [dispatch, InventoryController.deleteAction]
              split
              · exact before
              · exact deleteEntity_preserved before (preserved.deleteInventory _)
      | user crud =>
          cases crud with
          | index | «show» => cases writes
          | new => exact save_preserved before fun row _ => preserved.insertUser row
          | edit =>
              simp only [dispatch, UserController.editAction]
              split
              · exact before
              · exact save_preserved before fun row _ => preserved.updateUser _ row
          | delete =>
              simp only [dispatch, UserController.deleteAction]
              split
              · exact before
              · exact deleteEntity_preserved before (preserved.deleteUser _)
      | named kind crud =>
          cases crud with
          | index | «show» => cases writes
          | new =>
              exact save_preserved before fun row _ => preserved.insertNamed kind row
          | edit =>
              simp only [dispatch, NamedController.editAction]
              split
              · exact before
              · exact save_preserved before fun row _ => preserved.updateNamed kind _ row
          | delete =>
              simp only [dispatch, NamedController.deleteAction]
              split
              · exact before
              · exact deleteEntity_preserved before (preserved.deleteNamed kind _)
      | account | homepage | filter | downloadUser | downloadAdmin | login | rentShow | reportsIndex
      | report | reservationIndex | reservationNotify | requestAdmin | logout => cases writes

/-- So does every request. -/
theorem step_preserved (rt : Runtime) {w : World} {req : Request}
    (preserved : Preserved req.payload P) (before : P w.store.toTables) :
    P (World.step rt w req).store.toTables := by
  rw [step_eq]
  split
  · exact before
  · exact before
  · exact before
  · rw [login_store]
    have writes := attemptAuthentication_writes req.directory w.store req.now req.credentials
    generalize (attemptAuthentication req.directory w.store req.now req.credentials).1 = u at writes ⊢
    cases writes with
    | nothing => exact before
    | added row after ordinary =>
        rw [after]
        exact preserved.insertUser row before
  · exact dispatch_preserved rt _ _ _ preserved before

/-- And a run keeps what each of its requests keeps. -/
theorem run_preserved (rt : Runtime) {w : World} {requests : List Request}
    (preserved : ∀ req ∈ requests, Preserved req.payload P) (before : P w.store.toTables) :
    ∀ v ∈ Run.states (World.step rt) w requests, P v.store.toTables :=
  Run.invariant_states (fun v : World => P v.store.toTables) before fun _ req move =>
    step_preserved rt (preserved req (Run.event_of_mem_steps _ move))

end Rule

end WuRegalia
