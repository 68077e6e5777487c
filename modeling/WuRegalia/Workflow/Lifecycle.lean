import WuRegalia.Lending.OnePerType
import WuRegalia.Workflow.Stages

/-! # The life of an item

As long as decisions and rents name what the pages list, and administrators move only what
nobody has and nobody waits for, each request is one event of the collection or none. Runs
of the code are then runs of the collection, and what holds of these holds of the closet.
-/

namespace WuRegalia.Lifecycle

open Relational Circulation InventoryReports
open RequestController (undecided texts)
open InventoryController (edited)

section Requests

variable (rt : Runtime) {s : Store}

/-- What is asked for too early is not carried out. -/
theorem carries_early {e : Event Id Id Id RequestKind} (agree : s.Agree)
    (early : ¬ (view s.toTables).Due e) : Carries s s (some e) :=
  ⟨(Collection.perform_of_not_due early).symm, agree⟩

theorem carries_submit (ready : Ready s) (kind : RequestKind) (sessionUser : Option SessionUser)
    (method : Method) (payload : Payload) :
    Carries s (RequestController.indexAction kind rt sessionUser method payload s).store
      (event s (.workflow (.submit kind sessionUser method payload))) := by
  cases RequestController.indexAction_cases kind rt sessionUser method payload s with
  | inr refused =>
      obtain ⟨rejected, unchanged, -⟩ := refused
      rw [unchanged, event, rejected]
      exact .refl ready.agree
  | inl inserted =>
      obtain ⟨row, u, accepted, after, -, outcome⟩ := inserted
      obtain ⟨pending, owned, named⟩ := RequestController.submitted_some accepted
      obtain ⟨user, belongs⟩ := Option.isSome_iff_exists.mp named
      rw [outcome, event, accepted, Option.bind_some, owned, belongs, Option.map_some]
      have status : s.statusName row = some (texts kind).pending := s.valid.statusName_iff.mpr pending
      apply (touches_insert after).carries ready
      case about => rfl
      case due => exact stage_absent s.inventory.find_nextId
      case target =>
        show stageOf (s.statusName row) none = .proposed kind
        exact stageOf_proposed.mpr status
      case label => rfl
      case here =>
        rintro _ ⟨⟩
        rw [status]
        cases kind <;> decide

theorem carries_accept (ready : Ready s) {kind : RequestKind} {id : Id}
    (sessionUser : Option SessionUser) (follows : ∃ row ∈ undecided kind s.toTables, row.1 = id) :
    Carries s (RequestController.adminChangeStatusAction kind rt sessionUser id s).store
      (some (.accept kind id)) := by
  obtain ⟨old, present, pending⟩ := undecided_find follows
  have arrives := ready.present "PENDING_ARRIVAL" (by decide)
  cases RequestController.adminChangeStatusAction_cases kind rt sessionUser id s with
  | inr missing =>
      obtain ⟨missing, -⟩ := missing
      rw [present] at missing
      exact absurd (missing.resolve_left (by simp)) arrives
  | inl applied =>
      obtain ⟨item, arrival, u, found, located, after, -, outcome⟩ := applied
      obtain rfl := Option.some.inj (present.symm.trans found)
      have free : holder s.toTables id = none := by
        apply ready.unheld present
        rw [pending]
        cases kind <;> decide
      have arrived : s.statusName (old.setItemStatus arrival) = some "PENDING_ARRIVAL" :=
        s.valid.statusName_iff.mpr located
      rw [outcome]
      apply (touches_status present after).carries ready
      case about => rfl
      case due =>
        show stage s.toTables id = _
        rw [stage_of_find present]
        exact stageOf_proposed.mpr pending
      case target =>
        rw [place, arrived]
        rfl
      case label =>
        simp only [view, present]
        rfl
      case here =>
        rintro _ ⟨⟩
        rw [arrived, free]
        decide

theorem carries_reject (ready : Ready s) {kind : RequestKind} {id : Id}
    (sessionUser : Option SessionUser) (follows : ∃ row ∈ undecided kind s.toTables, row.1 = id) :
    Carries s (RequestController.adminRejectSpecialRequestAction kind rt sessionUser id s).store
      (some (.reject kind id)) := by
  obtain ⟨old, present, pending⟩ := undecided_find follows
  have free : ¬ s.Reserved id := by
    rw [← ready.rented_iff present, pending]
    cases kind <;> decide
  cases RequestController.adminRejectSpecialRequestAction_cases kind rt sessionUser id s with
  | inr missing =>
      obtain ⟨missing, -⟩ := missing
      rw [present] at missing
      exact absurd (missing.resolve_left (by simp)) free
  | inl applied =>
      obtain ⟨item, u, -, -, after, -, outcome⟩ := applied
      rw [outcome]
      apply (touches_delete free after).carries ready
      case about => rfl
      case due =>
        show stage s.toTables id = _
        rw [stage_of_find present]
        exact stageOf_proposed.mpr pending
      case target => rfl
      case label => rfl
      case here => simp

/-- A rent is due when its user holds no item of the type. -/
theorem due_borrow (ready : Ready s) {user id : Id} {item : Inventory}
    (present : s.inventory.find id = some item) (available : s.statusName item = some "AVAL") :
    (view s.toTables).Due (.borrow user id) ↔
      item.itemType ∉ RentController.types s.toTables user := by
  have shelved : stage s.toTables id = .shelved := by
    rw [stage_of_find present, available]
    rfl
  have holds : ∀ other, stage s.toTables other = .lent user ↔ ∃ key row,
      s.reservation.find key = some row ∧ row.item = other ∧ row.userid = user := by
    intro other
    rw [ready.lent_iff, holder_some s.valid]
  simp only [Collection.Due, view, shelved, true_and, holds, RentController.mem_types, present,
    Option.map_some]
  constructor
  · intro none held
    obtain ⟨key, row, found, mine, same⟩ := held
    exact none row.item ⟨key, row, found, rfl, mine⟩ same
  · intro none other held same
    obtain ⟨key, row, found, about, mine⟩ := held
    exact none ⟨key, row, found, mine, by rw [about, same]⟩

theorem carries_rent (ready : Ready s) {id : Id} (sessionUser : Option SessionUser)
    (now : DateTime)
    (follows : ∃ rows ∈ DefaultController.listed s.toTables, ∃ row ∈ rows, row.1 = id) :
    Carries s (RentController.rentAction rt sessionUser id now s).store
      (event s (.workflow (.rent sessionUser id now))) := by
  obtain ⟨item, present, available⟩ := listed_find follows
  cases RentController.rentAction_cases rt sessionUser id now s with
  | inl carried =>
      obtain ⟨rent, u, decides, free, after, -, outcome⟩ := carried
      obtain ⟨rfl, -, found, ⟨account, rfl, granted, row⟩, otherType, rented⟩ :=
        RentController.load_decides.mp decides
      obtain rfl := Option.some.inj (present.symm.trans found)
      have asks : event s (.workflow (.rent (some account) rent.itemid now)) =
          some (.borrow rent.userid rent.itemid) := by
        simp only [event, borrower, Option.bind_some, granted, if_true, row, Option.map_some]
      have status : s.statusName (rent.item.setItemStatus rent.rent_status) = some "RENTED" :=
        s.valid.statusName_iff.mpr rented
      rw [outcome, asks]
      apply (touches_rent found after).carries ready
      case about => rfl
      case due => exact (due_borrow ready present available).mpr otherType
      case target => exact stageOf_lent.mpr ⟨status, rfl⟩
      case label =>
        simp only [view, present]
        rfl
      case here =>
        rintro _ ⟨⟩
        simp [status]
  | inr stopped =>
      obtain ⟨refused, unchanged, -⟩ := stopped
      rw [unchanged]
      cases asks : event s (.workflow (.rent sessionUser id now)) with
      | none => exact .refl ready.agree
      | some e =>
          simp only [event, borrower, Option.map_eq_some_iff, Option.bind_eq_some_iff] at asks
          obtain ⟨user, ⟨account, rfl, found⟩, rfl⟩ := asks
          split at found
          case isFalse => cases found
          case isTrue granted =>
            obtain ⟨⟨key, account'⟩, row, rfl⟩ := Option.map_eq_some_iff.mp found
            obtain ⟨rented, known⟩ := Option.ne_none_iff_exists'.mp (ready.present "RENTED" (by decide))
            apply carries_early ready.agree
            rw [due_borrow ready present available]
            intro otherType
            have decides : RentController.load (some account) id now s.toTables =
                .decides ⟨key, account', id, item, rented, now⟩ :=
              RentController.load_decides.mpr
                ⟨rfl, rfl, present, ⟨account, rfl, granted, row⟩, otherType, known⟩
            rcases refused with ends | reserved
            · rw [decides] at ends
              cases ends
            · rw [← ready.rented_iff present, available] at reserved
              exact absurd reserved (by decide)

theorem carries_delete (ready : Ready s) (reservation : Id) :
    Carries s (ReservationController.deleteAction reservation s).store
      (event s (.workflow (.delete reservation))) := by
  cases ReservationController.deleteAction_cases reservation s with
  | inr unchanged =>
      obtain ⟨missing, unchanged, -⟩ := unchanged
      rw [unchanged, event, missing.resolve_right (ready.present "AVAL" (by decide))]
      exact .refl ready.agree
  | inl applied =>
      obtain ⟨ret, u, decides, after, -, outcome⟩ := applied
      obtain ⟨rfl, ⟨row, found, item⟩, present, aval⟩ :=
        ReservationController.load_decides.mp decides
      have available : s.statusName (ret.item.setItemStatus ret.status) = some "AVAL" :=
        s.valid.statusName_iff.mpr aval
      rw [outcome, event, found, Option.map_some, item]
      apply (touches_return found item present after).carries ready
      case about => rfl
      case due =>
        exact ⟨row.userid, ready.lent_iff.mpr ((holder_some s.valid).mpr ⟨_, row, found, item, rfl⟩)⟩
      case target =>
        rw [place, available]
        rfl
      case label =>
        simp only [view, present]
        rfl
      case here =>
        rintro _ ⟨⟩
        simp [available]

theorem carries_new (ready : Ready s) (method : Method) (payload : Payload)
    (follows : ∀ row ∈ (InventoryType s.toTables).submitted method payload,
      s.statusName row = some "AVAL") :
    Carries s (InventoryController.newAction method payload s).store
      (event s (.new method payload)) := by
  have after := InventoryController.newAction_tables method payload s
  rw [event]
  cases accepted : (InventoryType s.toTables).submitted method payload with
  | none =>
      rw [accepted] at after
      rw [Store.eq_of_toTables after]
      exact .refl ready.agree
  | some row =>
      rw [accepted] at after follows
      have available := follows row rfl
      apply (touches_insert after).carries ready
      case about => rfl
      case due => exact stage_absent s.inventory.find_nextId
      case target =>
        rw [place, available]
        rfl
      case label => rfl
      case here =>
        rintro _ ⟨⟩
        simp [available]

theorem carries_deleteInventory (ready : Ready s) (method : Method) (payload : Payload) (id : Id) :
    Carries s (InventoryController.deleteAction method payload id s).store
      (event s (.delete method payload id)) := by
  have due : (view s.toTables).Due (.remove id) ↔ s.inventory.find id ≠ none ∧ ¬ s.Reserved id :=
    ready.present_iff
  rw [event, InventoryController.deleteAction]
  cases present : s.inventory.find id with
  | none =>
      show Carries s s _
      split
      · exact carries_early ready.agree fun asked => (due.mp asked).1 present
      · exact .refl ready.agree
  | some item =>
      simp only [deleteEntity_store]
      split
      · rcases s.committed_cases (Tables.deleteInventory id) with ⟨applied, after⟩ | ⟨rejected, kept⟩
        · have free : ¬ s.Reserved id := (s.valid.deleteInventory id).mp applied
          apply (touches_delete free after).carries ready
          case about => rfl
          case due => exact due.mpr ⟨by simp [present], free⟩
          case target => rfl
          case label => rfl
          case here => simp
        · rw [kept]
          exact carries_early ready.agree fun asked =>
            rejected ((s.valid.deleteInventory id).mpr (due.mp asked).2)
      · exact .refl ready.agree

/-- What may be moved is reserved by nobody. -/
theorem Ready.unheld_of_movable (ready : Ready s) {id : Id}
    (movable : (stage s.toTables id).Movable) : holder s.toTables id = none :=
  holder_none.mpr (ready.present_iff.mp (present_of_movable movable)).2

theorem carries_edit (ready : Ready s) (method : Method) (payload : Payload) {id : Id}
    (follows : ∀ old ∈ s.inventory.find id, ∀ row ∈ edited s.toTables method payload old,
      Resettles s id old row) :
    Carries s (InventoryController.editAction method payload id s).store
      (event s (.edit method payload id)) := by
  have after := InventoryController.editAction_tables method payload id s
  rw [event]
  cases present : s.inventory.find id with
  | none =>
      simp only [present] at after
      rw [Store.eq_of_toTables after]
      exact .refl ready.agree
  | some old =>
      simp only [present] at after
      rw [Option.bind_some]
      cases accepted : edited s.toTables method payload old with
      | none =>
          simp only [accepted] at after
          rw [Store.eq_of_toTables after]
          exact .refl ready.agree
      | some row =>
          simp only [accepted] at after
          have touches := touches_update present after
          have resettles := follows old present row accepted
          have kind : (view s.toTables).kind id = some old.itemType := by simp [view, present]
          rw [Option.bind_some]
          by_cases same : s.statusName row = s.statusName old
          · have stays : place s.toTables (some row) (holder s.toTables id) = stage s.toTables id := by
              rw [stage_of_find present, place, same]
            have here : ∀ changed, some row = some changed →
                (s.statusName changed = some "RENTED" ↔ (holder s.toTables id).isSome) := by
              rintro _ ⟨⟩
              rw [same, holder_isSome, ready.rented_iff present]
            rw [if_pos same]
            split
            · rename_i type
              exact touches.carries_none ready stays (by rw [kind, Option.map_some, type]) here
            · rename_i retyped
              have free : ¬ s.Reserved id := by
                rcases resettles with ⟨-, type | free⟩ | ⟨movable, -⟩
                · exact absurd type retyped
                · exact free
                · exact (ready.present_iff.mp (present_of_movable movable)).2
              apply touches.carries ready
              case about => rfl
              case due => exact ready.present_iff.mpr ⟨by simp [present], free⟩
              case target => exact stays
              case label => rfl
              case here => exact here
          · obtain ⟨movable, moves⟩ := resettles.resolve_left fun kept => same kept.1
            have free := ready.unheld_of_movable movable
            rw [if_neg same]
            split
            · rename_i available
              apply touches.carries ready
              case about => rfl
              case due => exact movable
              case target =>
                rw [place, available]
                rfl
              case label => rfl
              case here =>
                rintro _ ⟨⟩
                simp [available, free]
            · rename_i unavailable
              have other := moves.resolve_left unavailable
              apply touches.carries ready
              case about => rfl
              case due => exact movable
              case target => exact stageOf_aside other
              case label => rfl
              case here =>
                rintro _ ⟨⟩
                exact iff_of_false (other "RENTED" (by decide)) (by simp [free])

/-- A new status is given to no item. -/
theorem carries_newStatus (ready : Ready s) (method : Method) (payload : Payload) :
    Carries s (step rt s (.newStatus method payload)) none := by
  have kept : NamesKept s.toTables (step rt s (.newStatus method payload)).toTables :=
    names_step ready.present (.newStatus method payload)
  have inventory : (step rt s (.newStatus method payload)).inventory = s.inventory :=
    FormType.save_keeps _ method payload _ _ _ s Tables.inventory fun _ _ => rfl
  have reservation : (step rt s (.newStatus method payload)).reservation = s.reservation :=
    FormType.save_keeps _ method payload _ _ _ s Tables.reservation fun _ _ => rfl
  have old : ∀ key status, s.status.find key = some status →
      (step rt s (.newStatus method payload)).status.find key = some status := by
    intro key status found
    simp only [step, NamedController.newAction, FormType.save_store]
    split
    · apply (Store.committed_iff (P := fun t => t.status.find key = some status) found).mpr
      exact fun _ => Table.find_insert_old found
    · exact found
  constructor
  case view =>
    rw [Option.elim_none]
    ext1
    · funext id
      show stage _ id = stage _ id
      rw [stage_eq_place, stage_eq_place, holder_of_reservation reservation, inventory]
      cases present : s.inventory.find id with
      | none => rfl
      | some row =>
          obtain ⟨status, found⟩ := s.valid.inventoryStatus.target present rfl
          rw [place, place, Tables.statusName, Tables.statusName, old _ _ found, found]
    · simp only [view, inventory]
  case agree =>
    apply (Store.valid _).agree_iff.mpr
    intro id item present
    rw [inventory] at present
    rw [kept "RENTED" (by decide), Tables.Reserved, reservation]
    exact s.valid.agree_iff.mp ready.agree id item present

/-- Every request that follows the pages is its event. -/
theorem carries_step (ready : Ready s) {operation : Operation} (follows : Follows s operation) :
    Carries s (step rt s operation) (event s operation) := by
  cases operation with
  | workflow operation =>
      cases operation with
      | submit kind sessionUser method payload =>
          exact carries_submit rt ready kind sessionUser method payload
      | accept kind sessionUser id => exact carries_accept rt ready sessionUser follows
      | reject kind sessionUser id => exact carries_reject rt ready sessionUser follows
      | rent sessionUser id now => exact carries_rent rt ready sessionUser now follows
      | delete reservation => exact carries_delete ready reservation
  | new method payload => exact carries_new ready method payload follows
  | edit method payload id => exact carries_edit ready method payload follows
  | delete method payload id => exact carries_deleteInventory ready method payload id
  | newStatus method payload => exact carries_newStatus rt ready method payload

theorem ready_step (ready : Ready s) {operation : Operation} (follows : Follows s operation) :
    Ready (step rt s operation) where
  present := present_of_kept (names_step ready.present operation) ready.present
  agree := (carries_step rt ready follows).agree

end Requests

/-- The events a run amounts to. -/
def events (rt : Runtime) (s : Store) (operations : List Operation) :
    List (Event Id Id Id RequestKind) :=
  (Run.steps (step rt) s operations).filterMap (fun move => event move.1 move.2)

/-- The code refines the collection: the closet a run leads to stands for the collection
    that the events of the run lead to. -/
theorem view_run (rt : Runtime) {s : Store} (ready : Ready s) (operations : List Operation)
    (follows : ∀ move ∈ Run.steps (step rt) s operations, Follows move.1 move.2) :
    view (Run.final (step rt) s operations).toTables =
      Run.final Collection.perform (view s.toTables) (events rt s operations) :=
  Run.refines (fun t : Store => view t.toTables) event Ready Follows
    (fun _ _ ready follows => ready_step rt ready follows)
    (fun _ _ ready follows => (carries_step rt ready follows).view) ready follows

theorem ready_run (rt : Runtime) {s : Store} (ready : Ready s) (operations : List Operation)
    (follows : ∀ move ∈ Run.steps (step rt) s operations, Follows move.1 move.2) :
    ∀ t ∈ Run.states (step rt) s operations, Ready t :=
  Run.invariant_states Ready ready fun _ _ move before => ready_step rt before (follows _ move)

/-- The closet a run leads to stands for the collection its events lead to, and in every
    state of the run what is rented is what is reserved. -/
theorem closet_circulates (rt : Runtime) {s : Store} (ready : Ready s) (operations : List Operation)
    (follows : ∀ move ∈ Run.steps (step rt) s operations, Follows move.1 move.2) :
    view (Run.final (step rt) s operations).toTables =
        Run.final Collection.perform (view s.toTables) (events rt s operations) ∧
      ∀ t ∈ Run.states (step rt) s operations, t.Agree :=
  ⟨view_run rt ready operations follows,
    fun t visited => (ready_run rt ready operations follows t visited).agree⟩

/-- Bob donates an item, Ann accepts it and puts it on the shelf, and Bob rents it. -/
def sampleRun : List Operation :=
  [.workflow (.submit .donation (some .sampleUser) .post RequestForm.sample),
    .workflow (.accept .donation (some .sampleAdmin) 4),
    .edit .post [("inventory", ⟨true, [("itemDescription", .text "a hood"),
      ("itemStatus", .choice 1), ("itemType", .choice 2), ("itemColor", .choice 1),
      ("itemSchool", .choice 1), ("itemMajor", .choice 1), ("user", .choice 2)]⟩)] 4,
    .workflow (.rent (some .sampleUser) 4 0)]

theorem sample_ready : Ready .sample := ⟨by decide, by decide⟩

theorem sampleRun_follows :
    ∀ move ∈ Run.steps (step .sample) .sample sampleRun, Follows move.1 move.2 := by decide

theorem closet_circulates_sample :
    Ready .sample ∧
      (∀ move ∈ Run.steps (step .sample) .sample sampleRun, Follows move.1 move.2) ∧
      view (Run.final (step .sample) .sample sampleRun).toTables =
        Run.final Collection.perform (view Store.sample.toTables) (events .sample .sample sampleRun) :=
  ⟨sample_ready, sampleRun_follows,
    (closet_circulates .sample sample_ready sampleRun sampleRun_follows).1⟩

/-- Whoever has an item that was not in the closet at the start of a run has rented it in
    the run, when it was on the shelf and they had no item of its type, and nobody has
    returned it since; and before that the item was entered by an administrator, or
    submitted and then accepted. -/
theorem reserved_since_rent (rt : Runtime) {s : Store} (ready : Ready s)
    (operations : List Operation)
    (follows : ∀ move ∈ Run.steps (step rt) s operations, Follows move.1 move.2) {key : Id}
    {row : Reservation} (missing : s.inventory.find row.item = none)
    (found : (Run.final (step rt) s operations).reservation.find key = some row) :
    ∃ before after,
      events rt s operations = before ++ .borrow row.userid row.item :: after ∧
      (Run.final Collection.perform (view s.toTables) before).Due
        (.borrow row.userid row.item) ∧
      .giveBack row.item ∉ after ∧
      ((∃ itemType, .stock row.item itemType ∈ before) ∨ ∃ kind user itemType,
        List.Sublist [.propose kind user row.item itemType, .accept kind row.item] before) := by
  have readyAfter := ready_run rt ready operations follows _ (Run.final_mem_states _ _ _)
  have absent : (view s.toTables).stage row.item = .absent := stage_absent missing
  have lent : (view (Run.final (step rt) s operations).toTables).stage row.item =
      .lent row.userid :=
    readyAfter.lent_iff.mpr ((holder_some (Store.valid _)).mpr ⟨key, row, found, rfl, rfl⟩)
  rw [view_run rt ready operations follows] at lent
  obtain ⟨before, after, split, due, kept⟩ := lent_of_run (by rw [absent]; simp) lent
  obtain ⟨life, lives, inside⟩ := life_of_run absent before
  rw [due.1] at lives
  refine ⟨before, after, split, due, kept, ?_⟩
  rcases lives.letIn (by simp) (by simp) with ⟨kind, stocked⟩ | ⟨sort, owner, kind, accepted⟩
  · exact .inl ⟨kind, inside.subset stocked⟩
  · exact .inr ⟨sort, owner, kind, accepted.trans inside⟩

theorem reserved_since_rent_sample :
    Store.sample.inventory.find 4 = none ∧
      (Run.final (step .sample) .sample sampleRun).reservation.find 1 =
        some (.construct 2 4 0) ∧
      ∃ before after, events .sample .sample sampleRun = before ++ .borrow 2 4 :: after ∧
        (Run.final Collection.perform (view Store.sample.toTables) before).Due (.borrow 2 4) ∧
        .giveBack 4 ∉ after ∧
        ((∃ itemType, .stock 4 itemType ∈ before) ∨ ∃ kind user itemType,
          List.Sublist [.propose kind user 4 itemType, .accept kind 4] before) := by
  have missing : Store.sample.inventory.find 4 = none := by decide
  have found : (Run.final (step .sample) .sample sampleRun).reservation.find 1 =
      some (.construct 2 4 0) := by decide
  exact ⟨missing, found,
    reserved_since_rent .sample sample_ready sampleRun sampleRun_follows missing found⟩

/-- No user holds two items of one type: in terms of the reservations, and of the view. -/
theorem Ready.onePerType_iff {s : Store} (ready : Ready s) :
    s.OnePerType ↔ (view s.toTables).OnePerKind := by
  unfold Tables.OnePerType
  rw [Table.unique_iff]
  constructor
  · intro one user item other lent lentToo same
    obtain ⟨key, row, found, rfl, rfl⟩ := (holder_some s.valid).mp (ready.lent_iff.mp lent)
    obtain ⟨keyToo, rowToo, foundToo, rfl, mine⟩ :=
      (holder_some s.valid).mp (ready.lent_iff.mp lentToo)
    have keys := one key keyToo row rowToo found foundToo (Prod.ext mine.symm same)
    subst keys
    rw [Option.some.inj (found.symm.trans foundToo)]
  · intro one key keyToo row rowToo found foundToo same
    obtain ⟨mine, type⟩ := Prod.mk.inj same
    have lent : ∀ {key : Id} {row : Reservation}, s.reservation.find key = some row →
        (view s.toTables).stage row.item = .lent row.userid := by
      intro key row found
      exact ready.lent_iff.mpr ((holder_some s.valid).mpr ⟨key, row, found, rfl, rfl⟩)
    have items := one row.userid row.item rowToo.item (lent found) (mine ▸ lent foundToo) type
    exact s.valid.reservationItem.eq found foundToo items

/-- Whatever is requested of the pages, by users and administrators, no user comes to hold
    two items of one type. -/
theorem onePerType_run (rt : Runtime) {s : Store} (ready : Ready s) (one : s.OnePerType)
    (operations : List Operation)
    (follows : ∀ move ∈ Run.steps (step rt) s operations, Follows move.1 move.2) :
    ∀ t ∈ Run.states (step rt) s operations, t.OnePerType := by
  intro t visited
  obtain ⟨before, after, rfl, rfl⟩ := (Run.mem_states _).mp visited
  have followed : ∀ move ∈ Run.steps (step rt) s before, Follows move.1 move.2 :=
    fun move member => follows move (Run.steps_append _ _ _ _ ▸ List.mem_append_left _ member)
  rw [(ready_run rt ready before followed _ (Run.final_mem_states _ _ _)).onePerType_iff,
    view_run rt ready before followed]
  exact onePerKind_run (ready.onePerType_iff.mp one) _

theorem onePerType_run_sample :
    Ready .sample ∧ Store.sample.OnePerType ∧
      ∀ t ∈ Run.states (step .sample) .sample sampleRun, t.OnePerType := by
  have one : Store.sample.OnePerType := by decide
  exact ⟨sample_ready, one, onePerType_run .sample sample_ready one sampleRun sampleRun_follows⟩

end WuRegalia.Lifecycle
