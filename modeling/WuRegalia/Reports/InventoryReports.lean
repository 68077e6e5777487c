import Mathlib.Data.List.Nodup
import WuRegalia.Kernel.Statuses
import WuRegalia.Reports.Records

/-! # The inventory reports

Six reports list items by names of statuses that are written out in each of
them. One lists what four of the others list, the fifth lists special requests.
Statuses can be added and given to items by forms; an item with one of those is
in no report, so that the reports cover the inventory exactly as long as no form
is accepted with one.
-/

namespace WuRegalia.InventoryReports

open Relational

/-- The items a report lists. -/
def items (report : Report) (s : Store) : List (Id × Inventory) :=
  match (dispatchReport report 0 s).result with
  | .ok (.render _ (.items rows)) => rows
  | _ => []

/-- The reports `showInventory` sums up. -/
def parts : List Report :=
  [.showAvailibleInventory, .showRentedInventory, .showDonationInventory, .showPendingArrivals]

/-- The reports of one status. -/
def byStatus : List Report := .showSpecialRequests :: parts

/-- All of the reports answer; the report of all items lists those of its parts, once
    each, and no special request; and every item is in exactly one of the five. -/
structure Covers (s : Store) : Prop where
  answered : ∀ report ∈ .showInventory :: byStatus, ∃ template rows,
    (dispatchReport report 0 s).result = .ok (.render template (.items rows))
  union : (parts.flatMap (fun report => items report s)).Perm (items .showInventory s)
  disjoint : (parts.flatMap (fun report => items report s)).Nodup
  special : ∀ row ∈ items .showSpecialRequests s, row ∉ items .showInventory s
  complete : ∀ row ∈ s.inventory.rows, ∃! report, report ∈ byStatus ∧ row ∈ items report s

/-- One of the statuses the code knows by name. -/
def BuiltIn (t : Tables) (status : Id) : Prop :=
  ∃ name ∈ reliedOn, t.findStatus name = some status

instance (t : Tables) (status : Id) : Decidable (BuiltIn t status) :=
  inferInstanceAs (Decidable (∃ _ ∈ _, _))

/-- The requests that write items or add statuses. -/
inductive Operation where
  | workflow (operation : Availability.Operation)
  | new (method : Method) (payload : Payload)
  | edit (method : Method) (payload : Payload) (id : Id)
  | delete (method : Method) (payload : Payload) (id : Id)
  | newStatus (method : Method) (payload : Payload)
  deriving DecidableEq, Repr

def step (rt : Runtime) (s : Store) : Operation → Store
  | .workflow operation => (Availability.act rt s operation).store
  | .new method payload => (InventoryController.newAction method payload s).store
  | .edit method payload id => (InventoryController.editAction method payload id s).store
  | .delete method payload id => (InventoryController.deleteAction method payload id s).store
  | .newStatus method payload => (NamedController.newAction .status method payload s).store

/-- An item that a form writes has one of the five statuses. -/
def SubmitsBuiltIn (s : Store) : Operation → Prop
  | .new method payload => ∀ row ∈ (InventoryType s.toTables).submitted method payload,
      BuiltIn s.toTables row.itemStatus
  | .edit method payload id => ∀ old ∈ s.inventory.find id,
      ∀ row ∈ InventoryController.edited s.toTables method payload old,
        BuiltIn s.toTables row.itemStatus
  | .workflow _ | .delete .. | .newStatus .. => True

/-- The name of the status a report is about. -/
def statusOf : Report → String
  | .showAvailibleInventory => "AVAL"
  | .showRentedInventory => "RENTED"
  | .showDonationInventory => "PENDING_DONATION"
  | .showPendingArrivals => "PENDING_ARRIVAL"
  | _ => "PENDING_SPECIAL"

section Reports

variable {s : Store}

/-- With its status there, a report lists the items of the status. -/
theorem result_of_found {report : Report} (member : report ∈ byStatus) {status : Id}
    (found : s.findStatus (statusOf report) = some status) :
    ∃ template, (dispatchReport report 0 s).result =
      .ok (.render template (.items (s.findByItemStatus status))) := by
  have answers : ∀ {name : String}, s.findStatus name = some status → ∀ template,
      (ReportsController.showByStatus name template s).result =
        .ok (.render template (.items (s.findByItemStatus status))) := by
    intro name there template
    simp only [ReportsController.showByStatus, there, Outcome.answer]
  simp only [byStatus, parts, List.mem_cons, List.not_mem_nil, or_false] at member
  rcases member with rfl | rfl | rfl | rfl | rfl <;> exact ⟨_, answers found _⟩

theorem statusOf_mem {report : Report} (member : report ∈ byStatus) : statusOf report ∈ reliedOn := by
  revert report
  decide

theorem items_of_found {report : Report} (member : report ∈ byStatus) {status : Id}
    (found : s.findStatus (statusOf report) = some status) :
    items report s = s.findByItemStatus status := by
  obtain ⟨template, result⟩ := result_of_found member found
  rw [items, result]

/-- No two reports are about one status. -/
theorem statusOf_inj {report other : Report} (member : report ∈ byStatus)
    (otherMember : other ∈ byStatus) (same : statusOf report = statusOf other) : report = other := by
  have all : ∀ report ∈ byStatus, ∀ other ∈ byStatus,
      statusOf report = statusOf other → report = other := by decide
  exact all report member other otherMember same

theorem mem_items (present : ∀ name ∈ reliedOn, s.findStatus name ≠ none) {report : Report}
    (member : report ∈ byStatus) {row : Id × Inventory} :
    row ∈ items report s ↔
      row ∈ s.inventory.rows ∧ s.findStatus (statusOf report) = some row.2.itemStatus := by
  obtain ⟨status, found⟩ := Option.ne_none_iff_exists'.mp (present _ (statusOf_mem member))
  rw [items_of_found member found, found]
  simp [Tables.findByItemStatus, Table.findBy, eq_comm]

theorem items_showInventory : items .showInventory s = s.inventory.findBy
    (fun item => item.itemStatus ∈ ReportsController.itemStatusIDs s.toTables) := rfl

theorem mem_showInventory {row : Id × Inventory} :
    row ∈ items .showInventory s ↔ row ∈ s.inventory.rows ∧
      ∃ report ∈ parts, s.findStatus (statusOf report) = some row.2.itemStatus := by
  have names : ∀ name, name ∈ ReportsController.inventoryStatuses ↔
      ∃ report ∈ parts, statusOf report = name := by
    intro name
    simp [ReportsController.inventoryStatuses, parts, statusOf, eq_comm, or_comm, or_left_comm]
  have ids : row.2.itemStatus ∈ ReportsController.itemStatusIDs s.toTables ↔
      ∃ report ∈ parts, s.findStatus (statusOf report) = some row.2.itemStatus := by
    simp only [ReportsController.itemStatusIDs, List.mem_map, Prod.exists, Table.mem_findBy,
      s.valid.findStatus_iff, decide_eq_true_eq, names]
    constructor
    · intro selected
      obtain ⟨id, status, ⟨found, report, member, named⟩, rfl⟩ := selected
      exact ⟨report, member, status, found, named.symm⟩
    · intro reported
      obtain ⟨report, member, status, found, named⟩ := reported
      exact ⟨_, status, ⟨found, report, member, named.symm⟩, rfl⟩
  rw [← ids, items_showInventory]
  simp [Table.findBy]

/-- One item is in the reports of one status only. -/
theorem report_unique (present : ∀ name ∈ reliedOn, s.findStatus name ≠ none)
    {report other : Report} (member : report ∈ byStatus) (otherMember : other ∈ byStatus)
    {row : Id × Inventory} (there : row ∈ items report s) (thereToo : row ∈ items other s) :
    report = other := by
  have found := ((mem_items present member).mp there).2
  have foundToo := ((mem_items present otherMember).mp thereToo).2
  exact statusOf_inj member otherMember (Tables.findStatus_name found foundToo)

theorem parts_nodup (present : ∀ name ∈ reliedOn, s.findStatus name ≠ none) :
    (parts.flatMap (fun report => items report s)).Nodup := by
  refine List.nodup_flatMap.mpr ⟨?_, ?_⟩
  · intro report member
    have listed : report ∈ byStatus := List.mem_cons_of_mem _ member
    obtain ⟨status, found⟩ := Option.ne_none_iff_exists'.mp (present _ (statusOf_mem listed))
    rw [items_of_found listed found]
    exact Table.findBy_nodup _ _
  · have apart : parts.Nodup := by decide
    apply List.Pairwise.imp_of_mem _ apart
    intro report other member otherMember different row there thereToo
    exact different (report_unique present (List.mem_cons_of_mem _ member)
      (List.mem_cons_of_mem _ otherMember) there thereToo)

/-- With the five statuses there, only an item of a sixth one can be missing. -/
theorem covers_iff (present : ∀ name ∈ reliedOn, s.findStatus name ≠ none) :
    Covers s ↔ ∀ row ∈ s.inventory.rows, BuiltIn s.toTables row.2.itemStatus := by
  have summed : ∀ row, row ∈ items .showInventory s ↔ ∃ report ∈ parts, row ∈ items report s := by
    intro row
    rw [mem_showInventory]
    constructor
    · intro listed
      obtain ⟨there, report, member, found⟩ := listed
      exact ⟨report, member, (mem_items present (List.mem_cons_of_mem _ member)).mpr ⟨there, found⟩⟩
    · intro inPart
      obtain ⟨report, member, inside⟩ := inPart
      obtain ⟨there, found⟩ := (mem_items present (List.mem_cons_of_mem _ member)).mp inside
      exact ⟨there, report, member, found⟩
  constructor
  · intro covers row there
    obtain ⟨report, ⟨member, inside⟩, -⟩ := covers.complete row there
    exact ⟨_, statusOf_mem member, ((mem_items present member).mp inside).2⟩
  · intro builtIn
    constructor
    case answered =>
      intro report member
      rcases List.mem_cons.mp member with rfl | member
      · exact ⟨_, _, rfl⟩
      · obtain ⟨status, found⟩ := Option.ne_none_iff_exists'.mp (present _ (statusOf_mem member))
        obtain ⟨template, result⟩ := result_of_found member found
        exact ⟨template, _, result⟩
    case union =>
      have all : (items .showInventory s).Nodup := by
        rw [items_showInventory]
        exact Table.findBy_nodup _ _
      refine (List.perm_ext_iff_of_nodup (parts_nodup present) all).mpr fun row => ?_
      rw [summed, List.mem_flatMap]
    case disjoint => exact parts_nodup present
    case special =>
      intro row requested listed
      obtain ⟨report, member, inside⟩ := (summed row).mp listed
      have same := report_unique present (List.mem_cons_of_mem _ member) List.mem_cons_self inside
        requested
      exact absurd (same ▸ member) (by decide)
    case complete =>
      intro row there
      obtain ⟨name, known, found⟩ := builtIn row there
      have covered : ∀ name ∈ reliedOn, ∃ report ∈ byStatus, statusOf report = name := by decide
      obtain ⟨report, member, rfl⟩ := covered name known
      refine ⟨report, ⟨member, (mem_items present member).mpr ⟨there, found⟩⟩, ?_⟩
      rintro other ⟨otherMember, thereToo⟩
      exact report_unique present otherMember member thereToo
        ((mem_items present member).mpr ⟨there, found⟩)

end Reports

/-- Every item has one of the five statuses. -/
def AllBuiltIn (t : Tables) : Prop := ∀ row ∈ t.inventory.rows, BuiltIn t row.2.itemStatus

instance (t : Tables) : Decidable (AllBuiltIn t) :=
  inferInstanceAs (Decidable (∀ _ ∈ _, _))

theorem builtIn_congr {t u : Tables} (statuses : u.status = t.status) (status : Id) :
    BuiltIn u status ↔ BuiltIn t status := by
  unfold BuiltIn Tables.findStatus
  rw [statuses]

theorem allBuiltIn_iff {t : Tables} :
    AllBuiltIn t ↔ ∀ id item, t.inventory.find id = some item → BuiltIn t item.itemStatus := by
  simp only [AllBuiltIn, Prod.forall, Table.mem_rows_iff]

section Step

open DonationHistory (Effect Rewrites effect_workflow)

variable {rt : Runtime} {s : Store}

theorem allBuiltIn_insertInventory (before : AllBuiltIn s.toTables) (row : Inventory) :
    AllBuiltIn (s.insertInventory row) ↔ BuiltIn s.toTables row.itemStatus :=
  Table.forall_insert (t := s.inventory)
    (P := fun item => BuiltIn s.toTables item.itemStatus) before row

theorem allBuiltIn_updateInventory (before : AllBuiltIn s.toTables) {id : Id} {old : Inventory}
    (found : s.inventory.find id = some old) (row : Inventory) :
    AllBuiltIn (s.updateInventory id row) ↔ BuiltIn s.toTables row.itemStatus :=
  Table.forall_update (t := s.inventory)
    (P := fun item => BuiltIn s.toTables item.itemStatus) before found _

theorem allBuiltIn_deleteInventory (before : AllBuiltIn s.toTables) (id : Id) :
    AllBuiltIn (s.deleteInventory id) :=
  Table.forall_delete (t := s.inventory)
    (P := fun item => BuiltIn s.toTables item.itemStatus) before id

theorem allBuiltIn_of_rewrites {u : Store} {id : Id} {old row : Inventory}
    (rewrites : Rewrites s u id old row) (before : AllBuiltIn s.toTables)
    (builtIn : BuiltIn s.toTables row.itemStatus) : AllBuiltIn u.toTables := by
  rw [allBuiltIn_iff] at before ⊢
  intro other item there
  rw [builtIn_congr rewrites.status]
  rw [rewrites.find] at there
  split at there
  · exact Option.some.inj there ▸ builtIn
  · exact before other item there

theorem pending_mem (kind : RequestKind) : (RequestController.texts kind).pending ∈ reliedOn := by
  cases kind <;> decide

/-- No request of the workflow touches a status. -/
theorem status_of_effect {operation : DonationHistory.Operation} {u : Store}
    (effect : Effect s operation u) : u.status = s.status := by
  cases effect with
  | nothing idle => rfl
  | submits pending owned after => rw [after, Tables.insertInventory]
  | rejects present after => rw [after, Tables.deleteInventory]
  | accepts rewrites arrival reserved => exact rewrites.status
  | rents rewrites accepted rented reserved => exact rewrites.status
  | returns rewrites held aval reserved => exact rewrites.status
  | edits rewrites accepted reserved => exact rewrites.status

/-- The workflow gives items statuses of its own. -/
theorem allBuiltIn_of_effect (before : AllBuiltIn s.toTables) {operation : Availability.Operation}
    {u : Store} (effect : Effect s (.workflow operation) u) : AllBuiltIn u.toTables := by
  cases effect with
  | nothing idle => exact before
  | submits pending owned after =>
      rw [after]
      exact (allBuiltIn_insertInventory before _).mpr ⟨_, pending_mem _, pending⟩
  | rejects present after =>
      rw [after]
      exact allBuiltIn_deleteInventory before _
  | accepts rewrites arrival reserved =>
      exact allBuiltIn_of_rewrites rewrites before ⟨_, by decide, arrival⟩
  | rents rewrites accepted rented reserved =>
      exact allBuiltIn_of_rewrites rewrites before ⟨_, by decide, rented⟩
  | returns rewrites held aval reserved =>
      exact allBuiltIn_of_rewrites rewrites before ⟨_, by decide, aval⟩

/-- The five names lead where they led. -/
theorem names_step (present : ∀ name ∈ reliedOn, s.findStatus name ≠ none) (operation : Operation) :
    NamesKept s.toTables (step rt s operation).toTables := by
  have untouched : (step rt s operation).status = s.status →
      NamesKept s.toTables (step rt s operation).toTables := by
    intro same name _
    unfold Tables.findStatus
    rw [same]
  cases operation with
  | workflow operation => exact untouched (status_of_effect (effect_workflow rt s operation))
  | new method payload =>
      exact untouched (FormType.save_keeps _ method payload _ _ _ s Tables.status fun _ _ => rfl)
  | edit method payload id =>
      apply untouched
      simp only [step, InventoryController.editAction_tables]
      split
      · split <;> rfl
      · rfl
  | delete method payload id =>
      apply untouched
      simp only [step, InventoryController.deleteAction]
      split
      · rfl
      · exact deleteEntity_keeps method payload _ _ s Tables.status fun _ => rfl
  | newStatus method payload =>
      exact namesKept_newAction (fun _ _ => rfl) present method payload

theorem allBuiltIn_step (present : ∀ name ∈ reliedOn, s.findStatus name ≠ none)
    (before : AllBuiltIn s.toTables) (operation : Operation) :
    AllBuiltIn (step rt s operation).toTables ↔ SubmitsBuiltIn s operation := by
  cases operation with
  | workflow operation =>
      exact iff_of_true (allBuiltIn_of_effect before (effect_workflow rt s operation)) trivial
  | new method payload =>
      simp only [step, SubmitsBuiltIn, InventoryController.newAction_tables]
      cases (InventoryType s.toTables).submitted method payload with
      | none => exact iff_of_true before (by simp)
      | some row =>
          simp only [Option.mem_some_iff, forall_eq']
          exact allBuiltIn_insertInventory before row
  | edit method payload id =>
      simp only [step, SubmitsBuiltIn, InventoryController.editAction_tables]
      cases found : s.inventory.find id with
      | none => exact iff_of_true before (by simp)
      | some old =>
          simp only [Option.mem_some_iff, forall_eq']
          cases InventoryController.edited s.toTables method payload old with
          | none => exact iff_of_true before (by simp)
          | some row =>
              simp only [Option.mem_some_iff, forall_eq']
              exact allBuiltIn_updateInventory before found row
  | delete method payload id =>
      refine iff_of_true ?_ trivial
      simp only [step, InventoryController.deleteAction]
      split
      · exact before
      · rw [deleteEntity_store]
        split
        · apply (Store.committed_iff (P := AllBuiltIn) before).mpr
          exact fun _ => allBuiltIn_deleteInventory before id
        · exact before
  | newStatus method payload =>
      refine iff_of_true ?_ trivial
      have kept : NamesKept s.toTables (step rt s (.newStatus method payload)).toTables :=
        names_step present (.newStatus method payload)
      have inventory : (step rt s (.newStatus method payload)).inventory = s.inventory :=
        FormType.save_keeps _ method payload _ _ _ s Tables.inventory fun _ _ => rfl
      intro row there
      obtain ⟨name, known, found⟩ := before row (inventory ▸ there)
      exact ⟨name, known, (kept name known).trans found⟩

end Step

/-- From a store with the five statuses, the reports cover the inventory in every state
    of a run exactly when every item of its start has one of the five and so has every
    item a form writes. -/
theorem covers_run (rt : Runtime) {s : Store}
    (present : ∀ name ∈ reliedOn, s.findStatus name ≠ none) (operations : List Operation) :
    (∀ t ∈ Run.states (step rt) s operations, Covers t) ↔
      AllBuiltIn s.toTables ∧
        ∀ move ∈ Run.steps (step rt) s operations, SubmitsBuiltIn move.1 move.2 := by
  have presentAll : ∀ t ∈ Run.states (step rt) s operations,
      ∀ name ∈ reliedOn, t.findStatus name ≠ none :=
    Run.invariant_states (fun t : Store => ∀ name ∈ reliedOn, t.findStatus name ≠ none) present
      fun t operation _ before => present_of_kept (names_step before operation) before
  have covered : (∀ t ∈ Run.states (step rt) s operations, Covers t) ↔
      ∀ t ∈ Run.states (step rt) s operations, AllBuiltIn t.toTables :=
    forall₂_congr fun t visited => covers_iff (presentAll t visited)
  rw [covered]
  exact Run.exact_guard_start (fun t : Store => AllBuiltIn t.toTables)
    (fun t => ∀ name ∈ reliedOn, t.findStatus name ≠ none) SubmitsBuiltIn
    (fun _ operation _ before _ => present_of_kept (names_step before operation) before)
    (fun _ operation before present => allBuiltIn_step present before operation) present

/-- Bob rents a gown, and the reports cover the closet. -/
theorem covers_run_sample :
    (∀ name ∈ reliedOn, Store.sample.findStatus name ≠ none) ∧
      ∀ t ∈ Run.states (step .sample) .sample [.workflow (.rent (some .sampleUser) 1 0)],
        Covers t := by
  have present : ∀ name ∈ reliedOn, Store.sample.findStatus name ≠ none := by decide
  refine ⟨present, (covers_run .sample present _).mpr ⟨by decide, fun move member => ?_⟩⟩
  obtain rfl := List.mem_singleton.mp member
  trivial

/-- A status and an item that has it, as two forms bring them in. -/
def lost : List Operation :=
  [.newStatus .post [("status", ⟨true, [("name", .text "LOST")]⟩)],
    .new .post [("inventory", ⟨true, [("itemDescription", .text "a gown"), ("itemStatus", .choice 6),
      ("itemType", .choice 1), ("itemColor", .choice 1), ("itemSchool", .choice 1),
      ("itemMajor", .choice 1)]⟩)]]

/-- The item is in no report. -/
theorem item_in_no_report : ¬ ∀ (rt : Runtime) (s : Store) (operations : List Operation),
    (∀ name ∈ reliedOn, s.findStatus name ≠ none) →
      (∀ row ∈ s.status.rows, row.2.name ∈ reliedOn) →
        ∀ t ∈ Run.states (step rt) s operations, Covers t := by
  intro claim
  let final := Run.final (step .sample) .sample lost
  have covers := claim .sample .sample lost (by decide) (by decide) final
    (by simp [final, lost, Run.states])
  have present : ∀ name ∈ reliedOn, final.findStatus name ≠ none := by decide
  exact absurd ((covers_iff present).mp covers) (by decide)

end WuRegalia.InventoryReports
