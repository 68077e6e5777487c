import WuRegalia.Controller.Pages
import WuRegalia.Reports.Records

/-! # The donation history against the submissions

The report about a user's donations selects the user's records by their status.
Where a record came from is not stored: a special request that is accepted,
rented or edited gets a status that donations have. The report tells the two
apart exactly as long as no step does that.
-/

namespace WuRegalia.DonationHistory

open Relational Availability
open Run (Recorded record)
open RequestController (texts submitted submitted_some)
open InventoryController (edited)

/-- The step is a submission of the kind that puts a record of the user there. -/
def Submits (rt : Runtime) (move : Store × Operation) (kind : RequestKind) (user id : Id) : Prop :=
  ∃ sessionUser method payload, move.2 = .workflow (.submit kind sessionUser method payload) ∧
    move.1.inventory.find id = none ∧
    ∃ row, (step rt move.1 move.2).inventory.find id = some row ∧ row.user = some user

/-- The step is a rejection that removes the record. -/
def Rejects (rt : Runtime) (move : Store × Operation) (id : Id) : Prop :=
  ∃ kind sessionUser, move.2 = .workflow (.reject kind sessionUser id) ∧
    move.1.inventory.find id ≠ none ∧ (step rt move.1 move.2).inventory.find id = none

/-- The record was submitted by the user through the form of the kind. -/
def SubmittedAs (rt : Runtime) (past : List (Store × Operation)) (kind : RequestKind)
    (user id : Id) : Prop :=
  ∃ move ∈ past, Submits rt move kind user id

def Rejected (rt : Runtime) (past : List (Store × Operation)) (id : Id) : Prop :=
  ∃ move ∈ past, Rejects rt move id

/-- The report on each user lists the donations of the user that were not rejected,
    each once, and no special request of anybody. -/
def Tells (rt : Runtime) (r : Recorded Store Operation) : Prop :=
  ∀ user, ∃ rows, (ReportsController.showUserDonationHistory user r.now).result =
      .ok (.render "reports/users.donationHistory.html.twig" (.items rows)) ∧
    (rows.map Prod.fst).Nodup ∧
    (∀ id, id ∈ rows.map Prod.fst ↔
      SubmittedAs rt r.past .donation user id ∧ ¬ Rejected rt r.past id) ∧
    ∀ id owner, SubmittedAs rt r.past .special owner id → id ∉ rows.map Prod.fst

/-- The item has one of the statuses the report is about. -/
def Listed (t : Tables) (item : Inventory) : Prop :=
  item.itemStatus ∈ ReportsController.itemStatusIDs t

instance (t : Tables) (item : Inventory) : Decidable (Listed t item) :=
  inferInstanceAs (Decidable (_ ∈ _))

/-- No special request is accepted or rented, and an edit gives a status the report
    is about to donations and to nothing else. -/
def TellsApart (rt : Runtime) (s : Store) (past : List (Store × Operation)) : Operation → Prop
  | .workflow (.accept _ _ record) =>
      s.inventory.find record = none ∨ s.findStatus "PENDING_ARRIVAL" = none ∨
        ∀ user, ¬ SubmittedAs rt past .special user record
  | .workflow (.rent sessionUser id _) =>
      Refused s sessionUser id ∨ ∀ user, ¬ SubmittedAs rt past .special user id
  | .workflow (.submit ..) | .workflow (.reject ..) | .workflow (.delete _) => True
  | .edit method payload id =>
      ∀ old ∈ s.inventory.find id, ∀ row ∈ edited s.toTables method payload old,
        (Listed s.toTables row ↔ ∃ user, SubmittedAs rt past .donation user id)

section Origins

variable {rt : Runtime}

theorem submittedAs_concat {past : List (Store × Operation)} {move : Store × Operation}
    {kind : RequestKind} {user id : Id} :
    SubmittedAs rt (past ++ [move]) kind user id ↔
      SubmittedAs rt past kind user id ∨ Submits rt move kind user id := by
  simp [SubmittedAs, or_and_right, exists_or]

theorem rejected_concat {past : List (Store × Operation)} {move : Store × Operation} {id : Id} :
    Rejected rt (past ++ [move]) id ↔ Rejected rt past id ∨ Rejects rt move id := by
  simp [Rejected, or_and_right, exists_or]

/-- Every record was submitted once, by its owner, and is there until it is rejected. -/
structure Origins (rt : Runtime) (r : Recorded Store Operation) : Prop where
  known : ∀ id item, r.now.inventory.find id = some item → ¬ Rejected rt r.past id ∧
    ∃ kind user, SubmittedAs rt r.past kind user id ∧ item.user = some user
  kept : ∀ kind user id, SubmittedAs rt r.past kind user id → ¬ Rejected rt r.past id →
    r.now.inventory.find id ≠ none
  one : ∀ kind user other owner id, SubmittedAs rt r.past kind user id →
    SubmittedAs rt r.past other owner id → kind = other ∧ user = owner
  old : ∀ kind user id, SubmittedAs rt r.past kind user id → id < r.now.inventory.nextId
  oldRejected : ∀ id, Rejected rt r.past id → id < r.now.inventory.nextId

/-- A record has one origin, so its kind can be asked for either way. -/
theorem Origins.donated_iff {r : Recorded Store Operation} (origins : Origins rt r)
    {kind : RequestKind} {user id : Id} (submitted : SubmittedAs rt r.past kind user id) :
    (∃ owner, SubmittedAs rt r.past .donation owner id) ↔ kind = .donation := by
  constructor
  · intro donated
    obtain ⟨owner, again⟩ := donated
    exact (origins.one _ _ _ _ id submitted again).1
  · rintro rfl
    exact ⟨user, submitted⟩

/-- The same records with the same owners. -/
structure SameRecords (s u : Store) : Prop where
  owner : ∀ id, (u.inventory.find id).map Inventory.user = (s.inventory.find id).map Inventory.user
  nextId : u.inventory.nextId = s.inventory.nextId

theorem SameRecords.none_iff {s u : Store} (same : SameRecords s u) (id : Id) :
    u.inventory.find id = none ↔ s.inventory.find id = none := by
  have owner := same.owner id
  constructor
  · intro absent
    rw [absent] at owner
    exact Option.map_eq_none_iff.mp owner.symm
  · intro absent
    rw [absent] at owner
    exact Option.map_eq_none_iff.mp owner

theorem SameRecords.submittedAs {s : Store} {operation : Operation}
    (same : SameRecords s (step rt s operation)) (past : List (Store × Operation))
    (kind : RequestKind) (user id : Id) :
    SubmittedAs rt (past ++ [(s, operation)]) kind user id ↔ SubmittedAs rt past kind user id := by
  rw [submittedAs_concat, or_iff_left]
  intro submits
  obtain ⟨-, -, -, -, absent, row, present, -⟩ := submits
  rw [(same.none_iff id).mpr absent] at present
  cases present

theorem SameRecords.rejected {s : Store} {operation : Operation}
    (same : SameRecords s (step rt s operation)) (past : List (Store × Operation)) (id : Id) :
    Rejected rt (past ++ [(s, operation)]) id ↔ Rejected rt past id := by
  rw [rejected_concat, or_iff_left]
  intro rejects
  obtain ⟨-, -, -, present, absent⟩ := rejects
  exact present ((same.none_iff id).mp absent)

theorem Origins.of_same {r : Recorded Store Operation} (origins : Origins rt r)
    {operation : Operation} (same : SameRecords r.now (step rt r.now operation)) :
    Origins rt (record (step rt) r operation) where
  known := by
    intro id item present
    have owner := same.owner id
    simp only [record] at present ⊢
    rw [present] at owner
    obtain ⟨before, found, owned⟩ := Option.map_eq_some_iff.mp owner.symm
    simp only [same.submittedAs, same.rejected]
    rw [← owned]
    exact origins.known id before found
  kept := by
    simp only [record, same.submittedAs, same.rejected, ne_eq, same.none_iff]
    exact origins.kept
  one := by
    simp only [record, same.submittedAs]
    exact origins.one
  old := by
    simp only [record, same.submittedAs, same.nextId]
    exact origins.old
  oldRejected := by
    simp only [record, same.rejected, same.nextId]
    exact origins.oldRejected

theorem submits_iff {s : Store} {kind : RequestKind} {sessionUser : Option SessionUser}
    {method : Method} {payload : Payload} {row : Inventory} {user : Id}
    (owned : row.user = some user)
    (after : (step rt s (.workflow (.submit kind sessionUser method payload))).toTables =
      s.insertInventory row) (other : RequestKind) (owner id : Id) :
    Submits rt (s, .workflow (.submit kind sessionUser method payload)) other owner id ↔
      kind = other ∧ user = owner ∧ id = s.inventory.nextId := by
  have find : ∀ id, (step rt s (.workflow (.submit kind sessionUser method payload))).inventory.find id =
      if id = s.inventory.nextId then some row else s.inventory.find id := by
    intro id
    rw [after]
    exact s.inventory.find_insert row id
  constructor
  · intro submits
    obtain ⟨account, request, body, same, absent, added, present, belongs⟩ := submits
    cases same
    simp only [find] at present
    split at present
    · rename_i here
      obtain rfl := Option.some.inj present
      exact ⟨rfl, Option.some.inj (owned.symm.trans belongs), here⟩
    · rw [absent] at present
      cases present
  · rintro ⟨rfl, rfl, rfl⟩
    exact ⟨sessionUser, method, payload, rfl, s.inventory.find_nextId, row, by simp [find], owned⟩

theorem not_rejects_of_submit {s : Store} {kind : RequestKind} {sessionUser : Option SessionUser}
    {method : Method} {payload : Payload} (id : Id) :
    ¬ Rejects rt (s, .workflow (.submit kind sessionUser method payload)) id := by
  intro rejects
  obtain ⟨_, _, same, -⟩ := rejects
  cases same

theorem Origins.of_submit {r : Recorded Store Operation} (origins : Origins rt r)
    {kind : RequestKind} {sessionUser : Option SessionUser} {method : Method} {payload : Payload}
    {row : Inventory} {user : Id} (owned : row.user = some user)
    (after : (step rt r.now (.workflow (.submit kind sessionUser method payload))).toTables =
      r.now.insertInventory row) :
    Origins rt (record (step rt) r (.workflow (.submit kind sessionUser method payload))) := by
  have submits := submits_iff owned after
  have find : ∀ id,
      (step rt r.now (.workflow (.submit kind sessionUser method payload))).inventory.find id =
        if id = r.now.inventory.nextId then some row else r.now.inventory.find id := by
    intro id
    rw [after]
    exact r.now.inventory.find_insert row id
  have nextId : (step rt r.now (.workflow (.submit kind sessionUser method payload))).inventory.nextId =
      r.now.inventory.nextId + 1 := by
    rw [after]
    rfl
  refine ⟨?_, ?_, ?_, ?_, ?_⟩ <;>
    simp only [record, submittedAs_concat, rejected_concat, submits, not_rejects_of_submit, or_false,
      find, nextId]
  · intro id item present
    split at present
    · rename_i here
      obtain rfl := Option.some.inj present
      refine ⟨fun rejected => ?_, kind, user, .inr ⟨rfl, rfl, here⟩, owned⟩
      exact absurd here (Nat.ne_of_lt (origins.oldRejected id rejected))
    · obtain ⟨kept, other, owner, submitted, belongs⟩ := origins.known id item present
      exact ⟨kept, other, owner, .inl submitted, belongs⟩
  · intro other owner id submitted kept
    split
    · simp
    · rename_i old
      refine origins.kept other owner id (submitted.resolve_right fun new => old new.2.2) kept
  · intro first owner second other id submitted again
    rcases submitted with before | ⟨rfl, rfl, new⟩ <;>
      rcases again with earlier | ⟨rfl, rfl, newer⟩
    · exact origins.one first owner second other id before earlier
    · exact absurd newer (Nat.ne_of_lt (origins.old _ _ id before))
    · exact absurd new (Nat.ne_of_lt (origins.old _ _ id earlier))
    · exact ⟨rfl, rfl⟩
  · intro other owner id submitted
    rcases submitted with before | new
    · exact Nat.lt_succ_of_lt (origins.old other owner id before)
    · exact Nat.lt_succ_of_le (Nat.le_of_eq new.2.2)
  · intro id rejected
    exact Nat.lt_succ_of_lt (origins.oldRejected id rejected)

theorem rejects_iff {s : Store} {kind : RequestKind} {sessionUser : Option SessionUser} {id : Id}
    {item : Inventory} (present : s.inventory.find id = some item)
    (after : (step rt s (.workflow (.reject kind sessionUser id))).toTables = s.deleteInventory id)
    (other : Id) :
    Rejects rt (s, .workflow (.reject kind sessionUser id)) other ↔ other = id := by
  constructor
  · intro rejects
    obtain ⟨_, _, same, -⟩ := rejects
    cases same
    rfl
  · rintro rfl
    refine ⟨kind, sessionUser, rfl, by simp [present], ?_⟩
    simp only [after, Tables.deleteInventory, Table.find_delete, if_true]

theorem not_submits_of_reject {s : Store} {kind : RequestKind} {sessionUser : Option SessionUser}
    {id : Id} (other : RequestKind) (owner key : Id) :
    ¬ Submits rt (s, .workflow (.reject kind sessionUser id)) other owner key := by
  intro submits
  obtain ⟨_, _, _, same, -⟩ := submits
  cases same

theorem Origins.of_reject {r : Recorded Store Operation} (origins : Origins rt r)
    {kind : RequestKind} {sessionUser : Option SessionUser} {id : Id} {item : Inventory}
    (present : r.now.inventory.find id = some item)
    (after : (step rt r.now (.workflow (.reject kind sessionUser id))).toTables =
      r.now.deleteInventory id) :
    Origins rt (record (step rt) r (.workflow (.reject kind sessionUser id))) := by
  have rejects := rejects_iff present after
  have find : ∀ other, (step rt r.now (.workflow (.reject kind sessionUser id))).inventory.find other =
      if other = id then none else r.now.inventory.find other := by
    intro other
    rw [after]
    exact r.now.inventory.find_delete id other
  have nextId : (step rt r.now (.workflow (.reject kind sessionUser id))).inventory.nextId =
      r.now.inventory.nextId := by
    rw [after]
    rfl
  refine ⟨?_, ?_, ?_, ?_, ?_⟩ <;>
    simp only [record, submittedAs_concat, rejected_concat, rejects, not_submits_of_reject, or_false,
      find, nextId]
  · intro other row there
    split at there
    · cases there
    · rename_i apart
      obtain ⟨kept, submitted⟩ := origins.known other row there
      exact ⟨fun rejected => rejected.elim kept apart, submitted⟩
  · intro other owner key submitted kept
    obtain ⟨before, apart⟩ := not_or.mp kept
    rw [if_neg apart]
    exact origins.kept other owner key submitted before
  · exact origins.one
  · exact origins.old
  · intro other rejected
    rcases rejected with before | rfl
    · exact origins.oldRejected other before
    · exact Table.lt_nextId present

end Origins

theorem mem_itemStatusIDs {t : Tables} {id : Id} :
    id ∈ ReportsController.itemStatusIDs t ↔
      ∃ status, t.status.find id = some status ∧ status.name ∈ ReportsController.inventoryStatuses := by
  simp [ReportsController.itemStatusIDs, Table.mem_findBy]

theorem listed_of_findStatus {t : Tables} {name : String} {item : Inventory}
    (found : t.findStatus name = some item.itemStatus) :
    Listed t item ↔ name ∈ ReportsController.inventoryStatuses := by
  obtain ⟨status, row, rfl⟩ := Tables.findStatus_some found
  rw [Listed, mem_itemStatusIDs]
  constructor
  · intro listed
    obtain ⟨other, there, named⟩ := listed
    obtain rfl := Option.some.inj (row.symm.trans there)
    exact named
  · exact fun named => ⟨status, row, named⟩

theorem listed_congr {t u : Tables} (status : u.status = t.status) (item : Inventory) :
    Listed u item ↔ Listed t item := by
  rw [Listed, Listed, mem_itemStatusIDs, mem_itemStatusIDs, status]

/-- The rows of the report on a user. -/
def rows (t : Tables) (user : Id) : List (Id × Inventory) :=
  t.inventory.findBy
    (fun item => item.user = some user && item.itemStatus ∈ ReportsController.itemStatusIDs t)

theorem shown_eq_rows {s : Store} {user : Id} {shown : List (Id × Inventory)}
    (result : (ReportsController.showUserDonationHistory user s).result =
      .ok (.render "reports/users.donationHistory.html.twig" (.items shown))) :
    rows s.toTables user = shown := by
  simpa only [rows, ReportsController.showUserDonationHistory, Outcome.answer, Except.ok.injEq,
    Response.render.injEq, PageData.items.injEq, true_and] using result

theorem mem_rows {t : Tables} {user id : Id} :
    id ∈ (rows t user).map Prod.fst ↔
      ∃ item, t.inventory.find id = some item ∧ item.user = some user ∧ Listed t item := by
  simp [rows, Listed, Table.mem_findBy]

theorem rows_nodup (t : Tables) (user : Id) : ((rows t user).map Prod.fst).Nodup :=
  List.pairwise_map.mpr ((t.inventory.ascending.filter _).imp fun less => Nat.ne_of_lt less)

/-- Of the records there are, the report can pick the donations by their status. -/
def Apart (rt : Runtime) (r : Recorded Store Operation) : Prop :=
  ∀ id item kind user, r.now.inventory.find id = some item → SubmittedAs rt r.past kind user id →
    (Listed r.now.toTables item ↔ kind = .donation)

theorem tells_iff {rt : Runtime} {r : Recorded Store Operation} (origins : Origins rt r) :
    Tells rt r ↔ Apart rt r := by
  constructor
  · intro tells id item kind user present submitted
    obtain ⟨kept, other, owner, again, owned⟩ := origins.known id item present
    obtain ⟨rfl, rfl⟩ := origins.one _ _ _ _ id submitted again
    obtain ⟨shown, result, -, donations, specials⟩ := tells user
    obtain rfl := shown_eq_rows result
    cases kind with
    | donation =>
        obtain ⟨row, there, -, listed⟩ := mem_rows.mp ((donations id).mpr ⟨submitted, kept⟩)
        obtain rfl := Option.some.inj (present.symm.trans there)
        exact iff_of_true listed rfl
    | special =>
        refine iff_of_false (fun listed => ?_) (by decide)
        exact specials id user submitted (mem_rows.mpr ⟨item, present, owned, listed⟩)
  · intro apart user
    refine ⟨rows r.now.toTables user, rfl, rows_nodup _ _, fun id => ?_, fun id owner special => ?_⟩
    · rw [mem_rows]
      constructor
      · intro shown
        obtain ⟨item, present, owned, listed⟩ := shown
        obtain ⟨kept, kind, owner, submitted, belongs⟩ := origins.known id item present
        obtain rfl := (apart id item kind owner present submitted).mp listed
        obtain rfl := Option.some.inj (owned.symm.trans belongs)
        exact ⟨submitted, kept⟩
      · intro donated
        obtain ⟨submitted, kept⟩ := donated
        obtain ⟨item, present⟩ := Option.ne_none_iff_exists'.mp (origins.kept _ _ id submitted kept)
        obtain ⟨-, kind, owner, again, owned⟩ := origins.known id item present
        obtain ⟨rfl, rfl⟩ := origins.one _ _ _ _ id submitted again
        exact ⟨item, present, owned, (apart id item _ _ present submitted).mpr rfl⟩
    · intro shown
      obtain ⟨item, present, -, listed⟩ := mem_rows.mp shown
      have kind := (apart id item _ _ present special).mp listed
      cases kind

section Step

variable {rt : Runtime} {r : Recorded Store Operation}

/-- Nothing that was submitted as a special request is reserved. -/
def SpecialsFree (rt : Runtime) (r : Recorded Store Operation) : Prop :=
  ∀ id user, r.now.Reserved id → ¬ SubmittedAs rt r.past .special user id

theorem Rewrites.sameRecords {s u : Store} {id : Id} {old row : Inventory}
    (rewrites : Rewrites s u id old row) : SameRecords s u where
  owner := by
    intro other
    rw [rewrites.find]
    split
    · rename_i here
      rw [here, rewrites.present, Option.map_some, Option.map_some, rewrites.owner]
    · rfl
  nextId := rewrites.nextId

theorem SameRecords.refl (s : Store) : SameRecords s s := ⟨fun _ => rfl, rfl⟩

theorem apart_rewrites {operation : Operation} (apart : Apart rt r) {id : Id} {old row : Inventory}
    (rewrites : Rewrites r.now (step rt r.now operation) id old row) :
    Apart rt (record (step rt) r operation) ↔
      ∀ kind user, SubmittedAs rt r.past kind user id →
        (Listed r.now.toTables row ↔ kind = .donation) := by
  simp only [Apart, record, rewrites.sameRecords.submittedAs, rewrites.find,
    listed_congr rewrites.status]
  constructor
  · intro after kind user submitted
    exact after id row kind user (if_pos rfl) submitted
  · intro here other item kind user present submitted
    split at present
    · rename_i same
      obtain rfl := Option.some.inj present
      exact here kind user (same ▸ submitted)
    · exact apart other item kind user present submitted

/-- A record that gets a status the report is about must not be a special request. -/
theorem listed_iff_no_special {past : List (Store × Operation)} {t : Tables} {id : Id}
    {row : Inventory} (listed : Listed t row) :
    (∀ kind user, SubmittedAs rt past kind user id → (Listed t row ↔ kind = .donation)) ↔
      ∀ user, ¬ SubmittedAs rt past .special user id := by
  constructor
  · intro all user special
    have kind := (all .special user special).mp listed
    cases kind
  · intro none kind user submitted
    cases kind with
    | donation => exact iff_of_true listed rfl
    | special => exact absurd submitted (none user)

theorem apart_submit (origins : Origins rt r) (apart : Apart rt r) {kind : RequestKind}
    {sessionUser : Option SessionUser} {method : Method} {payload : Payload} {row : Inventory}
    {user : Id} (pending : r.now.findStatus (texts kind).pending = some row.itemStatus)
    (owned : row.user = some user)
    (after : (step rt r.now (.workflow (.submit kind sessionUser method payload))).toTables =
      r.now.insertInventory row) :
    Apart rt (record (step rt) r (.workflow (.submit kind sessionUser method payload))) := by
  have submits := submits_iff owned after
  have find : ∀ id,
      (step rt r.now (.workflow (.submit kind sessionUser method payload))).inventory.find id =
        if id = r.now.inventory.nextId then some row else r.now.inventory.find id := by
    intro id
    rw [after]
    exact r.now.inventory.find_insert row id
  have statuses : (step rt r.now (.workflow (.submit kind sessionUser method payload))).status =
      r.now.status := by
    rw [after]
    rfl
  simp only [Apart, record, submittedAs_concat, submits, find, listed_congr statuses]
  intro id item other owner present submitted
  split at present
  · rename_i new
    obtain rfl := Option.some.inj present
    rcases submitted with before | ⟨rfl, -, -⟩
    · exact absurd new (Nat.ne_of_lt (origins.old _ _ id before))
    · rw [listed_of_findStatus pending]
      cases kind <;> decide
  · rename_i old
    exact apart id item other owner present (submitted.resolve_right fun new => old new.2.2)

theorem apart_reject {kind : RequestKind} {sessionUser : Option SessionUser} {id : Id}
    (apart : Apart rt r)
    (after : (step rt r.now (.workflow (.reject kind sessionUser id))).toTables =
      r.now.deleteInventory id) :
    Apart rt (record (step rt) r (.workflow (.reject kind sessionUser id))) := by
  have find : ∀ other, (step rt r.now (.workflow (.reject kind sessionUser id))).inventory.find other =
      if other = id then none else r.now.inventory.find other := by
    intro other
    rw [after]
    exact r.now.inventory.find_delete id other
  have statuses : (step rt r.now (.workflow (.reject kind sessionUser id))).status = r.now.status := by
    rw [after]
    rfl
  simp only [Apart, record, submittedAs_concat, not_submits_of_reject, or_false, find,
    listed_congr statuses]
  intro other item submittedKind owner present submitted
  split at present
  · cases present
  · exact apart other item submittedKind owner present submitted

/-- The records stay accounted for whatever is done. -/
theorem origins_step (origins : Origins rt r) {operation : Operation}
    (keeps : KeepsOwner rt r.now operation) : Origins rt (record (step rt) r operation) := by
  have effect := effect keeps
  generalize after : step rt r.now operation = u at effect
  cases effect with
  | nothing idle =>
      apply origins.of_same
      rw [after]
      exact .refl _
  | submits pending owned inserted => exact origins.of_submit owned (after ▸ inserted)
  | rejects present deleted => exact origins.of_reject present (after ▸ deleted)
  | accepts rewrites | rents rewrites | returns rewrites | edits rewrites =>
      exact origins.of_same (after ▸ rewrites.sameRecords)

theorem specialsFree_step (free : SpecialsFree rt r) {operation : Operation}
    (keeps : KeepsOwner rt r.now operation) (guard : TellsApart rt r.now r.past operation) :
    SpecialsFree rt (record (step rt) r operation) := by
  have effect := effect keeps
  generalize after : step rt r.now operation = u at effect
  intro other user
  simp only [record, after]
  cases effect with
  | nothing idle =>
      have same : SameRecords r.now (step rt r.now operation) := by
        rw [after]
        exact .refl _
      rw [same.submittedAs]
      exact free other user
  | submits pending owned inserted =>
      intro reserved special
      have before : r.now.Reserved other := by
        rw [inserted] at reserved
        exact reserved
      rw [submittedAs_concat, submits_iff owned (after ▸ inserted)] at special
      rcases special with earlier | ⟨-, -, new⟩
      · exact free other user before earlier
      · obtain ⟨key, reservation, found, item⟩ := before
        obtain ⟨row, present⟩ := r.now.valid.reservationInventory.target found rfl
        exact absurd (item.trans new) (Nat.ne_of_lt (Table.lt_nextId present))
  | rejects present deleted =>
      intro reserved
      rw [submittedAs_concat, or_iff_left (not_submits_of_reject _ _ _)]
      refine free other user ?_
      rw [deleted] at reserved
      exact reserved
  | accepts rewrites arrival reserved | edits rewrites arrival reserved =>
      rw [(show SameRecords r.now (step rt r.now _) from after ▸ rewrites.sameRecords).submittedAs]
      intro held
      rw [Tables.Reserved, reserved] at held
      exact free other user held
  | returns rewrites held aval reserved =>
      rw [(show SameRecords r.now (step rt r.now _) from after ▸ rewrites.sameRecords).submittedAs]
      exact fun reservedAfter => free other user (reserved other reservedAfter)
  | rents rewrites accepted rented reserved =>
      rw [(show SameRecords r.now (step rt r.now _) from after ▸ rewrites.sameRecords).submittedAs]
      intro reservedAfter
      cases reserved other reservedAfter with
      | inl here => exact here ▸ guard.resolve_left accepted user
      | inr before => exact free other user before

theorem apart_step (origins : Origins rt r) (apart : Apart rt r) (free : SpecialsFree rt r)
    {operation : Operation} (keeps : KeepsOwner rt r.now operation) :
    Apart rt (record (step rt) r operation) ↔ TellsApart rt r.now r.past operation := by
  have effect := effect keeps
  generalize after : step rt r.now operation = u at effect
  cases effect with
  | nothing idle =>
      have same : SameRecords r.now (step rt r.now operation) := by
        rw [after]
        exact .refl _
      refine iff_of_true ?_ ?_
      · intro id item kind user present submitted
        simp only [record, after, same.submittedAs] at present submitted ⊢
        exact apart id item kind user present submitted
      · cases operation with
        | edit method payload id =>
            intro old present row accepted
            simp [idle old present] at accepted
        | workflow operation =>
            cases operation with
            | submit | reject | delete => trivial
            | rent sessionUser id now => exact .inl idle
            | accept kind sessionUser id => exact idle.imp_right .inl
  | submits pending owned inserted =>
      exact iff_of_true (apart_submit origins apart pending owned (after ▸ inserted)) trivial
  | rejects present deleted => exact iff_of_true (apart_reject apart (after ▸ deleted)) trivial
  | accepts rewrites arrival reserved =>
      rw [apart_rewrites apart (after ▸ rewrites),
        listed_iff_no_special ((listed_of_findStatus arrival).mpr (by decide))]
      simp [TellsApart, rewrites.present, arrival]
  | rents rewrites accepted rented reserved =>
      rw [apart_rewrites apart (after ▸ rewrites),
        listed_iff_no_special ((listed_of_findStatus rented).mpr (by decide))]
      exact (or_iff_right accepted).symm
  | returns rewrites held aval reserved =>
      rw [apart_rewrites apart (after ▸ rewrites),
        listed_iff_no_special ((listed_of_findStatus aval).mpr (by decide))]
      exact iff_of_true (fun user => free _ user held) trivial
  | edits rewrites accepted reserved =>
      rw [apart_rewrites apart (after ▸ rewrites)]
      simp only [TellsApart, rewrites.present, Option.mem_some_iff, forall_eq', accepted]
      obtain ⟨-, kind, user, submitted, -⟩ := origins.known _ _ rewrites.present
      rw [origins.donated_iff submitted]
      constructor
      · exact fun all => all kind user submitted
      · intro here other owner again
        obtain ⟨rfl, -⟩ := origins.one _ _ _ _ _ submitted again
        exact here

end Step

theorem start_accounted (rt : Runtime) {s : Store} (empty : s.inventory.rows = []) :
    Origins rt (.start s) ∧ Apart rt (.start s) ∧ SpecialsFree rt (.start s) := by
  have nothing : ∀ id, s.inventory.find id = none := by
    intro id
    simp [Table.find, empty]
  have unsubmitted : ∀ kind user id, ¬ SubmittedAs rt [] kind user id := by simp [SubmittedAs]
  refine ⟨⟨?_, ?_, ?_, ?_, ?_⟩, ?_, ?_⟩ <;>
    simp [Recorded.start, nothing, unsubmitted, Rejected, Apart, SpecialsFree]

/-- From an empty inventory, the history of every user lists the user's donations
    and nothing else at every point of a run exactly when no step of the run gives a
    special request a status the report is about, or a donation another one. -/
theorem donationHistory_tells (rt : Runtime) {s : Store} (empty : s.inventory.rows = [])
    {operations : List Operation}
    (keeps : ∀ move ∈ Run.steps (step rt) s operations, KeepsOwner rt move.1 move.2) :
    (∀ moment ∈ Run.states (record (step rt)) (.start s) operations, Tells rt moment) ↔
      ∀ move ∈ Run.steps (record (step rt)) (.start s) operations,
        TellsApart rt move.1.now move.1.past move.2 := by
  obtain ⟨origins, apart, free⟩ := start_accounted rt empty
  refine Run.exact_guard_among (fun r operation => KeepsOwner rt r.now operation) (Tells rt)
    (fun r => Origins rt r ∧ SpecialsFree rt r)
    (fun r operation => TellsApart rt r.now r.past operation) ?_ ?_
    (Run.forall_steps_record.mpr keeps) ((tells_iff origins).mpr apart) ⟨origins, free⟩
  · intro r operation owner tells side guard
    exact ⟨origins_step side.1 owner, specialsFree_step side.2 owner guard⟩
  · intro r operation owner tells side
    rw [tells_iff (origins_step side.1 owner)]
    exact apart_step side.1 ((tells_iff side.1).mp tells) side.2 owner

/-- The sample closet before anything has been donated. -/
def emptyCloset : Store := { Store.sample with inventory := .empty, valid := by decide }

/-- Bob donates an item, Ann accepts it, and Bob rents it. -/
def donation : List Operation :=
  [.workflow (.submit .donation (some .sampleUser) .post RequestForm.sample),
    .workflow (.accept .donation (some .sampleAdmin) 1), .workflow (.rent (some .sampleUser) 1 0)]

theorem donationHistory_tells_sample : emptyCloset.inventory.rows = [] ∧
    (∀ move ∈ Run.steps (step .sample) emptyCloset donation, KeepsOwner .sample move.1 move.2) ∧
    ∀ moment ∈ Run.states (record (step .sample)) (.start emptyCloset) donation,
      Tells .sample moment := by
  have empty : emptyCloset.inventory.rows = [] := rfl
  have keeps : ∀ move ∈ Run.steps (step .sample) emptyCloset donation,
      KeepsOwner .sample move.1 move.2 := by decide
  refine ⟨empty, keeps, (donationHistory_tells .sample empty keeps).mpr fun move member => ?_⟩
  simp only [donation, Run.steps, List.mem_cons, List.not_mem_nil, or_false] at member
  rcases member with rfl | rfl | rfl
  · trivial
  · refine .inr (.inr fun user special => ?_)
    simp [SubmittedAs, Submits, record, Recorded.start] at special
  · refine .inr fun user special => ?_
    simp [SubmittedAs, Submits, record, Recorded.start] at special

/-- Bob asks for an item, and Ann accepts. -/
theorem special_request_listed : ¬ ∀ (rt : Runtime) (s : Store) (operations : List Operation),
    s.inventory.rows = [] →
    (∀ move ∈ Run.steps (step rt) s operations, KeepsOwner rt move.1 move.2) →
    ∀ moment ∈ Run.states (record (step rt)) (.start s) operations, Tells rt moment := by
  intro claim
  let request : Operation :=
    .workflow (.submit .special (some .sampleUser) .post RequestForm.sample)
  let acceptance : Operation := .workflow (.accept .special (some .sampleAdmin) 1)
  have told := claim .sample emptyCloset [request, acceptance] rfl (by decide)
    (Run.final (record (step .sample)) (.start emptyCloset) [request, acceptance])
    (by simp [Run.states]) 2
  obtain ⟨shown, result, -, -, specials⟩ := told
  have submitted : SubmittedAs .sample [(emptyCloset, request)] .special 2 1 :=
    ⟨_, List.mem_singleton_self _, some .sampleUser, .post, RequestForm.sample, rfl, by decide,
      ⟨4, 2, 1, 1, 1, "a hood of mine", none, some 2⟩, by decide, rfl⟩
  have unlisted := specials 1 2 (submittedAs_concat.mpr (.inl submitted))
  rw [← shown_eq_rows result] at unlisted
  exact absurd unlisted (by decide)

end WuRegalia.DonationHistory
