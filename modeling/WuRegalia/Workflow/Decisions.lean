import WuRegalia.Controller.Request
import WuRegalia.Lending.Availability
import WuRegalia.Library.TwoPhase

/-! # Accepting and rejecting requests

The four actions that decide a submitted request, each a load and a flush. None
of them reads the status of the record: which record is touched, and whether a
mail goes out, is up to the id in the URL. The main result says exactly which
flushes do what deciding a request of the action's kind should do.
-/

namespace WuRegalia.Workflow

open Relational RequestController
open TwoPhase (State)

inductive Request where
  | accept (kind : RequestKind) (sessionUser : Option SessionUser) (record : Id)
  | reject (kind : RequestKind) (sessionUser : Option SessionUser) (record : Id)
  deriving DecidableEq, Repr

inductive Decision where
  | accept (kind : RequestKind) (sessionUser : Option SessionUser) (decided : Accept)
  | reject (kind : RequestKind) (sessionUser : Option SessionUser) (decided : Reject)
  deriving DecidableEq, Repr

namespace Decision

/-- The kind of request the action is about. -/
def kind : Decision → RequestKind
  | accept kind _ _ | reject kind _ _ => kind

def record : Decision → Id
  | accept _ _ decided => decided.recordid
  | reject _ _ decided => decided.recordid

end Decision

/-- The flush of an action and what comes after it. -/
def act (rt : Runtime) (s : Store) : Decision → Outcome
  | .accept kind sessionUser decided =>
      s.transact (writeAccept decided) (finishAccept kind rt sessionUser decided)
  | .reject kind sessionUser decided =>
      s.transact (writeReject decided) (finishReject kind rt sessionUser decided)

def requests (rt : Runtime) : TwoPhase Closet Request Decision where
  load c
    | .accept kind sessionUser record =>
        (loadAccept record c.store.toTables).decision.map (.accept kind sessionUser)
    | .reject kind sessionUser record =>
        (loadReject record c.store.toTables).decision.map (.reject kind sessionUser)
  flush c decision := c.after (act rt c.store decision)

/-- Nothing coming between, the two steps are the action. -/
theorem handle_accept (rt : Runtime) (c : Closet) (kind : RequestKind)
    (sessionUser : Option SessionUser) (record : Id) :
    (requests rt).handle c (.accept kind sessionUser record) =
      c.after (adminChangeStatusAction kind rt sessionUser record c.store) := by
  unfold adminChangeStatusAction Store.proceed
  simp only [TwoPhase.handle, requests]
  cases loadAccept record c.store.toTables with
  | decides decided => rfl
  | ends result => simp [Loaded.decision, Closet.after]

theorem handle_reject (rt : Runtime) (c : Closet) (kind : RequestKind)
    (sessionUser : Option SessionUser) (record : Id) :
    (requests rt).handle c (.reject kind sessionUser record) =
      c.after (adminRejectSpecialRequestAction kind rt sessionUser record c.store) := by
  unfold adminRejectSpecialRequestAction Store.proceed
  simp only [TwoPhase.handle, requests]
  cases loadReject record c.store.toTables with
  | decides decided => rfl
  | ends result => simp [Loaded.decision, Closet.after]

/-- The record is a request of the kind that has not been decided. -/
def Pending (t : Tables) (kind : RequestKind) (id : Id) : Prop :=
  ∃ item ∈ t.inventory.find id, t.statusName item = some (texts kind).pending

instance (t : Tables) (kind : RequestKind) (id : Id) : Decidable (Pending t kind id) :=
  match found : t.inventory.find id with
  | some item =>
      decidable_of_iff (t.statusName item = some (texts kind).pending) (by simp [Pending, found])
  | none => .isFalse (by simp [Pending, found])

/-- The record is a request of either kind that has not been decided. -/
def Undecided (t : Tables) (id : Id) : Prop := ∃ kind, Pending t kind id

/-- The tables once the request has been decided: the record, and it alone, has
    the status `PENDING_ARRIVAL`, or is gone. -/
def Decision.settle (t : Tables) : Decision → Tables
  | .accept _ _ decided =>
      match t.findStatus "PENDING_ARRIVAL" with
      | some arrival =>
          { t with
            inventory := t.inventory.update decided.recordid (Inventory.setItemStatus arrival) }
      | none => t
  | .reject _ _ decided => t.deleteInventory decided.recordid

/-- A pending request of the action's kind is decided; anything else stays as it
    is, and no mail is sent about it. -/
def Lawful (rt : Runtime) (c : Closet) (decision : Decision) : Prop :=
  let after := (requests rt).flush c decision
  (Pending c.store.toTables decision.kind decision.record →
      after.store.toTables = decision.settle c.store.toTables) ∧
    (¬ Pending c.store.toTables decision.kind decision.record →
      after.store = c.store ∧ after.mail = c.mail)

instance (rt : Runtime) (c : Closet) (decision : Decision) : Decidable (Lawful rt c decision) :=
  inferInstanceAs (Decidable ((_ → _) ∧ (_ → _ ∧ _)))

/-- The step changes the record. -/
def Changes (rt : Runtime) (id : Id) (s : State Closet Decision) (e : TwoPhase.Event Request) :
    Prop :=
  ((requests rt).step s e).store.store.inventory.find id ≠ s.store.store.inventory.find id

instance (rt : Runtime) (id : Id) (s : State Closet Decision) (e : TwoPhase.Event Request) :
    Decidable (Changes rt id s e) :=
  inferInstanceAs (Decidable (_ ≠ _))

/-- No mail can go to the session user. -/
def Unreachable (rt : Runtime) (sessionUser : Option SessionUser) : Prop :=
  ∀ account ∈ sessionUser, rt.acceptsAddress account.email = false

instance (rt : Runtime) (sessionUser : Option SessionUser) :
    Decidable (Unreachable rt sessionUser) :=
  inferInstanceAs (Decidable (∀ _ ∈ _, _))

/-- The record, if it is there, has the status `PENDING_ARRIVAL`. -/
def Arriving (t : Tables) (id : Id) : Prop :=
  ∀ item ∈ t.inventory.find id, t.statusName item = some "PENDING_ARRIVAL"

instance (t : Tables) (id : Id) : Decidable (Arriving t id) :=
  inferInstanceAs (Decidable (∀ _ ∈ _, _))

/-- The flush of an acceptance finds its request pending, or can neither change
    the record nor send a mail. -/
def AcceptsPending (rt : Runtime) (t : Tables) (kind : RequestKind)
    (sessionUser : Option SessionUser) (id : Id) : Prop :=
  Pending t kind id ∨ (Arriving t id ∧ Unreachable rt sessionUser)

/-- The flush of a rejection finds its request pending and not reserved, or finds
    a record that a reservation protects, or none and can send no mail. -/
def RejectsPending (rt : Runtime) (t : Tables) (kind : RequestKind)
    (sessionUser : Option SessionUser) (id : Id) : Prop :=
  (Pending t kind id → ¬ t.Reserved id) ∧
    (¬ Pending t kind id →
      t.Reserved id ∨ (t.inventory.find id = none ∧ Unreachable rt sessionUser))

def FindsPending (rt : Runtime) (c : Closet) : Decision → Prop
  | .accept kind sessionUser decided =>
      AcceptsPending rt c.store.toTables kind sessionUser decided.recordid
  | .reject kind sessionUser decided =>
      RejectsPending rt c.store.toTables kind sessionUser decided.recordid

/-- What an acceptance in flight may rely on: a record that had arrived when it
    was loaded has not gone back. -/
def Known (c : Closet) : Decision → Prop
  | .accept _ _ decided =>
      c.store.findStatus "PENDING_ARRIVAL" = some decided.status ∧
        (decided.record.itemStatus = decided.status →
          ∀ item ∈ c.store.inventory.find decided.recordid, item.itemStatus = decided.status)
  | .reject .. => True

theorem loadAccept_decides {id : Id} {t : Tables} {decided : Accept} :
    loadAccept id t = .decides decided ↔
      decided.recordid = id ∧ t.inventory.find id = some decided.record ∧
        t.findStatus "PENDING_ARRIVAL" = some decided.status := by
  obtain ⟨recordid, record, status⟩ := decided
  unfold loadAccept
  cases present : t.inventory.find id with
  | none => simp
  | some item =>
      cases located : t.findStatus "PENDING_ARRIVAL" with
      | none => simp
      | some arrival =>
          simp only [Loaded.decides.injEq, Accept.mk.injEq, Option.some.injEq]
          exact and_congr_left fun _ => eq_comm

theorem known_of_load {rt : Runtime} {c : Closet} {request : Request} {decision : Decision}
    (loaded : (requests rt).load c request = some decision) : Known c decision := by
  cases request with
  | accept kind sessionUser record =>
      simp only [requests, Option.map_eq_some_iff] at loaded
      obtain ⟨decided, located, rfl⟩ := loaded
      obtain ⟨rfl, present, arrival⟩ := loadAccept_decides.mp (Loaded.decision_eq_some.mp located)
      refine ⟨arrival, fun arrived item there => ?_⟩
      obtain rfl := Option.some.inj (present.symm.trans there)
      exact arrived
  | reject kind sessionUser record =>
      simp only [requests, Option.map_eq_some_iff] at loaded
      obtain ⟨decided, -, rfl⟩ := loaded
      trivial

theorem store_flush (rt : Runtime) (c : Closet) (decision : Decision) :
    ((requests rt).flush c decision).store = match decision with
      | .accept _ _ decided => c.store.committed (writeAccept decided)
      | .reject _ _ decided => c.store.committed (writeReject decided) := by
  cases decision <;> simp [requests, act]

theorem mailToUser_nil (rt : Runtime) (sessionUser : Option SessionUser)
    (text : String × (Id → MailBody)) (id : Id) (next : Except Exception Response) :
    (mailToUser rt sessionUser text id next).1 = [] ↔ Unreachable rt sessionUser := by
  cases sessionUser with
  | none => simp [mailToUser, Unreachable]
  | some account =>
      simp only [mailToUser, sendMail, Unreachable, Option.mem_some_iff, forall_eq']
      split <;> simp_all

/-- An acceptance is always applied. -/
theorem accept_committed {s : Store} {decided : Accept}
    (arrival : s.findStatus "PENDING_ARRIVAL" = some decided.status) :
    (s.committed (writeAccept decided)).toTables = writeAccept decided s.toTables := by
  obtain ⟨status, row, -⟩ := Tables.findStatus_some arrival
  exact Store.committed_of_valid (s.valid.changeItemStatus decided.recordid decided.record row)

/-- A rejection is applied unless a reservation references the record. -/
theorem reject_committed (s : Store) (decided : Reject) :
    (s.committed (writeReject decided)).toTables =
      if s.Reserved decided.recordid then s.toTables else s.deleteInventory decided.recordid := by
  have valid : (writeReject decided s.toTables).Valid ↔ ¬ s.Reserved decided.recordid :=
    s.valid.deleteInventory decided.recordid
  split
  · rename_i reserved
    rw [Store.committed_of_invalid (fun applied => valid.mp applied reserved)]
  · rename_i free
    exact Store.committed_of_valid (valid.mpr free)

/-- Neither decision writes a status row. -/
theorem status_flush (rt : Runtime) (c : Closet) (decision : Decision) :
    ((requests rt).flush c decision).store.status = c.store.status := by
  rw [store_flush]
  cases decision with
  | accept kind sessionUser decided =>
      exact c.store.committed_keeps Tables.status (by simp [writeAccept])
  | reject kind sessionUser decided => exact c.store.committed_keeps Tables.status rfl

/-- A record that is there after a flush was there before it, and if its status
    was written, it is the one of the acceptance. -/
theorem find_flush {rt : Runtime} {c : Closet} {decision : Decision} (known : Known c decision)
    {id : Id} {item : Inventory}
    (found : ((requests rt).flush c decision).store.inventory.find id = some item) :
    c.store.inventory.find id = some item ∨
      ∃ before, c.store.inventory.find id = some before ∧ decision.record = id ∧
        c.store.findStatus "PENDING_ARRIVAL" = some item.itemStatus := by
  rw [store_flush] at found
  cases decision with
  | accept kind sessionUser decided =>
      simp only [accept_committed known.1, writeAccept, Tables.changeItemStatus_find] at found
      split at found
      · rename_i written
        obtain ⟨before, present, rfl⟩ := Option.map_eq_some_iff.mp found
        exact .inr ⟨before, present, written.1.symm, known.1⟩
      · exact .inl found
  | reject kind sessionUser decided =>
      simp only [reject_committed] at found
      split at found
      · exact .inl found
      · simp only [Tables.deleteInventory, Table.find_delete] at found
        split at found
        · cases found
        · exact .inl found

theorem known_flush (rt : Runtime) (c : Closet) (flushed decision : Decision)
    (knownFlushed : Known c flushed) (known : Known c decision) :
    Known ((requests rt).flush c flushed) decision := by
  cases decision with
  | reject kind sessionUser decided => trivial
  | accept kind sessionUser decided =>
      have status : ((requests rt).flush c flushed).store.findStatus "PENDING_ARRIVAL" =
          some decided.status := by
        unfold Tables.findStatus
        rw [status_flush]
        exact known.1
      refine ⟨status, fun arrived item there => ?_⟩
      cases find_flush knownFlushed there with
      | inl before => exact known.2 arrived item before
      | inr written =>
          obtain ⟨-, -, -, arrival⟩ := written
          exact Option.some.inj (arrival.symm.trans known.1)

theorem mail_accept (rt : Runtime) {c : Closet} (kind : RequestKind)
    (sessionUser : Option SessionUser) {decided : Accept}
    (arrival : c.store.findStatus "PENDING_ARRIVAL" = some decided.status) :
    ((requests rt).flush c (.accept kind sessionUser decided)).mail = c.mail ↔
      Unreachable rt sessionUser := by
  obtain ⟨status, row, -⟩ := Tables.findStatus_some arrival
  have valid : (writeAccept decided c.store.toTables).Valid :=
    c.store.valid.changeItemStatus decided.recordid decided.record row
  simp [requests, act, Store.transact, Store.flush, valid, finishAccept, mailToUser_nil]

theorem mail_reject (rt : Runtime) (c : Closet) (kind : RequestKind)
    (sessionUser : Option SessionUser) (decided : Reject) :
    ((requests rt).flush c (.reject kind sessionUser decided)).mail = c.mail ↔
      c.store.Reserved decided.recordid ∨ Unreachable rt sessionUser := by
  have valid : (writeReject decided c.store.toTables).Valid ↔ ¬ c.store.Reserved decided.recordid :=
    c.store.valid.deleteInventory decided.recordid
  by_cases reserved : c.store.Reserved decided.recordid
  · have invalid : ¬ (writeReject decided c.store.toTables).Valid :=
      fun applied => valid.mp applied reserved
    simp [requests, act, Store.transact_mail_of_invalid invalid, reserved]
  · simp [requests, act, Store.transact, Store.flush, valid.mpr reserved, finishReject,
      mailToUser_nil, reserved]

theorem arriving_iff {s : Store} {arrival : Id} (id : Id)
    (located : s.findStatus "PENDING_ARRIVAL" = some arrival) :
    Arriving s.toTables id ↔ ∀ item ∈ s.inventory.find id, item.itemStatus = arrival := by
  unfold Arriving
  refine forall₂_congr fun item _ => ?_
  rw [s.valid.statusName_iff, located, Option.some.injEq, eq_comm]

/-- A record cannot have arrived and be pending. -/
theorem not_arriving_of_pending {t : Tables} {kind : RequestKind} {id : Id}
    (pending : Pending t kind id) : ¬ Arriving t id := by
  intro arriving
  obtain ⟨item, present, named⟩ := pending
  have names := Option.some.inj (named.symm.trans (arriving item present))
  cases kind <;> exact absurd names (by decide)

theorem lawful_accept (rt : Runtime) (c : Closet) (kind : RequestKind)
    (sessionUser : Option SessionUser) (decided : Accept)
    (known : Known c (.accept kind sessionUser decided)) :
    Lawful rt c (.accept kind sessionUser decided) ↔
      AcceptsPending rt c.store.toTables kind sessionUser decided.recordid := by
  obtain ⟨arrival, arrived⟩ := known
  have store : ((requests rt).flush c (.accept kind sessionUser decided)).store.toTables =
      writeAccept decided c.store.toTables := by
    rw [store_flush, accept_committed arrival]
  have mail := mail_accept rt kind sessionUser arrival
  have arriving := arriving_iff decided.recordid arrival
  unfold Lawful AcceptsPending
  by_cases pending : Pending c.store.toTables kind decided.recordid
  · -- the record had not arrived when it was loaded, so its status is written
    have differs : decided.record.itemStatus ≠ decided.status := fun same =>
      not_arriving_of_pending pending (arriving.mpr (arrived same))
    simp [Decision.kind, Decision.record, pending, store, Decision.settle, arrival, writeAccept,
      Tables.changeItemStatus, differs]
  · simp only [Decision.kind, Decision.record, pending, false_implies, not_false_eq_true,
      true_implies, true_and, false_or, mail, arriving]
    refine and_congr_left fun _ => ?_
    constructor
    · intro same item present
      have after : (writeAccept decided c.store.toTables).inventory.find decided.recordid =
          some item := by
        rw [← store, same]
        exact present
      by_cases differs : decided.record.itemStatus = decided.status
      · exact arrived differs item present
      · simp only [writeAccept, Tables.changeItemStatus_find, differs, ne_eq, not_false_eq_true,
          and_self, if_true] at after
        obtain ⟨before, -, rfl⟩ := Option.map_eq_some_iff.mp after
        rfl
    · intro all
      apply Store.eq_of_toTables
      rw [store, writeAccept, Tables.changeItemStatus]
      split
      · rfl
      · rw [Table.update_same fun item present => ?_]
        rw [← all item present]
        rfl

theorem lawful_reject (rt : Runtime) (c : Closet) (kind : RequestKind)
    (sessionUser : Option SessionUser) (decided : Reject) :
    Lawful rt c (.reject kind sessionUser decided) ↔
      RejectsPending rt c.store.toTables kind sessionUser decided.recordid := by
  have store : ((requests rt).flush c (.reject kind sessionUser decided)).store.toTables = _ :=
    (congrArg Store.toTables (store_flush rt c _)).trans (reject_committed c.store decided)
  have mail := mail_reject rt c kind sessionUser decided
  -- a record that is there is not there any more once it is deleted
  have deleted : c.store.deleteInventory decided.recordid = c.store.toTables ↔
      c.store.inventory.find decided.recordid = none := by
    constructor
    · intro same
      have absent : (c.store.deleteInventory decided.recordid).inventory.find decided.recordid = none := by
        simp [Tables.deleteInventory, Table.find_delete]
      rwa [same] at absent
    · intro missing
      simp [Tables.deleteInventory, Table.delete_missing missing]
  unfold Lawful RejectsPending
  simp only [Decision.kind, Decision.record, Decision.settle, mail]
  refine and_congr (forall_congr' fun pending => ?_) (forall_congr' fun _ => ?_)
  · obtain ⟨item, present, -⟩ := pending
    rw [store]
    split
    · rename_i reserved
      refine iff_of_false (fun same => ?_) (fun free => free reserved)
      exact absurd ((deleted.mp same.symm).symm.trans present) (by simp)
    · rename_i free
      exact iff_of_true rfl free
  · have same : ((requests rt).flush c (.reject kind sessionUser decided)).store = c.store ↔
        c.store.Reserved decided.recordid ∨ c.store.inventory.find decided.recordid = none := by
      constructor
      · intro unchanged
        rw [unchanged] at store
        split at store
        · rename_i reserved
          exact .inl reserved
        · exact .inr (deleted.mp store.symm)
      · intro either
        apply Store.eq_of_toTables
        rw [store]
        split
        · rfl
        · rename_i free
          exact deleted.mpr (either.resolve_left free)
    rw [same]
    tauto

theorem lawful_iff (rt : Runtime) {c : Closet} {decision : Decision} (known : Known c decision) :
    Lawful rt c decision ↔ FindsPending rt c decision := by
  cases decision with
  | accept kind sessionUser decided => exact lawful_accept rt c kind sessionUser decided known
  | reject kind sessionUser decided => exact lawful_reject rt c kind sessionUser decided

/-- After a lawful flush its record is not a pending request any more. -/
theorem not_undecided_of_lawful {rt : Runtime} {c : Closet} {decision : Decision}
    (known : Known c decision) (lawful : Lawful rt c decision)
    (pending : Pending c.store.toTables decision.kind decision.record) :
    ¬ Undecided ((requests rt).flush c decision).store.toTables decision.record := by
  intro undecided
  obtain ⟨kind, item, present, named⟩ := undecided
  rw [lawful.1 pending] at present named
  cases decision with
  | accept asked sessionUser decided =>
      simp only [Decision.settle, known.1, Decision.record, Table.find_update, if_true]
        at present named
      obtain ⟨before, -, rfl⟩ := Option.map_eq_some_iff.mp present
      obtain ⟨status, row, arrival⟩ := Tables.findStatus_some known.1
      simp only [Tables.statusName, Inventory.setItemStatus, row, Option.map_some, arrival,
        Option.some.injEq] at named
      cases kind <;> exact absurd named (by decide)
  | reject asked sessionUser decided =>
      simp [Decision.settle, Decision.record, Tables.deleteInventory, Table.find_delete] at present

/-- A lawful flush leaves every record alone but a pending one it decides. -/
theorem find_of_lawful {rt : Runtime} {c : Closet} {decision : Decision}
    (lawful : Lawful rt c decision) {id : Id}
    (other : decision.record = id → ¬ Pending c.store.toTables decision.kind decision.record) :
    ((requests rt).flush c decision).store.inventory.find id = c.store.inventory.find id := by
  by_cases pending : Pending c.store.toTables decision.kind decision.record
  · have different : id ≠ decision.record := fun same => other same.symm pending
    rw [lawful.1 pending]
    cases decision with
    | accept asked sessionUser decided =>
        simp only [Decision.settle]
        split
        · simp only [Table.find_update]
          exact if_neg different
        · rfl
    | reject asked sessionUser decided =>
        simp only [Decision.settle, Tables.deleteInventory, Table.find_delete]
        exact if_neg different
  · rw [(lawful.2 pending).1]

theorem undecided_congr {t u : Tables} {id : Id} (status : u.status = t.status)
    (found : u.inventory.find id = t.inventory.find id) : Undecided u id ↔ Undecided t id := by
  unfold Undecided Pending Tables.statusName
  rw [status, found]

/-- The actions decide pending requests of their kind and do nothing else, and
    no record is decided twice. -/
def DecidesOnce (rt : Runtime) (c : Closet) (events : List (TwoPhase.Event Request)) : Prop :=
  (∀ move ∈ Run.steps (requests rt).step (State.quiet c) events,
      TwoPhase.FlushGuard (Lawful rt) move.1 move.2) ∧
    ∀ id, (Run.steps (requests rt).step (State.quiet c) events).countP
      (fun move => Changes rt id move.1 move.2) ≤ 1

theorem tracks (rt : Runtime) (c : Closet) (events : List (TwoPhase.Event Request)) :
    ∀ t ∈ Run.states (requests rt).step (State.quiet c) events, t.Tracks Known :=
  TwoPhase.tracks_states (fun _ _ _ loaded => known_of_load loaded)
    (fun c flushed decision knownFlushed known => known_flush rt c flushed decision knownFlushed known)
    c events

theorem changed_once {rt : Runtime} {c : Closet} {events : List (TwoPhase.Event Request)}
    (lawful : ∀ move ∈ Run.steps (requests rt).step (State.quiet c) events,
      TwoPhase.FlushGuard (Lawful rt) move.1 move.2) (id : Id) :
    (Run.steps (requests rt).step (State.quiet c) events).countP
      (fun move => Changes rt id move.1 move.2) ≤ 1 := by
  have known := tracks rt c events
  -- one step: either it decides the record, which was pending, or it leaves it alone
  have each : ∀ t e, (t, e) ∈ Run.steps (requests rt).step (State.quiet c) events →
      (Undecided t.store.store.toTables id ∧
          ¬ Undecided ((requests rt).step t e).store.store.toTables id) ∨
        (¬ Changes rt id t e ∧ (Undecided ((requests rt).step t e).store.store.toTables id ↔
          Undecided t.store.store.toTables id)) := by
    intro t e move
    have tracked := known t (Run.states_of_mem_steps move).1
    have guard := lawful (t, e) move
    cases e with
    | load slot request =>
        right
        simp only [Changes, TwoPhase.step]
        split <;> simp
    | flush slot =>
        simp only [Changes, TwoPhase.step]
        simp only [TwoPhase.FlushGuard] at guard
        split
        · simp
        · rename_i decision located
          rw [located] at guard
          simp only at guard ⊢
          by_cases decides : decision.record = id ∧
              Pending t.store.store.toTables decision.kind decision.record
          · obtain ⟨rfl, pending⟩ := decides
            exact .inl ⟨⟨_, pending⟩,
              not_undecided_of_lawful (tracked slot decision located) guard pending⟩
          · have kept : ((requests rt).flush t.store decision).store.inventory.find id =
                t.store.store.inventory.find id :=
              find_of_lawful guard fun same pending => decides ⟨same, pending⟩
            exact .inr ⟨not_not.mpr kept, undecided_congr (status_flush rt _ decision) kept⟩
  apply Run.once (fun t => Undecided t.store.store.toTables id)
  · intro t e move changes
    exact ((each t e move).resolve_right fun other => other.1 changes).1
  · intro t e move changes
    exact ((each t e move).resolve_right fun other => other.1 changes).2
  · intro t e move closed
    cases each t e move with
    | inl decided => exact decided.2
    | inr other => exact fun opened => closed (other.2.mp opened)

/-- An interleaving of acceptances and rejections decides every request at most
    once and touches nothing else exactly when each flush finds its request
    pending, or finds nothing it could do. -/
theorem interleaving_decides_once (rt : Runtime) (c : Closet)
    (events : List (TwoPhase.Event Request)) :
    DecidesOnce rt c events ↔
      ∀ move ∈ Run.steps (requests rt).step (State.quiet c) events,
        TwoPhase.FlushGuard (FindsPending rt) move.1 move.2 := by
  have each : ∀ move ∈ Run.steps (requests rt).step (State.quiet c) events,
      (TwoPhase.FlushGuard (Lawful rt) move.1 move.2 ↔
        TwoPhase.FlushGuard (FindsPending rt) move.1 move.2) := by
    intro move member
    have tracked := tracks rt c events move.1 (Run.states_of_mem_steps member).1
    obtain ⟨t, e⟩ := move
    cases e with
    | load slot request => exact Iff.rfl
    | flush slot =>
        simp only [TwoPhase.FlushGuard]
        cases located : t.pending slot with
        | none => exact Iff.rfl
        | some decision => exact lawful_iff rt (tracked slot decision located)
  constructor
  · intro once move member
    exact (each move member).mp (once.1 move member)
  · intro guards
    have lawful := fun move member => (each move member).mpr (guards move member)
    exact ⟨lawful, changed_once lawful⟩

/-- A special request is submitted, and then accepted as if it were a donation. -/
theorem special_request_accepted_as_donation : ¬ ∀ (rt : Runtime) (s : Store)
    (operations : List Availability.Operation) (events : List (TwoPhase.Event Request)),
    DecidesOnce rt (Run.final (Availability.step rt) ⟨s, []⟩ operations) events := by
  intro claim
  have once := claim .sample .sample [.submit .special (some .sampleUser) .post RequestForm.sample]
    [.load 0 (.accept .donation (some .sampleAdmin) 4), .flush 0]
  exact absurd once.1 (by decide)

end WuRegalia.Workflow
