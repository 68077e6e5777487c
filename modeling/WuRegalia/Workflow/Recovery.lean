import WuRegalia.Lending.Availability
import WuRegalia.Navigation.SentBack

/-! # Getting everything back

No item is out of reach for good, whatever the requests before were: an administrator puts
it back with one request. A reserved item comes back by the link that deletes its
reservation, any other one by its edit page.
-/

namespace WuRegalia

open Relational Availability

/-- The item can be had: it is available and nobody has reserved it. -/
def Tables.Shelved (t : Tables) (id : Id) : Prop := IsAvailable t id ∧ ¬ t.Reserved id

instance (t : Tables) (id : Id) : Decidable (t.Shelved id) := inferInstanceAs (Decidable (_ ∧ _))

/-- What is left of an item that is put back under the key of `AVAL`. -/
def Inventory.PutBack (aval : Id) (item row : Inventory) : Prop :=
  row = item.setItemStatus aval ∨ row = item.shown aval

theorem Inventory.PutBack.itemStatus {aval : Id} {item row : Inventory}
    (same : item.PutBack aval row) : row.itemStatus = aval := by
  cases same with
  | inl set => rw [set, Inventory.setItemStatus]
  | inr shown => rw [shown, Inventory.shown]

/-- The items of a list have been put back, and nothing else has happened to the items. -/
structure Restocked (aval : Id) (v u : World) (ids : List Id) : Prop where
  sessions : u.sessions = v.sessions
  mail : u.mail = v.mail
  status : u.store.status = v.store.status
  items : ∀ id ∈ ids, ∀ item ∈ v.store.inventory.find id,
    ∃ row ∈ u.store.inventory.find id, item.PutBack aval row
  free : ∀ id ∈ ids, ¬ u.store.Reserved id
  others : ∀ id ∉ ids, u.store.inventory.find id = v.store.inventory.find id
  reserved : ∀ id ∉ ids, (u.store.Reserved id ↔ v.store.Reserved id)

namespace Restocked

variable {aval : Id}

theorem nil (v : World) : Restocked aval v v [] where
  sessions := rfl
  mail := rfl
  status := rfl
  items := by
    intro id inside
    cases inside
  free := by
    intro id inside
    cases inside
  others _ _ := rfl
  reserved _ _ := Iff.rfl

/-- One item more, put back first. -/
theorem cons {v u x : World} {id : Id} {ids : List Id} (first : Restocked aval v u [id])
    (rest : Restocked aval u x ids) (apart : id ∉ ids) : Restocked aval v x (id :: ids) where
  sessions := rest.sessions.trans first.sessions
  mail := rest.mail.trans first.mail
  status := rest.status.trans first.status
  items := by
    intro other inside item there
    rcases List.mem_cons.mp inside with rfl | later
    · rw [rest.others other apart]
      exact first.items other (List.mem_singleton_self other) item there
    · have different : other ∉ [id] := fun same => apart (List.mem_singleton.mp same ▸ later)
      rw [← first.others other different] at there
      exact rest.items other later item there
  free := by
    intro other inside
    rcases List.mem_cons.mp inside with rfl | later
    · rw [rest.reserved other apart]
      exact first.free other (List.mem_singleton_self other)
    · exact rest.free other later
  others := by
    intro other outside
    obtain ⟨different, missing⟩ := not_or.mp (mt List.mem_cons.mpr outside)
    exact (rest.others other missing).trans
      (first.others other (mt List.mem_singleton.mp different))
  reserved := by
    intro other outside
    obtain ⟨different, missing⟩ := not_or.mp (mt List.mem_cons.mpr outside)
    exact (rest.reserved other missing).trans
      (first.reserved other (mt List.mem_singleton.mp different))

/-- One item is put back by what writes its row and no other, and sends no mail. -/
theorem of_write {v : World} {u : Store} {id : Id} {item row : Inventory}
    {result : Except Exception Response} (there : v.store.inventory.find id = some item)
    (status : u.status = v.store.status)
    (written : ∀ other, u.inventory.find other =
      if other = id then some row else v.store.inventory.find other)
    (back : item.PutBack aval row)
    (freed : ∀ other, u.Reserved other ↔ other ≠ id ∧ v.store.Reserved other) :
    Restocked aval v { v with toCloset := v.toCloset.after ⟨u, [], result⟩ } [id] where
  sessions := rfl
  mail := List.append_nil v.mail
  status := status
  items := by
    intro other inside old found
    obtain rfl := List.mem_singleton.mp inside
    obtain rfl := Option.some.inj (there.symm.trans found)
    exact ⟨row, (written other).trans (if_pos rfl), back⟩
  free := by
    intro other inside reserved
    exact ((freed other).mp reserved).1 (List.mem_singleton.mp inside)
  others := by
    intro other outside
    exact (written other).trans (if_neg (mt List.mem_singleton.mpr outside))
  reserved := by
    intro other outside
    exact (freed other).trans (and_iff_right (mt List.mem_singleton.mpr outside))

theorem findStatus {v u : World} {ids : List Id} (restocked : Restocked aval v u ids)
    (name : String) : u.store.findStatus name = v.store.findStatus name := by
  unfold Tables.findStatus
  rw [restocked.status]

theorem holdsAdmin {v u : World} {ids : List Id} (restocked : Restocked aval v u ids)
    {sid : SessionId} (admin : v.HoldsAdmin sid) : u.HoldsAdmin sid := by
  unfold World.HoldsAdmin World.roles
  rw [restocked.sessions]
  exact admin

end Restocked

/-- The request follows the delete link of the item's reservation, or sends the item's edit
    page back with the status. -/
inductive Repairs (aval : Id) (t : Tables) (id : Id) (req : Request) : Prop where
  | link (key : Id) (reservation : Reservation)
      (found : t.reservation.find key = some reservation) (about : reservation.item = id)
      (visits : req.method = .get) (empty : req.payload = [])
      (leads : generate "reservation_delete" (some (digits key)) = some req.path) :
      Repairs aval t id req
  | page (item : Inventory) (there : t.inventory.find id = some item)
      (posts : req.method = .post) (body : req.payload = [("inventory", item.page aval)])
      (leads : generate "inventory_edit" (some (digits id)) = some req.path) :
      Repairs aval t id req

/-- A request that is answered, and puts the item back. -/
structure PutsBack (rt : Runtime) (aval : Id) (v : World) (id : Id) (req : Request) : Prop where
  repairs : Repairs aval v.store.toTables id req
  trimmed : req.payload.Trimmed
  answered : ∃ answer, (handle rt req v).2 = .ok answer
  restocked : Restocked aval v (World.step rt v req) [id]

section OneItem

variable {rt : Runtime} {v : World} {sid : SessionId} {aval id : Id}

/-- The reservation of the item is deleted. -/
theorem putsBack_reserved (admin : v.HoldsAdmin sid)
    (known : v.store.findStatus "AVAL" = some aval) (reserved : v.store.Reserved id) :
    ∃ req : Request, req.session = sid ∧ PutsBack rt aval v id req := by
  obtain ⟨key, reservation, found, rfl⟩ := reserved
  have declared : ∃ route ∈ routes, route.name = "reservation_delete" ∧
      route.action = .reservationDelete ∧ route.keyed = true ∧ route.allows .get = true := by
    decide
  obtain ⟨path, args, url, read, leads⟩ := passage_keyed declared (by decide) admin key
  have repairs : Repairs aval v.store.toTables reservation.item (.visit sid .get path) :=
    .link key reservation found rfl rfl rfl url
  obtain ⟨ret, u, decides, after, -, outcome⟩ :=
    (ReservationController.deleteAction_cases key v.store).resolve_right fun stopped =>
      stopped.1.elim (by simp [found]) (by simp [known])
  have acted : dispatch rt .reservationDelete args (.visit sid .get path)
      (v.sessions sid) v.store = ⟨u, [], redirectToRoute "reservation_index" none⟩ := by
    simp only [dispatch, read]
    exact outcome
  obtain ⟨answered, stepped⟩ := action_taken (leads (.visit sid .get path) rfl rfl) acted
  have kept := ReservationController.known_of_load decides
  obtain ⟨rfl, ⟨other, same, itemid⟩, present, status⟩ :=
    ReservationController.load_decides.mp decides
  obtain rfl := Option.some.inj (found.symm.trans same)
  obtain rfl := Option.some.inj (known.symm.trans status)
  have written : ∀ other, u.inventory.find other =
      if other = ret.itemid then some (ret.item.setItemStatus ret.status)
      else v.store.inventory.find other := by
    intro other
    rw [after, ReservationController.write, Tables.deleteReservation]
    exact Tables.changeItemStatus_find_of_present _ _ _ _ present other
  refine ⟨.visit sid .get path, rfl, ?_⟩
  constructor
  case repairs => exact repairs
  case trimmed =>
    intro sent inside
    cases inside
  case answered =>
    have declared : "reservation_index" ∈ routes.map Route.name := by decide
    exact ⟨_, answered.trans (redirectToRoute_declared declared none)⟩
  case restocked =>
    rw [stepped, itemid]
    refine .of_write present ?_ written (.inl rfl) fun other => ?_
    · rw [after]
      exact (ReservationController.sameStock_write ret v.store.toTables).status
    · rw [after]
      exact kept.reserved_write v.store.valid found other

/-- The edit page of the item is sent back with the status. -/
theorem putsBack_edited (described : v.store.toTables.Described) (admin : v.HoldsAdmin sid)
    (known : v.store.findStatus "AVAL" = some aval) {item : Inventory}
    (there : v.store.inventory.find id = some item) (free : ¬ v.store.Reserved id) :
    ∃ req : Request, req.session = sid ∧ PutsBack rt aval v id req := by
  obtain ⟨name, listed, -⟩ := Tables.findStatus_some known
  have suits : item.Described := described_iff.mp described id item there
  have declared : ∃ route ∈ routes, route.name = "inventory_edit" ∧
      route.action = .inventory .edit ∧ route.keyed = true ∧ route.allows .post = true := by
    decide
  obtain ⟨path, -, leads, -⟩ := passage_keyed declared (by decide) admin id
  let req : Request := .post sid path [("inventory", item.page aval)]
  obtain ⟨u, after, answered, stepped⟩ :=
    page_written rt req there suits listed admin leads rfl rfl
  have written : ∀ other, u.inventory.find other =
      if other = id then some (item.shown aval) else v.store.inventory.find other := by
    intro other
    rw [after, Tables.updateInventory, Table.find_update]
    split
    · rename_i here
      rw [here, there, Option.map_some]
    · rfl
  refine ⟨req, rfl, ?_⟩
  constructor
  case repairs => exact .page item there rfl rfl leads
  case trimmed => exact page_trimmed suits aval
  case answered => exact ⟨_, answered⟩
  case restocked =>
    rw [stepped]
    refine .of_write there ?_ written (.inr rfl) fun other => ?_
    · rw [after, Tables.updateInventory]
    · rw [after]
      exact (and_iff_right_of_imp fun reserved (here : other = id) => free (here ▸ reserved)).symm

end OneItem

section AnyNumber

variable (rt : Runtime) {sid : SessionId} {aval : Id}

/-- Put back one after the other, each of the items stays put back. -/
theorem restocked_run (ids : List Id) (apart : ids.Nodup) {v : World}
    (described : v.store.toTables.Described) (admin : v.HoldsAdmin sid)
    (known : v.store.findStatus "AVAL" = some aval)
    (there : ∀ id ∈ ids, ∃ item, v.store.inventory.find id = some item) :
    ∃ repairs : List Request, repairs.length = ids.length ∧
      (∀ req ∈ repairs, req.session = sid) ∧
      List.Forall₂ (fun id move => Repairs aval move.1.store.toTables id move.2) ids
        (Run.steps (World.step rt) v repairs) ∧
      (∀ move ∈ Run.steps (World.step rt) v repairs,
        ∃ answer, (handle rt move.2 move.1).2 = .ok answer) ∧
      Restocked aval v (Run.final (World.step rt) v repairs) ids := by
  induction ids generalizing v with
  | nil =>
      refine ⟨[], rfl, ?_, .nil, ?_, .nil v⟩
      · intro req inside
        cases inside
      · intro move inside
        cases inside
  | cons id ids ih =>
      obtain ⟨outside, later⟩ := List.nodup_cons.mp apart
      obtain ⟨item, present⟩ := there id List.mem_cons_self
      obtain ⟨req, session, back⟩ : ∃ req : Request, req.session = sid ∧
          PutsBack rt aval v id req := by
        by_cases reserved : v.store.Reserved id
        · exact putsBack_reserved admin known reserved
        · exact putsBack_edited described admin known present reserved
      have restocked := back.restocked
      have describedAfter : (World.step rt v req).store.toTables.Described :=
        described_iff.mpr
          (step_preserved rt (described_preserved back.trimmed) (described_iff.mp described))
      have thereAfter : ∀ other ∈ ids,
          ∃ kept, (World.step rt v req).store.inventory.find other = some kept := by
        intro other inside
        have different : other ∉ [id] := fun same => outside (List.mem_singleton.mp same ▸ inside)
        rw [restocked.others other different]
        exact there other (List.mem_cons_of_mem id inside)
      obtain ⟨repairs, length, sessions, repaired, answered, rest⟩ := ih later describedAfter
        (restocked.holdsAdmin admin) ((restocked.findStatus "AVAL").trans known) thereAfter
      refine ⟨req :: repairs, congrArg Nat.succ length, ?_, .cons back.repairs repaired, ?_,
        restocked.cons rest outside⟩
      · intro other inside
        rcases List.mem_cons.mp inside with rfl | inside
        · exact session
        · exact sessions other inside
      · intro move inside
        rcases List.mem_cons.mp inside with rfl | inside
        · exact back.answered
        · exact answered move inside

end AnyNumber

/-- The items that cannot be had. -/
def Tables.outOfReach (t : Tables) : List Id :=
  (t.inventory.rows.filter fun row => ¬ t.Shelved row.1).map Prod.fst

theorem mem_outOfReach {t : Tables} {id : Id} :
    id ∈ t.outOfReach ↔ ¬ t.Shelved id ∧ ∃ item, t.inventory.find id = some item := by
  simp only [Tables.outOfReach, List.mem_map, List.mem_filter, Prod.exists, exists_and_right,
    exists_eq_right, Table.mem_rows_iff, decide_eq_true_eq]
  exact and_comm

theorem nodup_outOfReach (t : Tables) : t.outOfReach.Nodup :=
  List.pairwise_map.mpr
    ((t.inventory.ascending.filter _).imp fun before same => Nat.ne_of_lt before same)

/-- After any run an administrator's session gets everything back. It takes one repair for
    each item that cannot be had, each of them is answered, and then every item can be had
    and is what it was but for its status and the line breaks in its texts. The items that
    could be had before are left alone. -/
theorem closet_recoverable (rt : Runtime) {w : World} (start : w.store.toTables.Described)
    {requests : List Request} (trimmed : ∀ req ∈ requests, req.payload.Trimmed)
    {sid : SessionId} (admin : (Run.final (World.step rt) w requests).HoldsAdmin sid) {aval : Id}
    (known : (Run.final (World.step rt) w requests).store.findStatus "AVAL" = some aval) :
    let v := Run.final (World.step rt) w requests
    ∃ repairs : List Request, repairs.length = v.store.outOfReach.length ∧
      (∀ req ∈ repairs, req.session = sid) ∧
      List.Forall₂ (fun id move => Repairs aval move.1.store.toTables id move.2)
        v.store.outOfReach (Run.steps (World.step rt) v repairs) ∧
      (∀ move ∈ Run.steps (World.step rt) v repairs,
        ∃ answer, (handle rt move.2 move.1).2 = .ok answer) ∧
      let u := Run.final (World.step rt) v repairs
      u.mail = v.mail ∧ u.store.reservation.rows = [] ∧
      (∀ id, v.store.inventory.find id = none → u.store.inventory.find id = none) ∧
      ∀ id item, v.store.inventory.find id = some item → u.store.Shelved id ∧
        ∃ row ∈ u.store.inventory.find id,
          if v.store.Shelved id then row = item else item.PutBack aval row := by
  intro v
  have described : v.store.toTables.Described :=
    described_iff.mpr (run_preserved rt (fun req member => described_preserved (trimmed req member))
      (described_iff.mp start) v (Run.final_mem_states _ w requests))
  obtain ⟨repairs, length, sessions, repaired, answered, restocked⟩ :=
    restocked_run rt v.store.outOfReach (nodup_outOfReach _) described admin known
      fun id out => (mem_outOfReach.mp out).2
  refine ⟨repairs, length, sessions, repaired, answered, ?_⟩
  intro u
  have aval_u : u.store.findStatus "AVAL" = some aval := (restocked.findStatus "AVAL").trans known
  have missing : ∀ id, v.store.inventory.find id = none → u.store.inventory.find id = none := by
    intro id absent
    rw [restocked.others id fun out => ?_, absent]
    obtain ⟨-, item, there⟩ := mem_outOfReach.mp out
    rw [absent] at there
    cases there
  have back : ∀ id item, v.store.inventory.find id = some item → u.store.Shelved id ∧
      ∃ row ∈ u.store.inventory.find id,
        if v.store.Shelved id then row = item else item.PutBack aval row := by
    intro id item there
    split
    · rename_i shelved
      have outside : id ∉ v.store.outOfReach := fun out => (mem_outOfReach.mp out).1 shelved
      have found : u.store.inventory.find id = some item := (restocked.others id outside).trans there
      have status : u.store.statusName item = some "AVAL" := by
        obtain ⟨⟨row, same, available⟩, -⟩ := shelved
        obtain rfl := Option.some.inj (there.symm.trans same)
        rw [u.store.valid.statusName_iff, aval_u, ← known, ← v.store.valid.statusName_iff,
          available]
      have free : ¬ u.store.Reserved id := mt (restocked.reserved id outside).mp shelved.2
      exact ⟨⟨⟨item, found, status⟩, free⟩, item, found, rfl⟩
    · rename_i out
      have inside : id ∈ v.store.outOfReach := mem_outOfReach.mpr ⟨out, item, there⟩
      obtain ⟨row, found, same⟩ := restocked.items id inside item there
      have status : u.store.statusName row = some "AVAL" := by
        rw [u.store.valid.statusName_iff, aval_u, same.itemStatus]
      exact ⟨⟨⟨row, found, status⟩, restocked.free id inside⟩, row, found, same⟩
  refine ⟨restocked.mail, ?_, missing, back⟩
  refine List.eq_nil_iff_forall_not_mem.mpr fun row inside => ?_
  have held := Table.find_of_mem inside
  obtain ⟨item, there⟩ := u.store.valid.reservationInventory.target held rfl
  cases before : v.store.inventory.find row.2.item with
  | none =>
      have gone := missing row.2.item before
      rw [there] at gone
      cases gone
  | some item => exact (back row.2.item item before).1.2 ⟨row.1, row.2, held, rfl⟩

/-- Bob has the first gown and offers a hood, and Ann signs in. -/
def Request.outstanding : List Request :=
  [.signIn 1 "jonesb", .visit 1 .get "/rent/1", .post 1 "/donation_request" RequestForm.sample,
    .signIn 0 "smitha"]

theorem closet_recoverable_sample :
    let v := Run.final (World.step .sample) .sample Request.outstanding
    ∃ repairs : List Request, repairs.length = 2 ∧
      let u := Run.final (World.step .sample) v repairs
      u.store.reservation.rows = [] ∧ u.store.Shelved 1 ∧ u.store.Shelved 4 := by
  intro v
  have start : World.sample.store.toTables.Described := by decide
  have trimmed : ∀ req ∈ Request.outstanding, req.payload.Trimmed := by decide
  have admin : v.HoldsAdmin 0 := by decide
  have known : v.store.findStatus "AVAL" = some 1 := by decide
  obtain ⟨repairs, length, -, -, -, -, emptied, -, back⟩ :=
    closet_recoverable .sample start trimmed admin known
  have two : v.store.outOfReach.length = 2 := by decide
  obtain ⟨gown, here⟩ : ∃ item, v.store.inventory.find 1 = some item := ⟨_, rfl⟩
  obtain ⟨hood, there⟩ : ∃ item, v.store.inventory.find 4 = some item := ⟨_, rfl⟩
  exact ⟨repairs, length.trans two, emptied, (back 1 gown here).1, (back 4 hood there).1⟩

end WuRegalia
