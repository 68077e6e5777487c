import Mathlib.Data.List.Basic
import Mathlib.Data.List.Pairwise

/-! # Tables with generated keys

One relational table: rows ascending in a key the table hands out itself. The
two invariants of such a table (keys ascend, no key has been handed out twice)
are fields, so every table that can be written down has them. Unique columns
and foreign keys are predicates over tables; the lemmas say what an insert, an
update and a delete do to them.
-/

namespace Relational

/-- Rows of a table, each under the key it was inserted with. -/
@[ext] structure Table (α : Type) where
  rows : List (Nat × α)
  nextId : Nat
  ascending : rows.Pairwise (fun row later => row.1 < later.1)
  fresh : ∀ row ∈ rows, row.1 < nextId

namespace Table

variable {α β κ : Type}

instance [DecidableEq α] : DecidableEq (Table α) := fun t u =>
  decidable_of_iff (t.rows = u.rows ∧ t.nextId = u.nextId)
    ⟨fun h => Table.ext h.1 h.2, fun h => h ▸ ⟨rfl, rfl⟩⟩

def empty : Table α := ⟨[], 1, .nil, by simp⟩

/-- The row stored under a key. -/
def find (t : Table α) (id : Nat) : Option α :=
  (t.rows.find? (fun row => row.1 = id)).map Prod.snd

def findAll (t : Table α) : List (Nat × α) := t.rows

def findBy (t : Table α) (p : α → Bool) : List (Nat × α) :=
  t.rows.filter (fun row => p row.2)

/-- The first row, in key order, that meets a criterion. -/
def findOneBy (t : Table α) (p : α → Bool) : Option (Nat × α) :=
  t.rows.find? (fun row => p row.2)

def insert (t : Table α) (a : α) : Table α where
  rows := t.rows ++ [(t.nextId, a)]
  nextId := t.nextId + 1
  ascending := by
    refine List.pairwise_append.mpr ⟨t.ascending, List.pairwise_singleton _ _, ?_⟩
    intro row member last inLast
    obtain rfl := List.mem_singleton.mp inLast
    exact t.fresh row member
  fresh := by
    intro row member
    rcases List.mem_append.mp member with old | new
    · exact Nat.lt_succ_of_lt (t.fresh row old)
    · obtain rfl := List.mem_singleton.mp new
      exact Nat.lt_succ_self _

/-- Change the row under a key; nothing happens when there is none. -/
def update (t : Table α) (id : Nat) (f : α → α) : Table α where
  rows := t.rows.map (fun row => (row.1, if row.1 = id then f row.2 else row.2))
  nextId := t.nextId
  ascending := by simpa only [List.pairwise_map] using t.ascending
  fresh := by
    intro row member
    obtain ⟨old, inOld, rfl⟩ := List.mem_map.mp member
    exact t.fresh old inOld

/-- Remove the row under a key; nothing happens when there is none. -/
def delete (t : Table α) (id : Nat) : Table α where
  rows := t.rows.filter (fun row => row.1 ≠ id)
  nextId := t.nextId
  ascending := t.ascending.filter _
  fresh := fun row member => t.fresh row (List.mem_of_mem_filter member)

/-- A table filled from empty. -/
def ofList (rows : List α) : Table α := rows.foldl insert empty

private theorem find_of_ascending {rows : List (Nat × α)} {row : Nat × α}
    (ascending : rows.Pairwise (fun row later => row.1 < later.1)) (member : row ∈ rows) :
    rows.find? (fun other => other.1 = row.1) = some row := by
  induction rows with
  | nil => simp at member
  | cons head tail ih =>
      obtain ⟨below, tailAscending⟩ := List.pairwise_cons.mp ascending
      rcases List.mem_cons.mp member with rfl | inTail
      · simp
      · have different : head.1 ≠ row.1 := Nat.ne_of_lt (below row inTail)
        simpa [List.find?_cons, different] using ih tailAscending inTail

theorem find_of_mem {t : Table α} {row : Nat × α} (member : row ∈ t.rows) :
    t.find row.1 = some row.2 := by
  simp [find, find_of_ascending t.ascending member]

theorem mem_of_find {t : Table α} {id : Nat} {a : α} (found : t.find id = some a) :
    (id, a) ∈ t.rows := by
  obtain ⟨row, located, rfl⟩ := Option.map_eq_some_iff.mp found
  have same : row.1 = id := by simpa using List.find?_some located
  exact same ▸ List.mem_of_find?_eq_some located

theorem mem_rows_iff {t : Table α} {id : Nat} {a : α} :
    (id, a) ∈ t.rows ↔ t.find id = some a :=
  ⟨find_of_mem, mem_of_find⟩

theorem lt_nextId {t : Table α} {id : Nat} {a : α} (found : t.find id = some a) :
    id < t.nextId :=
  t.fresh _ (mem_of_find found)

@[simp] theorem find_nextId (t : Table α) : t.find t.nextId = none := by
  cases found : t.find t.nextId with
  | none => rfl
  | some a => exact absurd (lt_nextId found) (Nat.lt_irrefl _)

theorem findOneBy_some {t : Table α} {p : α → Bool} {id : Nat} {a : α}
    (found : t.findOneBy p = some (id, a)) : t.find id = some a ∧ p a = true :=
  ⟨find_of_mem (List.mem_of_find?_eq_some found), by simpa using List.find?_some found⟩

theorem findOneBy_none {t : Table α} {p : α → Bool} :
    t.findOneBy p = none ↔ ∀ id a, t.find id = some a → p a = false := by
  simp only [findOneBy, List.find?_eq_none, Bool.not_eq_true, Prod.forall, mem_rows_iff]

theorem mem_findBy {t : Table α} {p : α → Bool} {id : Nat} {a : α} :
    (id, a) ∈ t.findBy p ↔ t.find id = some a ∧ p a = true := by
  simp only [findBy, List.mem_filter, mem_rows_iff]

/-- A selection lists no row twice. -/
theorem findBy_nodup (t : Table α) (p : α → Bool) : (t.findBy p).Nodup := by
  have ascending := t.ascending.filter (fun row => p row.2)
  exact ascending.imp fun less same => Nat.ne_of_lt less (congrArg Prod.fst same)

theorem find_insert (t : Table α) (a : α) (id : Nat) :
    (t.insert a).find id = if id = t.nextId then some a else t.find id := by
  by_cases new : id = t.nextId
  · subst new
    have last : (t.nextId, a) ∈ (t.insert a).rows := by simp [insert]
    exact (find_of_mem last).trans (by simp)
  · simp only [find, insert, List.find?_append, if_neg new]
    cases t.rows.find? (fun row => row.1 = id) with
    | some row => rfl
    | none => simp [Ne.symm new]

theorem find_update (t : Table α) (id : Nat) (f : α → α) (other : Nat) :
    (t.update id f).find other = if other = id then (t.find other).map f else t.find other := by
  cases located : t.find other with
  | none =>
      have absent : (t.update id f).find other = none := by
        simp only [find, Option.map_eq_none_iff, List.find?_eq_none] at located ⊢
        intro row member
        obtain ⟨old, inOld, rfl⟩ := List.mem_map.mp member
        exact located old inOld
      simp [absent]
  | some a =>
      have member : (other, if other = id then f a else a) ∈ (t.update id f).rows :=
        List.mem_map.mpr ⟨(other, a), mem_of_find located, rfl⟩
      rw [find_of_mem member]
      split <;> simp

theorem find_delete (t : Table α) (id other : Nat) :
    (t.delete id).find other = if other = id then none else t.find other := by
  cases located : (t.delete id).find other with
  | some a =>
      obtain ⟨old, different⟩ := List.mem_filter.mp (mem_of_find located)
      have kept : other ≠ id := by simpa using different
      simp [kept, mem_rows_iff.mp old]
  | none =>
      by_cases same : other = id
      · simp [same]
      · cases old : t.find other with
        | none => simp [same]
        | some a =>
            have member : (other, a) ∈ (t.delete id).rows :=
              List.mem_filter.mpr ⟨mem_of_find old, by simpa using same⟩
            rw [find_of_mem member] at located
            simp at located

@[simp] theorem nextId_insert (t : Table α) (a : α) : (t.insert a).nextId = t.nextId + 1 := rfl
@[simp] theorem nextId_update (t : Table α) (id : Nat) (f : α → α) :
    (t.update id f).nextId = t.nextId := rfl
@[simp] theorem nextId_delete (t : Table α) (id : Nat) : (t.delete id).nextId = t.nextId := rfl

theorem find_insert_self (t : Table α) (a : α) : (t.insert a).find t.nextId = some a := by
  simp [find_insert]

/-- An insert leaves every row that was there. -/
theorem find_insert_old {t : Table α} {a b : α} {id : Nat} (found : t.find id = some b) :
    (t.insert a).find id = some b := by
  rw [find_insert, if_neg (Nat.ne_of_lt (lt_nextId found)), found]

/-- The key was handed out, and its row is gone. -/
def Spent (t : Table α) (id : Nat) : Prop := id < t.nextId ∧ t.find id = none

theorem Spent.insert {t : Table α} {id : Nat} (spent : t.Spent id) (a : α) :
    (t.insert a).Spent id := by
  refine ⟨Nat.lt_succ_of_lt spent.1, ?_⟩
  rw [find_insert, if_neg (Nat.ne_of_lt spent.1)]
  exact spent.2

theorem Spent.update {t : Table α} {id : Nat} (spent : t.Spent id) (other : Nat) (f : α → α) :
    (t.update other f).Spent id := by
  refine ⟨spent.1, ?_⟩
  rw [find_update, spent.2]
  split <;> rfl

theorem Spent.delete {t : Table α} {id : Nat} (spent : t.Spent id) (other : Nat) :
    (t.delete other).Spent id := by
  refine ⟨spent.1, ?_⟩
  rw [find_delete, spent.2]
  split <;> rfl

theorem update_missing {t : Table α} {id : Nat} (missing : t.find id = none) (f : α → α) :
    t.update id f = t := by
  refine Table.ext ?_ rfl
  simp only [find, Option.map_eq_none_iff, List.find?_eq_none, decide_eq_true_eq] at missing
  conv_rhs => rw [← List.map_id t.rows]
  apply List.map_congr_left
  intro row member
  simp [missing row member]

theorem update_same {t : Table α} {id : Nat} {f : α → α}
    (same : ∀ a, t.find id = some a → f a = a) : t.update id f = t := by
  refine Table.ext ?_ rfl
  conv_rhs => rw [← List.map_id t.rows]
  apply List.map_congr_left
  intro row member
  by_cases here : row.1 = id
  · rw [if_pos here, same row.2 (here ▸ find_of_mem member)]
    rfl
  · rw [if_neg here]
    rfl

/-- Only the row under the key is changed, so only its change matters. -/
theorem update_congr {t : Table α} {id : Nat} {f g : α → α}
    (same : ∀ a, t.find id = some a → f a = g a) : t.update id f = t.update id g := by
  refine Table.ext (List.map_congr_left fun row member => ?_) rfl
  by_cases here : row.1 = id
  · rw [if_pos here, if_pos here, same row.2 (here ▸ find_of_mem member)]
  · rw [if_neg here, if_neg here]

theorem delete_missing {t : Table α} {id : Nat} (missing : t.find id = none) :
    t.delete id = t := by
  refine Table.ext ?_ rfl
  simp only [find, Option.map_eq_none_iff, List.find?_eq_none, decide_eq_true_eq] at missing
  exact List.filter_eq_self.mpr (fun row member => by simpa using missing row member)

theorem update_update {t : Table α} {id other : Nat} (apart : id ≠ other) (f g : α → α) :
    (t.update id f).update other g = (t.update other g).update id f := by
  refine Table.ext ?_ rfl
  simp only [update, List.map_map]
  apply List.map_congr_left
  intro row _
  by_cases here : row.1 = id
  · simp [here, apart]
  · simp [here]

/-- The later of two changes of a row is the one that stays. -/
theorem update_again (t : Table α) (id : Nat) {f g : α → α} (forgets : ∀ a, g (f a) = g a) :
    (t.update id f).update id g = t.update id g := by
  refine Table.ext ?_ rfl
  simp only [update, List.map_map]
  apply List.map_congr_left
  intro row _
  by_cases here : row.1 = id
  · simp [here, forgets]
  · simp [here]

theorem update_const_again (t : Table α) (id : Nat) (a : α) :
    (t.update id fun _ => a).update id (fun _ => a) = t.update id fun _ => a :=
  t.update_again id fun _ => rfl

theorem delete_delete (t : Table α) (id other : Nat) :
    (t.delete id).delete other = (t.delete other).delete id := by
  refine Table.ext ?_ rfl
  simp only [delete, List.filter_filter, Bool.and_comm]

theorem delete_again (t : Table α) (id : Nat) : (t.delete id).delete id = t.delete id :=
  delete_missing ((t.find_delete id id).trans (if_pos rfl))

theorem delete_insert {t : Table α} {id : Nat} (old : id ≠ t.nextId) (a : α) :
    (t.insert a).delete id = (t.delete id).insert a := by
  refine Table.ext ?_ rfl
  simp [delete, insert, List.filter_append, Ne.symm old]

/-- A change that takes its row out of a selection takes out nothing else. -/
theorem findBy_update (t : Table α) (id : Nat) {f : α → α} {p : α → Bool}
    (leaves : ∀ a, p (f a) = false) :
    (t.update id f).findBy p = (t.findBy p).filter (fun row => row.1 ≠ id) := by
  simp only [findBy, update]
  induction t.rows with
  | nil => rfl
  | cons row rows ih =>
      simp only [List.map_cons, List.filter_cons]
      by_cases here : row.1 = id
      · have out : p (if row.1 = id then f row.2 else row.2) = false := by rw [if_pos here, leaves]
        rw [out, ih]
        cases p row.2 <;> simp [here]
      · rw [if_neg here, ih]
        cases p row.2 <;> simp [here]

theorem forall_insert {t : Table α} {P : α → Prop} (all : ∀ row ∈ t.rows, P row.2) (a : α) :
    (∀ row ∈ (t.insert a).rows, P row.2) ↔ P a := by
  simp only [insert, List.forall_mem_append, List.forall_mem_singleton]
  exact and_iff_right all

theorem forall_update {t : Table α} {P : α → Prop} (all : ∀ row ∈ t.rows, P row.2) {id : Nat}
    {a : α} (found : t.find id = some a) (f : α → α) :
    (∀ row ∈ (t.update id f).rows, P row.2) ↔ P (f a) := by
  simp only [update, List.forall_mem_map]
  constructor
  · intro after
    simpa using after (id, a) (mem_of_find found)
  · intro written row there
    split
    · rename_i here
      obtain rfl : a = row.2 := Option.some.inj (found.symm.trans (here ▸ find_of_mem there))
      exact written
    · exact all row there

theorem forall_delete {t : Table α} {P : α → Prop} (all : ∀ row ∈ t.rows, P row.2) (id : Nat) :
    ∀ row ∈ (t.delete id).rows, P row.2 :=
  fun row there => all row (List.mem_of_mem_filter there)

/-- The rows of one table are those of the other under renamed keys, in the same
    order. -/
def Renamed (name : Nat → Nat) (t u : Table α) : Prop :=
  u.rows = t.rows.map (fun row => (name row.1, row.2))

/-- A row that was inserted and deleted leaves the others, under names that old keys
    keep. -/
theorem Renamed.of_insert_delete {name : Nat → Nat} (t : Table α) (a : α)
    (old : ∀ id < t.nextId, name id = id) : t.Renamed name ((t.insert a).delete t.nextId) := by
  have kept : t.rows.filter (fun row => decide (row.1 ≠ t.nextId)) = t.rows :=
    List.filter_eq_self.mpr fun row member => decide_eq_true (Nat.ne_of_lt (t.fresh row member))
  have named : t.rows.map (fun row => (name row.1, row.2)) = t.rows := by
    conv_rhs => rw [← List.map_id t.rows]
    apply List.map_congr_left
    intro row member
    rw [old row.1 (t.fresh row member)]
    rfl
  unfold Renamed
  rw [named]
  simp only [Table.delete, Table.insert, List.filter_append, kept]
  simp

theorem Renamed.find {name : Nat → Nat} (injective : Function.Injective name) {t u : Table α}
    (renamed : t.Renamed name u) (id : Nat) : u.find (name id) = t.find id := by
  unfold Table.find
  rw [renamed, List.find?_map, Option.map_map]
  simp [Function.comp_def, injective.eq_iff]

theorem Renamed.insert {name : Nat → Nat} {t u : Table α} (renamed : t.Renamed name u)
    (next : u.nextId = name t.nextId) (a : α) : (t.insert a).Renamed name (u.insert a) := by
  unfold Renamed at renamed ⊢
  simp [Table.insert, renamed, next]

theorem Renamed.delete {name : Nat → Nat} (injective : Function.Injective name) {t u : Table α}
    (renamed : t.Renamed name u) (id : Nat) : (t.delete id).Renamed name (u.delete (name id)) := by
  unfold Renamed at renamed ⊢
  simp [Table.delete, renamed, List.filter_map, Function.comp_def, injective.eq_iff]

/-- No two rows share a value of the column. -/
def Unique (t : Table α) (column : α → κ) : Prop :=
  ∀ row ∈ t.rows, ∀ other ∈ t.rows, column row.2 = column other.2 → row.1 = other.1

instance [DecidableEq κ] (t : Table α) (column : α → κ) : Decidable (t.Unique column) :=
  inferInstanceAs (Decidable (∀ row ∈ t.rows, ∀ other ∈ t.rows, _ → _))

theorem unique_iff {t : Table α} {column : α → κ} :
    t.Unique column ↔ ∀ id other a b, t.find id = some a → t.find other = some b →
      column a = column b → id = other := by
  simp only [Unique, Prod.forall, mem_rows_iff]
  exact ⟨fun h id other a b fa fb => h id a fa other b fb,
    fun h id a fa other b fb => h id other a b fa fb⟩

theorem Unique.eq {t : Table α} {column : α → κ} (unique : t.Unique column) {id other : Nat}
    {a b : α} (foundA : t.find id = some a) (foundB : t.find other = some b)
    (same : column a = column b) : id = other :=
  unique_iff.mp unique id other a b foundA foundB same

theorem unique_insert {t : Table α} {column : α → κ} {a : α} (unique : t.Unique column) :
    (t.insert a).Unique column ↔ ∀ id b, t.find id = some b → column b ≠ column a := by
  constructor
  · intro after id b found same
    have clash := after.eq (find_insert_old found) (t.find_insert_self a) same
    exact absurd (lt_nextId found) (by omega)
  · intro free
    apply unique_iff.mpr
    intro id other b c foundB foundC same
    rw [find_insert] at foundB foundC
    split at foundB <;> split at foundC
    · omega
    · obtain rfl := Option.some.inj foundB
      exact absurd same.symm (free other c foundC)
    · obtain rfl := Option.some.inj foundC
      exact absurd same (free id b foundB)
    · exact unique.eq foundB foundC same

/-- A row that is inserted twice repeats every column. -/
theorem not_unique_insert_insert (t : Table α) (a : α) (column : α → κ) :
    ¬ ((t.insert a).insert a).Unique column := by
  intro unique
  have first : ((t.insert a).insert a).find t.nextId = some a :=
    find_insert_old (t.find_insert_self a)
  have clash := unique.eq first ((t.insert a).find_insert_self a) rfl
  rw [nextId_insert] at clash
  omega

/-- A row may take a new value of a unique column when no other row has it. -/
theorem unique_update {t : Table α} {column : α → κ} {id : Nat} {f : α → α} {a : α}
    (unique : t.Unique column) (found : t.find id = some a) :
    (t.update id f).Unique column ↔
      ∀ other b, t.find other = some b → other ≠ id → column b ≠ column (f a) := by
  have changed : (t.update id f).find id = some (f a) := by simp [find_update, found]
  constructor
  · intro after other b foundB different same
    have kept : (t.update id f).find other = some b := by simp [find_update, different, foundB]
    exact different (after.eq kept changed same)
  · intro free
    apply unique_iff.mpr
    intro i j b c foundB foundC same
    rw [find_update] at foundB foundC
    split at foundB <;> split at foundC
    · omega
    · rename_i here there
      subst here
      rw [found, Option.map_some] at foundB
      obtain rfl := Option.some.inj foundB
      exact absurd same.symm (free j c foundC there)
    · rename_i here there
      subst there
      rw [found, Option.map_some] at foundC
      obtain rfl := Option.some.inj foundC
      exact absurd same (free i b foundB here)
    · exact unique.eq foundB foundC same

theorem unique_delete {t : Table α} {column : α → κ} (id : Nat) (unique : t.Unique column) :
    (t.delete id).Unique column := by
  apply unique_iff.mpr
  intro i j a b foundA foundB same
  rw [find_delete] at foundA foundB
  split at foundA
  · cases foundA
  · split at foundB
    · cases foundB
    · exact unique.eq foundA foundB same

/-- Every row's key in the column, when it has one, is the key of a target row. -/
def References (t : Table α) (column : α → Option Nat) (target : Table β) : Prop :=
  ∀ row ∈ t.rows, ∀ id ∈ column row.2, (target.find id).isSome

instance (t : Table α) (column : α → Option Nat) (target : Table β) :
    Decidable (t.References column target) :=
  inferInstanceAs (Decidable (∀ row ∈ t.rows, ∀ id ∈ column row.2, _))

theorem references_iff {t : Table α} {column : α → Option Nat} {target : Table β} :
    t.References column target ↔ ∀ key a id, t.find key = some a → column a = some id →
      ∃ b, target.find id = some b := by
  simp only [References, Prod.forall, mem_rows_iff, Option.mem_def, Option.isSome_iff_exists]
  exact ⟨fun h key a id fa => h key a fa id, fun h key a fa id => h key a id fa⟩

theorem References.target {t : Table α} {column : α → Option Nat} {target : Table β}
    (references : t.References column target) {key id : Nat} {a : α} (found : t.find key = some a)
    (points : column a = some id) : ∃ b, target.find id = some b :=
  references_iff.mp references key a id found points

theorem references_insert {t : Table α} {column : α → Option Nat} {target : Table β} {a : α}
    (references : t.References column target) :
    (t.insert a).References column target ↔
      ∀ id, column a = some id → ∃ b, target.find id = some b := by
  constructor
  · exact fun after id points => after.target (t.find_insert_self a) points
  · intro points
    apply references_iff.mpr
    intro key b id found column
    rw [find_insert] at found
    split at found
    · obtain rfl := Option.some.inj found
      exact points id column
    · exact references.target found column

theorem references_update {t : Table α} {column : α → Option Nat} {target : Table β} {id : Nat}
    {f : α → α} {a : α} (references : t.References column target) (found : t.find id = some a) :
    (t.update id f).References column target ↔
      ∀ key, column (f a) = some key → ∃ b, target.find key = some b := by
  constructor
  · intro after key points
    have changed : (t.update id f).find id = some (f a) := by simp [find_update, found]
    exact after.target changed points
  · intro points
    apply references_iff.mpr
    intro key b other foundB column
    rw [find_update] at foundB
    split at foundB
    · rename_i here
      subst here
      rw [found, Option.map_some] at foundB
      obtain rfl := Option.some.inj foundB
      exact points other column
    · exact references.target foundB column

theorem references_update_of_column {t : Table α} {column : α → Option Nat} {target : Table β}
    (id : Nat) {f : α → α} (keeps : ∀ a, column (f a) = column a)
    (references : t.References column target) : (t.update id f).References column target := by
  cases found : t.find id with
  | none => rwa [update_missing found]
  | some a =>
      exact (references_update references found).mpr fun key points =>
        references.target found ((keeps a).symm.trans points)

theorem references_delete {t : Table α} {column : α → Option Nat} {target : Table β} (id : Nat)
    (references : t.References column target) : (t.delete id).References column target := by
  apply references_iff.mpr
  intro key a other found points
  rw [find_delete] at found
  split at found
  · cases found
  · exact references.target found points

/-- A target may grow, and its rows may change. -/
theorem references_target_insert {t : Table α} {column : α → Option Nat} {target : Table β}
    (b : β) (references : t.References column target) :
    t.References column (target.insert b) := by
  apply references_iff.mpr
  intro key a id found points
  obtain ⟨c, located⟩ := references.target found points
  exact ⟨c, find_insert_old located⟩

theorem references_target_update {t : Table α} {column : α → Option Nat} {target : Table β}
    (id : Nat) (f : β → β) (references : t.References column target) :
    t.References column (target.update id f) := by
  apply references_iff.mpr
  intro key a other found points
  obtain ⟨c, located⟩ := references.target found points
  by_cases here : other = id
  · exact ⟨f c, by rw [find_update, if_pos here, located, Option.map_some]⟩
  · exact ⟨c, by simp [find_update, here, located]⟩

/-- A target row may go exactly when nothing points at it. -/
theorem references_target_delete {t : Table α} {column : α → Option Nat} {target : Table β}
    {id : Nat} (references : t.References column target) :
    t.References column (target.delete id) ↔
      ∀ key a, t.find key = some a → column a ≠ some id := by
  constructor
  · intro after key a found points
    obtain ⟨b, located⟩ := after.target found points
    simp [find_delete] at located
  · intro free
    apply references_iff.mpr
    intro key a other found points
    obtain ⟨b, located⟩ := references.target found points
    have different : other ≠ id := fun same => free key a found (same ▸ points)
    exact ⟨b, by simp [find_delete, different, located]⟩

end Table

end Relational
