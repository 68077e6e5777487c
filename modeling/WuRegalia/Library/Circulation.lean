import Mathlib.Logic.Function.Basic
import WuRegalia.Library.Run

/-! # Circulation

A collection of items that are proposed to it, shelved, lent and given back. Every item
is at one stage at a time. An event moves the item it is about; an event that is not
due moves nothing. No user holds two items of one kind, and an item that is lent has
been let in and shelved before.
-/

namespace Circulation

inductive Stage (υ π : Type) where
  | absent
  | proposed (sort : π)
  /-- Accepted, and not on the shelf yet. -/
  | expected
  | shelved
  | aside
  | lent (holder : υ)
  deriving DecidableEq, Repr

@[ext] structure Collection (ι υ κ π : Type) where
  stage : ι → Stage υ π
  kind : ι → Option κ

inductive Event (ι υ κ π : Type) where
  | propose (sort : π) (owner : υ) (item : ι) (kind : κ)
  | accept (sort : π) (item : ι)
  | reject (sort : π) (item : ι)
  | stock (item : ι) (kind : κ)
  | describe (item : ι) (kind : κ)
  | shelve (item : ι) (kind : κ)
  | setAside (item : ι) (kind : κ)
  | borrow (user : υ) (item : ι)
  | giveBack (item : ι)
  | remove (item : ι)
  deriving DecidableEq, Repr

variable {ι υ κ π : Type}

def Event.item : Event ι υ κ π → ι
  | .propose _ _ item _ | .accept _ item | .reject _ item | .stock item _ | .describe item _
  | .shelve item _ | .setAside item _ | .borrow _ item | .giveBack item | .remove item => item

/-- The stage an event takes its item to. -/
def Event.target : Event ι υ κ π → Stage υ π → Stage υ π
  | .propose sort .., _ => .proposed sort
  | .accept .., _ => .expected
  | .reject .., _ | .remove _, _ => .absent
  | .stock .., _ | .shelve .., _ | .giveBack _, _ => .shelved
  | .describe .., stage => stage
  | .setAside .., _ => .aside
  | .borrow user _, _ => .lent user

/-- The kind it gives its item. -/
def Event.label : Event ι υ κ π → Option κ → Option κ
  | .propose _ _ _ kind, _ | .stock _ kind, _ | .describe _ kind, _ | .shelve _ kind, _
  | .setAside _ kind, _ => some kind
  | .reject .., _ | .remove _, _ => none
  | .accept .., kind | .borrow .., kind | .giveBack _, kind => kind

/-- An administrator may put the item on the shelf or take it off. -/
def Stage.Movable (stage : Stage υ π) : Prop :=
  stage = .expected ∨ stage = .shelved ∨ stage = .aside

instance [DecidableEq υ] [DecidableEq π] (stage : Stage υ π) : Decidable stage.Movable :=
  inferInstanceAs (Decidable (_ ∨ _ ∨ _))

/-- The item is there, and nobody has it. -/
def Stage.Present (stage : Stage υ π) : Prop :=
  stage ≠ .absent ∧ ∀ user, stage ≠ .lent user

namespace Collection

/-- What an event asks of the collection. -/
def Due (c : Collection ι υ κ π) : Event ι υ κ π → Prop
  | .propose _ _ item _ | .stock item _ => c.stage item = .absent
  | .accept sort item | .reject sort item => c.stage item = .proposed sort
  | .describe item _ | .remove item => (c.stage item).Present
  | .shelve item _ | .setAside item _ => (c.stage item).Movable
  | .borrow user item =>
      c.stage item = .shelved ∧ ∀ other, c.stage other = .lent user → c.kind other ≠ c.kind item
  | .giveBack item => ∃ user, c.stage item = .lent user

/-- Where an event that is due leaves its item. -/
def moved [DecidableEq ι] (c : Collection ι υ κ π) (e : Event ι υ κ π) : Collection ι υ κ π :=
  ⟨Function.update c.stage e.item (e.target (c.stage e.item)),
    Function.update c.kind e.item (e.label (c.kind e.item))⟩

open Classical in
noncomputable def perform [DecidableEq ι] (c : Collection ι υ κ π) (e : Event ι υ κ π) :
    Collection ι υ κ π :=
  if c.Due e then c.moved e else c

variable [DecidableEq ι] {c : Collection ι υ κ π} {e : Event ι υ κ π}

theorem perform_of_due (due : c.Due e) : c.perform e = c.moved e := by
  rw [perform, if_pos due]

theorem perform_of_not_due (early : ¬ c.Due e) : c.perform e = c := by
  rw [perform, if_neg early]

theorem moved_stage (other : ι) :
    (c.moved e).stage other =
      if other = e.item then e.target (c.stage e.item) else c.stage other := by
  simp only [moved, Function.update_apply]

theorem moved_kind (other : ι) :
    (c.moved e).kind other =
      if other = e.item then e.label (c.kind e.item) else c.kind other := by
  simp only [moved, Function.update_apply]

/-- An event leaves every other item where it is. -/
theorem perform_of_ne {other : ι} (apart : other ≠ e.item) :
    (c.perform e).stage other = c.stage other ∧ (c.perform e).kind other = c.kind other := by
  unfold perform
  split
  · rw [moved_stage, moved_kind, if_neg apart, if_neg apart]
    exact ⟨rfl, rfl⟩
  · exact ⟨rfl, rfl⟩

/-- Only a loan makes somebody a holder, and it leaves the kind as it is. -/
theorem lent_of_perform {user : υ} {item : ι} (lent : (c.perform e).stage item = .lent user) :
    (c.perform e).kind item = c.kind item ∧
      (c.stage item = .lent user ∨ e = .borrow user item ∧ c.Due e) := by
  by_cases here : item = e.item
  · by_cases due : c.Due e
    · rw [perform_of_due due] at lent ⊢
      subst here
      rw [moved_stage, if_pos rfl] at lent
      rw [moved_kind, if_pos rfl]
      cases e with
      | borrow borrower item =>
          cases lent
          exact ⟨rfl, .inr ⟨rfl, due⟩⟩
      | describe item kind => exact absurd lent (due.2 user)
      | propose | accept | reject | stock | shelve | setAside | giveBack | remove => cases lent
    · rw [perform_of_not_due due] at lent ⊢
      exact ⟨rfl, .inl lent⟩
  · obtain ⟨stage, kind⟩ := perform_of_ne (c := c) here
    exact ⟨kind, .inl (stage ▸ lent)⟩

/-- What is given back is on the shelf. -/
theorem giveBack_stage {user : υ} {item : ι} (lent : c.stage item = .lent user) :
    (c.perform (.giveBack item)).stage item = .shelved := by
  have due : c.Due (.giveBack item) := ⟨user, lent⟩
  rw [perform_of_due due, moved_stage]
  exact if_pos rfl

/-- A loan changes no kind. -/
theorem borrow_kind {user : υ} {item : ι} : (c.perform (.borrow user item)).kind = c.kind := by
  funext other
  unfold perform
  split
  · rw [moved_kind]
    split
    · rename_i here
      rw [here]
      rfl
    · rfl
  · rfl

/-- Two loans compete for one item, or for the one item of its kind a user may have. -/
def Compete (kind : ι → Option κ) (loan other : υ × ι) : Prop :=
  loan.2 = other.2 ∨ loan.1 = other.1 ∧ kind loan.2 = kind other.2

/-- A loan that does not compete with another is due after it when it was before. -/
theorem due_after_borrow {user other : υ} {item wanted : ι}
    (free : ¬ Compete c.kind (user, item) (other, wanted)) :
    (c.perform (.borrow user item)).Due (.borrow other wanted) ↔ c.Due (.borrow other wanted) := by
  obtain ⟨apart, either⟩ := not_or.mp free
  have stage : (c.perform (.borrow user item)).stage wanted = c.stage wanted :=
    (perform_of_ne (e := .borrow user item) (Ne.symm apart)).1
  simp only [Due, stage, borrow_kind]
  refine and_congr_right fun _ => ⟨fun none any lent => ?_, fun none any lent => ?_⟩
  · by_cases here : any = item
    · subst here
      intro same
      by_cases due : c.Due (.borrow user any)
      · rw [due.1] at lent
        cases lent
      · rw [perform_of_not_due due] at none
        exact none any lent same
    · apply none any
      rwa [(perform_of_ne (e := .borrow user item) here).1]
  · obtain ⟨-, held | ⟨same, -⟩⟩ := lent_of_perform lent
    · exact none any held
    · cases same
      exact fun kinds => either ⟨rfl, kinds⟩

theorem borrow_comm {user other : υ} {item wanted : ι}
    (free : ¬ Compete c.kind (user, item) (other, wanted)) :
    (c.perform (.borrow user item)).perform (.borrow other wanted) =
      (c.perform (.borrow other wanted)).perform (.borrow user item) := by
  have back : ¬ Compete c.kind (other, wanted) (user, item) := by
    rintro (same | ⟨users, kinds⟩)
    · exact free (.inl same.symm)
    · exact free (.inr ⟨users.symm, kinds.symm⟩)
  have apart : item ≠ wanted := fun same => free (.inl same)
  have first := due_after_borrow free
  have second := due_after_borrow back
  by_cases due : c.Due (.borrow user item) <;> by_cases dueToo : c.Due (.borrow other wanted)
  · rw [perform_of_due (first.mpr dueToo), perform_of_due (second.mpr due), perform_of_due due,
      perform_of_due dueToo]
    ext any : 2
    · simp only [moved_stage, Event.item, Event.target]
      split_ifs with here there <;> grind
    · simp only [moved_kind, Event.item, Event.label]
      split_ifs <;> grind
  · rw [perform_of_not_due dueToo, perform_of_not_due (fun after => dueToo (first.mp after))]
  · rw [perform_of_not_due due, perform_of_not_due (fun after => due (second.mp after))]
  · rw [perform_of_not_due due, perform_of_not_due dueToo, perform_of_not_due due]

/-- No user holds two items of one kind. -/
def OnePerKind (c : Collection ι υ κ π) : Prop :=
  ∀ user item other, c.stage item = .lent user → c.stage other = .lent user →
    c.kind item = c.kind other → item = other

theorem OnePerKind.perform (one : c.OnePerKind) (e : Event ι υ κ π) :
    (c.perform e).OnePerKind := by
  intro user item other lent lentToo same
  obtain ⟨kind, before⟩ := lent_of_perform lent
  obtain ⟨kindOther, beforeOther⟩ := lent_of_perform lentToo
  rw [kind, kindOther] at same
  rcases before with held | ⟨borrows, due⟩
  · rcases beforeOther with heldToo | ⟨borrows, due⟩
    · exact one user item other held heldToo same
    · subst borrows
      exact absurd same (due.2 item held)
  · rcases beforeOther with held | ⟨borrowsToo, -⟩
    · subst borrows
      exact absurd same.symm (due.2 other held)
    · rw [borrows] at borrowsToo
      cases borrowsToo
      rfl

end Collection

/-- The events that have taken an item to a stage since it was absent. -/
inductive Life (item : ι) : Stage υ π → List (Event ι υ κ π) → Prop where
  | absent : Life item .absent []
  | propose {sort owner kind} : Life item (.proposed sort) [.propose sort owner item kind]
  | accept {sort life} (before : Life item (.proposed sort) life) :
      Life item .expected (life ++ [.accept sort item])
  | stock {kind} : Life item .shelved [.stock item kind]
  | describe {stage life kind} (before : Life item stage life) :
      Life item stage (life ++ [.describe item kind])
  | shelve {stage life kind} (movable : stage.Movable) (before : Life item stage life) :
      Life item .shelved (life ++ [.shelve item kind])
  | setAside {stage life kind} (movable : stage.Movable) (before : Life item stage life) :
      Life item .aside (life ++ [.setAside item kind])
  | borrow {user life} (before : Life item .shelved life) :
      Life item (.lent user) (life ++ [.borrow user item])
  | giveBack {user life} (before : Life item (.lent user) life) :
      Life item .shelved (life ++ [.giveBack item])

namespace Life

variable {item : ι} {stage : Stage υ π} {life : List (Event ι υ κ π)}

theorem proposed {sort : π} (has : Life item (.proposed sort) life) :
    ∃ owner kind, .propose sort owner item kind ∈ life := by
  generalize waits : (.proposed sort : Stage υ π) = stage at has
  induction has with
  | absent | accept | stock | shelve | setAside | borrow | giveBack => cases waits
  | propose =>
      cases waits
      exact ⟨_, _, List.mem_singleton_self _⟩
  | describe _ ih =>
      obtain ⟨owner, kind, inside⟩ := ih waits
      exact ⟨owner, kind, List.mem_append_left _ inside⟩

/-- What is past its proposal was stocked, or proposed and accepted. -/
theorem letIn (has : Life item stage life) (there : stage ≠ .absent)
    (decided : ∀ sort, stage ≠ .proposed sort) :
    (∃ kind, .stock item kind ∈ life) ∨
      ∃ sort owner kind, List.Sublist [.propose sort owner item kind, .accept sort item] life := by
  have later : ∀ {life : List (Event ι υ κ π)} (e : Event ι υ κ π),
      ((∃ kind, .stock item kind ∈ life) ∨
        ∃ sort owner kind, List.Sublist [.propose sort owner item kind, .accept sort item] life) →
      (∃ kind, .stock item kind ∈ life ++ [e]) ∨
        ∃ sort owner kind, List.Sublist [.propose sort owner item kind, .accept sort item] (life ++ [e]) := by
    intro life e before
    rcases before with ⟨kind, stocked⟩ | ⟨sort, owner, kind, proposed⟩
    · exact .inl ⟨kind, List.mem_append_left _ stocked⟩
    · exact .inr ⟨sort, owner, kind, proposed.trans (List.sublist_append_left _ _)⟩
  induction has with
  | absent => exact absurd rfl there
  | propose => exact absurd rfl (decided _)
  | @accept sort life before =>
      obtain ⟨owner, kind, inside⟩ := before.proposed
      refine .inr ⟨sort, owner, kind, ?_⟩
      exact (List.singleton_sublist.mpr inside).append (List.Sublist.refl _)
  | stock => exact .inl ⟨_, List.mem_singleton_self _⟩
  | describe _ ih => exact later _ (ih there decided)
  | shelve movable _ ih | setAside movable _ ih =>
      refine later _ (ih ?_ ?_)
      · rintro rfl
        simp [Stage.Movable] at movable
      · rintro sort rfl
        simp [Stage.Movable] at movable
  | borrow _ ih | giveBack _ ih => exact later _ (ih (by simp) (by simp))

end Life

variable [DecidableEq ι] {c : Collection ι υ κ π}

/-- One event, at the item it is about. -/
theorem Life.perform {item : ι} {life : List (Event ι υ κ π)} (before : Life item (c.stage item) life)
    (e : Event ι υ κ π) :
    ∃ after, Life item ((c.perform e).stage item) after ∧ after.Sublist (life ++ [e]) := by
  have keeps : (c.perform e).stage item = c.stage item →
      ∃ after, Life item ((c.perform e).stage item) after ∧ after.Sublist (life ++ [e]) := by
    intro same
    exact ⟨life, same ▸ before, List.sublist_append_left _ _⟩
  by_cases here : item = e.item
  · by_cases due : c.Due e
    · rw [Collection.perform_of_due due, Collection.moved_stage, if_pos here]
      subst here
      cases e with
      | propose => exact ⟨_, .propose, List.sublist_append_right _ _⟩
      | stock => exact ⟨_, .stock, List.sublist_append_right _ _⟩
      | reject | remove => exact ⟨[], .absent, List.nil_sublist _⟩
      | accept => exact ⟨_, .accept (due ▸ before), List.Sublist.refl _⟩
      | describe => exact ⟨_, .describe before, List.Sublist.refl _⟩
      | shelve => exact ⟨_, .shelve due before, List.Sublist.refl _⟩
      | setAside => exact ⟨_, .setAside due before, List.Sublist.refl _⟩
      | borrow => exact ⟨_, .borrow (due.1 ▸ before), List.Sublist.refl _⟩
      | giveBack =>
          obtain ⟨user, lent⟩ := due
          exact ⟨_, .giveBack (lent ▸ before), List.Sublist.refl _⟩
    · exact keeps (by rw [Collection.perform_of_not_due due])
  · exact keeps (Collection.perform_of_ne here).1

/-- In every run, an item that was absent at its start has come to its stage by events of
    the run. -/
theorem life_of_run {item : ι} (absent : c.stage item = .absent) (events : List (Event ι υ κ π)) :
    ∃ life, Life item ((Run.final Collection.perform c events).stage item) life ∧
      life.Sublist events := by
  induction events using List.reverseRecOn with
  | nil => exact ⟨[], absent ▸ .absent, List.Sublist.refl _⟩
  | append_singleton events e ih =>
      obtain ⟨life, before, inside⟩ := ih
      obtain ⟨after, has, within⟩ := before.perform e
      refine ⟨after, ?_, within.trans (inside.append (List.Sublist.refl [e]))⟩
      rwa [Run.final_append]

/-- In every run, whoever has an item they did not have at its start has borrowed it when
    that was due, and it was not given back since. -/
theorem lent_of_run {item : ι} {user : υ} {events : List (Event ι υ κ π)}
    (before : c.stage item ≠ .lent user)
    (lent : (Run.final Collection.perform c events).stage item = .lent user) :
    ∃ earlier later, events = earlier ++ .borrow user item :: later ∧
      (Run.final Collection.perform c earlier).Due (.borrow user item) ∧
      .giveBack item ∉ later := by
  obtain ⟨earlier, e, later, rfl, free, kept⟩ :=
    Run.established (fun now : Collection ι υ κ π => now.stage item = .lent user) before lent
  have taken := kept _ (Run.start_mem_states _ _ later)
  obtain ⟨-, held | ⟨rfl, due⟩⟩ := Collection.lent_of_perform taken
  · exact absurd held free
  refine ⟨earlier, later, rfl, due, fun given => ?_⟩
  obtain ⟨between, rest, rfl⟩ := List.append_of_mem given
  have held := kept (Run.final Collection.perform _ between)
    ((Run.mem_states _).mpr ⟨between, _, rfl, rfl⟩)
  have after := kept (Run.final Collection.perform _ (between ++ [.giveBack item]))
    ((Run.mem_states _).mpr ⟨between ++ [.giveBack item], rest, by simp, rfl⟩)
  rw [Run.final_append, Run.final_cons, Run.final_nil, Collection.giveBack_stage held] at after
  cases after

/-- Loans that do not compete may be made in any order. -/
theorem loans_perm {loans other : List (υ × ι)} (perm : loans.Perm other)
    (free : loans.Pairwise fun loan next => ¬ Collection.Compete c.kind loan next) :
    Run.final Collection.perform c (loans.map fun loan => .borrow loan.1 loan.2) =
      Run.final Collection.perform c (other.map fun loan => .borrow loan.1 loan.2) := by
  have folded : ∀ loans : List (υ × ι),
      Run.final Collection.perform c (loans.map fun loan => .borrow loan.1 loan.2) =
        Run.final (fun now loan => now.perform (.borrow loan.1 loan.2)) c loans := by
    intro loans
    simp only [Run.final, List.foldl_map]
  rw [folded, folded]
  apply Run.final_perm (fun now : Collection ι υ κ π => now.kind = c.kind)
    (fun loan next => ¬ Collection.Compete c.kind loan next) _ _ _ perm free rfl
  · intro now loan kinds
    rw [Collection.borrow_kind, kinds]
  · intro now loan next kinds apart
    exact Collection.borrow_comm (kinds ▸ apart)
  · intro loan next apart
    rintro (same | ⟨users, kinds⟩)
    · exact apart (.inl same.symm)
    · exact apart (.inr ⟨users.symm, kinds.symm⟩)

/-- In every run, no user comes to hold two items of one kind. -/
theorem onePerKind_run (one : c.OnePerKind) (events : List (Event ι υ κ π)) :
    (Run.final Collection.perform c events).OnePerKind :=
  Run.invariant Collection.OnePerKind one fun _ e _ before => before.perform e

end Circulation
