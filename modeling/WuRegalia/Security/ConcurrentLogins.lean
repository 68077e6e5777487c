import WuRegalia.Library.TwoPhase
import WuRegalia.Security.Login

/-! # Logins in flight together

`loadUserByUsername` looks the name up in the database and inserts a row when
there is none; other logins, also of the same user, run in between. An insert
goes through exactly when the directory's display name has a first name where
one is looked for, and neither the address nor the name has a row by then.
-/

namespace WuRegalia.Logins

open Explode LdapSessionUserProvider
open TwoPhase (State)

/-- A login that has found its entry in the directory and asked the database for
    its user. -/
structure Looked where
  username : String
  entry : LdapEntry
  found : Option User
  now : DateTime
  deriving DecidableEq

namespace Looked

def userToken (looked : Looked) : SessionUser := loadUser looked.username looked.entry

/-- The address the directory has, or one made of the name. -/
def address (looked : Looked) : String :=
  looked.entry.mail.getD (looked.username ++ "@mailbox.winthrop.edu")

theorem userToken_email (looked : Looked) : looked.userToken.email = looked.address := by
  simp only [userToken, loadUser, getUserInfo]
  split <;> rfl

end Looked

/-- The first step: nothing when there is no single entry. -/
def look (dir : Directory) (s : Store) (username : String) (now : DateTime) : Option Looked :=
  (entryOf dir username).map fun entry =>
    ⟨escape username, entry, (s.findUser (escape username)).map Prod.snd, now⟩

/-- The second step, from the lookup on. -/
def conclude (s : Store) (looked : Looked) : Store × Except Exception SessionUser :=
  match looked.found with
  | some user =>
      (s, .ok (if user.isAdmin then looked.userToken.addRole .ROLE_ADMIN else looked.userToken))
  | none =>
      match userRow looked.userToken looked.now with
      | none => (s, .error .constraintViolation)
      | some row =>
          match s.flush (Tables.insertUser row) with
          | some u => (u, .ok looked.userToken)
          | none => (s, .error .constraintViolation)

/-- The database, and what the logins that have ended returned. -/
structure Reception where
  store : Store
  returned : List (Looked × Except Exception SessionUser)

/-- No login has ended. -/
def Reception.open (s : Store) : Reception := ⟨s, []⟩

def logins (dir : Directory) : TwoPhase Reception (String × DateTime) Looked where
  load r request := look dir r.store request.1 request.2
  flush r looked :=
    ⟨(conclude r.store looked).1, r.returned ++ [(looked, (conclude r.store looked).2)]⟩

/-- Nothing coming between, the two steps are `loadUserByUsername`. -/
theorem handle_login {dir : Directory} {username : String} {entry : LdapEntry}
    (found : entryOf dir username = some entry) (r : Reception) (now : DateTime) :
    ∃ looked, looked.username = escape username ∧ (logins dir).handle r (username, now) =
      ⟨(loadUserByUsername dir r.store now username).1,
        r.returned ++ [(looked, (loadUserByUsername dir r.store now username).2)]⟩ := by
  rw [loadUserByUsername_of_entry found]
  refine ⟨⟨escape username, entry, (r.store.findUser (escape username)).map Prod.snd, now⟩, rfl, ?_⟩
  have same : conclude r.store
      ⟨escape username, entry, (r.store.findUser (escape username)).map Prod.snd, now⟩ =
        checkDatabase r.store now (loadUser (escape username) entry) := by
    unfold conclude checkDatabase
    simp only [Looked.userToken, loadUser]
    cases r.store.findUser (escape username) <;> rfl
  simp only [TwoPhase.handle, logins, look, found, Option.map_some, same]

/-- The display name has a first name where one is looked for: behind its only
    `", "`, or behind a space of what stands before the first `", "`. -/
def GivesFirstName (displayname : String) : Prop :=
  (explode ", " displayname).length = 2 ∨
    ' ' ∈ ((explode ", " displayname)[0]?.getD "").toList

instance (displayname : String) : Decidable (GivesFirstName displayname) :=
  inferInstanceAs (Decidable (_ ∨ _))

/-- Last name and address are never null; the first name is for some. -/
theorem fname_isSome_iff (result : LdapEntry) (username : String) :
    (getUserInfo result username).fname.isSome ↔ GivesFirstName (result.displayname.getD "") := by
  unfold getUserInfo GivesFirstName
  by_cases two : (explode ", " (result.displayname.getD "")).length = 2
  · have words := fun s => List.length_pos_iff.mpr (explode_ne_nil " " s)
    simp [two, words]
  · have space := one_lt_length_explode ' ' ((explode ", " (result.displayname.getD ""))[0]?.getD "")
    simp only [two, if_false, false_or, ← space]
    simp

/-- The login returned its session user, and exactly one row has the name. -/
def Succeeded (s : Store) (login : Looked × Except Exception SessionUser) : Prop :=
  (∃ account, login.2 = .ok account ∧ account.username = login.1.username) ∧
    HasOneRow s.toTables login.1.username

/-- Everybody who has ended has succeeded. -/
def Reception.AllSucceeded (r : Reception) : Prop := ∀ login ∈ r.returned, Succeeded r.store login

/-- A login that has found no row can insert one: it has a first name, and no row
    has the address or, by now, the name. -/
def Insertable (r : Reception) (looked : Looked) : Prop :=
  looked.found = none →
    GivesFirstName (looked.entry.displayname.getD "") ∧
      ∀ row ∈ r.store.user.rows, row.2.email ≠ looked.address ∧ row.2.username ≠ looked.username

/-- What a login in flight relies on: the row it has found is still there. -/
def Known (r : Reception) (looked : Looked) : Prop :=
  looked.found.isSome → HasOneRow r.store.toTables looked.username

theorem known_of_look {dir : Directory} {r : Reception} {request : String × DateTime}
    {looked : Looked} (loaded : (logins dir).load r request = some looked) : Known r looked := by
  obtain ⟨entry, -, rfl⟩ := Option.map_eq_some_iff.mp loaded
  intro isSome
  simp only [Option.isSome_map] at isSome
  obtain ⟨⟨id, user⟩, located⟩ := Option.isSome_iff_exists.mp isSome
  exact (hasOneRow_iff r.store.valid).mpr ⟨id, user, Tables.findUser_some located⟩

/-- A login that has found a row returns its session user and writes nothing. -/
theorem conclude_found {s : Store} {looked : Looked} {user : User}
    (found : looked.found = some user) :
    ∃ account, account.username = looked.username ∧ conclude s looked = (s, .ok account) := by
  unfold conclude
  rw [found]
  refine ⟨_, ?_, rfl⟩
  split <;> rfl

theorem row_valid {s : Store} {looked : Looked} {row : User}
    (built : userRow looked.userToken looked.now = some row) :
    (s.insertUser row).Valid ↔ ∀ other ∈ s.user.rows,
      other.2.email ≠ looked.address ∧ other.2.username ≠ looked.username := by
  obtain ⟨fname, -, rfl⟩ := Option.map_eq_some_iff.mp built
  simp only [s.valid.insertUser, Prod.forall, Relational.Table.mem_rows_iff, looked.userToken_email]
  exact Iff.rfl

/-- One that has found none inserts its row, or fails and writes nothing. -/
theorem conclude_none {r : Reception} {looked : Looked} (absent : looked.found = none) :
    (Insertable r looked ∧ ∃ row u, row.username = looked.username ∧
        u.toTables = r.store.insertUser row ∧
        conclude r.store looked = (u, .ok looked.userToken)) ∨
      (¬ Insertable r looked ∧
        conclude r.store looked = (r.store, .error .constraintViolation)) := by
  have named := fname_isSome_iff looked.entry looked.username
  unfold conclude Insertable
  simp only [absent, true_implies, ← named]
  cases built : userRow looked.userToken looked.now with
  | none =>
      have nameless : looked.userToken.fname = none := Option.map_eq_none_iff.mp built
      refine .inr ⟨fun insertable => ?_, rfl⟩
      exact absurd insertable.1 (by simpa [Looked.userToken, loadUser] using nameless)
  | some row =>
      obtain ⟨fname, given, -⟩ := Option.map_eq_some_iff.mp built
      have first : (getUserInfo looked.entry looked.username).fname.isSome :=
        Option.isSome_iff_exists.mpr ⟨fname, given⟩
      rw [and_iff_right first, ← row_valid built]
      cases flushed : r.store.flush (Tables.insertUser row) with
      | some u =>
          have after := Store.flush_eq_some.mp flushed
          refine .inl ⟨after ▸ u.valid, row, u, ?_, after, by simp only [flushed]⟩
          exact userRow_username built
      | none => exact .inr ⟨Store.flush_eq_none.mp flushed, by simp only [flushed]⟩

/-- Nobody's row goes away. -/
theorem hasOneRow_conclude {r : Reception} {looked : Looked} {username : String}
    (before : HasOneRow r.store.toTables username) :
    HasOneRow (conclude r.store looked).1.toTables username := by
  cases found : looked.found with
  | some user =>
      obtain ⟨account, -, result⟩ := conclude_found (s := r.store) found
      rwa [result]
  | none =>
      rcases conclude_none (r := r) found with ⟨-, row, u, -, after, result⟩ | ⟨-, result⟩
      · obtain ⟨id, user, there, named⟩ := (hasOneRow_iff r.store.valid).mp before
        rw [result]
        refine (hasOneRow_iff u.valid).mpr ⟨id, user, ?_, named⟩
        rw [after]
        exact Relational.Table.find_insert_old there
      · rwa [result]

theorem known_flush {dir : Directory} {r : Reception} {flushed looked : Looked}
    (known : Known r looked) : Known ((logins dir).flush r flushed) looked :=
  fun found => hasOneRow_conclude (known found)

/-- The second step succeeds exactly when there is nothing to insert or the row can
    be inserted. -/
theorem allSucceeded_flush {dir : Directory} {r : Reception} {looked : Looked}
    (succeeded : r.AllSucceeded) (known : Known r looked) :
    ((logins dir).flush r looked).AllSucceeded ↔ Insertable r looked := by
  have rest : ∀ login ∈ r.returned, Succeeded (conclude r.store looked).1 login :=
    fun login member => ⟨(succeeded login member).1, hasOneRow_conclude (succeeded login member).2⟩
  have last : ((logins dir).flush r looked).AllSucceeded ↔
      Succeeded (conclude r.store looked).1 (looked, (conclude r.store looked).2) := by
    simp only [Reception.AllSucceeded, logins, List.forall_mem_append, List.forall_mem_singleton]
    exact and_iff_right rest
  rw [last]
  cases found : looked.found with
  | some user =>
      obtain ⟨account, named, result⟩ := conclude_found (s := r.store) found
      rw [result]
      refine iff_of_true ⟨⟨account, rfl, named⟩, known (by simp [found])⟩ fun absent => ?_
      simp [found] at absent
  | none =>
      rcases conclude_none (r := r) found with
        ⟨insertable, row, u, named, after, result⟩ | ⟨full, result⟩
      · rw [result]
        refine iff_of_true ⟨⟨looked.userToken, rfl, rfl⟩, ?_⟩ insertable
        refine (hasOneRow_iff u.valid).mpr ⟨r.store.user.nextId, row, ?_, named⟩
        simp only [after, Tables.insertUser, Relational.Table.find_insert_self]
      · rw [result]
        refine iff_of_false (fun done => ?_) full
        obtain ⟨account, impossible, -⟩ := done.1
        cases impossible

/-- However logins interleave, all of them return their session user and leave
    exactly one row of the name, exactly when each that has found no row can insert
    one when it comes to it. Which display names give a first name does not depend
    on the rows. -/
theorem concurrent_logins (dir : Directory) (s : Store)
    (events : List (TwoPhase.Event (String × DateTime))) :
    ((∀ t ∈ Run.states (logins dir).step (State.quiet (Reception.open s)) events,
        t.store.AllSucceeded) ↔
      ∀ move ∈ Run.steps (logins dir).step (State.quiet (Reception.open s)) events,
        TwoPhase.FlushGuard Insertable move.1 move.2) ∧
      ∀ result username, (getUserInfo result username).fname.isSome ↔
        GivesFirstName (result.displayname.getD "") := by
  refine ⟨?_, fname_isSome_iff⟩
  exact TwoPhase.exact_guard (I := Reception.AllSucceeded) (K := Known)
    (fun _ _ _ _ loaded => known_of_look loaded)
    (fun _ _ _ _ _ known _ => known_flush known)
    (fun _ _ succeeded known => allSucceeded_flush succeeded known)
    (fun _ member => by cases member) (State.tracks_quiet _ _)

/-- No two names, and no two entries, share an entry or an address. -/
structure Distinct (dir : Directory) : Prop where
  usernames : ∀ query, (dir.find query).length ≤ 1
  mails : ∀ query other entry otherEntry mail, entry ∈ dir.find query →
    otherEntry ∈ dir.find other → entry.mail = some mail → otherEntry.mail = some mail →
    query = other

/-- A directory with one entry, whose display name is one word. -/
def oneWord : Directory where
  reachable := true
  find query :=
    if query = "(sAMAccountName=cher)" then [⟨some "Cher", some "cher@winthrop.edu"⟩] else []
  bind _ _ := true

theorem one_word_name_is_locked_out : ¬ ∀ (dir : Directory) (s : Store)
    (events : List (TwoPhase.Event (String × DateTime))), Distinct dir →
    ∀ t ∈ Run.states (logins dir).step (State.quiet (Reception.open s)) events,
      t.store.AllSucceeded := by
  intro claim
  have distinct : Distinct oneWord := by
    constructor
    · intro query
      simp only [oneWord]
      split <;> simp
    · intro query other entry otherEntry mail found otherFound _ _
      simp only [oneWord] at found otherFound
      split at found <;> split at otherFound <;> simp_all
  let events : List (TwoPhase.Event (String × DateTime)) := [.load 0 ("cher", 0), .flush 0]
  have succeeded := claim oneWord .sample events distinct
    (Run.final (logins oneWord).step (State.quiet (Reception.open .sample)) events)
    (by simp [events, Run.states])
  have refused := succeeded
    (⟨"cher", ⟨some "Cher", some "cher@winthrop.edu"⟩, none, 0⟩, .error .constraintViolation)
    (by decide)
  obtain ⟨account, impossible, -⟩ := refused.1
  cases impossible

end WuRegalia.Logins
