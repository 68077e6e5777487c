import WuRegalia.Controller.Admin
import WuRegalia.Library.Run
import WuRegalia.Security.Login

/-! # Logging in again

Lookups of users by the provider, with edits of user rows in between. A lookup
that completes adds a row when the name has none and writes nothing otherwise,
whatever the directory says by then; the roles it hands out are the default ones
and, for a row of an administrator, one more.
-/

namespace WuRegalia.Relogin

open Relational LdapSessionUserProvider

inductive Event where
  | login (dir : Directory) (username : String) (now : DateTime)
  | edit (method : Method) (payload : Payload) (id : Id)

def step (s : Store) : Event → Store
  | .login dir username now => (loadUserByUsername dir s now username).1
  | .edit method payload id => (UserController.editAction method payload id s).store

/-- A lookup ends with a session user; an edit keeps the name of its row. -/
def Completes (s : Store) : Event → Prop
  | .login dir username now => ∃ account, (loadUserByUsername dir s now username).2 = .ok account
  | .edit method payload id => ∀ old ∈ s.user.find id,
      ∀ row ∈ UserType.submitted method payload, row.username = old.username

/-- The move is a lookup under the name, as the database spells it. -/
def LooksUp (name : String) (move : Store × Event) : Bool :=
  match move.2 with
  | .login _ username _ => escape username = name
  | .edit .. => false

/-- The row the first lookup of a name would add. -/
def FirstRow (moves : List (Store × Event)) (name : String) (row : User) : Prop :=
  ∃ t dir username now entry, moves.find? (LooksUp name) = some (t, .login dir username now) ∧
    entryOf dir username = some entry ∧ userRow (loadUser name entry) now = some row

/-- Where a row comes from: it was there at the start, or there was none of its name and
    the first lookup of the name added it. -/
def Origin (s : Store) (moves : List (Store × Event)) (id : Id) (origin : User) : Prop :=
  s.user.find id = some origin ∨
    s.findUser origin.username = none ∧ FirstRow moves origin.username origin

/-- No edit gives the column of the row another value. -/
def Untouched {α : Type} (column : User → α) (id : Id) (moves : List (Store × Event)) : Prop :=
  ∀ t method payload key, (t, .edit method payload key) ∈ moves →
    ((step t (.edit method payload key)).user.find id).map column = (t.user.find id).map column

/-- A lookup that completes has found a row and writes nothing, or adds the row it has
    not found. -/
theorem login_cases {dir : Directory} {s : Store} {now : DateTime} {username : String}
    {account : SessionUser} (signedIn : (loadUserByUsername dir s now username).2 = .ok account) :
    (s.findUser (escape username) ≠ none ∧ (loadUserByUsername dir s now username).1 = s) ∨
      (s.findUser (escape username) = none ∧ ∃ entry row, entryOf dir username = some entry ∧
        userRow (loadUser (escape username) entry) now = some row ∧
        (loadUserByUsername dir s now username).1.toTables = s.insertUser row) := by
  cases located : entryOf dir username with
  | none =>
      obtain ⟨message, loaded⟩ := loadUserByUsername_of_none located s now
      rw [loaded] at signedIn
      cases signedIn
  | some entry =>
      rw [loadUserByUsername_of_entry located] at signedIn ⊢
      rcases checkDatabase_cases s now (loadUser (escape username) entry) with
        ⟨id, user, found, result⟩ | ⟨adds, row, u, built, after, result⟩ | ⟨-, -, result⟩
      · rw [result]
        exact .inl ⟨fun absent => by simp [loadUser, absent] at found, rfl⟩
      · rw [result]
        exact .inr ⟨adds.1, entry, row, rfl, built, after⟩
      · rw [result] at signedIn
        cases signedIn

section Step

variable {s : Store} {event : Event}

/-- An edit leaves a row as it is, or replaces it by one of the same name. -/
theorem find_edit {method : Method} {payload : Payload} {key : Id}
    (completes : Completes s (.edit method payload key)) (id : Id) :
    (step s (.edit method payload key)).user.find id = s.user.find id ∨
      ∃ old row, s.user.find id = some old ∧
        (step s (.edit method payload key)).user.find id = some row ∧
        row.username = old.username := by
  simp only [Completes, step, UserController.editAction_store] at completes ⊢
  cases found : s.user.find key with
  | none => exact .inl rfl
  | some old =>
      cases accepted : UserType.submitted method payload with
      | none => exact .inl rfl
      | some row =>
          simp only
          cases s.committed_cases (Tables.updateUser key row) with
          | inr rejected => exact .inl (by rw [rejected.2])
          | inl applied =>
              rw [applied.2, Tables.updateUser, Table.find_update]
              split
              · rename_i here
                subst here
                exact .inr ⟨old, row, found, by rw [found]; rfl, completes old found row accepted⟩
              · exact .inl rfl

/-- No row goes away or changes its name. -/
theorem row_step (completes : Completes s event) {id : Id} {user : User}
    (there : s.user.find id = some user) :
    ∃ after, (step s event).user.find id = some after ∧ after.username = user.username := by
  cases event with
  | login dir username now =>
      obtain ⟨account, signedIn⟩ := completes
      rcases login_cases signedIn with ⟨-, same⟩ | ⟨-, entry, row, -, -, after⟩
      · exact ⟨user, by rw [step, same, there], rfl⟩
      · exact ⟨user, by rw [step, after]; exact Table.find_insert_old there, rfl⟩
  | edit method payload key =>
      rcases find_edit completes id with same | ⟨old, row, before, after, named⟩
      · exact ⟨user, by rw [same, there], rfl⟩
      · rw [there] at before
        obtain rfl := Option.some.inj before
        exact ⟨row, after, named⟩

/-- Whoever has been looked up has a row. -/
theorem row_of_login {dir : Directory} {username : String} {now : DateTime}
    (completes : Completes s (.login dir username now)) :
    ∃ id user, (step s (.login dir username now)).user.find id = some user ∧
      user.username = escape username := by
  obtain ⟨account, signedIn⟩ := completes
  rcases login_cases signedIn with ⟨known, same⟩ | ⟨-, entry, row, -, built, after⟩
  · obtain ⟨⟨id, user⟩, found⟩ := Option.ne_none_iff_exists'.mp known
    exact ⟨id, user, by rw [step, same]; exact Tables.findUser_some found⟩
  · exact ⟨s.user.nextId, row, by rw [step, after]; exact Table.find_insert_self _ _,
      userRow_username built⟩

end Step

/-- What is known of the rows after some steps from `s`. -/
structure Traced (s : Store) (moves : List (Store × Event)) (t : Store) : Prop where
  /-- The rows of the start are there. -/
  kept : ∀ id user, s.user.find id = some user →
    ∃ after, t.user.find id = some after ∧ after.username = user.username
  /-- Whoever has been looked up has a row. -/
  named : ∀ move ∈ moves, ∀ name, LooksUp name move = true →
    ∃ id user, t.user.find id = some user ∧ user.username = name
  /-- Every row comes from somewhere and has its columns from there. -/
  origin : ∀ id user, t.user.find id = some user → ∃ origin, Origin s moves id origin ∧
    origin.username = user.username ∧
      ∀ {α : Type} (column : User → α), Untouched column id moves → column user = column origin

theorem traced_start (s : Store) : Traced s [] s where
  kept := fun _ user there => ⟨user, there, rfl⟩
  named := fun _ member => by cases member
  origin := fun _ user there => ⟨user, .inl there, rfl, fun _ _ => rfl⟩

theorem Untouched.of_append {α : Type} {column : User → α} {id : Id}
    {moves later : List (Store × Event)} (untouched : Untouched column id (moves ++ later)) :
    Untouched column id moves :=
  fun t method payload key member =>
    untouched t method payload key (List.mem_append_left later member)

/-- The first lookup of a name stays the first. -/
theorem Origin.append {s : Store} {moves later : List (Store × Event)} {id : Id} {origin : User}
    (before : Origin s moves id origin) : Origin s (moves ++ later) id origin := by
  rcases before with start | ⟨absent, t, dir, username, now, entry, first, found, built⟩
  · exact .inl start
  · refine .inr ⟨absent, t, dir, username, now, entry, ?_, found, built⟩
    rw [List.find?_append, first]
    rfl

/-- A row that is added is the one of the first lookup: an earlier one would have left a
    row of the name. -/
theorem Traced.origin_of_added {s t : Store} {moves : List (Store × Event)}
    (traced : Traced s moves t) {dir : Directory} {username : String} {now : DateTime}
    {entry : LdapEntry} {row : User} {id : Id} (absent : t.findUser (escape username) = none)
    (located : entryOf dir username = some entry)
    (built : userRow (loadUser (escape username) entry) now = some row) :
    Origin s (moves ++ [(t, .login dir username now)]) id row := by
  have named : row.username = escape username := userRow_username built
  have missing := Tables.findUser_none.mp absent
  refine .inr ⟨Tables.findUser_none.mpr fun key user start same => ?_, t, dir, username, now, entry,
    ?_, located, named ▸ built⟩
  · obtain ⟨after, there, kept⟩ := traced.kept key user start
    exact missing key after there (kept.trans (same.trans named))
  · have fresh : moves.find? (LooksUp row.username) = none := by
      refine List.find?_eq_none.mpr fun move member looksUp => ?_
      obtain ⟨key, user, there, same⟩ := traced.named move member row.username looksUp
      exact missing key user there (same.trans named)
    rw [List.find?_append, fresh]
    simp [LooksUp, named]

theorem traced_step {s t : Store} {moves : List (Store × Event)} (traced : Traced s moves t)
    {event : Event} (completes : Completes t event) :
    Traced s (moves ++ [(t, event)]) (step t event) := by
  constructor
  case kept =>
    intro id user start
    obtain ⟨middle, there, named⟩ := traced.kept id user start
    obtain ⟨after, found, same⟩ := row_step completes there
    exact ⟨after, found, same.trans named⟩
  case named =>
    intro move member name looksUp
    rcases List.mem_append.mp member with earlier | last
    · obtain ⟨id, user, there, named⟩ := traced.named move earlier name looksUp
      obtain ⟨after, found, same⟩ := row_step completes there
      exact ⟨id, after, found, same.trans named⟩
    · obtain rfl := List.mem_singleton.mp last
      cases event with
      | login dir username now =>
          have same : escape username = name := by simpa [LooksUp] using looksUp
          exact same ▸ row_of_login completes
      | edit method payload key => simp [LooksUp] at looksUp
  case origin =>
    intro id user found
    have earlier : ∀ old, t.user.find id = some old → old.username = user.username →
        (∀ {α : Type} (column : User → α), Untouched column id (moves ++ [(t, event)]) →
          column user = column old) →
        ∃ origin, Origin s (moves ++ [(t, event)]) id origin ∧ origin.username = user.username ∧
          ∀ {α : Type} (column : User → α), Untouched column id (moves ++ [(t, event)]) →
            column user = column origin := by
      intro old there named columns
      obtain ⟨origin, source, sameName, same⟩ := traced.origin id old there
      exact ⟨origin, source.append, sameName.trans named, fun column untouched =>
        (columns column untouched).trans (same column untouched.of_append)⟩
    cases event with
    | login dir username now =>
        obtain ⟨account, signedIn⟩ := completes
        rcases login_cases signedIn with ⟨-, same⟩ | ⟨absent, entry, row, located, built, after⟩
        · rw [step, same] at found
          exact earlier user found rfl fun _ _ => rfl
        · rw [step, after, Tables.insertUser, Table.find_insert] at found
          split at found
          · obtain rfl := Option.some.inj found
            exact ⟨row, traced.origin_of_added absent located built, rfl, fun _ _ => rfl⟩
          · exact earlier user found rfl fun _ _ => rfl
    | edit method payload key =>
        rcases find_edit completes id with same | ⟨old, row, before, after, named⟩
        · rw [same] at found
          exact earlier user found rfl fun _ _ => rfl
        · rw [after] at found
          obtain rfl := Option.some.inj found
          refine earlier old before named.symm fun column untouched => ?_
          have unchanged := untouched t method payload key (by simp)
          rw [before, after] at unchanged
          exact Option.some.inj unchanged

/-- What one completed lookup does: it writes nothing for a name that has a row, inserts
    a row of the name otherwise, and hands out the default roles and, on account of an
    administrator's row, `ROLE_ADMIN`. -/
structure Lookup (dir : Directory) (username : String) (now : DateTime) (t : Store) : Prop where
  known : t.findUser (escape username) ≠ none → step t (.login dir username now) = t
  added : t.findUser (escape username) = none → ∃ row, row.username = escape username ∧
    (step t (.login dir username now)).toTables = t.insertUser row
  roles : ∀ account, (loadUserByUsername dir t now username).2 = .ok account →
    account.roles = defaultRoles ++
      if AdminRow t.toTables (escape username) then [.ROLE_ADMIN] else []

/-- The row of a name: there is one, and apart from what edits have changed it is the row
    the name had at the start or, when it had none, the one its first lookup added. -/
def Holds (s : Store) (moves : List (Store × Event)) (t : Store) (name : String) : Prop :=
  HasOneRow t.toTables name ∧ ∃ id user origin, t.user.find id = some user ∧ user.username = name ∧
    Origin s moves id origin ∧ origin.username = name ∧
    ∀ {α : Type} (column : User → α), Untouched column id moves → column user = column origin

theorem lookup_of_completes {dir : Directory} {username : String} {now : DateTime} {t : Store}
    (completes : Completes t (.login dir username now)) : Lookup dir username now t := by
  obtain ⟨account, signedIn⟩ := completes
  constructor
  case known =>
    intro known
    rcases login_cases signedIn with ⟨-, same⟩ | ⟨absent, -⟩
    · exact same
    · exact absurd absent known
  case added =>
    intro absent
    rcases login_cases signedIn with ⟨known, -⟩ | ⟨-, entry, row, -, built, after⟩
    · exact absurd absent known
    · exact ⟨row, userRow_username built, after⟩
  case roles => exact fun _ returned => (loadUserByUsername_roles returned).2

/-- Logging in again changes nothing: in a run of completed lookups and of edits that keep
    the names, every lookup writes at most the one row that is missing and hands out the
    roles stored, and at the end every name that was looked up has one row, which holds
    what it held from the start on or from its first lookup on, but for the edits. -/
theorem relogin_changes_nothing {s : Store} {events : List Event}
    (completed : ∀ move ∈ Run.steps step s events, Completes move.1 move.2) :
    ∀ t dir username now, (t, .login dir username now) ∈ Run.steps step s events →
      Lookup dir username now t ∧
        Holds s (Run.steps step s events) (Run.final step s events) (escape username) := by
  have traced : Traced s (Run.steps step s events) (Run.final step s events) :=
    Run.traced (Traced s) (traced_start s) fun moves t event member before =>
      traced_step before (completed _ member)
  intro t dir username now member
  refine ⟨lookup_of_completes (completed _ member), ?_⟩
  obtain ⟨id, user, there, named⟩ := traced.named _ member (escape username) (by simp [LooksUp])
  obtain ⟨origin, source, sameName, columns⟩ := traced.origin id user there
  exact ⟨(hasOneRow_iff (Run.final step s events).valid).mpr ⟨id, user, there, named⟩,
    id, user, origin, there, named, source, sameName.trans named, columns⟩

/-- A directory that has the same entry for everybody. -/
def onlyEntry (displayname mail : String) : Directory where
  reachable := true
  find _ := [⟨some displayname, some mail⟩]
  bind _ _ := true

/-- The form of users, with another address for Carl. -/
def readdressed : Payload :=
  [("user", ⟨true, [("fname", .text "Carl"), ("lname", .text "Brown"),
    ("email", .text "carl@winthrop.edu"), ("username", .text "brownc"),
    ("signup_date", .dateTime 0), ("adminpriv", .integer 1)]⟩)]

/-- Carl signs in, gets another address and the rights of an administrator, and signs in
    again with another name in the directory. -/
def carl : List Event :=
  [.login (onlyEntry "Brown, Carl" "brownc@winthrop.edu") "brownc" 0, .edit .post readdressed 3,
    .login (onlyEntry "Braun, Karl" "braunk@winthrop.edu") "brownc" 1]

theorem relogin_changes_nothing_sample :
    Lookup (onlyEntry "Braun, Karl" "braunk@winthrop.edu") "brownc" 1
        (Run.final step .sample (carl.take 2)) ∧
      Holds .sample (Run.steps step .sample carl) (Run.final step .sample carl)
        (escape "brownc") := by
  have completed : ∀ move ∈ Run.steps step .sample carl, Completes move.1 move.2 := by
    intro move member
    simp only [carl, Run.steps, List.mem_cons, List.not_mem_nil, or_false] at member
    rcases member with rfl | rfl | rfl
    · exact ⟨_, rfl⟩
    · simp only [Completes]
      decide
    · exact ⟨_, rfl⟩
  exact relogin_changes_nothing completed _ _ _ _ (by simp [carl, Run.steps, Run.final])

/-- Bob's row was there before his first lookup, and stays as it was. -/
theorem first_login_does_not_overwrite : ¬ ∀ (s : Store) (events : List Event),
    (∀ move ∈ Run.steps step s events, Completes move.1 move.2) →
      ∀ t dir username now, (t, .login dir username now) ∈ Run.steps step s events →
        ∃ id user origin, (Run.final step s events).user.find id = some user ∧
          user.username = escape username ∧
          FirstRow (Run.steps step s events) (escape username) origin ∧
          ∀ column ∈ [User.fname, User.lname, User.email],
            Untouched column id (Run.steps step s events) → column user = column origin := by
  intro claim
  let dir : Directory := onlyEntry "Jones, Robert" "jonesb@winthrop.edu"
  obtain ⟨id, user, origin, there, named, first, columns⟩ :=
    claim .sample [.login dir "jonesb" 0] (by
      intro move member
      obtain rfl := List.mem_singleton.mp member
      exact ⟨_, rfl⟩) .sample dir "jonesb" 0 List.mem_cons_self
  have untouched : Untouched User.fname id (Run.steps step .sample [.login dir "jonesb" 0]) := by
    intro t method payload key member
    simp [Run.steps] at member
  have same := columns User.fname (by simp) untouched
  have robert : origin.fname = "Robert" := by
    obtain ⟨t, _, username, now, entry, found, located, built⟩ := first
    obtain ⟨-, rfl, rfl, rfl⟩ : _ = t ∧ dir = _ ∧ "jonesb" = username ∧ 0 = now := by
      simpa [Run.steps, LooksUp] using found
    have entryIs : entryOf dir "jonesb" =
        some ⟨some "Jones, Robert", some "jonesb@winthrop.edu"⟩ := rfl
    obtain rfl := Option.some.inj (entryIs.symm.trans located)
    have rowIs : userRow (loadUser (escape "jonesb")
        ⟨some "Jones, Robert", some "jonesb@winthrop.edu"⟩) 0 =
          some ⟨"Robert", "Jones", "jonesb@winthrop.edu", "jonesb", 0, 0⟩ := by decide
    obtain rfl := Option.some.inj (rowIs.symm.trans built)
    rfl
  have bob : ∀ row ∈ Store.sample.user.rows, row.2.username = "jonesb" → row.2.fname = "Bob" := by
    decide
  have unchanged : Run.final step .sample [.login dir "jonesb" 0] = Store.sample := by
    decide
  rw [unchanged] at there
  have known := bob (id, user) (Table.mem_of_find there) named
  rw [same, robert] at known
  exact absurd known (by decide)

end WuRegalia.Relogin
