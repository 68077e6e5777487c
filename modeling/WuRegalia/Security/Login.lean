import WuRegalia.Security.SessionUser

/-! # What a login does to the database

The provider that looks a user up also adds the missing row, and it is called
before the password is tried. A login that fails leaves a row behind exactly
when only the password was wrong and the lookup added one.
-/

namespace WuRegalia

open LdapSessionUserProvider

namespace LdapSessionUserProvider

/-- A row is missing and can be added: the name has none, the directory gives a
    first name, and no other row has the address. -/
def Adds (s : Store) (userToken : SessionUser) : Prop :=
  s.findUser userToken.username = none ∧ userToken.fname.isSome ∧
    ∀ row ∈ s.user.rows, row.2.email ≠ userToken.email

instance (s : Store) (userToken : SessionUser) : Decidable (Adds s userToken) :=
  inferInstanceAs (Decidable (_ ∧ _ ∧ ∀ _ ∈ _, _))

theorem insertUser_valid {s : Store} {userToken : SessionUser} {now : DateTime} {row : User}
    (absent : s.findUser userToken.username = none) (built : userRow userToken now = some row) :
    (Tables.insertUser row s.toTables).Valid ↔
      ∀ other ∈ s.user.rows, other.2.email ≠ userToken.email := by
  obtain ⟨fname, -, rfl⟩ := Option.map_eq_some_iff.mp built
  rw [s.valid.insertUser, Prod.forall]
  simp only [Relational.Table.mem_rows_iff]
  constructor
  · intro free id user found
    exact (free id user found).1
  · intro free id user found
    exact ⟨free id user found, Tables.findUser_none.mp absent id user found⟩

theorem userRow_username {tok : SessionUser} {now : DateTime} {row : User}
    (built : userRow tok now = some row) : row.username = tok.username := by
  obtain ⟨fname, -, rfl⟩ := Option.map_eq_some_iff.mp built
  rfl

/-- The three ways through `checkDatabase`: the name has a row, one is added, or
    none can be. -/
theorem checkDatabase_cases (s : Store) (now : DateTime) (userToken : SessionUser) :
    (∃ id user, s.findUser userToken.username = some (id, user) ∧
        checkDatabase s now userToken =
          (s, .ok (if user.isAdmin then userToken.addRole .ROLE_ADMIN else userToken))) ∨
      (Adds s userToken ∧ ∃ row u, userRow userToken now = some row ∧
        u.toTables = Tables.insertUser row s.toTables ∧
        checkDatabase s now userToken = (u, .ok userToken)) ∨
      (s.findUser userToken.username = none ∧ ¬ Adds s userToken ∧
        checkDatabase s now userToken = (s, .error .constraintViolation)) := by
  unfold checkDatabase
  cases found : s.findUser userToken.username with
  | some row => exact .inl ⟨row.1, row.2, rfl, rfl⟩
  | none =>
      right
      cases built : userRow userToken now with
      | none =>
          have nameless : userToken.fname = none := Option.map_eq_none_iff.mp built
          refine .inr ⟨rfl, fun adds => ?_, rfl⟩
          simp [Adds, nameless] at adds
      | some row =>
          have valid := insertUser_valid found built
          have named : userToken.fname.isSome := by
            obtain ⟨fname, some, -⟩ := Option.map_eq_some_iff.mp built
            rw [some]
            rfl
          cases flushed : s.flush (Tables.insertUser row) with
          | some u =>
              have after := Store.flush_eq_some.mp flushed
              refine .inl ⟨⟨found, named, valid.mp (after ▸ u.valid)⟩, row, u, rfl, after, ?_⟩
              simp only [flushed]
          | none =>
              refine .inr ⟨rfl, fun adds => ?_, by simp only [flushed]⟩
              exact Store.flush_eq_none.mp flushed (valid.mpr adds.2.2)

/-- The one entry the directory has for a name. -/
def entryOf (dir : Directory) (username : String) : Option LdapEntry :=
  match dir.reachable, dir.find (query (escape username)) with
  | true, [entry] => some entry
  | _, _ => none

theorem loadUserByUsername_of_entry {dir : Directory} {username : String} {entry : LdapEntry}
    (found : entryOf dir username = some entry) (s : Store) (now : DateTime) :
    loadUserByUsername dir s now username =
      checkDatabase s now (loadUser (escape username) entry) := by
  unfold entryOf at found
  unfold loadUserByUsername
  split at found
  · rename_i reachable entries
    obtain rfl := Option.some.inj found
    simp [reachable, entries]
  · cases found

theorem loadUserByUsername_of_none {dir : Directory} {username : String}
    (absent : entryOf dir username = none) (s : Store) (now : DateTime) :
    ∃ message, loadUserByUsername dir s now username = (s, .error (.usernameNotFound message)) := by
  unfold entryOf at absent
  unfold loadUserByUsername
  cases reachable : dir.reachable with
  | false => exact ⟨_, rfl⟩
  | true =>
      simp only [reachable] at absent ⊢
      cases entries : dir.find (query (escape username)) with
      | nil => exact ⟨_, rfl⟩
      | cons entry rest =>
          cases rest with
          | nil => simp [entries] at absent
          | cons second others => exact ⟨_, rfl⟩

end LdapSessionUserProvider

/-- Exactly one row has the name. -/
def HasOneRow (t : Tables) (username : String) : Prop :=
  ∃! id, ∃ user, t.user.find id = some user ∧ user.username = username

/-- The names are unique, so one row is enough. -/
theorem hasOneRow_iff {t : Tables} (valid : t.Valid) {username : String} :
    HasOneRow t username ↔ ∃ id user, t.user.find id = some user ∧ user.username = username := by
  constructor
  · exact ExistsUnique.exists
  · intro row
    obtain ⟨id, user, found, named⟩ := row
    refine ⟨id, ⟨user, found, named⟩, ?_⟩
    rintro other ⟨same, otherFound, otherNamed⟩
    exact valid.userUsername.eq otherFound found (otherNamed.trans named.symm)

/-- A row of the name is an administrator's. -/
def AdminRow (t : Tables) (username : String) : Prop :=
  ∃ row ∈ t.user.rows, row.2.username = username ∧ row.2.isAdmin = true

instance (t : Tables) (username : String) : Decidable (AdminRow t username) :=
  inferInstanceAs (Decidable (∃ _ ∈ _, _ ∧ _))

theorem adminRow_iff {t : Tables} {username : String} :
    AdminRow t username ↔
      ∃ id user, t.user.find id = some user ∧ user.username = username ∧ user.isAdmin = true := by
  simp only [AdminRow, Prod.exists, Relational.Table.mem_rows_iff]

/-- A row was added that is no administrator's, or nothing was written. -/
inductive LoginWrites (s : Store) : Store → Prop where
  | nothing : LoginWrites s s
  | added {u : Store} (row : User) (after : u.toTables = s.insertUser row)
      (ordinary : row.adminpriv = 0) : LoginWrites s u

theorem checkDatabase_writes (s : Store) (now : DateTime) (userToken : SessionUser) :
    LoginWrites s (checkDatabase s now userToken).1 := by
  rcases checkDatabase_cases s now userToken with
    ⟨id, user, found, result⟩ | ⟨adds, row, u, built, after, result⟩ | ⟨absent, full, result⟩
  · rw [result]
    exact .nothing
  · rw [result]
    obtain ⟨fname, -, rfl⟩ := Option.map_eq_some_iff.mp built
    exact .added _ after rfl
  · rw [result]
    exact .nothing

/-- The row that is found under a name is the only one that can be an administrator's. -/
theorem adminRow_of_found {s : Store} {username : String} {id : Id} {user : User}
    (found : s.findUser username = some (id, user)) :
    AdminRow s.toTables username ↔ user.isAdmin = true := by
  obtain ⟨row, named⟩ := Tables.findUser_some found
  rw [adminRow_iff]
  constructor
  · intro admin
    obtain ⟨other, administrator, there, sameName, isAdmin⟩ := admin
    obtain rfl := s.valid.userUsername.eq there row (sameName.trans named.symm)
    rw [row] at there
    exact Option.some.inj there ▸ isAdmin
  · exact fun isAdmin => ⟨id, user, row, named, isAdmin⟩

theorem not_adminRow_of_absent {s : Store} {username : String}
    (absent : s.findUser username = none) : ¬ AdminRow s.toTables username := by
  intro admin
  obtain ⟨id, user, there, named, -⟩ := adminRow_iff.mp admin
  exact Tables.findUser_none.mp absent id user there named

/-- The roles handed out: those of the token, and `ROLE_ADMIN` on account of the row
    there was before. -/
theorem checkDatabase_roles {s : Store} {now : DateTime} {userToken account : SessionUser}
    (signedIn : (checkDatabase s now userToken).2 = .ok account) :
    account.username = userToken.username ∧ account.roles = userToken.roles ++
      if AdminRow s.toTables userToken.username then [.ROLE_ADMIN] else [] := by
  rcases checkDatabase_cases s now userToken with
    ⟨id, user, found, result⟩ | ⟨adds, row, u, built, after, result⟩ | ⟨absent, full, result⟩
  · rw [result] at signedIn
    cases signedIn
    simp only [adminRow_of_found found]
    split
    · exact ⟨rfl, rfl⟩
    · exact ⟨rfl, (List.append_nil _).symm⟩
  · rw [result] at signedIn
    cases signedIn
    rw [if_neg (not_adminRow_of_absent adds.1)]
    exact ⟨rfl, (List.append_nil _).symm⟩
  · rw [result] at signedIn
    cases signedIn

/-- `ROLE_ADMIN` is only ever added on account of a row. -/
theorem checkDatabase_admin {s : Store} {now : DateTime} {userToken account : SessionUser}
    (ordinary : .ROLE_ADMIN ∉ userToken.roles)
    (signedIn : (checkDatabase s now userToken).2 = .ok account)
    (admin : .ROLE_ADMIN ∈ account.roles) : AdminRow s.toTables account.username := by
  obtain ⟨named, roles⟩ := checkDatabase_roles signedIn
  rw [roles, List.mem_append, or_iff_right ordinary] at admin
  rw [named]
  by_contra absent
  simp [absent] at admin

theorem loadUserByUsername_cases (dir : Directory) (s : Store) (now : DateTime) (username : String) :
    (∃ entry, loadUserByUsername dir s now username =
        checkDatabase s now (loadUser (escape username) entry)) ∨
      ∃ message, loadUserByUsername dir s now username = (s, .error (.usernameNotFound message)) := by
  cases found : entryOf dir username with
  | some entry => exact .inl ⟨entry, loadUserByUsername_of_entry found s now⟩
  | none => exact .inr (loadUserByUsername_of_none found s now)

/-- The default roles are handed out anew at every lookup. -/
theorem loadUserByUsername_roles {dir : Directory} {s : Store} {now : DateTime} {username : String}
    {account : SessionUser} (signedIn : (loadUserByUsername dir s now username).2 = .ok account) :
    account.username = escape username ∧ account.roles = defaultRoles ++
      if AdminRow s.toTables (escape username) then [.ROLE_ADMIN] else [] := by
  rcases loadUserByUsername_cases dir s now username with ⟨entry, loaded⟩ | ⟨message, loaded⟩
  · rw [loaded] at signedIn
    exact checkDatabase_roles signedIn
  · rw [loaded] at signedIn
    cases signedIn

theorem attemptAuthentication_writes (dir : Directory) (s : Store) (now : DateTime)
    (c : Credentials) : LoginWrites s (attemptAuthentication dir s now c).1 := by
  unfold attemptAuthentication
  split
  · split
    · exact .nothing
    · have writes : LoginWrites s (loadUserByUsername dir s now c.username).1 := by
        rcases loadUserByUsername_cases dir s now c.username with ⟨entry, loaded⟩ | ⟨message, loaded⟩
        · rw [loaded]
          exact checkDatabase_writes s now _
        · rw [loaded]
          exact .nothing
      split
      · rename_i located
        rw [located] at writes
        exact writes
      · rename_i located
        rw [located] at writes
        split <;> exact writes
  · exact .nothing

/-- Whoever is signed in as an administrator has a row that says so. -/
theorem attemptAuthentication_admin {dir : Directory} {s : Store} {now : DateTime}
    {c : Credentials} {account : SessionUser}
    (signedIn : (attemptAuthentication dir s now c).2 = .ok account)
    (admin : .ROLE_ADMIN ∈ account.roles) : AdminRow s.toTables account.username := by
  unfold attemptAuthentication at signedIn
  split at signedIn
  · split at signedIn
    · cases signedIn
    · split at signedIn
      · cases signedIn
      · rename_i user located
        split at signedIn
        · cases signedIn
          rcases loadUserByUsername_cases dir s now c.username with ⟨entry, loaded⟩ | ⟨message, loaded⟩
          · rw [loaded] at located
            have ordinary : .ROLE_ADMIN ∉ defaultRoles := by decide
            exact checkDatabase_admin ordinary (congrArg Prod.snd located) admin
          · rw [loaded] at located
            cases located
        · cases signedIn
  · cases signedIn

/-- Whoever the provider hands out has a row: it was found or added. -/
theorem checkDatabase_row {s : Store} {now : DateTime} {userToken account : SessionUser}
    (signedIn : (checkDatabase s now userToken).2 = .ok account) :
    ∃ id user, (checkDatabase s now userToken).1.user.find id = some user ∧
      user.username = account.username := by
  rcases checkDatabase_cases s now userToken with
    ⟨id, user, found, result⟩ | ⟨adds, row, u, built, after, result⟩ | ⟨absent, full, result⟩
  · rw [result] at signedIn ⊢
    cases signedIn
    obtain ⟨row, named⟩ := Tables.findUser_some found
    refine ⟨id, user, row, ?_⟩
    split <;> exact named
  · rw [result] at signedIn ⊢
    cases signedIn
    refine ⟨s.user.nextId, row, ?_, userRow_username built⟩
    simp only [after, Tables.insertUser, Relational.Table.find_insert_self]
  · rw [result] at signedIn
    cases signedIn

theorem attemptAuthentication_row {dir : Directory} {s : Store} {now : DateTime}
    {c : Credentials} {account : SessionUser}
    (signedIn : (attemptAuthentication dir s now c).2 = .ok account) :
    ∃ id user, (attemptAuthentication dir s now c).1.user.find id = some user ∧
      user.username = account.username := by
  unfold attemptAuthentication at signedIn ⊢
  split at signedIn
  · rename_i token
    split at signedIn
    · cases signedIn
    · rename_i named
      split at signedIn
      · cases signedIn
      · rename_i u user located
        split at signedIn
        · rename_i accepts
          cases signedIn
          rw [if_pos token, if_neg named]
          simp only [accepts, if_true]
          rcases loadUserByUsername_cases dir s now c.username with ⟨entry, loaded⟩ | ⟨message, loaded⟩
          · rw [loaded] at located
            have row := checkDatabase_row (congrArg Prod.snd located)
            rw [located] at row
            exact row
          · rw [loaded] at located
            cases located
        · cases signedIn
  · cases signedIn

/-- The form gets as far as the lookup, the lookup finds an entry and adds a row
    for it, and then the password is refused. -/
def AddsAndRefuses (dir : Directory) (s : Store) (c : Credentials) : Prop :=
  c.token = true ∧ c.username ≠ "" ∧ dir.bind c.username c.password = false ∧
    ∃ entry ∈ entryOf dir c.username, Adds s (loadUser (escape c.username) entry)

/-- An attempt that does not end with a session user leaves the store as it was,
    and a row it adds is the one of the user it signs in. -/
def FailsCleanly (s : Store) (attempt : Store × Except Exception SessionUser) : Prop :=
  ((∀ account, attempt.2 ≠ .ok account) → attempt.1 = s) ∧
    ∀ row ∈ attempt.1.user.rows, row ∉ s.user.rows →
      ∃ account, attempt.2 = .ok account ∧ row.2.username = account.username

theorem failsCleanly_same (s : Store) (result : Except Exception SessionUser) :
    FailsCleanly s (s, result) :=
  ⟨fun _ => rfl, fun _ inside outside => absurd inside outside⟩

/-- The row a login adds has the name of the session user. -/
theorem added_row {s u : Store} {now : DateTime} {userToken : SessionUser} {row : User}
    (built : userRow userToken now = some row) (after : u.toTables = s.insertUser row) :
    ∀ added ∈ u.user.rows, added ∉ s.user.rows →
      ∃ account, (.ok userToken : Except Exception SessionUser) = .ok account ∧
        added.2.username = account.username := by
  intro added inside outside
  rw [after] at inside
  rcases List.mem_append.mp inside with before | new
  · exact absurd before outside
  · obtain rfl := List.mem_singleton.mp new
    exact ⟨userToken, rfl, userRow_username built⟩

/-- A failed login leaves the database unchanged exactly when it does not fail at
    the password of somebody the lookup has just added. -/
theorem attemptAuthentication_failsCleanly (dir : Directory) (s : Store) (now : DateTime)
    (c : Credentials) :
    FailsCleanly s (attemptAuthentication dir s now c) ↔ ¬ AddsAndRefuses dir s c := by
  unfold attemptAuthentication
  by_cases token : c.token = true
  · by_cases unnamed : c.username = ""
    · simp only [token, unnamed, if_true]
      exact iff_of_true (failsCleanly_same s _) fun refused => refused.2.1 unnamed
    · simp only [token, unnamed, if_true, if_false]
      cases found : entryOf dir c.username with
      | none =>
          obtain ⟨message, loaded⟩ := loadUserByUsername_of_none found s now
          rw [loaded]
          refine iff_of_true (failsCleanly_same s _) fun refused => ?_
          obtain ⟨-, -, -, entry, located, -⟩ := refused
          simp [found] at located
      | some entry =>
          have refuses : AddsAndRefuses dir s c ↔ dir.bind c.username c.password = false ∧
              Adds s (loadUser (escape c.username) entry) := by
            simp [AddsAndRefuses, token, unnamed, found]
          rw [loadUserByUsername_of_entry found, refuses]
          rcases checkDatabase_cases s now (loadUser (escape c.username) entry) with
            ⟨id, user, row, result⟩ | ⟨adds, row, u, built, after, result⟩ | ⟨-, full, result⟩
          · rw [result]
            have known : ¬ Adds s (loadUser (escape c.username) entry) := fun adds => by
              simp [adds.1] at row
            refine iff_of_true ?_ fun refused => known refused.2
            cases dir.bind c.username c.password <;> exact failsCleanly_same s _
          · rw [result]
            cases accepts : dir.bind c.username c.password with
            | true =>
                refine iff_of_true ⟨fun fails => absurd rfl (fails _), ?_⟩ fun refused => by
                  simp at refused
                exact added_row built after
            | false =>
                refine iff_of_false (fun clean => ?_) fun refused => refused ⟨rfl, adds⟩
                have same : u = s := clean.1 fun account impossible => by cases impossible
                have count := congrArg (fun t => t.user.nextId) (same ▸ after)
                simp [Tables.insertUser] at count
          · rw [result]
            exact iff_of_true (failsCleanly_same s _) fun refused => full refused.2
  · simp only [token]
    exact iff_of_true (failsCleanly_same s _) fun refused => token refused.1

/-- Somebody tries a wrong password for a name the database does not know. -/
def stranger : Directory × Credentials :=
  (⟨true, fun _ => [⟨some "Brown, Carl", none⟩], fun _ _ => false⟩, ⟨"brownc", "guess", true⟩)

theorem attemptAuthentication_leaves_row : ¬ ∀ (dir : Directory) (s : Store) (now : DateTime)
    (c : Credentials), FailsCleanly s (attemptAuthentication dir s now c) := by
  intro claim
  have clean := claim stranger.1 .sample 0 stranger.2
  have refused : (attemptAuthentication stranger.1 .sample 0 stranger.2).2 =
      .error (.badCredentials "The presented password is invalid.") := by decide
  have unchanged := clean.1 fun account impossible => by simp [refused] at impossible
  exact absurd (congrArg (fun s => s.user.nextId) unchanged) (by decide)

end WuRegalia
