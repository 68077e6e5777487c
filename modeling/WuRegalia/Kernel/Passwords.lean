import WuRegalia.Kernel.Authentication

/-! # Whose password opens an account

The user provider looks for the submitted name among the account names, while the password
is tried with the entry that `dn_string` leads to. The two are settings of different files.
An account is opened by the password of its owner alone exactly if they lead to the same
password for every name, and no bind without a password succeeds.
-/

namespace WuRegalia

open LdapFilter LdapSessionUserProvider

/-- Someone in the directory. -/
structure Person where
  entry : LdapEntry
  /-- What holds of the entry, by the rules the directory compares with. -/
  holds : Item → Bool
  /-- Whether `dn_string` with the name in it leads to the entry. -/
  leads : String → Bool
  password : String

/-- The entry has the name for its account name. -/
def Person.isCalled (username : String) (person : Person) : Bool := person.holds (named username)

/-- A directory, and whether it accepts a bind without a password, as servers may. -/
structure People where
  persons : List Person
  unauthenticated : Bool

def People.listing (people : People) : Listing :=
  people.persons.map fun person => (person.entry, person.holds)

def People.directory (people : People) : Directory where
  reachable := true
  find := search people.listing
  bind name password :=
    if password = "" then people.unauthenticated
    else people.persons.any fun person => person.leads name && person.password = password

/-- The only person the user provider finds for the name. -/
def People.Only (people : People) (username : String) (person : Person) : Prop :=
  people.persons.filter (Person.isCalled username) = [person]

/-- Under every name, only the password of the person it is the account name of is taken. -/
def People.Guarded (people : People) : Prop :=
  ∀ username person, username ≠ "" → people.Only username person →
    (people.unauthenticated = true → person.password = "") ∧
      ∀ other ∈ people.persons, other.leads username = true → other.password ≠ "" →
        other.password = person.password

/-- The credentials of the login are the name the account goes by and the password of the
    person whose account name this is. -/
def ByOwner (people : People) (account : SessionUser) (credentials : Credentials) : Prop :=
  account.username = escape credentials.username ∧
    ∃ person, people.Only credentials.username person ∧ credentials.password = person.password

variable {people : People} {username : String}

theorem entriesOf_people :
    entriesOf people.listing username =
      (people.persons.filter (Person.isCalled username)).map Person.entry := by
  unfold entriesOf People.listing
  rw [List.filter_map, List.map_map]
  rfl

theorem find_people (people : People) (text : String) :
    people.directory.find text = search people.listing text := rfl

theorem only_of_entry {entry : LdapEntry} (found : entriesOf people.listing username = [entry]) :
    ∃ person, people.Only username person ∧ person.entry = entry := by
  rw [entriesOf_people] at found
  obtain ⟨person, only, same⟩ := List.map_eq_singleton_iff.mp found
  exact ⟨person, only, same⟩

/-- What the directory takes for a password. -/
theorem bind_iff {password : String} :
    people.directory.bind username password = true ↔
      (password = "" ∧ people.unauthenticated = true) ∨
        ∃ other ∈ people.persons, other.leads username = true ∧ other.password ≠ "" ∧
          other.password = password := by
  have binds : people.directory.bind username password =
      if password = "" then people.unauthenticated
      else people.persons.any fun person => person.leads username && person.password = password :=
    rfl
  by_cases empty : password = ""
  · rw [binds, if_pos empty, and_iff_right empty]
    refine ⟨.inl, ?_⟩
    rintro (accepts | ⟨other, -, -, nonempty, same⟩)
    · exact accepts
    · exact absurd (same.trans empty) nonempty
  · rw [binds, if_neg empty, List.any_eq_true, or_iff_right fun both => empty both.1]
    constructor
    · rintro ⟨other, there, accepts⟩
      obtain ⟨leads, same⟩ := Bool.and_eq_true_iff.mp accepts
      obtain rfl := of_decide_eq_true same
      exact ⟨other, there, leads, empty, rfl⟩
    · rintro ⟨other, there, leads, -, same⟩
      exact ⟨other, there, Bool.and_eq_true_iff.mpr ⟨leads, decide_eq_true same⟩⟩

theorem username_of_ok {dir : Directory} {s : Store} {now : DateTime} {c : Credentials}
    {account : SessionUser} (signedIn : (attemptAuthentication dir s now c).2 = .ok account) :
    c.username ≠ "" := by
  intro empty
  unfold attemptAuthentication at signedIn
  rw [if_pos empty] at signedIn
  split at signedIn <;> cases signedIn

/-- The password that opens an account. -/
theorem password_of_ok (guarded : people.Guarded) {s : Store} {now : DateTime} {c : Credentials}
    {account : SessionUser}
    (signedIn : (attemptAuthentication people.directory s now c).2 = .ok account) :
    ByOwner people account c := by
  let req : Request :=
    { Request.visit 0 .post "/login" with now, credentials := c, directory := people.directory }
  have logsIn : LogsIn people.listing s req account := logsIn_of_ok (find_people people) signedIn
  obtain ⟨entry, found, roles, made⟩ := logsIn.entry
  obtain ⟨person, only, -⟩ := only_of_entry found
  refine ⟨by rw [made]; rfl, person, only, ?_⟩
  obtain ⟨empty, own⟩ := guarded _ person (username_of_ok signedIn) only
  rcases bind_iff.mp logsIn.accepted with ⟨none, accepts⟩ | ⟨other, there, leads, nonempty, same⟩
  · exact none.trans (empty accepts).symm
  · exact same.symm.trans (own other there leads nonempty)

/-- No rows at all. -/
def Store.empty : Store where
  status := .empty
  itemType := .empty
  color := .empty
  school := .empty
  major := .empty
  user := .empty
  inventory := .empty
  reservation := .empty
  valid := by decide

/-- A store that has a row for a name. -/
theorem store_with_row (username : String) :
    ∃ (s : Store) (id : Id) (user : User), s.findUser username = some (id, user) := by
  let row : User := ⟨"", "", "", username, 0, 0⟩
  have valid : (Tables.insertUser row Store.empty.toTables).Valid := by
    refine (Store.empty.valid.insertUser row).mpr fun id user found => ?_
    cases found
  let s : Store := ⟨_, valid⟩
  cases located : s.findUser username with
  | some found => exact ⟨s, found.1, found.2, located⟩
  | none =>
      have there : s.user.find 1 = some row := Relational.Table.find_insert_self .empty row
      exact absurd rfl (Tables.findUser_none.mp located 1 row there)

theorem login_live {req : Request} {w : World} {u : Store} {account : SessionUser}
    (signedIn : attemptAuthentication req.directory w.store req.now req.credentials =
      (u, .ok account)) : (login req w).1.sessions req.session = some account := by
  unfold login
  rw [signedIn]
  exact Function.update_self ..

/-- Whoever is found and can bind is signed in, on some database. -/
theorem signs_in {person : Person} (nonempty : username ≠ "") (only : people.Only username person)
    {password : String} (accepts : people.directory.bind username password = true) :
    ∃ s account,
      attemptAuthentication people.directory s 0 ⟨username, password, true⟩ = (s, .ok account) := by
  obtain ⟨s, id, user, row⟩ := store_with_row (escape username)
  have found : people.directory.find (query (escape username)) = [person.entry] := by
    rw [find_people, search_query, entriesOf_people, only, List.map_singleton]
  have entry : entryOf people.directory username = some person.entry := by
    have reachable : people.directory.reachable = true := rfl
    unfold entryOf
    rw [found, reachable]
  have loaded := loadUserByUsername_of_entry entry s 0
  have checked : ∃ account,
      checkDatabase s 0 (loadUser (escape username) person.entry) = (s, .ok account) := by
    have named : (loadUser (escape username) person.entry).username = escape username := rfl
    unfold checkDatabase
    rw [named, row]
    exact ⟨_, rfl⟩
  obtain ⟨account, checked⟩ := checked
  refine ⟨s, account, ?_⟩
  rw [attemptAuthentication, if_pos rfl, if_neg nonempty, loaded, checked]
  simp only [accepts, if_true]

/-- Every live session of every run was begun with the password of the person whose account
    name it goes by, exactly if names and passwords in the directory are guarded. -/
theorem opened_by_owner_iff (people : People) :
    (∀ (rt : Runtime) (w : World), w.NoSession → ∀ requests : List Request,
      (∀ req ∈ requests, req.directory = people.directory) → ∀ sid account,
        (Run.final (World.step rt) w requests).sessions sid = some account →
          ∃ before req after, requests = before ++ req :: after ∧
            Begins rt w sid account before req after ∧ ByOwner people account req.credentials) ↔
      people.Guarded := by
  constructor
  · intro own username person nonempty only
    have taken : ∀ password, people.directory.bind username password = true →
        password = person.password := by
      intro password accepts
      obtain ⟨s, account, signedIn⟩ := signs_in nonempty only accepts
      let req : Request :=
        { Request.visit 0 .post "/login" with
          credentials := ⟨username, password, true⟩
          directory := people.directory }
      let w : World := ⟨⟨s, []⟩, fun _ => none⟩
      have live : (Run.final (World.step .sample) w [req]).sessions 0 = some account := by
        rw [Run.final_cons, Run.final_nil, step_eq, passage_login.mpr ⟨rfl, rfl⟩]
        exact @login_live req w s account signedIn
      obtain ⟨before, other, after, split, -, -, owner, onlyOwner, same⟩ :=
        own .sample w (fun _ => rfl) [req] (by simp [req]) 0 account live
      have member : other ∈ [req] := by simp [split]
      obtain rfl := List.mem_singleton.mp member
      have persons := onlyOwner.symm.trans only
      rw [List.singleton_inj] at persons
      exact same.trans (congrArg Person.password persons)
    refine ⟨fun accepts => ?_, fun other there leads given => ?_⟩
    · exact (taken "" (bind_iff.mpr (.inl ⟨rfl, accepts⟩))).symm
    · exact taken _ (bind_iff.mpr (.inr ⟨other, there, leads, given, rfl⟩))
  · intro guarded rt w start requests serves sid account live
    obtain ⟨before, req, after, rfl, begins⟩ := session_begins rt start live
    have signedIn := begins.signsIn
    rw [serves req (by simp)] at signedIn
    exact ⟨before, req, after, rfl, begins, password_of_ok guarded signedIn⟩

def Person.sampleBob : Person where
  entry := ⟨some "Jones, Bob", none⟩
  holds item := item = named "jonesb"
  leads name := name = "jonesb"
  password := "secret"

/-- Somebody else whose entry is found by a name that is not the account name. -/
def Person.sampleOther : Person where
  entry := ⟨some "Jones, Betty", none⟩
  holds item := item = named "jonesb2"
  leads name := name = "jonesb"
  password := "hidden"

example : ¬ People.Guarded ⟨[.sampleBob, .sampleOther], false⟩ := by
  intro guarded
  have only : People.Only ⟨[.sampleBob, .sampleOther], false⟩ "jonesb" .sampleBob := rfl
  have same := (guarded "jonesb" .sampleBob (by decide) only).2 .sampleOther (by simp) rfl (by decide)
  exact absurd same (by decide)

end WuRegalia
