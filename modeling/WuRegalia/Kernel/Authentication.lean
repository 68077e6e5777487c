import WuRegalia.Kernel.Effect
import WuRegalia.Security.Search

/-! # Where sessions come from

A live session goes back to one login of the same session, since which it has not been
touched: with a valid token, for a name the directory has one entry of, and with a
password the directory accepted for this name.
-/

namespace WuRegalia

open LdapSessionUserProvider

/-- The login of an account, on a database and by a directory with these entries. -/
structure LogsIn (listing : Listing) (s : Store) (req : Request) (account : SessionUser) :
    Prop where
  token : req.credentials.token = true
  accepted : req.directory.bind req.credentials.username req.credentials.password = true
  /-- The entry is the only one with the submitted name. -/
  entry : ∃ entry, entriesOf listing req.credentials.username = [entry] ∧
    ∃ roles, account = { loadUser (escape req.credentials.username) entry with roles }
  roles : account.roles =
    defaultRoles ++ if AdminRow s.toTables account.username then [.ROLE_ADMIN] else []

/-- Nothing but the roles of what the directory knows is changed. -/
theorem checkDatabase_account {s : Store} {now : DateTime} {userToken account : SessionUser}
    (signedIn : (checkDatabase s now userToken).2 = .ok account) :
    ∃ roles, account = { userToken with roles } := by
  rcases checkDatabase_cases s now userToken with
    ⟨id, user, found, result⟩ | ⟨adds, row, u, built, after, result⟩ | ⟨absent, full, result⟩
  · rw [result] at signedIn
    cases signedIn
    split
    · exact ⟨_, rfl⟩
    · exact ⟨userToken.roles, rfl⟩
  · rw [result] at signedIn
    cases signedIn
    exact ⟨userToken.roles, rfl⟩
  · rw [result] at signedIn
    cases signedIn

theorem logsIn_of_ok {listing : Listing} {s : Store} {req : Request} {account : SessionUser}
    (searches : ∀ text, req.directory.find text = search listing text)
    (signedIn : (attemptAuthentication req.directory s req.now req.credentials).2 = .ok account) :
    LogsIn listing s req account := by
  unfold attemptAuthentication at signedIn
  split at signedIn
  · rename_i token
    split at signedIn
    · cases signedIn
    · split at signedIn
      · cases signedIn
      · rename_i u loaded located
        split at signedIn
        · rename_i accepted
          cases signedIn
          have outcome := congrArg Prod.snd located
          obtain ⟨name, roles⟩ := loadUserByUsername_roles outcome
          refine ⟨token, accepted, ?_, by rw [roles, name]⟩
          unfold loadUserByUsername at located
          simp only [searches, search_query] at located
          split at located
          · split at located
            · cases located
            · rename_i entry found
              exact ⟨entry, found, checkDatabase_account (congrArg Prod.snd located)⟩
            · cases located
          · cases located
        · cases signedIn
  · cases signedIn

/-- The login form is sent to one path. -/
theorem passage_login {req : Request} {roles : List Role} :
    passage req roles = .login ↔ req.method = .post ∧ req.path = "/login" := by
  have signsIn : ∀ route ∈ routes, route.action = .login →
      route.pattern = [.text "/login".toList] := by decide
  constructor
  · intro passes
    unfold passage at passes
    split at passes
    · cases passes
    · rename_i route args fits
      obtain ⟨declared, captured⟩ := matchRoute_some fits
      split at passes
      · cases passes
      · split at passes
        · rename_i login
          rw [signsIn route declared login.1] at captured
          exact ⟨login.2, String.toList_inj.mp (PathPattern.eq_of_capture_text captured)⟩
        · split at passes <;> cases passes
  · rintro ⟨posts, path⟩
    have fits : (matchRoute .post "/login").map (fun fit => fit.1.action) = some .login := by decide
    obtain ⟨⟨route, args⟩, matched, action⟩ := Option.map_eq_some_iff.mp fits
    have login : route.action = .login := action
    unfold passage
    rw [posts, path, matched]
    simp only [login, reduceCtorEq, if_false, and_self, if_true]

/-- The request signs the session in, and nothing after it touches the session. -/
structure Begins (rt : Runtime) (w : World) (sid : SessionId) (account : SessionUser)
    (before : List Request) (req : Request) (after : List Request) : Prop where
  session : req.session = sid
  posts : req.method = .post
  path : req.path = "/login"
  signsIn : (attemptAuthentication req.directory (Run.final (World.step rt) w before).store req.now
    req.credentials).2 = .ok account
  since : ∀ t ∈ Run.states (World.step rt) (World.step rt (Run.final (World.step rt) w before) req)
    after, t.sessions sid = some account

/-- A session that is live at the end of a run was begun by one of its logins and has been
    the same since. -/
theorem session_begins (rt : Runtime) {w : World} (start : w.NoSession) {requests : List Request}
    {sid : SessionId} {account : SessionUser}
    (live : (Run.final (World.step rt) w requests).sessions sid = some account) :
    ∃ before req after, requests = before ++ req :: after ∧
      Begins rt w sid account before req after := by
  have absent : ¬ w.sessions sid = some account := by
    rw [start sid]
    nofun
  obtain ⟨before, req, after, split, fresh, since⟩ :=
    Run.established (fun t : World => t.sessions sid = some account) absent live
  have begins := since _ (Run.start_mem_states (World.step rt) _ after)
  rcases step_sessions begins with old | ⟨here, passes, signedIn⟩
  · exact absurd old fresh
  · obtain ⟨posts, path⟩ := passage_login.mp passes
    exact ⟨before, req, after, split, here.symm, posts, path, signedIn, since⟩

/-- Every session that is live at the end of a run goes back to a login. -/
theorem sessions_authenticated (rt : Runtime) {w : World} (start : w.NoSession)
    {requests : List Request} {listing : Request → Listing}
    (searches : ∀ req ∈ requests, ∀ text, req.directory.find text = search (listing req) text)
    {sid : SessionId} {account : SessionUser}
    (live : (Run.final (World.step rt) w requests).sessions sid = some account) :
    ∃ before req after, requests = before ++ req :: after ∧
      Begins rt w sid account before req after ∧
      LogsIn (listing req) (Run.final (World.step rt) w before).store req account := by
  obtain ⟨before, req, after, rfl, begins⟩ := session_begins rt start live
  exact ⟨before, req, after, rfl, begins, logsIn_of_ok (searches req (by simp)) begins.signsIn⟩

/-- A directory that evaluates what it is asked, with one password for all. -/
def Directory.searching (listing : Listing) : Directory where
  reachable := true
  find := search listing
  bind _ password := password = "secret"

theorem searching_find (listing : Listing) (text : String) :
    (Directory.searching listing).find text = search listing text := rfl

/-- The entry of one user. -/
def Listing.sample : Listing := [(⟨some "Jones, Bob", none⟩, fun item => item = named "jonesb")]

theorem find_sample : (Directory.searching .sample).find (query (escape "jonesb")) =
    [⟨some "Jones, Bob", none⟩] := by
  rw [searching_find, search_query]
  simp [entriesOf, Listing.sample]

def SessionUser.sampleBob : SessionUser :=
  ⟨"jonesb", some "Bob", "Jones", "jonesb@mailbox.winthrop.edu", [.ROLE_USER]⟩

theorem attemptAuthentication_sample :
    attemptAuthentication (.searching .sample) .sample 0 ⟨"jonesb", "secret", true⟩ =
      (.sample, .ok .sampleBob) := by
  have reachable : (Directory.searching .sample).reachable = true := rfl
  have bound : (Directory.searching .sample).bind "jonesb" "secret" = true := by decide
  have checked : checkDatabase .sample 0 (loadUser (escape "jonesb") ⟨some "Jones, Bob", none⟩) =
      (.sample, .ok .sampleBob) := rfl
  rw [attemptAuthentication, if_pos rfl, if_neg (by decide), loadUserByUsername, if_pos reachable]
  simp only [find_sample, checked, bound, if_true]

/-- Bob signs in. -/
theorem sessions_authenticated_sample :
    ∃ req : Request, req.credentials.username = "jonesb" ∧
      LogsIn .sample .sample req .sampleBob := by
  let req : Request := { Request.signIn 0 "jonesb" with directory := .searching .sample }
  have live : (Run.final (World.step .sample) .sample [req]).sessions 0 = some .sampleBob := by
    have passes : passage req (World.sample.roles req.session) = .login := by decide
    rw [Run.final_cons, Run.final_nil, step_eq]
    simp only [passes]
    have signedIn : attemptAuthentication req.directory World.sample.store req.now req.credentials =
      (.sample, .ok .sampleBob) := attemptAuthentication_sample
    simp only [login, signedIn]
    rfl
  have start : World.sample.NoSession := fun _ => rfl
  have searches : ∀ other ∈ [req], ∀ text, other.directory.find text = search .sample text := by
    intro other member text
    obtain rfl := List.mem_singleton.mp member
    exact searching_find .sample text
  obtain ⟨before, other, after, split, -, logsIn⟩ :=
    sessions_authenticated .sample start searches live
  cases before with
  | nil =>
      obtain ⟨rfl, -⟩ := List.cons.inj split
      exact ⟨req, rfl, logsIn⟩
  | cons first rest =>
      have rest := (List.cons.inj split).2
      simp at rest

end WuRegalia
