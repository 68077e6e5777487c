import WuRegalia.Outcome
import WuRegalia.Library.Explode

/-! # Session users and the directory

`LdapSessionUserProvider` looks a name up in the directory, makes a session user
of the entry found and, before the password has been tried, adds a row for the
user to the database when there is none.
-/

namespace WuRegalia

open Explode

inductive Role where
  | ROLE_USER
  | ROLE_ADMIN
  | other (name : String)
  deriving DecidableEq, Repr

/-- `fname` is null when the directory's display name has no second word. -/
structure SessionUser where
  username : String
  fname : Option String
  lname : String
  email : String
  roles : List Role
  deriving DecidableEq, Repr

def SessionUser.addRole (user : SessionUser) (role : Role) : SessionUser :=
  { user with roles := user.roles ++ [role] }

/-- The session users of the two users of `Store.sample`. -/
def SessionUser.sampleAdmin : SessionUser :=
  ⟨"smitha", some "Ann", "Smith", "smitha@winthrop.edu", [.ROLE_USER, .ROLE_ADMIN]⟩

def SessionUser.sampleUser : SessionUser :=
  ⟨"jonesb", some "Bob", "Jones", "jonesb@winthrop.edu", [.ROLE_USER]⟩

/-- The attributes of a directory entry that are read, each its first value. -/
structure LdapEntry where
  displayname : Option String
  mail : Option String
  deriving DecidableEq, Repr

/-- The directory at the time of a login: whether the search account can bind,
    the entries a query finds, and the passwords with which a name can bind. -/
structure Directory where
  reachable : Bool
  find : String → List LdapEntry
  bind : String → String → Bool

namespace LdapSessionUserProvider

/-- `default_roles` of services.yml. -/
def defaultRoles : List Role := [.ROLE_USER]

/-- One character under `ldap_escape` with `LDAP_ESCAPE_FILTER`. -/
def escapeChar : Char → List Char
  | '\\' => ['\\', '5', 'c']
  | '*' => ['\\', '2', 'a']
  | '(' => ['\\', '2', '8']
  | ')' => ['\\', '2', '9']
  | '\x00' => ['\\', '0', '0']
  | c => [c]

def escape (username : String) : String := String.ofList (username.toList.flatMap escapeChar)

def query (username : String) : String := "(sAMAccountName=" ++ username ++ ")"

structure UserInfo where
  fname : Option String
  lname : String
  email : String
  deriving DecidableEq, Repr

/-- First name, last name and address of an entry. A display name without
    exactly one `", "` is cut at the spaces of its first part. -/
def getUserInfo (result : LdapEntry) (username : String) : UserInfo :=
  let email := result.mail.getD (username ++ "@mailbox.winthrop.edu")
  let split := explode ", " (result.displayname.getD "")
  if split.length = 2 then
    { lname := split[0]?.getD ""
      fname := (explode " " (split[1]?.getD ""))[0]?
      email }
  else
    let words := explode " " (split[0]?.getD "")
    { lname := words[0]?.getD ""
      fname := words[1]?
      email }

/-- A last and a first name, joined by the directory, are taken apart again. The
    separator occurs once: the last name ends before it, and what follows its comma
    is a space, so that neither a comma before nor a space behind makes another. -/
theorem getUserInfo_joined {l g f : String} (last : ¬ Occurs ", " l) (given : ¬ Occurs ", " g)
    (word : ¬ Occurs " " f) (leads : g = f ∨ ∃ more, g = f ++ " " ++ more) (result : LdapEntry)
    (joined : result.displayname = some (l ++ ", " ++ g)) (username : String) :
    getUserInfo result username =
      { fname := some f
        lname := l
        email := match result.mail with
          | some mail => mail
          | none => username ++ "@mailbox.winthrop.edu" } := by
  have split : explode ", " (l ++ ", " ++ g) = [l, g] := by
    rw [explode_append (by decide) last, explode_of_absent given]
  have first : (explode " " g)[0]? = some f := by
    rcases leads with rfl | ⟨more, rfl⟩
    · rw [explode_of_absent word]
      rfl
    · rw [explode_append (by decide) word]
      rfl
  unfold getUserInfo
  simp only [joined, Option.getD_some, split, List.length_cons, List.length_nil, if_true,
    List.getElem?_cons_zero, List.getElem?_cons_succ, first]
  cases result.mail <;> rfl

theorem getUserInfo_joined_sample :
    getUserInfo ⟨some "de la Cruz,, Ann Marie", none⟩ "cruza" =
      ⟨some "Ann", "de la Cruz,", "cruza@mailbox.winthrop.edu"⟩ :=
  getUserInfo_joined (l := "de la Cruz,") (g := "Ann Marie") (f := "Ann") (by decide) (by decide)
    (by decide) (.inr ⟨"Marie", by decide⟩) _ rfl _

example : getUserInfo ⟨some ",  Marie", some "m@winthrop.edu"⟩ "m" =
    ⟨some "", "", "m@winthrop.edu"⟩ := by decide

def loadUser (username : String) (result : LdapEntry) : SessionUser :=
  let userInfo := getUserInfo result username
  { username, fname := userInfo.fname, lname := userInfo.lname, email := userInfo.email
    roles := defaultRoles }

/-- The row `addUser` inserts; `none` when the first name is null. -/
def userRow (tok : SessionUser) (now : DateTime) : Option User :=
  tok.fname.map fun fname =>
    { fname, lname := tok.lname, email := tok.email, username := tok.username
      signup_date := now, adminpriv := 0 }

/-- A row is added when the name has none; otherwise the role is read off it. -/
def checkDatabase (s : Store) (now : DateTime) (userToken : SessionUser) :
    Store × Except Exception SessionUser :=
  match s.findUser userToken.username with
  | some (_, user) =>
      (s, .ok (if user.isAdmin then userToken.addRole .ROLE_ADMIN else userToken))
  | none =>
      match userRow userToken now with
      | none => (s, .error .constraintViolation)
      | some row =>
          match s.flush (Tables.insertUser row) with
          | some u => (u, .ok userToken)
          | none => (s, .error .constraintViolation)

def loadUserByUsername (dir : Directory) (s : Store) (now : DateTime) (username : String) :
    Store × Except Exception SessionUser :=
  if dir.reachable then
    let username := escape username
    match dir.find (query username) with
    | [] => (s, .error (.usernameNotFound ("User \"" ++ username ++ "\" not found.")))
    | [entry] => checkDatabase s now (loadUser username entry)
    | _ :: _ :: _ => (s, .error (.usernameNotFound "More than one user found"))
  else (s, .error (.usernameNotFound ("User \"" ++ username ++ "\" not found.")))

/-- The session user of a later request is a copy of the one of the last. -/
def refreshUser (user : SessionUser) : SessionUser where
  username := user.username
  fname := user.fname
  lname := user.lname
  email := user.email
  roles := user.roles

@[simp] theorem refreshUser_eq (user : SessionUser) : refreshUser user = user := rfl

end LdapSessionUserProvider

/-- The parameters `_username` (trimmed), `_password` and whether `_csrf_token`
    is valid. -/
structure Credentials where
  username : String
  password : String
  token : Bool
  deriving DecidableEq, Repr

/-- Form login against the directory: the token, then the user provider, then a
    bind with the submitted password. -/
def attemptAuthentication (dir : Directory) (s : Store) (now : DateTime) (c : Credentials) :
    Store × Except Exception SessionUser :=
  if c.token then
    if c.username = "" then (s, .error (.usernameNotFound "Username can not be null"))
    else
      match LdapSessionUserProvider.loadUserByUsername dir s now c.username with
      | (u, .error e) => (u, .error e)
      | (u, .ok user) =>
          if dir.bind c.username c.password then (u, .ok user)
          else (u, .error (.badCredentials "The presented password is invalid."))
  else (s, .error .invalidCsrfToken)

end WuRegalia
