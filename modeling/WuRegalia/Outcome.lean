import WuRegalia.Write
import Mathlib.Data.List.TakeWhile

/-! # What an action leaves behind

An action ends with a response or an exception. Either way the flushes it has
done stay, and so do the mails it has sent before it ended.
-/

namespace WuRegalia

open Relational

/-- What the code takes from its runtime: the container parameter `app.admin`
    of the parameter file, the addresses `Swift_Message::setTo` does not refuse,
    PHP's `==` on two strings, and the key the database makes of a text that is
    looked up as one. A numeral is the key it denotes. -/
structure Runtime where
  appAdmin : Option String
  acceptsAddress : String → Bool
  looseEquals : String → String → Bool
  keyOf : List Char → Id
  keyOf_numeral : ∀ id, keyOf (Nat.toDigits 10 id) = id

/-- The number a text begins with, after blanks and a plus sign; 0 if there is none. -/
def leadingNumber (text : List Char) : Id :=
  let shown := text.dropWhile Char.isWhitespace
  let unsigned := if shown.head? = some '+' then shown.tail else shown
  Nat.ofDigitChars 10 (unsigned.takeWhile Char.isDigit) 0

theorem leadingNumber_of_digits {text : List Char} (digits : ∀ c ∈ text, c.isDigit = true) :
    leadingNumber text = Nat.ofDigitChars 10 text 0 := by
  have shown : text.dropWhile Char.isWhitespace = text := by
    apply List.dropWhile_eq_self_iff.mpr
    intro nonempty blank
    have digit := digits _ (List.getElem_mem nonempty)
    generalize text[0] = c at digit blank
    simp only [Char.isWhitespace, Bool.or_eq_true, decide_eq_true_eq] at blank
    rcases blank with ((rfl | rfl) | rfl) | rfl <;> exact absurd digit (by decide)
  have unsigned : text.head? ≠ some '+' := by
    intro plus
    exact absurd (digits _ (List.mem_of_head? plus)) (by decide)
  rw [leadingNumber, shown]
  simp only [if_neg unsigned, List.takeWhile_eq_self_iff.mpr digits]

example : leadingNumber " +12ab".toList = 12 := by decide

/-- A runtime that refuses no address. -/
def Runtime.sample : Runtime where
  appAdmin := some "closet@winthrop.edu"
  acceptsAddress _ := true
  looseEquals := (· == ·)
  keyOf := leadingNumber
  keyOf_numeral _ := by
    rw [leadingNumber_of_digits fun c member =>
      Nat.isDigit_of_mem_toDigits (by decide) (by decide) member]
    exact Nat.ofDigitChars_ten_toDigits

inductive Exception where
  /-- No route for the path and the method, or no entity under the id in the URL. -/
  | notFound
  /-- A session nobody is logged in with is sent to the login form instead. -/
  | accessDenied
  /-- A method is called on null. -/
  | nullDereference
  /-- Null is passed for a parameter with a class type hint. -/
  | typeError
  /-- `EntityManager::remove` is given null. -/
  | invalidObject
  | constraintViolation
  | undefinedParameter (name : String)
  | routeNotFound (name : String)
  /-- `Swift_RfcComplianceException`. -/
  | rfcCompliance (address : String)
  | undefinedMethod (name : String)
  | usernameNotFound (message : String)
  | badCredentials (message : String)
  | invalidCsrfToken
  deriving DecidableEq, Repr

/-- The template of a mail with the variables it is rendered with. Entities are
    given by their keys. -/
inductive MailBody where
  | rentUserConfirm (item user : Id) (duedate : DateTime) (admin : String)
  | rentOverdueNotify (item user : Id) (admin : String)
  | donationRequestReceived (donationRequest : Id)
  | donationRequestAccepted (donationRequest : Id)
  | donationRequestRejected (donationRequest : Id)
  | specialRequestReceived (specialRequest : Id)
  | specialRequestAccepted (specialRequest : Id)
  | specialRequestRejected (specialRequest : Id)
  deriving DecidableEq, Repr

structure Mail where
  subject : String
  sender : String
  recipient : String
  body : MailBody
  deriving DecidableEq, Repr

/-- The variables a page is rendered with. -/
inductive PageData where
  | nothing
  | items (rows : List (Id × Inventory))
  | itemsWithMessage (rows : List (Id × Inventory)) (message : Option String)
  | item (id : Id) (item : Inventory)
  | reservations (rows : List (Id × Reservation))
  | reservation (id : Id) (reservation : Reservation)
  | users (rows : List (Id × User))
  | user (id : Id) (user : User)
  | named (rows : List (Id × NamedEntity))
  | namedOne (id : Id) (entity : NamedEntity)
  deriving DecidableEq

inductive Response where
  | render (template : String) (data : PageData)
  | redirect (route : String) (id : Option Id)
  | download (file : String)
  deriving DecidableEq

structure Outcome where
  store : Store
  mail : List Mail
  result : Except Exception Response

/-- The database and the mails sent so far. -/
structure Closet where
  store : Store
  mail : List Mail

/-- Go on with what an action leaves behind. -/
def Closet.after (c : Closet) (o : Outcome) : Closet := ⟨o.store, c.mail ++ o.mail⟩

@[simp] theorem Closet.after_store (c : Closet) (o : Outcome) : (c.after o).store = o.store := rfl
@[simp] theorem Closet.after_mail (c : Closet) (o : Outcome) :
    (c.after o).mail = c.mail ++ o.mail := rfl

namespace Outcome

/-- The action ends with an exception before any flush. -/
def raise (s : Store) (e : Exception) : Outcome := ⟨s, [], .error e⟩

/-- The action ends with a response and without a flush. -/
def answer (s : Store) (r : Response) : Outcome := ⟨s, [], .ok r⟩

@[simp] theorem raise_store (s : Store) (e : Exception) : (raise s e).store = s := rfl
@[simp] theorem raise_mail (s : Store) (e : Exception) : (raise s e).mail = [] := rfl
@[simp] theorem answer_store (s : Store) (r : Response) : (answer s r).store = s := rfl
@[simp] theorem answer_mail (s : Store) (r : Response) : (answer s r).mail = [] := rfl

end Outcome

/-- `persist` and `flush`, or `remove` and `flush`: when the transaction commits
    the action goes on with the new store. -/
def Store.transact (s : Store) (write : Tables → Tables)
    (next : Store → List Mail × Except Exception Response) : Outcome :=
  match s.flush write with
  | some u => ⟨u, (next u).1, (next u).2⟩
  | none => .raise s .constraintViolation

/-- `persist` and `flush` of an entity, a null in one of its non-null columns
    being a violation. -/
def Store.persist {α : Type} (s : Store) (row : Option α) (write : α → Tables → Tables)
    (next : Store → List Mail × Except Exception Response) : Outcome :=
  match row with
  | some row => s.transact (write row) next
  | none => .raise s .constraintViolation

/-- What an action knows once it has read the store: its end, or what it is going
    to flush. -/
inductive Loaded (π : Type) where
  | ends (result : Except Exception Response)
  | decides (decision : π)

def Loaded.decision {π : Type} : Loaded π → Option π
  | .ends _ => none
  | .decides decision => some decision

theorem Loaded.decision_eq_some {π : Type} {loaded : Loaded π} {decision : π} :
    loaded.decision = some decision ↔ loaded = .decides decision := by
  cases loaded <;> simp [Loaded.decision]

/-- An action that reads, flushes once, and goes on. -/
def Store.proceed {π : Type} (s : Store) (loaded : Loaded π) (write : π → Tables → Tables)
    (next : π → Store → List Mail × Except Exception Response) : Outcome :=
  match loaded with
  | .ends result => ⟨s, [], result⟩
  | .decides decision => s.transact (write decision) (next decision)

@[simp] theorem Store.transact_store (s : Store) (write : Tables → Tables)
    (next : Store → List Mail × Except Exception Response) :
    (s.transact write next).store = s.committed write := by
  unfold transact committed
  cases s.flush write <;> rfl

theorem Store.transact_keeps {γ : Type} (s : Store) (write : Tables → Tables)
    (next : Store → List Mail × Except Exception Response) (part : Tables → γ)
    (keeps : ∀ t, part (write t) = part t) :
    part (s.transact write next).store.toTables = part s.toTables := by
  rw [transact_store, s.committed_keeps part (keeps s.toTables)]

theorem Store.proceed_keeps {π γ : Type} (s : Store) (loaded : Loaded π)
    (write : π → Tables → Tables) (next : π → Store → List Mail × Except Exception Response)
    (part : Tables → γ) (keeps : ∀ p t, part (write p t) = part t) :
    part (s.proceed loaded write next).store.toTables = part s.toTables := by
  cases loaded with
  | ends result => rfl
  | decides p => exact s.transact_keeps _ (next p) part (keeps p)

theorem Store.proceed_store {π : Type} (s : Store) (loaded : Loaded π)
    (write : π → Tables → Tables) (next : π → Store → List Mail × Except Exception Response) :
    (s.proceed loaded write next).store = match loaded.decision with
      | some p => s.committed (write p)
      | none => s := by
  cases loaded with
  | ends result => rfl
  | decides p => exact s.transact_store (write p) (next p)

theorem Store.transact_of_invalid {s : Store} {write : Tables → Tables}
    (invalid : ¬ (write s.toTables).Valid) (next : Store → List Mail × Except Exception Response) :
    s.transact write next = .raise s .constraintViolation := by
  simp [transact, Store.flush_eq_none.mpr invalid]

/-- A transaction that commits: what comes after it decides about mail and result. -/
theorem Store.transact_of_valid {s : Store} {write : Tables → Tables}
    (valid : (write s.toTables).Valid) (next : Store → List Mail × Except Exception Response) :
    ∃ u : Store, u.toTables = write s.toTables ∧
      s.transact write next = ⟨u, (next u).1, (next u).2⟩ :=
  ⟨⟨write s.toTables, valid⟩, rfl, by simp [transact, flush, valid]⟩

theorem Store.transact_mail_of_invalid {s : Store} {write : Tables → Tables}
    (invalid : ¬ (write s.toTables).Valid) (next : Store → List Mail × Except Exception Response) :
    (s.transact write next).mail = [] := by
  simp [transact, Store.flush_eq_none.mpr invalid]

/-- A transaction ends with a violation or goes on. -/
theorem Store.transact_result {s : Store} {write : Tables → Tables}
    {next : Store → List Mail × Except Exception Response} {e : Exception}
    (violation : e ≠ .constraintViolation) (goesOn : ∀ u, (next u).2 ≠ .error e) :
    (s.transact write next).result ≠ .error e := by
  unfold Store.transact
  split
  · exact goesOn _
  · intro same
    cases same
    exact violation rfl

theorem Store.persist_result {α : Type} {s : Store} {row : Option α} {write : α → Tables → Tables}
    {next : Store → List Mail × Except Exception Response} {e : Exception}
    (violation : e ≠ .constraintViolation) (goesOn : ∀ u, (next u).2 ≠ .error e) :
    (s.persist row write next).result ≠ .error e := by
  cases row with
  | some row => exact transact_result violation goesOn
  | none => exact fun same => violation (Except.error.inj same).symm

theorem Store.proceed_result {π : Type} {s : Store} {loaded : Loaded π}
    {write : π → Tables → Tables} {next : π → Store → List Mail × Except Exception Response}
    {e : Exception} (violation : e ≠ .constraintViolation) (ends : loaded ≠ .ends (.error e))
    (goesOn : ∀ p u, (next p u).2 ≠ .error e) : (s.proceed loaded write next).result ≠ .error e := by
  cases loaded with
  | ends result => exact fun same => ends (congrArg Loaded.ends same)
  | decides p => exact transact_result violation (goesOn p)

/-- Send one mail, then go on; an address that is refused ends the action. -/
def sendMail (rt : Runtime) (mail : Mail) (next : Except Exception Response) :
    List Mail × Except Exception Response :=
  if rt.acceptsAddress mail.recipient then ([mail], next) else ([], .error (.rfcCompliance mail.recipient))

/-- So does a mail, with its address refused. -/
theorem sendMail_result {rt : Runtime} {mail : Mail} {next : Except Exception Response}
    {e : Exception}
    (refusal : e ≠ .rfcCompliance mail.recipient) (goesOn : next ≠ .error e) :
    (sendMail rt mail next).2 ≠ .error e := by
  unfold sendMail
  split
  · exact goesOn
  · intro same
    cases same
    exact refusal rfl

def senderAddress : String := "wuregalia@gmail.com"

end WuRegalia
