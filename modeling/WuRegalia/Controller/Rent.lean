import WuRegalia.Routing
import WuRegalia.Security.AccessControl

/-! # `RentController`

Renting is split where the database is reached: `load` reads everything the
action looks at, `write` is the transaction of its flush, `finish` is the rest.
-/

namespace WuRegalia.RentController

def showAction (sessionUser : Option SessionUser) (s : Store) : Outcome :=
  match sessionUser, s.findStatus "AVAL" with
  | some _, some avalStatus =>
      .answer s (.render "rent/index.html.twig"
        (.itemsWithMessage (s.findByItemStatus avalStatus) none))
  | _, _ => .raise s .nullDereference

/-- The types of the items a user has reserved. -/
def types (t : Tables) (user : Id) : List Id :=
  (t.getReservations user).filterMap
    (fun row => (t.inventory.find row.2.item).map Inventory.itemType)

def refusal (typeName : String) : String :=
  "You already have a reservation for a " ++ typeName ++
    ".\n                            Only one rental per type of item is allowed."

/-- What a rent has read and is about to write: the user, the item as loaded and
    the key of `RENTED`. -/
structure Rent where
  userid : Id
  user : User
  itemid : Id
  item : Inventory
  rent_status : Id
  now : DateTime
  deriving DecidableEq, Repr

def load (sessionUser : Option SessionUser) (id : Id) (now : DateTime) (t : Tables) : Loaded Rent :=
  match t.inventory.find id with
  | none => .ends (.error .notFound)
  | some item =>
      match sessionUser with
      | none => .ends (.error .accessDenied)
      | some sessionUser =>
          if isGranted .IS_AUTHENTICATED_FULLY sessionUser.roles then
            match t.findUser sessionUser.username with
            | none => .ends (.error .nullDereference)
            | some (userid, user) =>
                if item.itemType ∈ types t userid then
                  match t.findStatus "AVAL" with
                  | none => .ends (.error .nullDereference)
                  | some avalStatus =>
                      let typeName := ((t.itemType.find item.itemType).map NamedEntity.name).getD ""
                      .ends (.ok (.render "rent/index.html.twig"
                        (.itemsWithMessage (t.findByItemStatus avalStatus) (some (refusal typeName)))))
                else
                  match t.findStatus "RENTED" with
                  | none => .ends (.error .typeError)
                  | some rent_status => .decides ⟨userid, user, id, item, rent_status, now⟩
          else .ends (.error .accessDenied)

def write (rent : Rent) (t : Tables) : Tables :=
  (t.changeItemStatus rent.itemid rent.item rent.rent_status).insertReservation
    (.construct rent.userid rent.itemid rent.now)

def confirmation (rent : Rent) (admin : String) : Mail where
  subject := "Rental Request Submitted to WU Regalia Closet"
  sender := senderAddress
  recipient := rent.user.email
  body := .rentUserConfirm rent.itemid rent.userid (rent.now.addDays 14) admin

def finish (rt : Runtime) (rent : Rent) : List Mail × Except Exception Response :=
  match rt.appAdmin with
  | none => ([], .error (.undefinedParameter "app.admin"))
  | some admin =>
      sendMail rt (confirmation rent admin)
        (.ok (.render "rent/rent.html.twig"
          (.item rent.itemid (rent.item.setItemStatus rent.rent_status))))

def rentAction (rt : Runtime) (sessionUser : Option SessionUser) (id : Id) (now : DateTime)
    (s : Store) : Outcome :=
  s.proceed (load sessionUser id now s.toTables) write (fun rent _ => finish rt rent)

end WuRegalia.RentController
