import Proximity.Systems.Collection

/-!
# Accounts as they are stored

Ids are the ObjectIds of MongoDB; only their equality is ever used.
-/

namespace Proximity.Models

open Proximity.Systems

abbrev ObjectId := Nat

/-- Milliseconds. -/
abbrev Time := Int

/-- The roles the validators let through; the `User` schema knows all but
`coursier`. -/
inductive Role where
  | user
  | admin
  | seller
  | coursier
  deriving DecidableEq, Repr

/-- The enumeration of the `role` path of the `User` schema. -/
def Role.inSchema : Role → Bool
  | .coursier => false
  | _ => true

/-- A stored user; `password` is the ciphertext. -/
structure User where
  id : ObjectId
  email : Option String
  phone : Option String
  username : Option String
  password : String
  role : Role
  isVerified : Bool
  welcome : Bool
  verificationCode : Option String
  deriving DecidableEq, Repr

instance : Document User ObjectId := ⟨User.id⟩

@[simp] theorem User.document_id (user : User) : Document.id user = user.id := rfl

/-! ## Tokens and the middleware that reads them -/

/-- The payload of a signed token. -/
structure Token where
  id : ObjectId
  role : Role
  deriving DecidableEq, Repr

/-- The test of `verifyTokenAndAutherization` on a route with an id parameter. -/
def verifyTokenAndAutherization (token : Token) (id : ObjectId) : Bool :=
  decide (token.id = id) || decide (token.role = .admin)

/-- The test of `verifySeller`; a route without an id parameter leaves it undefined. -/
def verifySeller (token : Token) (id : Option ObjectId) : Bool :=
  decide (some token.id = id) || decide (token.role = .seller)

end Proximity.Models
