import Mathlib.Logic.Function.Basic
import Proximity.Accounts.Auth

/-!
# `ResetPasswordService`, one database command at a time

A call is looked at between its awaits: what it holds and the command it runs
next.  The user of a call is looked up when it starts, since no call changes an
identifier.  The codes issued are remembered next to the database.
-/

namespace Proximity.ResetPassword

open Proximity.Systems Proximity.Models Proximity.Accounts

/-- The schema's `expires : 3600`. -/
def lifetime : Time := 3600000

/-- A document of the `ResetPassword` model. -/
structure ResetCode where
  id : ObjectId
  userId : ObjectId
  token : String
  createAt : Time
  deriving DecidableEq, Repr

instance : Document ResetCode ObjectId := ⟨ResetCode.id⟩

@[simp] theorem ResetCode.document_id (code : ResetCode) : Document.id code = code.id := rfl

structure ResetBody where
  password : String
  password_confirmation : String
  deriving DecidableEq, Repr

/-- `resetPasswordSchemaValidation`. -/
def ResetBody.accepted (body : ResetBody) : Bool :=
  6 ≤ jsLength body.password && 6 ≤ jsLength body.password_confirmation

def ResetBody.confirmed (body : ResetBody) : Bool :=
  body.password ≠ "" && body.password_confirmation ≠ "" &&
    body.password = body.password_confirmation

structure Answer where
  success : Bool
  message : String
  data : Option Nat
  deriving DecidableEq, Repr

/-- What a call does next: the commands of `requestResetPassword` first, then those
of `resetPassword`, whose deletion nobody awaits. -/
inductive Call where
  | findCode (user : ObjectId) (random : Nat)
  | insertCode (code : ResetCode)
  | saveCode (id : ObjectId) (random : Nat)
  | lookupCode (user : ObjectId) (token : String) (body : ResetBody)
  | changePassword (user : ObjectId) (id : ObjectId) (token password : String)
  | deleteCode (id : ObjectId)
  | answered (answer : Answer)
  | failed
  deriving DecidableEq, Repr

def Call.ended : Call → Bool
  | .answered _ => true
  | .failed => true
  | _ => false

theorem Call.ne_of_ended {call other : Call} (ends : call.ended = true)
    (runs : other.ended = false) : call ≠ other := by
  rintro rfl
  rw [ends] at runs
  cases runs

/-- The last code issued to a user, when it was issued, when the document that
holds it was created, and whether it has changed a password. -/
structure Issue where
  code : String
  time : Time
  createAt : Time
  used : Bool
  deriving DecidableEq, Repr

structure State where
  now : Time
  users : Collection User
  codes : Collection ResetCode
  calls : List Call
  issued : ObjectId → Option Issue

def State.initial (now : Time) (users : Collection User) : State :=
  ⟨now, users, Collection.empty, [], fun _ => none⟩

inductive Action where
  | requestResetPassword (email : String) (random : Nat)
  | resetPassword (email token : String) (body : ResetBody)
  | proceed (index : Nat)
  | tick (now : Time)
  deriving DecidableEq, Repr

/-- MongoDB deletes what is `lifetime` old. -/
def purge (now : Time) (codes : Collection ResetCode) : Collection ResetCode :=
  codes.deleteMany fun code => decide (code.createAt + lifetime ≤ now)

def setToken (random : Nat) : Update ResetCode :=
  ⟨fun code => { code with token := toString random }, fun _ => rfl⟩

def setPassword (cipher : Cipher) (password : String) : Update User :=
  ⟨fun user => { user with password := cipher.encrypt password }, fun _ => rfl⟩

def ofUser (user : ObjectId) (code : ResetCode) : Bool := decide (code.userId = user)

def matching (user : ObjectId) (token : String) (code : ResetCode) : Bool :=
  decide (code.token = token ∧ code.userId = user)

/-- The issue of a code that has changed a password counts as used. -/
def Issue.spend (token : String) (issue : Issue) : Issue :=
  { issue with used := issue.used || decide (issue.code = token) }

def State.put (source : State) (index : Nat) (call : Call) : State :=
  { source with calls := source.calls.set index call }

/-- The end of a request whose code is stored.  A user without an email is sent the code by
phone, which throws: `axios` is not imported. -/
def State.send (source : State) (userId : ObjectId) : Call :=
  match source.users.findById? userId with
  | some user =>
      if nonEmpty user.email = none ∧ nonEmpty user.phone ≠ none then .failed
      else .answered ⟨true, "", none⟩
  | none => .answered ⟨true, "", none⟩

theorem State.send_ended (source : State) (userId : ObjectId) :
    (source.send userId).ended = true := by
  unfold State.send
  split
  case h_1 user =>
      split
      case isTrue => rfl
      case isFalse => rfl
  case h_2 => rfl

/-- The next command of the call at an index, and the code up to the next await. -/
def command? (cipher : Cipher) (source : State) (index : Nat) : Call → Option State
  | .findCode user random =>
      match source.codes.findOne? (ofUser user) with
      | none => some (source.put index (.insertCode ⟨index, user, toString random, source.now⟩))
      | some code => some (source.put index (.saveCode code.id random))
  | .insertCode code =>
      match source.codes.findById? code.id with
      | some _ => some (source.put index .failed)
      | none =>
          some (State.put { source with
            codes := purge source.now (source.codes.insert code)
            issued := Function.update source.issued code.userId
              (some ⟨code.token, source.now, code.createAt, false⟩) }
            index (source.send code.userId))
  | .saveCode id random =>
      match source.codes.findById? id with
      | none => some (source.put index .failed)
      | some code =>
          some (State.put { source with
            codes := source.codes.update id (setToken random)
            issued := Function.update source.issued code.userId
              (some ⟨toString random, source.now, code.createAt, false⟩) }
            index (source.send code.userId))
  | .lookupCode user token body =>
      match source.codes.findOne? (matching user token) with
      | none => some (source.put index (.answered ⟨false, "the token does not exist", none⟩))
      | some code =>
          if body.confirmed then
            some (source.put index (.changePassword user code.id token body.password))
          else some (source.put index .failed)
  | .changePassword user id token password =>
      some (State.put { source with
        users := source.users.update user (setPassword cipher password)
        issued := Function.update source.issued user
          ((source.issued user).map (Issue.spend token)) }
        index (.deleteCode id))
  | .deleteCode id =>
      some (State.put { source with codes := source.codes.delete id }
        index (.answered ⟨true, "", none⟩))
  | .answered _ => none
  | .failed => none

def step? (cipher : Cipher) (source : State) : Action → Option State
  | .requestResetPassword email random =>
      match lookup? source.users email with
      | some user => some { source with calls := source.calls ++ [.findCode user.id random] }
      | none =>
          some { source with
            calls := source.calls ++ [.answered ⟨false, "user is not registered", some 1⟩] }
  | .resetPassword email token body =>
      if body.accepted then
        match lookup? source.users email with
        | some user =>
            some { source with calls := source.calls ++ [.lookupCode user.id token body] }
        | none =>
            some { source with
              calls := source.calls ++ [.answered ⟨false, "user does not exist", none⟩] }
      else some source
  | .proceed index => do
      let call ← source.calls[index]?
      command? cipher source index call
  | .tick now =>
      if source.now ≤ now then
        some { source with now := now, codes := purge now source.codes }
      else none

end Proximity.ResetPassword
