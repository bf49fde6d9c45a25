import Proximity.Accounts.Auth
import Proximity.Systems.Run

/-!
# What a token opens

`verifyTokenAndAutherization` lets a token through on the routes of its own
account, and on every route when its role is `admin`.  Where no account is an
admin, only a registration that asks for that role can make one.
-/

namespace Proximity.Accounts.Privilege

open Proximity.Systems Proximity.Models

def NoAdmin (users : Collection User) : Prop := ∀ user ∈ users.docs, user.role ≠ .admin

section System

variable (cipher : Cipher) (isEmail : String → Bool)

/-- The stored users after a request from outside. -/
def step? (users : Collection User) (request : Request) : Option (Collection User) :=
  some (respond cipher isEmail users request).users

/-- The token that the request is answered with opens the routes of its own account only. -/
def Confined (users : Collection User) (request : Request) (_ : Collection User) : Prop :=
  ∀ token message profile,
    (respond cipher isEmail users request).reply = .token token message profile →
    ∀ id, id ≠ token.id → verifyTokenAndAutherization token id = false

/-- The request does not register an admin. -/
def AsksNoAdmin (_ : Collection User) (request : Request) (_ : Collection User) : Prop :=
  match request with
  | .register _ _ body => body.role ≠ .admin
  | _ => True

end System

section Runs

variable {cipher : Cipher} {isEmail : String → Bool} {users : Collection User}

theorem update_noAdmin (free : NoAdmin users) (id : ObjectId) {change : Update User}
    (keeps : ∀ user, (change.apply user).role = user.role) : NoAdmin (users.update id change) := by
  refine Collection.forall_update free fun before stored _ => ?_
  rw [keeps]
  exact free before stored

theorem register_noAdmin (free : NoAdmin users) (id : ObjectId) (random : Nat)
    {body : RegisterBody} (asks : body.role ≠ .admin) :
    NoAdmin (register cipher users id random body).users := by
  rcases register_cases cipher users id random body with
    ⟨failure, -, same, -⟩ | ⟨user, -, built, after, saved, answered⟩
  · rw [same]
    exact free
  · obtain ⟨-, -, -, -, role, -⟩ := newUser_eq_ok built
    obtain ⟨-, -, -, rfl⟩ := save_eq_ok_iff.mp saved
    rw [answered]
    intro other stored
    rcases Collection.mem_insert.mp stored with old | ⟨-, rfl⟩
    · exact free other old
    · rw [role]
      exact asks

theorem request_noAdmin (free : NoAdmin users) {request : Request} {after : Collection User}
    (asks : AsksNoAdmin users request after) :
    NoAdmin (respond cipher isEmail users request).users := by
  rcases respond_cases cipher isEmail users request with rejected | ⟨-, served⟩
  · rw [rejected]
    exact free
  · rw [served]
    cases request with
    | register id random body => exact register_noAdmin free id random asks
    | login body => exact free
    | verify body =>
        rcases verify_cases users body with ⟨failure, failed⟩ | ⟨user, _, _, -, -, issued⟩
        · rw [serve, failed]
          exact free
        · rw [serve, issued]
          exact update_noAdmin free user.id fun _ => rfl
    | resend_verification_code random email =>
        rcases resend_cases users random email with ⟨failure, failed⟩ | ⟨user, -, sent⟩
        · rw [serve, failed]
          exact free
        · rw [serve, sent]
          exact update_noAdmin free user.id fun _ => rfl

/-- A token carries the role of a stored user. -/
theorem token_role {request : Request} {token : Token} {message : String} {profile : Profile}
    (answered : (respond cipher isEmail users request).reply = .token token message profile) :
    ∃ user ∈ users.docs, token.role = user.role := by
  rcases respond_token answered with ⟨body, -, logged⟩ | ⟨body, -, verified⟩
  · obtain ⟨user, stored, rfl, -⟩ := login_token logged
    exact ⟨user, stored, rfl⟩
  · obtain ⟨user, found, -, rfl⟩ := verify_token verified
    exact ⟨user, (findByEmail?_eq_some found).1, rfl⟩

theorem request_confined (free : NoAdmin users) (request : Request) (after : Collection User) :
    Confined cipher isEmail users request after := by
  intro token message profile answered id other
  obtain ⟨user, stored, role⟩ := token_role answered
  have plain : token.role ≠ .admin := by
    rw [role]
    exact free user stored
  simp [verifyTokenAndAutherization, plain, Ne.symm other]

/-- From a database without an admin, requests that register no admin never yield
a token that opens the routes of another account. -/
theorem confined_of_asksNoAdmin (free : NoAdmin users) (requests : List Request)
    (guarded : EveryStep (step? cipher isEmail) AsksNoAdmin users requests) :
    EveryStep (step? cipher isEmail) (Confined cipher isEmail) users requests := by
  refine everyStep_of_invariant NoAdmin ?_ free guarded
  intro source request target noAdmin stepped asks
  cases stepped
  exact ⟨request_confined noAdmin request _, request_noAdmin noAdmin asks⟩

end Runs

/-! ## An account that registers as an admin -/

def joins (role : Role) : Request :=
  .register 1 1234 ⟨some "someone@proximity.fr", none, "someone", "secret1", "secret1", role,
    some (.boolean true)⟩

def logsIn (role : Role) : Request :=
  .login ⟨"someone@proximity.fr", role, some "secret1", none, none⟩

theorem empty_noAdmin : NoAdmin Collection.empty := fun _ member => absurd member List.not_mem_nil

/-- Who registers as a user gets a token for the own account. -/
theorem userJoins_confined :
    EveryStep (step? plainCipher hasAt) AsksNoAdmin Collection.empty [joins .user, logsIn .user] ∧
    EveryStep (step? plainCipher hasAt) (Confined plainCipher hasAt) Collection.empty
      [joins .user, logsIn .user] := by
  have asks : Role.user ≠ .admin := by decide
  have guarded : EveryStep (step? plainCipher hasAt) AsksNoAdmin Collection.empty
      [joins .user, logsIn .user] := fun _ _ => ⟨asks, fun _ _ => ⟨trivial, trivial⟩⟩
  exact ⟨guarded, confined_of_asksNoAdmin empty_noAdmin [joins .user, logsIn .user] guarded⟩

/-- Who registers as an admin gets a token for every account. -/
theorem adminJoins_not_confined :
    NoAdmin Collection.empty ∧
    ¬ EveryStep (step? plainCipher hasAt) (Confined plainCipher hasAt) Collection.empty
      [joins .admin, logsIn .admin] := by
  refine ⟨empty_noAdmin, fun every => ?_⟩
  obtain ⟨-, remaining⟩ := every _ rfl
  obtain ⟨confined, -⟩ := remaining _ rfl
  have answered : (respond plainCipher hasAt
      (respond plainCipher hasAt Collection.empty (joins .admin)).users (logsIn .admin)).reply =
      .token ⟨1, .admin⟩ ""
        ⟨1, some "someone@proximity.fr", .admin, some "someone", some false⟩ := by
    decide +kernel
  have closed := confined _ _ _ answered 2 (by decide)
  exact absurd closed (by decide)

end Proximity.Accounts.Privilege
