import Proximity.Models.Account
import Proximity.Models.Joi
import Proximity.Systems.Checks

/-!
# `AuthService`, the updates of `UserService`, and the checks in front of them

Bodies are those that the joi schemas can accept; the schemas themselves are the
`accepted` predicates.
-/

namespace Proximity.Accounts

open Proximity.Systems Proximity.Models

/-- The cipher under the server's secret. -/
structure Cipher where
  encrypt : String → String
  decrypt : String → String
  decrypt_encrypt : ∀ text, decrypt (encrypt text) = text

def truthy (field : Option JoiBoolean) : Bool := field.any JoiBoolean.truthy

def nonEmpty (field : Option String) : Option String := field.filter fun text => text ≠ ""

theorem nonEmpty_isSome {field : Option String} :
    (nonEmpty field).isSome ↔ ∃ text, field = some text ∧ text ≠ "" := by
  cases field with
  | none => simp [nonEmpty]
  | some text => simp [nonEmpty, Option.filter]

inductive Failure where
  | emailTaken
  | phoneTaken
  | noContact
  | usernameTaken
  | passwordsDiffer
  | notSaved
  | wrongUserName
  | codeIncorrect
  | notRegistered
  | alreadyVerified
  deriving DecidableEq, Repr

/-- The user data next to a token. -/
structure Profile where
  id : ObjectId
  email : Option String
  role : Role
  username : Option String
  welcome : Option Bool
  deriving DecidableEq, Repr

/-! ## Lookups and saves -/

section Users

variable (users : Collection User)

def findByEmail? (email : String) : Option User :=
  users.findOne? fun user => user.email = some email

def findByPhone? (phone : String) : Option User :=
  users.findOne? fun user => user.phone = some phone

def findByUsername? (username : String) : Option User :=
  users.findOne? fun user => user.username = some username

/-- The account lookup of `login` and `resend_verification_code`. -/
def lookup? (identifier : String) : Option User :=
  (findByEmail? users identifier).or
    ((findByPhone? users identifier).or (findByUsername? users identifier))

/-- No other document has this key in the unique index of `username`. -/
def usernameFree (user : User) : Prop :=
  ∀ other ∈ users.docs, other.id ≠ user.id → other.username ≠ user.username

instance (user : User) : Decidable (usernameFree users user) :=
  inferInstanceAs (Decidable (∀ other ∈ users.docs, _))

/-- The save of a new document: schema, id and unique index. -/
def save (user : User) : Except Failure (Collection User) := do
  require .notSaved (user.role.inSchema = true)
  require .notSaved (users.findById? user.id = none)
  require .notSaved (usernameFree users user)
  return users.insert user

end Users

/-! ## Registration -/

structure RegisterBody where
  email : Option String
  phone : Option String
  username : String
  password : String
  password_confirmation : String
  role : Role
  google : Option JoiBoolean
  deriving DecidableEq, Repr

/-- `userSchemaValidation`; joi strings are not empty. -/
def RegisterBody.accepted (isEmail : String → Bool) (body : RegisterBody) : Bool :=
  body.email.all (fun email => email ≠ "" && isEmail email) &&
    body.phone.all (fun phone => phone ≠ "") &&
    5 ≤ jsLength body.username && 6 ≤ jsLength body.password &&
    6 ≤ jsLength body.password_confirmation && body.google.all JoiBoolean.accepted

/-- The first lookup: the email, or the phone of a body without an email. -/
def checkContact (users : Collection User) (body : RegisterBody) : Except Failure Unit :=
  match nonEmpty body.email with
  | some email => require .emailTaken (findByEmail? users email = none)
  | none =>
      match nonEmpty body.phone with
      | some phone => require .phoneTaken (findByPhone? users phone = none)
      | none => .error .noContact

def checkUsername (users : Collection User) (body : RegisterBody) : Except Failure Unit :=
  require .usernameTaken (findByUsername? users body.username = none)

/-- The document built after the lookups; `random` is the verification code. -/
def newUser (cipher : Cipher) (id : ObjectId) (random : Nat) (body : RegisterBody) :
    Except Failure User := do
  require .passwordsDiffer (body.password ≠ "" ∧ body.password_confirmation ≠ "" ∧
    body.password = body.password_confirmation)
  return {
    id := id
    email := body.email
    phone := body.phone
    username := some body.username
    password := cipher.encrypt body.password
    role := body.role
    isVerified := truthy body.google
    welcome := false
    verificationCode := some (toString random) }

/-- What `register` does before the save. -/
def prepare (cipher : Cipher) (users : Collection User) (id : ObjectId) (random : Nat)
    (body : RegisterBody) : Except Failure User := do
  checkContact users body
  checkUsername users body
  newUser cipher id random body

/-- A verification code on its way to the user, by mail or by text message. -/
structure Mail where
  user : ObjectId
  address : String
  code : String
  deriving DecidableEq, Repr

def mail (user : User) (random : Nat) : Option Mail :=
  ((nonEmpty user.email).or (nonEmpty user.phone)).map fun address =>
    ⟨user.id, address, toString random⟩

/-! ## Answers -/

inductive Reply where
  | token (token : Token) (message : String) (user : Profile)
  | refused (message : String) (data : Nat)
  | saved (user : User)
  | resent
  | failed (failure : Failure)
  | rejected
  deriving DecidableEq, Repr

/-- The stored users after a request, its answer, and the code it sent. -/
structure Outcome where
  users : Collection User
  reply : Reply
  mailed : Option Mail

/-- The code leaves before the save is tried. -/
def register (cipher : Cipher) (users : Collection User) (id : ObjectId) (random : Nat)
    (body : RegisterBody) : Outcome :=
  match prepare cipher users id random body with
  | .error failure => ⟨users, .failed failure, none⟩
  | .ok user =>
      match save users user with
      | .error failure => ⟨users, .failed failure, mail user random⟩
      | .ok after => ⟨after, .saved user, mail user random⟩

/-! ## Login -/

structure LoginBody where
  email : String
  role : Role
  password : Option String
  google : Option JoiBoolean
  name : Option String
  deriving DecidableEq, Repr

/-- `userLoginSchemaValidation`. -/
def LoginBody.accepted (body : LoginBody) : Bool :=
  body.email ≠ "" && body.password.all (fun password => 6 ≤ jsLength password) &&
    body.google.all JoiBoolean.accepted && body.name.all (fun name => name ≠ "")

def login (cipher : Cipher) (users : Collection User) (body : LoginBody) : Reply :=
  match lookup? users body.email with
  | none => .refused "user is not registered" 1
  | some user =>
      if truthy body.google ∨ body.password = some (cipher.decrypt user.password) then
        if user.role ≠ body.role then .refused "Permission denied" 3
        else if user.isVerified = false then .refused "Account not verified" 4
        else
          .token ⟨user.id, user.role⟩ ""
            ⟨user.id, user.email, user.role, user.username, some user.welcome⟩
      else .refused "password is incorrect" 2

/-! ## Verification codes -/

structure VerifyBody where
  email : String
  verificationCode : String
  deriving DecidableEq, Repr

/-- `userVerificationSchemaValidation`. -/
def VerifyBody.accepted (body : VerifyBody) : Bool :=
  body.email ≠ "" && 3 ≤ jsLength body.verificationCode && jsLength body.verificationCode ≤ 5

def markVerified : Update User :=
  ⟨fun user => { user with isVerified := true }, fun _ => rfl⟩

def verify (users : Collection User) (body : VerifyBody) : Outcome :=
  match findByEmail? users body.email with
  | none => ⟨users, .failed .wrongUserName, none⟩
  | some user =>
      if user.verificationCode = some body.verificationCode then
        ⟨users.update user.id markVerified,
          .token ⟨user.id, user.role⟩ ("hello " ++ body.email ++ " your email is now verified")
            ⟨user.id, user.email, user.role, user.username, none⟩, none⟩
      else ⟨users, .failed .codeIncorrect, none⟩

def setCode (random : Nat) : Update User :=
  ⟨fun user => { user with verificationCode := some (toString random) }, fun _ => rfl⟩

/-- The body `resendUserVerificationSchemaValidation` accepts is a non-empty `email`. -/
def resend_verification_code (users : Collection User) (random : Nat) (email : String) : Outcome :=
  match lookup? users email with
  | none => ⟨users, .failed .notRegistered, none⟩
  | some user =>
      if user.isVerified then ⟨users, .failed .alreadyVerified, none⟩
      else ⟨users.update user.id (setCode random), .resent, mail user random⟩

/-! ## Updates of a user -/

/-- The fields of an update that concern the account itself. -/
structure UpdateBody where
  email : Option String
  phone : Option String
  username : Option String
  password : Option String
  deriving DecidableEq, Repr

/-- `updateSchemaValidation`, on these fields. -/
def UpdateBody.accepted (isEmail : String → Bool) (body : UpdateBody) : Bool :=
  body.email.all (fun email => email ≠ "" && isEmail email) &&
    body.phone.all (fun phone => 10 ≤ jsLength phone) &&
    body.username.all (fun username => 5 ≤ jsLength username) &&
    body.password.all (fun password => 6 ≤ jsLength password)

/-- `$set: req.body`, with the password encrypted. -/
def UpdateBody.change (cipher : Cipher) (body : UpdateBody) : Update User where
  apply user := { user with
    email := body.email.or user.email
    phone := body.phone.or user.phone
    username := body.username.or user.username
    password := (body.password.map cipher.encrypt).getD user.password }
  keepsId _ := rfl

/-- `findByIdAndUpdate`; a username that the index knows makes it fail. -/
def updateUser (cipher : Cipher) (users : Collection User) (id : ObjectId) (body : UpdateBody) :
    Except Failure (Collection User) :=
  match users.findById? id with
  | none => .ok users
  | some user => do
      require .notSaved (usernameFree users ((body.change cipher).apply user))
      return users.update id (body.change cipher)

/-! ## Requests -/

/-- The requests of the authentication routes; `id` and `random` are what the
server draws for the request. -/
inductive Request where
  | register (id : ObjectId) (random : Nat) (body : RegisterBody)
  | login (body : LoginBody)
  | verify (body : VerifyBody)
  | resend_verification_code (random : Nat) (email : String)
  deriving DecidableEq, Repr

def Request.accepted (isEmail : String → Bool) : Request → Bool
  | .register _ _ body => body.accepted isEmail
  | .login body => body.accepted
  | .verify body => body.accepted
  | .resend_verification_code _ email => email ≠ ""

def serve (cipher : Cipher) (users : Collection User) : Request → Outcome
  | .register id random body => register cipher users id random body
  | .login body => ⟨users, login cipher users body, none⟩
  | .verify body => verify users body
  | .resend_verification_code random email => resend_verification_code users random email

/-- The validator in front of the service. -/
def respond (cipher : Cipher) (isEmail : String → Bool) (users : Collection User)
    (request : Request) : Outcome :=
  if request.accepted isEmail then serve cipher users request else ⟨users, .rejected, none⟩

/-! ## What each service does -/

section Specs

variable {cipher : Cipher} {users : Collection User}

theorem findByEmail?_eq_some {email : String} {user : User}
    (found : findByEmail? users email = some user) :
    user ∈ users.docs ∧ user.email = some email := by
  obtain ⟨stored, matched⟩ := Collection.findOne?_spec found
  exact ⟨stored, by simpa using matched⟩

theorem lookup?_mem {identifier : String} {user : User}
    (found : lookup? users identifier = some user) : user ∈ users.docs := by
  rcases Option.or_eq_some_iff.mp found with byEmail | ⟨-, rest⟩
  · exact (Collection.findOne?_spec byEmail).1
  · rcases Option.or_eq_some_iff.mp rest with byPhone | ⟨-, byUsername⟩
    · exact (Collection.findOne?_spec byPhone).1
    · exact (Collection.findOne?_spec byUsername).1

theorem save_eq_ok_iff {user : User} {after : Collection User} :
    save users user = .ok after ↔ user.role.inSchema = true ∧ users.findById? user.id = none ∧
      usernameFree users user ∧ users.insert user = after := by
  simp [save]

theorem newUser_eq_ok {id : ObjectId} {random : Nat} {body : RegisterBody} {user : User}
    (built : newUser cipher id random body = .ok user) :
    user.id = id ∧ user.email = body.email ∧ user.phone = body.phone ∧
      user.username = some body.username ∧ user.role = body.role ∧
      user.verificationCode = some (toString random) := by
  simp only [newUser, bind_eq_ok_iff, require_eq_ok_iff, pure_eq_ok_iff] at built
  obtain ⟨-, -, rfl⟩ := built
  exact ⟨rfl, rfl, rfl, rfl, rfl, rfl⟩

theorem checkContact_eq_ok {body : RegisterBody} (checked : checkContact users body = .ok ()) :
    ((nonEmpty body.email).or (nonEmpty body.phone)).isSome := by
  unfold checkContact at checked
  cases hasEmail : nonEmpty body.email with
  | some email => rfl
  | none =>
      rw [hasEmail] at checked
      cases hasPhone : nonEmpty body.phone with
      | some phone => rfl
      | none =>
          rw [hasPhone] at checked
          cases checked

/-- A registration leaves the users as they were, or stores the user it built. -/
theorem register_cases (cipher : Cipher) (users : Collection User) (id : ObjectId)
    (random : Nat) (body : RegisterBody) :
    (∃ failure, (register cipher users id random body).reply = .failed failure ∧
      (register cipher users id random body).users = users ∧
      ∀ sent, (register cipher users id random body).mailed = some sent → sent.user = id) ∨
    ∃ user, checkContact users body = .ok () ∧ newUser cipher id random body = .ok user ∧
      (∃ after, save users user = .ok after ∧
        register cipher users id random body = ⟨after, .saved user, mail user random⟩) := by
  unfold register
  cases prepared : prepare cipher users id random body with
  | error failure => exact Or.inl ⟨failure, rfl, rfl, fun sent none_sent => by cases none_sent⟩
  | ok user =>
      simp only [prepare, bind_eq_ok_iff] at prepared
      obtain ⟨_, contact, _, _, built⟩ := prepared
      dsimp only
      cases saved : save users user with
      | error failure =>
          refine Or.inl ⟨failure, rfl, rfl, fun sent went => ?_⟩
          obtain ⟨address, -, rfl⟩ := Option.map_eq_some_iff.mp went
          exact (newUser_eq_ok built).1
      | ok after => exact Or.inr ⟨user, contact, built, after, saved, rfl⟩

theorem login_token {body : LoginBody} {token : Token} {message : String} {profile : Profile}
    (answered : login cipher users body = .token token message profile) :
    ∃ user ∈ users.docs, token = ⟨user.id, user.role⟩ ∧
      (truthy body.google = true ∨ body.password = some (cipher.decrypt user.password)) ∧
      user.role = body.role ∧ user.isVerified = true := by
  unfold login at answered
  split at answered
  case h_1 => cases answered
  case h_2 user found =>
      split at answered
      case isTrue supplied =>
          split at answered
          case isTrue => cases answered
          case isFalse same =>
              split at answered
              case isTrue => cases answered
              case isFalse verified =>
                  cases answered
                  exact ⟨user, lookup?_mem found, rfl, supplied, not_not.mp same,
                    by simpa using verified⟩
      case isFalse => cases answered

theorem verify_cases (users : Collection User) (body : VerifyBody) :
    (∃ failure, verify users body = ⟨users, .failed failure, none⟩) ∨
    ∃ user message profile, findByEmail? users body.email = some user ∧
      user.verificationCode = some body.verificationCode ∧
      verify users body = ⟨users.update user.id markVerified,
        .token ⟨user.id, user.role⟩ message profile, none⟩ := by
  unfold verify
  cases found : findByEmail? users body.email with
  | none => exact Or.inl ⟨.wrongUserName, rfl⟩
  | some user =>
      by_cases right : user.verificationCode = some body.verificationCode
      · exact Or.inr ⟨user, _, _, rfl, right, if_pos right⟩
      · exact Or.inl ⟨.codeIncorrect, if_neg right⟩

theorem resend_cases (users : Collection User) (random : Nat) (identifier : String) :
    (∃ failure, resend_verification_code users random identifier = ⟨users, .failed failure, none⟩) ∨
    ∃ user, lookup? users identifier = some user ∧
      resend_verification_code users random identifier =
        ⟨users.update user.id (setCode random), .resent, mail user random⟩ := by
  unfold resend_verification_code
  cases found : lookup? users identifier with
  | none => exact Or.inl ⟨.notRegistered, rfl⟩
  | some user =>
      cases verified : user.isVerified with
      | true => exact Or.inl ⟨.alreadyVerified, by simp [verified]⟩
      | false => exact Or.inr ⟨user, rfl, by simp [verified]⟩

theorem updateUser_cases {id : ObjectId} {body : UpdateBody} {after : Collection User}
    (updated : updateUser cipher users id body = .ok after) :
    (users.findById? id = none ∧ after = users) ∨
    ∃ user, users.findById? id = some user ∧
      usernameFree users ((body.change cipher).apply user) ∧
      after = users.update id (body.change cipher) := by
  unfold updateUser at updated
  split at updated
  case h_1 missing =>
      cases updated
      exact Or.inl ⟨missing, rfl⟩
  case h_2 user found =>
      simp only [bind_eq_ok_iff, require_eq_ok_iff, pure_eq_ok_iff] at updated
      obtain ⟨-, free, rfl⟩ := updated
      exact Or.inr ⟨user, found, free, rfl⟩

/-- A request that the validator refuses changes nothing. -/
theorem respond_cases (cipher : Cipher) (isEmail : String → Bool) (users : Collection User)
    (request : Request) :
    respond cipher isEmail users request = ⟨users, .rejected, none⟩ ∨
      (request.accepted isEmail = true ∧
        respond cipher isEmail users request = serve cipher users request) := by
  unfold respond
  split
  case isTrue accepted => exact Or.inr ⟨accepted, rfl⟩
  case isFalse => exact Or.inl rfl

theorem verify_token {body : VerifyBody} {token : Token} {message : String} {profile : Profile}
    (answered : (verify users body).reply = .token token message profile) :
    ∃ user, findByEmail? users body.email = some user ∧
      user.verificationCode = some body.verificationCode ∧ token = ⟨user.id, user.role⟩ := by
  rcases verify_cases users body with ⟨failure, failed⟩ | ⟨user, _, _, found, right, issued⟩
  · rw [failed] at answered
    cases answered
  · rw [issued] at answered
    cases answered
    exact ⟨user, found, right, rfl⟩

/-- Only `login` and `verify` answer with a token. -/
theorem respond_token {isEmail : String → Bool} {request : Request} {token : Token}
    {message : String} {profile : Profile}
    (answered : (respond cipher isEmail users request).reply = .token token message profile) :
    (∃ body, request = .login body ∧ login cipher users body = .token token message profile) ∨
      ∃ body, request = .verify body ∧
        (verify users body).reply = .token token message profile := by
  rcases respond_cases cipher isEmail users request with rejected | ⟨-, served⟩
  · rw [rejected] at answered
    cases answered
  · rw [served] at answered
    cases request with
    | register id random body =>
        rcases register_cases cipher users id random body with
          ⟨failure, failed, -⟩ | ⟨user, -, -, after, -, saved⟩
        · rw [serve, failed] at answered
          cases answered
        · rw [serve, saved] at answered
          cases answered
    | login body => exact Or.inl ⟨body, rfl, answered⟩
    | verify body => exact Or.inr ⟨body, rfl, answered⟩
    | resend_verification_code random email =>
        rcases resend_cases users random email with ⟨failure, failed⟩ | ⟨user, -, sent⟩
        · rw [serve, failed] at answered
          cases answered
        · rw [serve, sent] at answered
          cases answered

end Specs

/-! ## A cipher and an email check for small examples -/

def plainCipher : Cipher := ⟨id, id, fun _ => rfl⟩

def hasAt (text : String) : Bool := text.toList.contains '@'

end Proximity.Accounts
