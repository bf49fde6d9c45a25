import Mathlib.Logic.Function.Basic
import Proximity.ResetPassword.Service
import Proximity.Systems.Run

/-!
# Who gets a token

Next to the stored users the state remembers the last verification code sent to
each account and whether it has been used.  A token is justified by the
account's password, or by that code when it is used for the first time.
-/

namespace Proximity.Accounts.Issuance

open Proximity.Systems Proximity.Models

/-- The last code sent to an account. -/
structure Sent where
  code : String
  used : Bool
  deriving DecidableEq, Repr

structure State where
  users : Collection User
  sent : ObjectId → Option Sent

def State.initial : State := ⟨Collection.empty, fun _ => none⟩

/-- A reset is its last command, which changes the password; it may come at any time. -/
inductive Action where
  | request (request : Request)
  | resetPassword (id : ObjectId) (password : String)
  | updateUser (id : ObjectId) (body : UpdateBody)
  | deleteUser (id : ObjectId)
  deriving DecidableEq, Repr

/-- The codes sent, after one that went out. -/
def deliver (sent : ObjectId → Option Sent) : Option Mail → ObjectId → Option Sent
  | none => sent
  | some mail => Function.update sent mail.user (some ⟨mail.code, false⟩)

/-- The codes sent, after `verify` answered with a token. -/
def spend (sent : ObjectId → Option Sent) : Request → Reply → ObjectId → Option Sent
  | .verify _, .token token _ _ =>
      Function.update sent token.id ((sent token.id).map fun last => { last with used := true })
  | _, _ => sent

/-- The id drawn for a new account is no stored one. -/
def drawsFresh (users : Collection User) : Request → Prop
  | .register id _ _ => users.findById? id = none
  | _ => True

instance (users : Collection User) (request : Request) : Decidable (drawsFresh users request) := by
  cases request <;> unfold drawsFresh <;> infer_instance

section System

variable (cipher : Cipher) (isEmail : String → Bool)

def step? (source : State) : Action → Option State
  | .request request =>
      if drawsFresh source.users request then
        let outcome := respond cipher isEmail source.users request
        some ⟨outcome.users, spend (deliver source.sent outcome.mailed) request outcome.reply⟩
      else none
  | .resetPassword id password =>
      some { source with
        users := source.users.update id (ResetPassword.setPassword cipher password) }
  | .updateUser id body =>
      if body.accepted isEmail then
        match updateUser cipher source.users id body with
        | .ok users => some { source with users := users }
        | .error _ => some source
      else some source
  | .deleteUser id => some { source with users := source.users.delete id }

/-- The request supplied the secret of the account its token is for. -/
def Justified (source : State) (token : Token) : Request → Prop
  | .login body => ∃ user ∈ source.users.docs, user.id = token.id ∧
      body.password = some (cipher.decrypt user.password) ∧ user.isVerified = true ∧
      user.role = body.role
  | .verify body => source.sent token.id = some ⟨body.verificationCode, false⟩
  | _ => False

/-- Every token the step answers with is justified. -/
def TokensJustified (source : State) (action : Action) (_ : State) : Prop :=
  ∀ request token message user, action = .request request →
    (respond cipher isEmail source.users request).reply = .token token message user →
    Justified cipher source token request

/-- A login does not raise the `google` flag, and `verify` is not asked for a code
that the account has used before. -/
def PresentsSecret (source : State) (action : Action) (_ : State) : Prop :=
  match action with
  | .request (.login body) => truthy body.google = false
  | .request (.verify body) => ∀ user, findByEmail? source.users body.email = some user →
      source.sent user.id ≠ some ⟨body.verificationCode, true⟩
  | _ => True

/-! ## The stored code is the code last sent -/

/-- A code for this user has an address to go to. -/
def Contactable (user : User) : Prop := ((nonEmpty user.email).or (nonEmpty user.phone)).isSome

structure Coherent (state : State) : Prop where
  contactable : ∀ user ∈ state.users.docs, Contactable user
  latest : ∀ user ∈ state.users.docs,
    user.verificationCode = (state.sent user.id).map Sent.code

theorem coherent_initial : Coherent State.initial where
  contactable := fun _ member => absurd member List.not_mem_nil
  latest := fun _ member => absurd member List.not_mem_nil

section Coherence

variable {cipher : Cipher} {isEmail : String → Bool}

theorem mail_of_contactable {user : User} (contactable : Contactable user) (random : Nat) :
    ∃ address, mail user random = some ⟨user.id, address, toString random⟩ := by
  obtain ⟨address, found⟩ := Option.isSome_iff_exists.mp contactable
  exact ⟨address, by rw [mail, found, Option.map_some]⟩

/-- A code sent to one account is not the last code sent to another. -/
theorem deliver_of_ne {sent : ObjectId → Option Sent} {mailed : Option Mail} {id other : ObjectId}
    (toward : ∀ went, mailed = some went → went.user = id) (different : other ≠ id) :
    deliver sent mailed other = sent other := by
  cases mailed with
  | none => rfl
  | some went =>
      obtain rfl := toward went rfl
      exact Function.update_of_ne different _ _

/-- Spending a code changes no code. -/
theorem spend_code (sent : ObjectId → Option Sent) (request : Request) (reply : Reply)
    (id : ObjectId) :
    (spend sent request reply id).map Sent.code = (sent id).map Sent.code := by
  unfold spend
  split
  case h_1 token message user =>
      by_cases same : id = token.id
      · subst same
        rw [Function.update_self, Option.map_map]
        rfl
      · rw [Function.update_of_ne same]
  case h_2 => rfl

theorem register_coherent {source : State} (coherent : Coherent source) {id : ObjectId}
    {random : Nat} {body : RegisterBody} (fresh : source.users.findById? id = none)
    (reply : Reply) :
    Coherent ⟨(register cipher source.users id random body).users,
      spend (deliver source.sent (register cipher source.users id random body).mailed)
        (.register id random body) reply⟩ := by
  have others : ∀ user ∈ source.users.docs, user.id ≠ id :=
    Collection.findById?_eq_none_iff.mp fresh
  rcases register_cases cipher source.users id random body with
    ⟨failure, -, same, toward⟩ | ⟨user, contact, built, after, saved, answered⟩
  · rw [same]
    refine ⟨coherent.contactable, fun user stored => ?_⟩
    rw [spend_code, deliver_of_ne toward (others user stored)]
    exact coherent.latest user stored
  · obtain ⟨hasId, hasEmail, hasPhone, -, -, hasCode⟩ := newUser_eq_ok built
    have contactable : Contactable user := by
      rw [Contactable, hasEmail, hasPhone]
      exact checkContact_eq_ok contact
    obtain ⟨address, mailed⟩ := mail_of_contactable contactable random
    obtain ⟨-, -, -, rfl⟩ := save_eq_ok_iff.mp saved
    rw [answered]
    refine ⟨fun other stored => ?_, fun other stored => ?_⟩
    · rcases Collection.mem_insert.mp stored with old | ⟨-, rfl⟩
      · exact coherent.contactable other old
      · exact contactable
    · have toward : ∀ went, mail user random = some went → went.user = id := by
        rw [mailed, ← hasId]
        rintro went ⟨⟩
        rfl
      rw [spend_code]
      rcases Collection.mem_insert.mp stored with old | ⟨-, rfl⟩
      · rw [deliver_of_ne toward (others other old)]
        exact coherent.latest other old
      · simp [mailed, deliver, hasCode]

theorem verify_coherent {source : State} (coherent : Coherent source) (body : VerifyBody) :
    Coherent ⟨(verify source.users body).users,
      spend (deliver source.sent (verify source.users body).mailed) (.verify body)
        (verify source.users body).reply⟩ := by
  rcases verify_cases source.users body with
    ⟨failure, answered⟩ | ⟨user, message, profile, -, -, answered⟩
  · rw [answered]
    exact coherent
  · rw [answered]
    refine ⟨?_, fun other stored => ?_⟩
    · exact Collection.forall_update coherent.contactable fun before there _ =>
        coherent.contactable before there
    · rw [spend_code]
      refine Collection.forall_update coherent.latest ?_ other stored
      exact fun before there _ => coherent.latest before there

theorem resend_coherent {source : State} (coherent : Coherent source) (random : Nat)
    (email : String) (reply : Reply) :
    Coherent ⟨(resend_verification_code source.users random email).users,
      spend (deliver source.sent (resend_verification_code source.users random email).mailed)
        (.resend_verification_code random email) reply⟩ := by
  rcases resend_cases source.users random email with
    ⟨failure, answered⟩ | ⟨user, found, answered⟩
  · rw [answered]
    exact ⟨coherent.contactable, fun user stored => by
      rw [spend_code]
      exact coherent.latest user stored⟩
  · obtain ⟨address, mailed⟩ :=
      mail_of_contactable (coherent.contactable user (lookup?_mem found)) random
    have toward : ∀ went, mail user random = some went → went.user = user.id := by
      rw [mailed]
      rintro went ⟨⟩
      rfl
    rw [answered]
    refine ⟨?_, fun other stored => ?_⟩
    · exact Collection.forall_update coherent.contactable fun before there _ =>
        coherent.contactable before there
    · rw [spend_code]
      rcases Collection.mem_update.mp stored with ⟨old, different⟩ | ⟨before, there, rfl⟩
      · exact (coherent.latest other old).trans
          (congrArg _ (deliver_of_ne toward different).symm)
      · have same : before.id = user.id := (Collection.findById?_eq_some_iff.mp there).2
        simp [mailed, deliver, setCode, same]

/-- An accepted update brings no empty email and no empty phone. -/
theorem filled_of_accepted {body : UpdateBody} (accepted : body.accepted isEmail = true) :
    (∀ email, body.email = some email → email ≠ "") ∧
      ∀ phone, body.phone = some phone → phone ≠ "" := by
  simp only [UpdateBody.accepted, Bool.and_eq_true] at accepted
  obtain ⟨⟨⟨emails, phones⟩, -⟩, -⟩ := accepted
  constructor
  · intro email given
    rw [given] at emails
    simp only [Option.all_some, Bool.and_eq_true, decide_eq_true_eq] at emails
    exact emails.1
  · rintro phone given rfl
    rw [given] at phones
    exact absurd phones (by decide)

theorem filled_or {given stored : Option String}
    (filled : ∀ text, given = some text → text ≠ "")
    (before : ∃ text, stored = some text ∧ text ≠ "") :
    ∃ text, given.or stored = some text ∧ text ≠ "" := by
  cases given with
  | none => exact before
  | some text => exact ⟨text, rfl, filled text rfl⟩

theorem updateUser_coherent {source : State} (coherent : Coherent source) {id : ObjectId}
    {body : UpdateBody} (accepted : body.accepted isEmail = true) {after : Collection User}
    (updated : updateUser cipher source.users id body = .ok after) :
    Coherent { source with users := after } := by
  rcases updateUser_cases updated with ⟨-, rfl⟩ | ⟨user, found, -, rfl⟩
  · exact coherent
  · refine ⟨?_, ?_⟩
    · refine Collection.forall_update coherent.contactable fun before there _ => ?_
      have contactable := coherent.contactable before there
      obtain ⟨newEmail, newPhone⟩ := filled_of_accepted accepted
      simp only [Contactable, Option.isSome_or, Bool.or_eq_true, nonEmpty_isSome] at contactable ⊢
      rcases contactable with hasEmail | hasPhone
      · exact Or.inl (filled_or newEmail hasEmail)
      · exact Or.inr (filled_or newPhone hasPhone)
    · exact Collection.forall_update coherent.latest fun before there _ =>
        coherent.latest before there

theorem resetPassword_coherent {source : State} (coherent : Coherent source) (id : ObjectId)
    (password : String) :
    Coherent { source with
      users := source.users.update id (ResetPassword.setPassword cipher password) } where
  contactable := Collection.forall_update coherent.contactable fun before there _ =>
    coherent.contactable before there
  latest := Collection.forall_update coherent.latest fun before there _ =>
    coherent.latest before there

theorem deleteUser_coherent {source : State} (coherent : Coherent source) (id : ObjectId) :
    Coherent { source with users := source.users.delete id } where
  contactable user stored := coherent.contactable user (Collection.mem_delete.mp stored).1
  latest user stored := coherent.latest user (Collection.mem_delete.mp stored).1

theorem step_coherent {source target : State} {action : Action} (coherent : Coherent source)
    (stepped : step? cipher isEmail source action = some target) : Coherent target := by
  cases action with
  | request request =>
      simp only [step?, Option.ite_none_right_eq_some, Option.some.injEq] at stepped
      obtain ⟨fresh, rfl⟩ := stepped
      rcases respond_cases cipher isEmail source.users request with rejected | ⟨-, served⟩
      · rw [rejected]
        exact ⟨coherent.contactable, fun user stored => by
          rw [spend_code]
          exact coherent.latest user stored⟩
      · rw [served]
        cases request with
        | register id random body => exact register_coherent coherent fresh _
        | login body => exact coherent
        | verify body => exact verify_coherent coherent body
        | resend_verification_code random email => exact resend_coherent coherent random email _
  | resetPassword id password =>
      cases stepped
      exact resetPassword_coherent coherent id password
  | updateUser id body =>
      simp only [step?] at stepped
      split at stepped
      case isTrue accepted =>
          split at stepped
          case h_1 after updated =>
              cases stepped
              exact updateUser_coherent coherent accepted updated
          case h_2 =>
              cases stepped
              exact coherent
      case isFalse =>
          cases stepped
          exact coherent
  | deleteUser id =>
      cases stepped
      exact deleteUser_coherent coherent id

end Coherence

/-! ## Tokens of guarded runs -/

section Tokens

variable {cipher : Cipher} {isEmail : String → Bool}

theorem login_justified {source : State} {body : LoginBody} (google : truthy body.google = false)
    {token : Token} {message : String} {profile : Profile}
    (answered : login cipher source.users body = .token token message profile) :
    Justified cipher source token (.login body) := by
  obtain ⟨user, stored, rfl, supplied, role, verified⟩ := login_token answered
  have password := supplied.resolve_left (by simp [google])
  exact ⟨user, stored, rfl, password, verified, role⟩

theorem verify_justified {source : State} (coherent : Coherent source) {body : VerifyBody}
    (unused : ∀ user, findByEmail? source.users body.email = some user →
      source.sent user.id ≠ some ⟨body.verificationCode, true⟩)
    {token : Token} {message : String} {profile : Profile}
    (answered : (verify source.users body).reply = .token token message profile) :
    Justified cipher source token (.verify body) := by
  obtain ⟨user, found, right, rfl⟩ := verify_token answered
  have latest := coherent.latest user (findByEmail?_eq_some found).1
  rw [right] at latest
  obtain ⟨⟨code, used⟩, last, rfl⟩ := Option.map_eq_some_iff.mp latest.symm
  cases used with
  | true => exact absurd last (unused user found)
  | false => exact last

theorem tokens_justified {source target : State} {action : Action} (coherent : Coherent source)
    (presents : PresentsSecret source action target) :
    TokensJustified cipher isEmail source action target := by
  rintro request token message profile rfl answered
  rcases respond_token answered with ⟨body, rfl, logged⟩ | ⟨body, rfl, verified⟩
  · exact login_justified presents logged
  · exact verify_justified coherent presents verified

end Tokens

/-- In every run without a raised `google` flag and without a code presented
twice, a token goes only to who supplied the password of its account, verified
and of the requested role, or the last code sent to it, for the first time. -/
theorem tokensJustified_of_presentsSecret (actions : List Action)
    (guarded : EveryStep (step? cipher isEmail) PresentsSecret State.initial actions) :
    EveryStep (step? cipher isEmail) (TokensJustified cipher isEmail) State.initial actions := by
  refine everyStep_of_invariant Coherent ?_ coherent_initial guarded
  intro source action target coherent stepped presents
  exact ⟨tokens_justified coherent presents, step_coherent coherent stepped⟩

end System

/-! ## A login with the `google` flag -/

def clientBody : RegisterBody where
  email := some "client@proximity.fr"
  phone := none
  username := "client"
  password := "secret1"
  password_confirmation := "secret1"
  role := .user
  google := none

/-- The client registers and verifies its account. -/
def clientJoins : List Action :=
  [.request (.register 1 1234 clientBody), .request (.verify ⟨"client@proximity.fr", "1234"⟩)]

def clientLogin : LoginBody := ⟨"client@proximity.fr", .user, some "secret1", none, none⟩

/-- Someone who knows only the email logs in. -/
def googleLogin : LoginBody := ⟨"client@proximity.fr", .user, none, some (.boolean true), none⟩

def repliesToken (cipher : Cipher) (isEmail : String → Bool) (source : State) (request : Request) :
    Bool :=
  match (respond cipher isEmail source.users request).reply with
  | .token .. => true
  | _ => false

theorem repliesToken_eq_true {cipher : Cipher} {isEmail : String → Bool} {source : State}
    {request : Request} (replied : repliesToken cipher isEmail source request = true) :
    ∃ token message user,
      (respond cipher isEmail source.users request).reply = .token token message user := by
  unfold repliesToken at replied
  split at replied
  case h_1 token message user answered => exact ⟨token, message, user, answered⟩
  case h_2 => cases replied

/-- A client that joined with a verified address logs in with its password. -/
def passwordLogin : List Action :=
  [.request (.register 1 1234 { clientBody with google := some (.boolean true) }),
    .request (.login clientLogin)]

theorem passwordLogin_justified :
    EveryStep (step? plainCipher hasAt) PresentsSecret State.initial passwordLogin ∧
      EveryStep (step? plainCipher hasAt) (TokensJustified plainCipher hasAt) State.initial
        passwordLogin := by
  have guarded : EveryStep (step? plainCipher hasAt) PresentsSecret State.initial passwordLogin :=
    fun _ _ => ⟨trivial, fun _ _ => ⟨rfl, trivial⟩⟩
  exact ⟨guarded, tokensJustified_of_presentsSecret plainCipher hasAt passwordLogin guarded⟩

/-- The raised flag is answered with a token, although no password was supplied. -/
theorem googleLogin_not_justified :
    ¬ EveryStep (step? plainCipher hasAt) (TokensJustified plainCipher hasAt) State.initial
      (clientJoins ++ [.request (.login googleLogin)]) := by
  intro every
  have issued : (run? (step? plainCipher hasAt) State.initial clientJoins).any (fun middle =>
      repliesToken plainCipher hasAt middle (.login googleLogin)) = true := by decide +kernel
  obtain ⟨middle, reached, replied⟩ := (Option.any_eq_true _ _).mp issued
  obtain ⟨token, message, profile, answered⟩ := repliesToken_eq_true replied
  have justified := every.of_run reached rfl (.login googleLogin) token message
    profile rfl answered
  obtain ⟨user, -, -, password, -⟩ := justified
  cases password

end Proximity.Accounts.Issuance
