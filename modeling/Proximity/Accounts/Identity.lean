import Proximity.Accounts.Auth
import Proximity.Systems.Run

/-!
# One account for each identifier

Registrations run side by side, one database command at a time, next to updates
of users.  Emails, phones and usernames share one lookup, so a write keeps them
apart exactly when no other stored user bears an identifier that it brings, in
whichever of the three fields.
-/

namespace Proximity.Accounts.Identity

open Proximity.Systems Proximity.Models

/-- The next command of a running `register`. -/
inductive Registering where
  | findContact (id : ObjectId) (random : Nat) (body : RegisterBody)
  | findUsername (id : ObjectId) (random : Nat) (body : RegisterBody)
  | saveUser (user : User)
  | ended
  deriving DecidableEq, Repr

structure State where
  users : Collection User
  calls : List Registering

def State.initial : State := ⟨Collection.empty, []⟩

inductive Action where
  | register (id : ObjectId) (random : Nat) (body : RegisterBody)
  | proceed (index : Nat)
  | updateUser (id : ObjectId) (body : UpdateBody)
  deriving DecidableEq, Repr

section System

variable (cipher : Cipher) (isEmail : String → Bool)

/-- One command of a registration, and what it leaves to do. -/
def command? (users : Collection User) : Registering → Option (Collection User × Registering)
  | .findContact id random body =>
      some (users,
        match checkContact users body with
        | .ok _ => .findUsername id random body
        | .error _ => .ended)
  | .findUsername id random body =>
      some (users,
        match (checkUsername users body).bind fun _ => newUser cipher id random body with
        | .ok user => .saveUser user
        | .error _ => .ended)
  | .saveUser user =>
      match save users user with
      | .ok after => some (after, .ended)
      | .error _ => some (users, .ended)
  | .ended => none

def step? (source : State) : Action → Option State
  | .register id random body =>
      if body.accepted isEmail then
        some { source with calls := source.calls ++ [.findContact id random body] }
      else some source
  | .proceed index => do
      let call ← source.calls[index]?
      let next ← command? cipher source.users call
      return ⟨next.1, source.calls.set index next.2⟩
  | .updateUser id body =>
      if body.accepted isEmail then
        match updateUser cipher source.users id body with
        | .ok after => some { source with users := after }
        | .error _ => some source
      else some source

end System

/-! ## Identifiers -/

/-- The identifier is the email, the phone or the username of the user. -/
def Bears (user : User) (identifier : String) : Prop :=
  user.email = some identifier ∨ user.phone = some identifier ∨ user.username = some identifier

/-- No two users share an identifier of one kind, and the lookup of `login` finds
every user under each of its identifiers. -/
structure Identified (users : Collection User) : Prop where
  email : ∀ user ∈ users.docs, ∀ other ∈ users.docs, ∀ email, email ≠ "" →
    user.email = some email → other.email = some email → user = other
  phone : ∀ user ∈ users.docs, ∀ other ∈ users.docs, ∀ phone, phone ≠ "" →
    user.phone = some phone → other.phone = some phone → user = other
  username : ∀ user ∈ users.docs, ∀ other ∈ users.docs, ∀ username,
    user.username = some username → other.username = some username → user = other
  found : ∀ user ∈ users.docs, ∀ identifier, identifier ≠ "" → Bears user identifier →
    lookup? users identifier = some user

/-- No other stored user bears, in any field, an identifier that is brought. -/
def Apart (users : Collection User) (id : ObjectId) (Brought : String → Prop) : Prop :=
  ∀ other ∈ users.docs, other.id ≠ id → ∀ identifier, identifier ≠ "" → Brought identifier →
    ¬ Bears other identifier

def Brings (body : UpdateBody) (identifier : String) : Prop :=
  body.email = some identifier ∨ body.phone = some identifier ∨ body.username = some identifier

section Guard

variable (cipher : Cipher) (isEmail : String → Bool)

/-- A save or an update that goes through brings no identifier of another user. -/
def BringsApart (source : State) (action : Action) (_ : State) : Prop :=
  match action with
  | .register .. => True
  | .proceed index => ∀ user after, source.calls[index]? = some (.saveUser user) →
      save source.users user = .ok after → Apart source.users user.id (Bears user)
  | .updateUser id body => ∀ after, body.accepted isEmail = true →
      updateUser cipher source.users id body = .ok after →
      source.users.findById? id ≠ none → Apart source.users id (Brings body)

end Guard

/-! ## The lookup -/

theorem lookup?_isSome_of_bears {users : Collection User} {user : User}
    (stored : user ∈ users.docs) {identifier : String} (bears : Bears user identifier) :
    ∃ other, lookup? users identifier = some other := by
  rw [← Option.isSome_iff_exists]
  simp only [lookup?, Option.isSome_or, Bool.or_eq_true]
  rcases bears with email | phone | username
  · exact Or.inl (List.find?_isSome.mpr ⟨user, stored, by simpa using email⟩)
  · exact Or.inr (Or.inl (List.find?_isSome.mpr ⟨user, stored, by simpa using phone⟩))
  · exact Or.inr (Or.inr (List.find?_isSome.mpr ⟨user, stored, by simpa using username⟩))

theorem bears_of_lookup? {users : Collection User} {user : User} {identifier : String}
    (found : lookup? users identifier = some user) : Bears user identifier := by
  rcases Option.or_eq_some_iff.mp found with byEmail | ⟨-, rest⟩
  · exact Or.inl (findByEmail?_eq_some byEmail).2
  · rcases Option.or_eq_some_iff.mp rest with byPhone | ⟨-, byUsername⟩
    · exact Or.inr (Or.inl (by simpa using (Collection.findOne?_spec byPhone).2))
    · exact Or.inr (Or.inr (by simpa using (Collection.findOne?_spec byUsername).2))

/-- No two users share an identifier, whichever fields hold it. -/
def Separated (users : Collection User) : Prop :=
  ∀ user ∈ users.docs, ∀ other ∈ users.docs, ∀ identifier, identifier ≠ "" →
    Bears user identifier → Bears other identifier → user = other

theorem Identified.separated {users : Collection User} (identified : Identified users) :
    Separated users := by
  intro user stored other alsoStored identifier filled bears alsoBears
  have first := identified.found user stored identifier filled bears
  have second := identified.found other alsoStored identifier filled alsoBears
  exact Option.some.inj (first.symm.trans second)

theorem identified_of_separated {users : Collection User} (separated : Separated users)
    (usernames : ∀ user ∈ users.docs, ∀ other ∈ users.docs, ∀ username,
      user.username = some username → other.username = some username → user = other) :
    Identified users where
  email user stored other alsoStored email filled first second :=
    separated user stored other alsoStored email filled (Or.inl first) (Or.inl second)
  phone user stored other alsoStored phone filled first second :=
    separated user stored other alsoStored phone filled (Or.inr (Or.inl first))
      (Or.inr (Or.inl second))
  username := usernames
  found user stored identifier filled bears := by
    obtain ⟨other, looked⟩ := lookup?_isSome_of_bears stored bears
    rw [looked, separated other (lookup?_mem looked) user stored identifier filled
      (bears_of_lookup? looked) bears]

/-! ## One write -/

/-- The documents after a write of one document: it, and the others of before. -/
def Writes (users : Collection User) (written : User) (after : Collection User) : Prop :=
  ∀ user, user ∈ after.docs ↔ (user ∈ users.docs ∧ user.id ≠ written.id) ∨ user = written

/-- A write keeps the accounts identified exactly when no other stored user bears
an identifier of the written one. -/
theorem writes_identified_iff {users after : Collection User} {written : User}
    (identified : Identified users) (writes : Writes users written after)
    (free : usernameFree users written) :
    Identified after ↔ Apart users written.id (Bears written) := by
  constructor
  · intro next other stored different identifier filled brought borne
    have same := next.separated other ((writes other).mpr (Or.inl ⟨stored, different⟩)) written
      ((writes written).mpr (Or.inr rfl)) identifier filled borne brought
    exact different (congrArg User.id same)
  · intro apart
    refine identified_of_separated ?_ ?_
    · intro user stored other alsoStored identifier filled bears alsoBears
      rcases (writes user).mp stored with ⟨old, different⟩ | rfl
      · rcases (writes other).mp alsoStored with ⟨alsoOld, -⟩ | rfl
        · exact identified.separated user old other alsoOld identifier filled bears alsoBears
        · exact absurd bears (apart user old different identifier filled alsoBears)
      · rcases (writes other).mp alsoStored with ⟨alsoOld, different⟩ | rfl
        · exact absurd alsoBears (apart other alsoOld different identifier filled bears)
        · rfl
    · intro user stored other alsoStored username named alsoNamed
      rcases (writes user).mp stored with ⟨old, different⟩ | rfl
      · rcases (writes other).mp alsoStored with ⟨alsoOld, -⟩ | rfl
        · exact identified.username user old other alsoOld username named alsoNamed
        · exact absurd (named.trans alsoNamed.symm) (free user old different)
      · rcases (writes other).mp alsoStored with ⟨alsoOld, different⟩ | rfl
        · exact absurd (alsoNamed.trans named.symm) (free other alsoOld different)
        · rfl

theorem save_identified_iff {users after : Collection User} {user : User}
    (identified : Identified users) (saved : save users user = .ok after) :
    Identified after ↔ Apart users user.id (Bears user) := by
  obtain ⟨-, fresh, free, rfl⟩ := save_eq_ok_iff.mp saved
  refine writes_identified_iff identified (fun other => ?_) free
  rw [Collection.mem_insert]
  constructor
  · rintro (old | ⟨-, new⟩)
    · exact Or.inl ⟨old, Collection.findById?_eq_none_iff.mp fresh other old⟩
    · exact Or.inr new
  · rintro (⟨old, -⟩ | new)
    · exact Or.inl old
    · exact Or.inr ⟨fresh, new⟩

/-- An updated user bears what the update brings and some of what it bore before. -/
theorem bears_change {cipher : Cipher} {body : UpdateBody} {user : User} {identifier : String}
    (bears : Bears ((body.change cipher).apply user) identifier) :
    Brings body identifier ∨ Bears user identifier := by
  simp only [Bears, UpdateBody.change, Option.or_eq_some_iff] at bears
  rcases bears with (email | ⟨-, email⟩) | (phone | ⟨-, phone⟩) | username | ⟨-, username⟩
  · exact Or.inl (Or.inl email)
  · exact Or.inr (Or.inl email)
  · exact Or.inl (Or.inr (Or.inl phone))
  · exact Or.inr (Or.inr (Or.inl phone))
  · exact Or.inl (Or.inr (Or.inr username))
  · exact Or.inr (Or.inr (Or.inr username))

theorem bears_of_brings {cipher : Cipher} {body : UpdateBody} {user : User} {identifier : String}
    (brings : Brings body identifier) : Bears ((body.change cipher).apply user) identifier := by
  rcases brings with email | phone | username
  · exact Or.inl (by simp [UpdateBody.change, email])
  · exact Or.inr (Or.inl (by simp [UpdateBody.change, phone]))
  · exact Or.inr (Or.inr (by simp [UpdateBody.change, username]))

theorem updateUser_identified_iff {cipher : Cipher} {users after : Collection User}
    {id : ObjectId} {body : UpdateBody} (identified : Identified users)
    (updated : updateUser cipher users id body = .ok after) :
    Identified after ↔ (users.findById? id ≠ none → Apart users id (Brings body)) := by
  rcases updateUser_cases updated with ⟨missing, rfl⟩ | ⟨user, found, free, rfl⟩
  · exact iff_of_true identified fun stored => absurd missing stored
  · obtain ⟨stored, rfl⟩ := Collection.findById?_eq_some_iff.mp found
    have writes : Writes users ((body.change cipher).apply user)
        (users.update (Document.id user) (body.change cipher)) := by
      intro other
      rw [Collection.mem_update, found]
      simp [UpdateBody.change, eq_comm]
    refine (writes_identified_iff identified writes free).trans ⟨fun apart _ => ?_, fun apart => ?_⟩
    · intro other alsoStored different identifier filled brought
      exact apart other alsoStored different identifier filled (bears_of_brings brought)
    · intro other alsoStored different identifier filled bears borne
      rcases bears_change bears with brought | before
      · refine apart ?_ other alsoStored different identifier filled brought borne
        rw [found]
        exact Option.some_ne_none user
      · have same :=
          identified.separated other alsoStored user stored identifier filled borne before
        have sameId : other.id = user.id := by rw [same]
        exact different sameId

/-! ## Runs -/

section Runs

variable {cipher : Cipher} {isEmail : String → Bool}

theorem proceed_identified_iff {source target : State} {index : Nat}
    (identified : Identified source.users)
    (stepped : step? cipher isEmail source (.proceed index) = some target) :
    Identified target.users ↔ BringsApart cipher isEmail source (.proceed index) target := by
  obtain ⟨call, running, rest⟩ := Option.bind_eq_some_iff.mp stepped
  obtain ⟨⟨users, left⟩, commanded, reached⟩ := Option.bind_eq_some_iff.mp rest
  cases reached
  have idle (kept : users = source.users)
      (reads : ∀ user after, call = .saveUser user → save source.users user ≠ .ok after) :
      Identified users ↔ BringsApart cipher isEmail source (.proceed index)
        ⟨users, source.calls.set index left⟩ := by
    rw [kept]
    refine iff_of_true identified fun user after here saved => ?_
    rw [running] at here
    exact absurd saved (reads user after (Option.some.inj here))
  cases call with
  | findContact id random body =>
      cases commanded
      exact idle rfl fun _ _ other => by cases other
  | findUsername id random body =>
      cases commanded
      exact idle rfl fun _ _ other => by cases other
  | saveUser user =>
      cases saved : save source.users user with
      | ok after =>
          simp only [command?, saved, Option.some.injEq, Prod.mk.injEq] at commanded
          obtain ⟨rfl, -⟩ := commanded
          refine (save_identified_iff identified saved).trans ⟨fun apart => ?_, fun guard => ?_⟩
          · intro other others here alsoSaved
            rw [running] at here
            cases here
            exact apart
          · exact guard user after running saved
      | error failure =>
          simp only [command?, saved, Option.some.injEq, Prod.mk.injEq] at commanded
          refine idle commanded.1.symm fun other after same alsoSaved => ?_
          cases same
          rw [saved] at alsoSaved
          cases alsoSaved
  | ended => cases commanded

theorem update_identified_iff {source target : State} {id : ObjectId} {body : UpdateBody}
    (identified : Identified source.users)
    (stepped : step? cipher isEmail source (.updateUser id body) = some target) :
    Identified target.users ↔ BringsApart cipher isEmail source (.updateUser id body) target := by
  simp only [step?] at stepped
  split at stepped
  case isTrue accepted =>
      split at stepped
      case h_1 after updated =>
          cases stepped
          refine (updateUser_identified_iff identified updated).trans
            ⟨fun apart other _ _ stored => apart stored, fun guard stored => ?_⟩
          exact guard after accepted updated stored
      case h_2 failure failed =>
          cases stepped
          refine iff_of_true identified fun after _ updated _ => ?_
          rw [failed] at updated
          cases updated
  case isFalse refused =>
      cases stepped
      exact iff_of_true identified fun _ accepted _ _ => absurd accepted refused

theorem step_identified_iff {source target : State} {action : Action}
    (identified : Identified source.users)
    (stepped : step? cipher isEmail source action = some target) :
    Identified target.users ↔ BringsApart cipher isEmail source action target := by
  cases action with
  | register id random body =>
      simp only [step?] at stepped
      split at stepped
      case isTrue =>
          cases stepped
          exact iff_of_true identified trivial
      case isFalse =>
          cases stepped
          exact iff_of_true identified trivial
  | proceed index => exact proceed_identified_iff identified stepped
  | updateUser id body => exact update_identified_iff identified stepped

theorem identified_initial : Identified State.initial.users :=
  identified_of_separated (fun _ stored => absurd stored List.not_mem_nil)
    (fun _ stored => absurd stored List.not_mem_nil)

end Runs

/-- In every interleaving of registrations and updates, accounts stay identified
exactly as long as no write brings an identifier of another stored user. -/
theorem identified_iff_bringsApart (cipher : Cipher) (isEmail : String → Bool)
    (actions : List Action) :
    Always (step? cipher isEmail) (fun state => Identified state.users) State.initial actions ↔
      EveryStep (step? cipher isEmail) (BringsApart cipher isEmail) State.initial actions := by
  refine always_iff_everyStep ?_ identified_initial
  intro source action target identified stepped
  exact step_identified_iff identified stepped

/-! ## A phone that two clients share -/

def joins (id : ObjectId) (email username : String) : Action :=
  .register id 1234 ⟨some email, some "0612345678", username, "secret1", "secret1", .user, none⟩

/-- Two clients register one after the other, with one phone number. -/
def sharedPhone : List Action :=
  [joins 1 "first@proximity.fr" "first", .proceed 0, .proceed 0, .proceed 0] ++
    [joins 2 "second@proximity.fr" "second", .proceed 1, .proceed 1, .proceed 1]

/-- The phone of a body that has an email is not looked up. -/
theorem sharedPhone_not_identified :
    ¬ Always (step? plainCipher hasAt) (fun state => Identified state.users) State.initial
      sharedPhone := by
  intro always
  have stored : (run? (step? plainCipher hasAt) State.initial sharedPhone).any (fun final =>
      decide (final.users.docs.map (fun user => (user.id, user.phone)) =
        [(1, some "0612345678"), (2, some "0612345678")])) = true := by decide +kernel
  obtain ⟨final, reached, phones⟩ := (Option.any_eq_true _ _).mp stored
  have both : ∀ pair ∈ [(1, some "0612345678"), (2, some "0612345678")],
      ∃ user ∈ final.users.docs, (user.id, user.phone) = pair := by
    intro pair member
    rw [← of_decide_eq_true phones] at member
    exact List.mem_map.mp member
  obtain ⟨first, hasFirst, isFirst⟩ := both _ (List.mem_cons_self ..)
  obtain ⟨second, hasSecond, isSecond⟩ := both (2, some "0612345678") (by simp)
  have same := (always.target reached).phone first hasFirst second hasSecond "0612345678"
    (by decide) (congrArg Prod.snd isFirst) (congrArg Prod.snd isSecond)
  rw [same, isSecond] at isFirst
  exact absurd isFirst (by decide)

end Proximity.Accounts.Identity
