import Proximity.ResetPassword.Service
import Proximity.Systems.Run

/-!
# Which codes change a password

A code is valid when it is the last one issued to its user, less than an hour
ago, and has changed no password.  The service goes by the document that holds
the code, so the two agree as long as the calls of one user do not overlap and
the document does not expire before the code.
-/

namespace Proximity.ResetPassword

open Proximity.Systems Proximity.Models Proximity.Accounts

/-- The token is the last code issued to the user, issued less than 60 minutes ago
and not used yet. -/
def Valid (state : State) (user : ObjectId) (token : String) : Prop :=
  ∃ issue, state.issued user = some issue ∧ issue.code = token ∧
    state.now < issue.time + lifetime ∧ issue.used = false

/-- A `resetPassword` call goes on to change the password exactly when its code is
valid, the code is still valid when the change is made, and nothing else changes
a user. -/
def ChangesExactly (source : State) (action : Action) (target : State) : Prop :=
  match action with
  | .proceed index =>
      match source.calls[index]? with
      | some (.lookupCode user token _) =>
          target.users = source.users ∧
            ((∃ id password, target.calls[index]? = some (.changePassword user id token password)) ↔
              Valid source user token)
      | some (.changePassword user _ token _) => Valid source user token
      | _ => target.users = source.users
  | _ => target.users = source.users

/-- What each command must find so that calls and expiry do not get in each
other's way. -/
def Settled (source : State) : Call → Prop
  | .insertCode code => source.codes.findOne? (ofUser code.userId) = none
  | .saveCode id _ => ∀ code ∈ source.codes.findById? id,
      ∀ issue ∈ source.issued code.userId, issue.used = false
  | .lookupCode user token body => body.confirmed = true ∧
      ∀ issue ∈ source.issued user,
        (issue.used = true → source.codes.findOne? (matching user token) = none) ∧
        (source.now < issue.createAt + lifetime ∨ issue.time + lifetime ≤ source.now)
  | .changePassword user id token _ =>
      (∃ code ∈ source.codes.docs, code.id = id ∧ matching user token code = true) ∧
        ∀ issue ∈ source.issued user, issue.used = false
  | _ => True

instance (source : State) (call : Call) : Decidable (Settled source call) := by
  cases call <;> unfold Settled <;> infer_instance

def SettledStep (source : State) (action : Action) (_ : State) : Prop :=
  match action with
  | .proceed index => ∀ call ∈ source.calls[index]?, Settled source call
  | _ => True

instance (source : State) (action : Action) (target : State) :
    Decidable (SettledStep source action target) := by
  cases action <;> unfold SettledStep <;> infer_instance

/-! ## The stored codes -/

/-- Every user has at most one stored code, which is the last one issued, and an
unused code is stored until its document expires. -/
structure Kept (now : Time) (codes : Collection ResetCode) (issued : ObjectId → Option Issue) :
    Prop where
  single : ∀ code ∈ codes.docs, ∀ other ∈ codes.docs, code.userId = other.userId → code = other
  latest : ∀ code ∈ codes.docs, ∃ issue, issued code.userId = some issue ∧
    issue.code = code.token ∧ issue.createAt = code.createAt
  stored : ∀ user issue, issued user = some issue → issue.used = false →
    now < issue.createAt + lifetime → ∃ code ∈ codes.docs, code.userId = user
  ordered : ∀ user issue, issued user = some issue → issue.createAt ≤ issue.time ∧ issue.time ≤ now

def Alive (now : Time) (codes : Collection ResetCode) : Prop :=
  ∀ code ∈ codes.docs, now < code.createAt + lifetime

/-- The call at an index has come to its end. -/
def Ended (calls : List Call) (index : Nat) : Prop := ∃ call ∈ calls[index]?, call.ended = true

/-- Codes are created by calls that have ended, and a pending deletion is of a
used code. -/
structure Running (now : Time) (codes : Collection ResetCode) (issued : ObjectId → Option Issue)
    (calls : List Call) : Prop where
  created : ∀ code ∈ codes.docs, Ended calls code.id
  building : ∀ (index : Nat) code, calls[index]? = some (.insertCode code) →
    code.id = index ∧ code.createAt ≤ now
  deleting : ∀ (index : Nat) id, calls[index]? = some (.deleteCode id) →
    Ended calls id ∧ ∀ code ∈ codes.docs, code.id = id →
      ∀ issue, issued code.userId = some issue → issue.used = true

structure Consistent (state : State) : Prop where
  kept : Kept state.now state.codes state.issued
  alive : Alive state.now state.codes
  running : Running state.now state.codes state.issued state.calls

theorem consistent_mk {now : Time} {users : Collection User} {codes : Collection ResetCode}
    {calls : List Call} {issued : ObjectId → Option Issue} (kept : Kept now codes issued)
    (alive : Alive now codes) (running : Running now codes issued calls) :
    Consistent ⟨now, users, codes, calls, issued⟩ := ⟨kept, alive, running⟩

theorem consistent_initial (now : Time) (users : Collection User) :
    Consistent (State.initial now users) where
  kept := by
    refine ⟨?_, ?_, ?_, ?_⟩
    · exact fun _ stored => absurd stored List.not_mem_nil
    · exact fun _ stored => absurd stored List.not_mem_nil
    · intro user issue last
      cases last
    · intro user issue last
      cases last
  alive := fun _ stored => absurd stored List.not_mem_nil
  running := by
    refine ⟨?_, ?_, ?_⟩
    · exact fun _ stored => absurd stored List.not_mem_nil
    · intro index code here
      cases here
    · intro index id here
      cases here

section Codes

variable {now later : Time} {codes : Collection ResetCode} {issued : ObjectId → Option Issue}

theorem alive_purge (now : Time) (codes : Collection ResetCode) : Alive now (purge now codes) := by
  intro code stored
  obtain ⟨-, young⟩ := Collection.mem_deleteMany.mp stored
  simpa using young

/-- Time passes, and what expires is deleted. -/
theorem kept_purge (kept : Kept now codes issued) (passes : now ≤ later) :
    Kept later (purge later codes) issued where
  single code stored other alsoStored :=
    kept.single code (Collection.mem_deleteMany.mp stored).1 other
      (Collection.mem_deleteMany.mp alsoStored).1
  latest code stored := kept.latest code (Collection.mem_deleteMany.mp stored).1
  stored user issue last unused young := by
    obtain ⟨code, there, owner⟩ :=
      kept.stored user issue last unused (Int.lt_of_le_of_lt passes young)
    obtain ⟨itsIssue, alsoLast, -, born⟩ := kept.latest code there
    rw [owner, last] at alsoLast
    cases alsoLast
    refine ⟨code, Collection.mem_deleteMany.mpr ⟨there, ?_⟩, owner⟩
    rw [← born]
    simpa using young
  ordered user issue last := by
    obtain ⟨first, second⟩ := kept.ordered user issue last
    exact ⟨first, Int.le_trans second passes⟩

/-- A fresh document for a user without one. -/
theorem kept_insert (kept : Kept now codes issued) {code : ResetCode}
    (alone : codes.findOne? (ofUser code.userId) = none)
    (fresh : codes.findById? code.id = none) (born : code.createAt ≤ now) :
    Kept now (codes.insert code)
      (Function.update issued code.userId (some ⟨code.token, now, code.createAt, false⟩)) := by
  have others : ∀ other ∈ codes.docs, other.userId ≠ code.userId := by
    intro other stored
    simpa [ofUser] using Collection.findOne?_eq_none_iff.mp alone other stored
  refine ⟨?_, ?_, ?_, ?_⟩
  · intro first stored second alsoStored same
    rcases Collection.mem_insert.mp stored with old | ⟨-, rfl⟩
    · rcases Collection.mem_insert.mp alsoStored with alsoOld | ⟨-, rfl⟩
      · exact kept.single first old second alsoOld same
      · exact absurd same (others first old)
    · rcases Collection.mem_insert.mp alsoStored with alsoOld | ⟨-, rfl⟩
      · exact absurd same.symm (others second alsoOld)
      · rfl
  · intro other stored
    rcases Collection.mem_insert.mp stored with old | ⟨-, rfl⟩
    · rw [Function.update_of_ne (others other old)]
      exact kept.latest other old
    · rw [Function.update_self]
      exact ⟨_, rfl, rfl, rfl⟩
  · intro user issue last unused young
    by_cases same : user = code.userId
    · exact ⟨code, Collection.mem_insert.mpr (Or.inr ⟨fresh, rfl⟩), same.symm⟩
    · rw [Function.update_of_ne same] at last
      obtain ⟨other, there, owner⟩ := kept.stored user issue last unused young
      exact ⟨other, Collection.mem_insert_of_mem code there, owner⟩
  · intro user issue last
    by_cases same : user = code.userId
    · rw [same, Function.update_self] at last
      cases last
      exact ⟨born, Int.le_refl now⟩
    · rw [Function.update_of_ne same] at last
      exact kept.ordered user issue last

/-- A new token in a stored document keeps the document's age. -/
theorem kept_save (kept : Kept now codes issued) {id : ObjectId} {code : ResetCode}
    (found : codes.findById? id = some code) (random : Nat) :
    Kept now (codes.update id (setToken random))
      (Function.update issued code.userId (some ⟨toString random, now, code.createAt, false⟩)) := by
  obtain ⟨there, named⟩ := Collection.findById?_eq_some_iff.mp found
  have others : ∀ other ∈ codes.docs, Document.id other ≠ id → other.userId ≠ code.userId := by
    intro other stored different same
    rw [kept.single other stored code there same] at different
    exact different named
  refine ⟨?_, ?_, ?_, ?_⟩
  · intro first stored second alsoStored same
    rcases (Collection.mem_update_of_found found).mp stored with ⟨old, elsewhere⟩ | rfl
    · rcases (Collection.mem_update_of_found found).mp alsoStored with ⟨alsoOld, -⟩ | rfl
      · exact kept.single first old second alsoOld same
      · exact absurd same (others first old elsewhere)
    · rcases (Collection.mem_update_of_found found).mp alsoStored with ⟨alsoOld, elsewhere⟩ | rfl
      · exact absurd same.symm (others second alsoOld elsewhere)
      · rfl
  · intro other stored
    rcases (Collection.mem_update_of_found found).mp stored with ⟨old, elsewhere⟩ | rfl
    · rw [Function.update_of_ne (others other old elsewhere)]
      exact kept.latest other old
    · exact ⟨_, Function.update_self .., rfl, rfl⟩
  · intro user issue last unused young
    by_cases same : user = code.userId
    · exact ⟨(setToken random).apply code,
        (Collection.mem_update_of_found found).mpr (Or.inr rfl), same.symm⟩
    · rw [Function.update_of_ne same] at last
      obtain ⟨other, stored, owner⟩ := kept.stored user issue last unused young
      refine ⟨other, Collection.mem_update.mpr (Or.inl ⟨stored, fun here => ?_⟩), owner⟩
      have known := Collection.findById?_eq_some_iff.mpr ⟨stored, here⟩
      rw [found] at known
      cases known
      exact same owner.symm
  · intro user issue last
    by_cases same : user = code.userId
    · rw [same, Function.update_self] at last
      cases last
      obtain ⟨itsIssue, itsLast, -, born⟩ := kept.latest code there
      obtain ⟨first, second⟩ := kept.ordered code.userId itsIssue itsLast
      exact ⟨by rw [← born]; exact Int.le_trans first second, Int.le_refl now⟩
    · rw [Function.update_of_ne same] at last
      exact kept.ordered user issue last

/-- A change with a code that is stored and unused spends the code. -/
theorem kept_spend (kept : Kept now codes issued) (user : ObjectId) (token : String) :
    Kept now codes (Function.update issued user ((issued user).map (Issue.spend token))) := by
  have before : ∀ owner issue,
      Function.update issued user ((issued user).map (Issue.spend token)) owner = some issue →
      ∃ old, issued owner = some old ∧ old.time = issue.time ∧ old.createAt = issue.createAt ∧
        (old.used = true → issue.used = true) := by
    intro owner issue last
    by_cases same : owner = user
    · rw [same, Function.update_self] at last
      obtain ⟨old, here, rfl⟩ := Option.map_eq_some_iff.mp last
      exact ⟨old, same ▸ here, rfl, rfl, fun used => by simp [Issue.spend, used]⟩
    · rw [Function.update_of_ne same] at last
      exact ⟨issue, last, rfl, rfl, id⟩
  refine ⟨kept.single, ?_, ?_, ?_⟩
  · intro code stored
    obtain ⟨issue, last, same, born⟩ := kept.latest code stored
    by_cases owner : code.userId = user
    · rw [← owner, Function.update_self, last]
      exact ⟨_, rfl, same, born⟩
    · rw [Function.update_of_ne owner]
      exact ⟨issue, last, same, born⟩
  · intro owner issue last unused young
    obtain ⟨old, itsLast, -, born, spent⟩ := before owner issue last
    refine kept.stored owner old itsLast ?_ (by rw [born]; exact young)
    by_contra used
    rw [spent (by simpa using used)] at unused
    cases unused
  · intro owner issue last
    obtain ⟨old, itsLast, issuedAt, born, -⟩ := before owner issue last
    rw [← issuedAt, ← born]
    exact kept.ordered owner old itsLast

/-- A deletion of a used code. -/
theorem kept_delete (kept : Kept now codes issued) {id : ObjectId}
    (spent : ∀ code ∈ codes.docs, code.id = id → ∀ issue, issued code.userId = some issue →
      issue.used = true) : Kept now (codes.delete id) issued where
  single code stored other alsoStored :=
    kept.single code (Collection.mem_delete.mp stored).1 other
      (Collection.mem_delete.mp alsoStored).1
  latest code stored := kept.latest code (Collection.mem_delete.mp stored).1
  stored user issue last unused young := by
    obtain ⟨code, there, owner⟩ := kept.stored user issue last unused young
    refine ⟨code, Collection.mem_delete.mpr ⟨there, fun here => ?_⟩, owner⟩
    rw [spent code there here issue (owner ▸ last)] at unused
    cases unused
  ordered := kept.ordered

end Codes

/-! ## The running calls -/

section Calls

variable {now later : Time} {codes codes' : Collection ResetCode}
  {issued issued' : ObjectId → Option Issue} {calls : List Call}

theorem ended_set {index other : Nat} {before after : Call} (found : calls[index]? = some before)
    (running : before.ended = false) (done : Ended calls other) :
    Ended (calls.set index after) other := by
  obtain ⟨call, here, ends⟩ := done
  refine ⟨call, ?_, ends⟩
  rw [List.getElem?_set_ne]
  · exact here
  · rintro rfl
    cases here.symm.trans found
    rw [running] at ends
    cases ends

/-- An index of the calls after one went on: its own, or another of before. -/
theorem getElem?_set_cases {index other : Nat} {after call : Call}
    (found : (calls.set index after)[other]? = some call) :
    (other = index ∧ call = after) ∨ calls[other]? = some call := by
  by_cases same : index = other
  · subst same
    rw [List.getElem?_set_self'] at found
    obtain ⟨_, -, rfl⟩ := Option.map_eq_some_iff.mp found
    exact Or.inl ⟨rfl, rfl⟩
  · rw [List.getElem?_set_ne same] at found
    exact Or.inr found

/-- The calls do not notice a change of codes and issues that brings no new
document and keeps used codes used. -/
theorem running_frame (running : Running now codes issued calls) (passes : now ≤ later)
    (docs : ∀ code ∈ codes'.docs, ∃ before ∈ codes.docs,
      before.id = code.id ∧ before.userId = code.userId)
    (used : ∀ code ∈ codes.docs, (∀ issue, issued code.userId = some issue → issue.used = true) →
      ∀ issue, issued' code.userId = some issue → issue.used = true) :
    Running later codes' issued' calls where
  created code stored := by
    obtain ⟨before, there, same, -⟩ := docs code stored
    rw [← same]
    exact running.created before there
  building index code here := by
    obtain ⟨own, born⟩ := running.building index code here
    exact ⟨own, Int.le_trans born passes⟩
  deleting index id here := by
    obtain ⟨done, spent⟩ := running.deleting index id here
    refine ⟨done, fun code stored same issue last => ?_⟩
    obtain ⟨before, there, sameId, owner⟩ := docs code stored
    rw [← owner] at last
    exact used before there (fun issue => spent before there (sameId.trans same) issue) issue last

/-- A call goes on, over the codes as they are. -/
theorem running_put (running : Running now codes issued calls) {index : Nat} {before after : Call}
    (found : calls[index]? = some before) (unended : before.ended = false)
    (building : ∀ code, after = .insertCode code → code.id = index ∧ code.createAt ≤ now)
    (deleting : ∀ id, after = .deleteCode id → Ended calls id ∧ ∀ code ∈ codes.docs, code.id = id →
      ∀ issue, issued code.userId = some issue → issue.used = true) :
    Running now codes issued (calls.set index after) where
  created code stored := ended_set found unended (running.created code stored)
  building other code here := by
    rcases getElem?_set_cases here with ⟨rfl, isNew⟩ | old
    · exact building code isNew.symm
    · exact running.building other code old
  deleting other id here := by
    rcases getElem?_set_cases here with ⟨rfl, isNew⟩ | old
    · obtain ⟨done, spent⟩ := deleting id isNew.symm
      exact ⟨ended_set found unended done, spent⟩
    · obtain ⟨done, spent⟩ := running.deleting other id old
      exact ⟨ended_set found unended done, spent⟩

/-- A call starts. -/
theorem running_start (running : Running now codes issued calls) {call : Call}
    (notBuilding : ∀ code, call ≠ .insertCode code) (notDeleting : ∀ id, call ≠ .deleteCode id) :
    Running now codes issued (calls ++ [call]) := by
  have kept : ∀ index, Ended calls index → Ended (calls ++ [call]) index := by
    rintro index ⟨earlier, here, ends⟩
    refine ⟨earlier, ?_, ends⟩
    rw [List.getElem?_append_left (List.getElem?_eq_some_iff.mp here).1]
    exact here
  have old : ∀ (index : Nat) other, (calls ++ [call])[index]? = some other →
      calls[index]? = some other ∨ other = call := by
    intro index other here
    rcases Nat.lt_or_ge index calls.length with inside | past
    · rw [List.getElem?_append_left inside] at here
      exact Or.inl here
    · rw [List.getElem?_append_right past] at here
      exact Or.inr (List.mem_singleton.mp (List.mem_of_getElem? here))
  refine ⟨?_, ?_, ?_⟩
  · exact fun code stored => kept code.id (running.created code stored)
  · intro index code here
    rcases old index _ here with before | isNew
    · exact running.building index code before
    · exact absurd isNew.symm (notBuilding code)
  · intro index id here
    rcases old index _ here with before | isNew
    · obtain ⟨done, spent⟩ := running.deleting index id before
      exact ⟨kept id done, spent⟩
    · exact absurd isNew.symm (notDeleting id)

/-- A call stores the document it built, and ends. -/
theorem running_insert (running : Running now codes issued calls) {index : Nat} {code : ResetCode}
    (found : calls[index]? = some (.insertCode code))
    (same : ∀ other ∈ codes.docs, issued' other.userId = issued other.userId) {after : Call}
    (ends : after.ended = true) :
    Running now (codes.insert code) issued' (calls.set index after) := by
  obtain ⟨own, -⟩ := running.building index code found
  have kept : ∀ other, Ended calls other → Ended (calls.set index after) other :=
    fun other => ended_set found rfl
  refine ⟨?_, ?_, ?_⟩
  · intro other stored
    rcases Collection.mem_insert.mp stored with old | ⟨-, rfl⟩
    · exact kept other.id (running.created other old)
    · refine ⟨after, ?_, ends⟩
      rw [own, List.getElem?_set_self (List.getElem?_eq_some_iff.mp found).1]
      rfl
  · intro other built here
    rcases getElem?_set_cases here with ⟨-, isNew⟩ | old
    · exact absurd isNew.symm (Call.ne_of_ended ends rfl)
    · exact running.building other built old
  · intro other id here
    rcases getElem?_set_cases here with ⟨-, isNew⟩ | old
    · exact absurd isNew.symm (Call.ne_of_ended ends rfl)
    · obtain ⟨done, spent⟩ := running.deleting other id old
      refine ⟨kept id done, fun stored there sameId issue last => ?_⟩
      rcases Collection.mem_insert.mp there with before | ⟨-, rfl⟩
      · rw [same stored before] at last
        exact spent stored before sameId issue last
      · obtain ⟨call, here, ended⟩ := done
        rw [← sameId, own, found] at here
        cases here
        cases ended

end Calls

/-! ## Commands -/

section Commands

variable {cipher : Cipher} {source target : State} {index : Nat}

/-- A call goes on to a point where it neither stores nor deletes a code. -/
theorem put_consistent (consistent : Consistent source) {before after : Call}
    (found : source.calls[index]? = some before) (unended : before.ended = false)
    (notBuilding : ∀ code, after ≠ .insertCode code) (notDeleting : ∀ id, after ≠ .deleteCode id) :
    Consistent (source.put index after) where
  kept := consistent.kept
  alive := consistent.alive
  running := running_put consistent.running found unended
    (fun code isNew => absurd isNew (notBuilding code))
    (fun id isNew => absurd isNew (notDeleting id))

theorem findCode_consistent (consistent : Consistent source) {user : ObjectId} {random : Nat}
    (found : source.calls[index]? = some (.findCode user random))
    (commanded : command? cipher source index (.findCode user random) = some target) :
    Consistent target := by
  simp only [command?] at commanded
  split at commanded
  case h_1 missing =>
      cases commanded
      refine ⟨consistent.kept, consistent.alive, running_put consistent.running found
        rfl ?_ (by simp)⟩
      rintro code ⟨⟩
      exact ⟨rfl, Int.le_refl _⟩
  case h_2 code stored =>
      cases commanded
      exact put_consistent consistent found rfl (by simp) (by simp)

theorem insertCode_consistent (consistent : Consistent source) {code : ResetCode}
    (found : source.calls[index]? = some (.insertCode code))
    (settled : Settled source (.insertCode code))
    (commanded : command? cipher source index (.insertCode code) = some target) :
    Consistent target := by
  simp only [command?] at commanded
  split at commanded
  case h_1 taken stored =>
      cases commanded
      exact put_consistent consistent found rfl (by simp) (by simp)
  case h_2 fresh =>
      cases commanded
      obtain ⟨-, born⟩ := consistent.running.building index code found
      have others : ∀ other ∈ source.codes.docs, other.userId ≠ code.userId := by
        intro other stored
        simpa [ofUser] using Collection.findOne?_eq_none_iff.mp settled other stored
      have same : ∀ other ∈ source.codes.docs, Function.update source.issued code.userId
          (some ⟨code.token, source.now, code.createAt, false⟩) other.userId =
          source.issued other.userId :=
        fun other stored => Function.update_of_ne (others other stored) _ _
      refine consistent_mk (kept_purge (kept_insert consistent.kept settled fresh born)
        (Int.le_refl _)) (alive_purge _ _) ?_
      have inserted := running_insert consistent.running found same
        (source.send_ended code.userId)
      refine running_frame inserted (Int.le_refl _) ?_ ?_
      · intro other stored
        exact ⟨other, (Collection.mem_deleteMany.mp stored).1, rfl, rfl⟩
      · exact fun _ _ used => used

theorem saveCode_consistent (consistent : Consistent source) {id : ObjectId} {random : Nat}
    (found : source.calls[index]? = some (.saveCode id random))
    (settled : Settled source (.saveCode id random))
    (commanded : command? cipher source index (.saveCode id random) = some target) :
    Consistent target := by
  simp only [command?] at commanded
  split at commanded
  case h_1 missing =>
      cases commanded
      exact put_consistent consistent found rfl (by simp) (by simp)
  case h_2 code stored =>
      cases commanded
      obtain ⟨there, -⟩ := Collection.findById?_eq_some_iff.mp stored
      obtain ⟨issue, last, -, -⟩ := consistent.kept.latest code there
      have used : ∀ other ∈ source.codes.docs,
          (∀ issue, source.issued other.userId = some issue → issue.used = true) →
          ∀ issue, Function.update source.issued code.userId
            (some ⟨toString random, source.now, code.createAt, false⟩) other.userId = some issue →
          issue.used = true := by
        intro other member spent
        by_cases same : other.userId = code.userId
        · rw [same] at spent
          have unused := settled code stored issue last
          rw [spent issue last] at unused
          cases unused
        · rw [Function.update_of_ne same]
          exact spent
      refine consistent_mk (kept_save consistent.kept stored random) ?_ ?_
      · exact Collection.forall_update consistent.alive fun before member _ =>
          consistent.alive before member
      · have ends := source.send_ended code.userId
        refine running_put (running_frame consistent.running (Int.le_refl _) ?_ used) found rfl
          (fun _ isNew => absurd isNew (Call.ne_of_ended ends rfl))
          (fun _ isNew => absurd isNew (Call.ne_of_ended ends rfl))
        exact Collection.forall_update (fun other member => ⟨other, member, rfl, rfl⟩)
          fun before member _ => ⟨before, member, rfl, rfl⟩

theorem lookupCode_consistent (consistent : Consistent source) {user : ObjectId} {token : String}
    {body : ResetBody} (found : source.calls[index]? = some (.lookupCode user token body))
    (commanded : command? cipher source index (.lookupCode user token body) = some target) :
    Consistent target := by
  simp only [command?] at commanded
  split at commanded
  case h_1 missing =>
      cases commanded
      exact put_consistent consistent found rfl (by simp) (by simp)
  case h_2 code stored =>
      split at commanded
      case isTrue =>
          cases commanded
          exact put_consistent consistent found rfl (by simp) (by simp)
      case isFalse =>
          cases commanded
          exact put_consistent consistent found rfl (by simp) (by simp)

theorem changePassword_consistent (consistent : Consistent source) {user id : ObjectId}
    {token password : String}
    (found : source.calls[index]? = some (.changePassword user id token password))
    (settled : Settled source (.changePassword user id token password))
    (commanded : command? cipher source index (.changePassword user id token password) =
      some target) : Consistent target := by
  cases commanded
  obtain ⟨⟨code, there, rfl, matched⟩, -⟩ := settled
  obtain ⟨rfl, rfl⟩ : code.token = token ∧ code.userId = user := of_decide_eq_true matched
  obtain ⟨issue, last, same, -⟩ := consistent.kept.latest code there
  have used : ∀ other ∈ source.codes.docs,
      (∀ issue, source.issued other.userId = some issue → issue.used = true) →
      ∀ issue, Function.update source.issued code.userId
        ((source.issued code.userId).map (Issue.spend code.token)) other.userId = some issue →
      issue.used = true := by
    intro other stored spent
    by_cases owner : other.userId = code.userId
    · rw [owner, Function.update_self, last]
      rintro issue ⟨⟩
      simp [Issue.spend, same]
    · rw [Function.update_of_ne owner]
      exact spent
  have nowUsed : ∀ other ∈ source.codes.docs, other.id = code.id →
      ∀ issue, Function.update source.issued code.userId
        ((source.issued code.userId).map (Issue.spend code.token)) other.userId = some issue →
      issue.used = true := by
    intro other stored sameId
    obtain rfl := Collection.eq_of_id_eq stored there sameId
    rw [Function.update_self, last]
    rintro issue ⟨⟩
    simp [Issue.spend, same]
  refine consistent_mk (kept_spend consistent.kept code.userId code.token) consistent.alive ?_
  refine running_put (running_frame consistent.running (Int.le_refl _)
    (fun other stored => ⟨other, stored, rfl, rfl⟩) used) found rfl (by simp) ?_
  rintro id ⟨⟩
  exact ⟨consistent.running.created code there, nowUsed⟩

theorem deleteCode_consistent (consistent : Consistent source) {id : ObjectId}
    (found : source.calls[index]? = some (.deleteCode id))
    (commanded : command? cipher source index (.deleteCode id) = some target) :
    Consistent target := by
  cases commanded
  obtain ⟨-, spent⟩ := consistent.running.deleting index id found
  refine ⟨kept_delete consistent.kept spent, fun code stored => ?_, ?_⟩
  · exact consistent.alive code (Collection.mem_delete.mp stored).1
  · exact running_put (running_frame consistent.running (Int.le_refl _)
      (fun code stored => ⟨code, (Collection.mem_delete.mp stored).1, rfl, rfl⟩)
      (fun _ _ used => used)) found rfl (by simp) (by simp)

/-! ## Exactness -/

/-- Over consistent codes a lookup finds the code of a user exactly when it is valid. -/
theorem lookup_iff_valid (consistent : Consistent source) {user : ObjectId} {token : String}
    {body : ResetBody} (settled : Settled source (.lookupCode user token body)) :
    (∃ code, source.codes.findOne? (matching user token) = some code) ↔
      Valid source user token := by
  obtain ⟨-, timely⟩ := settled
  constructor
  · rintro ⟨code, stored⟩
    obtain ⟨there, matched⟩ := Collection.findOne?_spec stored
    obtain ⟨rfl, rfl⟩ : code.token = token ∧ code.userId = user := of_decide_eq_true matched
    obtain ⟨issue, last, same, born⟩ := consistent.kept.latest code there
    obtain ⟨unspent, -⟩ := timely issue last
    obtain ⟨before, -⟩ := consistent.kept.ordered code.userId issue last
    refine ⟨issue, last, same, ?_, ?_⟩
    · have young := consistent.alive code there
      rw [← born] at young
      exact Int.lt_of_lt_of_le young (Int.add_le_add_right before lifetime)
    · by_contra used
      rw [unspent (by simpa using used)] at stored
      cases stored
  · rintro ⟨issue, last, same, young, unused⟩
    obtain ⟨-, inTime⟩ := timely issue last
    have fresh : source.now < issue.createAt + lifetime :=
      inTime.resolve_right (Int.not_le.mpr young)
    obtain ⟨code, there, owner⟩ := consistent.kept.stored user issue last unused fresh
    obtain ⟨itsIssue, itsLast, itsCode, -⟩ := consistent.kept.latest code there
    rw [owner, last] at itsLast
    cases itsLast
    refine Option.isSome_iff_exists.mp (List.find?_isSome.mpr ⟨code, there, ?_⟩)
    exact decide_eq_true ⟨itsCode.symm.trans same, owner⟩

/-- The change finds its code stored and unused, so the code is valid. -/
theorem change_valid (consistent : Consistent source) {user id : ObjectId}
    {token password : String} (settled : Settled source (.changePassword user id token password)) :
    Valid source user token := by
  obtain ⟨⟨code, there, -, matched⟩, unused⟩ := settled
  obtain ⟨rfl, rfl⟩ : code.token = token ∧ code.userId = user := of_decide_eq_true matched
  obtain ⟨issue, last, same, born⟩ := consistent.kept.latest code there
  obtain ⟨before, -⟩ := consistent.kept.ordered code.userId issue last
  refine ⟨issue, last, same, ?_, unused issue last⟩
  have young := consistent.alive code there
  rw [← born] at young
  exact Int.lt_of_lt_of_le young (Int.add_le_add_right before lifetime)

theorem lookupCode_exact (consistent : Consistent source) {user : ObjectId} {token : String}
    {body : ResetBody} (found : source.calls[index]? = some (.lookupCode user token body))
    (settled : Settled source (.lookupCode user token body))
    (commanded : command? cipher source index (.lookupCode user token body) = some target) :
    target.users = source.users ∧
      ((∃ id password, target.calls[index]? = some (.changePassword user id token password)) ↔
        Valid source user token) := by
  have inside := (List.getElem?_eq_some_iff.mp found).1
  rw [← lookup_iff_valid consistent settled]
  simp only [command?] at commanded
  split at commanded
  case h_1 missing =>
      cases commanded
      refine ⟨rfl, iff_of_false ?_ ?_⟩
      · rintro ⟨id, password, here⟩
        rw [State.put, List.getElem?_set_self inside] at here
        cases here
      · rintro ⟨code, stored⟩
        rw [missing] at stored
        cases stored
  case h_2 code stored =>
      rw [if_pos settled.1] at commanded
      cases commanded
      refine ⟨rfl, iff_of_true ⟨code.id, body.password, ?_⟩ ⟨code, stored⟩⟩
      exact List.getElem?_set_self inside

theorem command_exact (consistent : Consistent source) {call : Call}
    (found : source.calls[index]? = some call) (settled : Settled source call)
    (commanded : command? cipher source index call = some target) :
    ChangesExactly source (.proceed index) target ∧ Consistent target := by
  unfold ChangesExactly
  simp only [found]
  cases call with
  | findCode user random =>
      refine ⟨?_, findCode_consistent consistent found commanded⟩
      simp only [command?] at commanded
      split at commanded <;> cases commanded <;> rfl
  | insertCode code =>
      refine ⟨?_, insertCode_consistent consistent found settled commanded⟩
      simp only [command?] at commanded
      split at commanded <;> cases commanded <;> rfl
  | saveCode id random =>
      refine ⟨?_, saveCode_consistent consistent found settled commanded⟩
      simp only [command?] at commanded
      split at commanded <;> cases commanded <;> rfl
  | lookupCode user token body =>
      exact ⟨lookupCode_exact consistent found settled commanded,
        lookupCode_consistent consistent found commanded⟩
  | changePassword user id token password =>
      exact ⟨change_valid consistent settled,
        changePassword_consistent consistent found settled commanded⟩
  | deleteCode id =>
      refine ⟨?_, deleteCode_consistent consistent found commanded⟩
      cases commanded
      rfl
  | answered answer => cases commanded
  | failed => cases commanded

end Commands

/-! ## Runs -/

theorem start_consistent {source : State} (consistent : Consistent source) {call : Call}
    (notBuilding : ∀ code, call ≠ .insertCode code) (notDeleting : ∀ id, call ≠ .deleteCode id) :
    Consistent { source with calls := source.calls ++ [call] } where
  kept := consistent.kept
  alive := consistent.alive
  running := running_start consistent.running notBuilding notDeleting

theorem step_exact {cipher : Cipher} {source target : State} {action : Action}
    (consistent : Consistent source) (stepped : step? cipher source action = some target)
    (settled : SettledStep source action target) :
    ChangesExactly source action target ∧ Consistent target := by
  cases action with
  | requestResetPassword email random =>
      simp only [step?] at stepped
      split at stepped
      case h_1 =>
          cases stepped
          exact ⟨rfl, start_consistent consistent (by simp) (by simp)⟩
      case h_2 =>
          cases stepped
          exact ⟨rfl, start_consistent consistent (by simp) (by simp)⟩
  | resetPassword email token body =>
      simp only [step?] at stepped
      split at stepped
      case isTrue =>
          split at stepped
          case h_1 =>
              cases stepped
              exact ⟨rfl, start_consistent consistent (by simp) (by simp)⟩
          case h_2 =>
              cases stepped
              exact ⟨rfl, start_consistent consistent (by simp) (by simp)⟩
      case isFalse =>
          cases stepped
          exact ⟨rfl, consistent⟩
  | proceed index =>
      obtain ⟨call, found, commanded⟩ := Option.bind_eq_some_iff.mp stepped
      exact command_exact consistent found (settled call found) commanded
  | tick now =>
      simp only [step?, Option.ite_none_right_eq_some, Option.some.injEq] at stepped
      obtain ⟨passes, rfl⟩ := stepped
      refine ⟨rfl, kept_purge consistent.kept passes, alive_purge now source.codes, ?_⟩
      refine running_frame consistent.running passes ?_ (fun _ _ used => used)
      intro code stored
      exact ⟨code, (Collection.mem_deleteMany.mp stored).1, rfl, rfl⟩

/-- In every interleaving whose commands find the codes settled, a reset changes
the password exactly when it presents a valid code. -/
theorem changesExactly_of_settled (cipher : Cipher) (now : Time) (users : Collection User)
    (actions : List Action)
    (guarded : EveryStep (step? cipher) SettledStep (State.initial now users) actions) :
    EveryStep (step? cipher) ChangesExactly (State.initial now users) actions := by
  refine everyStep_of_invariant Consistent ?_ (consistent_initial now users) guarded
  intro source action target consistent stepped settled
  exact step_exact consistent stepped settled

/-! ## A code that expires early -/

def client : User :=
  ⟨1, some "client@proximity.fr", none, some "client", "secret1", .user, true, false, none⟩

def clients : Collection User := ⟨[client], by decide⟩

def requests (random : Nat) : Action := .requestResetPassword "client@proximity.fr" random

def resets (token : String) : Action :=
  .resetPassword "client@proximity.fr" token ⟨"secret2", "secret2"⟩

/-- The client asks for a code and resets its password. -/
def promptReset : List Action :=
  [requests 1234, .proceed 0, .proceed 0, .tick 600000, resets "1234", .proceed 1, .proceed 1,
    .proceed 1]

theorem promptReset_exact :
    EveryStep (step? plainCipher) SettledStep (State.initial 0 clients) promptReset ∧
    EveryStep (step? plainCipher) ChangesExactly (State.initial 0 clients) promptReset := by
  have guarded : EveryStep (step? plainCipher) SettledStep (State.initial 0 clients)
      promptReset := by decide +kernel
  exact ⟨guarded, changesExactly_of_settled plainCipher 0 clients promptReset guarded⟩

/-- The client asks for a second code after 50 minutes, and uses it 20 minutes later. -/
def lateReset : List Action :=
  [requests 1234, .proceed 0, .proceed 0, .tick 3000000, requests 5678, .proceed 1, .proceed 1,
    .tick 4200000, resets "5678"]

/-- The second code is valid, but it went into the document of the first one. -/
theorem lateReset_not_exact :
    ¬ EveryStep (step? plainCipher) ChangesExactly (State.initial 0 clients)
      (lateReset ++ [.proceed 2]) := by
  intro every
  have expired : (run? (step? plainCipher) (State.initial 0 clients) lateReset).any (fun late =>
      decide (late.now = 4200000 ∧ late.issued 1 = some ⟨"5678", 3000000, 0, false⟩ ∧
        late.codes.docs = [] ∧
        late.calls[2]? = some (.lookupCode 1 "5678" ⟨"secret2", "secret2"⟩))) = true := by
    decide +kernel
  obtain ⟨late, reached, facts⟩ := (Option.any_eq_true _ _).mp expired
  obtain ⟨now, issued, gone, looking⟩ := of_decide_eq_true facts
  have valid : Valid late 1 "5678" :=
    ⟨_, issued, rfl, by rw [now]; decide, rfl⟩
  have missing : late.codes.findOne? (matching 1 "5678") = none := by
    rw [Collection.findOne?, gone]
    rfl
  have refused : step? plainCipher late (.proceed 2) =
      some (late.put 2 (.answered ⟨false, "the token does not exist", none⟩)) := by
    simp [step?, command?, looking, missing]
  have exactly := every.of_run reached refused
  simp only [ChangesExactly, looking] at exactly
  obtain ⟨id, password, goesOn⟩ := exactly.2.mpr valid
  rw [State.put, List.getElem?_set_self (List.getElem?_eq_some_iff.mp looking).1] at goesOn
  cases goesOn

end Proximity.ResetPassword
