import Proximity.Models.Catalogue
import Proximity.Systems.Checks
import Proximity.Systems.Latch

/-!
# `localSendNotification`

The routine goes through the recipients with two flags that live outside its loop: one that an
email has been sent, one that a push notification is due at the end.
-/

namespace Proximity.Notifications

open Proximity.Systems Proximity.Models

/-! ## Settings of a user -/

structure NotificationSettings where
  orderNotifications : Option Bool
  offerNotification : Option Bool
  mail : Option Bool
  popup : Option Bool
  deriving DecidableEq, Repr

structure SendMode where
  mail : Option Bool
  popup : Option Bool
  deriving DecidableEq, Repr

structure OrderNotificationPolicy where
  sendMode : SendMode
  deriving DecidableEq, Repr

structure OrderPolicy where
  notification : OrderNotificationPolicy
  deriving DecidableEq, Repr

structure UserPolicy where
  order : Option OrderPolicy
  deriving DecidableEq, Repr

/-- The fields `notification` and `policy` of a user document.  A nested path is always there,
if only with empty leaves; `policy` and `policy.order` have schemas of their own and may be
missing. -/
structure Settings where
  notification : NotificationSettings
  policy : Option UserPolicy
  deriving DecidableEq, Repr

/-- `policy.order.notification.sendMode`, where a missing level is no value. -/
def Settings.sendMode? (settings : Settings) : Option SendMode :=
  settings.policy.bind fun policy => policy.order.map fun order => order.notification.sendMode

def truthy (flag : Option Bool) : Bool := flag.getD false

inductive Failure where
  | typeError
  | validation
  deriving DecidableEq, Repr

/-- `user.notification.mail || user.policy.order.notification.sendMode.mail`; a read of a field
of nothing throws. -/
def Settings.mails (settings : Settings) : Except Failure Bool :=
  if truthy settings.notification.mail then .ok true
  else
    match settings.sendMode? with
    | none => .error .typeError
    | some sendMode => .ok (truthy sendMode.mail)

/-- `user.email && user.email != ""`. -/
def addressed (user : User) : Bool := user.email.any fun email => decide (email ≠ "")

/-! ## Requests -/

structure Data where
  owners : List ObjectId
  type : String
  subType : String
  id : ObjectId
  deriving DecidableEq, Repr

/-- A call of the routine. -/
structure Request where
  title : String
  content : String
  data : Option Data
  deriving DecidableEq, Repr

/-- What the routine reads. -/
structure Directory where
  users : Collection User
  settings : ObjectId → Settings
  products : Collection Product

/-- A stored `Notification` document. -/
structure Notification where
  ownerId : ObjectId
  title : String
  content : String
  id : ObjectId
  type : String
  subType : String
  seend : Bool
  seendInList : Bool
  deriving DecidableEq, Repr

def types : List String := ["order", "offer"]

def subTypes : List String :=
  ["Delivery", "Pickup", "Reservation", "Return", "Refund", "Cancel", "offer", "product"]

/-- The `Notification` schema: a required text is not empty. -/
def Notification.valid (notification : Notification) : Bool :=
  decide (notification.title ≠ "") && decide (notification.content ≠ "") &&
    decide (notification.type ∈ types) && decide (notification.subType ∈ subTypes)

def draft (title content : String) (data : Data) (owner : ObjectId) : Notification where
  ownerId := owner
  title := title
  content := content
  id := data.id
  type := data.type
  subType := data.subType
  seend := false
  seendInList := false

/-! ## One recipient -/

/-- The email of an order notice: none, or one with the answer whether a popup is wanted too. -/
def orderMail (user : User) (settings : Settings) : Except Failure (Option Bool) :=
  match user.role with
  | .user =>
      if truthy settings.notification.orderNotifications then
        settings.mails.map fun mails =>
          if mails && addressed user then some (truthy settings.notification.popup) else none
      else .ok none
  | .seller =>
      match settings.sendMode? with
      | some sendMode =>
          if truthy sendMode.mail then
            settings.mails.map fun mails =>
              if mails && addressed user then some (truthy sendMode.popup) else none
          else .ok none
      | none => .ok none
  | _ => .ok none

/-- The email of an offer notice. -/
def offerMail (products : Collection Product) (id : ObjectId) (user : User)
    (settings : Settings) : Option Bool :=
  if truthy settings.notification.offerNotification = true ∧
      (products.findById? id).isSome = true ∧ truthy settings.notification.mail = true ∧
      addressed user = true then
    some (truthy settings.notification.popup)
  else none

def mail (directory : Directory) (data : Data) (owner : ObjectId) :
    Except Failure (Option Bool) :=
  match directory.users.findById? owner with
  | none => .ok none
  | some user =>
      if data.type = "order" then orderMail user (directory.settings owner)
      else if data.type = "offer" then
        .ok (offerMail directory.products data.id user (directory.settings owner))
      else .ok none

/-! ## The loop -/

structure Flags where
  sendNotification : Bool
  sendedNotification : Bool
  deriving DecidableEq, Repr

def Flags.lowered : Flags := ⟨false, false⟩

def Flags.after (flags : Flags) : Option Bool → Flags
  | some popup => ⟨flags.sendNotification || popup, true⟩
  | none => flags

/-- What a call has done when it ends, or when it throws. -/
structure Outcome where
  stored : List Notification
  pushed : Bool
  thrown : Option Failure
  deriving DecidableEq, Repr

def Outcome.storing (notification : Notification) (outcome : Outcome) : Outcome :=
  { outcome with stored := notification :: outcome.stored }

def notifyOwners (directory : Directory) (title content : String) (data : Data) :
    Flags → List ObjectId → Outcome
  | flags, [] => ⟨[], flags.sendNotification, none⟩
  | flags, owner :: rest =>
      match mail directory data owner with
      | .error failure => ⟨[], false, some failure⟩
      | .ok sent =>
          if (flags.after sent).sendedNotification then
            if (draft title content data owner).valid then
              (notifyOwners directory title content data (flags.after sent) rest).storing
                (draft title content data owner)
            else ⟨[], false, some .validation⟩
          else notifyOwners directory title content data (flags.after sent) rest

def localSendNotification (directory : Directory) (request : Request) : Outcome :=
  match request.data with
  | none => ⟨[], false, none⟩
  | some data =>
      notifyOwners directory request.title request.content data Flags.lowered data.owners

/-! ## Which settings make the routine throw -/

/-- An order notice reads a setting that is not there.  A seller is sent one only with a
`sendMode`, and breaks nothing. -/
def Breaks (user : User) (settings : Settings) : Prop :=
  user.role = .user ∧ truthy settings.notification.orderNotifications = true ∧
    truthy settings.notification.mail = false ∧ settings.sendMode? = none

instance (user : User) (settings : Settings) : Decidable (Breaks user settings) := by
  unfold Breaks
  infer_instance

section Mails

variable {settings : Settings} {user : User}

theorem mails_eq_error_iff {failure : Failure} :
    settings.mails = .error failure ↔
      failure = .typeError ∧ truthy settings.notification.mail = false ∧
        settings.sendMode? = none := by
  unfold Settings.mails
  cases truthy settings.notification.mail with
  | true => simp
  | false =>
      cases settings.sendMode? with
      | some sendMode => simp
      | none => simp [eq_comm]

theorem orderMail_eq_error_iff {failure : Failure} :
    orderMail user settings = .error failure ↔
      failure = .typeError ∧ Breaks user settings := by
  unfold orderMail Breaks
  cases user.role with
  | user =>
      dsimp only
      split
      case isTrue on =>
          rw [except_map_eq_error_iff, mails_eq_error_iff]
          simp [on]
      case isFalse off => simp [off]
  | seller =>
      dsimp only
      cases reached : settings.sendMode? with
      | none => simp
      | some sendMode =>
          dsimp only
          split
          case isTrue on =>
              rw [except_map_eq_error_iff, mails_eq_error_iff]
              simp [reached]
          case isFalse off => simp
  | admin => simp
  | coursier => simp

theorem mail_eq_error_iff {directory : Directory} {data : Data} {owner : ObjectId}
    {failure : Failure} :
    mail directory data owner = .error failure ↔ failure = .typeError ∧ data.type = "order" ∧
      ∃ user, directory.users.findById? owner = some user ∧
        Breaks user (directory.settings owner) := by
  unfold mail
  split
  case h_1 absent => simp [absent]
  case h_2 user there =>
      split
      case isTrue order => simp [orderMail_eq_error_iff, there, order]
      case isFalse other => split <;> simp [other]

end Mails

/-! ## Which notifications are stored -/

/-- The schema takes the notifications of the request. -/
def Storable (title content : String) (data : Data) : Prop :=
  title ≠ "" ∧ content ≠ "" ∧ data.type ∈ types ∧ data.subType ∈ subTypes

instance (title content : String) (data : Data) : Decidable (Storable title content data) := by
  unfold Storable
  infer_instance

theorem draft_valid_iff {title content : String} {data : Data} {owner : ObjectId} :
    (draft title content data owner).valid = true ↔ Storable title content data := by
  simp only [Notification.valid, Bool.and_eq_true, decide_eq_true_eq, and_assoc]
  exact Iff.rfl

/-- What a recipient does to the loop. -/
def verdict (directory : Directory) (data : Data) (owner : ObjectId) : Verdict :=
  match mail directory data owner with
  | .error _ => .stops
  | .ok (some _) => .raises
  | .ok none => .passes

theorem verdict_eq_stops_iff {directory : Directory} {data : Data} {owner : ObjectId} :
    verdict directory data owner = .stops ↔ data.type = "order" ∧
      ∃ user, directory.users.findById? owner = some user ∧
        Breaks user (directory.settings owner) := by
  have failed : verdict directory data owner = .stops ↔
      ∃ failure, mail directory data owner = .error failure := by
    unfold verdict
    split <;> simp [*]
  simp only [failed, mail_eq_error_iff, exists_eq_left]

section Loop

variable {directory : Directory} {title content : String} {data : Data}

/-- The loop stores a notification where its flag is up. -/
theorem notifyOwners_stored (storable : Storable title content data) (flags : Flags)
    (owners : List ObjectId) :
    (notifyOwners directory title content data flags owners).stored =
      (latched (verdict directory data) flags.sendedNotification owners).map
        (draft title content data) := by
  induction owners generalizing flags with
  | nil => rfl
  | cons owner rest ih =>
      have valid : (draft title content data owner).valid = true := draft_valid_iff.mpr storable
      rw [notifyOwners, latched]
      cases sent : mail directory data owner with
      | error failure => simp [verdict, sent]
      | ok answer =>
          cases answer with
          | some popup => simp [verdict, sent, Flags.after, valid, Outcome.storing, ih]
          | none =>
              cases up : flags.sendedNotification <;>
                simp [verdict, sent, Flags.after, up, valid, Outcome.storing, ih]

/-- A request that the schema takes fails only by a recipient's settings. -/
theorem notifyOwners_thrown_iff (storable : Storable title content data) (flags : Flags)
    (owners : List ObjectId) :
    (notifyOwners directory title content data flags owners).thrown ≠ none ↔
      ∃ owner ∈ owners, verdict directory data owner = .stops := by
  induction owners generalizing flags with
  | nil => simp [notifyOwners]
  | cons owner rest ih =>
      have valid : (draft title content data owner).valid = true := draft_valid_iff.mpr storable
      rw [notifyOwners, List.exists_mem_cons_iff]
      cases sent : mail directory data owner with
      | error failure => simp [verdict, sent]
      | ok answer =>
          have goes_on : verdict directory data owner ≠ .stops := by
            rw [verdict, sent]
            cases answer <;> exact nofun
          dsimp only
          rw [if_pos valid, or_iff_right goes_on, ← ih (flags.after answer)]
          split <;> rfl

theorem notifyOwners_stored_of_not_storable (refused : ¬ Storable title content data)
    (flags : Flags) (owners : List ObjectId) :
    (notifyOwners directory title content data flags owners).stored = [] := by
  induction owners generalizing flags with
  | nil => rfl
  | cons owner rest ih =>
      have invalid : ¬ (draft title content data owner).valid = true :=
        mt draft_valid_iff.mp refused
      unfold notifyOwners
      cases mail directory data owner with
      | error failure => rfl
      | ok sent =>
          dsimp only
          rw [if_neg invalid]
          split
          · rfl
          · exact ih (flags.after sent)

end Loop

end Proximity.Notifications
