import Proximity.Notifications.Service

/-!
# Whether a recipient's notification depends on the others

The flag that an email has been sent is never lowered, and a recipient whose settings make the
routine throw ends the loop.
-/

namespace Proximity.Notifications

open Proximity.Systems Proximity.Models

def Request.sentTo (request : Request) (owners : List ObjectId) : Request :=
  { request with data := request.data.map fun data => { data with owners := owners } }

/-- The call stores a notification of the recipient. -/
def Stores (directory : Directory) (request : Request) (recipient : ObjectId) : Prop :=
  recipient ∈ (localSendNotification directory request).stored.map Notification.ownerId

instance (directory : Directory) (request : Request) (recipient : ObjectId) :
    Decidable (Stores directory request recipient) :=
  inferInstanceAs (Decidable (recipient ∈ List.map Notification.ownerId _))

/-- For any two lists that have the recipient once, both calls store its notification or
neither does. -/
def RecipientIndependent (directory : Directory) (request : Request) (recipient : ObjectId) :
    Prop :=
  ∀ first second : List ObjectId, first.count recipient = 1 → second.count recipient = 1 →
    (Stores directory (request.sentTo first) recipient ↔
      Stores directory (request.sentTo second) recipient)

theorem stores_iff {directory : Directory} {request : Request} {data : Data}
    (sent : request.data = some data) (storable : Storable request.title request.content data)
    (owners : List ObjectId) (recipient : ObjectId) :
    Stores directory (request.sentTo owners) recipient ↔
      recipient ∈ latched (verdict directory data) false owners := by
  have reached : localSendNotification directory (request.sentTo owners) =
      notifyOwners directory request.title request.content { data with owners := owners }
        Flags.lowered owners := by
    simp only [localSendNotification, Request.sentTo, sent, Option.map_some]
  -- The verdicts do not read the list of the recipients.
  have moved : Storable request.title request.content { data with owners := owners } := storable
  have own : Notification.ownerId ∘
      draft request.title request.content { data with owners := owners } = id := rfl
  rw [Stores, reached, notifyOwners_stored moved, List.map_map, own, List.map_id]
  exact Iff.rfl

theorem not_stores_of_not_storable {directory : Directory} {request : Request}
    (refused : ∀ data, request.data = some data →
      ¬ Storable request.title request.content data)
    (owners : List ObjectId) (recipient : ObjectId) :
    ¬ Stores directory (request.sentTo owners) recipient := by
  have nothing : (localSendNotification directory (request.sentTo owners)).stored = [] := by
    unfold localSendNotification
    split
    case h_1 => rfl
    case h_2 data sent =>
        obtain ⟨before, present, rfl⟩ := Option.map_eq_some_iff.mp sent
        have moved : ¬ Storable request.title request.content
            { before with owners := owners } := refused before present
        exact notifyOwners_stored_of_not_storable moved Flags.lowered owners
  rw [Stores, nothing]
  exact List.not_mem_nil

/-- A recipient's notification is independent of the others exactly when no other recipient
disturbs its turn, or no notification of the request can be stored. -/
theorem recipientIndependent_iff (directory : Directory) (request : Request)
    (recipient : ObjectId) :
    RecipientIndependent directory request recipient ↔
      ∀ data, request.data = some data → Storable request.title request.content data →
        Undisturbed (verdict directory data) recipient := by
  by_cases storable : ∃ data, request.data = some data ∧
      Storable request.title request.content data
  · obtain ⟨data, sent, taken⟩ := storable
    have latch : RecipientIndependent directory request recipient ↔
        Independent (verdict directory data) recipient := by
      simp only [RecipientIndependent, Independent, stores_iff sent taken]
    rw [latch, independent_iff_undisturbed]
    constructor
    · intro undisturbed other other_sent _
      cases sent.symm.trans other_sent
      exact undisturbed
    · exact fun every => every data sent taken
  · have refused : ∀ data, request.data = some data →
        ¬ Storable request.title request.content data :=
      fun data sent taken => storable ⟨data, sent, taken⟩
    refine iff_of_true (fun first second _ _ => ?_)
      fun data sent taken => absurd taken (refused data sent)
    exact iff_of_false (not_stores_of_not_storable refused first recipient)
      (not_stores_of_not_storable refused second recipient)

/-! ## A client and an id without a user -/

def client : User where
  id := 1
  email := some "client@mail.com"
  phone := none
  username := some "client"
  password := ""
  role := .user
  isVerified := true
  welcome := true
  verificationCode := none

def oneClient : Directory where
  users := ⟨[client], List.nodup_singleton 1⟩
  settings _ := ⟨⟨some true, none, some true, none⟩, none⟩
  products := Collection.empty

def orderUpdated : Request where
  title := "Order Updated"
  content := "Your order has been updated [ 9 ]"
  data := some ⟨[], "order", "Delivery", 9⟩

/-- Alone, id 2 is stored no notification; after the client it is. -/
theorem orderUpdated_not_independent : ¬ RecipientIndependent oneClient orderUpdated 2 := by
  intro independent
  have same := independent [2] [1, 2] rfl rfl
  exact absurd same (by decide)

end Proximity.Notifications
