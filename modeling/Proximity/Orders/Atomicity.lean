import Proximity.Notifications.Service
import Proximity.Orders.Changes

/-!
# Failed order operations

The document is written before the user is notified, and the notification reads settings that
the user need not have.
-/

namespace Proximity.Orders

open Proximity.Systems Proximity.Models Proximity.Notifications

/-- The stored data of a call; `updatedAt` is the timestamp of each order. -/
structure World where
  database : Database
  updatedAt : ObjectId → Time
  settings : ObjectId → Settings
  products : Collection Product
  notifications : List Notification

namespace World

variable (world : World)

/-- The order's document with its timestamp. -/
def document (id : ObjectId) : Option Order × Time :=
  (world.database.orders.findById? id, world.updatedAt id)

def directory : Directory where
  users := world.database.users
  settings := world.settings
  products := world.products

end World

def written : Write Order → ObjectId
  | .insert order => order.id
  | .update id _ => id
  | .delete id => id

def World.write (world : World) (now : Time) (writes : List (Write Order)) : World :=
  { world with
    database := { world.database with orders := Write.applyAll world.database.orders writes }
    updatedAt := fun id => if id ∈ writes.map written then now else world.updatedAt id }

def Notice.request (notice : Notice) : Notifications.Request where
  title := notice.title
  content := notice.content
  data := some ⟨[notice.owner], "order", notice.subType, notice.order⟩

inductive Thrown where
  | refused (failure : Failure)
  | notNotified (failure : Notifications.Failure)
  deriving DecidableEq, Repr

/-- The notices in turn, up to the first that throws. -/
def notify (world : World) : List Notice → World × Option Thrown
  | [] => (world, none)
  | notice :: rest =>
      match localSendNotification world.directory notice.request with
      | ⟨stored, _, some failure⟩ =>
          ({ world with notifications := world.notifications ++ stored },
            some (.notNotified failure))
      | ⟨stored, _, none⟩ =>
          notify { world with notifications := world.notifications ++ stored } rest

/-- A whole call: the checks, the write and the notice. -/
def perform (world : World) (now : Time) (call : Call) : World × Option Thrown :=
  match respond world.database call.operation with
  | .error failure => (world, some (.refused failure))
  | .ok effect => notify (world.write now effect.writes) effect.notices

/-- A failed call leaves every document as it was. -/
def Atomic (world : World) (now : Time) (call : Call) : Prop :=
  (perform world now call).2 ≠ none →
    ∀ id, (perform world now call).1.document id = world.document id

/-! ## Whom a call notifies -/

def Call.notified? (database : Database) (order : Order) : Call → Option ObjectId
  | .updateOrdersStatus _ _ | .refundOrders _ => some order.clientId
  | .returnOrders _ => (database.stores.findById? order.storeId).map Store.sellerId
  | .cancelOrders body =>
      if body.userId = some order.clientId then some order.clientId
      else (database.stores.findById? order.storeId).map Store.sellerId

/-- The user that the call notifies has settings that make the notice throw. -/
def NoticeBreaks (world : World) (call : Call) (order : Order) : Prop :=
  ∃ owner, call.notified? world.database order = some owner ∧
    ∃ user, world.database.users.findById? owner = some user ∧ Breaks user (world.settings owner)

theorem updateSubType_mem (order : Order) : updateSubType order ∈ subTypes := by
  unfold updateSubType
  split
  · decide
  · split
    · decide
    · split <;> decide

/-- The schema takes the notice. -/
structure Notice.Filled (notice : Notice) : Prop where
  title : notice.title ≠ ""
  content : notice.content ≠ ""
  subType : notice.subType ∈ subTypes

theorem bracketed_ne_empty (text : String) : text ++ " ]" ≠ "" := by
  intro empty
  exact absurd (String.append_eq_empty_iff.mp empty).2 (by decide)

/-- A call that writes sends one notice, which the schema takes. -/
theorem answered_notices {database : Database} {call : Call} {effect : Effect}
    (answered : respond database call.operation = .ok effect) :
    effect = Effect.nothing ∨ ∃ order change notice owner,
      database.order? call.orderId = some order ∧ call.change? = some change ∧
      effect = ⟨[.update order.id change.update], [notice]⟩ ∧
      call.notified? database order = some owner ∧ notice.owner = owner ∧ notice.Filled := by
  cases call with
  | updateOrdersStatus id body =>
      rcases updateOrdersStatus_cases answered with
        ⟨-, rfl⟩ | ⟨_, _, status, order, rfl, -, -, given, named, rfl⟩
      · exact Or.inl rfl
      · exact Or.inr ⟨order, .status status, _, _, named, by rw [Call.change?, given]; rfl, rfl,
          rfl, rfl, (by decide : "Order Updated" ≠ ""), bracketed_ne_empty _,
          updateSubType_mem order⟩
  | returnOrders body =>
      rcases returnOrders_cases answered with
        ⟨-, rfl⟩ | ⟨_, order, items, permitted, -, named, parsed, -, allowed, -, rfl⟩
      · exact Or.inl rfl
      · exact Or.inr ⟨order, .return items body.motif, _, permitted.2.sellerId, named,
          returnOrders_change? parsed, rfl,
          by rw [Call.notified?, (permitted_spec allowed).2.1]; rfl, rfl,
          (by decide : "Return Request" ≠ ""), bracketed_ne_empty _,
          (by decide : "Return" ∈ subTypes)⟩
  | refundOrders body =>
      rcases refundOrders_cases answered with
        ⟨-, rfl⟩ | ⟨_, order, items, _, -, named, parsed, -, -, -, rfl⟩
      · exact Or.inl rfl
      · exact Or.inr ⟨order, .refund items, _, _, named, refundOrders_change? parsed, rfl,
          rfl, rfl, (by decide : "Refund" ≠ ""), bracketed_ne_empty _,
          (by decide : "Refund" ∈ subTypes)⟩
  | cancelOrders body =>
      rcases cancelOrders_cases answered with
        ⟨-, rfl⟩ | ⟨userId, order, permitted, given, named, allowed, rfl⟩
      · exact Or.inl rfl
      · rw [(permitted_spec allowed).1]
        refine Or.inr ⟨order, .cancel userId body.motif, _, _, named,
          by rw [Call.change?, given]; rfl, rfl, ?_, rfl,
          (by decide : "Order Canceled" ≠ ""), bracketed_ne_empty _,
          (by decide : "Cancel" ∈ subTypes)⟩
        rw [Call.notified?, (permitted_spec allowed).2.1, given]
        simp only [Option.some.injEq, Option.map_some]
        split <;> rfl

/-! ## When a failed call has left its mark -/

theorem notify_singleton (world : World) (notice : Notice) :
    (notify world [notice]).1.database = world.database ∧
      (notify world [notice]).1.updatedAt = world.updatedAt ∧
      ((notify world [notice]).2 ≠ none ↔
        (localSendNotification world.directory notice.request).thrown ≠ none) := by
  unfold notify
  split
  case h_1 failed => simp [failed]
  case h_2 went => simp [went, notify]

/-- A filled notice throws exactly when its owner's settings break it. -/
theorem notice_thrown_iff {world : World} {notice : Notice} (filled : notice.Filled) :
    (localSendNotification world.directory notice.request).thrown ≠ none ↔
      ∃ user, world.database.users.findById? notice.owner = some user ∧
        Breaks user (world.settings notice.owner) := by
  have storable : Storable notice.title notice.content
      ⟨[notice.owner], "order", notice.subType, notice.order⟩ :=
    ⟨filled.title, filled.content, List.mem_cons_self, filled.subType⟩
  refine (notifyOwners_thrown_iff storable Flags.lowered [notice.owner]).trans ?_
  simp only [List.mem_singleton, exists_eq_left, verdict_eq_stops_iff, true_and]
  exact Iff.rfl

/-- A written update leaves every document as it was only when it is the one already there. -/
theorem write_document_iff {world : World} {order : Order}
    (stored : world.database.orders.findById? order.id = some order) (update : Update Order)
    (now : Time) :
    (∀ id, (world.write now [.update order.id update]).document id = world.document id) ↔
      update.apply order = order ∧ now = world.updatedAt order.id := by
  have after : ∀ id, (world.write now [.update order.id update]).document id =
      if id = order.id then (some (update.apply order), now) else world.document id := by
    intro id
    simp only [World.document, World.write, Write.applyAll, List.foldl_cons, List.foldl_nil,
      Write.apply, Collection.findById?_update, stored, List.map_cons, List.map_nil, written,
      List.mem_singleton, Option.map_some]
    split <;> rfl
  simp only [after]
  constructor
  · intro kept
    have here := kept order.id
    rw [if_pos rfl, World.document, stored, Prod.mk.injEq, Option.some.injEq] at here
    exact here
  · rintro ⟨same, stamped⟩ id
    split
    case isTrue here => rw [here, World.document, stored, same, stamped]
    case isFalse => rfl

/-- The change and the timestamp are already in the document. -/
def AlreadyWritten (world : World) (now : Time) (order : Order) (change : Change) : Prop :=
  change.update.apply order = order ∧ now = world.updatedAt order.id

theorem not_accepted_of_nothing {database : Database} {call : Call} {order : Order}
    {change : Change} (nothing : writes database call.operation = []) :
    ¬ Accepted database call order change :=
  fun accepted => accepted.written nothing

/-- A failed call changes no document exactly when no accepted one has a notice that throws,
unless the document already was as the call writes it. -/
theorem atomic_iff (world : World) (now : Time) (call : Call) :
    Atomic world now call ↔ ∀ order change, Accepted world.database call order change →
      NoticeBreaks world call order → AlreadyWritten world now order change := by
  cases answered : respond world.database call.operation with
  | error failure =>
      have still : (perform world now call).1 = world := by rw [perform, answered]
      have nothing : writes world.database call.operation = [] := by rw [writes, answered]
      refine iff_of_true (fun _ id => by rw [still]) fun order change accepted => ?_
      exact absurd accepted (not_accepted_of_nothing nothing)
  | ok effect =>
      rcases answered_notices answered with rfl | ⟨order, change, notice, owner, named, asked, rfl,
        notified, owned, filled⟩
      · have quiet : (perform world now call).2 = none := by
          rw [perform, answered]
          rfl
        have nothing : writes world.database call.operation = [] := by
          rw [writes, answered]
          rfl
        refine iff_of_true (fun failed => absurd quiet failed) fun order change accepted => ?_
        exact absurd accepted (not_accepted_of_nothing nothing)
      · have accepted : Accepted world.database call order change := by
          refine ⟨named, asked, ?_⟩
          rw [writes, answered]
          exact List.cons_ne_nil _ _
        have ran : perform world now call =
            notify (world.write now [.update order.id change.update]) [notice] := by
          rw [perform, answered]
        obtain ⟨database, updatedAt, failed⟩ :=
          notify_singleton (world.write now [.update order.id change.update]) notice
        have breaks : (perform world now call).2 ≠ none ↔ NoticeBreaks world call order := by
          rw [ran, failed, notice_thrown_iff filled, NoticeBreaks, notified, owned]
          simp only [Option.some.injEq, exists_eq_left']
          exact Iff.rfl
        have documents : ∀ id, (perform world now call).1.document id =
            (world.write now [.update order.id change.update]).document id := by
          intro id
          rw [ran, World.document, database, updatedAt]
          rfl
        have kept := write_document_iff accepted.stored change.update now
        simp only [Atomic, breaks, documents, kept]
        constructor
        · intro atomic other asked_change other_accepted broken
          cases named.symm.trans other_accepted.named
          cases asked.symm.trans other_accepted.asked
          exact atomic broken
        · exact fun every broken => every order change accepted broken

/-! ## A client without a policy -/

/-- Client 1 has asked for order notices and not for emails. -/
def noPolicy : World where
  database := marketplace
  updatedAt _ := 0
  settings _ := ⟨⟨some true, none, none, none⟩, none⟩
  products := Collection.empty
  notifications := []

/-- The seller's status update throws, and the order has the new status. -/
theorem noPolicy_not_atomic :
    ¬ Atomic noPolicy 1 (.updateOrdersStatus (some 2) ⟨some 100, some .inPreparation⟩) := by
  intro atomic
  exact absurd (atomic (by decide) 100) (by decide)

end Proximity.Orders
