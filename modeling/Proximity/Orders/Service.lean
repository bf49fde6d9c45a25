import Proximity.Models.Catalogue
import Proximity.Models.Order
import Proximity.Systems.Checks

/-!
# The operations of `OrderService` that change orders

Every operation reads the database and answers with its writes and its notices,
or with the error it throws before any write.
-/

namespace Proximity.Orders

open Proximity.Systems Proximity.Models

structure Database where
  users : Collection User
  stores : Collection Store
  orders : Collection Order

inductive Failure where
  | statusError
  | orderNotFound
  | permissionDenied
  | noProducts
  | quantityExceeded
  | unreadable
  deriving DecidableEq, Repr

/-- A call of `localSendNotification`. -/
structure Notice where
  owner : ObjectId
  subType : String
  order : ObjectId
  title : String
  content : String
  deriving DecidableEq, Repr

structure Effect where
  writes : List (Write Order)
  notices : List Notice

def Effect.nothing : Effect := ⟨[], []⟩

/-- A body field that should hold JSON text: no string at all, or a string with
what `JSON.parse` makes of it. -/
inductive Posted (α : Type) where
  | noText
  | text (parsed : Option α)

def Posted.parse {α : Type} (posted : Posted α) (fallback : Except Failure α) : Except Failure α :=
  match posted with
  | .noText => fallback
  | .text parsed => found .unreadable parsed

section Lookups

variable (database : Database)

/-- `findById` of an id that the body may lack. -/
def Database.order? (orderId : Option ObjectId) : Option Order :=
  orderId.bind database.orders.findById?

/-- The user and the store, when the user is the order's client or sells in its store. -/
def Database.permitted? (userId : ObjectId) (order : Order) : Option (User × Store) :=
  match database.users.findById? userId, database.stores.findById? order.storeId with
  | some user, some store =>
      if user.id = order.clientId ∨ user.id = store.sellerId then some (user, store) else none
  | _, _ => none

end Lookups

/-! ## Status updates -/

structure UpdateBody where
  orderId : Option ObjectId
  status : Option OrderStatus

/-- The update each status name stands for. -/
def statusUpdate : OrderStatus → Update Order
  | .waitingForReturn => ⟨fun order => { order with waitingforReturn := some true }, fun _ => rfl⟩
  | .returned => ⟨fun order => { order with returned := some true }, fun _ => rfl⟩
  | status => ⟨fun order => { order with status := status }, fun _ => rfl⟩

def updateSubType (order : Order) : String :=
  if order.refund = some true then "Refund"
  else if order.returnFlag = some true then "Return"
  else if order.delivery then "Delivery"
  else "Pickup"

def updateOrdersStatus (database : Database) (id : Option ObjectId) (body : UpdateBody) :
    Except Failure Effect :=
  match id with
  | none => .ok Effect.nothing
  | some id => do
      let user ← found .permissionDenied (database.users.findById? id)
      require .permissionDenied (user.role = .seller)
      let status ← found .statusError body.status
      let order ← found .orderNotFound (database.order? body.orderId)
      return {
        writes := [.update order.id (statusUpdate status)]
        notices := [⟨order.clientId, updateSubType order, order.id, "Order Updated",
          "Your order has been updated [ " ++ toString order.id ++ " ]"⟩] }

/-- An answered update without a user did nothing; else all its checks have passed. -/
theorem updateOrdersStatus_cases {database : Database} {id : Option ObjectId} {body : UpdateBody}
    {effect : Effect} (answered : updateOrdersStatus database id body = .ok effect) :
    (id = none ∧ effect = Effect.nothing) ∨ ∃ userId user status order, id = some userId ∧
      database.users.findById? userId = some user ∧ user.role = .seller ∧
      body.status = some status ∧ database.order? body.orderId = some order ∧
      effect = ⟨[.update order.id (statusUpdate status)],
        [⟨order.clientId, updateSubType order, order.id, "Order Updated",
          "Your order has been updated [ " ++ toString order.id ++ " ]"⟩]⟩ := by
  cases id with
  | none =>
      cases answered
      exact Or.inl ⟨rfl, rfl⟩
  | some userId =>
      simp only [updateOrdersStatus, bind_eq_ok_iff, found_eq_ok_iff, require_eq_ok_iff,
        pure_eq_ok_iff] at answered
      obtain ⟨user, stored, -, seller, status, given, order, named, rfl⟩ := answered
      exact Or.inr ⟨userId, user, status, order, rfl, stored, seller, given, named, rfl⟩

/-! ## Returns and refunds -/

/-- Some returned quantity is larger than the ordered one. -/
def exceeds (items : List OrderItem) (returnItems : List ReturnItem) : Bool :=
  items.any fun item =>
    match returnItems.find? fun returned => returned.variantId = item.variantId with
    | some returned => decide (item.quantity < returned.quantity)
    | none => false

structure ReturnBody where
  userId : Option ObjectId
  orderId : Option ObjectId
  returnItems : Posted (List ReturnItem)
  motif : Option String

def returnUpdate (returnItems : List ReturnItem) (motif : Option String) : Update Order :=
  ⟨fun order => { order with
    returnItems := returnItems
    returnMotif := motif <|> order.returnMotif
    returnFlag := some true }, fun _ => rfl⟩

def returnOrders (database : Database) (body : ReturnBody) : Except Failure Effect :=
  match body.userId with
  | none => .ok Effect.nothing
  | some userId => do
      let order ← found .orderNotFound (database.order? body.orderId)
      let returnItems ← body.returnItems.parse (.ok [])
      require .noProducts (returnItems ≠ [])
      let permitted ← found .permissionDenied (database.permitted? userId order)
      require .quantityExceeded (exceeds order.items returnItems = false)
      return {
        writes := [.update order.id (returnUpdate returnItems body.motif)]
        notices := [⟨permitted.2.sellerId, "Return", order.id, "Return Request",
          "You have recived a new return request [ " ++ toString order.id ++ " ]"⟩] }

theorem returnOrders_cases {database : Database} {body : ReturnBody} {effect : Effect}
    (answered : returnOrders database body = .ok effect) :
    (body.userId = none ∧ effect = Effect.nothing) ∨ ∃ userId order returnItems permitted,
      body.userId = some userId ∧ database.order? body.orderId = some order ∧
      body.returnItems.parse (.ok []) = .ok returnItems ∧ returnItems ≠ [] ∧
      database.permitted? userId order = some permitted ∧
      exceeds order.items returnItems = false ∧
      effect = ⟨[.update order.id (returnUpdate returnItems body.motif)],
        [⟨permitted.2.sellerId, "Return", order.id, "Return Request",
          "You have recived a new return request [ " ++ toString order.id ++ " ]"⟩]⟩ := by
  unfold returnOrders at answered
  split at answered
  case h_1 absent =>
      cases answered
      exact Or.inl ⟨absent, rfl⟩
  case h_2 userId given =>
      simp only [bind_eq_ok_iff, found_eq_ok_iff, require_eq_ok_iff, pure_eq_ok_iff] at answered
      obtain ⟨order, named, items, parsed, -, listed, permitted, allowed, -, fits, rfl⟩ := answered
      exact Or.inr
        ⟨userId, order, items, permitted, given, named, parsed, listed, allowed, fits, rfl⟩

/-- The posted refund; `total` is `none` when `parseFloat` makes no number of it. -/
structure RefundItems where
  items : List ReturnItem
  total : Option ℚ

structure RefundBody where
  userId : Option ObjectId
  orderId : Option ObjectId
  returnItems : Posted RefundItems

def refundUpdate (returnItems : RefundItems) : Update Order :=
  match returnItems.total with
  | some total =>
      if 0 < total then
        ⟨fun order => { order with
          returnedItems := returnItems.items
          refundPaymentInfos := some total
          returned := some true
          refund := some true }, fun _ => rfl⟩
      else
        ⟨fun order => { order with
          returnedItems := returnItems.items
          returned := some true }, fun _ => rfl⟩
  | none =>
      ⟨fun order => { order with
        returnedItems := returnItems.items
        returned := some true }, fun _ => rfl⟩

def refundOrders (database : Database) (body : RefundBody) : Except Failure Effect :=
  match body.userId with
  | none => .ok Effect.nothing
  | some userId => do
      let order ← found .orderNotFound (database.order? body.orderId)
      let returnItems ← body.returnItems.parse (.error .unreadable)
      require .noProducts (returnItems.items ≠ [])
      let _ ← found .permissionDenied (database.permitted? userId order)
      require .quantityExceeded (exceeds order.items returnItems.items = false)
      return {
        writes := [.update order.id (refundUpdate returnItems)]
        notices := [⟨order.clientId, "Refund", order.id, "Refund",
          "Your return request has been processed [ " ++ toString order.id ++ " ]"⟩] }

theorem refundOrders_cases {database : Database} {body : RefundBody} {effect : Effect}
    (answered : refundOrders database body = .ok effect) :
    (body.userId = none ∧ effect = Effect.nothing) ∨ ∃ userId order returnItems permitted,
      body.userId = some userId ∧ database.order? body.orderId = some order ∧
      body.returnItems.parse (.error .unreadable) = .ok returnItems ∧ returnItems.items ≠ [] ∧
      database.permitted? userId order = some permitted ∧
      exceeds order.items returnItems.items = false ∧
      effect = ⟨[.update order.id (refundUpdate returnItems)],
        [⟨order.clientId, "Refund", order.id, "Refund",
          "Your return request has been processed [ " ++ toString order.id ++ " ]"⟩]⟩ := by
  unfold refundOrders at answered
  split at answered
  case h_1 absent =>
      cases answered
      exact Or.inl ⟨absent, rfl⟩
  case h_2 userId given =>
      simp only [bind_eq_ok_iff, found_eq_ok_iff, require_eq_ok_iff, pure_eq_ok_iff] at answered
      obtain ⟨order, named, items, parsed, -, listed, permitted, allowed, -, fits, rfl⟩ := answered
      exact Or.inr
        ⟨userId, order, items, permitted, given, named, parsed, listed, allowed, fits, rfl⟩

/-! ## Cancellation -/

structure CancelBody where
  userId : Option ObjectId
  orderId : Option ObjectId
  motif : Option String

def cancelUpdate (userId : ObjectId) (motif : Option String) : Update Order :=
  ⟨fun order => { order with
    canceled := some true
    canceledBy := some ⟨userId, motif⟩ }, fun _ => rfl⟩

def cancelOrders (database : Database) (body : CancelBody) : Except Failure Effect :=
  match body.userId with
  | none => .ok Effect.nothing
  | some userId => do
      let order ← found .orderNotFound (database.order? body.orderId)
      let permitted ← found .permissionDenied (database.permitted? userId order)
      return {
        writes := [.update order.id (cancelUpdate permitted.1.id body.motif)]
        notices := [⟨
          if permitted.1.id = order.clientId then order.clientId else permitted.2.sellerId,
          "Cancel", order.id, "Order Canceled",
          "Your order has been canceled [ " ++ toString order.id ++ " ]"⟩] }

theorem cancelOrders_cases {database : Database} {body : CancelBody} {effect : Effect}
    (answered : cancelOrders database body = .ok effect) :
    (body.userId = none ∧ effect = Effect.nothing) ∨ ∃ userId order permitted,
      body.userId = some userId ∧ database.order? body.orderId = some order ∧
      database.permitted? userId order = some permitted ∧
      effect = ⟨[.update order.id (cancelUpdate permitted.1.id body.motif)],
        [⟨if permitted.1.id = order.clientId then order.clientId else permitted.2.sellerId,
          "Cancel", order.id, "Order Canceled",
          "Your order has been canceled [ " ++ toString order.id ++ " ]"⟩]⟩ := by
  unfold cancelOrders at answered
  split at answered
  case h_1 absent =>
      cases answered
      exact Or.inl ⟨absent, rfl⟩
  case h_2 userId given =>
      simp only [bind_eq_ok_iff, found_eq_ok_iff, pure_eq_ok_iff] at answered
      obtain ⟨order, named, permitted, allowed, rfl⟩ := answered
      exact Or.inr ⟨userId, order, permitted, given, named, allowed, rfl⟩

/-! ## Direct creation -/

/-- An element of `orders` is `none` when a policy text in it does not parse or
the schema refuses the document; `createOrderDirectly` then skips it. -/
structure CreateBody where
  orders : Posted (List (Option Order))
  persons : Posted Unit
  addresses : Posted Unit
  cards : Posted Unit
  orderId : Option ObjectId

/-- The notice of a saved order; a missing store throws and the element is skipped. -/
def createNotice (stores : Collection Store) (order : Order) : List Notice :=
  match stores.findById? order.storeId with
  | some store =>
      [⟨store.sellerId,
        if order.pickUp then "Pickup" else if order.delivery then "Delivery" else "Reservation",
        order.id, "New Order", "You have recived a new order [ " ++ toString order.id ++ " ]"⟩]
  | none => []

/-- The saves of the elements in turn; one whose id is taken already fails. -/
def createElements (stores : Collection Store) : Collection Order → List (Option Order) → Effect
  | _, [] => Effect.nothing
  | orders, none :: rest => createElements stores orders rest
  | orders, some order :: rest =>
      match orders.findById? order.id with
      | some _ => createElements stores orders rest
      | none =>
          let later := createElements stores (orders.insert order) rest
          ⟨.insert order :: later.writes, createNotice stores order ++ later.notices⟩

def createReadable (body : CreateBody) : Except Failure (List (Option Order)) := do
  let orders ← body.orders.parse (.ok [])
  let _ ← body.persons.parse (.ok ())
  let _ ← body.addresses.parse (.ok ())
  let _ ← body.cards.parse (.ok ())
  return orders

/-- All errors are caught, so the answer is always a success. -/
def createOrderDirectly (database : Database) (body : CreateBody) : Effect :=
  match createReadable body with
  | .error _ => Effect.nothing
  | .ok elements =>
      let created := createElements database.stores database.orders elements
      match body.orderId with
      | none => created
      | some orderId => ⟨created.writes ++ [.delete orderId], created.notices⟩

/-! ## Requests -/

inductive Operation where
  | updateOrdersStatus (id : Option ObjectId) (body : UpdateBody)
  | returnOrders (body : ReturnBody)
  | refundOrders (body : RefundBody)
  | cancelOrders (body : CancelBody)
  | createOrderDirectly (body : CreateBody)

/-- A request with the principal that `verifyToken` read from its token. -/
structure Request where
  principal : ObjectId
  operation : Operation

def respond (database : Database) : Operation → Except Failure Effect
  | .updateOrdersStatus id body => updateOrdersStatus database id body
  | .returnOrders body => returnOrders database body
  | .refundOrders body => refundOrders database body
  | .cancelOrders body => cancelOrders database body
  | .createOrderDirectly body => .ok (createOrderDirectly database body)

/-- The writes of a request; one that throws has none. -/
def writes (database : Database) (operation : Operation) : List (Write Order) :=
  match respond database operation with
  | .ok effect => effect.writes
  | .error _ => []

/-- Anything else that happens to the database is one step to any other database. -/
inductive Action where
  | request (request : Request)
  | elsewhere (database : Database)

def step? (database : Database) : Action → Option Database
  | .request request =>
      some { database with
        orders := Write.applyAll database.orders (writes database request.operation) }
  | .elsewhere other => some other

end Proximity.Orders
