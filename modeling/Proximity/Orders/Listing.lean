import Proximity.Orders.Changes
import Proximity.Systems.Query

/-!
# The lists of orders in the apps' tabs

`getOrdersPickUpByStatus` queries the flags of the stored orders.  Most of its queries
ask for `reservation`, a field the schema of an order does not have.
-/

namespace Proximity.Orders

open Proximity.Systems Proximity.Models

/-- The fields that the queries ask for; `reservation` is not in the schema. -/
inductive Path where
  | return
  | waitingforReturn
  | returned
  | refund
  | canceled
  | pickUp
  | delivery
  | reservation
  deriving DecidableEq, Repr

/-- What is stored at a path; the flags' default is `null`. -/
def read (order : Order) : Path → StoredField Bool
  | .return => .ofOption order.returnFlag
  | .waitingforReturn => .ofOption order.waitingforReturn
  | .returned => .ofOption order.returned
  | .refund => .ofOption order.refund
  | .canceled => .ofOption order.canceled
  | .pickUp => .value order.pickUp
  | .delivery => .value order.delivery
  | .reservation => .missing

/-- The names of the enumeration of `status`. -/
def statusName : OrderStatus → String
  | .pending => "Pending"
  | .inPreparation => "InPreparation"
  | .loadingDelivery => "LoadingDelivery"
  | .onTheWay => "OnTheWay"
  | .delivered => "Delivered"
  | .awaitingRecovery => "AwaitingRecovery"
  | .recovered => "Recovered"
  | .reserved => "Reserved"
  | .waitingForReturn => "WaitingForReturn"
  | .returned => "Returned"
  | .underRefund => "UnderRefund"
  | .refunded => "Refunded"
  | .succeeded => "succeeded"

/-- Whose orders are listed; the two branches of the source differ in little else. -/
inductive Viewer where
  | client
  | seller
  deriving DecidableEq, Repr

/-- A query; `status` is `none` where any will do. -/
structure Query where
  conditions : List (Path × Condition Bool)
  status : Option String
  someItems : Bool

def Query.finds (query : Query) (order : Order) : Bool :=
  matchesAll query.conditions (read order) &&
    query.status.all (fun status => decide (statusName order.status = status)) &&
    (!query.someItems || decide (order.items ≠ []))

/-- `req.params.type != "all" ? req.params.type == name : {$exists: true}`. -/
def ofType (type name : String) : Condition Bool :=
  if type ≠ "all" then .equals (decide (type = name)) else .present

/-- The query for a type and a status, less the condition on the owner. -/
def queryFor (viewer : Viewer) (type status : String) : Query :=
  if status = "Canceled" then
    { conditions := [(.canceled, .equals true), (.return, ofType type "return"),
        (.pickUp, ofType type "pickup"), (.delivery, ofType type "delivery"),
        (.reservation, ofType type "reservation"), (.refund, .isNot true)]
      status := none
      someItems := false }
  else if type = "refund" then
    { conditions := [(.refund, .equals true), (.canceled, .isNot true)]
      status := none
      someItems := false }
  else if type = "return" then
    if status = "all" then
      { conditions := [(.return, .equals true), (.canceled, .isNot true)]
        status := none
        someItems := false }
    else
      { conditions := [(.return, .equals true),
          (.waitingforReturn, if status = "pending" then .isNot true else .equals true),
          (.returned, if status = "returned" then .equals true else .isNot true),
          (.canceled, .isNot true)]
        status := none
        someItems := false }
  else
    { conditions := [(.pickUp, ofType type "pickup"), (.delivery, ofType type "delivery"),
        (.reservation, ofType type "reservation"), (.canceled, .isNot true),
        (.refund, .isNot true)]
      status := if status ≠ "all" then some status else none
      someItems := decide (viewer = .client) }

/-- The ids of the seller's stores. -/
def Database.storesOf (database : Database) (sellerId : ObjectId) : List ObjectId :=
  (database.stores.docs.filter fun store => decide (store.sellerId = sellerId)).map Store.id

def getOrdersPickUpByStatus (database : Database) (type : String) (id : ObjectId)
    (status : String) : List Order :=
  match (database.users.findById? id).map User.role with
  | some .user =>
      database.orders.docs.filter fun order =>
        decide (order.clientId = id) && (queryFor .client type status).finds order
  | some .seller =>
      database.orders.docs.filter fun order =>
        decide (order.storeId ∈ database.storesOf id) && (queryFor .seller type status).finds order
  | _ => []

/-- Who is listed an order has a query that finds it. -/
theorem finds_of_mem_getOrders {database : Database} {id : ObjectId} {type status : String}
    {order : Order} (listed : order ∈ getOrdersPickUpByStatus database type id status) :
    ∃ viewer, (queryFor viewer type status).finds order = true := by
  unfold getOrdersPickUpByStatus at listed
  split at listed
  case h_1 => exact ⟨.client, (Bool.and_eq_true_iff.mp (List.mem_filter.mp listed).2).2⟩
  case h_2 => exact ⟨.seller, (Bool.and_eq_true_iff.mp (List.mem_filter.mp listed).2).2⟩
  case h_3 => cases listed

/-! ## Queries for a reservation -/

theorem ofType_ne_isNot (type name : String) (value : Bool) : ofType type name ≠ .isNot value := by
  unfold ofType
  split
  case isTrue => simp
  case isFalse => simp

/-- A query that asks for `reservation` finds nothing. -/
theorem finds_eq_false_of_reservation {query : Query} {type : String}
    (asked : (Path.reservation, ofType type "reservation") ∈ query.conditions) (order : Order) :
    query.finds order = false := by
  have unmatched : matchesAll query.conditions (read order) = false :=
    matchesAll_eq_false_of_missing asked rfl (ofType_ne_isNot type "reservation")
  simp [Query.finds, unmatched]

theorem canceled_finds_nothing (viewer : Viewer) (type : String) (order : Order) :
    (queryFor viewer type "Canceled").finds order = false := by
  have asked : (Path.reservation, ofType type "reservation") ∈
      (queryFor viewer type "Canceled").conditions := by
    simp [queryFor]
  exact finds_eq_false_of_reservation asked order

end Proximity.Orders
