import Mathlib.Data.Rat.Defs
import Proximity.Models.Account

/-!
# Orders as they are stored

Flags that default to `null` are optional Booleans.
-/

namespace Proximity.Models

open Proximity.Systems

inductive OrderStatus where
  | pending
  | inPreparation
  | loadingDelivery
  | onTheWay
  | delivered
  | awaitingRecovery
  | recovered
  | reserved
  | waitingForReturn
  | returned
  | underRefund
  | refunded
  | succeeded
  deriving DecidableEq, Repr

structure OrderItem where
  productId : String
  variantId : String
  price : ℚ
  discount : ℚ
  quantity : ℚ
  deriving DecidableEq, Repr

/-- An entry of `returnItems` and `returnedItems`, with the fields that the order
service reads. -/
structure ReturnItem where
  variantId : String
  quantity : ℚ
  deriving DecidableEq, Repr

structure CanceledBy where
  userId : ObjectId
  motif : Option String
  deriving DecidableEq, Repr

/-- A stored order; `returnFlag` is the field `return`. -/
structure Order where
  id : ObjectId
  clientId : ObjectId
  storeId : ObjectId
  items : List OrderItem
  pickUp : Bool
  delivery : Bool
  status : OrderStatus
  returnFlag : Option Bool
  returnItems : List ReturnItem
  returnMotif : Option String
  waitingforReturn : Option Bool
  returned : Option Bool
  returnedItems : List ReturnItem
  refundPaymentInfos : Option ℚ
  refund : Option Bool
  canceled : Option Bool
  canceledBy : Option CanceledBy
  deriving DecidableEq, Repr

instance : Document Order ObjectId := ⟨Order.id⟩

@[simp] theorem Order.document_id (order : Order) : Document.id order = order.id := rfl

end Proximity.Models
