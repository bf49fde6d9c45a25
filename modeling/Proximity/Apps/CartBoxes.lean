import Proximity.Apps.Client
import Proximity.Systems.Collection

/-!
# The client's cart in its boxes

A box keeps its objects in memory.  What is put or saved is on disk as well; a change of
an object that is not saved is lost when the app starts again.
-/

namespace Proximity.Apps.Client

open Proximity.Systems Proximity.Models

/-- The box keeps an item under its variant. -/
instance : Document CartItem (Option String) := ⟨CartItem.variantId⟩

@[simp] theorem CartItem.document_id (item : CartItem) : Document.id item = item.variantId := rfl

/-- The cart of a store, under the id of the store. -/
structure Cart where
  storeId : ObjectId
  cartItemsKeys : List String
  checked : Bool
  deriving DecidableEq, Repr

instance : Document Cart ObjectId := ⟨Cart.storeId⟩

@[simp] theorem Cart.document_id (cart : Cart) : Document.id cart = cart.storeId := rfl

structure Boxes where
  carts : Collection Cart
  items : Collection CartItem

structure Device where
  memory : Boxes
  disk : Boxes

namespace Boxes

def putCart (boxes : Boxes) (cart : Cart) : Boxes := { boxes with carts := boxes.carts.put cart }

def putItem (boxes : Boxes) (item : CartItem) : Boxes :=
  { boxes with items := boxes.items.put item }

def deleteCart (boxes : Boxes) (storeId : ObjectId) : Boxes :=
  { boxes with carts := boxes.carts.delete storeId }

def deleteItem (boxes : Boxes) (key : Option String) : Boxes :=
  { boxes with items := boxes.items.delete key }

def deleteAllItems (boxes : Boxes) (keys : List (Option String)) : Boxes :=
  { boxes with items := boxes.items.deleteMany fun item => decide (item.variantId ∈ keys) }

end Boxes

namespace Device

/-- `cartBox.put(cart.storeId, cart)`, and `cart.save()`. -/
def putCart (device : Device) (cart : Cart) : Device :=
  ⟨device.memory.putCart cart, device.disk.putCart cart⟩

/-- `cartItemsBox.put(item.variantId, item)`, and `item.save()`. -/
def putItem (device : Device) (item : CartItem) : Device :=
  ⟨device.memory.putItem item, device.disk.putItem item⟩

def deleteCart (device : Device) (storeId : ObjectId) : Device :=
  ⟨device.memory.deleteCart storeId, device.disk.deleteCart storeId⟩

def deleteItem (device : Device) (key : Option String) : Device :=
  ⟨device.memory.deleteItem key, device.disk.deleteItem key⟩

def deleteAllItems (device : Device) (keys : List (Option String)) : Device :=
  ⟨device.memory.deleteAllItems keys, device.disk.deleteAllItems keys⟩

/-- A change of the cart's object, which is not saved. -/
def changeCart (device : Device) (storeId : ObjectId) (change : Update Cart) : Device :=
  { device with
    memory := { device.memory with carts := device.memory.carts.update storeId change } }

end Device

/-! ## `addToCart` -/

/-- The product and the variant that are put into the cart. -/
structure Selection where
  product : Product
  storeId : Option ObjectId
  variantId : Option String
  price : Option ℚ

/-- The part of the app's `Store` that the cart is kept under. -/
structure Store where
  id : Option ObjectId

def CartItem.fromProduct (selection : Selection) (orderedQuantity : Int) (checked : Bool) :
    CartItem where
  variantId := selection.variantId
  storeId := selection.storeId
  price := selection.price
  discount := selection.product.discount
  discountEndDate := selection.product.discountEndDate
  orderedQuantity := orderedQuantity
  checked := checked

namespace Device

/-- The boxes after `addToCart`; `put` throws on a null key. -/
def addToCart (device : Device) (selection : Selection) (store : Option Store)
    (quantity : Int) : Device :=
  match store with
  | none => device
  | some store =>
      match device.memory.items.findById? selection.variantId with
      | some item => device.putItem { item with orderedQuantity := item.orderedQuantity + 1 }
      | none =>
          match selection.variantId with
          | none => device
          | some key =>
              let added := device.putItem (CartItem.fromProduct selection quantity true)
              match store.id with
              | none => added
              | some storeId =>
                  match added.memory.carts.findById? storeId with
                  | some cart =>
                      added.putCart { cart with cartItemsKeys := cart.cartItemsKeys ++ [key] }
                  | none => added.putCart ⟨storeId, [key], true⟩

/-! ## Quantities and checks -/

/-- On a key that is not in the box the app throws. -/
def addQuantity (device : Device) (key : String) : Device :=
  match device.memory.items.findById? (some key) with
  | some item => device.putItem { item with orderedQuantity := item.orderedQuantity + 1 }
  | none => device

def subtractQuantity (device : Device) (key : String) : Device :=
  match device.memory.items.findById? (some key) with
  | some item =>
      if item.orderedQuantity ≠ 1 then
        device.putItem { item with orderedQuantity := item.orderedQuantity - 1 }
      else device.putItem item
  | none => device

/-- The items that the loop of `checkAllOrderedProducts` goes over. -/
def checkItems (device : Device) (storeId : ObjectId) (checked : Bool) (items : List CartItem) :
    Device :=
  items.foldl (fun device item =>
    if item.storeId = some storeId then device.putItem { item with checked := checked }
    else device) device

def checkAllOrderedProducts (device : Device) (storeId : ObjectId) : Device :=
  match device.memory.carts.findById? storeId with
  | some cart =>
      let toggled := device.putCart { cart with checked := !cart.checked }
      toggled.checkItems storeId (!cart.checked) toggled.memory.items.docs
  | none => device

/-- The cart of an item that was checked or unchecked; a missing cart or item throws. -/
def checkCart (device : Device) (item : CartItem) : Device :=
  match item.storeId.bind device.memory.carts.findById? with
  | none => device
  | some cart =>
      if item.checked = false then device.putCart { cart with checked := item.checked }
      else
        match cart.cartItemsKeys.mapM fun key => device.memory.items.findById? (some key) with
        | none => device
        | some items =>
            if items.all CartItem.checked then device.putCart { cart with checked := true }
            else device.putCart cart

def checkOrderedProduct (device : Device) (key : String) : Device :=
  match device.memory.items.findById? (some key) with
  | some item =>
      let toggled := { item with checked := !item.checked }
      (device.putItem toggled).checkCart toggled
  | none => device

/-! ## Deletions -/

/-- The key is taken out of the cart's object, which is not saved; a cart without keys
is deleted. -/
def deleteItemFromCart (device : Device) (key : String) : Device :=
  match device.memory.items.findById? (some key) with
  | none => device
  | some item =>
      match item.storeId.bind device.memory.carts.findById? with
      | none => device
      | some cart =>
          let keys := cart.cartItemsKeys.erase key
          let changed := device.changeCart cart.storeId
            ⟨fun cart => { cart with cartItemsKeys := keys }, fun _ => rfl⟩
          if keys = [] then (changed.deleteCart cart.storeId).deleteItem (some key)
          else changed.deleteItem (some key)

def deleteOrderFromCart (device : Device) (storeId : ObjectId) : Device :=
  (device.deleteAllItems ((device.memory.items.docs.filter fun item =>
    decide (item.storeId = some storeId)).map CartItem.variantId)).deleteCart storeId

/-- The app is started again. -/
def restart (device : Device) : Device := ⟨device.disk, device.disk⟩

end Device

/-! ## Calls -/

inductive BoxCall where
  | addToCart (selection : Selection) (store : Option Store) (quantity : Int)
  | addQuantity (key : String)
  | subtractQuantity (key : String)
  | checkOrderedProduct (key : String)
  | checkAllOrderedProducts (storeId : ObjectId)
  | deleteItemFromCart (key : String)
  | deleteOrderFromCart (storeId : ObjectId)
  | restart

def boxStep? (device : Device) : BoxCall → Option Device
  | .addToCart selection store quantity => some (device.addToCart selection store quantity)
  | .addQuantity key => some (device.addQuantity key)
  | .subtractQuantity key => some (device.subtractQuantity key)
  | .checkOrderedProduct key => some (device.checkOrderedProduct key)
  | .checkAllOrderedProducts storeId => some (device.checkAllOrderedProducts storeId)
  | .deleteItemFromCart key => some (device.deleteItemFromCart key)
  | .deleteOrderFromCart storeId => some (device.deleteOrderFromCart storeId)
  | .restart => some device.restart

end Proximity.Apps.Client
