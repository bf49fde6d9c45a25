import Proximity.Catalogue.Services

/-!
# The cart service

`addToCart` prices the item it stores.  `getCart` prices every stored item again,
with a query of its own for the offer and a loop that takes items out while it
runs.  A service answers with the cart it saves, or fails and saves nothing.
-/

namespace Proximity.Carts

open Proximity.Systems Proximity.Models Proximity.Catalogue

/-- An item of a stored cart; the schema keeps no price of a unit. -/
structure CartItem where
  productId : ObjectId
  variantId : String
  discount : ℚ
  quantity : ℚ
  discountQuantity : ℚ
  totalPrice : ℚ
  deriving DecidableEq, Repr

structure Cart where
  userId : ObjectId
  items : List CartItem
  totalDiscount : ℚ
  totalPayable : ℚ
  deriving DecidableEq, Repr

/-- `userId` is a unique index of the carts. -/
instance : Document Cart ObjectId := ⟨Cart.userId⟩

@[simp] theorem Cart.document_id (cart : Cart) : Document.id cart = cart.userId := rfl

structure Shop where
  catalogue : Database
  carts : Collection Cart

/-- What `itemSchema` lets through. -/
structure ItemBody where
  productId : ObjectId
  variantId : String
  quantity : Option ℚ
  atLeastOne : ∀ number, quantity = some number → 1 ≤ number

inductive Failure where
  | productDoesNotExist
  | variantNotAvailable
  | cartDoesNotExist
  | typeError
  | notSaved
  deriving DecidableEq, Repr

def Shop.cart? (shop : Shop) (user : ObjectId) : Option Cart := shop.carts.findById? user

/-- A save writes every path of the cart but the one it is found by. -/
def overwrite (cart : Cart) : Update Cart :=
  ⟨fun stored => { cart with userId := stored.userId }, fun _ => rfl⟩

def Shop.save (shop : Shop) (cart : Cart) : Shop :=
  { shop with
    carts := match shop.cart? cart.userId with
      | none => shop.carts.insert cart
      | some _ => shop.carts.update cart.userId (overwrite cart) }

@[simp] theorem Shop.save_cart? (shop : Shop) (cart : Cart) :
    (shop.save cart).cart? cart.userId = some cart := by
  unfold save cart?
  cases stored : shop.carts.findById? cart.userId with
  | none => simp [stored]
  | some other =>
      have same := (Collection.findById?_eq_some_iff.mp stored).2
      simp only [Collection.findById?_update, if_pos, stored, Option.map_some, overwrite]
      rw [← Cart.document_id other, same]

/-- The user's item of a variant, the first if there are several. -/
def Shop.item? (shop : Shop) (user : ObjectId) (variantId : String) : Option CartItem :=
  (shop.cart? user).bind fun cart =>
    cart.items.find? fun item => decide (item.variantId = variantId)

def variant? (product : Product) (variantId : String) : Option Variant :=
  product.variants.find? fun variant => decide (variant.id = variantId)

/-! ## `addToCart` -/

/-- The variant's quantity bounds what is requested. -/
def orderedQuantity (variant : Variant) (requested : ℚ) : ℚ :=
  if variant.quantity ≤ requested then variant.quantity else requested

/-- `offer && offer.active && offer.offerStock && !offer.offerDeleted`. -/
def liveOffer? (offers : Collection Offer) (now : Time) (product : Product) : Option Offer :=
  match product.offer with
  | none => none
  | some id =>
      (offers.findById? id).filter fun offer =>
        offer.active now && decide (offer.offerStock ≠ 0) && !offer.offerDeleted

/-- `discountvar`, the discount on a unit. -/
def discountvar (offer? : Option Offer) (variant : Variant) : ℚ :=
  match offer? with
  | none => 0
  | some offer =>
      match offer.discountType with
      | .percentage => offer.offerDiscount / 100 * variant.price
      | .amount => offer.offerDiscount

/-- `discountQuantity`, the units that the offer's stock covers. -/
def discountedQuantity (offer? : Option Offer) (quantity : ℚ) : ℚ :=
  match offer? with
  | none => 0
  | some offer => if offer.offerStock ≤ quantity then offer.offerStock else quantity

def pricedItem (productId : ObjectId) (variantId : String) (variant : Variant)
    (offer? : Option Offer) (quantity : ℚ) : CartItem where
  productId := productId
  variantId := variantId
  discount := discountvar offer? variant
  quantity := quantity
  discountQuantity := discountedQuantity offer? quantity
  totalPrice := variant.price * quantity -
    discountedQuantity offer? quantity * discountvar offer? variant

/-- The first item of the variant is priced again in place and keeps its product;
without one a new item is pushed. -/
def putItem (body : ItemBody) (variant : Variant) (offer? : Option Offer) (quantity : ℚ) :
    List CartItem → List CartItem
  | [] => [pricedItem body.productId body.variantId variant offer? quantity]
  | item :: items =>
      if item.variantId = body.variantId then
        pricedItem item.productId item.variantId variant offer? quantity :: items
      else item :: putItem body variant offer? quantity items

/-- The cart that the body's item goes into. -/
def Shop.cartOrNew (shop : Shop) (user : ObjectId) : Cart :=
  (shop.cart? user).getD ⟨user, [], 0, 0⟩

/-- Without a quantity the total is not a number, which mongoose does not save. -/
def addToCart (shop : Shop) (now : Time) (user : ObjectId) (body : ItemBody) :
    Except Failure Cart := do
  let product ← found .productDoesNotExist (shop.catalogue.products.findById? body.productId)
  require .productDoesNotExist (product.deleted = false)
  let variant ← found .variantNotAvailable (variant? product body.variantId)
  require .variantNotAvailable (variant.available = true ∧ variant.quantity ≠ 0)
  let requested ← found .notSaved body.quantity
  let cart := shop.cartOrNew user
  return { cart with
    items := putItem body variant (liveOffer? shop.catalogue.offers now product)
      (orderedQuantity variant requested) cart.items }

/-! ## `getCart` -/

inductive BooleanPath where
  | active
  | offerDeleted
  deriving DecidableEq

/-- The booleans stored with an offer; the virtual `active` is not among them. -/
def storedBoolean? (offer : Offer) : BooleanPath → Option Bool
  | .active => none
  | .offerDeleted => some offer.offerDeleted

/-- The query of `getCart` for an offer, on what is stored. -/
def queriedOffer? (offers : Collection Offer) (id : ObjectId) : Option Offer :=
  offers.findOne? fun offer =>
    decide (offer.id = id) && decide (storedBoolean? offer .active = some true) &&
      decide (0 < offer.offerStock) && decide (storedBoolean? offer .offerDeleted = some false)

/-- The quantity is cut down to what the variant has. -/
def cutDown (variant : Variant) (item : CartItem) : CartItem :=
  if variant.quantity ≤ item.quantity then
    { item with
      quantity := variant.quantity
      totalPrice := variant.price * variant.quantity }
  else item

/-- The discount on a unit and the units it is on. -/
def queriedDiscount (offer? : Option Offer) (variant : Variant) (quantity : ℚ) : ℚ × ℚ :=
  match offer? with
  | none => (0, 0)
  | some offer =>
      (match offer.discountType with
        | .percentage => variant.price * (offer.offerDiscount / 100)
        | .amount => offer.offerDiscount,
      if offer.offerStock ≤ quantity then offer.offerStock else quantity)

def withDiscount (offers : Collection Offer) (product : Product) (variant : Variant)
    (item : CartItem) : CartItem :=
  match product.offer with
  | some id =>
      let (discount, discountQuantity) :=
        queriedDiscount (queriedOffer? offers id) variant item.quantity
      { item with
        discount := discount
        discountQuantity := discountQuantity
        totalPrice := variant.price * item.quantity - discountQuantity * discount }
  | none =>
      { item with
        discount := 0
        discountQuantity := 0
        totalPrice := item.quantity * variant.price }

def repriced (offers : Collection Offer) (product : Product) (variant : Variant)
    (item : CartItem) : CartItem :=
  withDiscount offers product variant (cutDown variant item)

/-- The loop at an index: the items before it, last first, the sums so far, and for
every entry of the answer its store and its index in the cart. -/
structure Loop where
  done : List CartItem
  totalDiscount : ℚ
  totalPayable : ℚ
  entries : List (ObjectId × Nat)

def Loop.start : Loop := ⟨[], 0, 0, []⟩

/-- The loop once the item after `before` is priced again. -/
def Loop.enter (loop : Loop) (product : Product) (item : CartItem) (before : List CartItem) :
    Loop where
  done := item :: before
  totalDiscount :=
    if product.offer.isSome then loop.totalDiscount + item.discount * item.discountQuantity
    else loop.totalDiscount
  totalPayable :=
    if product.offer.isSome then loop.totalPayable + item.totalPrice else loop.totalPayable
  entries := loop.entries ++ [(product.storeId, before.length)]

/-- `product.deleted || !variant.available`. -/
def unavailable (product : Product) (variant : Variant) : Bool :=
  product.deleted || !variant.available

/-- One turn of the loop.  An unavailable item is spliced out, and the rest of the
body runs on the item before it; a missing product, variant or item before throws. -/
def turn (catalogue : Database) (loop : Loop) (item : CartItem) : Except Failure Loop := do
  let product ← found .typeError (catalogue.products.findById? item.productId)
  let variant ← found .typeError (variant? product item.variantId)
  if unavailable product variant = true then
    match loop.done with
    | [] => .error .typeError
    | previous :: before =>
        return loop.enter product (repriced catalogue.offers product variant previous) before
  else
    return loop.enter product (repriced catalogue.offers product variant item) loop.done

structure StoreCart where
  storeIdCart : ObjectId
  products : List CartItem
  deriving DecidableEq, Repr

def pushProduct (storeId : ObjectId) (item : CartItem) : List StoreCart → List StoreCart
  | [] => [⟨storeId, [item]⟩]
  | group :: groups =>
      if group.storeIdCart = storeId then ⟨storeId, group.products ++ [item]⟩ :: groups
      else group :: pushProduct storeId item groups

/-- The entries refer to the items of the cart, so they show their last prices. -/
def answer (items : List CartItem) (entries : List (ObjectId × Nat)) : List StoreCart :=
  entries.foldl (fun groups entry =>
    match items[entry.2]? with
    | none => groups
    | some item => pushProduct entry.1 item groups) []

def getCart (shop : Shop) (user : ObjectId) : Except Failure (Cart × List StoreCart) := do
  let cart ← found .cartDoesNotExist (shop.cart? user)
  let loop ← cart.items.foldlM (turn shop.catalogue) Loop.start
  return (
    { cart with
      items := loop.done.reverse
      totalDiscount := loop.totalDiscount
      totalPayable := loop.totalPayable },
    answer loop.done.reverse loop.entries)

/-- What is stored once `getCart` has run; a failed run has saved nothing. -/
def Shop.afterGetCart (shop : Shop) (user : ObjectId) : Shop :=
  match getCart shop user with
  | .ok (cart, _) => shop.save cart
  | .error _ => shop

end Proximity.Carts
