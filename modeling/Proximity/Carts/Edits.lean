import Proximity.Carts.Pricing

/-!
# The edits of a cart

The five services that edit a cart read `cart.products` and `req.user._id`, look carts up
by `user` and call `cart.remove`.  A cart has `items` and a `userId`, a token's payload
has an `id`, and documents have no `remove`.
-/

namespace Proximity.Carts

open Proximity.Systems Proximity.Models Proximity.Catalogue

inductive EditFailure where
  | productNotFound
  | cartNotFound
  | variantNotFound
  | quantityNotValid
  | typeError
  | notSaved
  deriving DecidableEq, Repr

/-! ## What the services read -/

/-- `cart.products`, a path that the schema of a cart does not have. -/
def products? (_ : Cart) : Option (List CartItem) := none

/-- `cart.products = products`; a save leaves such a path out. -/
def withProducts (cart : Cart) (_ : List CartItem) : Cart := cart

/-- `cart.user`. -/
def owner? (_ : Cart) : Option ObjectId := none

/-- `req.user._id`; `login` signs an `id` and a `role`. -/
def underscoreId? (_ : Token) : Option ObjectId := none

/-- `cart.remove`, which documents do not have. -/
def remove? (_ : Cart) : Option (Collection Cart → Collection Cart) := none

/-- The fields of an item that the schema of an item does not have. -/
def variants? (_ : CartItem) : Option (List CartItem) := none

def itemOffer? (_ : CartItem) : Option ObjectId := none

def itemPrice? (_ : CartItem) : Option ℚ := none

/-- `Cart.findOne({user: req.user._id})`: an undefined value is sent as `null`, which a
missing field equals. -/
def Shop.cartOfUser? (shop : Shop) (token : Token) : Option Cart :=
  shop.carts.findOne? fun cart => decide (owner? cart = underscoreId? token)

/-! ## The services -/

/-- The first item of a product is changed in place. -/
def changeProduct (id : ObjectId) (change : CartItem → CartItem) : List CartItem → List CartItem
  | [] => []
  | item :: items =>
      if item.productId = id then change item :: items else item :: changeProduct id change items

structure UpdateBody where
  productId : ObjectId
  quantity : ℚ
  discount : ℚ

def updateCart (shop : Shop) (token : Token) (body : UpdateBody) : Except EditFailure Shop := do
  let _ ← found .productNotFound (shop.catalogue.products.findById? body.productId)
  let cart ← found .cartNotFound (shop.cart? token.id)
  let products ← found .typeError (products? cart)
  let _ ← found .productNotFound
    (products.find? fun product => decide (product.productId = body.productId))
  return shop.save (withProducts cart (changeProduct body.productId (fun productInCart =>
    { productInCart with quantity := body.quantity, discount := body.discount }) products))

def deleteProductFromCart (shop : Shop) (token : Token) (id : ObjectId) :
    Except EditFailure Shop := do
  let cart ← found .cartNotFound (shop.cart? token.id)
  let products ← found .typeError (products? cart)
  let _ ← found .productNotFound
    (products.find? fun product => decide (product.productId = id))
  return shop.save (withProducts cart (products.filter fun product =>
    decide (product.productId ≠ id)))

def updateQuantityCart (shop : Shop) (now : Time) (token : Token) (idProduct : ObjectId)
    (idVaraint : String) (quantity : ℚ) : Except EditFailure Shop := do
  let cart ← found .typeError (shop.cartOfUser? token)
  let products ← found .typeError (products? cart)
  let variant ← found .variantNotFound
    (products.find? fun item => decide (item.variantId = idVaraint))
  let product ← found .typeError
    (products.find? fun product => decide (product.productId = idProduct))
  let variants ← found .typeError (variants? product)
  let varaintCall ← found .typeError
    (variants.find? fun item => decide (item.variantId = idVaraint))
  require .quantityNotValid (quantity ≤ varaintCall.quantity)
  require .quantityNotValid (0 < quantity)
  let productCall ← found .typeError (shop.catalogue.products.findById? idProduct)
  if productCall.offer.isSome then
    let offer ← found .typeError ((itemOffer? product).bind shop.catalogue.offers.findById?)
    require .quantityNotValid
      (¬ (offer.active now = true ∧ 0 < offer.offerStock ∧ offer.productId = product.productId ∧
        offer.offerStock < quantity))
  let price ← found .notSaved (itemPrice? variant)
  return shop.save (withProducts cart (changeProduct idProduct (fun product =>
    { product with
      quantity := quantity
      totalPrice := price * quantity - price * quantity * product.discount / 100 }) products))

def deleteProductCart (shop : Shop) (token : Token) (id : String) : Except EditFailure Shop := do
  let cart ← found .typeError (shop.cartOfUser? token)
  let products ← found .typeError (products? cart)
  let variant ← found .variantNotFound
    (products.find? fun product => decide (product.variantId = id))
  return shop.save (withProducts cart (products.erase variant))

def deleteCart (shop : Shop) (token : Token) : Except EditFailure Shop := do
  let cart ← found .typeError (shop.cartOfUser? token)
  let remove ← found .typeError (remove? cart)
  return { shop with carts := remove shop.carts }

inductive Edit where
  | updateCart (body : UpdateBody)
  | updateQuantityCart (idProduct : ObjectId) (idVaraint : String) (quantity : ℚ)
  | deleteProductFromCart (id : ObjectId)
  | deleteProductCart (id : String)
  | deleteCart

def edit (shop : Shop) (now : Time) (token : Token) : Edit → Except EditFailure Shop
  | .updateCart body => updateCart shop token body
  | .updateQuantityCart idProduct idVaraint quantity =>
      updateQuantityCart shop now token idProduct idVaraint quantity
  | .deleteProductFromCart id => deleteProductFromCart shop token id
  | .deleteProductCart id => deleteProductCart shop token id
  | .deleteCart => deleteCart shop token

/-! ## What an edit should do -/

/-- The item that the edit is about. -/
def Edit.Names : Edit → CartItem → Prop
  | .updateCart body, item => item.productId = body.productId
  | .updateQuantityCart idProduct idVaraint _, item =>
      item.productId = idProduct ∧ item.variantId = idVaraint
  | .deleteProductFromCart id, item => item.productId = id
  | .deleteProductCart id, item => item.variantId = id
  | .deleteCart, _ => True

/-- The item priced for another quantity, as `addToCart` would price it. -/
def RepricedFor (catalogue : Database) (now : Time) (quantity : ℚ) (item priced : CartItem) :
    Prop :=
  ∃ product variant, catalogue.products.findById? item.productId = some product ∧
    variant? product item.variantId = some variant ∧
    priced = pricedItem item.productId item.variantId variant
      (liveOffer? catalogue.offers now product) quantity

/-- What is in the place of the named item afterwards. -/
def Edit.Leaves (catalogue : Database) (now : Time) (item : CartItem) : Edit → List CartItem → Prop
  | .updateCart body, left =>
      ∃ priced, RepricedFor catalogue now body.quantity item priced ∧ left = [priced]
  | .updateQuantityCart _ _ quantity, left =>
      ∃ priced, RepricedFor catalogue now quantity item priced ∧ left = [priced]
  | .deleteProductFromCart _, left => left = []
  | .deleteProductCart _, left => left = []
  | .deleteCart, _ => False

/-- One item of the user's cart is changed or removed, or the cart is gone; all else is
as it was. -/
structure Effective (shop after : Shop) (now : Time) (user : ObjectId) (asked : Edit) : Prop where
  catalogue : after.catalogue = shop.catalogue
  others : ∀ other, other ≠ user → after.cart? other = shop.cart? other
  own : (asked = .deleteCart ∧ after.cart? user = none) ∨
    ∃ cart before item rest left, shop.cart? user = some cart ∧
      cart.items = before ++ item :: rest ∧ asked.Names item ∧
      asked.Leaves shop.catalogue now item left ∧
      after.cart? user = some { cart with items := before ++ left ++ rest }

/-- The service answers without an error and has done what it should. -/
def Performed (shop : Shop) (now : Time) (token : Token) (asked : Edit) : Prop :=
  ∃ after, edit shop now token asked = .ok after ∧ Effective shop after now token.id asked

/-! ## What an edit does -/

theorem edit_ne_ok (shop : Shop) (now : Time) (token : Token) (asked : Edit) (after : Shop) :
    edit shop now token asked ≠ .ok after := by
  intro served
  cases asked with
  | updateCart body =>
      simp only [edit, updateCart, bind_eq_ok_iff, found_eq_ok_iff] at served
      obtain ⟨_, -, _, -, products, none_read, -⟩ := served
      cases none_read
  | updateQuantityCart idProduct idVaraint quantity =>
      simp only [edit, updateQuantityCart, bind_eq_ok_iff, found_eq_ok_iff] at served
      obtain ⟨_, -, products, none_read, -⟩ := served
      cases none_read
  | deleteProductFromCart id =>
      simp only [edit, deleteProductFromCart, bind_eq_ok_iff, found_eq_ok_iff] at served
      obtain ⟨_, -, products, none_read, -⟩ := served
      cases none_read
  | deleteProductCart id =>
      simp only [edit, deleteProductCart, bind_eq_ok_iff, found_eq_ok_iff] at served
      obtain ⟨_, -, products, none_read, -⟩ := served
      cases none_read
  | deleteCart =>
      simp only [edit, deleteCart, bind_eq_ok_iff, found_eq_ok_iff] at served
      obtain ⟨_, -, remove, none_read, -⟩ := served
      cases none_read

/-- No edit of any cart is ever performed. -/
theorem not_performed (shop : Shop) (now : Time) (token : Token) (asked : Edit) :
    ¬ Performed shop now token asked := by
  rintro ⟨after, served, -⟩
  exact edit_ne_ok shop now token asked after served

/-! ## The cart of a user -/

/-- User 7 puts an item into its cart and cannot edit it in any way. -/
theorem cornerCart_not_edited :
    run? step? (corner none) [⟨0, 7, twoUnits⟩] =
        some ((corner none).save (cornerCart 0 0 200)) ∧
      ∀ asked ∈ [Edit.updateCart ⟨20, 3, 0⟩, .updateQuantityCart 20 "a" 3,
          .deleteProductFromCart 20, .deleteProductCart "a", .deleteCart],
        ¬ Performed ((corner none).save (cornerCart 0 0 200)) 0 ⟨7, .user⟩ asked := by
  refine ⟨?_, fun asked _ => ?_⟩
  · simp only [run?, step?, corner_full, Option.bind_some]
  · rintro ⟨after, served, -⟩
    exact edit_ne_ok _ _ _ asked after served

end Proximity.Carts
