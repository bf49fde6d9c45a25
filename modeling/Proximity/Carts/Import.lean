import Proximity.Carts.Pricing
import Proximity.Systems.Interleaving

/-!
# The import of a guest's cart

`register` starts one addition for every entry of the guest's cart and waits for all of
them.  An addition looks its entry up, finds the cart of the new account and saves; the
others take their turns in between.
-/

namespace Proximity.Carts

open Proximity.Systems Proximity.Models Proximity.Catalogue

/-- An entry of the guest's cart, whose quantity nothing has validated. -/
structure Entry where
  productId : ObjectId
  variantId : String
  quantity : Option ℚ
  deriving DecidableEq, Repr

/-- What an addition knows of its entry once it is looked up. -/
structure LookedUp where
  variant : Variant
  offer? : Option Offer
  quantity : ℚ

/-- The checks and look-ups in front of the cart, the same in both copies of the code.
Without a quantity the total is not a number, which mongoose does not save. -/
def lookUp (catalogue : Database) (now : Time) (element : Entry) : Except Failure LookedUp := do
  let product ← found .productDoesNotExist (catalogue.products.findById? element.productId)
  require .productDoesNotExist (product.deleted = false)
  let variant ← found .variantNotAvailable (variant? product element.variantId)
  require .variantNotAvailable (variant.available = true ∧ variant.quantity ≠ 0)
  let requested ← found .notSaved element.quantity
  return ⟨variant, liveOffer? catalogue.offers now product, orderedQuantity variant requested⟩

def Entry.item (element : Entry) (priced : LookedUp) : CartItem :=
  pricedItem element.productId element.variantId priced.variant priced.offer? priced.quantity

/-! ## One entry after another -/

theorem unasked_atLeastOne : ∀ number : ℚ, none = some number → 1 ≤ number := by
  rintro number ⟨⟩

/-- The body that names the entry's item; its quantity is not read where items are put. -/
def Entry.named (element : Entry) : ItemBody :=
  ⟨element.productId, element.variantId, none, unasked_atLeastOne⟩

/-- `addToCart` of an entry that was not validated. -/
def addEntry (shop : Shop) (now : Time) (user : ObjectId) (element : Entry) :
    Except Failure Cart := do
  let priced ← lookUp shop.catalogue now element
  let cart := shop.cartOrNew user
  return { cart with
    items := putItem element.named priced.variant priced.offer? priced.quantity cart.items }

theorem putItem_congr (first second : ItemBody) (product : first.productId = second.productId)
    (named : first.variantId = second.variantId) (variant : Variant) (offer? : Option Offer)
    (quantity : ℚ) (items : List CartItem) :
    putItem first variant offer? quantity items = putItem second variant offer? quantity items := by
  induction items with
  | nil => rw [putItem, putItem, product, named]
  | cons item rest ih => rw [putItem, putItem, named, ih]

/-- On a validated body it is the service. -/
theorem addToCart_eq_addEntry (shop : Shop) (now : Time) (user : ObjectId) (body : ItemBody) :
    addToCart shop now user body =
      addEntry shop now user ⟨body.productId, body.variantId, body.quantity⟩ := by
  obtain ⟨productId, variantId, quantity, atLeastOne⟩ := body
  have put (variant : Variant) (offer? : Option Offer) (ordered : ℚ) (items : List CartItem) :
      putItem ⟨productId, variantId, quantity, atLeastOne⟩ variant offer? ordered items =
        putItem (Entry.named ⟨productId, variantId, quantity⟩) variant offer? ordered items :=
    putItem_congr ⟨productId, variantId, quantity, atLeastOne⟩
      (Entry.named ⟨productId, variantId, quantity⟩) rfl rfl variant offer? ordered items
  unfold addToCart addEntry lookUp
  cases shop.catalogue.products.findById? productId with
  | none => rfl
  | some product =>
      by_cases deleted : product.deleted = false
      · cases named : variant? product variantId with
        | none => simp [found, require, deleted, named, bind, Except.bind]
        | some variant =>
            by_cases stocked : variant.available = true ∧ variant.quantity ≠ 0
            · cases quantity with
              | none => simp [found, require, deleted, named, stocked, bind, Except.bind]
              | some requested =>
                  simp [found, require, deleted, named, stocked, bind, Except.bind, put, pure,
                    Except.pure]
            · simp [found, require, deleted, named, stocked, bind, Except.bind]
      · simp [found, require, deleted, bind, Except.bind]

/-- A refused entry is left out. -/
def Shop.add (user : ObjectId) (now : Time) (shop : Shop) (element : Entry) : Shop :=
  match addEntry shop now user element with
  | .ok cart => shop.save cart
  | .error _ => shop

def Shop.addAll (user : ObjectId) (now : Time) (shop : Shop) (entries : List Entry) : Shop :=
  entries.foldl (Shop.add user now) shop

/-! ## All entries at once -/

/-- The cart of the new account, with the version that mongoose counts. -/
structure StoredCart where
  items : List CartItem
  version : Nat
  deriving DecidableEq

inductive Addition where
  | entered (element : Entry)
  | priced (element : Entry) (priced : LookedUp)
  | holding (element : Entry) (priced : LookedUp) (cart : Option StoredCart)
  | settled

/-- The fields that a save sets in place are those that were changed since the find. -/
def changedFields (seen fresh stored : CartItem) : CartItem :=
  { stored with
    quantity := if fresh.quantity = seen.quantity then stored.quantity else fresh.quantity
    discountQuantity :=
      if fresh.discountQuantity = seen.discountQuantity then stored.discountQuantity
      else fresh.discountQuantity
    discount := if fresh.discount = seen.discount then stored.discount else fresh.discount
    totalPrice :=
      if fresh.totalPrice = seen.totalPrice then stored.totalPrice else fresh.totalPrice }

/-- The first item of a variant, with its place. -/
def place? (variantId : String) (items : List CartItem) : Option (Nat × CartItem) :=
  (items.findIdx? fun item => decide (item.variantId = variantId)).bind fun index =>
    items[index]?.map fun item => (index, item)

/-- A new item is pushed whatever happened since the find.  An item in place is set only if
the version is still the one that was found. -/
def saveFound (seen stored : StoredCart) (fresh : CartItem) : StoredCart :=
  match place? fresh.variantId seen.items with
  | none => ⟨stored.items ++ [fresh], stored.version + 1⟩
  | some (index, item) =>
      if stored.version = seen.version then
        { stored with items := stored.items.modify index (changedFields item fresh) }
      else stored

/-- The save at the end of an addition.  Without a cart found one is inserted, and the
index on `userId` refuses a second one. -/
def saveAddition (stored found : Option StoredCart) (fresh : CartItem) : Option StoredCart :=
  match found, stored with
  | none, none => some ⟨[fresh], 0⟩
  | none, some cart => some cart
  | some _, none => none
  | some seen, some cart => some (saveFound seen cart fresh)

/-- One turn of an addition, from one `await` to the next; the look-ups read what no
addition writes.  Whatever is thrown settles it. -/
def advance (catalogue : Database) (now : Time) (stored : Option StoredCart) :
    Addition → Option StoredCart × Addition
  | .entered element =>
      match lookUp catalogue now element with
      | .ok priced => (stored, .priced element priced)
      | .error _ => (stored, .settled)
  | .priced element priced => (stored, .holding element priced stored)
  | .holding element priced cart => (saveAddition stored cart (element.item priced), .settled)
  | .settled => (stored, .settled)

theorem advance_of_ok {catalogue : Database} {now : Time} {element : Entry} {priced : LookedUp}
    (looked : lookUp catalogue now element = .ok priced) (stored : Option StoredCart) :
    advance catalogue now stored (.entered element) = (stored, .priced element priced) := by
  rw [advance, looked]

theorem advance_of_error {catalogue : Database} {now : Time} {element : Entry} {failure : Failure}
    (looked : lookUp catalogue now element = .error failure) (stored : Option StoredCart) :
    advance catalogue now stored (.entered element) = (stored, .settled) := by
  rw [advance, looked]

def importTurn? (catalogue : Database) :
    Crowd (Option StoredCart) Addition → Nat × Time → Option (Crowd (Option StoredCart) Addition) :=
  turn? (advance catalogue)

/-- The new account has no cart. -/
def startImport (entries : List Entry) : Crowd (Option StoredCart) Addition :=
  ⟨none, entries.map Addition.entered⟩

/-- `Promise.all` is fulfilled. -/
def Finished (crowd : Crowd (Option StoredCart) Addition) : Prop :=
  ∀ addition ∈ crowd.agents, addition = .settled

/-! ## What is in a cart -/

/-- An item and its quantity. -/
abbrev OrderLine := ObjectId × String × ℚ

def CartItem.orderLine (item : CartItem) : OrderLine :=
  (item.productId, item.variantId, item.quantity)

def linesOf (items? : Option (List CartItem)) : List OrderLine :=
  (items?.getD []).map CartItem.orderLine

/-- The line that a valid entry leads to. -/
def line? (catalogue : Database) (element : Entry) : Option OrderLine :=
  match lookUp catalogue 0 element with
  | .ok priced => some (element.item priced).orderLine
  | .error _ => none

/-- All valid entries lead to one line. -/
def OneLine (catalogue : Database) (entries : List Entry) : Prop :=
  ∀ first ∈ entries, ∀ second ∈ entries, ∀ firstLine secondLine,
    line? catalogue first = some firstLine → line? catalogue second = some secondLine →
      firstLine = secondLine

theorem lookUp_eq_ok_iff {catalogue : Database} {now : Time} {element : Entry} {priced : LookedUp} :
    lookUp catalogue now element = .ok priced ↔
      ∃ product, catalogue.products.findById? element.productId = some product ∧
        product.deleted = false ∧
        ∃ variant, variant? product element.variantId = some variant ∧
          (variant.available = true ∧ variant.quantity ≠ 0) ∧
          ∃ requested, element.quantity = some requested ∧
            ⟨variant, liveOffer? catalogue.offers now product,
              orderedQuantity variant requested⟩ = priced := by
  simp [lookUp]

/-- The line does not depend on when the entry is looked up. -/
theorem line?_of_lookUp {catalogue : Database} {now : Time} {element : Entry} {priced : LookedUp}
    (looked : lookUp catalogue now element = .ok priced) :
    line? catalogue element = some (element.item priced).orderLine := by
  obtain ⟨product, found, kept, variant, offered, stocked, requested, given, rfl⟩ :=
    lookUp_eq_ok_iff.mp looked
  have early : lookUp catalogue 0 element = .ok ⟨variant, liveOffer? catalogue.offers 0 product,
      orderedQuantity variant requested⟩ :=
    lookUp_eq_ok_iff.mpr ⟨product, found, kept, variant, offered, stocked, requested, given, rfl⟩
  rw [line?, early]
  rfl

theorem lookUp_of_line? {catalogue : Database} {element : Entry} {line : OrderLine} (now : Time)
    (led : line? catalogue element = some line) :
    ∃ priced, lookUp catalogue now element = .ok priced ∧
      (element.item priced).orderLine = line := by
  unfold line? at led
  split at led
  case h_2 => cases led
  case h_1 early looked =>
      cases led
      obtain ⟨product, found, kept, variant, offered, stocked, requested, given, rfl⟩ :=
        lookUp_eq_ok_iff.mp looked
      exact ⟨_, lookUp_eq_ok_iff.mpr
        ⟨product, found, kept, variant, offered, stocked, requested, given, rfl⟩, rfl⟩

theorem lookUp_of_no_line {catalogue : Database} {element : Entry} (now : Time)
    (led : line? catalogue element = none) :
    ∃ failure, lookUp catalogue now element = .error failure := by
  cases looked : lookUp catalogue now element with
  | error failure => exact ⟨failure, rfl⟩
  | ok priced =>
      rw [line?_of_lookUp looked] at led
      cases led

end Proximity.Carts
