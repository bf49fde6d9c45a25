import Proximity.Apps.StoredCart
import Proximity.Carts.Pricing

/-!
# The quantities on both sides

The app counts an item it has up by one and posts the quantity it was called with; the
server sets its item to that quantity.
-/

namespace Proximity.Carts

open Proximity.Systems Proximity.Models Proximity.Catalogue Proximity.Apps

/-- The client's boxes and the server's carts. -/
structure Session where
  device : Client.Device
  shop : Shop

/-- A call of the client's `addToCart`, made while logged in. -/
structure CartAddition where
  productId : ObjectId
  selection : Client.Selection
  store : Option Client.Store
  quantity : Int
  time : Time

/-- The body that is posted, when the server's validation lets it through. -/
def CartAddition.body? (addition : CartAddition) : Option ItemBody :=
  addition.selection.variantId.bind fun variantId =>
    if atLeastOne : 1 ≤ (addition.quantity : ℚ) then
      some ⟨addition.productId, variantId, some addition.quantity, fun _ same =>
        Option.some.inj same ▸ atLeastOne⟩
    else none

/-- The call reaches its post: a store is given, and no key is null that is put. -/
def Session.posts (session : Session) (addition : CartAddition) : Bool :=
  match addition.store with
  | none => false
  | some store =>
      (session.device.memory.items.findById? addition.selection.variantId).isSome ||
        (addition.selection.variantId.isSome && store.id.isSome)

/-- What the server stores. -/
def Session.answer (session : Session) (user : ObjectId) (addition : CartAddition) : Shop :=
  match addition.body? with
  | none => session.shop
  | some body =>
      match addToCart session.shop addition.time user body with
      | .ok cart => session.shop.save cart
      | .error _ => session.shop

def addBoth? (user : ObjectId) (session : Session) (addition : CartAddition) : Option Session :=
  some {
    device := session.device.addToCart addition.selection addition.store addition.quantity
    shop := if session.posts addition = true then session.answer user addition else session.shop }

def Session.clientQuantity (session : Session) (variantId : String) : Option ℚ :=
  (session.device.memory.items.findById? (some variantId)).map fun item => item.orderedQuantity

def Session.serverQuantity (session : Session) (user : ObjectId) (variantId : String) :
    Option ℚ :=
  (session.shop.item? user variantId).map CartItem.quantity

/-- Both sides have the same quantity of every variant. -/
def Agree (user : ObjectId) (session : Session) : Prop :=
  ∀ variantId, session.clientQuantity variantId = session.serverQuantity user variantId

/-- Without a store the call does nothing; else the server is asked and succeeds, and the
variant has the stock for what is asked. -/
def Served (user : ObjectId) (source : Session) (addition : CartAddition) (_ : Session) : Prop :=
  addition.store ≠ none → source.posts addition = true ∧
    ∃ body cart, addition.body? = some body ∧
      addToCart source.shop addition.time user body = .ok cart ∧
      ∀ product variant, source.shop.catalogue.products.findById? body.productId = some product →
        variant? product body.variantId = some variant → addition.quantity ≤ variant.quantity

/-- A variant that is in the cart is asked for once more than it is there. -/
def AsksOneMore (source : Session) (addition : CartAddition) (_ : Session) : Prop :=
  addition.store ≠ none → ∀ item,
    source.device.memory.items.findById? addition.selection.variantId = some item →
      addition.quantity = item.orderedQuantity + 1

/-! ## One call -/

/-- The app's item of the variant once the call is made. -/
def addedItem (source : Session) (addition : CartAddition) : Client.CartItem :=
  match source.device.memory.items.findById? addition.selection.variantId with
  | some item => { item with orderedQuantity := item.orderedQuantity + 1 }
  | none => Client.CartItem.fromProduct addition.selection addition.quantity true

theorem addToCart_items {source : Session} {addition : CartAddition}
    (posted : source.posts addition = true) :
    (source.device.addToCart addition.selection addition.store addition.quantity).memory.items =
      source.device.memory.items.put (addedItem source addition) := by
  unfold Session.posts at posted
  cases given : addition.store with
  | none =>
      rw [given] at posted
      cases posted
  | some store =>
      rw [given] at posted
      unfold addedItem
      cases found : source.device.memory.items.findById? addition.selection.variantId with
      | some item =>
          simp only [Client.Device.addToCart, found]
          rfl
      | none =>
          simp only [found, Option.isSome_none, Bool.false_or, Bool.and_eq_true,
            Option.isSome_iff_exists] at posted
          obtain ⟨⟨key, named⟩, storeId, of⟩ := posted
          obtain ⟨cart, -, -, added⟩ :=
            Client.addToCart_new addition.quantity named (named ▸ found) of
          rw [added]
          rfl

theorem CartAddition.body?_spec {addition : CartAddition} {body : ItemBody}
    (posted : addition.body? = some body) :
    addition.selection.variantId = some body.variantId ∧
      body.quantity = some (addition.quantity : ℚ) := by
  obtain ⟨variantId, named, checked⟩ := Option.bind_eq_some_iff.mp posted
  split at checked
  case isTrue =>
      cases checked
      exact ⟨named, rfl⟩
  case isFalse => cases checked

theorem addedItem_variantId (source : Session) (addition : CartAddition) :
    (addedItem source addition).variantId = addition.selection.variantId := by
  unfold addedItem
  split
  case h_1 item found => exact (Collection.findById?_eq_some_iff.mp found).2
  case h_2 => rfl

/-- The app's item has what was asked for exactly when the call asks for one more. -/
theorem addedItem_orderedQuantity_iff {source target : Session} {addition : CartAddition}
    (given : addition.store ≠ none) :
    (addedItem source addition).orderedQuantity = addition.quantity ↔
      AsksOneMore source addition target := by
  unfold addedItem AsksOneMore
  rw [forall_prop_of_true given]
  cases source.device.memory.items.findById? addition.selection.variantId with
  | none => exact iff_of_true rfl nofun
  | some item =>
      constructor
      · rintro same other ⟨⟩
        exact same.symm
      · exact fun asks => (asks item rfl).symm

section Additions

variable {user : ObjectId} {source target : Session} {addition : CartAddition}
  (added : addBoth? user source addition = some target)

include added

theorem addBoth_without_store (none_given : addition.store = none) : target = source := by
  cases added
  simp only [none_given, Client.Device.addToCart, Session.posts, Bool.false_eq_true, if_false]

theorem addBoth_clientQuantity {key : String} (posted : source.posts addition = true)
    (named : addition.selection.variantId = some key) (variantId : String) :
    target.clientQuantity variantId =
      if variantId = key then some ((addedItem source addition).orderedQuantity : ℚ)
      else source.clientQuantity variantId := by
  cases added
  simp only [Session.clientQuantity, addToCart_items posted, Collection.findById?_put,
    Client.CartItem.document_id, addedItem_variantId, named, Option.some.injEq]
  split
  case isTrue => rfl
  case isFalse => rfl

theorem addBoth_serverQuantity {body : ItemBody} {cart : Cart}
    (posted : source.posts addition = true) (sent : addition.body? = some body)
    (answered : addToCart source.shop addition.time user body = .ok cart)
    (enough : ∀ product variant,
      source.shop.catalogue.products.findById? body.productId = some product →
      variant? product body.variantId = some variant → addition.quantity ≤ variant.quantity)
    (variantId : String) :
    target.serverQuantity user variantId =
      if variantId = body.variantId then some (addition.quantity : ℚ)
      else source.serverQuantity user variantId := by
  obtain ⟨product, variant, requested, productId, before, after, accepted⟩ :=
    addToCart_accepted answered
  cases (CartAddition.body?_spec sent).2.symm.trans accepted.given
  have stock : orderedQuantity variant (addition.quantity : ℚ) = addition.quantity :=
    orderedQuantity_eq_iff.mpr (enough product variant accepted.product_found
      accepted.variant_found)
  cases added
  simp only [Session.serverQuantity, posted, if_true, Session.answer, sent, answered]
  split
  case isTrue here =>
      rw [here, accepted.item?, Option.map_some, pricedItem, stock]
  case isFalse elsewhere => rw [accepted.item?_of_ne (Ne.symm elsewhere)]

/-- Both sides agree after a served call when it asks for one more of what it finds. -/
theorem addBoth_agree_iff (agree : Agree user source)
    (served : Served user source addition target) :
    Agree user target ↔ AsksOneMore source addition target := by
  by_cases given : addition.store = none
  · rw [addBoth_without_store added given]
    exact iff_of_true agree fun some_store => absurd given some_store
  · obtain ⟨posted, body, cart, sent, answered, enough⟩ := served given
    have client := addBoth_clientQuantity added posted (CartAddition.body?_spec sent).1
    have server := addBoth_serverQuantity added posted sent answered enough
    rw [← addedItem_orderedQuantity_iff given]
    constructor
    · intro later
      have here := later body.variantId
      rw [client, server, if_pos rfl, if_pos rfl, Option.some.injEq] at here
      exact_mod_cast here
    · intro same variantId
      rw [client, server, same]
      split
      case isTrue => rfl
      case isFalse => exact agree variantId

end Additions

/-! ## Runs -/

/-- In a run of served calls both sides always agree exactly when every call for a variant
that is in the cart asks for one more of it. -/
theorem agree_iff_asksOneMore {user : ObjectId} {session : Session} (agree : Agree user session)
    (additions : List CartAddition)
    (served : EveryStep (addBoth? user) (Served user) session additions) :
    Always (addBoth? user) (Agree user) session additions ↔
      EveryStep (addBoth? user) AsksOneMore session additions := by
  have exact_step : ∀ source addition target, Agree user source →
      addBoth? user source addition = some target → Served user source addition target →
        (Agree user target ↔ AsksOneMore source addition target) :=
    fun _ _ _ agree added served => addBoth_agree_iff added agree served
  exact always_iff_everyStep_of_allowed exact_step agree served

/-! ## Two units, twice -/

def cornerSession : Session := ⟨Client.emptyDevice, corner none⟩

theorem cornerSession_agree : Agree 7 cornerSession := fun _ => rfl

/-- Some units of the sold variant. -/
def adds (quantity : Int) : CartAddition where
  productId := 20
  selection := ⟨⟨some 100, 0, none, none⟩, some 10, some "a", some 100⟩
  store := some ⟨some 10⟩
  quantity := quantity
  time := 0

theorem addBoth_catalogue {user : ObjectId} {source target : Session} {addition : CartAddition}
    (added : addBoth? user source addition = some target) :
    target.shop.catalogue = source.shop.catalogue := by
  cases added
  simp only [Session.answer]
  split
  case isTrue =>
      split
      case h_1 => rfl
      case h_2 body sent =>
          split
          case h_1 => rfl
          case h_2 => rfl
  case isFalse => rfl

/-- Five units are in stock. -/
theorem adds_served {source target : Session} {quantity : Int}
    (catalogue : source.shop.catalogue = (corner none).catalogue) (positive : 1 ≤ quantity)
    (enough : quantity ≤ 5) : Served 7 source (adds quantity) target := by
  have atLeastOne : 1 ≤ (quantity : ℚ) := by exact_mod_cast positive
  have stock : (quantity : ℚ) ≤ 5 := by exact_mod_cast enough
  have sold : source.shop.catalogue.products.findById? 20 = some (soldProduct none) := by
    rw [catalogue]
    rfl
  have stocked : soldVariant.available = true ∧ soldVariant.quantity ≠ 0 :=
    ⟨rfl, by decide +kernel⟩
  refine fun _ => ⟨Bool.or_eq_true_iff.mpr (Or.inr rfl), _, _, dif_pos atLeastOne,
    addToCart_eq_ok_iff.mpr ⟨soldProduct none, sold, rfl, soldVariant, rfl, stocked, _, rfl, rfl⟩,
    fun product variant found offered => ?_⟩
  cases sold.symm.trans found
  cases offered
  exact stock

theorem served_of_stock {source : Session}
    (catalogue : source.shop.catalogue = (corner none).catalogue) {quantities : List Int}
    (stocked : ∀ quantity ∈ quantities, 1 ≤ quantity ∧ quantity ≤ 5) :
    EveryStep (addBoth? 7) (Served 7) source (quantities.map adds) := by
  induction quantities generalizing source with
  | nil => trivial
  | cons quantity rest ih =>
      obtain ⟨⟨positive, enough⟩, later⟩ := List.forall_mem_cons.mp stocked
      intro target added
      exact ⟨adds_served catalogue positive enough,
        ih ((addBoth_catalogue added).trans catalogue) later⟩

theorem oneThenTwo_agree_iff :
    Always (addBoth? 7) (Agree 7) cornerSession ([1, 2].map adds) ↔
      EveryStep (addBoth? 7) AsksOneMore cornerSession ([1, 2].map adds) :=
  agree_iff_asksOneMore cornerSession_agree _ (served_of_stock rfl (by decide))

/-- After two units twice the app has three and the server two. -/
theorem twoTwice_not_agree :
    Agree 7 cornerSession ∧
      EveryStep (addBoth? 7) (Served 7) cornerSession ([2, 2].map adds) ∧
      ¬ Always (addBoth? 7) (Agree 7) cornerSession ([2, 2].map adds) := by
  refine ⟨cornerSession_agree, served_of_stock rfl (by decide), fun always => ?_⟩
  have reached : ∃ target, run? (addBoth? 7) cornerSession ([2, 2].map adds) = some target ∧
      target.clientQuantity "a" = some 3 ∧ target.serverQuantity 7 "a" = some 2 :=
    ⟨_, rfl, by decide +kernel, by decide +kernel⟩
  obtain ⟨target, run, client, server⟩ := reached
  have agree := always.target run "a"
  rw [client, server] at agree
  exact absurd agree (by decide +kernel)

end Proximity.Carts
