import Mathlib.Algebra.Order.Ring.Rat
import Proximity.Catalogue.Authorization
import Proximity.Systems.Interleaving

/-!
# Offers and the products they are assigned to

An offer names its product and the product names its offer.  Four services write the
two sides one after the other, and other calls run between any two of their awaits.
-/

namespace Proximity.Catalogue.Links

open Proximity.Systems Proximity.Models

/-! ## The link -/

def Assigned (database : Database) : Prop :=
  ∀ product ∈ database.products.docs, ∀ id, product.offer = some id →
    ∃ offer ∈ database.offers.docs,
      offer.id = id ∧ offer.productId = product.id ∧ offer.offerDeleted = false

def Offered (database : Database) : Prop :=
  ∀ offer ∈ database.offers.docs, offer.offerDeleted = false →
    ∃ product ∈ database.products.docs,
      product.id = offer.productId ∧ product.offer = some offer.id

structure Linked (database : Database) : Prop where
  assigned : Assigned database
  offered : Offered database

/-- Two products with one offer are one product. -/
theorem Assigned.eq_of_offer {database : Database} (assigned : Assigned database)
    {first second : Product} {id : ObjectId} (left : first ∈ database.products.docs)
    (right : second ∈ database.products.docs) (first_offer : first.offer = some id)
    (second_offer : second.offer = some id) : first = second := by
  obtain ⟨offer, stored, named, link, -⟩ := assigned first left id first_offer
  obtain ⟨other, other_stored, other_named, other_link, -⟩ := assigned second right id second_offer
  have same : offer = other :=
    Collection.eq_of_id_eq stored other_stored (named.trans other_named.symm)
  subst same
  exact Collection.eq_of_id_eq left right (link.symm.trans other_link)

/-- A product has at most one offer that is not deleted. -/
theorem Linked.one_offer {database : Database} (linked : Linked database) {first second : Offer}
    (left : first ∈ database.offers.docs) (right : second ∈ database.offers.docs)
    (first_live : first.offerDeleted = false) (second_live : second.offerDeleted = false)
    (same : first.productId = second.productId) : first = second := by
  obtain ⟨product, stored, named, assigned⟩ := linked.offered first left first_live
  obtain ⟨other, other_stored, other_named, other_assigned⟩ :=
    linked.offered second right second_live
  have one : product = other :=
    Collection.eq_of_id_eq stored other_stored (named.trans (same.trans other_named.symm))
  subst one
  exact Collection.eq_of_id_eq left right (Option.some.inj (assigned.symm.trans other_assigned))

/-- The units of all variants together. -/
def totalQuantity (product : Product) : ℚ := (product.variants.map Variant.quantity).sum

/-! ## The services between their awaits -/

/-- What `createOffer` holds once its checks are passed. -/
structure Draft where
  boot : Time
  product : Product
  id : ObjectId
  body : NewOfferBody
  discountType : DiscountType

def Draft.offer (draft : Draft) : Offer :=
  newOffer draft.boot draft.product draft.id draft.body draft.discountType

def Draft.assign (draft : Draft) : Update Product :=
  assignOffer draft.id draft.body draft.discountType

/-- Up to `offer.save()`, which validates the offer before it is sent. -/
def draftOffer (boot : Time) (database : Database) (user : Token) (id : ObjectId)
    (body : NewOfferBody) : Except Failure Draft := do
  let product ← found .productDoesNotExist (database.products.findById? body.productId)
  require .productDoesNotExist (product.deleted = false ∧ product.sellerId = user.id)
  require .alreadyOffered (product.offer = none)
  let discountType ← found .notSaved body.discountType
  return ⟨boot, product, id, body, discountType⟩

/-- A call at one of its awaits. -/
inductive Call where
  | createOffer (newId : ObjectId) (user : Token) (body : NewOfferBody)
  | savingOffer (draft : Draft)
  | assigningOffer (draft : Draft)
  | deleteOffer (id : ObjectId)
  | removingOffer (id : ObjectId)
  | deleteProduct (user : Token) (id : ObjectId)
  | deletingProduct (id : ObjectId)
  | deleteStore (storeId : ObjectId)
  | deletingProducts (storeId : ObjectId)
  | deletingStore (storeId : ObjectId)
  | answered (failure : Option Failure)

/-- One turn of a call; `boot` is when the process that runs it started. -/
def advance (boot : Time) (database : Database) : Call → Database × Call
  | .createOffer newId user body =>
      match draftOffer boot database user newId body with
      | .ok draft => ⟨database, .savingOffer draft⟩
      | .error failure => ⟨database, .answered (some failure)⟩
  | .savingOffer draft =>
      ⟨{ database with offers := database.offers.insert draft.offer }, .assigningOffer draft⟩
  | .assigningOffer draft =>
      ⟨{ database with
        products := database.products.update draft.body.productId draft.assign }, .answered none⟩
  | .deleteOffer id =>
      ⟨{ database with offers := database.offers.update id expireOffer }, .removingOffer id⟩
  | .removingOffer id =>
      match offered? database id with
      | some product =>
          ⟨{ database with products := database.products.update product.id removeOffer },
            .answered none⟩
      | none => ⟨database, .answered none⟩
  | .deleteProduct user id =>
      match deleteProduct database user id with
      | .ok _ => ⟨database, .deletingProduct id⟩
      | .error failure => ⟨database, .answered (some failure)⟩
  | .deletingProduct id =>
      ⟨{ database with products := database.products.delete id }, .answered none⟩
  | .deleteStore storeId =>
      match deleteStore database storeId with
      | .ok _ => ⟨database, .deletingProducts storeId⟩
      | .error failure => ⟨database, .answered (some failure)⟩
  | .deletingProducts storeId =>
      ⟨{ database with
        products := database.products.deleteMany fun product => product.storeId = storeId },
        .deletingStore storeId⟩
  | .deletingStore storeId =>
      ⟨{ database with stores := database.stores.delete storeId }, .answered none⟩
  | .answered failure => ⟨database, .answered failure⟩

/-- An action names the call whose turn it is. -/
def callTurn? : Crowd Database Call → Nat × Time → Option (Crowd Database Call) :=
  turn? advance

/-- The call has not begun. -/
def Call.Entry : Call → Prop
  | .createOffer _ _ _ | .deleteOffer _ | .deleteProduct _ _ | .deleteStore _ => True
  | _ => False

/-- No call is between its first and its last turn. -/
def AtRest (crowd : Crowd Database Call) : Prop :=
  ∀ call ∈ crowd.agents, call.Entry ∨ ∃ failure, call = .answered failure

section Reads

variable {boot : Time} {database : Database} {id : ObjectId}

theorem draftOffer_eq_ok_iff {user : Token} {body : NewOfferBody}
    {draft : Draft} :
    draftOffer boot database user id body = .ok draft ↔
      ∃ product, database.products.findById? body.productId = some product ∧
        (product.deleted = false ∧ product.sellerId = user.id) ∧ product.offer = none ∧
        ∃ discountType, body.discountType = some discountType ∧
          ⟨boot, product, id, body, discountType⟩ = draft := by
  simp [draftOffer]

theorem offered?_eq_none_iff :
    offered? database id = none ↔
      ∀ product ∈ database.products.docs, product.offer ≠ some id := by
  simp [offered?, Collection.findOne?_eq_none_iff]

theorem offered?_spec {product : Product}
    (found : offered? database id = some product) :
    product ∈ database.products.docs ∧ product.offer = some id := by
  obtain ⟨stored, named⟩ := Collection.findOne?_spec found
  exact ⟨stored, of_decide_eq_true named⟩

/-- An offer that is deleted is not live afterwards. -/
theorem mem_expired {offer : Offer}
    (stored : offer ∈ (database.offers.update id expireOffer).docs)
    (live : offer.offerDeleted = false) : offer ∈ database.offers.docs ∧ offer.id ≠ id := by
  rcases Collection.mem_update.mp stored with old | ⟨before, -, rfl⟩
  · exact old
  · cases live

end Reads

/-! ## A call that runs undisturbed -/

/-- The effect of the whole service, on the database that the call begins with. -/
def Call.service (boot : Time) (database : Database) : Call → Except Failure Effect
  | .createOffer newId user body => Catalogue.createOffer boot database user newId body
  | .deleteOffer id => Catalogue.deleteOffer database id
  | .deleteProduct user id => Catalogue.deleteProduct database user id
  | .deleteStore storeId => Catalogue.deleteStore database storeId
  | _ => .ok Effect.nothing

/-- Three turns in a row, which is all that any of the calls takes. -/
def undisturbed (boot : Time) (database : Database) (call : Call) : Database × Call :=
  let first := advance boot database call
  let second := advance boot first.1 first.2
  advance boot second.1 second.2

def answer (database : Database) : Except Failure Effect → Database × Call
  | .ok effect => (database.apply effect, .answered none)
  | .error failure => (database, .answered (some failure))

theorem createOffer_eq (boot : Time) (database : Database) (user : Token) (id : ObjectId)
    (body : NewOfferBody) :
    Catalogue.createOffer boot database user id body =
      (draftOffer boot database user id body).map fun draft =>
        { Effect.nothing with
          offers := [.insert draft.offer]
          products := [.update draft.body.productId draft.assign] } := by
  unfold Catalogue.createOffer draftOffer
  cases database.products.findById? body.productId with
  | none => rfl
  | some product =>
      by_cases owned : product.deleted = false ∧ product.sellerId = user.id
      · by_cases free : product.offer = none
        · simp only [found, require, bind, Except.bind, if_pos owned, if_pos free]
          cases body.discountType with
          | none => rfl
          | some discountType => rfl
        · simp only [found, require, bind, Except.bind, if_pos owned, if_neg free]
          rfl
      · simp only [found, require, bind, Except.bind, if_neg owned]
        rfl

theorem deletions_eq (database : Database) (storeId : ObjectId) :
    Write.applyAll database.products (deletions database storeId) =
      database.products.deleteMany fun product => product.storeId = storeId := by
  refine Collection.eq_of_docs_eq ?_
  rw [deletions, Write.docs_applyAll_deletes, Collection.deleteMany]
  refine List.filter_congr fun product stored => ?_
  rw [Bool.eq_iff_iff]
  simp only [List.mem_map, List.mem_filter, decide_eq_true_eq, Bool.not_eq_true',
    decide_eq_false_iff_not, Product.document_id]
  refine not_congr ⟨?_, fun here => ⟨product, ⟨stored, here⟩, rfl⟩⟩
  rintro ⟨other, ⟨other_stored, here⟩, same⟩
  rw [← Collection.eq_of_id_eq other_stored stored same]
  exact here

/-- When no other call comes between, every call does what its service does. -/
theorem undisturbed_eq (boot : Time) (database : Database) {call : Call} (entry : call.Entry) :
    undisturbed boot database call = answer database (call.service boot database) := by
  cases call with
  | createOffer newId user body =>
      rw [Call.service, createOffer_eq]
      cases drafted : draftOffer boot database user newId body with
      | error failure =>
          simp only [undisturbed, advance, drafted]
          rfl
      | ok draft =>
          simp only [undisturbed, advance, drafted]
          rfl
  | deleteOffer id =>
      have same : offered? { database with offers := database.offers.update id expireOffer } id =
          offered? database id := rfl
      simp only [Call.service, Catalogue.deleteOffer, undisturbed, advance, same]
      cases offered? database id with
      | none => rfl
      | some product => rfl
  | deleteProduct user id =>
      cases checked : Catalogue.deleteProduct database user id with
      | error failure =>
          simp only [Call.service, undisturbed, advance, checked]
          rfl
      | ok effect =>
          simp only [Call.service, undisturbed, advance, checked]
          simp only [Catalogue.deleteProduct, bind_eq_ok_iff, pure_eq_ok_iff] at checked
          obtain ⟨product, -, _, -, rfl⟩ := checked
          rfl
  | deleteStore storeId =>
      cases checked : Catalogue.deleteStore database storeId with
      | error failure =>
          simp only [Call.service, undisturbed, advance, checked]
          rfl
      | ok effect =>
          simp only [Call.service, undisturbed, advance, checked]
          simp only [Catalogue.deleteStore, bind_eq_ok_iff, pure_eq_ok_iff] at checked
          obtain ⟨store, -, rfl⟩ := checked
          rw [← deletions_eq]
          rfl
  | _ => cases entry

/-! ## A product without an offer -/

/-- Five units of a product that has no offer. -/
def fiveUnits : Product :=
  { sellerProduct with
    variants := [⟨"a", [], 5, 5, none, true⟩]
    discount := 0
    discountType := none
    offer := none }

def unofferedMarket : Database := { market with
  products := ⟨[fiveUnits], by simp⟩
  offers := Collection.empty }

def fifthOff (offerStock : ℚ) : NewOfferBody where
  productId := 20
  offerExpiration := none
  offerImage := none
  offerName := none
  offerDescription := none
  offerDiscount := 20
  offerStock := offerStock
  discountType := some .percentage

theorem unofferedMarket_linked : Linked unofferedMarket := by
  constructor
  · intro product stored id assigned
    cases List.mem_singleton.mp stored
    cases assigned
  · exact List.forall_mem_nil _

end Proximity.Catalogue.Links
