import Proximity.Catalogue.Links

/-!
# The copies of a discount

An offer and the product it is assigned to both store the discount, its type and its
expiration.  Four services write one copy or both.
-/

namespace Proximity.Catalogue.Discounts

open Proximity.Systems Proximity.Models Proximity.Catalogue.Links

/-- The collections, and the products that ever had an offer. -/
structure Ledger where
  database : Database
  once : List ObjectId

inductive Call where
  | createOffer (boot : Time) (user : Token) (newId : ObjectId) (body : NewOfferBody)
  | updateOffer (user : Token) (id : ObjectId) (body : OfferBody)
  | deleteOffer (id : ObjectId)
  | updateProduct (user : Token) (id : ObjectId) (body : ProductBody)

def Call.serve (database : Database) : Call → Except Failure Effect
  | .createOffer boot user newId body => Catalogue.createOffer boot database user newId body
  | .updateOffer user id body => Catalogue.updateOffer database user id body
  | .deleteOffer id => Catalogue.deleteOffer database id
  | .updateProduct user id body => Catalogue.updateProduct database user id body

/-- The products that get an offer. -/
def Call.offered : Call → List ObjectId
  | .createOffer _ _ _ body => [body.productId]
  | _ => []

/-- The id of a new offer is not in use. -/
def Call.Fresh (database : Database) : Call → Prop
  | .createOffer _ _ newId _ => database.offers.findById? newId = none
  | _ => True

instance (database : Database) (call : Call) : Decidable (call.Fresh database) := by
  cases call with
  | createOffer boot user newId body =>
      exact inferInstanceAs (Decidable (database.offers.findById? newId = none))
  | _ => exact isTrue trivial

/-- A call that fails writes nothing. -/
def step? (ledger : Ledger) (call : Call) : Option Ledger :=
  if call.Fresh ledger.database then
    match call.serve ledger.database with
    | .ok effect => some ⟨ledger.database.apply effect, call.offered ++ ledger.once⟩
    | .error _ => some ledger
  else none

/-! ## Synchrony -/

structure Copies (offer : Offer) (product : Product) : Prop where
  discount : product.discount = offer.offerDiscount
  discountType : product.discountType = some offer.discountType
  expiration : product.discountExpiration = offer.offerExpiration

/-- The offer field of the product names the offer, which is live. -/
structure NamesLive (database : Database) (product : Product) (offer : Offer) : Prop where
  stored : offer ∈ database.offers.docs
  named : product.offer = some offer.id
  live : offer.offerDeleted = false

structure Synced (ledger : Ledger) : Prop where
  copied : ∀ product ∈ ledger.database.products.docs, ∀ offer,
    NamesLive ledger.database product offer → Copies offer product
  cleared : ∀ product ∈ ledger.database.products.docs, product.id ∈ ledger.once →
    (∀ offer, ¬ NamesLive ledger.database product offer) → product.discount = 0

/-- Assigned offers are live, and their products are remembered. -/
structure Held (ledger : Ledger) : Prop where
  assigned : Assigned ledger.database
  remembered : ∀ product ∈ ledger.database.products.docs, product.offer ≠ none →
    product.id ∈ ledger.once

/-- What is in synchrony about one product whose offer, if any, is live. -/
def InSync (ledger : Ledger) (product : Product) : Prop :=
  match product.offer with
  | some id => ∀ offer ∈ ledger.database.offers.docs, offer.id = id → Copies offer product
  | none => product.id ∈ ledger.once → product.discount = 0

theorem inSync_of_offer {ledger : Ledger} {product : Product} {id : ObjectId}
    (assigned : product.offer = some id) :
    InSync ledger product ↔
      ∀ offer ∈ ledger.database.offers.docs, offer.id = id → Copies offer product := by
  rw [InSync, assigned]

theorem inSync_of_none {ledger : Ledger} {product : Product} (unassigned : product.offer = none) :
    InSync ledger product ↔ (product.id ∈ ledger.once → product.discount = 0) := by
  rw [InSync, unassigned]

theorem Held.synced_iff {ledger : Ledger} (held : Held ledger) :
    Synced ledger ↔ ∀ product ∈ ledger.database.products.docs, InSync ledger product := by
  constructor
  · intro synced product stored
    cases assigned : product.offer with
    | none =>
        refine (inSync_of_none assigned).mpr fun remembered => ?_
        refine synced.cleared product stored remembered fun offer names => ?_
        cases assigned.symm.trans names.named
    | some id =>
        refine (inSync_of_offer assigned).mpr fun offer offer_stored named => ?_
        obtain ⟨other, other_stored, other_named, -, live⟩ :=
          held.assigned product stored id assigned
        rw [Collection.eq_of_id_eq other_stored offer_stored (other_named.trans named.symm)] at live
        exact synced.copied product stored offer
          ⟨offer_stored, assigned.trans (congrArg some named.symm), live⟩
  · intro all
    constructor
    · intro product stored offer names
      exact (inSync_of_offer names.named).mp (all product stored) offer names.stored rfl
    · intro product stored remembered unnamed
      cases assigned : product.offer with
      | none => exact (inSync_of_none assigned).mp (all product stored) remembered
      | some id =>
          obtain ⟨offer, offer_stored, named, -, live⟩ := held.assigned product stored id assigned
          exact (unnamed offer ⟨offer_stored, assigned.trans (congrArg some named.symm), live⟩).elim

/-! ## Accepted calls -/

theorem createOffer_eq_ok_iff {boot : Time} {database : Database} {user : Token} {id : ObjectId}
    {body : NewOfferBody} {effect : Effect} :
    createOffer boot database user id body = .ok effect ↔
      ∃ draft, draftOffer boot database user id body = .ok draft ∧
        { Effect.nothing with
          offers := [.insert draft.offer]
          products := [.update draft.body.productId draft.assign] } = effect := by
  rw [createOffer_eq]
  cases draftOffer boot database user id body with
  | error failure => simp [Except.map]
  | ok draft => simp [Except.map]

theorem updateOffer_effect {database : Database} {user : Token} {id : ObjectId}
    {body : OfferBody} {effect : Effect}
    (accepted : updateOffer database user id body = .ok effect) :
    { Effect.nothing with offers := [.update id (offerUpdate body)] } = effect := by
  simp only [updateOffer, bind_eq_ok_iff, found_eq_ok_iff, require_eq_ok_iff,
    pure_eq_ok_iff] at accepted
  obtain ⟨offer, -, _, -, rfl⟩ := accepted
  rfl

theorem updateProduct_effect {database : Database} {user : Token} {id : ObjectId}
    {body : ProductBody} {effect : Effect}
    (accepted : updateProduct database user id body = .ok effect) :
    ∃ product variants, database.products.findById? id = some product ∧
      { Effect.nothing with products := [.update id (productUpdate body variants)] } = effect := by
  simp only [updateProduct, bind_eq_ok_iff, found_eq_ok_iff, require_eq_ok_iff,
    pure_eq_ok_iff] at accepted
  obtain ⟨product, found, _, -, _, -, _, -, variants, -, rfl⟩ := accepted
  exact ⟨product, variants, found, rfl⟩

/-! ## One call -/

section Calls

variable {ledger : Ledger} (held : Held ledger)
  (synced : ∀ product ∈ ledger.database.products.docs, InSync ledger product)

/-- The ledger once an offer is saved and assigned. -/
def Ledger.promote (ledger : Ledger) (draft : Draft) : Ledger where
  database := { ledger.database with
    offers := ledger.database.offers.insert draft.offer
    products := ledger.database.products.update draft.body.productId draft.assign }
  once := draft.body.productId :: ledger.once

def Ledger.changeOffer (ledger : Ledger) (id : ObjectId) (body : OfferBody) : Ledger :=
  { ledger with database := { ledger.database with
    offers := ledger.database.offers.update id (offerUpdate body) } }

def Ledger.changeProduct (ledger : Ledger) (id : ObjectId) (body : ProductBody)
    (variants : List Variant) : Ledger :=
  { ledger with database := { ledger.database with
    products := ledger.database.products.update id (productUpdate body variants) } }

/-- The ledger once an offer is deleted and taken from its product. -/
def Ledger.expire (ledger : Ledger) (id : ObjectId) : Ledger :=
  { ledger with database := { ledger.database with
    offers := ledger.database.offers.update id expireOffer
    products := match offered? ledger.database id with
      | some product => ledger.database.products.update product.id removeOffer
      | none => ledger.database.products } }

include held

/-- An offer that is assigned to a stored product is not a new one. -/
theorem Held.ne_fresh {product : Product} {id newId : ObjectId}
    (stored : product ∈ ledger.database.products.docs) (assigned : product.offer = some id)
    (fresh : ledger.database.offers.findById? newId = none) : id ≠ newId := by
  obtain ⟨offer, offer_stored, named, -⟩ := held.assigned product stored id assigned
  rintro rfl
  exact Collection.findById?_eq_none_iff.mp fresh offer offer_stored named

theorem Held.promote {draft : Draft}
    (fresh : ledger.database.offers.findById? draft.id = none) : Held (ledger.promote draft) := by
  constructor
  · refine Collection.forall_update (fun product stored id assigned => ?_)
      fun product _ here id assigned => ?_
    · obtain ⟨offer, offer_stored, rest⟩ := held.assigned product stored id assigned
      exact ⟨offer, Collection.mem_insert_of_mem _ offer_stored, rest⟩
    · cases assigned
      exact ⟨draft.offer, Collection.mem_insert.mpr (Or.inr ⟨fresh, rfl⟩), rfl, here.symm, rfl⟩
  · refine Collection.forall_update (fun product stored offered => ?_) fun product _ here _ => ?_
    · exact List.mem_cons_of_mem _ (held.remembered product stored offered)
    · exact List.mem_cons.mpr (Or.inl here)

theorem Held.changeOffer (id : ObjectId) (body : OfferBody) :
    Held (ledger.changeOffer id body) := by
  refine ⟨fun product stored other assigned => ?_, held.remembered⟩
  obtain ⟨offer, offer_stored, named, link, live⟩ := held.assigned product stored other assigned
  by_cases here : offer.id = id
  · have found : ledger.database.offers.findById? id = some offer :=
      Collection.findById?_eq_some_iff.mpr ⟨offer_stored, here⟩
    exact ⟨(offerUpdate body).apply offer, (Collection.mem_update_of_found found).mpr (Or.inr rfl),
      named, link, live⟩
  · exact ⟨offer, Collection.mem_update.mpr (Or.inl ⟨offer_stored, here⟩), named, link, live⟩

theorem Held.changeProduct (id : ObjectId) (body : ProductBody) (variants : List Variant) :
    Held (ledger.changeProduct id body variants) :=
  ⟨Collection.forall_update held.assigned fun product stored _ => held.assigned product stored,
    Collection.forall_update held.remembered fun product stored _ =>
      held.remembered product stored⟩

include synced

theorem promote_inSync_iff (draft : Draft) {product : Product}
    (fresh : ledger.database.offers.findById? draft.id = none)
    (found : ledger.database.products.findById? draft.body.productId = some product) :
    (∀ product ∈ (ledger.promote draft).database.products.docs,
        InSync (ledger.promote draft) product) ↔
      (draft.body.offerExpiration = none →
        product.discountExpiration = draft.boot + 86400000) := by
  have others : ∀ other ∈ ledger.database.products.docs, other.id ≠ draft.body.productId →
      InSync (ledger.promote draft) other := by
    intro other stored elsewhere
    cases assigned : other.offer with
    | none =>
        refine (inSync_of_none assigned).mpr fun remembered => ?_
        rcases List.mem_cons.mp remembered with here | before
        · exact absurd here elsewhere
        · exact (inSync_of_none assigned).mp (synced other stored) before
    | some id =>
        refine (inSync_of_offer assigned).mpr fun offer offer_stored named => ?_
        rcases Collection.mem_insert.mp offer_stored with old | ⟨-, rfl⟩
        · exact (inSync_of_offer assigned).mp (synced other stored) offer old named
        · exact absurd named.symm (held.ne_fresh stored assigned fresh)
  refine (Collection.forall_update_iff others found).trans ?_
  rw [inSync_of_offer rfl]
  have copies_iff : Copies draft.offer (draft.assign.apply product) ↔
      (draft.body.offerExpiration = none →
        product.discountExpiration = draft.boot + 86400000) := by
    cases given : draft.body.offerExpiration with
    | none =>
        refine ⟨fun copies _ => ?_, fun same => ⟨rfl, rfl, ?_⟩⟩
        · simpa [Draft.assign, Draft.offer, assignOffer, newOffer, given] using copies.expiration
        · simpa [Draft.assign, Draft.offer, assignOffer, newOffer, given] using same
    | some expiration =>
        refine iff_of_true ⟨rfl, rfl, ?_⟩ fun missing =>
          absurd missing (Option.some_ne_none expiration)
        simp [Draft.assign, Draft.offer, assignOffer, newOffer, given]
  rw [← copies_iff]
  constructor
  · exact fun all => all draft.offer (Collection.mem_insert.mpr (Or.inr ⟨fresh, rfl⟩)) rfl
  · intro copies offer stored named
    rcases Collection.mem_insert.mp stored with old | ⟨-, rfl⟩
    · exact absurd named (Collection.findById?_eq_none_iff.mp fresh offer old)
    · exact copies

omit held in
/-- The change of an assigned offer may change nothing that is copied. -/
theorem changeOffer_inSync_iff (id : ObjectId) (body : OfferBody) :
    (∀ product ∈ (ledger.changeOffer id body).database.products.docs,
        InSync (ledger.changeOffer id body) product) ↔
      ∀ product ∈ ledger.database.products.docs, product.offer = some id →
        ∀ offer ∈ ledger.database.offers.docs, offer.id = id →
          body.offerDiscount.getD offer.offerDiscount = offer.offerDiscount ∧
            body.offerExpiration.getD offer.offerExpiration = offer.offerExpiration := by
  refine forall₂_congr fun product stored => ?_
  cases assigned : product.offer with
  | none =>
      have before := synced product stored
      rw [inSync_of_none assigned] at before ⊢
      exact iff_of_true before nofun
  | some other =>
      have before := (inSync_of_offer assigned).mp (synced product stored)
      rw [inSync_of_offer assigned]
      constructor
      · rintro after ⟨⟩ offer offer_stored named
        have copied := before offer offer_stored named
        have found : ledger.database.offers.findById? id = some offer :=
          Collection.findById?_eq_some_iff.mpr ⟨offer_stored, named⟩
        have copies := after ((offerUpdate body).apply offer)
          ((Collection.mem_update_of_found found).mpr (Or.inr rfl)) named
        exact ⟨copies.discount.symm.trans copied.discount,
          copies.expiration.symm.trans copied.expiration⟩
      · intro keeps offer offer_stored named
        rcases Collection.mem_update.mp offer_stored with ⟨old, -⟩ | ⟨earlier, found, rfl⟩
        · exact before offer old named
        · obtain ⟨old, here⟩ := Collection.findById?_eq_some_iff.mp found
          have same : other = id := named.symm.trans here
          obtain ⟨discount, expiration⟩ := keeps (congrArg some same) earlier old here
          have copied := before earlier old named
          exact ⟨copied.discount.trans discount.symm, copied.discountType,
            copied.expiration.trans expiration.symm⟩

/-- A product that had an offer may not get another discount of its own. -/
theorem changeProduct_inSync_iff {id : ObjectId} {body : ProductBody} {variants : List Variant}
    {product : Product} (found : ledger.database.products.findById? id = some product) :
    (∀ product ∈ (ledger.changeProduct id body variants).database.products.docs,
        InSync (ledger.changeProduct id body variants) product) ↔
      (id ∈ ledger.once → ∀ given, body.discount = some given → given.truthy = true →
        given.value = product.discount) := by
  rw [← orKept_eq_kept_iff]
  obtain ⟨stored, named⟩ := Collection.findById?_eq_some_iff.mp found
  refine (Collection.forall_update_iff (fun other other_stored _ => ?_) found).trans ?_
  · exact synced other other_stored
  · have before := synced product stored
    cases assigned : product.offer with
    | none =>
        rw [inSync_of_none assigned] at before
        rw [inSync_of_none (show ((productUpdate body variants).apply product).offer = none from
          assigned), ← named]
        refine forall_congr' fun remembered => ?_
        exact ⟨fun cleared => cleared.trans (before remembered).symm,
          fun kept => kept.trans (before remembered)⟩
    | some offerId =>
        rw [inSync_of_offer assigned] at before
        rw [inSync_of_offer (show ((productUpdate body variants).apply product).offer =
          some offerId from assigned)]
        have remembered : id ∈ ledger.once :=
          named ▸ held.remembered product stored (assigned ▸ Option.some_ne_none offerId)
        rw [forall_prop_of_true remembered]
        constructor
        · intro after
          obtain ⟨offer, offer_stored, offer_named, -⟩ :=
            held.assigned product stored offerId assigned
          exact (after offer offer_stored offer_named).discount.trans
            (before offer offer_stored offer_named).discount.symm
        · intro keeps offer offer_stored offer_named
          obtain ⟨discount, discountType, expiration⟩ := before offer offer_stored offer_named
          exact ⟨keeps.trans discount, discountType, expiration⟩

omit synced in
theorem mem_expire {id : ObjectId} {product : Product}
    (stored : product ∈ (ledger.expire id).database.products.docs) :
    (product ∈ ledger.database.products.docs ∧ product.offer ≠ some id) ∨
      ∃ before ∈ ledger.database.products.docs, before.offer = some id ∧
        removeOffer.apply before = product := by
  unfold Ledger.expire at stored
  cases found : offered? ledger.database id with
  | none =>
      simp only [found] at stored
      exact Or.inl ⟨stored, offered?_eq_none_iff.mp found product stored⟩
  | some offered =>
      simp only [found] at stored
      obtain ⟨offered_stored, assigned⟩ := offered?_spec found
      rcases Collection.mem_update.mp stored with ⟨old, elsewhere⟩ | ⟨before, here, rfl⟩
      · refine Or.inl ⟨old, fun same => elsewhere ?_⟩
        exact congrArg Product.id (held.assigned.eq_of_offer old offered_stored same assigned)
      · obtain ⟨before_stored, named⟩ := Collection.findById?_eq_some_iff.mp here
        rw [Collection.eq_of_id_eq before_stored offered_stored named]
        exact Or.inr ⟨offered, offered_stored, assigned, rfl⟩

omit synced in
theorem Held.expire (id : ObjectId) : Held (ledger.expire id) := by
  constructor
  · intro product stored other assigned
    rcases mem_expire held stored with ⟨old, elsewhere⟩ | ⟨before, -, -, rfl⟩
    · obtain ⟨offer, offer_stored, named, rest⟩ := held.assigned product old other assigned
      refine ⟨offer, Collection.mem_update.mpr (Or.inl ⟨offer_stored, fun here => ?_⟩), named, rest⟩
      exact elsewhere (assigned.trans (congrArg some (named.symm.trans here)))
    · cases assigned
  · intro product stored offered
    rcases mem_expire held stored with ⟨old, -⟩ | ⟨before, -, -, rfl⟩
    · exact held.remembered product old offered
    · exact absurd rfl offered

theorem expire_inSync (id : ObjectId) :
    ∀ product ∈ (ledger.expire id).database.products.docs, InSync (ledger.expire id) product := by
  intro product stored
  rcases mem_expire held stored with ⟨old, elsewhere⟩ | ⟨before, -, -, rfl⟩
  · have earlier := synced product old
    cases assigned : product.offer with
    | none =>
        rw [inSync_of_none assigned] at earlier ⊢
        exact earlier
    | some other =>
        rw [inSync_of_offer assigned] at earlier ⊢
        intro offer offer_stored named
        rcases Collection.mem_update.mp offer_stored with ⟨kept, -⟩ | ⟨original, found, rfl⟩
        · exact earlier offer kept named
        · have here := (Collection.findById?_eq_some_iff.mp found).2
          exact absurd (assigned.trans (congrArg some (named.symm.trans here))) elsewhere
  · exact (inSync_of_none rfl).mpr fun _ => rfl

end Calls

/-! ## Runs -/

/-- What an accepted call has to respect for the copies to stay in synchrony. -/
def Call.Respects (ledger : Ledger) : Call → Prop
  | .createOffer boot _ _ body => ∀ product,
      ledger.database.products.findById? body.productId = some product →
      body.offerExpiration = none → product.discountExpiration = boot + 86400000
  | .updateOffer _ id body => ∀ product ∈ ledger.database.products.docs,
      product.offer = some id → ∀ offer ∈ ledger.database.offers.docs, offer.id = id →
        body.offerDiscount.getD offer.offerDiscount = offer.offerDiscount ∧
          body.offerExpiration.getD offer.offerExpiration = offer.offerExpiration
  | .deleteOffer _ => True
  | .updateProduct _ id body => ∀ product,
      ledger.database.products.findById? id = some product → id ∈ ledger.once →
        ∀ given, body.discount = some given → given.truthy = true →
          given.value = product.discount

def KeepsCopies (source : Ledger) (call : Call) (_ : Ledger) : Prop :=
  ∀ effect, call.serve source.database = .ok effect → call.Respects source

/-- The ledger after a call with that effect. -/
def Ledger.after (ledger : Ledger) (call : Call) (effect : Effect) : Ledger :=
  ⟨ledger.database.apply effect, call.offered ++ ledger.once⟩

theorem served_inSync {ledger : Ledger} {call : Call} {effect : Effect} (held : Held ledger)
    (synced : ∀ product ∈ ledger.database.products.docs, InSync ledger product)
    (fresh : call.Fresh ledger.database) (served : call.serve ledger.database = .ok effect) :
    Held (ledger.after call effect) ∧
      ((∀ product ∈ (ledger.after call effect).database.products.docs,
        InSync (ledger.after call effect) product) ↔ call.Respects ledger) := by
  cases call with
  | createOffer boot user newId body =>
      obtain ⟨draft, drafted, rfl⟩ := createOffer_eq_ok_iff.mp served
      obtain ⟨product, found, -, -, discountType, -, rfl⟩ := draftOffer_eq_ok_iff.mp drafted
      refine ⟨held.promote fresh, (promote_inSync_iff held synced
        ⟨boot, product, newId, body, discountType⟩ fresh found).trans ?_⟩
      constructor
      · intro dated other other_found
        cases found.symm.trans other_found
        exact dated
      · exact fun dated => dated product found
  | updateOffer user id body =>
      cases updateOffer_effect served
      exact ⟨held.changeOffer id body, changeOffer_inSync_iff synced id body⟩
  | deleteOffer id =>
      have expired : ledger.after (.deleteOffer id) effect = ledger.expire id := by
        cases served
        unfold Ledger.after Ledger.expire Database.apply
        cases offered? ledger.database id with
        | none => rfl
        | some product => rfl
      rw [expired]
      exact ⟨held.expire id, iff_of_true (expire_inSync held synced id) trivial⟩
  | updateProduct user id body =>
      obtain ⟨product, variants, found, rfl⟩ := updateProduct_effect served
      refine ⟨held.changeProduct id body variants,
        (changeProduct_inSync_iff held synced found).trans ?_⟩
      constructor
      · intro keeps other other_found
        cases found.symm.trans other_found
        exact keeps
      · exact fun keeps => keeps product found

theorem step_cases {source target : Ledger} {call : Call}
    (stepped : step? source call = some target) :
    call.Fresh source.database ∧
      ((∃ effect, call.serve source.database = .ok effect ∧ target = source.after call effect) ∨
        (∃ failure, call.serve source.database = .error failure) ∧ target = source) := by
  unfold step? at stepped
  split at stepped
  case isFalse => cases stepped
  case isTrue fresh =>
      refine ⟨fresh, ?_⟩
      cases served : call.serve source.database with
      | ok effect =>
          rw [served] at stepped
          exact Or.inl ⟨effect, rfl, (Option.some.inj stepped).symm⟩
      | error failure =>
          rw [served] at stepped
          exact Or.inr ⟨⟨failure, rfl⟩, (Option.some.inj stepped).symm⟩

theorem step_synced_iff {source target : Ledger} {call : Call} (held : Held source)
    (synced : Synced source) (stepped : step? source call = some target) :
    Held target ∧ (Synced target ↔ KeepsCopies source call target) := by
  have inSync := held.synced_iff.mp synced
  obtain ⟨fresh, ⟨effect, served, rfl⟩ | ⟨⟨failure, refused⟩, rfl⟩⟩ := step_cases stepped
  · obtain ⟨later, respects⟩ := served_inSync held inSync fresh served
    refine ⟨later, (later.synced_iff.trans respects).trans ?_⟩
    constructor
    · exact fun respected _ _ => respected
    · exact fun keeps => keeps effect served
  · refine ⟨held, iff_of_true synced fun effect served => ?_⟩
    cases refused.symm.trans served

/-- The copies are in synchrony in every state of a run exactly when every accepted call
of the run respects them. -/
theorem synced_iff_keepsCopies {ledger : Ledger} (held : Held ledger) (synced : Synced ledger)
    (calls : List Call) :
    Always step? Synced ledger calls ↔ EveryStep step? KeepsCopies ledger calls := by
  have exact_step : ∀ source call target, Held source ∧ Synced source →
      step? source call = some target →
        ((Held target ∧ Synced target) ↔ KeepsCopies source call target) := by
    rintro source call target ⟨held, synced⟩ stepped
    obtain ⟨later, keeps⟩ := step_synced_iff held synced stepped
    rw [and_iff_right later, keeps]
  rw [← always_iff_everyStep exact_step ⟨held, synced⟩]
  constructor
  · refine Always.strengthen (fun source call target both stepped later => ⟨?_, later⟩)
      ⟨held, synced⟩
    exact (step_synced_iff both.1 both.2 stepped).1
  · exact fun always => always.mono fun _ both => both.2

/-! ## An offer that changes -/

def unofferedLedger : Ledger := ⟨unofferedMarket, []⟩

theorem unofferedLedger_held : Held unofferedLedger := by
  refine ⟨unofferedMarket_linked.assigned, fun product stored offered => ?_⟩
  cases List.mem_singleton.mp stored
  exact absurd rfl offered

theorem unofferedLedger_synced : Synced unofferedLedger :=
  unofferedLedger_held.synced_iff.mpr fun product stored => by
    cases List.mem_singleton.mp stored
    exact nofun

/-- An offer of five units, and what is done with it. -/
def promotes (later : Call) : List Call := [.createOffer 0 ⟨2, .seller⟩ 31 (fifthOff 5), later]

theorem endedOffer_synced_iff :
    Always step? Synced unofferedLedger (promotes (.deleteOffer 31)) ↔
      EveryStep step? KeepsCopies unofferedLedger (promotes (.deleteOffer 31)) :=
  synced_iff_keepsCopies unofferedLedger_held unofferedLedger_synced _

def fifthDraft : Draft := ⟨0, fiveUnits, 31, fifthOff 5, .percentage⟩

def halfOff : OfferBody := ⟨none, none, none, none, some 50⟩

/-- The offer is raised to a half, and the product stays at a fifth. -/
theorem raisedOffer_not_synced :
    Held unofferedLedger ∧ Synced unofferedLedger ∧
      ¬ Always step? Synced unofferedLedger
        (promotes (.updateOffer ⟨2, .seller⟩ 31 halfOff)) := by
  refine ⟨unofferedLedger_held, unofferedLedger_synced, fun always => ?_⟩
  have reached : run? step? unofferedLedger (promotes (.updateOffer ⟨2, .seller⟩ 31 halfOff)) =
      some ((unofferedLedger.promote fifthDraft).changeOffer 31 halfOff) := rfl
  have copies := (always.target reached).copied (fifthDraft.assign.apply fiveUnits)
    (List.mem_singleton.mpr rfl) ((offerUpdate halfOff).apply fifthDraft.offer)
    ⟨List.mem_singleton.mpr rfl, rfl, rfl⟩
  exact absurd copies.discount (by decide +kernel)

end Proximity.Catalogue.Discounts
