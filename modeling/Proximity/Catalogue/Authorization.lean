import Proximity.Catalogue.Services
import Proximity.Systems.Run

/-!
# Who changes the catalogue

A document of the catalogue should be changed by its seller alone, and a product
should stay with a store of its own seller.  Most operations check the seller of
the document they change; the others keep the rule when what they target is the
principal's.
-/

namespace Proximity.Catalogue

open Proximity.Systems Proximity.Models

inductive Action where
  | request (request : Request)
  | categories (ids : List ObjectId)

/-- The effect of a request; one that throws has none. -/
def effectOf (boot : Time) (database : Database) (request : Request) : Effect :=
  match respond boot database request with
  | .ok effect => effect
  | .error _ => Effect.nothing

def step? (boot : Time) (database : Database) : Action → Option Database
  | .request request => some (database.apply (effectOf boot database request))
  | .categories ids => some { database with categories := ids }

/-! ## The law of the catalogue -/

/-- Every document that the writes change or delete is the principal's, and every
other one is stored as before. -/
structure OnlyOwn {Doc : Type} [Document Doc ObjectId] (sellerId : Doc → ObjectId)
    (principal : Option ObjectId) (collection : Collection Doc) (writes : List (Write Doc)) :
    Prop where
  touched : ∀ doc, Write.Touched collection writes doc → principal = some (sellerId doc)
  kept : ∀ doc ∈ collection.docs, principal ≠ some (sellerId doc) →
    doc ∈ (Write.applyAll collection writes).docs

/-- The seller of every product is the seller of the store it names. -/
def Coupled (products : Collection Product) (stores : Collection Store) : Prop :=
  ∀ product ∈ products.docs, ∃ store, stores.findById? product.storeId = some store ∧
    product.sellerId = store.sellerId

structure Lawful (database : Database) (principal : Option ObjectId) (effect : Effect) : Prop where
  products : OnlyOwn Product.sellerId principal database.products effect.products
  stores : OnlyOwn Store.sellerId principal database.stores effect.stores
  offers : OnlyOwn Offer.sellerId principal database.offers effect.offers
  coupled : Coupled (database.apply effect).products (database.apply effect).stores

def LawfulStep (boot : Time) (source : Database) (action : Action) (target : Database) : Prop :=
  match action with
  | .request request => Lawful source request.principal (effectOf boot source request)
  | .categories _ => Coupled target.products target.stores

/-! ## Requests that target what is the principal's -/

/-- A product of the principal is only moved to a store of the principal. -/
def MovesToOwn (database : Database) (principal : Option ObjectId) (id storeId : ObjectId) : Prop :=
  ∀ product store, database.products.findById? id = some product →
    principal = some product.sellerId → database.stores.findById? storeId = some store →
    principal = some store.sellerId

/-- A store of the principal that has products is not given to another seller. -/
def KeepsSeller (database : Database) (principal : Option ObjectId) (id : ObjectId)
    (body : StoreBody) : Prop :=
  body.sellerId = none ∨ body.sellerId = principal ∨
    ∀ product ∈ database.products.docs, product.storeId ≠ id

def TargetsOwn (source : Database) (request : Request) : Prop :=
  match request.operation with
  | .updateProduct id body => MovesToOwn source request.principal id body.storeId
  | .updateStore id body => KeepsSeller source request.principal id body
  | .deleteStore id => ∀ store, source.stores.findById? id = some store →
      request.principal = some store.sellerId
  | .deleteOffer id => source.offers.findById? id = none ∧ offered? source id = none
  | _ => True

def TargetsOwnStep (source : Database) (action : Action) (_ : Database) : Prop :=
  match action with
  | .request request => TargetsOwn source request
  | .categories _ => True

/-! ## Writes of one document -/

section Writes

variable {Doc : Type} [Document Doc ObjectId] {sellerId : Doc → ObjectId}
  {principal : Option ObjectId} {collection : Collection Doc}

theorem onlyOwn_of_touched {writes : List (Write Doc)}
    (touched : ∀ doc, Write.Touched collection writes doc → principal = some (sellerId doc)) :
    OnlyOwn sellerId principal collection writes where
  touched := touched
  kept doc stored stranger :=
    Write.mem_applyAll_of_not_touched stored fun written => stranger (touched doc written)

theorem onlyOwn_nil : OnlyOwn sellerId principal collection [] :=
  onlyOwn_of_touched fun _ written => written.elim

theorem onlyOwn_insert (doc : Doc) : OnlyOwn sellerId principal collection [.insert doc] :=
  onlyOwn_of_touched fun _ written => (Write.touched_singleton.mp written).2.elim

/-- A write of the one document of that id, which is the principal's. -/
theorem onlyOwn_singleton {id : ObjectId} {write : Write Doc}
    (targets : ∀ other, write.Targets other → other = id)
    (owned : ∀ doc, collection.findById? id = some doc → principal = some (sellerId doc)) :
    OnlyOwn sellerId principal collection [write] := by
  refine onlyOwn_of_touched fun doc written => ?_
  obtain ⟨stored, target⟩ := Write.touched_singleton.mp written
  exact owned doc (Collection.findById?_eq_some_iff.mpr ⟨stored, targets _ target⟩)

end Writes

section Coupling

variable {products : Collection Product} {stores : Collection Store}

theorem coupled_update (coupled : Coupled products stores) {id : ObjectId}
    {change : Update Product}
    (changed : ∀ before, products.findById? id = some before →
      ∃ store, stores.findById? (change.apply before).storeId = some store ∧
        (change.apply before).sellerId = store.sellerId) :
    Coupled (products.update id change) stores := by
  intro product stored
  rcases Collection.mem_update.mp stored with ⟨old, -⟩ | ⟨before, found, rfl⟩
  · exact coupled product old
  · exact changed before found

/-- A change of neither the seller nor the store of a product. -/
theorem coupled_update_of_same (coupled : Coupled products stores) (id : ObjectId)
    {change : Update Product}
    (sameStore : ∀ product, (change.apply product).storeId = product.storeId)
    (sameSeller : ∀ product, (change.apply product).sellerId = product.sellerId) :
    Coupled (products.update id change) stores := by
  refine coupled_update coupled fun before found => ?_
  rw [sameStore, sameSeller]
  exact coupled before (Collection.findById?_eq_some_iff.mp found).1

theorem coupled_counts (coupled : Coupled products stores) (counts : List Count) :
    Coupled (Write.applyAll products (counts.map fun count => .update count.id count.update))
      stores := by
  induction counts generalizing products with
  | nil => exact coupled
  | cons count rest ih =>
      exact ih (coupled_update_of_same coupled count.id (fun _ => rfl) (fun _ => rfl))

theorem coupled_insert (coupled : Coupled products stores) {product : Product}
    (joined : ∃ store, stores.findById? product.storeId = some store ∧
      product.sellerId = store.sellerId) : Coupled (products.insert product) stores := by
  intro other stored
  rcases Collection.mem_insert.mp stored with old | ⟨-, rfl⟩
  · exact coupled other old
  · exact joined

theorem coupled_delete (coupled : Coupled products stores) (id : ObjectId) :
    Coupled (products.delete id) stores :=
  fun product stored => coupled product (Collection.mem_delete.mp stored).1

/-- A store that changes keeps its products' seller, or has no product. -/
theorem coupled_updateStore (coupled : Coupled products stores) {id : ObjectId}
    {change : Update Store}
    (kept : ∀ before, stores.findById? id = some before →
      (change.apply before).sellerId = before.sellerId ∨
        ∀ product ∈ products.docs, product.storeId ≠ id) :
    Coupled products (stores.update id change) := by
  intro product stored
  obtain ⟨store, named, seller⟩ := coupled product stored
  rw [Collection.findById?_update]
  by_cases here : product.storeId = id
  · rw [here] at named
    rw [if_pos here, named]
    refine ⟨change.apply store, rfl, ?_⟩
    rcases kept store named with same | empty
    · rw [same]
      exact seller
    · exact absurd here (empty product stored)
  · exact ⟨store, (if_neg here).trans named, seller⟩

end Coupling

/-! ## Operations -/

section Operations

variable {boot : Time} {database : Database} {user : Token} {effect : Effect}

theorem updateProduct_lawful (coupled : Coupled database.products database.stores)
    {id : ObjectId} {body : ProductBody}
    (moves : MovesToOwn database (some user.id) id body.storeId)
    (answered : updateProduct database user id body = .ok effect) :
    Lawful database (some user.id) effect := by
  simp only [updateProduct, bind_eq_ok_iff, found_eq_ok_iff, require_eq_ok_iff,
    pure_eq_ok_iff] at answered
  obtain ⟨product, stored, _, owner, _, -, store, target, variants, -, rfl⟩ := answered
  refine ⟨onlyOwn_singleton (fun _ target => target.symm) fun other here => ?_, onlyOwn_nil,
    onlyOwn_nil, coupled_update coupled fun before here => ?_⟩
  · rw [stored] at here
    cases here
    rw [owner]
  · rw [stored] at here
    cases here
    have seller := moves product store stored (by rw [owner]) target
    exact ⟨store, target, owner.trans (Option.some.inj seller)⟩

theorem counts_lawful (coupled : Coupled database.products database.stores)
    (principal : Option ObjectId) (counts : List Count) :
    Lawful database principal { Effect.nothing with counts := counts } :=
  ⟨onlyOwn_nil, onlyOwn_nil, onlyOwn_nil, coupled_counts coupled counts⟩

theorem addProduct_lawful (coupled : Coupled database.products database.stores)
    {id : ObjectId} {body : NewProductBody}
    (answered : addProduct boot database user id body = .ok effect) :
    Lawful database (some user.id) effect := by
  simp only [addProduct, bind_eq_ok_iff, found_eq_ok_iff, require_eq_ok_iff,
    pure_eq_ok_iff] at answered
  obtain ⟨store, stored, _, owner, _, -, images, -, variants, -, description, -, storeCategory, -,
    category, -, subCategory, -, rayon, -, rfl⟩ := answered
  refine ⟨onlyOwn_insert _, onlyOwn_nil, onlyOwn_nil, coupled_insert coupled ?_⟩
  obtain ⟨-, same⟩ := Collection.findById?_eq_some_iff.mp stored
  refine ⟨store, ?_, owner.symm⟩
  rw [← same] at stored
  exact stored

theorem deleteProduct_lawful (coupled : Coupled database.products database.stores)
    {id : ObjectId} (answered : deleteProduct database user id = .ok effect) :
    Lawful database (some user.id) effect := by
  simp only [deleteProduct, bind_eq_ok_iff, found_eq_ok_iff, require_eq_ok_iff,
    pure_eq_ok_iff] at answered
  obtain ⟨product, stored, _, owner, rfl⟩ := answered
  refine ⟨onlyOwn_singleton (fun _ target => target.symm) fun other here => ?_, onlyOwn_nil,
    onlyOwn_nil, coupled_delete coupled id⟩
  rw [stored] at here
  cases here
  rw [owner]

theorem updateStore_lawful (coupled : Coupled database.products database.stores)
    {id : ObjectId} {body : StoreBody} (keeps : KeepsSeller database (some user.id) id body)
    (answered : updateStore database user id body = .ok effect) :
    Lawful database (some user.id) effect := by
  simp only [updateStore, bind_eq_ok_iff, found_eq_ok_iff, require_eq_ok_iff,
    pure_eq_ok_iff] at answered
  obtain ⟨store, stored, _, owner, rfl⟩ := answered
  refine ⟨onlyOwn_nil, onlyOwn_singleton (fun _ target => target.symm) fun other here => ?_,
    onlyOwn_nil, coupled_updateStore coupled fun before here => ?_⟩
  · rw [stored] at here
    cases here
    rw [owner]
  · rw [stored] at here
    cases here
    rcases keeps with absent | own | empty
    · exact Or.inl (by simp [storeUpdate, absent])
    · exact Or.inl (by simp [storeUpdate, own, owner])
    · exact Or.inr empty

theorem deleteStore_lawful (coupled : Coupled database.products database.stores)
    {principal : Option ObjectId} {storeId : ObjectId}
    (own : ∀ store, database.stores.findById? storeId = some store →
      principal = some store.sellerId)
    (answered : deleteStore database storeId = .ok effect) : Lawful database principal effect := by
  simp only [deleteStore, bind_eq_ok_iff, found_eq_ok_iff, pure_eq_ok_iff] at answered
  obtain ⟨store, stored, rfl⟩ := answered
  refine ⟨onlyOwn_of_touched fun product written => ?_,
    onlyOwn_singleton (fun _ target => target.symm) own, onlyOwn_nil, ?_⟩
  · obtain ⟨here, listed⟩ := Write.touched_deletes.mp written
    obtain ⟨other, kept, same⟩ := List.mem_map.mp listed
    obtain ⟨there, inStore⟩ := List.mem_filter.mp kept
    obtain rfl := Collection.eq_of_id_eq there here same
    obtain ⟨itsStore, named, seller⟩ := coupled other there
    rw [of_decide_eq_true inStore] at named
    rw [own itsStore named, seller]
  · intro product remaining
    obtain ⟨here, unlisted⟩ := Write.mem_applyAll_deletes.mp remaining
    have elsewhere : product.storeId ≠ storeId := by
      intro inStore
      exact unlisted (List.mem_map.mpr
        ⟨product, List.mem_filter.mpr ⟨here, decide_eq_true inStore⟩, rfl⟩)
    obtain ⟨itsStore, named, seller⟩ := coupled product here
    refine ⟨itsStore, ?_, seller⟩
    exact (Collection.findById?_delete database.stores storeId product.storeId).trans
      ((if_neg elsewhere).trans named)

theorem createOffer_lawful (coupled : Coupled database.products database.stores)
    {id : ObjectId} {body : NewOfferBody}
    (answered : createOffer boot database user id body = .ok effect) :
    Lawful database (some user.id) effect := by
  simp only [createOffer, bind_eq_ok_iff, found_eq_ok_iff, require_eq_ok_iff,
    pure_eq_ok_iff] at answered
  obtain ⟨product, stored, _, ⟨-, owner⟩, _, -, discountType, -, rfl⟩ := answered
  refine ⟨onlyOwn_singleton (fun _ target => target.symm) fun other here => ?_, onlyOwn_nil,
    onlyOwn_insert _, coupled_update_of_same coupled _ (fun _ => rfl) (fun _ => rfl)⟩
  rw [stored] at here
  cases here
  rw [owner]

theorem updateOffer_lawful (coupled : Coupled database.products database.stores)
    {id : ObjectId} {body : OfferBody}
    (answered : updateOffer database user id body = .ok effect) :
    Lawful database (some user.id) effect := by
  simp only [updateOffer, bind_eq_ok_iff, found_eq_ok_iff, require_eq_ok_iff,
    pure_eq_ok_iff] at answered
  obtain ⟨offer, stored, _, owner, rfl⟩ := answered
  refine ⟨onlyOwn_nil, onlyOwn_nil,
    onlyOwn_singleton (fun _ target => target.symm) fun other here => ?_, coupled⟩
  rw [stored] at here
  cases here
  rw [owner]

/-- An offer that nothing stored is connected with is deleted without a trace. -/
theorem deleteOffer_lawful (coupled : Coupled database.products database.stores)
    {principal : Option ObjectId} {id : ObjectId} (missing : database.offers.findById? id = none)
    (unassigned : offered? database id = none)
    (answered : deleteOffer database id = .ok effect) : Lawful database principal effect := by
  cases answered
  rw [unassigned]
  refine ⟨onlyOwn_nil, onlyOwn_nil,
    onlyOwn_singleton (fun _ target => target.symm) fun other here => ?_, coupled⟩
  rw [missing] at here
  cases here

end Operations

/-! ## Runs -/

section Runs

variable {boot : Time}

theorem nothing_lawful {database : Database} (coupled : Coupled database.products database.stores)
    (principal : Option ObjectId) : Lawful database principal Effect.nothing :=
  ⟨onlyOwn_nil, onlyOwn_nil, onlyOwn_nil, coupled⟩

/-- A service that reads `req.user` is served only when it is there. -/
theorem authenticated_of_served {user : Option Token} {service : Token → Except Failure Effect}
    {effect : Effect} (served : (found .typeError user >>= service) = .ok effect) :
    ∃ token, user = some token ∧ service token = .ok effect := by
  obtain ⟨token, isUser, answer⟩ := bind_eq_ok_iff.mp served
  exact ⟨token, found_eq_ok_iff.mp isUser, answer⟩

/-- The route of `createStore` authenticates nobody, so the service throws. -/
theorem createStore_unserved {newId : ObjectId} {body : NewStoreBody} {effect : Effect} :
    createStore none newId body ≠ .ok effect := by
  intro served
  simp only [createStore, bind_eq_ok_iff, found_eq_ok_iff] at served
  obtain ⟨image, -, token, absent, -⟩ := served
  cases absent

theorem request_lawful {database : Database} (coupled : Coupled database.products database.stores)
    {request : Request} (targets : TargetsOwn database request) {effect : Effect}
    (answered : respond boot database request = .ok effect) :
    Lawful database request.principal effect := by
  obtain ⟨user, authenticated, served⟩ := bind_eq_ok_iff.mp answered
  have principal : request.principal = user.map Token.id := by
    rw [Request.principal, authenticated]
  unfold TargetsOwn at targets
  rw [principal] at targets ⊢
  cases operation : request.operation with
  | updateProduct id body =>
      rw [operation] at targets served
      obtain ⟨token, rfl, answer⟩ := authenticated_of_served served
      exact updateProduct_lawful coupled targets answer
  | updateNumberOfSales id numberOfSales =>
      rw [operation] at served
      simp only [serve, updateNumberOfSales, bind_eq_ok_iff, pure_eq_ok_iff] at served
      obtain ⟨product, -, number, -, rfl⟩ := served
      exact counts_lawful coupled _ _
  | updateNumberOfViews id =>
      rw [operation] at served
      simp only [serve, updateNumberOfViews, bind_eq_ok_iff, pure_eq_ok_iff] at served
      obtain ⟨product, -, rfl⟩ := served
      exact counts_lawful coupled _ _
  | addProduct newId body =>
      rw [operation] at served
      obtain ⟨token, rfl, answer⟩ := authenticated_of_served served
      exact addProduct_lawful coupled answer
  | deleteProduct id =>
      rw [operation] at served
      obtain ⟨token, rfl, answer⟩ := authenticated_of_served served
      exact deleteProduct_lawful coupled answer
  | createStore newId body =>
      rw [operation] at served
      simp only [Request.user, operation, Operation.middleware, Except.ok.injEq] at authenticated
      subst authenticated
      exact absurd served createStore_unserved
  | updateStore id body =>
      rw [operation] at targets served
      obtain ⟨token, rfl, answer⟩ := authenticated_of_served served
      exact updateStore_lawful coupled targets answer
  | deleteStore storeId =>
      rw [operation] at targets served
      exact deleteStore_lawful coupled targets served
  | createOffer newId body =>
      rw [operation] at served
      obtain ⟨token, rfl, answer⟩ := authenticated_of_served served
      exact createOffer_lawful coupled answer
  | updateOffer id body =>
      rw [operation] at served
      obtain ⟨token, rfl, answer⟩ := authenticated_of_served served
      exact updateOffer_lawful coupled answer
  | deleteOffer id =>
      rw [operation] at targets served
      exact deleteOffer_lawful coupled targets.1 targets.2 served

theorem step_lawful {source target : Database} {action : Action}
    (coupled : Coupled source.products source.stores)
    (stepped : step? boot source action = some target)
    (targets : TargetsOwnStep source action target) :
    LawfulStep boot source action target ∧ Coupled target.products target.stores := by
  cases action with
  | request request =>
      cases stepped
      have lawful : Lawful source request.principal (effectOf boot source request) := by
        unfold effectOf
        cases answered : respond boot source request with
        | error failure => exact nothing_lawful coupled request.principal
        | ok effect => exact request_lawful coupled targets answered
      exact ⟨lawful, lawful.coupled⟩
  | categories ids =>
      cases stepped
      exact ⟨coupled, coupled⟩

/-- From a coupled catalogue, in every run whose requests target what is the
principal's, every document is changed by its seller alone and every product
stays with a store of its seller. -/
theorem lawful_of_targetsOwn (boot : Time) (database : Database)
    (coupled : Coupled database.products database.stores) (actions : List Action)
    (guarded : EveryStep (step? boot) TargetsOwnStep database actions) :
    EveryStep (step? boot) (LawfulStep boot) database actions := by
  refine everyStep_of_invariant (fun state => Coupled state.products state.stores) ?_ coupled
    guarded
  intro source action target holds stepped targets
  exact step_lawful holds stepped targets

end Runs

/-! ## An offer that anyone deletes -/

def sellerStore : Store := ⟨10, 2, "store", "", "store.png", true⟩

def sellerProduct : Product where
  id := 20
  name := "product"
  description := ""
  price := 5
  storeCategoryId := 50
  categoryId := 51
  subCategoryId := 52
  rayonId := 53
  images := []
  tags := []
  variants := []
  sellerId := 2
  storeId := 10
  deleted := false
  discount := 20
  discountType := some .percentage
  discountExpiration := 86400000
  offer := some 30
  policy := none
  counters := ⟨0, 0, 0⟩

def sellerOffer : Offer where
  id := 30
  sellerId := 2
  storeId := 10
  productId := 20
  offerDiscount := 20
  offerStock := 3
  offerExpiration := 86400000
  offerStatus := .active
  offerDeleted := false
  offerName := none
  offerImage := none
  offerDescription := none
  discountType := .percentage

/-- The store, the product and the offer of seller 2. -/
def market : Database where
  products := ⟨[sellerProduct], by decide⟩
  stores := ⟨[sellerStore], by decide⟩
  offers := ⟨[sellerOffer], by decide⟩
  categories := [51]

theorem market_coupled : Coupled market.products market.stores := by
  intro product stored
  rw [List.mem_singleton.mp stored]
  exact ⟨sellerStore, rfl, rfl⟩

def deletesStore : Action := .request ⟨some ⟨2, .seller⟩, .deleteStore 10⟩

/-- The seller deletes the own store. -/
theorem deletesStore_lawful :
    Coupled market.products market.stores ∧
    EveryStep (step? 0) TargetsOwnStep market [deletesStore] ∧
    EveryStep (step? 0) (LawfulStep 0) market [deletesStore] := by
  have guarded : EveryStep (step? 0) TargetsOwnStep market [deletesStore] := by
    refine fun _ _ => ⟨fun store stored => ?_, trivial⟩
    cases stored
    rfl
  exact ⟨market_coupled, guarded,
    lawful_of_targetsOwn 0 market market_coupled [deletesStore] guarded⟩

/-- Someone without a token deletes the offer of seller 2. -/
theorem deletesOffer_not_lawful :
    Coupled market.products market.stores ∧
    ¬ EveryStep (step? 0) (LawfulStep 0) market [.request ⟨none, .deleteOffer 30⟩] := by
  refine ⟨market_coupled, fun every => ?_⟩
  obtain ⟨lawful, -⟩ := every _ rfl
  have principal := lawful.offers.touched sellerOffer
    (Or.inl ⟨List.mem_singleton.mpr rfl, rfl⟩)
  cases principal

end Proximity.Catalogue
