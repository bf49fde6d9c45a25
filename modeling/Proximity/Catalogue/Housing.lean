import Mathlib.Algebra.Order.Ring.Rat
import Proximity.Catalogue.Links

/-!
# Products and the stores they are in

Adding or moving a product looks its store up, and saves the product in a later turn.  Deleting
a store deletes its products first and the store in a later turn.
-/

namespace Proximity.Catalogue.Housing

open Proximity.Systems Proximity.Models

/-- Every product's store is stored. -/
def Housed (database : Database) : Prop :=
  ∀ product ∈ database.products.docs, (database.stores.findById? product.storeId).isSome = true

/-! ## The services between their awaits -/

/-- A call at one of its awaits, with the documents that it has read. -/
inductive Call where
  | addProduct (newId : ObjectId) (user : Token) (body : NewProductBody)
  | addingToStore (newId : ObjectId) (user : Token) (body : NewProductBody) (store : Store)
  | savingProduct (product : Product)
  | updateProduct (user : Token) (id : ObjectId) (body : ProductBody)
  | checkingCategory (user : Token) (product : Product) (body : ProductBody)
  | checkingStore (product : Product) (body : ProductBody)
  | savingChanges (product changed : Product)
  | deleteStore (storeId : ObjectId)
  | deletingProducts (storeId : ObjectId)
  | deletingStore (storeId : ObjectId)
  | answered (failure : Option Failure)

/-- What a turn learns from outside: when the process started, and whether a save is refused. -/
structure Moment where
  boot : Time
  refuses : Bool

/-- The new product, from the look-up of the category on. -/
def newProduct (boot : Time) (database : Database) (user : Token) (id : ObjectId)
    (body : NewProductBody) (store : Store) : Except Failure Product := do
  require .categoryNotFound (database.hasCategory body.categoryId = true)
  let images ← found .noFiles body.images
  let variants ← newVariants body
  let description ← found .notSaved body.description
  let storeCategoryId ← found .notSaved body.storeCategoryId
  let categoryId ← found .notSaved body.categoryId
  let subCategoryId ← found .notSaved body.subCategoryId
  let rayonId ← found .notSaved body.rayonId
  return {
    id := id
    name := body.name
    description := description
    price := body.price
    storeCategoryId := storeCategoryId
    categoryId := categoryId
    subCategoryId := subCategoryId
    rayonId := rayonId
    images := images
    tags := []
    variants := variants
    sellerId := user.id
    storeId := store.id
    deleted := false
    discount := body.discount.getD 0
    discountType := none
    discountExpiration := boot + 86400000
    offer := none
    policy := body.policy
    counters := ⟨0, 0, 0⟩ }

/-- The copy of the product with the values of the body. -/
def changedProduct (product : Product) (body : ProductBody) : Except Failure Product := do
  let variants ← updatedVariants product body
  return (productUpdate body variants).apply product

/-- A save writes a field when the copy was changed there. -/
def saveChanged {α : Type} [DecidableEq α] (before after stored : α) : α :=
  if after = before then stored else after

/-- `product.save()` of a changed copy. -/
def saveCopy (before after : Product) : Update Product where
  apply stored := { stored with
    variants := saveChanged before.variants after.variants stored.variants
    name := saveChanged before.name after.name stored.name
    price := saveChanged before.price after.price stored.price
    description := saveChanged before.description after.description stored.description
    tags := saveChanged before.tags after.tags stored.tags
    discount := saveChanged before.discount after.discount stored.discount
    images := saveChanged before.images after.images stored.images
    storeId := saveChanged before.storeId after.storeId stored.storeId
    policy := saveChanged before.policy after.policy stored.policy
    categoryId := saveChanged before.categoryId after.categoryId stored.categoryId
    subCategoryId := saveChanged before.subCategoryId after.subCategoryId stored.subCategoryId
    storeCategoryId :=
      saveChanged before.storeCategoryId after.storeCategoryId stored.storeCategoryId
    rayonId := saveChanged before.rayonId after.rayonId stored.rayonId }
  keepsId _ := rfl

/-- One turn of a call. -/
def advance (moment : Moment) (database : Database) : Call → Database × Call
  | .addProduct newId user body =>
      match database.stores.findById? body.storeId with
      | some store =>
          if store.sellerId = user.id then (database, .addingToStore newId user body store)
          else (database, .answered (some .notAuthorized))
      | none => (database, .answered (some .storeNotFound))
  | .addingToStore newId user body store =>
      match newProduct moment.boot database user newId body store with
      | .ok product => (database, .savingProduct product)
      | .error failure => (database, .answered (some failure))
  | .savingProduct product =>
      if moment.refuses then (database, .answered (some .notSaved))
      else ({ database with products := database.products.insert product }, .answered none)
  | .updateProduct user id body =>
      match database.products.findById? id with
      | some product => (database, .checkingCategory user product body)
      | none => (database, .answered (some .productNotFound))
  | .checkingCategory user product body =>
      if product.sellerId = user.id then
        if database.hasCategory body.categoryId then (database, .checkingStore product body)
        else (database, .answered (some .categoryNotFound))
      else (database, .answered (some .notAuthorized))
  | .checkingStore product body =>
      match database.stores.findById? body.storeId with
      | some _ =>
          match changedProduct product body with
          | .ok changed => (database, .savingChanges product changed)
          | .error failure => (database, .answered (some failure))
      | none => (database, .answered (some .storeNotFound))
  | .savingChanges product changed =>
      if moment.refuses then (database, .answered (some .notSaved))
      else
        match database.products.findById? product.id with
        | some _ =>
            ({ database with
              products := database.products.update product.id (saveCopy product changed) },
              .answered none)
        | none => (database, .answered (some .notSaved))
  | .deleteStore storeId =>
      match database.stores.findById? storeId with
      | some _ => (database, .deletingProducts storeId)
      | none => (database, .answered (some .storeMissing))
  | .deletingProducts storeId =>
      ({ database with
        products := database.products.deleteMany fun product => product.storeId = storeId },
        .deletingStore storeId)
  | .deletingStore storeId =>
      ({ database with stores := database.stores.delete storeId }, .answered none)
  | .answered failure => (database, .answered failure)

/-- An action names the call whose turn it is. -/
def callTurn? : Crowd Database Call → Nat × Moment → Option (Crowd Database Call) :=
  turn? advance

def Call.Entry : Call → Prop
  | .addProduct _ _ _ | .updateProduct _ _ _ | .deleteStore _ => True
  | _ => False

def Call.Ended : Call → Prop
  | .answered _ => True
  | _ => False

/-! ## A call that runs undisturbed -/

def Call.service (boot : Time) (database : Database) : Call → Except Failure Effect
  | .addProduct newId user body => Catalogue.addProduct boot database user newId body
  | .updateProduct user id body => Catalogue.updateProduct database user id body
  | .deleteStore storeId => Catalogue.deleteStore database storeId
  | _ => .ok Effect.nothing

/-- Four turns in a row, which is all that any of the calls takes. -/
def undisturbed (boot : Time) (database : Database) (call : Call) : Database × Call :=
  let turn := fun (state : Database × Call) => advance ⟨boot, false⟩ state.1 state.2
  turn (turn (turn (turn (database, call))))

def answer (database : Database) : Except Failure Effect → Database × Call
  | .ok effect => (database.apply effect, .answered none)
  | .error failure => (database, .answered (some failure))

theorem addProduct_eq (boot : Time) (database : Database) (user : Token) (id : ObjectId)
    (body : NewProductBody) :
    Catalogue.addProduct boot database user id body = (do
      let store ← found .storeNotFound (database.stores.findById? body.storeId)
      require .notAuthorized (store.sellerId = user.id)
      let product ← newProduct boot database user id body store
      return { Effect.nothing with products := [.insert product] }) := by
  unfold Catalogue.addProduct newProduct
  simp only [bind_assoc, pure_bind]

theorem saveChanged_self {α : Type} [DecidableEq α] (before after : α) :
    saveChanged before after before = after := by
  unfold saveChanged
  split
  case isTrue same => exact same.symm
  case isFalse => rfl

/-- Where nothing came between, the stored product becomes the changed copy. -/
theorem saveCopy_productUpdate (product : Product) (body : ProductBody)
    (variants : List Variant) :
    (saveCopy product ((productUpdate body variants).apply product)).apply product =
      (productUpdate body variants).apply product := by
  simp only [saveCopy, saveChanged_self]
  rfl

theorem undisturbed_addProduct (boot : Time) (database : Database) (newId : ObjectId)
    (user : Token) (body : NewProductBody) :
    undisturbed boot database (.addProduct newId user body) =
      answer database (Catalogue.addProduct boot database user newId body) := by
  rw [addProduct_eq]
  cases shop : database.stores.findById? body.storeId with
  | none =>
      simp only [undisturbed, advance, shop]
      rfl
  | some store =>
      by_cases owner : store.sellerId = user.id
      · cases made : newProduct boot database user newId body store with
        | error failure =>
            simp only [undisturbed, advance, shop, if_pos owner, made, found, require, bind,
              Except.bind]
            rfl
        | ok product =>
            simp only [undisturbed, advance, shop, if_pos owner, made, found, require, bind,
              Except.bind]
            rfl
      · simp only [undisturbed, advance, shop, if_neg owner, found, require, bind, Except.bind]
        rfl

theorem undisturbed_updateProduct (boot : Time) (database : Database) (user : Token)
    (id : ObjectId) (body : ProductBody) :
    undisturbed boot database (.updateProduct user id body) =
      answer database (Catalogue.updateProduct database user id body) := by
  unfold Catalogue.updateProduct
  cases there : database.products.findById? id with
  | none =>
      simp only [undisturbed, advance, there]
      rfl
  | some product =>
      by_cases owner : product.sellerId = user.id
      · by_cases category : database.hasCategory body.categoryId = true
        · cases shop : database.stores.findById? body.storeId with
          | none =>
              simp only [undisturbed, advance, there, if_pos owner, if_pos category, shop, found,
                require, bind, Except.bind]
              rfl
          | some store =>
              have named : product.id = id := (Collection.findById?_eq_some_iff.mp there).2
              cases updates : updatedVariants product body with
              | error failure =>
                  simp only [undisturbed, advance, there, if_pos owner, if_pos category, shop,
                    changedProduct, updates, found, require, bind, Except.bind]
                  rfl
              | ok variants =>
                  have saved : database.products.update id
                      (saveCopy product ((productUpdate body variants).apply product)) =
                        database.products.update id (productUpdate body variants) := by
                    refine Collection.update_congr fun stored stored_there => ?_
                    cases there.symm.trans stored_there
                    exact saveCopy_productUpdate product body variants
                  simp only [undisturbed, advance, there, if_pos owner, if_pos category, shop,
                    changedProduct, updates, found, require, bind, Except.bind, pure, Except.pure,
                    named, saved]
                  rfl
        · simp only [undisturbed, advance, there, if_pos owner, if_neg category, found, require,
            bind, Except.bind]
          rfl
      · simp only [undisturbed, advance, there, if_neg owner, found, require, bind, Except.bind]
        rfl

/-- When no other call comes between, every call does what its service does. -/
theorem undisturbed_eq (boot : Time) (database : Database) {call : Call} (entry : call.Entry) :
    undisturbed boot database call = answer database (call.service boot database) := by
  cases call with
  | addProduct newId user body => exact undisturbed_addProduct boot database newId user body
  | updateProduct user id body => exact undisturbed_updateProduct boot database user id body
  | deleteStore storeId =>
      simp only [Call.service, Catalogue.deleteStore]
      cases shop : database.stores.findById? storeId with
      | none =>
          simp only [undisturbed, advance, shop]
          rfl
      | some store =>
          simp only [undisturbed, advance, shop, ← Links.deletions_eq]
          rfl
  | _ => exact entry.elim

/-! ## One turn -/

/-- The turn saves no product into a store that is gone, and deletes no store with products. -/
def Call.LeavesHoused (refuses : Bool) (database : Database) : Call → Prop
  | .savingProduct product => refuses = false →
      database.products.findById? product.id = none →
        (database.stores.findById? product.storeId).isSome = true
  | .savingChanges product changed => refuses = false →
      (database.products.findById? product.id).isSome = true →
        changed.storeId ≠ product.storeId →
          (database.stores.findById? changed.storeId).isSome = true
  | .deletingStore storeId => ∀ product ∈ database.products.docs, product.storeId ≠ storeId
  | _ => True

def LeavesHoused (source : Crowd Database Call) (turn : Nat × Moment)
    (_ : Crowd Database Call) : Prop :=
  ∀ call, source.agents[turn.1]? = some call → call.LeavesHoused turn.2.refuses source.shared

section Turns

variable {database : Database}

theorem housed_insert_iff (housed : Housed database) (product : Product) :
    Housed { database with products := database.products.insert product } ↔
      (database.products.findById? product.id = none →
        (database.stores.findById? product.storeId).isSome = true) := by
  constructor
  · exact fun after fresh => after product (Collection.mem_insert.mpr (Or.inr ⟨fresh, rfl⟩))
  · intro shop other stored
    rcases Collection.mem_insert.mp stored with old | ⟨fresh, rfl⟩
    · exact housed other old
    · exact shop fresh

theorem housed_saveCopy_iff (housed : Housed database) {product stored : Product}
    (there : database.products.findById? product.id = some stored) (changed : Product) :
    Housed { database with
        products := database.products.update product.id (saveCopy product changed) } ↔
      (changed.storeId ≠ product.storeId →
        (database.stores.findById? changed.storeId).isSome = true) := by
  have own : (∀ other ∈ (database.products.update product.id (saveCopy product changed)).docs,
      (database.stores.findById? other.storeId).isSome = true) ↔
        (database.stores.findById?
          ((saveCopy product changed).apply stored).storeId).isSome = true :=
    Collection.forall_update_iff (fun other member _ => housed other member) there
  refine own.trans ?_
  simp only [saveCopy, saveChanged]
  split
  case isTrue same =>
      exact iff_of_true (housed stored (Collection.findById?_eq_some_iff.mp there).1)
        fun moved => absurd same moved
  case isFalse moved => exact ⟨fun shop _ => shop, fun shop => shop moved⟩

theorem housed_deleteStore_iff (housed : Housed database) (storeId : ObjectId) :
    Housed { database with stores := database.stores.delete storeId } ↔
      ∀ product ∈ database.products.docs, product.storeId ≠ storeId := by
  refine forall₂_congr fun product stored => ?_
  simp only [Collection.findById?_delete]
  split
  case isTrue here => simp [here]
  case isFalse elsewhere => exact iff_of_true (housed product stored) elsewhere

theorem advance_housed_iff (housed : Housed database) (moment : Moment) (call : Call) :
    Housed (advance moment database call).1 ↔ call.LeavesHoused moment.refuses database := by
  cases call with
  | savingProduct product =>
      simp only [advance, Call.LeavesHoused]
      cases moment.refuses with
      | true => exact iff_of_true housed fun saved => absurd saved (by decide)
      | false => exact (housed_insert_iff housed product).trans (by simp)
  | savingChanges product changed =>
      simp only [advance, Call.LeavesHoused]
      cases moment.refuses with
      | true => exact iff_of_true housed fun saved => absurd saved (by decide)
      | false =>
          cases there : database.products.findById? product.id with
          | none => exact iff_of_true housed fun _ found => absurd found (by decide)
          | some stored => exact (housed_saveCopy_iff housed there changed).trans (by simp)
  | deletingProducts storeId =>
      refine iff_of_true (fun product stored => ?_) trivial
      exact housed product (Collection.mem_deleteMany.mp stored).1
  | deletingStore storeId => exact housed_deleteStore_iff housed storeId
  | addProduct newId user body =>
      refine iff_of_true ?_ trivial
      simp only [advance]
      repeat' split
      all_goals exact housed
  | addingToStore newId user body store =>
      refine iff_of_true ?_ trivial
      simp only [advance]
      split <;> exact housed
  | updateProduct user id body =>
      refine iff_of_true ?_ trivial
      simp only [advance]
      split <;> exact housed
  | checkingCategory user product body =>
      refine iff_of_true ?_ trivial
      simp only [advance]
      repeat' split
      all_goals exact housed
  | checkingStore product body =>
      refine iff_of_true ?_ trivial
      simp only [advance]
      repeat' split
      all_goals exact housed
  | deleteStore storeId =>
      refine iff_of_true ?_ trivial
      simp only [advance]
      split <;> exact housed
  | answered failure => exact iff_of_true housed trivial

end Turns

/-! ## Every run -/

/-- Every product's store exists throughout a run exactly when no turn breaks it, and then also
once all calls have ended. -/
theorem housed_iff_leavesHoused {crowd : Crowd Database Call} (housed : Housed crowd.shared)
    (turns : List (Nat × Moment)) :
    (Always callTurn? (fun state => Housed state.shared) crowd turns ↔
        EveryStep callTurn? LeavesHoused crowd turns) ∧
      (EveryStep callTurn? LeavesHoused crowd turns → ∀ final,
        run? callTurn? crowd turns = some final → Housed final.shared) := by
  have exact_step : ∀ source turn target, Housed source.shared →
      callTurn? source turn = some target →
        (Housed target.shared ↔ LeavesHoused source turn target) := by
    intro source turn target before stepped
    obtain ⟨call, stands, rfl⟩ := Option.map_eq_some_iff.mp stepped
    rw [advance_housed_iff before]
    exact (forall_turn_iff stands).symm
  have always : Always callTurn? (fun state => Housed state.shared) crowd turns ↔
      EveryStep callTurn? LeavesHoused crowd turns := always_iff_everyStep exact_step housed
  exact ⟨always, fun leaves final reached => (always.mpr leaves).target reached⟩

/-! ## A product added while its store is deleted -/

def lampBody : NewProductBody where
  name := "Lamp"
  price := 30
  description := some "A lamp"
  discount := none
  storeId := 1
  storeCategoryId := some 3
  categoryId := some 3
  subCategoryId := some 4
  rayonId := some 5
  policy := none
  variantes := some []
  images := some ["images/products/lamp.png"]
  varientsImages := none

/-- Seller 2 adds a product to store 1, which is deleted. -/
def lampAndDeletion : Crowd Database Call where
  shared := ⟨Collection.empty, ⟨[⟨1, 2, "Lights", "Lamps", "", true⟩], List.nodup_singleton _⟩,
    Collection.empty, [3]⟩
  agents := [.addProduct 9 ⟨2, .seller⟩ lampBody, .deleteStore 1]

def moments (calls : List Nat) : List (Nat × Moment) := calls.map fun call => (call, ⟨0, false⟩)

theorem lampAndDeletion_housed_iff :
    (Always callTurn? (fun state => Housed state.shared) lampAndDeletion
        (moments [0, 0, 0, 1, 1, 1]) ↔
        EveryStep callTurn? LeavesHoused lampAndDeletion (moments [0, 0, 0, 1, 1, 1])) ∧
      (EveryStep callTurn? LeavesHoused lampAndDeletion (moments [0, 0, 0, 1, 1, 1]) →
        ∀ final, run? callTurn? lampAndDeletion (moments [0, 0, 0, 1, 1, 1]) = some final →
          Housed final.shared) :=
  have housed : Housed lampAndDeletion.shared := fun _ stored => absurd stored List.not_mem_nil
  housed_iff_leavesHoused housed (moments [0, 0, 0, 1, 1, 1])

/-- The store is deleted after its look-up and before the product is saved. -/
theorem lampAndDeletion_not_housed : ∃ final,
    run? callTurn? lampAndDeletion (moments [0, 0, 1, 1, 1, 0]) = some final ∧
      (∀ call ∈ final.agents, call.Ended) ∧ ¬ Housed final.shared := by
  refine ⟨_, rfl, List.forall_mem_cons.mpr ⟨trivial, List.forall_mem_singleton.mpr trivial⟩, ?_⟩
  intro housed
  exact absurd (housed _ List.mem_cons_self) (by decide)

end Proximity.Catalogue.Housing
