import Mathlib.Algebra.Order.Ring.Rat
import Mathlib.Data.List.Dedup
import Proximity.Catalogue.Services
import Proximity.Systems.Interleaving
import Proximity.Systems.Tally

/-!
# The counters of a product

Views, sales and searches are counted in a copy of the product, which is saved in a later
turn with the absolute value of the counter.  Other calls run in between.
-/

namespace Proximity.Catalogue.Statistics

open Proximity.Systems Proximity.Models

/-- A `View` document; `region` is the city of the request. -/
structure View where
  sellerId : ObjectId
  storeId : ObjectId
  productId : ObjectId
  region : Option String
  deriving DecidableEq, Repr

structure Database where
  products : Collection Product
  views : List View

/-! ## The services between their awaits -/

/-- What an answered call has done. -/
inductive Report where
  | viewed (id : ObjectId)
  | sold (id : ObjectId) (numberOfSales : Int)
  | searched (name : Option String) (ids : List ObjectId)
  deriving DecidableEq, Repr

/-- A call at one of its awaits, with the copies of products that it holds. -/
inductive Call where
  | updateNumberOfViews (id : ObjectId) (region : Option String)
  | savingViews (product : Product) (region : Option String)
  | savingView (product : Product) (region : Option String)
  | updateNumberOfSales (id : ObjectId) (numberOfSales : Option Int)
  | savingSales (product : Product) (numberOfSales : Int)
  | searchProduct (name : Option String)
  | savingSearches (name : Option String) (saved : List ObjectId) (products : List Product)
  | answered (outcome : Except Failure Report)
  deriving DecidableEq, Repr

def setViews (value : Nat) : Update Product where
  apply product := { product with counters := { product.counters with numberOfViews := value } }
  keepsId _ := rfl

def setSales (value : ℚ) : Update Product where
  apply product := { product with counters := { product.counters with numberOfSales := value } }
  keepsId _ := rfl

def setSearches (value : Nat) : Update Product where
  apply product :=
    { product with counters := { product.counters with numberOfSearches := value } }
  keepsId _ := rfl

def Database.update (database : Database) (id : ObjectId) (change : Update Product) : Database :=
  { database with products := database.products.update id change }

/-- `product.save()` of a changed counter; a product that is gone makes it fail. -/
def save (database : Database) (id : ObjectId) (change : Update Product) (next : Call) :
    Database × Call :=
  match database.products.findById? id with
  | some _ => (database.update id change, next)
  | none => (database, .answered (.error .notSaved))

/-- `searchProduct` after its two queries: it counts unless the name is the empty text, so
also when there is no name at all. -/
def afterSearch (name : Option String) (products : List Product) : Call :=
  if name = some "" then .answered (.ok (.searched name (products.map Product.id)))
  else .savingSearches name [] products

/-- One turn of a call; `found` are the ids of the products that the queries of a search
find in that turn. -/
def advance (found : List ObjectId) (database : Database) : Call → Database × Call
  | .updateNumberOfViews id region =>
      match database.products.findById? id with
      | some product => (database, .savingViews product region)
      | none => (database, .answered (.error .productNotFound))
  | .savingViews product region =>
      save database product.id (setViews (product.counters.numberOfViews + 1))
        (.savingView product region)
  | .savingView product region =>
      ({ database with
        views := database.views ++ [⟨product.sellerId, product.storeId, product.id, region⟩] },
        .answered (.ok (.viewed product.id)))
  | .updateNumberOfSales id numberOfSales =>
      match database.products.findById? id, numberOfSales with
      | none, _ => (database, .answered (.error .productNotFound))
      | some _, none => (database, .answered (.error .notSaved))
      | some product, some number => (database, .savingSales product number)
  | .savingSales product number =>
      -- An unchanged counter is not written.
      if number = 0 then (database, .answered (.ok (.sold product.id number)))
      else save database product.id (setSales (product.counters.numberOfSales + number))
        (.answered (.ok (.sold product.id number)))
  | .searchProduct name =>
      (database, afterSearch name (found.dedup.filterMap database.products.findById?))
  | .savingSearches name saved [] => (database, .answered (.ok (.searched name saved)))
  | .savingSearches name saved (product :: products) =>
      save database product.id (setSearches (product.counters.numberOfSearches + 1))
        (.savingSearches name (saved ++ [product.id]) products)
  | .answered outcome => (database, .answered outcome)

/-- An action names the call whose turn it is. -/
def callTurn? : Crowd Database Call → Nat × List ObjectId → Option (Crowd Database Call) :=
  turn? advance

def Call.Entry : Call → Prop
  | .updateNumberOfViews _ _ | .updateNumberOfSales _ _ | .searchProduct _ => True
  | _ => False

/-! ## The log -/

/-- Only a search with a name counts. -/
def named (name : Option String) : Bool := decide (name ≠ none ∧ name ≠ some "")

namespace Call

variable (id : ObjectId)

/-- The views of the product that the call has counted. -/
def views : Call → Nat
  | .savingView product _ => if product.id = id then 1 else 0
  | .answered (.ok (.viewed viewed)) => if viewed = id then 1 else 0
  | _ => 0

/-- The `View` documents of the product that the call has stored. -/
def viewDocuments : Call → Nat
  | .answered (.ok (.viewed viewed)) => if viewed = id then 1 else 0
  | _ => 0

def sales : Call → ℚ
  | .answered (.ok (.sold sold number)) => if sold = id then number else 0
  | _ => 0

def searches : Call → Nat
  | .savingSearches name saved _ => if named name then saved.count id else 0
  | .answered (.ok (.searched name ids)) => if named name then ids.count id else 0
  | _ => 0

end Call

/-- The counters of a product as the calls have counted them. -/
def counted (calls : List Call) (id : ObjectId) : ProductCounters where
  numberOfSales := (calls.map (Call.sales id)).sum
  numberOfViews := tally (Call.views id) calls
  numberOfSearches := tally (Call.searches id) calls

/-- Every stored counter is what the calls have counted. -/
structure Counted (crowd : Crowd Database Call) : Prop where
  counters : ∀ product ∈ crowd.shared.products.docs,
    product.counters = counted crowd.agents product.id
  views : ∀ id, (crowd.shared.views.countP fun view => decide (view.productId = id)) =
    tally (Call.viewDocuments id) crowd.agents

/-- The saved value is the stored one and what the call adds to it. -/
def Call.SavesOnTop (products : Collection Product) : Call → Prop
  | .savingViews product _ => ∀ stored, products.findById? product.id = some stored →
      product.counters.numberOfViews = stored.counters.numberOfViews
  | .savingSales product number => number = 0 ∨
      ∀ stored, products.findById? product.id = some stored →
        product.counters.numberOfSales = stored.counters.numberOfSales
  | .savingSearches name _ (product :: _) =>
      ∀ stored, products.findById? product.id = some stored →
        product.counters.numberOfSearches + 1 =
          stored.counters.numberOfSearches + if named name then 1 else 0
  | _ => True

def SavesOnTop (source : Crowd Database Call) (turn : Nat × List ObjectId)
    (_ : Crowd Database Call) : Prop :=
  ∀ call, source.agents[turn.1]? = some call → call.SavesOnTop source.shared.products

/-! ## The end of a run -/

/-- What the completed calls report, in the order of the calls. -/
def reports (calls : List Call) : List Report :=
  calls.filterMap fun call => match call with
    | .answered (.ok report) => some report
    | _ => none

def Call.Succeeded : Call → Prop
  | .answered (.ok _) => True
  | _ => False

namespace Report

variable (id : ObjectId)

/-- The amount of the product that the call reports as sold. -/
def amount : Report → ℚ
  | .sold product number => if product = id then number else 0
  | _ => 0

/-- A search with a name has returned the product. -/
def finds : Report → Bool
  | .searched name ids => named name && decide (id ∈ ids)
  | _ => false

end Report

/-- The counters and the `View` documents agree with the reports. -/
structure LosesNoUpdate (crowd : Crowd Database Call) : Prop where
  numberOfViews : ∀ product ∈ crowd.shared.products.docs,
    product.counters.numberOfViews = (reports crowd.agents).count (.viewed product.id)
  views : ∀ product ∈ crowd.shared.products.docs,
    (crowd.shared.views.countP fun view => decide (view.productId = product.id)) =
      (reports crowd.agents).count (.viewed product.id)
  numberOfSales : ∀ product ∈ crowd.shared.products.docs,
    product.counters.numberOfSales = ((reports crowd.agents).map (Report.amount product.id)).sum
  numberOfSearches : ∀ product ∈ crowd.shared.products.docs,
    product.counters.numberOfSearches = (reports crowd.agents).countP (Report.finds product.id)

/-! ## One turn -/

/-- The call's copies are of stored products, and a search has each product once. -/
def Call.Coherent (products : Collection Product) : Call → Prop
  | .savingViews product _ => (products.findById? product.id).isSome = true
  | .savingSales product _ => (products.findById? product.id).isSome = true
  | .savingSearches _ saved rest => (saved ++ rest.map Product.id).Nodup ∧
      ∀ product ∈ rest, (products.findById? product.id).isSome = true
  | .answered (.ok (.searched _ ids)) => ids.Nodup
  | _ => True

structure Consistent (crowd : Crowd Database Call) : Prop where
  counted : Counted crowd
  coherent : ∀ call ∈ crowd.agents, call.Coherent crowd.shared.products

section Turns

variable {database : Database} {calls : List Call} {index : Nat} {call next : Call}

/-- The count of a product changes by what the turn's call adds. -/
theorem counted_set (found : calls[index]? = some call) (next : Call) (id : ObjectId) :
    (counted (calls.set index next) id).numberOfSales + call.sales id =
        (counted calls id).numberOfSales + next.sales id ∧
      (counted (calls.set index next) id).numberOfViews + call.views id =
        (counted calls id).numberOfViews + next.views id ∧
      (counted (calls.set index next) id).numberOfSearches + call.searches id =
        (counted calls id).numberOfSearches + next.searches id :=
  ⟨sum_map_set (Call.sales id) found next, tally_set (Call.views id) found next,
    tally_set (Call.searches id) found next⟩

theorem counted_set_eq (found : calls[index]? = some call) {id : ObjectId}
    (sales : next.sales id = call.sales id) (views : next.views id = call.views id)
    (searches : next.searches id = call.searches id) :
    counted (calls.set index next) id = counted calls id := by
  obtain ⟨sold, viewed, searched⟩ := counted_set found next id
  rw [sales] at sold
  rw [views] at viewed
  rw [searches] at searched
  exact ProductCounters.ext (add_right_cancel sold) (Nat.add_right_cancel viewed)
    (Nat.add_right_cancel searched)

/-- A turn that saves no counter keeps the count. -/
theorem idle_counted {after : Database} (counted : Counted ⟨database, calls⟩)
    (found : calls[index]? = some call) (products : after.products = database.products)
    (weights : ∀ id, next.sales id = call.sales id ∧ next.views id = call.views id ∧
      next.searches id = call.searches id)
    (views : ∀ id, (after.views.countP fun view => decide (view.productId = id)) =
      (database.views.countP fun view => decide (view.productId = id)) +
        (next.viewDocuments id - call.viewDocuments id))
    (logged : ∀ id, call.viewDocuments id ≤ next.viewDocuments id) :
    Counted ⟨after, calls.set index next⟩ where
  counters := by
    rw [products]
    intro product stored
    obtain ⟨sales, viewed, searches⟩ := weights product.id
    rw [counted_set_eq found sales viewed searches]
    exact counted.counters product stored
  views := by
    intro id
    have documents := tally_set (Call.viewDocuments id) found next
    have before := counted.views id
    have grows := logged id
    simp only [views id] at before ⊢
    omega

/-- After a save the counts agree exactly when the saved product's counters do. -/
theorem saved_counted_iff (counted : Counted ⟨database, calls⟩)
    (found : calls[index]? = some call) {id : ObjectId} {stored : Product}
    (there : database.products.findById? id = some stored) (change : Update Product) (next : Call)
    (others : ∀ other, other ≠ id → next.sales other = call.sales other ∧
      next.views other = call.views other ∧ next.searches other = call.searches other)
    (documents : ∀ other, next.viewDocuments other = call.viewDocuments other) :
    Counted ⟨database.update id change, calls.set index next⟩ ↔
      (change.apply stored).counters = Statistics.counted (calls.set index next) id := by
  have named : stored.id = id := (Collection.findById?_eq_some_iff.mp there).2
  have apart : ∀ product ∈ database.products.docs, Document.id product ≠ id →
      product.counters = Statistics.counted (calls.set index next) product.id := by
    intro product member elsewhere
    obtain ⟨sales, views, searches⟩ := others product.id elsewhere
    rw [counted_set_eq found sales views searches]
    exact counted.counters product member
  have kept : (change.apply stored).id = id := (change.keepsId stored).trans named
  have whole : (∀ product ∈ (database.products.update id change).docs,
      product.counters = Statistics.counted (calls.set index next) product.id) ↔
      (change.apply stored).counters =
        Statistics.counted (calls.set index next) (change.apply stored).id :=
    Collection.forall_update_iff apart there
  rw [kept] at whole
  refine ⟨fun after => whole.mp after.counters, fun here => ⟨whole.mpr here, fun other => ?_⟩⟩
  have logged := tally_set (Call.viewDocuments other) found next
  rw [documents other] at logged
  exact (counted.views other).trans (Nat.add_right_cancel logged).symm

section Saves

variable {product stored : Product}

/-- The counters of the saved product before the turn. -/
theorem stored_counters (counted : Counted ⟨database, calls⟩)
    (there : database.products.findById? product.id = some stored) :
    stored.counters = Statistics.counted calls product.id := by
  obtain ⟨member, named⟩ := Collection.findById?_eq_some_iff.mp there
  exact named ▸ counted.counters stored member

theorem savingViews_counted_iff {region : Option String} (counted : Counted ⟨database, calls⟩)
    (found : calls[index]? = some (.savingViews product region))
    (there : database.products.findById? product.id = some stored) :
    Counted ⟨database.update product.id (setViews (product.counters.numberOfViews + 1)),
        calls.set index (.savingView product region)⟩ ↔
      product.counters.numberOfViews = stored.counters.numberOfViews := by
  obtain ⟨sold, viewed, searched⟩ := counted_set found (.savingView product region) product.id
  rw [saved_counted_iff counted found there _
    (.savingView product region)
    (fun other elsewhere => ⟨rfl, by simp [Call.views, Ne.symm elsewhere], rfl⟩) fun _ => rfl,
    ProductCounters.ext_iff]
  simp only [Call.views, Call.sales, Call.searches, if_true,
    add_zero] at sold viewed searched
  simp only [setViews, stored_counters counted there, sold, viewed, searched, true_and, and_true,
    Nat.add_right_cancel_iff]

theorem savingSales_counted_iff {number : Int} (counted : Counted ⟨database, calls⟩)
    (found : calls[index]? = some (.savingSales product number))
    (there : database.products.findById? product.id = some stored) :
    Counted ⟨database.update product.id (setSales (product.counters.numberOfSales + number)),
        calls.set index (.answered (.ok (.sold product.id number)))⟩ ↔
      product.counters.numberOfSales = stored.counters.numberOfSales := by
  obtain ⟨sold, viewed, searched⟩ :=
    counted_set found (.answered (.ok (.sold product.id number))) product.id
  rw [saved_counted_iff counted found there _
    (.answered (.ok (.sold product.id number)))
    (fun other elsewhere => ⟨by simp [Call.sales, Ne.symm elsewhere], rfl, rfl⟩) fun _ => rfl,
    ProductCounters.ext_iff]
  simp only [Call.views, Call.sales, Call.searches, if_true,
    add_zero] at sold viewed searched
  simp only [setSales, stored_counters counted there, sold, viewed, searched, and_true,
    add_left_inj]

theorem savingSearches_counted_iff {name : Option String} {saved : List ObjectId}
    {rest : List Product} (counted : Counted ⟨database, calls⟩)
    (found : calls[index]? = some (.savingSearches name saved (product :: rest)))
    (there : database.products.findById? product.id = some stored) :
    Counted ⟨database.update product.id (setSearches (product.counters.numberOfSearches + 1)),
        calls.set index (.savingSearches name (saved ++ [product.id]) rest)⟩ ↔
      product.counters.numberOfSearches + 1 =
        stored.counters.numberOfSearches + if named name then 1 else 0 := by
  obtain ⟨sold, viewed, searched⟩ :=
    counted_set found (.savingSearches name (saved ++ [product.id]) rest) product.id
  rw [saved_counted_iff counted found there _
    (.savingSearches name (saved ++ [product.id]) rest)
    (fun other elsewhere => ⟨rfl, rfl, by simp [Call.searches, Ne.symm elsewhere]⟩) fun _ => rfl,
    ProductCounters.ext_iff]
  simp only [Call.views, Call.sales, Call.searches, add_zero] at sold viewed searched
  simp only [setSearches, stored_counters counted there, sold, viewed, true_and]
  split at searched
  case isTrue with_name =>
      rw [List.count_append, List.count_singleton_self] at searched
      rw [if_pos with_name]
      omega
  case isFalse nameless =>
      rw [if_neg nameless]
      omega

end Saves

/-- A turn that neither saves a counter nor logs a view. -/
theorem quiet_counted (counted : Counted ⟨database, calls⟩) (found : calls[index]? = some call)
    (weights : ∀ id, next.sales id = call.sales id ∧ next.views id = call.views id ∧
      next.searches id = call.searches id)
    (documents : ∀ id, next.viewDocuments id = call.viewDocuments id) :
    Counted ⟨database, calls.set index next⟩ :=
  idle_counted counted found rfl weights (fun id => by rw [documents, Nat.sub_self, Nat.add_zero])
    fun id => Nat.le_of_eq (documents id).symm

theorem savingView_counted {product : Product} {region : Option String}
    (counted : Counted ⟨database, calls⟩)
    (found : calls[index]? = some (.savingView product region)) :
    Counted ⟨{ database with
        views := database.views ++ [⟨product.sellerId, product.storeId, product.id, region⟩] },
      calls.set index (.answered (.ok (.viewed product.id)))⟩ := by
  refine idle_counted counted found rfl (fun id => ⟨rfl, rfl, rfl⟩) (fun id => ?_)
    fun id => Nat.zero_le _
  simp [Call.viewDocuments, List.countP_append, List.countP_singleton]

theorem advance_counted_iff (counted : Counted ⟨database, calls⟩)
    (stands : calls[index]? = some call) (coherent : call.Coherent database.products)
    (found : List ObjectId) :
    Counted ⟨(advance found database call).1, calls.set index (advance found database call).2⟩ ↔
      call.SavesOnTop database.products := by
  cases call with
  | updateNumberOfViews id region =>
      refine iff_of_true ?_ trivial
      simp only [advance]
      split <;> exact quiet_counted counted stands (fun _ => ⟨rfl, rfl, rfl⟩) fun _ => rfl
  | savingViews product region =>
      obtain ⟨stored, there⟩ := Option.isSome_iff_exists.mp coherent
      simp only [advance, save, there, Call.SavesOnTop, Option.some.injEq, forall_eq']
      exact savingViews_counted_iff counted stands there
  | savingView product region => exact iff_of_true (savingView_counted counted stands) trivial
  | updateNumberOfSales id numberOfSales =>
      refine iff_of_true ?_ trivial
      simp only [advance]
      split <;> exact quiet_counted counted stands (fun _ => ⟨rfl, rfl, rfl⟩) fun _ => rfl
  | savingSales product number =>
      obtain ⟨stored, there⟩ := Option.isSome_iff_exists.mp coherent
      by_cases unchanged : number = 0
      · refine iff_of_true ?_ (Or.inl unchanged)
        simp only [advance, if_pos unchanged]
        refine quiet_counted counted stands (fun id => ⟨?_, rfl, rfl⟩) fun _ => rfl
        simp [Call.sales, unchanged]
      · simp only [advance, save, there, Call.SavesOnTop, unchanged, if_false, false_or,
          Option.some.injEq, forall_eq']
        exact savingSales_counted_iff counted stands there
  | searchProduct name =>
      refine iff_of_true ?_ trivial
      simp only [advance, afterSearch]
      split
      case isTrue nameless =>
          refine quiet_counted counted stands (fun id => ⟨rfl, rfl, ?_⟩) fun _ => rfl
          simp [Call.searches, named, nameless]
      case isFalse =>
          refine quiet_counted counted stands (fun id => ⟨rfl, rfl, ?_⟩) fun _ => rfl
          simp [Call.searches]
  | savingSearches name saved products =>
      cases products with
      | nil =>
          exact iff_of_true (quiet_counted counted stands (fun _ => ⟨rfl, rfl, rfl⟩) fun _ => rfl)
            trivial
      | cons product rest =>
          obtain ⟨stored, there⟩ :=
            Option.isSome_iff_exists.mp (coherent.2 product List.mem_cons_self)
          simp only [advance, save, there, Call.SavesOnTop, Option.some.injEq, forall_eq']
          exact savingSearches_counted_iff counted stands there
  | answered outcome =>
      exact iff_of_true (quiet_counted counted stands (fun _ => ⟨rfl, rfl, rfl⟩) fun _ => rfl)
        trivial

/-- The same products are stored. -/
def SameIds (before after : Collection Product) : Prop :=
  ∀ id, (after.findById? id).isSome = (before.findById? id).isSome

theorem sameIds_update (products : Collection Product) (id : ObjectId) (change : Update Product) :
    SameIds products (products.update id change) := by
  intro other
  rw [Collection.findById?_update]
  split
  case isTrue here => rw [here, Option.isSome_map]
  case isFalse => rfl

theorem Call.Coherent.congr {before after : Collection Product} (same : SameIds before after)
    (coherent : call.Coherent before) : call.Coherent after := by
  cases call with
  | savingViews product region => exact (same product.id).trans coherent
  | savingSales product number => exact (same product.id).trans coherent
  | savingSearches name saved rest =>
      exact ⟨coherent.1, fun product member => (same product.id).trans (coherent.2 product member)⟩
  | answered outcome =>
      cases outcome with
      | error failure => trivial
      | ok report => cases report <;> exact coherent
  | _ => trivial

theorem advance_sameIds (found : List ObjectId) (database : Database) (call : Call) :
    SameIds database.products (advance found database call).1.products := by
  have saves : ∀ id change next,
      SameIds database.products (save database id change next).1.products := by
    intro id change next
    unfold save
    split
    · exact sameIds_update database.products id change
    · exact fun _ => rfl
  cases call with
  | savingViews product region => exact saves _ _ _
  | savingSales product number =>
      simp only [advance]
      split
      · exact fun _ => rfl
      · exact saves _ _ _
  | savingSearches name saved products =>
      cases products with
      | nil => exact fun _ => rfl
      | cons product rest => exact saves _ _ _
  | updateNumberOfViews id region =>
      simp only [advance]
      split <;> exact fun _ => rfl
  | updateNumberOfSales id numberOfSales =>
      simp only [advance]
      split <;> exact fun _ => rfl
  | _ => exact fun _ => rfl

/-- The products that a search finds are stored, and found once. -/
theorem found_coherent (products : Collection Product) (ids : List ObjectId) :
    ((ids.dedup.filterMap products.findById?).map Product.id).Nodup ∧
      ∀ product ∈ ids.dedup.filterMap products.findById?,
        (products.findById? product.id).isSome = true := by
  have named : ∀ {id : ObjectId} {product : Product}, products.findById? id = some product →
      product.id = id := fun there => (Collection.findById?_eq_some_iff.mp there).2
  constructor
  · refine List.Nodup.map_on ?_ (List.Nodup.filterMap ?_ (List.nodup_dedup ids))
    · intro first first_found second second_found same
      obtain ⟨id, -, there⟩ := List.mem_filterMap.mp first_found
      obtain ⟨other, -, other_there⟩ := List.mem_filterMap.mp second_found
      have one : id = other := (named there).symm.trans (same.trans (named other_there))
      subst one
      exact Option.some.inj (there.symm.trans other_there)
    · intro first second product at_first at_second
      exact (named at_first).symm.trans (named at_second)
  · intro product found
    obtain ⟨id, -, there⟩ := List.mem_filterMap.mp found
    rw [named there, there]
    rfl

theorem advance_coherent (coherent : call.Coherent database.products) (found : List ObjectId) :
    (advance found database call).2.Coherent (advance found database call).1.products := by
  cases call with
  | updateNumberOfViews id region =>
      simp only [advance]
      split
      case h_1 product there =>
          have named : product.id = id := (Collection.findById?_eq_some_iff.mp there).2
          rw [← named] at there
          exact Option.isSome_iff_exists.mpr ⟨product, there⟩
      case h_2 => trivial
  | savingViews product region =>
      simp only [advance, save]
      split <;> trivial
  | savingView product region => trivial
  | updateNumberOfSales id numberOfSales =>
      simp only [advance]
      split
      case h_1 => trivial
      case h_2 => trivial
      case h_3 product number there =>
          have named : product.id = id := (Collection.findById?_eq_some_iff.mp there).2
          rw [← named] at there
          exact Option.isSome_iff_exists.mpr ⟨product, there⟩
  | savingSales product number =>
      simp only [advance, save]
      split
      · trivial
      · split <;> trivial
  | searchProduct name =>
      obtain ⟨distinct, stored⟩ := found_coherent database.products found
      simp only [advance, afterSearch]
      split
      · exact distinct
      · exact ⟨distinct, stored⟩
  | savingSearches name saved products =>
      cases products with
      | nil => simpa [Call.Coherent, advance] using coherent
      | cons product rest =>
          obtain ⟨stored, there⟩ :=
            Option.isSome_iff_exists.mp (coherent.2 product List.mem_cons_self)
          have kept : (Call.savingSearches name (saved ++ [product.id]) rest).Coherent
              database.products := by
            refine ⟨?_, fun other member => coherent.2 other (List.mem_cons_of_mem product member)⟩
            simpa [List.append_assoc] using coherent.1
          simp only [advance, save, there]
          exact kept.congr (sameIds_update database.products product.id _)
  | answered outcome => exact coherent

end Turns

theorem turn_coherent {source : Crowd Database Call} {index : Nat} {call : Call}
    (consistent : Consistent source) (stands : source.agents[index]? = some call)
    (found : List ObjectId) :
    ∀ agent ∈ source.agents.set index (advance found source.shared call).2,
      agent.Coherent (advance found source.shared call).1.products := by
  intro agent member
  rcases List.mem_or_eq_of_mem_set member with standing | rfl
  · exact (consistent.coherent agent standing).congr (advance_sameIds found source.shared call)
  · exact advance_coherent (consistent.coherent call (List.mem_of_getElem? stands)) found

theorem callTurn_consistent_iff {source target : Crowd Database Call}
    {turn : Nat × List ObjectId} (consistent : Consistent source)
    (stepped : callTurn? source turn = some target) :
    Consistent target ↔ SavesOnTop source turn target := by
  obtain ⟨call, stands, rfl⟩ := Option.map_eq_some_iff.mp stepped
  have own := consistent.coherent call (List.mem_of_getElem? stands)
  have exact_turn := advance_counted_iff consistent.counted stands own turn.2
  rw [SavesOnTop, forall_turn_iff stands]
  exact ⟨fun after => exact_turn.mp after.counted,
    fun saves => ⟨exact_turn.mpr saves, turn_coherent consistent stands turn.2⟩⟩

/-! ## Every run -/

theorem Call.Entry.coherent {call : Call} (entry : call.Entry) (products : Collection Product) :
    call.Coherent products := by
  cases call with
  | updateNumberOfViews _ _ | updateNumberOfSales _ _ | searchProduct _ => trivial
  | _ => exact entry.elim

theorem Call.Entry.weightless {call : Call} (entry : call.Entry) (id : ObjectId) :
    call.sales id = 0 ∧ call.views id = 0 ∧ call.searches id = 0 ∧ call.viewDocuments id = 0 := by
  cases call with
  | updateNumberOfViews _ _ | updateNumberOfSales _ _ | searchProduct _ =>
      exact ⟨rfl, rfl, rfl, rfl⟩
  | _ => exact entry.elim

theorem entry_consistent {crowd : Crowd Database Call}
    (entry : ∀ call ∈ crowd.agents, call.Entry)
    (zero : ∀ product ∈ crowd.shared.products.docs, product.counters = ⟨0, 0, 0⟩)
    (no_views : crowd.shared.views = []) : Consistent crowd := by
  have uncounted : ∀ {Weight : Type} [AddCommMonoid Weight] (weight : Call → Weight),
      (∀ call ∈ crowd.agents, weight call = 0) → (crowd.agents.map weight).sum = 0 := by
    intro Weight _ weight weightless
    refine List.sum_eq_zero fun value member => ?_
    obtain ⟨call, stands, rfl⟩ := List.mem_map.mp member
    exact weightless call stands
  refine ⟨⟨fun product stored => ?_, fun id => ?_⟩, fun call stands =>
    (entry call stands).coherent crowd.shared.products⟩
  · rw [zero product stored]
    refine ProductCounters.ext ?_ ?_ ?_
    · exact (uncounted _ fun call stands => ((entry call stands).weightless product.id).1).symm
    · exact (uncounted _ fun call stands => ((entry call stands).weightless product.id).2.1).symm
    · exact (uncounted _ fun call stands =>
        ((entry call stands).weightless product.id).2.2.1).symm
  · rw [no_views]
    exact (uncounted _ fun call stands => ((entry call stands).weightless id).2.2.2).symm

theorem always_counted_iff {crowd : Crowd Database Call} (consistent : Consistent crowd)
    (turns : List (Nat × List ObjectId)) :
    Always callTurn? Counted crowd turns ↔ EveryStep callTurn? SavesOnTop crowd turns := by
  have kept : ∀ source turn target, Consistent source → callTurn? source turn = some target →
      Counted target → Consistent target := by
    intro source turn target consistent stepped counted
    obtain ⟨call, stands, rfl⟩ := Option.map_eq_some_iff.mp stepped
    exact ⟨counted, turn_coherent consistent stands turn.2⟩
  rw [← always_iff_everyStep (fun _ _ _ => callTurn_consistent_iff) consistent]
  exact ⟨Always.strengthen kept consistent, fun always => always.mono fun _ => Consistent.counted⟩

/-- A call that has ended with a report. -/
def completed (report : Report) : Call := .answered (.ok report)

theorem eq_completed_reports {calls : List Call} (succeeded : ∀ call ∈ calls, call.Succeeded) :
    calls = (reports calls).map completed := by
  induction calls with
  | nil => rfl
  | cons call rest ih =>
      have later := ih fun other member => succeeded other (List.mem_cons_of_mem call member)
      have here := succeeded call List.mem_cons_self
      cases call with
      | answered outcome =>
          cases outcome with
          | error failure => exact here.elim
          | ok report => exact congrArg (List.cons (completed report)) later
      | _ => exact here.elim

section Completed

variable (log : List Report) (id : ObjectId)

theorem sum_sales_completed : ((log.map completed).map (Call.sales id)).sum =
    (log.map (Report.amount id)).sum := by
  rw [List.map_map]
  refine congrArg List.sum (List.map_congr_left fun report _ => ?_)
  cases report <;> rfl

theorem tally_viewDocuments_completed :
    tally (Call.viewDocuments id) (log.map completed) = log.count (.viewed id) := by
  induction log with
  | nil => rfl
  | cons report rest ih =>
      simp only [tally] at ih
      simp only [tally, List.map_cons, List.sum_cons, ih, List.count_cons]
      cases report <;> simp [completed, Call.viewDocuments, Nat.add_comm]

theorem tally_views_completed :
    tally (Call.views id) (log.map completed) = log.count (.viewed id) := by
  rw [← tally_viewDocuments_completed log id, tally, tally]
  refine congrArg List.sum (List.map_congr_left fun call member => ?_)
  obtain ⟨report, -, rfl⟩ := List.mem_map.mp member
  cases report <;> rfl

/-- A search counts a product once, since it has found it once. -/
theorem tally_searches_completed
    (distinct : ∀ name ids, Report.searched name ids ∈ log → ids.Nodup) :
    tally (Call.searches id) (log.map completed) = log.countP (Report.finds id) := by
  induction log with
  | nil => rfl
  | cons report rest ih =>
      have later := ih fun name ids member => distinct name ids (List.mem_cons_of_mem report member)
      simp only [tally] at later
      simp only [tally, List.map_cons, List.sum_cons, later, List.countP_cons]
      rw [Nat.add_comm]
      refine congrArg (rest.countP (Report.finds id) + ·) ?_
      cases report with
      | viewed viewed => rfl
      | sold product number => rfl
      | searched name ids =>
          have once : ids.count id = if id ∈ ids then 1 else 0 :=
            List.Nodup.count (distinct name ids List.mem_cons_self)
          simp only [completed, Call.searches, Report.finds, once, Bool.and_eq_true,
            decide_eq_true_eq]
          split <;> simp [*]

end Completed

/-- Once every call has succeeded, the counts are those of the reports. -/
theorem losesNoUpdate_of_consistent {crowd : Crowd Database Call} (consistent : Consistent crowd)
    (succeeded : ∀ call ∈ crowd.agents, call.Succeeded) : LosesNoUpdate crowd := by
  have completed_all := eq_completed_reports succeeded
  have distinct : ∀ name ids, Report.searched name ids ∈ reports crowd.agents → ids.Nodup := by
    intro name ids member
    have stands : completed (.searched name ids) ∈ crowd.agents := by
      rw [completed_all]
      exact List.mem_map_of_mem member
    exact consistent.coherent _ stands
  have counters : ∀ product ∈ crowd.shared.products.docs,
      product.counters = counted ((reports crowd.agents).map completed) product.id := by
    rw [← completed_all]
    exact consistent.counted.counters
  refine ⟨fun product stored => ?_, fun product stored => ?_, fun product stored => ?_,
    fun product stored => ?_⟩
  · rw [counters product stored]
    exact tally_views_completed (reports crowd.agents) product.id
  · have documents := tally_viewDocuments_completed (reports crowd.agents) product.id
    rw [← completed_all] at documents
    exact (consistent.counted.views product.id).trans documents
  · rw [counters product stored]
    exact sum_sales_completed (reports crowd.agents) product.id
  · rw [counters product stored]
    exact tally_searches_completed (reports crowd.agents) product.id distinct

/-- From counters at zero, every counter is what the calls have counted throughout a run exactly
when every save adds to the stored value; then the ended calls have lost nothing. -/
theorem counters_iff_savesOnTop {crowd : Crowd Database Call}
    (entry : ∀ call ∈ crowd.agents, call.Entry)
    (zero : ∀ product ∈ crowd.shared.products.docs, product.counters = ⟨0, 0, 0⟩)
    (no_views : crowd.shared.views = []) (turns : List (Nat × List ObjectId)) :
    (Always callTurn? Counted crowd turns ↔ EveryStep callTurn? SavesOnTop crowd turns) ∧
      (EveryStep callTurn? SavesOnTop crowd turns →
        ∀ final, run? callTurn? crowd turns = some final →
        (∀ call ∈ final.agents, call.Succeeded) → LosesNoUpdate final) := by
  have consistent := entry_consistent entry zero no_views
  refine ⟨always_counted_iff consistent turns, fun saves final reached succeeded => ?_⟩
  have always := (always_iff_everyStep (fun _ _ _ => callTurn_consistent_iff) consistent).mpr saves
  exact losesNoUpdate_of_consistent (always.target reached) succeeded

/-! ## Two views of one product -/

def viewedProduct : Product where
  id := 1
  name := "Lamp"
  description := "A lamp"
  price := 30
  storeCategoryId := 2
  categoryId := 3
  subCategoryId := 4
  rayonId := 5
  images := []
  tags := []
  variants := []
  sellerId := 6
  storeId := 7
  deleted := false
  discount := 0
  discountType := none
  discountExpiration := 0
  offer := none
  policy := none
  counters := ⟨0, 0, 0⟩

def twoViews : Crowd Database Call where
  shared := ⟨⟨[viewedProduct], List.nodup_singleton _⟩, []⟩
  agents := [.updateNumberOfViews 1 none, .updateNumberOfViews 1 none]

/-- One call after the other. -/
def inOrder : List (Nat × List ObjectId) := [(0, []), (0, []), (0, []), (1, []), (1, []), (1, [])]

theorem inOrder_counters_iff :
    (Always callTurn? Counted twoViews inOrder ↔ EveryStep callTurn? SavesOnTop twoViews inOrder) ∧
      (EveryStep callTurn? SavesOnTop twoViews inOrder → ∀ final,
        run? callTurn? twoViews inOrder = some final →
        (∀ call ∈ final.agents, call.Succeeded) → LosesNoUpdate final) := by
  refine counters_iff_savesOnTop
    (List.forall_mem_cons.mpr ⟨trivial, List.forall_mem_singleton.mpr trivial⟩) ?_ rfl inOrder
  intro product stored
  cases List.mem_singleton.mp stored
  rfl

/-- Both calls read 0 and save 1. -/
theorem twoViews_lose_one : ∃ final,
    run? callTurn? twoViews [(0, []), (1, []), (0, []), (0, []), (1, []), (1, [])] = some final ∧
      (∀ call ∈ final.agents, call.Succeeded) ∧ ¬ LosesNoUpdate final := by
  refine ⟨_, rfl, List.forall_mem_cons.mpr ⟨trivial, List.forall_mem_singleton.mpr trivial⟩, ?_⟩
  intro loses_none
  have numberOfViews := loses_none.numberOfViews _ List.mem_cons_self
  exact absurd numberOfViews (by decide)

end Proximity.Catalogue.Statistics
