import Proximity.Catalogue.Images

/-!
# Images of past orders

Deleting a product unlinks its images.  The orders that still show them are asked for and never
waited for, so the list of images is not narrowed.
-/

namespace Proximity.Catalogue.PastImages

open Proximity.Systems Proximity.Models Proximity.Catalogue.Images

/-- The images of the items of a stored order. -/
structure PastOrder where
  id : ObjectId
  images : List String
  deriving DecidableEq, Repr

instance : Document PastOrder ObjectId := ⟨PastOrder.id⟩

structure Shop where
  database : Database
  orders : Collection PastOrder
  files : Finset String

/-- `images_to_delete`.  What is asked for its `length` is the query of the orders and not its
answer; a query has none, so the list is never narrowed. -/
def imagesToDelete (product : Product) : List String := imagePaths product

def deleteProduct (shop : Shop) (user : Token) (id : ObjectId) : Shop × Option Failure :=
  match shop.database.products.findById? id with
  | none => (shop, some .productMissing)
  | some product =>
      if product.sellerId = user.id then
        ({ shop with
          files := unlinkAll (imagesToDelete product) shop.files
          database := { shop.database with products := shop.database.products.delete id } }, none)
      else (shop, some .notYourProduct)

/-- The documents are those of the service. -/
theorem deleteProduct_database (shop : Shop) (user : Token) (id : ObjectId) :
    (deleteProduct shop user id).1.database =
      served shop.database (Catalogue.deleteProduct shop.database user id) := by
  unfold deleteProduct Catalogue.deleteProduct
  cases shop.database.products.findById? id with
  | none => rfl
  | some product =>
      by_cases owner : product.sellerId = user.id
      · simp only [if_pos owner, found, require, bind, Except.bind]
        rfl
      · simp only [if_neg owner, found, require, bind, Except.bind]
        rfl

/-- Some stored order shows the image. -/
def Shown (orders : Collection PastOrder) (image : String) : Prop :=
  ∃ order ∈ orders.docs, image ∈ order.images

/-- The call removes no file that an order shows, and when it deletes the product it removes
all other images of it. -/
structure KeepsPast (shop : Shop) (user : Token) (id : ObjectId) : Prop where
  kept : ∀ image ∈ shop.files, Shown shop.orders image →
    image ∈ (deleteProduct shop user id).1.files
  removed : ∀ product, shop.database.products.findById? id = some product →
    product.sellerId = user.id → ∀ image ∈ imagePaths product, image ≠ "" →
      ¬ Shown shop.orders image → image ∉ (deleteProduct shop user id).1.files

/-- No image of a product that its seller deletes is both there and shown by an order. -/
def NoneShown (shop : Shop) (user : Token) (id : ObjectId) : Prop :=
  ∀ product, shop.database.products.findById? id = some product →
    product.sellerId = user.id → ∀ image ∈ imagePaths product, image ≠ "" →
      image ∈ shop.files → ¬ Shown shop.orders image

theorem deleteProduct_files {shop : Shop} {user : Token} {id : ObjectId} {product : Product}
    (there : shop.database.products.findById? id = some product)
    (owner : product.sellerId = user.id) :
    (deleteProduct shop user id).1.files = unlinkAll (imagePaths product) shop.files := by
  rw [deleteProduct, there]
  dsimp only
  rw [if_pos owner]
  rfl

/-- Images of past orders are kept exactly when the product has none. -/
theorem keepsPast_iff_noneShown (shop : Shop) (user : Token) (id : ObjectId) :
    KeepsPast shop user id ↔ NoneShown shop user id := by
  constructor
  · intro keeps product there owner image own filled present shown
    have still := keeps.kept image present shown
    rw [deleteProduct_files there owner, mem_unlinkAll] at still
    exact still.2 filled own
  · intro none_shown
    constructor
    · intro image present shown
      unfold deleteProduct
      split
      case h_1 => exact present
      case h_2 product there =>
          split
          case isFalse => exact present
          case isTrue owner =>
              refine mem_unlinkAll.mpr ⟨present, fun filled own => ?_⟩
              exact none_shown product there owner image own filled present shown
    · intro product there owner image own filled _
      rw [deleteProduct_files there owner, mem_unlinkAll]
      exact fun still => still.2 filled own

/-! ## A product that was ordered -/

/-- Order 100 shows the only image of product 20. -/
def orderedProduct : Shop where
  database := ⟨⟨[{ Links.fiveUnits with images := ["images/products/a.png"], variants := [] }],
    List.nodup_singleton 20⟩, Collection.empty, Collection.empty, []⟩
  orders := ⟨[⟨100, ["images/products/a.png"]⟩], List.nodup_singleton 100⟩
  files := {"images/products/a.png"}

theorem orderedProduct_not_keepsPast : ¬ KeepsPast orderedProduct ⟨2, .seller⟩ 20 := by
  intro keeps
  have still := keeps.kept "images/products/a.png" (Finset.mem_singleton_self _)
    ⟨_, List.mem_cons_self, List.mem_cons_self⟩
  exact absurd still (by decide)

end Proximity.Catalogue.PastImages
