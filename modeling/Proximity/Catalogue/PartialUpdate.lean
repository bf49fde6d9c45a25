import Mathlib.Algebra.Order.Ring.Rat
import Proximity.Catalogue.Services

/-!
# Partial updates of a product

The route validates the body, and the service merges what is given with what is stored.  The
variants are replaced as a whole.
-/

namespace Proximity.Catalogue.PartialUpdate

open Proximity.Systems Proximity.Models

/-! ## `updateProductSchemaValidation` -/

def textWithin (low : Nat) (high : Option Nat) (text : String) : Bool :=
  decide (low ≤ jsLength text) && high.all fun bound => decide (jsLength text ≤ bound)

def numberWithin (low high : ℚ) (number : JoiNumber) : Bool :=
  decide (low ≤ number.value ∧ number.value ≤ high)

/-- The schema of a characteristic. -/
def acceptedCharacteristic (characteristic : Characteristic) : Bool :=
  characteristic.name.all (textWithin 3 none) && characteristic.value.all fun text => text ≠ ""

/-- The schema of a variant, which knows neither `img` nor `available`. -/
def acceptedVariant (variant : VariantBody) : Bool :=
  variant.quantity.all (numberWithin 1 1000000) && variant.price.all (numberWithin 1 1000000) &&
    variant.characterstics.all (fun list => list.all acceptedCharacteristic) &&
    variant.img.isNone && variant.available.isNone

/-- The schema of the route on the fields that the service reads. -/
def accepted (body : ProductBody) : Bool :=
  body.name.all (textWithin 3 none) && body.price.all (numberWithin 1 1000000) &&
    body.description.all (textWithin 3 (some 200)) &&
    body.tags.all (fun tags => tags.all (textWithin 3 none)) &&
    body.discount.all (numberWithin 0 100) &&
    body.images.all (fun images => images.all (textWithin 3 (some 200))) &&
    body.variantes.all fun variants => variants.all acceptedVariant

/-! ## What an update should do -/

/-- The stored variant has what was asked for. -/
structure AsGiven (given : VariantBody) (stored : Variant) : Prop where
  id : ∀ id, given.id = some id → stored.id = id
  price : ∀ price, given.price = some price → stored.price = price.value
  quantity : ∀ quantity, given.quantity = some quantity → stored.quantity = quantity.value
  characterstics : ∀ list, given.characterstics = some list → stored.characterstics = list

/-- A kept variant keeps its image and its availability. -/
def KeepsRest (before : Product) (given : VariantBody) (stored : Variant) : Prop :=
  ∀ old ∈ before.variants, given.id = some old.id →
    stored.img = old.img ∧ stored.available = old.available

/-- What is given is stored, a discount of 0 too, and what is absent stays. -/
structure PartiallyUpdated (before after : Product) (body : ProductBody) : Prop where
  name : after.name = body.name.getD before.name
  price : after.price = (body.price.map JoiNumber.value).getD before.price
  description : after.description = body.description.getD before.description
  tags : after.tags = body.tags.getD before.tags
  discount : after.discount = (body.discount.map JoiNumber.value).getD before.discount
  images : after.images = body.images.getD before.images
  storeId : after.storeId = body.storeId
  policy : after.policy = body.policy.getD before.policy
  categoryId : after.categoryId = body.categoryId.getD before.categoryId
  subCategoryId : after.subCategoryId = body.subCategoryId.getD before.subCategoryId
  storeCategoryId : after.storeCategoryId = body.storeCategoryId.getD before.storeCategoryId
  rayonId : after.rayonId = body.rayonId.getD before.rayonId
  untouched : body.variantes = none → after.variants = before.variants
  given : ∀ variants, body.variantes = some variants →
    List.Forall₂ AsGiven variants after.variants
  kept : ∀ variants, body.variantes = some variants → body.varientsImages = none →
    List.Forall₂ (KeepsRest before) variants after.variants

/-! ## When it does -/

/-- The image that every new variant has when none is uploaded. -/
def bareImage (before : Product) (body : ProductBody) : List VariantBody → Option String
  | [given] => if standsForProduct body given = .ok true then before.images.head? else none
  | _ => none

/-- Nothing is asked for that the merge drops, and no kept variant has what it cannot keep. -/
structure SparesAbsent (before : Product) (body : ProductBody) : Prop where
  discount : body.discount = some (.number 0) → before.discount = 0
  policy : body.policy = some none → before.policy = none
  untouched : body.variantes = none → before.variants = []
  price : ∀ given, body.variantes = some [given] → standsForProduct body given = .ok true →
    ∀ price, given.price = some price → body.price.map JoiNumber.value = some price.value
  kept : ∀ variants, body.variantes = some variants → body.varientsImages = none →
    ∀ given ∈ variants, ∀ old ∈ before.variants, given.id = some old.id →
      old.img = bareImage before body variants ∧ old.available = true

section Merge

theorem textOrKept_eq {given : Option String} (filled : given ≠ some "") (kept : String) :
    textOrKept given kept = given.getD kept := by
  cases given with
  | none => rfl
  | some text =>
      have text_filled : text ≠ "" := fun empty => filled (congrArg some empty)
      have stays : decide (text ≠ "") = true := decide_eq_true text_filled
      rw [textOrKept, Option.filter_some, if_pos stays]

theorem policyOrKept_eq_iff (given : Option (Option Policy)) (kept : Option Policy) :
    given.join.or kept = given.getD kept ↔ (given = some none → kept = none) := by
  cases given with
  | none => simp
  | some requested => cases requested <;> simp

theorem textWithin_ne_empty {high : Option Nat} {text : String}
    (within : textWithin 3 high text = true) : text ≠ "" := by
  rintro rfl
  have short : textWithin 3 high "" = false := rfl
  cases short.symm.trans within

/-- The texts of an accepted body are not empty, and its price is not 0. -/
theorem accepted_filled {body : ProductBody} (passes : accepted body = true) :
    body.name ≠ some "" ∧ body.description ≠ some "" ∧ body.price ≠ some (.number 0) := by
  simp only [accepted, Bool.and_eq_true] at passes
  obtain ⟨⟨⟨⟨⟨⟨name, price⟩, description⟩, -⟩, -⟩, -⟩, -⟩ := passes
  refine ⟨fun empty => ?_, fun empty => ?_, fun zero => ?_⟩
  · rw [empty] at name
    exact textWithin_ne_empty name rfl
  · rw [empty] at description
    exact textWithin_ne_empty description rfl
  · rw [zero] at price
    exact absurd price (by decide)

/-- The variants of an accepted body bring no image and no availability. -/
theorem accepted_bare {body : ProductBody} (passes : accepted body = true)
    {variants : List VariantBody} (given : body.variantes = some variants) :
    ∀ variant ∈ variants, variant.img = none ∧ variant.available = none := by
  simp only [accepted, Bool.and_eq_true] at passes
  have all := passes.2
  rw [given, Option.all_some, List.all_eq_true] at all
  intro variant member
  have bare := all variant member
  simp only [acceptedVariant, Bool.and_eq_true, Option.isNone_iff_eq_none] at bare
  exact ⟨bare.1.2, bare.2⟩

end Merge

section Variants

variable {before : Product} {body : ProductBody}

theorem castVariant_asGiven {given : VariantBody} {img : Option String} {stored : Variant}
    (cast : castVariant given img = .ok stored) : AsGiven given stored := by
  obtain ⟨id, characterstics, price, quantity, -, -⟩ := castVariant_spec cast
  refine ⟨?_, ?_, ?_, ?_⟩
  · intro asked asks
    rw [id, asks, Option.getD_some]
  · intro asked asks
    rw [asks] at price
    exact Option.some.inj price
  · intro asked asks
    rw [quantity, asks]
    rfl
  · intro asked asks
    exact Option.some.inj (characterstics.trans asks)

/-- The cast variants are as they were given, and none has been made unavailable. -/
theorem castVariants_asGiven {given : List VariantBody} {images : List (Option String)}
    {stored : List Variant} (same : images.length = given.length)
    (cast : castVariants given images = .ok stored) :
    List.Forall₂ AsGiven given stored ∧
      ((∀ variant ∈ given, variant.available = none) →
        ∀ variant ∈ stored, variant.available = true) := by
  induction given generalizing images stored with
  | nil =>
      cases cast
      exact ⟨.nil, nofun⟩
  | cons head rest ih =>
      cases images with
      | nil => cases same
      | cons img images =>
          obtain ⟨variant, variants, cast_head, cast_rest, rfl⟩ := castVariants_cons cast
          obtain ⟨all_given, all_available⟩ := ih (Nat.succ.inj same) cast_rest
          refine ⟨.cons (castVariant_asGiven cast_head) all_given, fun bare => ?_⟩
          obtain ⟨head_bare, rest_bare⟩ := List.forall_mem_cons.mp bare
          obtain ⟨-, -, -, -, -, available⟩ := castVariant_spec cast_head
          rw [head_bare] at available
          exact List.forall_mem_cons.mpr ⟨available, all_available rest_bare⟩

/-- When all new variants look alike, they keep the rest of the old ones exactly when these
looked so too. -/
theorem keepsRest_iff {given : List VariantBody} {stored : List Variant} {img : Option String}
    (same : given.length = stored.length)
    (alike : ∀ variant ∈ stored, variant.img = img ∧ variant.available = true) :
    List.Forall₂ (KeepsRest before) given stored ↔
      ∀ variant ∈ given, ∀ old ∈ before.variants, variant.id = some old.id →
        old.img = img ∧ old.available = true := by
  induction given generalizing stored with
  | nil =>
      cases stored with
      | nil => exact iff_of_true .nil nofun
      | cons head rest => cases same
  | cons head rest ih =>
      cases stored with
      | nil => cases same
      | cons first others =>
          obtain ⟨⟨pictured, available⟩, others_alike⟩ := List.forall_mem_cons.mp alike
          rw [List.forall₂_cons, List.forall_mem_cons, ih (Nat.succ.inj same) others_alike]
          refine and_congr_left' ?_
          unfold KeepsRest
          rw [pictured, available]
          refine forall₂_congr fun old _ => imp_congr_right fun _ => ?_
          exact and_congr eq_comm eq_comm

/-- What becomes of given variants: all as given but for the price of the one that stands for
the product, and without uploads all with the one bare image. -/
structure Replaced (before : Product) (body : ProductBody) (variants : List VariantBody)
    (stored : List Variant) : Prop where
  length : variants.length = stored.length
  given : List.Forall₂ AsGiven variants stored ↔
    ∀ given, variants = [given] → standsForProduct body given = .ok true →
      ∀ price, given.price = some price → body.price.map JoiNumber.value = some price.value
  bare : body.varientsImages = none → ∀ variant ∈ stored,
    variant.img = bareImage before body variants ∧ variant.available = true

/-- The variants are cast as they are given. -/
theorem replaced_of_cast {variants : List VariantBody} {images : List (Option String)}
    {stored : List Variant}
    (bare : ∀ variant ∈ variants, variant.img = none ∧ variant.available = none)
    (placed : variantImages before body.varientsImages variants = .ok images)
    (cast : castVariants variants images = .ok stored)
    (several : ∀ given, variants = [given] → standsForProduct body given ≠ .ok true) :
    Replaced before body variants stored := by
  have same := variantImages_length placed
  obtain ⟨as_given, available⟩ := castVariants_asGiven same cast
  refine ⟨as_given.length_eq, ?_, ?_⟩
  · exact iff_of_true as_given fun given single stands => absurd stands (several given single)
  · intro without variant member
    have plain : bareImage before body variants = none := by
      unfold bareImage
      split
      case h_1 given => exact if_neg (several given rfl)
      case h_2 => rfl
    rw [without] at placed
    cases placed
    have picture : variant.img ∈ stored.map Variant.img := List.mem_map_of_mem member
    rw [castVariants_images same cast] at picture
    obtain ⟨given, there, pictured⟩ := List.mem_map.mp picture
    rw [plain, ← pictured]
    exact ⟨(bare given there).1,
      available (fun other listed => (bare other listed).2) variant member⟩

theorem replaced_of_product {given : VariantBody} {stored : Variant}
    (available : given.available = none) (stands : standsForProduct body given = .ok true)
    (made : productVariant before body given = .ok stored) :
    Replaced before body [given] [stored] := by
  simp only [productVariant, bind_eq_ok_iff, found_eq_ok_iff, pure_eq_ok_iff] at made
  obtain ⟨price, priced, quantity, counted, characterstics, described, rfl⟩ := made
  refine ⟨rfl, ?_, ?_⟩
  · rw [List.forall₂_cons, and_iff_left .nil]
    constructor
    · rintro as_given other single - asked asks
      cases single
      rw [priced, Option.map_some, ← as_given.price asked asks]
    · intro same
      refine ⟨fun given_id named => by simp [named], ?_, ?_, ?_⟩
      · intro asked asks
        have equal := same given rfl stands asked asks
        rw [priced] at equal
        exact Option.some.inj equal
      · intro asked asks
        rw [Option.some.inj (counted.symm.trans asks)]
      · intro asked asks
        exact Option.some.inj (described.symm.trans asks)
  · intro _ variant member
    cases List.mem_singleton.mp member
    exact ⟨(if_pos stands).symm, by rw [available]; rfl⟩

theorem updatedVariants_replaced (passes : accepted body = true) {variants : List VariantBody}
    {stored : List Variant} (given : body.variantes = some variants)
    (updated : updatedVariants before body = .ok stored) :
    Replaced before body variants stored := by
  have bare := accepted_bare passes given
  rcases updatedVariants_cases given updated with
    ⟨alone, variant, rfl, stands, made, rfl⟩ | ⟨images, placed, cast, several⟩
  · exact replaced_of_product (bare alone List.mem_cons_self).2 stands made
  · exact replaced_of_cast bare placed cast several

end Variants

/-! ## Every update -/

/-- The stored product after an update. -/
theorem updateProduct_spec {database : Database} {user : Token} {id : ObjectId}
    {body : ProductBody} {effect : Effect} {before after : Product}
    (there : database.products.findById? id = some before)
    (updated : updateProduct database user id body = .ok effect)
    (now : (database.apply effect).products.findById? id = some after) :
    ∃ variants, updatedVariants before body = .ok variants ∧
      after = (productUpdate body variants).apply before := by
  simp only [updateProduct, there, bind_eq_ok_iff, found_eq_ok_iff, pure_eq_ok_iff,
    Option.some.injEq] at updated
  obtain ⟨product, rfl, -, -, -, -, -, -, variants, made, rfl⟩ := updated
  refine ⟨variants, made, ?_⟩
  have stored : (database.products.update id (productUpdate body variants)).findById? id =
      some after := now
  rw [Collection.findById?_update, there] at stored
  simpa using stored.symm

def lamp : Product where
  id := 9
  name := "Lamp"
  description := "A lamp"
  price := 30
  storeCategoryId := 5
  categoryId := 3
  subCategoryId := 4
  rayonId := 6
  images := []
  tags := []
  variants := [⟨"red lamp", [⟨some "colour", some "red"⟩], 30, 2, none, true⟩]
  sellerId := 2
  storeId := 1
  deleted := false
  discount := 20
  discountType := none
  discountExpiration := 86400000
  offer := none
  policy := none
  counters := ⟨0, 0, 0⟩

def lights : Database where
  products := ⟨[lamp], List.nodup_singleton 9⟩
  stores := ⟨[⟨1, 2, "Lights", "", "", true⟩], by decide⟩
  offers := Collection.empty
  categories := [3]

/-- The fields that the service asks for, a name and a discount. -/
def newName (discount : Option JoiNumber) (variantes : Option (List VariantBody)) :
    ProductBody where
  name := some "Light"
  price := none
  description := none
  tags := none
  discount := discount
  images := none
  storeId := 1
  policy := none
  categoryId := some 3
  subCategoryId := none
  storeCategoryId := none
  rayonId := none
  variantes := variantes
  varientsImages := none

/-- The old variant in blue, and a green one. -/
def twoColours : List VariantBody :=
  [⟨some "red lamp", "new", some (.number 30), some (.text 2),
      some [⟨some "colour", some "blue"⟩], none, none⟩,
    ⟨none, "green lamp", some (.text 35), none, some [⟨some "colour", some "green"⟩], none, none⟩]

end Proximity.Catalogue.PartialUpdate
