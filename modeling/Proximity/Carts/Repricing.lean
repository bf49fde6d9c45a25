import Proximity.Carts.Pricing

/-!
# What `getCart` does to a stored item

The query of `getCart` finds no offer, so every item is priced again as `addToCart`
prices it without one.  An item is priced once more by each unavailable item that
directly follows it.
-/

namespace Proximity.Carts

open Proximity.Systems Proximity.Models Proximity.Catalogue

/-! ## Pricing one item -/

/-- No stored offer has an `active` path. -/
theorem queriedOffer?_eq_none (offers : Collection Offer) (id : ObjectId) :
    queriedOffer? offers id = none := by
  rw [queriedOffer?, Collection.findOne?_eq_none_iff]
  intro offer _
  simp [storedBoolean?]

/-- The item as `addToCart` prices it without an offer, for the quantity it has. -/
def fullPriced (variant : Variant) (item : CartItem) : CartItem :=
  pricedItem item.productId item.variantId variant none (orderedQuantity variant item.quantity)

theorem repriced_eq (offers : Collection Offer) (product : Product) (variant : Variant)
    (item : CartItem) : repriced offers product variant item = fullPriced variant item := by
  have quantity : (cutDown variant item).quantity = orderedQuantity variant item.quantity := by
    unfold cutDown orderedQuantity
    split <;> rfl
  have productId : (cutDown variant item).productId = item.productId := by
    unfold cutDown
    split <;> rfl
  have variantId : (cutDown variant item).variantId = item.variantId := by
    unfold cutDown
    split <;> rfl
  unfold repriced withDiscount fullPriced
  cases product.offer with
  | none =>
      simp [pricedItem, discountvar, discountedQuantity, quantity, productId, variantId,
        mul_comm]
  | some id =>
      simp [pricedItem, discountvar, discountedQuantity, quantity, productId, variantId,
        queriedOffer?_eq_none, queriedDiscount]

/-- The quantity left when several variants cut it down, one after the other. -/
def leftQuantity (variants : List Variant) (quantity : ℚ) : ℚ :=
  variants.foldl (fun quantity variant => orderedQuantity variant quantity) quantity

theorem leftQuantity_le (variants : List Variant) (quantity : ℚ) :
    leftQuantity variants quantity ≤ quantity := by
  induction variants generalizing quantity with
  | nil => exact le_rfl
  | cons variant rest ih => exact (ih _).trans (orderedQuantity_le variant quantity)

theorem leftQuantity_eq_iff (variants : List Variant) (quantity : ℚ) :
    leftQuantity variants quantity = quantity ↔
      ∀ variant ∈ variants, quantity ≤ variant.quantity := by
  induction variants generalizing quantity with
  | nil => simp [leftQuantity]
  | cons variant rest ih =>
      have below := leftQuantity_le rest (orderedQuantity variant quantity)
      rw [List.forall_mem_cons, ← orderedQuantity_eq_iff]
      constructor
      · intro kept
        have same : orderedQuantity variant quantity = quantity :=
          le_antisymm (orderedQuantity_le variant quantity) (kept.symm.trans_le below)
        refine ⟨same, (ih quantity).mp ?_⟩
        rw [← same]
        exact kept.trans same.symm
      · rintro ⟨same, rest_enough⟩
        change leftQuantity rest (orderedQuantity variant quantity) = quantity
        rw [same]
        exact (ih quantity).mpr rest_enough

/-- The item priced by several variants, one after the other. -/
def settled (variants : List Variant) (item : CartItem) : CartItem :=
  variants.foldl (fun item variant => fullPriced variant item) item

/-- The last variant sets the price, all of them the quantity. -/
theorem settled_eq {variants : List Variant} {last : Variant} (item : CartItem)
    (ended : variants.getLast? = some last) :
    settled variants item =
      pricedItem item.productId item.variantId last none
        (leftQuantity variants item.quantity) := by
  induction variants generalizing item with
  | nil => cases ended
  | cons variant rest ih =>
      cases rest with
      | nil =>
          cases ended
          rfl
      | cons next others =>
          rw [List.getLast?_cons_cons] at ended
          exact ih (fullPriced variant item) ended

theorem settled_line (variants : List Variant) (item : CartItem) :
    (settled variants item).productId = item.productId ∧
      (settled variants item).variantId = item.variantId := by
  induction variants generalizing item with
  | nil => exact ⟨rfl, rfl⟩
  | cons variant rest ih => exact ih (fullPriced variant item)

/-- Pricing an item by several variants leaves it alone exactly when it has no
discount, no variant cuts its quantity down, and the last one has its price. -/
theorem settled_eq_self_iff {variants : List Variant} {last : Variant} {item : CartItem}
    (ended : variants.getLast? = some last) :
    settled variants item = item ↔
      item.discount = 0 ∧ item.discountQuantity = 0 ∧
        (∀ variant ∈ variants, item.quantity ≤ variant.quantity) ∧
        item.totalPrice = last.price * item.quantity := by
  rw [settled_eq item ended, ← leftQuantity_eq_iff]
  obtain ⟨productId, variantId, discount, quantity, discountQuantity, totalPrice⟩ := item
  simp only [pricedItem, discountvar, discountedQuantity, CartItem.mk.injEq, true_and, mul_zero,
    sub_zero]
  constructor
  · rintro ⟨rfl, kept, rfl, rfl⟩
    exact ⟨rfl, rfl, kept, by rw [kept]⟩
  · rintro ⟨rfl, rfl, kept, rfl⟩
    exact ⟨rfl, kept, rfl, by rw [kept]⟩

/-! ## The loop -/

/-- What an item is of. -/
structure Line where
  productId : ObjectId
  variantId : String
  deriving DecidableEq, Repr

def CartItem.line (item : CartItem) : Line := ⟨item.productId, item.variantId⟩

/-- The stored product and variant of a line. -/
def sold? (catalogue : Database) (line : Line) : Option (Product × Variant) :=
  (catalogue.products.findById? line.productId).bind fun product =>
    (variant? product line.variantId).map fun variant => (product, variant)

/-- The line is stored but unavailable. -/
def gone (catalogue : Database) (line : Line) : Bool :=
  (sold? catalogue line).any fun sold => unavailable sold.1 sold.2

/-- A turn prices the item at the index, or the one before it when that is gone. -/
theorem turn_eq_ok_iff {catalogue : Database} {loop next : Loop} {item : CartItem} :
    turn catalogue loop item = .ok next ↔
      ∃ product variant, sold? catalogue item.line = some (product, variant) ∧
        ((gone catalogue item.line = false ∧
            next = loop.enter product (fullPriced variant item) loop.done) ∨
          (gone catalogue item.line = true ∧ ∃ previous before, loop.done = previous :: before ∧
            next = loop.enter product (fullPriced variant previous) before)) := by
  simp only [turn, bind_eq_ok_iff, found_eq_ok_iff, repriced_eq, sold?, CartItem.line, gone]
  constructor
  · rintro ⟨product, product_found, variant, variant_found, turned⟩
    refine ⟨product, variant, by simp [product_found, variant_found], ?_⟩
    simp only [product_found, variant_found, Option.bind_some, Option.map_some, Option.any_some]
    cases lost : unavailable product variant with
    | false =>
        rw [lost, if_neg Bool.false_ne_true, pure_eq_ok_iff] at turned
        exact Or.inl ⟨rfl, turned.symm⟩
    | true =>
        rw [lost, if_pos rfl] at turned
        cases done : loop.done with
        | nil =>
            rw [done] at turned
            cases turned
        | cons previous before =>
            rw [done] at turned
            exact Or.inr ⟨rfl, previous, before, rfl, (pure_eq_ok_iff.mp turned).symm⟩
  · rintro ⟨product, variant, sold, turned⟩
    obtain ⟨stored, product_found, mapped⟩ := Option.bind_eq_some_iff.mp sold
    obtain ⟨other, variant_found, same⟩ := Option.map_eq_some_iff.mp mapped
    cases same
    simp only [product_found, variant_found, Option.bind_some, Option.map_some,
      Option.any_some] at turned
    refine ⟨product, product_found, variant, variant_found, ?_⟩
    rcases turned with ⟨here, rfl⟩ | ⟨lost, previous, before, done, rfl⟩
    · rw [here, if_neg Bool.false_ne_true]
      rfl
    · rw [lost, if_pos rfl, done]
      rfl

/-- `getCart` throws on a cart with such lines. -/
def Broken (catalogue : Database) (lines : List Line) : Prop :=
  (∃ line ∈ lines, sold? catalogue line = none) ∨
    ∃ line, lines.head? = some line ∧ gone catalogue line = true

/-- Behind a priced item the loop only needs every item to be stored. -/
theorem loop_ok_of_sold {catalogue : Database} {items : List CartItem} {loop : Loop}
    (priced : loop.done ≠ [])
    (stored : ∀ item ∈ items, sold? catalogue item.line ≠ none) :
    ∃ finished, items.foldlM (turn catalogue) loop = .ok finished := by
  induction items generalizing loop with
  | nil => exact ⟨loop, rfl⟩
  | cons item rest ih =>
      obtain ⟨⟨product, variant⟩, sold⟩ :=
        Option.ne_none_iff_exists'.mp (stored item List.mem_cons_self)
      obtain ⟨previous, before, done⟩ := List.exists_cons_of_ne_nil priced
      have turned : ∃ next, turn catalogue loop item = .ok next ∧ next.done ≠ [] := by
        cases lost : gone catalogue item.line with
        | false =>
            exact ⟨_, turn_eq_ok_iff.mpr ⟨product, variant, sold, Or.inl ⟨lost, rfl⟩⟩,
              List.cons_ne_nil _ _⟩
        | true =>
            exact ⟨_, turn_eq_ok_iff.mpr
              ⟨product, variant, sold, Or.inr ⟨lost, previous, before, done, rfl⟩⟩,
              List.cons_ne_nil _ _⟩
      obtain ⟨next, turned, next_priced⟩ := turned
      obtain ⟨finished, ran⟩ := ih next_priced fun other member =>
        stored other (List.mem_cons_of_mem item member)
      exact ⟨finished, foldlM_cons_eq_ok_iff.mpr ⟨_, turned, ran⟩⟩

theorem sold_of_loop_ok {catalogue : Database} {items : List CartItem} {loop finished : Loop}
    (ran : items.foldlM (turn catalogue) loop = .ok finished) :
    ∀ item ∈ items, sold? catalogue item.line ≠ none := by
  induction items generalizing loop with
  | nil => simp
  | cons item rest ih =>
      obtain ⟨next, turned, remaining⟩ := foldlM_cons_eq_ok_iff.mp ran
      obtain ⟨product, variant, sold, -⟩ := turn_eq_ok_iff.mp turned
      rw [List.forall_mem_cons]
      exact ⟨by simp [sold], ih remaining⟩

/-- The loop runs to its end exactly when no line of the cart is broken. -/
theorem loop_ok_iff {catalogue : Database} {items : List CartItem} :
    (∃ finished, items.foldlM (turn catalogue) Loop.start = .ok finished) ↔
      ¬ Broken catalogue (items.map CartItem.line) := by
  cases items with
  | nil => simp [Broken, pure, Except.pure]
  | cons item rest =>
      simp only [Broken, List.map_cons, List.head?_cons, Option.some.injEq, exists_eq_left',
        not_or, Bool.not_eq_true]
      constructor
      · rintro ⟨finished, ran⟩
        refine ⟨?_, ?_⟩
        · rintro ⟨line, member, missing⟩
          rw [← List.map_cons, List.mem_map] at member
          obtain ⟨other, member, rfl⟩ := member
          exact sold_of_loop_ok ran other member missing
        · obtain ⟨next, turned, -⟩ := foldlM_cons_eq_ok_iff.mp ran
          obtain ⟨product, variant, -, ⟨here, -⟩ | ⟨-, previous, before, done, -⟩⟩ :=
            turn_eq_ok_iff.mp turned
          · exact here
          · cases done
      · rintro ⟨stored, here⟩
        have all_sold : ∀ other ∈ item :: rest, sold? catalogue other.line ≠ none :=
          fun other member missing =>
            stored ⟨other.line, by
              rw [← List.map_cons]
              exact List.mem_map_of_mem member, missing⟩
        obtain ⟨⟨product, variant⟩, sold⟩ :=
          Option.ne_none_iff_exists'.mp (all_sold item List.mem_cons_self)
        have turned : turn catalogue Loop.start item =
            .ok (Loop.start.enter product (fullPriced variant item) []) :=
          turn_eq_ok_iff.mpr ⟨product, variant, sold, Or.inl ⟨here, rfl⟩⟩
        have priced : (Loop.start.enter product (fullPriced variant item) []).done ≠ [] :=
          List.cons_ne_nil _ _
        obtain ⟨finished, ran⟩ := loop_ok_of_sold priced fun other member =>
          all_sold other (List.mem_cons_of_mem item member)
        exact ⟨finished, foldlM_cons_eq_ok_iff.mpr ⟨_, turned, ran⟩⟩

/-- What holds of the lines of all items that are not gone holds of what is left. -/
theorem loop_lines (Holds : Line → Prop) {catalogue : Database} {items : List CartItem}
    {loop finished : Loop} (ran : items.foldlM (turn catalogue) loop = .ok finished)
    (before : ∀ item ∈ loop.done, Holds item.line)
    (coming : ∀ item ∈ items, gone catalogue item.line = false → Holds item.line) :
    ∀ item ∈ finished.done, Holds item.line := by
  refine foldlM_invariant (fun loop : Loop => ∀ item ∈ loop.done, Holds item.line) ?_ before ran
  intro item member source target priced turned
  obtain ⟨product, variant, -, ⟨here, rfl⟩ | ⟨-, previous, others, done, rfl⟩⟩ :=
    turn_eq_ok_iff.mp turned
  · exact List.forall_mem_cons.mpr ⟨coming item member here, priced⟩
  · rw [done] at priced
    exact List.forall_mem_cons.mpr (List.forall_mem_cons.mp priced)

/-- The variants of the gone lines at the head of a list. -/
def goneVariants (catalogue : Database) (lines : List Line) : List Variant :=
  (lines.takeWhile (gone catalogue)).filterMap fun line => (sold? catalogue line).map Prod.snd

theorem goneVariants_cons {catalogue : Database} {line : Line} {product : Product}
    {variant : Variant} (sold : sold? catalogue line = some (product, variant))
    (lost : gone catalogue line = true) (rest : List Line) :
    goneVariants catalogue (line :: rest) = variant :: goneVariants catalogue rest := by
  simp [goneVariants, lost, sold]

theorem goneVariants_cons_of_here {catalogue : Database} {line : Line}
    (here : gone catalogue line = false) (rest : List Line) :
    goneVariants catalogue (line :: rest) = [] := by
  simp [goneVariants, here]

/-- The last priced item is priced again by the gone items that directly follow it,
and what is before it is not touched. -/
theorem loop_behind {catalogue : Database} {items : List CartItem} {loop finished : Loop}
    {item : CartItem} {before : List CartItem}
    (ran : items.foldlM (turn catalogue) loop = .ok finished)
    (done : loop.done = item :: before) :
    ∃ later, finished.done = later ++
      settled (goneVariants catalogue (items.map CartItem.line)) item :: before := by
  induction items generalizing loop item before with
  | nil =>
      cases ran
      exact ⟨[], done⟩
  | cons following rest ih =>
      obtain ⟨next, turned, remaining⟩ := foldlM_cons_eq_ok_iff.mp ran
      obtain ⟨product, variant, sold, ⟨here, rfl⟩ | ⟨lost, previous, others, same, rfl⟩⟩ :=
        turn_eq_ok_iff.mp turned
      · -- the following item is priced for itself, and ours is behind it from now on
        rw [List.map_cons, goneVariants_cons_of_here here]
        obtain ⟨later, finished_done⟩ := ih remaining rfl
        rw [done] at finished_done
        exact ⟨later ++ [_], by
          rw [finished_done, List.append_assoc, List.singleton_append]
          rfl⟩
      · rw [done] at same
        cases same
        rw [List.map_cons, goneVariants_cons sold lost]
        exact ih remaining rfl

/-! ## The item of an accepted request -/

/-- The lines of a cart once the body's item is in it. -/
def linesWith (body : ItemBody) : List CartItem → List Line
  | [] => [⟨body.productId, body.variantId⟩]
  | item :: items =>
      if item.variantId = body.variantId then item.line :: items.map CartItem.line
      else item.line :: linesWith body items

theorem putItem_lines (body : ItemBody) (variant : Variant) (offer? : Option Offer)
    (quantity : ℚ) (items : List CartItem) :
    (putItem body variant offer? quantity items).map CartItem.line = linesWith body items := by
  induction items with
  | nil => rfl
  | cons item rest ih =>
      unfold putItem linesWith
      split
      case isTrue => rfl
      case isFalse => rw [List.map_cons, ih]

/-- The line of the body's item and the lines behind it. -/
def fromItem (body : ItemBody) (lines : List Line) : List Line :=
  lines.dropWhile fun line => decide (line.variantId ≠ body.variantId)

/-- The variants that price the first line: its own, then those of the gone lines
that directly follow. -/
def pricingVariants (catalogue : Database) : List Line → List Variant
  | [] => []
  | line :: behind =>
      ((sold? catalogue line).map Prod.snd).toList ++ goneVariants catalogue behind

/-- Without a live offer, when the item is not gone, no variant that prices it cuts
the quantity down, and the last has the price it was added at.  The lines are the
item's and those behind it. -/
structure KeepsItem (catalogue : Database) (now : Time) (product : Product) (variant : Variant)
    (requested : ℚ) (lines : List Line) : Prop where
  notLive : liveOffer? catalogue.offers now product = none
  here : ∀ line ∈ lines.head?, gone catalogue line = false
  enough : ∀ pricing ∈ pricingVariants catalogue lines,
    orderedQuantity variant requested ≤ pricing.quantity
  samePrice : ∀ last ∈ (pricingVariants catalogue lines).getLast?, last.price = variant.price

/-- Full pricing leaves an added item alone only when it was added without an offer. -/
theorem settled_pricedItem_iff {offers : Collection Offer} {now : Time} {product : Product}
    {variant last : Variant} {variants : List Variant} {productId : ObjectId}
    {variantId : String} {quantity : ℚ} (ordered : quantity ≠ 0)
    (ended : variants.getLast? = some last) :
    settled variants
        (pricedItem productId variantId variant (liveOffer? offers now product) quantity) =
      pricedItem productId variantId variant (liveOffer? offers now product) quantity ↔
      liveOffer? offers now product = none ∧
        (∀ pricing ∈ variants, quantity ≤ pricing.quantity) ∧ last.price = variant.price := by
  rw [settled_eq_self_iff ended]
  simp only [pricedItem, discountedQuantity_eq_zero_iff ordered]
  constructor
  · rintro ⟨-, notLive, enough, price⟩
    rw [notLive] at price
    simp only [discountedQuantity, zero_mul, sub_zero] at price
    exact ⟨notLive, enough, (mul_right_cancel₀ ordered price).symm⟩
  · rintro ⟨notLive, enough, price⟩
    rw [notLive, price]
    simp only [discountvar, discountedQuantity, zero_mul, sub_zero]
    exact ⟨trivial, trivial, enough, trivial⟩

theorem keepsItem_iff {catalogue : Database} {now : Time} {product : Product}
    {variant : Variant} {requested : ℚ} {productId : ObjectId} {variantId : String}
    {behind : List Line} (ordered : orderedQuantity variant requested ≠ 0)
    (stored : sold? catalogue ⟨productId, variantId⟩ ≠ none) :
    KeepsItem catalogue now product variant requested (⟨productId, variantId⟩ :: behind) ↔
      gone catalogue ⟨productId, variantId⟩ = false ∧
        settled (pricingVariants catalogue (⟨productId, variantId⟩ :: behind))
            (pricedItem productId variantId variant (liveOffer? catalogue.offers now product)
              (orderedQuantity variant requested)) =
          pricedItem productId variantId variant (liveOffer? catalogue.offers now product)
            (orderedQuantity variant requested) := by
  obtain ⟨⟨own, ownVariant⟩, sold⟩ := Option.ne_none_iff_exists'.mp stored
  have priced : pricingVariants catalogue (⟨productId, variantId⟩ :: behind) ≠ [] := by
    simp [pricingVariants, sold]
  have ended := List.getLast?_eq_some_getLast priced
  rw [settled_pricedItem_iff ordered ended]
  constructor
  · intro keeps
    exact ⟨keeps.here _ rfl, keeps.notLive, keeps.enough, keeps.samePrice _ ended⟩
  · rintro ⟨here, notLive, enough, price⟩
    refine ⟨notLive, ?_, enough, ?_⟩
    · rintro _ ⟨⟩
      exact here
    · rw [ended]
      rintro _ ⟨⟩
      exact price

theorem fromItem_eq {body : ItemBody} {before : List Line} {line : Line} {behind : List Line}
    (others : ∀ other ∈ before, other.variantId ≠ body.variantId)
    (same : line.variantId = body.variantId) :
    fromItem body (before ++ line :: behind) = line :: behind := by
  rw [fromItem, List.dropWhile_append_of_pos (by simpa using others),
    List.dropWhile_cons_of_neg (by simpa using same)]

/-- A failed `getCart` leaves what is stored alone, a finished one stores the items
that are left. -/
theorem afterGetCart_of_error {shop : Shop} {user : ObjectId} {cart : Cart}
    (stored : shop.cart? user = some cart)
    (broken : Broken shop.catalogue (cart.items.map CartItem.line)) :
    shop.afterGetCart user = shop := by
  cases ran : cart.items.foldlM (turn shop.catalogue) Loop.start with
  | ok finished => exact absurd broken (loop_ok_iff.mp ⟨finished, ran⟩)
  | error failure =>
      have failed : getCart shop user = .error failure := by
        simp [getCart, stored, found, ran, bind, Except.bind]
      rw [Shop.afterGetCart, failed]

/-- What `getCart` answers when the loop has ended. -/
theorem getCart_of_loop {shop : Shop} {user : ObjectId} {cart : Cart} {finished : Loop}
    (stored : shop.cart? user = some cart)
    (ran : cart.items.foldlM (turn shop.catalogue) Loop.start = .ok finished) :
    getCart shop user = .ok (
      { cart with
        items := finished.done.reverse
        totalDiscount := finished.totalDiscount
        totalPayable := finished.totalPayable },
      answer finished.done.reverse finished.entries) := by
  simp [getCart, stored, ran]

theorem item?_afterGetCart {shop : Shop} {user : ObjectId} {cart : Cart} {finished : Loop}
    (stored : shop.cart? user = some cart)
    (ran : cart.items.foldlM (turn shop.catalogue) Loop.start = .ok finished)
    (variantId : String) :
    (shop.afterGetCart user).item? user variantId =
      finished.done.reverse.find? fun item => decide (item.variantId = variantId) := by
  have ended := getCart_of_loop stored ran
  have same : cart.userId = user := (Collection.findById?_eq_some_iff.mp stored).2
  rw [Shop.afterGetCart, ended, Shop.item?, ← same]
  exact congrArg (fun cart? => cart?.bind fun cart : Cart =>
    cart.items.find? fun item => decide (item.variantId = variantId)) (Shop.save_cart? shop _)

/-- A finished loop over a cart with an item of the variant either keeps the item,
priced by its variants, or has spliced it out. -/
theorem find?_of_loop {catalogue : Database} {before after : List CartItem} {item : CartItem}
    {finished : Loop} (others : ∀ other ∈ before, other.variantId ≠ item.variantId)
    (ran : (before ++ item :: after).foldlM (turn catalogue) Loop.start = .ok finished) :
    finished.done.reverse.find? (fun other => decide (other.variantId = item.variantId)) =
        some item ↔
      gone catalogue item.line = false ∧
        settled (pricingVariants catalogue (item.line :: after.map CartItem.line)) item =
          item := by
  have kept : ∀ other ∈ finished.done, gone catalogue other.line = false :=
    loop_lines (fun line => gone catalogue line = false) ran (by simp [Loop.start])
      fun _ _ here => here
  simp only [List.foldlM_append, List.foldlM_cons, bind_eq_ok_iff] at ran
  obtain ⟨first, ran_before, second, turned, ran_after⟩ := ran
  have passed : ∀ other ∈ first.done, other.line.variantId ≠ item.variantId :=
    loop_lines (fun line => line.variantId ≠ item.variantId) ran_before (by simp [Loop.start])
      fun other member _ => others other member
  obtain ⟨product, variant, sold, ⟨here, rfl⟩ | ⟨lost, -⟩⟩ := turn_eq_ok_iff.mp turned
  · obtain ⟨later, done⟩ := loop_behind ran_after rfl
    have variants : pricingVariants catalogue (item.line :: after.map CartItem.line) =
        variant :: goneVariants catalogue (after.map CartItem.line) := by
      simp [pricingVariants, sold]
    have same := (settled_line (variant :: goneVariants catalogue (after.map CartItem.line)) item).2
    have found : finished.done.reverse.find?
        (fun other => decide (other.variantId = item.variantId)) =
          some (settled (variant :: goneVariants catalogue (after.map CartItem.line)) item) := by
      rw [done, List.reverse_append, List.reverse_cons, List.append_assoc, ← same]
      refine find?_item fun other member => ?_
      rw [same]
      exact passed other (List.mem_reverse.mp member)
    rw [found, variants, Option.some.injEq]
    exact ⟨fun unchanged => ⟨here, unchanged⟩, And.right⟩
  · constructor
    · intro found
      exact ⟨kept item (List.mem_reverse.mp (List.mem_of_find?_eq_some found)), by
        have here := kept item (List.mem_reverse.mp (List.mem_of_find?_eq_some found))
        rw [lost] at here
        cases here⟩
    · rintro ⟨here, -⟩
      rw [lost] at here
      cases here

/-- After an accepted `addToCart`, `getCart` leaves the item as it was stored exactly
when a broken line makes it throw, or the catalogue keeps the item. -/
theorem addedItem_kept_iff {shop : Shop} {now : Time} {user : ObjectId} {body : ItemBody}
    {product : Product} {variant : Variant} {requested : ℚ} {cart : Cart}
    (product_found : shop.catalogue.products.findById? body.productId = some product)
    (variant_found : variant? product body.variantId = some variant)
    (given : body.quantity = some requested)
    (accepted : addToCart shop now user body = .ok cart) :
    ((shop.save cart).afterGetCart user).item? user body.variantId =
        (shop.save cart).item? user body.variantId ↔
      Broken shop.catalogue (linesWith body (shop.cartOrNew user).items) ∨
        KeepsItem shop.catalogue now product variant requested
          (fromItem body (linesWith body (shop.cartOrNew user).items)) := by
  obtain ⟨_, _, _, productId, before, after, found⟩ := addToCart_accepted accepted
  cases product_found.symm.trans found.product_found
  cases variant_found.symm.trans found.variant_found
  cases given.symm.trans found.given
  have ordered := orderedQuantity_ne_zero found.stocked (body.atLeastOne requested given)
  have lines : linesWith body (shop.cartOrNew user).items = cart.items.map CartItem.line := by
    rw [found.put, putItem_lines]
  have from_item : fromItem body (cart.items.map CartItem.line) =
      ⟨productId, body.variantId⟩ :: after.map CartItem.line := by
    rw [found.items, List.map_append, List.map_cons]
    exact fromItem_eq (by simpa [CartItem.line] using found.others) rfl
  have stored : (shop.save cart).cart? user = some cart := by
    rw [← found.userId]
    exact shop.save_cart? cart
  have member : pricedItem productId body.variantId variant
      (liveOffer? shop.catalogue.offers now product) (orderedQuantity variant requested) ∈
        cart.items := by
    rw [found.items]
    exact List.mem_append_right before List.mem_cons_self
  rw [lines, from_item]
  by_cases broken : Broken shop.catalogue (cart.items.map CartItem.line)
  · rw [afterGetCart_of_error stored broken]
    exact ⟨fun _ => Or.inl broken, fun _ => rfl⟩
  · obtain ⟨finished, ran⟩ := loop_ok_iff.mpr broken
    have sold : sold? shop.catalogue ⟨productId, body.variantId⟩ ≠ none :=
      sold_of_loop_ok ran _ member
    rw [item?_afterGetCart stored ran, found.item?, or_iff_right broken,
      keepsItem_iff ordered sold]
    rw [found.items] at ran
    exact find?_of_loop found.others ran

/-- Without an offer the item stays as it was added. -/
theorem corner_full_kept :
    addToCart (corner none) 0 7 twoUnits = .ok (cornerCart 0 0 200) ∧
    ((((corner none).save (cornerCart 0 0 200)).afterGetCart 7).item? 7 "a" =
        ((corner none).save (cornerCart 0 0 200)).item? 7 "a" ↔
      Broken (corner none).catalogue
          (linesWith twoUnits ((corner none).cartOrNew 7).items) ∨
        KeepsItem (corner none).catalogue 0 (soldProduct none) soldVariant 2
          (fromItem twoUnits
            (linesWith twoUnits ((corner none).cartOrNew 7).items))) :=
  ⟨corner_full, addedItem_kept_iff rfl (by decide) rfl corner_full⟩

/-- The discount of a live offer is gone after `getCart`, at the same time. -/
theorem corner_discount_dropped :
    addToCart (corner (some 30)) 0 7 twoUnits = .ok (cornerCart 20 1 180) ∧
    (((corner (some 30)).save (cornerCart 20 1 180)).afterGetCart 7).item? 7 "a" =
      some ⟨20, "a", 0, 2, 0, 200⟩ ∧
    (((corner (some 30)).save (cornerCart 20 1 180)).afterGetCart 7).item? 7 "a" ≠
      ((corner (some 30)).save (cornerCart 20 1 180)).item? 7 "a" :=
  ⟨corner_discounted, by decide +kernel, by decide +kernel⟩

end Proximity.Carts
