import Proximity.Carts.Repricing

/-!
# The items that `getCart` keeps

The entries of the answer are grouped by their stores.  Every turn of the loop adds an entry,
the turn of a dead item too, so the saved items are the answered ones only in a cart without
dead items.
-/

namespace Proximity.Carts

open Proximity.Systems Proximity.Models Proximity.Catalogue

/-! ## Groups -/

def storeIdsOf (groups : List StoreCart) : List ObjectId := groups.map StoreCart.storeIdCart

def productsOf (groups : List StoreCart) : List CartItem := groups.flatMap StoreCart.products

@[simp] theorem storeIdsOf_cons (group : StoreCart) (groups : List StoreCart) :
    storeIdsOf (group :: groups) = group.storeIdCart :: storeIdsOf groups := rfl

@[simp] theorem productsOf_cons (group : StoreCart) (groups : List StoreCart) :
    productsOf (group :: groups) = group.products ++ productsOf groups := rfl

theorem storeIdsOf_pushProduct (storeId : ObjectId) (item : CartItem) (groups : List StoreCart) :
    storeIdsOf (pushProduct storeId item groups) =
      if storeId ∈ storeIdsOf groups then storeIdsOf groups
      else storeIdsOf groups ++ [storeId] := by
  induction groups with
  | nil => rfl
  | cons group rest ih =>
      by_cases same : group.storeIdCart = storeId
      · simp [pushProduct, same]
      · have other : storeId ≠ group.storeIdCart := fun equal => same equal.symm
        by_cases known : storeId ∈ storeIdsOf rest <;>
          simp [pushProduct, same, ih, known, other]

theorem nodup_pushProduct {groups : List StoreCart} (distinct : (storeIdsOf groups).Nodup)
    (storeId : ObjectId) (item : CartItem) :
    (storeIdsOf (pushProduct storeId item groups)).Nodup := by
  rw [storeIdsOf_pushProduct]
  split
  case isTrue => exact distinct
  case isFalse absent =>
      rw [← List.concat_eq_append]
      exact distinct.concat absent

theorem productsOf_pushProduct (storeId : ObjectId) (item : CartItem) (groups : List StoreCart) :
    (productsOf (pushProduct storeId item groups)).Perm (productsOf groups ++ [item]) := by
  induction groups with
  | nil => exact List.Perm.refl _
  | cons group rest ih =>
      rw [productsOf_cons, pushProduct, List.append_assoc]
      split
      case isTrue =>
          rw [productsOf_cons, List.append_assoc]
          exact List.perm_append_comm.append_left group.products
      case isFalse => exact ih.append_left group.products

/-- Every item of a group is kept under a store it belongs to. -/
def Own (belongs : CartItem → ObjectId → Prop) (groups : List StoreCart) : Prop :=
  ∀ group ∈ groups, ∀ item ∈ group.products, belongs item group.storeIdCart

theorem own_pushProduct {belongs : CartItem → ObjectId → Prop} {groups : List StoreCart}
    {storeId : ObjectId} {item : CartItem} (own : Own belongs groups)
    (fits : belongs item storeId) : Own belongs (pushProduct storeId item groups) := by
  induction groups with
  | nil => simpa [Own, pushProduct] using fits
  | cons group rest ih =>
      obtain ⟨first, others⟩ := List.forall_mem_cons.mp own
      by_cases same : group.storeIdCart = storeId
      · rw [pushProduct, if_pos same]
        refine List.forall_mem_cons.mpr ⟨?_, others⟩
        intro other member
        rcases List.mem_append.mp member with old | last
        · exact same ▸ first other old
        · exact List.mem_singleton.mp last ▸ fits
      · rw [pushProduct, if_neg same]
        exact List.forall_mem_cons.mpr ⟨first, ih others⟩

/-- Each item once, under its own store, and each store once. -/
structure Grouped (belongs : CartItem → ObjectId → Prop) (items : List CartItem)
    (groups : List StoreCart) : Prop where
  stores : (storeIdsOf groups).Nodup
  once : (productsOf groups).Perm items
  own : Own belongs groups

theorem grouped_nil (belongs : CartItem → ObjectId → Prop) : Grouped belongs [] [] :=
  ⟨List.nodup_nil, List.Perm.refl _, fun _ member => absurd member List.not_mem_nil⟩

theorem Grouped.push {belongs : CartItem → ObjectId → Prop} {items : List CartItem}
    {groups : List StoreCart} {storeId : ObjectId} {item : CartItem}
    (grouped : Grouped belongs items groups) (fits : belongs item storeId) :
    Grouped belongs (items ++ [item]) (pushProduct storeId item groups) where
  stores := nodup_pushProduct grouped.stores storeId item
  once := (productsOf_pushProduct storeId item groups).trans (grouped.once.append_right [item])
  own := own_pushProduct grouped.own fits

/-! ## The answer -/

/-- The items that the entries refer to, each with the store of its entry. -/
def shown (items : List CartItem) (entries : List (ObjectId × Nat)) : List (ObjectId × CartItem) :=
  entries.filterMap fun entry => items[entry.2]?.map (Prod.mk entry.1)

theorem answer_eq (items : List CartItem) (entries : List (ObjectId × Nat)) :
    answer items entries =
      (shown items entries).foldl (fun groups pair => pushProduct pair.1 pair.2 groups) [] := by
  rw [answer, shown, List.foldl_filterMap]
  congr
  funext groups entry
  cases items[entry.2]? <;> rfl

theorem grouped_answer {belongs : CartItem → ObjectId → Prop} {items : List CartItem}
    {entries : List (ObjectId × Nat)}
    (fits : ∀ pair ∈ shown items entries, belongs pair.2 pair.1) :
    Grouped belongs ((shown items entries).map Prod.snd) (answer items entries) := by
  rw [answer_eq]
  generalize shown items entries = pairs at fits
  induction pairs using List.reverseRecOn with
  | nil => exact grouped_nil belongs
  | append_singleton pairs pair ih =>
      rw [List.foldl_append, List.map_append]
      exact (ih fun other member => fits other (List.mem_append_left [pair] member)).push
        (fits pair (List.mem_append_right pairs List.mem_cons_self))

/-- An entry shows an item as long as the cart reaches to its index. -/
theorem length_shown {items : List CartItem} {entries : List (ObjectId × Nat)}
    (within : ∀ entry ∈ entries, entry.2 < items.length) :
    (shown items entries).length = entries.length := by
  induction entries with
  | nil => rfl
  | cons entry rest ih =>
      obtain ⟨here, others⟩ := List.forall_mem_cons.mp within
      simp only [shown] at ih ⊢
      simp [List.getElem?_eq_getElem here, ih others]

theorem shown_append (items later : List CartItem) {entries : List (ObjectId × Nat)}
    (within : ∀ entry ∈ entries, entry.2 < items.length) :
    shown (items ++ later) entries = shown items entries := by
  refine List.filterMap_congr fun entry member => ?_
  rw [List.getElem?_append_left (within entry member)]

/-- The entry of the item at the end shows that item. -/
theorem shown_last (items : List CartItem) (item : CartItem) {entries : List (ObjectId × Nat)}
    (storeId : ObjectId) (within : ∀ entry ∈ entries, entry.2 < items.length) :
    shown (items ++ [item]) (entries ++ [(storeId, items.length)]) =
      shown items entries ++ [(storeId, item)] := by
  have before := shown_append items [item] within
  simp only [shown] at before ⊢
  rw [List.filterMap_append, before]
  simp

/-! ## The loop -/

/-- The product exists and is not deleted, its variant exists and is available. -/
def live (catalogue : Database) (line : Line) : Bool :=
  (sold? catalogue line).any fun sold => !unavailable sold.1 sold.2

theorem live_eq_true_iff {catalogue : Database} {line : Line} :
    live catalogue line = true ↔
      (∃ product variant, sold? catalogue line = some (product, variant)) ∧
        gone catalogue line = false := by
  unfold live gone
  cases sold? catalogue line with
  | none => simp
  | some sold =>
      obtain ⟨product, variant⟩ := sold
      simp

/-- The item is kept under the store of its product. -/
def OfStore (catalogue : Database) (item : CartItem) (storeId : ObjectId) : Prop :=
  ∃ product variant, sold? catalogue item.line = some (product, variant) ∧
    product.storeId = storeId

/-- The item at the price of its own variant, for no more units than that variant has. -/
def PricedByOwn (catalogue : Database) (item saved : CartItem) : Prop :=
  ∃ product variant, sold? catalogue item.line = some (product, variant) ∧
    saved.line = item.line ∧ saved.quantity = min item.quantity variant.quantity ∧
    saved.totalPrice = variant.price * saved.quantity - saved.discountQuantity * saved.discount

theorem orderedQuantity_eq_min (variant : Variant) (requested : ℚ) :
    orderedQuantity variant requested = min requested variant.quantity := by
  unfold orderedQuantity
  split
  case isTrue short => exact (min_eq_right short).symm
  case isFalse long => exact (min_eq_left (not_le.mp long).le).symm

theorem pricedByOwn_fullPriced {catalogue : Database} {item : CartItem} {product : Product}
    {variant : Variant} (sold : sold? catalogue item.line = some (product, variant)) :
    PricedByOwn catalogue item (fullPriced variant item) :=
  ⟨product, variant, sold, rfl, orderedQuantity_eq_min variant item.quantity, rfl⟩

theorem enter_within {loop : Loop} {before : List CartItem} (product : Product)
    (item : CartItem) (within : ∀ entry ∈ loop.entries, entry.2 < before.length + 1) :
    ∀ entry ∈ (loop.enter product item before).entries,
      entry.2 < (loop.enter product item before).done.length := by
  intro entry member
  rcases List.mem_append.mp member with old | last
  · exact within entry old
  · cases List.mem_singleton.mp last
    exact Nat.lt_succ_self _

/-- Every entry refers to an item that is priced, whatever the turn does. -/
theorem turn_within {catalogue : Database} {loop next : Loop} {item : CartItem}
    (within : ∀ entry ∈ loop.entries, entry.2 < loop.done.length)
    (turned : turn catalogue loop item = .ok next) :
    ∀ entry ∈ next.entries, entry.2 < next.done.length := by
  obtain ⟨product, variant, -, ⟨-, rfl⟩ | ⟨-, previous, before, done, rfl⟩⟩ :=
    turn_eq_ok_iff.mp turned
  · exact enter_within product _ fun entry member =>
      (within entry member).trans (Nat.lt_succ_self _)
  · rw [done] at within
    exact enter_within product _ within

/-- A turn adds one entry, for a dead item too. -/
theorem length_entries {catalogue : Database} {items : List CartItem} {loop finished : Loop}
    (ran : items.foldlM (turn catalogue) loop = .ok finished) :
    finished.entries.length = loop.entries.length + items.length := by
  induction items generalizing loop with
  | nil =>
      cases ran
      rfl
  | cons item rest ih =>
      obtain ⟨next, turned, remaining⟩ := foldlM_cons_eq_ok_iff.mp ran
      have one : next.entries.length = loop.entries.length + 1 := by
        obtain ⟨product, variant, -, ⟨-, rfl⟩ | ⟨-, previous, before, -, rfl⟩⟩ :=
          turn_eq_ok_iff.mp turned
        · simp [Loop.enter]
        · simp [Loop.enter]
      rw [ih remaining, one, List.length_cons]
      omega

/-- The entries show the priced items, each once and under its own store. -/
structure Faithful (catalogue : Database) (loop : Loop) : Prop where
  within : ∀ entry ∈ loop.entries, entry.2 < loop.done.length
  each : (shown loop.done.reverse loop.entries).map Prod.snd = loop.done.reverse
  own : ∀ pair ∈ shown loop.done.reverse loop.entries, OfStore catalogue pair.2 pair.1

theorem faithful_start (catalogue : Database) : Faithful catalogue Loop.start :=
  ⟨fun _ member => absurd member List.not_mem_nil, rfl,
    fun _ member => absurd member List.not_mem_nil⟩

theorem Faithful.enter {catalogue : Database} {loop : Loop} {item : CartItem}
    {product : Product} {variant : Variant} (faithful : Faithful catalogue loop)
    (sold : sold? catalogue item.line = some (product, variant)) :
    Faithful catalogue (loop.enter product (fullPriced variant item) loop.done) := by
  have last := shown_last loop.done.reverse (fullPriced variant item) product.storeId
    (by simpa using faithful.within)
  rw [List.length_reverse, ← List.reverse_cons] at last
  refine ⟨enter_within product _ fun entry member =>
    (faithful.within entry member).trans (Nat.lt_succ_self _), ?_, ?_⟩
  · simp only [Loop.enter]
    rw [last, List.map_append, faithful.each, List.reverse_cons]
    rfl
  · intro pair member
    simp only [Loop.enter] at member
    rw [last] at member
    rcases List.mem_append.mp member with old | added
    · exact faithful.own pair old
    · cases List.mem_singleton.mp added
      exact ⟨product, variant, sold, rfl⟩

/-- Over live items the loop ends, with each of them priced by its own variant. -/
theorem live_loop {catalogue : Database} {items : List CartItem} {loop : Loop}
    (faithful : Faithful catalogue loop)
    (all : ∀ item ∈ items, live catalogue item.line = true) :
    ∃ finished priced, items.foldlM (turn catalogue) loop = .ok finished ∧
      Faithful catalogue finished ∧ finished.done.reverse = loop.done.reverse ++ priced ∧
      List.Forall₂ (PricedByOwn catalogue) items priced := by
  induction items generalizing loop with
  | nil => exact ⟨loop, [], rfl, faithful, (List.append_nil _).symm, List.Forall₂.nil⟩
  | cons item rest ih =>
      obtain ⟨first, others⟩ := List.forall_mem_cons.mp all
      obtain ⟨⟨product, variant, sold⟩, here⟩ := live_eq_true_iff.mp first
      obtain ⟨finished, priced, ran, ended, done, each⟩ := ih (faithful.enter sold) others
      refine ⟨finished, fullPriced variant item :: priced, ?_, ended, ?_,
        List.Forall₂.cons (pricedByOwn_fullPriced sold) each⟩
      · exact foldlM_cons_eq_ok_iff.mpr
          ⟨_, turn_eq_ok_iff.mpr ⟨product, variant, sold, Or.inl ⟨here, rfl⟩⟩, ran⟩
      · rw [done]
        simp [Loop.enter]

/-! ## What is saved and answered -/

/-- The live items are saved in their order, priced by their own variants, and the answer has
each saved item once, under its own store. -/
def PrunesExactly (shop : Shop) (user : ObjectId) (cart : Cart) : Prop :=
  ∃ saved groups, getCart shop user = .ok (saved, groups) ∧
    (shop.afterGetCart user).cart? user = some saved ∧
    List.Forall₂ (PricedByOwn shop.catalogue)
      (cart.items.filter fun item => live shop.catalogue item.line) saved.items ∧
    Grouped (OfStore shop.catalogue) saved.items groups

theorem loop_of_getCart {shop : Shop} {user : ObjectId} {cart saved : Cart}
    {groups : List StoreCart} (stored : shop.cart? user = some cart)
    (ended : getCart shop user = .ok (saved, groups)) :
    ∃ finished, cart.items.foldlM (turn shop.catalogue) Loop.start = .ok finished ∧
      saved = { cart with
        items := finished.done.reverse
        totalDiscount := finished.totalDiscount
        totalPayable := finished.totalPayable } ∧
      groups = answer finished.done.reverse finished.entries := by
  simp only [getCart, stored, found, bind_eq_ok_iff, Except.ok.injEq, exists_eq_left',
    pure_eq_ok_iff, Prod.mk.injEq] at ended
  obtain ⟨finished, ran, rfl, rfl⟩ := ended
  exact ⟨finished, ran, rfl, rfl⟩

/-- `getCart` prunes a stored cart exactly when there is nothing to prune. -/
theorem prunesExactly_iff {shop : Shop} {user : ObjectId} {cart : Cart}
    (stored : shop.cart? user = some cart) :
    PrunesExactly shop user cart ↔
      ∀ item ∈ cart.items, live shop.catalogue item.line = true := by
  have same : cart.userId = user := (Collection.findById?_eq_some_iff.mp stored).2
  constructor
  · rintro ⟨saved, groups, ended, -, priced, grouped⟩
    obtain ⟨finished, ran, rfl, rfl⟩ := loop_of_getCart stored ended
    -- Every item has an entry, and every entry shows an item of the answer.
    have within : ∀ entry ∈ finished.entries, entry.2 < finished.done.length :=
      foldlM_invariant (fun loop : Loop => ∀ entry ∈ loop.entries, entry.2 < loop.done.length)
        (fun _ _ _ _ within turned => turn_within within turned) (by simp [Loop.start]) ran
    have answered : Grouped (fun _ _ => True) _ (answer finished.done.reverse finished.entries) :=
      grouped_answer fun _ _ => trivial
    have kept : (cart.items.filter fun item => live shop.catalogue item.line).length =
        cart.items.length :=
      calc (cart.items.filter fun item => live shop.catalogue item.line).length
          = finished.done.reverse.length := priced.length_eq
        _ = (productsOf (answer finished.done.reverse finished.entries)).length :=
            grouped.once.length_eq.symm
        _ = (shown finished.done.reverse finished.entries).length := by
            rw [answered.once.length_eq, List.length_map]
        _ = finished.entries.length := length_shown (by simpa using within)
        _ = cart.items.length := by simp [length_entries ran, Loop.start]
    exact List.length_filter_eq_length_iff.mp kept
  · intro all
    obtain ⟨finished, priced, ran, faithful, done, each⟩ :=
      live_loop (faithful_start shop.catalogue) all
    have ended := getCart_of_loop stored ran
    refine ⟨_, _, ended, ?_, ?_, ?_⟩
    · rw [Shop.afterGetCart, ended, ← same]
      exact shop.save_cart? _
    · rw [List.filter_eq_self.mpr all]
      exact (done : finished.done.reverse = priced) ▸ each
    · have grouped := grouped_answer faithful.own
      rw [faithful.each] at grouped
      exact grouped

theorem corner_prunesExactly_iff :
    PrunesExactly ((corner none).save (cornerCart 0 0 200)) 7 (cornerCart 0 0 200) ↔
      ∀ item ∈ (cornerCart 0 0 200).items, live (corner none).catalogue item.line = true :=
  prunesExactly_iff ((corner none).save_cart? (cornerCart 0 0 200))

/-- The seller has deleted the product. -/
def soldOut : Shop :=
  { (corner none).save (cornerCart 0 0 200) with
    catalogue := (corner none).catalogue.apply
      { Effect.nothing with products := [.delete 20] } }

/-- On a cart with an item of a deleted product, `getCart` throws and nothing is saved. -/
theorem soldOut_not_pruned :
    addToCart (corner none) 0 7 twoUnits = .ok (cornerCart 0 0 200) ∧
      deleteProduct (corner none).catalogue ⟨2, .seller⟩ 20 =
        .ok { Effect.nothing with products := [.delete 20] } ∧
      soldOut.cart? 7 = some (cornerCart 0 0 200) ∧
      getCart soldOut 7 = .error .typeError ∧
      ¬ PrunesExactly soldOut 7 (cornerCart 0 0 200) := by
  have thrown : getCart soldOut 7 = .error .typeError := by decide +kernel
  refine ⟨corner_full, rfl, (corner none).save_cart? (cornerCart 0 0 200), thrown, ?_⟩
  rintro ⟨saved, groups, ended, -⟩
  rw [thrown] at ended
  cases ended

end Proximity.Carts
