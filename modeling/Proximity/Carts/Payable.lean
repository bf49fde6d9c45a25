import Mathlib.Tactic.Linarith
import Mathlib.Tactic.Ring
import Proximity.Carts.Pruning

/-!
# The totals that `getCart` stores

A turn of the loop adds what it prices to the totals only when the product has an offer.  An
item that ends up priced without one is missing from the total; one that is priced with an
offer and then priced again is in it too often.
-/

namespace Proximity.Carts

open Proximity.Systems Proximity.Models Proximity.Catalogue

/-! ## Sums over items -/

def sumOf (amount : CartItem → ℚ) (items : List CartItem) : ℚ :=
  items.foldl (fun total currentValue => total + amount currentValue) 0

/-- The virtual of a cart. -/
def Cart.totalPriceForAllProducts (cart : Cart) : ℚ := sumOf CartItem.totalPrice cart.items

theorem foldl_amount (amount : CartItem → ℚ) (items : List CartItem) (total : ℚ) :
    items.foldl (fun total currentValue => total + amount currentValue) total =
      total + sumOf amount items := by
  unfold sumOf
  induction items generalizing total with
  | nil => exact (add_zero total).symm
  | cons item rest ih =>
      rw [List.foldl_cons, List.foldl_cons, ih (total + amount item), ih (0 + amount item)]
      ring

@[simp] theorem sumOf_nil (amount : CartItem → ℚ) : sumOf amount [] = 0 := rfl

@[simp] theorem sumOf_cons (amount : CartItem → ℚ) (item : CartItem) (items : List CartItem) :
    sumOf amount (item :: items) = amount item + sumOf amount items := by
  rw [sumOf, List.foldl_cons, foldl_amount, zero_add]

theorem sumOf_append (amount : CartItem → ℚ) (first second : List CartItem) :
    sumOf amount (first ++ second) = sumOf amount first + sumOf amount second := by
  rw [sumOf, List.foldl_append, foldl_amount]
  rfl

theorem sumOf_reverse (amount : CartItem → ℚ) (items : List CartItem) :
    sumOf amount items.reverse = sumOf amount items := by
  induction items with
  | nil => rfl
  | cons item rest ih =>
      rw [List.reverse_cons, sumOf_append, ih, sumOf_cons, sumOf_cons, sumOf_nil]
      ring

theorem sumOf_eq_zero {amount : CartItem → ℚ} {items : List CartItem}
    (free : ∀ item ∈ items, amount item = 0) : sumOf amount items = 0 := by
  induction items with
  | nil => rfl
  | cons item rest ih =>
      obtain ⟨first, others⟩ := List.forall_mem_cons.mp free
      rw [sumOf_cons, first, ih others, add_zero]

/-! ## Charges -/

/-- An amount an item is priced at, and whether the product that prices it has an offer. -/
structure Charge where
  offered : Bool
  amount : ℚ

/-- The part of a charge that is added to the total. -/
def Charge.recorded (charge : Charge) : ℚ := if charge.offered then charge.amount else 0

/-- What an item of the quantity is charged by products and their variants, one after the
other; each leaves a quantity for the next. -/
def charges : ℚ → List (Product × Variant) → List Charge
  | _, [] => []
  | quantity, (product, variant) :: rest =>
      ⟨product.offer.isSome, variant.price * orderedQuantity variant quantity⟩ ::
        charges (orderedQuantity variant quantity) rest

/-- The last charge, unless it is recorded. -/
def missing : List Charge → ℚ
  | [] => 0
  | [charge] => charge.amount - charge.recorded
  | _ :: next :: rest => missing (next :: rest)

/-- The recorded charges that another one follows. -/
def surplus : List Charge → ℚ
  | [] => 0
  | [_] => 0
  | charge :: next :: rest => charge.recorded + surplus (next :: rest)

def recordedIn : List Charge → ℚ
  | [] => 0
  | charge :: rest => charge.recorded + recordedIn rest

/-- What an item of the amount is at after its charges. -/
def lastAmount : ℚ → List Charge → ℚ
  | amount, [] => amount
  | _, charge :: rest => lastAmount charge.amount rest

/-- The last charge and the recorded ones differ by what is missing and what is too much. -/
theorem missing_sub_surplus (charge : Charge) (rest : List Charge) :
    missing (charge :: rest) - surplus (charge :: rest) =
      lastAmount charge.amount rest - recordedIn (charge :: rest) := by
  induction rest generalizing charge with
  | nil => simp [missing, surplus, lastAmount, recordedIn]
  | cons next rest ih =>
      have later := ih next
      simp only [missing, surplus, lastAmount, recordedIn] at later ⊢
      linarith

/-- The products and variants of the gone lines at the head of a list. -/
def goneSold (catalogue : Database) (lines : List Line) : List (Product × Variant) :=
  (lines.takeWhile (gone catalogue)).filterMap (sold? catalogue)

/-- The charges of an item: its own, then those of the gone items that directly follow. -/
def itemCharges (catalogue : Database) (item : CartItem) (behind : List CartItem) : List Charge :=
  charges item.quantity
    ((sold? catalogue item.line).toList ++ goneSold catalogue (behind.map CartItem.line))

/-- The sum of a value of the charges, over the items that are not gone. -/
def overItems (catalogue : Database) (value : List Charge → ℚ) : List CartItem → ℚ
  | [] => 0
  | item :: behind =>
      (if gone catalogue item.line then 0 else value (itemCharges catalogue item behind)) +
        overItems catalogue value behind

theorem overItems_sub (catalogue : Database) (first second : List Charge → ℚ)
    (items : List CartItem) :
    overItems catalogue (fun list => first list - second list) items =
      overItems catalogue first items - overItems catalogue second items := by
  induction items with
  | nil => exact (sub_self 0).symm
  | cons item rest ih =>
      rw [overItems, overItems, overItems, ih]
      split <;> ring

/-! ## The loop -/

/-- By how much the prices of the items exceed the total. -/
def Loop.gap (loop : Loop) : ℚ := sumOf CartItem.totalPrice loop.done - loop.totalPayable

/-- What the gone items at the head of the list still do to the item priced last. -/
def pendingGap (catalogue : Database) (items : List CartItem) : List CartItem → ℚ
  | [] => 0
  | pending :: _ =>
      let later := charges pending.quantity (goneSold catalogue (items.map CartItem.line))
      lastAmount pending.totalPrice later - recordedIn later - pending.totalPrice

theorem fullPriced_totalPrice (variant : Variant) (item : CartItem) :
    (fullPriced variant item).totalPrice =
      variant.price * orderedQuantity variant item.quantity := by
  simp [fullPriced, pricedItem, discountvar, discountedQuantity]

theorem fullPriced_quantity (variant : Variant) (item : CartItem) :
    (fullPriced variant item).quantity = orderedQuantity variant item.quantity := rfl

/-- The charge of a turn. -/
def chargeOf (product : Product) (item : CartItem) : Charge :=
  ⟨product.offer.isSome, item.totalPrice⟩

theorem enter_gap (loop : Loop) (product : Product) (item : CartItem) (before : List CartItem) :
    (loop.enter product item before).gap =
      item.totalPrice + sumOf CartItem.totalPrice before - loop.totalPayable -
        (chargeOf product item).recorded := by
  unfold Loop.gap Loop.enter Charge.recorded chargeOf
  cases product.offer.isSome with
  | false => simp
  | true =>
      simp only [if_true, sumOf_cons]
      ring

theorem pendingGap_nil (catalogue : Database) (done : List CartItem) :
    pendingGap catalogue [] done = 0 := by
  cases done with
  | nil => rfl
  | cons pending before =>
      simp [pendingGap, goneSold, charges, lastAmount, recordedIn]

theorem pendingGap_cons_of_here {catalogue : Database} {item : CartItem}
    (here : gone catalogue item.line = false) (rest done : List CartItem) :
    pendingGap catalogue (item :: rest) done = 0 := by
  cases done with
  | nil => rfl
  | cons pending before =>
      simp [pendingGap, goneSold, here, charges, lastAmount, recordedIn]

theorem goneSold_cons {catalogue : Database} {line : Line} {product : Product}
    {variant : Variant} (sold : sold? catalogue line = some (product, variant))
    (lost : gone catalogue line = true) (rest : List Line) :
    goneSold catalogue (line :: rest) = (product, variant) :: goneSold catalogue rest := by
  simp [goneSold, lost, sold]

/-- The charges that begin with a pricing by the product and its variant. -/
theorem charges_cons (product : Product) (variant : Variant) (item : CartItem)
    (rest : List (Product × Variant)) :
    charges item.quantity ((product, variant) :: rest) =
      chargeOf product (fullPriced variant item) ::
        charges (fullPriced variant item).quantity rest := by
  rw [charges, chargeOf, fullPriced_totalPrice, fullPriced_quantity]

/-- Every item that is left adds the balance of its charges to the gap. -/
theorem loop_gap {catalogue : Database} {items : List CartItem} {loop finished : Loop}
    (ran : items.foldlM (turn catalogue) loop = .ok finished) :
    finished.gap = loop.gap + pendingGap catalogue items loop.done +
      overItems catalogue (fun list => missing list - surplus list) items := by
  induction items generalizing loop with
  | nil =>
      cases ran
      rw [pendingGap_nil, overItems]
      ring
  | cons item rest ih =>
      obtain ⟨next, turned, remaining⟩ := foldlM_cons_eq_ok_iff.mp ran
      have later := ih remaining
      obtain ⟨product, variant, sold, ⟨here, rfl⟩ | ⟨lost, previous, before, done, rfl⟩⟩ :=
        turn_eq_ok_iff.mp turned
      · have own : itemCharges catalogue item rest =
            chargeOf product (fullPriced variant item) ::
              charges (fullPriced variant item).quantity
                (goneSold catalogue (rest.map CartItem.line)) := by
          rw [itemCharges, sold]
          exact charges_cons product variant item _
        have balance := missing_sub_surplus (chargeOf product (fullPriced variant item))
          (charges (fullPriced variant item).quantity
            (goneSold catalogue (rest.map CartItem.line)))
        rw [later, pendingGap_cons_of_here here, overItems, here, own, if_neg Bool.false_ne_true,
          balance, enter_gap, Loop.gap]
        simp only [Loop.enter, pendingGap, recordedIn, chargeOf]
        ring
      · rw [later, overItems, lost, if_pos rfl, enter_gap, done, Loop.gap, done]
        simp only [Loop.enter, pendingGap, List.map_cons, goneSold_cons sold lost, charges_cons,
          lastAmount, recordedIn, sumOf_cons, chargeOf]
        ring

/-! ## The totals -/

def discountOf (item : CartItem) : ℚ := item.discount * item.discountQuantity

/-- No offer is ever found, so nothing is taken off any price. -/
structure Undiscounted (loop : Loop) : Prop where
  items : ∀ item ∈ loop.done, discountOf item = 0
  total : loop.totalDiscount = 0

theorem discountOf_fullPriced (variant : Variant) (item : CartItem) :
    discountOf (fullPriced variant item) = 0 := mul_zero _

theorem Undiscounted.enter {loop : Loop} {item : CartItem} {before : List CartItem}
    (undiscounted : Undiscounted loop) (product : Product) (free : discountOf item = 0)
    (others : ∀ other ∈ before, discountOf other = 0) :
    Undiscounted (loop.enter product item before) where
  items := List.forall_mem_cons.mpr ⟨free, others⟩
  total := by
    have same : loop.totalDiscount + item.discount * item.discountQuantity = 0 := by
      rw [undiscounted.total, zero_add]
      exact free
    unfold Loop.enter
    split
    · exact same
    · exact undiscounted.total

theorem turn_undiscounted {catalogue : Database} {loop next : Loop} {item : CartItem}
    (undiscounted : Undiscounted loop) (turned : turn catalogue loop item = .ok next) :
    Undiscounted next := by
  obtain ⟨product, variant, -, ⟨-, rfl⟩ | ⟨-, previous, before, done, rfl⟩⟩ :=
    turn_eq_ok_iff.mp turned
  · exact undiscounted.enter product (discountOf_fullPriced variant item) undiscounted.items
  · have free := undiscounted.items
    rw [done] at free
    exact undiscounted.enter product (discountOf_fullPriced variant previous)
      (List.forall_mem_cons.mp free).2

/-- The totals of a cart are the sums over its items. -/
structure TotalsHold (cart : Cart) : Prop where
  payable : cart.totalPayable = cart.totalPriceForAllProducts
  discount : cart.totalDiscount = sumOf discountOf cart.items

/-- When `getCart` ends, the totals it stores hold exactly when the last charges without an
offer make up for the charges with one that another charge follows. -/
theorem totalsHold_iff {shop : Shop} {user : ObjectId} {cart saved : Cart}
    {groups : List StoreCart} (stored : shop.cart? user = some cart)
    (ended : getCart shop user = .ok (saved, groups)) :
    TotalsHold saved ↔
      overItems shop.catalogue missing cart.items =
        overItems shop.catalogue surplus cart.items := by
  obtain ⟨finished, ran, rfl, -⟩ := loop_of_getCart stored ended
  have undiscounted : Undiscounted finished :=
    foldlM_invariant Undiscounted (fun _ _ _ _ held turned => turn_undiscounted held turned)
      ⟨fun _ member => absurd member List.not_mem_nil, rfl⟩ ran
  have gap : sumOf CartItem.totalPrice finished.done - finished.totalPayable =
      overItems shop.catalogue missing cart.items - overItems shop.catalogue surplus cart.items :=
    calc sumOf CartItem.totalPrice finished.done - finished.totalPayable
        = Loop.start.gap + pendingGap shop.catalogue cart.items Loop.start.done +
            overItems shop.catalogue (fun list => missing list - surplus list) cart.items :=
          loop_gap ran
      _ = overItems shop.catalogue missing cart.items -
            overItems shop.catalogue surplus cart.items := by
          rw [overItems_sub]
          simp [Loop.gap, Loop.start, pendingGap]
  constructor
  · rintro ⟨payable, -⟩
    rw [Cart.totalPriceForAllProducts, sumOf_reverse] at payable
    rw [← payable, sub_self] at gap
    exact sub_eq_zero.mp gap.symm
  · intro balanced
    rw [balanced, sub_self] at gap
    refine ⟨?_, ?_⟩
    · rw [Cart.totalPriceForAllProducts, sumOf_reverse]
      exact (sub_eq_zero.mp gap).symm
    · rw [sumOf_reverse, sumOf_eq_zero undiscounted.items]
      exact undiscounted.total

/-- What `getCart` saves of a cart of two units of the product. -/
def cornerSaved (totalPayable : ℚ) : Cart :=
  ⟨7, [⟨20, "a", 0, 2, 0, 200⟩], 0, totalPayable⟩

theorem corner_getCart :
    getCart ((corner none).save (cornerCart 0 0 200)) 7 =
        .ok (cornerSaved 0, [⟨10, [⟨20, "a", 0, 2, 0, 200⟩]⟩]) ∧
      getCart ((corner (some 30)).save (cornerCart 20 1 180)) 7 =
        .ok (cornerSaved 200, [⟨10, [⟨20, "a", 0, 2, 0, 200⟩]⟩]) := by
  decide +kernel

theorem cornerSaved_totalsHold_iff :
    TotalsHold (cornerSaved 200) ↔
      overItems (corner (some 30)).catalogue missing (cornerCart 20 1 180).items =
        overItems (corner (some 30)).catalogue surplus (cornerCart 20 1 180).items := by
  have held := totalsHold_iff ((corner (some 30)).save_cart? (cornerCart 20 1 180))
    corner_getCart.2
  exact held

/-- An item of a product without an offer is not in the total. -/
theorem cornerSaved_not_totalsHold :
    addToCart (corner none) 0 7 twoUnits = .ok (cornerCart 0 0 200) ∧
      getCart ((corner none).save (cornerCart 0 0 200)) 7 =
        .ok (cornerSaved 0, [⟨10, [⟨20, "a", 0, 2, 0, 200⟩]⟩]) ∧
      ¬ TotalsHold (cornerSaved 0) := by
  refine ⟨corner_full, corner_getCart.1, fun held => ?_⟩
  have payable := held.payable
  revert payable
  decide +kernel

end Proximity.Carts
