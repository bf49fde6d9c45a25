import Mathlib.Data.List.Perm.Basic
import Proximity.Apps.OrderForms
import Proximity.Systems.Checks

/-!
# The client's app: what the two encoders of an order keep

Each encoder is compared with the products of the screen, and then with the other one.
-/

namespace Proximity.Apps.Client

open Proximity.Systems Proximity.Models

/-! ## What is to be kept -/

def PostedOrder.mode (order : PostedOrder) : Mode :=
  if order.pickUp = true then .pickup
  else if order.delivery = true then .delivery
  else .reservation

/-- What an order says of a product: what it is, and at which price. -/
structure PostedLine where
  productId : String
  variantId : String
  price : Option ℚ
  discount : ℚ
  quantity : Int
  deriving DecidableEq, Repr

def OrderedProduct.line (item : OrderedProduct) : PostedLine where
  productId := item.productId.getD ""
  variantId := item.variantId.getD ""
  price := item.price
  discount := item.discount
  quantity := item.quantity

def PostedItem.line (item : PostedItem) : PostedLine where
  productId := item.productId
  variantId := item.variantId
  price := item.price
  discount := item.discount
  quantity := item.quantity

def PostedOrder.lines (order : PostedOrder) : List PostedLine := order.items.map PostedItem.line

/-- Every product is posted once, and every order asks for the total of its group. -/
structure FormData.Complete (form : FormData) (slider : OrderSliderValidation) : Prop where
  products : (form.orders.flatMap PostedOrder.lines).Perm
    (slider.products.map OrderedProduct.line)
  totals : ∀ order ∈ form.orders, some order.paymentInfos.totalAmount = slider.total order.mode

/-- An order less its payment and its contact. -/
structure OrderContent where
  clientId : ObjectId
  storeId : Option ObjectId
  cartId : Option String
  deliveryAddresse : Option ShippingAddress
  deliveryLocation : Option (ℚ × ℚ)
  distance : Option ℚ
  items : List PostedItem
  reservation : Option Bool
  pickUp : Bool
  delivery : Bool
  deriving DecidableEq, Repr

def PostedOrder.content (order : PostedOrder) : OrderContent where
  clientId := order.clientId
  storeId := order.storeId
  cartId := order.cartId
  deliveryAddresse := order.deliveryAddresse
  deliveryLocation := order.deliveryLocation
  distance := order.distance
  items := order.items
  reservation := order.reservation
  pickUp := order.pickUp
  delivery := order.delivery

def PostedItem.withoutPolicy (item : PostedItem) : PostedItem := { item with policy := none }

/-- The content when a missing flag counts as `false` and the items' policies do not count. -/
def PostedOrder.plainContent (order : PostedOrder) : OrderContent :=
  { order.content with
    items := order.items.map PostedItem.withoutPolicy
    reservation := some (order.reservation.getD false) }

/-- Both encoders post everything, and the same orders as far as they are compared. -/
def EncodersAgree {α : Type} (compared : PostedOrder → α) (slider : OrderSliderValidation)
    (id : ObjectId) : Prop :=
  ∃ form card, slider.toFormData id = some form ∧ slider.toFormDataCard id = some card ∧
    form.Complete slider ∧ card.Complete slider ∧
    ∀ content, content ∈ form.orders.map compared ↔ content ∈ card.orders.map compared

/-- The selections that `toFormData` reads. -/
structure OrderSliderValidation.Selected (slider : OrderSliderValidation) : Prop where
  contact : ∃ contacts, slider.infosContact = some contacts ∧
    ∃ contact ∈ contacts, contact.selected = true
  person : ∃ persons, slider.pickupPersons = some persons ∧
    (slider.items .pickup ≠ [] → ∃ person ∈ persons, person.selected = true)

/-! ## Groups -/

section Groups

variable {slider : OrderSliderValidation} {id : ObjectId} {mode : Mode}

theorem total_isSome_iff : (slider.total mode).isSome = true ↔
    ∀ item ∈ slider.items mode, item.price.isSome = true := by
  have split : (∀ item ∈ slider.items mode, item.price.isSome = true) ↔
      ∀ item ∈ slider.plain.products.filter mode.takes, item.price.isSome = true := by
    rw [← items_toProductCart, List.forall_mem_map]
  rw [split]
  cases mode with
  | pickup => exact itemsTotal_isSome_iff
  | delivery => exact itemsTotal_isSome_iff
  | reservation => exact itemsTotal_isSome_iff

theorem mode_order {flag : Option Bool} {person : Option PostedPerson} {payment : PostedPayment}
    {items : List PostedItem} : (slider.order id mode flag person payment items).mode = mode := by
  cases mode with
  | pickup => rfl
  | delivery => rfl
  | reservation => rfl

theorem unreserved_of_takes {item : ProductCart} (other : mode ≠ .reservation)
    (taken : mode.takes item = true) : item.reservation = false := by
  cases mode with
  | pickup =>
      rw [Mode.takes, Bool.not_eq_true', Bool.or_eq_false_iff] at taken
      exact taken.1
  | delivery =>
      rw [Mode.takes, Bool.not_eq_true', Bool.or_eq_false_iff] at taken
      exact taken.1
  | reservation => exact absurd rfl other

/-- A list each of whose items is taken by one of three tests falls into three parts. -/
theorem filters_perm {α : Type} {first second third : α → Bool} {items : List α}
    (one : ∀ item ∈ items,
      (first item = true ∧ second item = false ∧ third item = false) ∨
      (first item = false ∧ second item = true ∧ third item = false) ∨
      (first item = false ∧ second item = false ∧ third item = true)) :
    (items.filter first ++ items.filter second ++ items.filter third).Perm items := by
  induction items with
  | nil => exact List.Perm.nil
  | cons item rest ih =>
      rw [List.forall_mem_cons] at one
      have split := ih one.2
      rcases one.1 with ⟨isFirst, notSecond, notThird⟩ | ⟨notFirst, isSecond, notThird⟩ |
        ⟨notFirst, notSecond, isThird⟩
      · rw [List.filter_cons_of_pos isFirst, List.filter_cons_of_neg (by simp [notSecond]),
          List.filter_cons_of_neg (by simp [notThird])]
        exact split.cons item
      · rw [List.filter_cons_of_neg (by simp [notFirst]), List.filter_cons_of_pos isSecond,
          List.filter_cons_of_neg (by simp [notThird]), List.append_assoc, List.cons_append]
        refine List.perm_middle.trans (List.Perm.cons item ?_)
        rw [← List.append_assoc]
        exact split
      · rw [List.filter_cons_of_neg (by simp [notFirst]),
          List.filter_cons_of_neg (by simp [notSecond]), List.filter_cons_of_pos isThird]
        exact List.perm_middle.trans (split.cons item)

/-- Products that are each had in one way fall into the three groups. -/
theorem groups_perm
    (modes : ∀ item ∈ slider.products, ∃! mode : Mode, mode.takes item.toProductCart = true) :
    (slider.items .pickup ++ slider.items .delivery ++ slider.items .reservation).Perm
      slider.products := by
  refine filters_perm fun item member => ?_
  obtain ⟨mode, taken, only⟩ := modes item member
  have others : ∀ other : Mode, other ≠ mode → other.takes item.toProductCart = false :=
    fun other different => Bool.eq_false_iff.mpr fun takes => different (only other takes)
  cases mode with
  | pickup => exact Or.inl ⟨taken, others .delivery nofun, others .reservation nofun⟩
  | delivery => exact Or.inr (Or.inl ⟨others .pickup nofun, taken, others .reservation nofun⟩)
  | reservation => exact Or.inr (Or.inr ⟨others .pickup nofun, others .delivery nofun, taken⟩)

/-- The orders of a group: none for an empty group, else one for its products and its total.
What is posted of a product is `posted`, its policy apart, which satisfies `policy`. -/
def OrderSliderValidation.Groups (slider : OrderSliderValidation) (id : ObjectId) (mode : Mode)
    (flag : Option Bool) (posted : OrderedProduct → PostedItem) (policy : Option String → Prop)
    (orders : List PostedOrder) : Prop :=
  (slider.items mode = [] ∧ orders = []) ∨
    (slider.items mode ≠ [] ∧ ∃ person payment items,
      some payment.totalAmount = slider.total mode ∧
      items.map PostedItem.withoutPolicy = (slider.items mode).map posted ∧
      (∀ item ∈ items, policy item.policy) ∧
      orders = [slider.order id mode flag person payment items])

variable {flag : Option Bool} {posted : OrderedProduct → PostedItem}
  {policy : Option String → Prop} {orders : List PostedOrder}

@[simp] theorem withoutPolicy_line (item : PostedItem) : item.withoutPolicy.line = item.line := rfl

@[simp] theorem posted_line (item : OrderedProduct) (reservation : Option ℚ)
    (policy : Option String) : (item.posted reservation policy).line = item.line := rfl

theorem OrderSliderValidation.Groups.lines
    (groups : slider.Groups id mode flag posted policy orders)
    (kept : ∀ item : OrderedProduct, (posted item).line = item.line) :
    orders.flatMap PostedOrder.lines = (slider.items mode).map OrderedProduct.line := by
  rcases groups with ⟨empty, rfl⟩ | ⟨_, person, payment, items, _, same, _, rfl⟩
  · rw [empty, List.flatMap_nil, List.map_nil]
  · have lines : items.map PostedItem.line = (slider.items mode).map OrderedProduct.line := by
      have mapped := congrArg (List.map PostedItem.line) same
      simpa only [List.map_map, Function.comp_def, withoutPolicy_line, kept] using mapped
    rw [List.flatMap_singleton]
    exact lines

theorem OrderSliderValidation.Groups.totals
    (groups : slider.Groups id mode flag posted policy orders) :
    ∀ order ∈ orders, some order.paymentInfos.totalAmount = slider.total order.mode := by
  rcases groups with ⟨_, rfl⟩ | ⟨_, person, payment, items, total, _, _, rfl⟩
  · exact List.forall_mem_nil _
  · intro order member
    rw [List.mem_singleton] at member
    rw [member, mode_order]
    exact total

theorem OrderSliderValidation.Groups.policies
    (groups : slider.Groups id mode flag posted policy orders) :
    ∀ order ∈ orders, ∀ item ∈ order.items, policy item.policy := by
  rcases groups with ⟨_, rfl⟩ | ⟨_, person, payment, items, _, _, policies, rfl⟩
  · exact List.forall_mem_nil _
  · intro order member
    rw [List.mem_singleton] at member
    rw [member]
    exact policies

theorem OrderSliderValidation.Groups.priced
    (groups : slider.Groups id mode flag posted policy orders) :
    ∀ item ∈ slider.items mode, item.price.isSome = true := by
  rcases groups with ⟨empty, _⟩ | ⟨_, person, payment, items, total, _⟩
  · rw [empty]
    exact List.forall_mem_nil _
  · rw [← total_isSome_iff, ← total, Option.isSome_some]

/-- Two encoders that post the same of the products of a group post the same orders. -/
theorem OrderSliderValidation.Groups.plainContent {flag' : Option Bool}
    {policy' : Option String → Prop} {orders' : List PostedOrder}
    (groups : slider.Groups id mode flag posted policy orders)
    (groups' : slider.Groups id mode flag' posted policy' orders')
    (flags : flag.getD false = flag'.getD false) :
    orders.map PostedOrder.plainContent = orders'.map PostedOrder.plainContent := by
  rcases groups with ⟨empty, rfl⟩ | ⟨there, person, payment, items, _, same, _, rfl⟩
  · rcases groups' with ⟨_, rfl⟩ | ⟨there', _⟩
    · rfl
    · exact absurd empty there'
  · rcases groups' with ⟨empty', _⟩ | ⟨_, person', payment', items', _, same', _, rfl⟩
    · exact absurd empty' there
    · have items_eq : items.map PostedItem.withoutPolicy = items'.map PostedItem.withoutPolicy :=
        same.trans same'.symm
      rw [List.map_singleton, List.map_singleton]
      simp only [PostedOrder.plainContent, PostedOrder.content, OrderSliderValidation.order,
        items_eq, flags]

end Groups

/-! ## What each encoder posts -/

section Encoders

variable {slider : OrderSliderValidation} {id : ObjectId}

theorem group?_eq_some {mode : Mode} {order : List OrderedProduct → ℚ → Option PostedOrder}
    {orders : List PostedOrder} (grouped : slider.group? mode order = some orders) :
    (slider.items mode = [] ∧ orders = []) ∨
      (slider.items mode ≠ [] ∧ ∃ total posted, slider.total mode = some total ∧
        order (slider.items mode) total = some posted ∧ orders = [posted]) := by
  unfold OrderSliderValidation.group? at grouped
  split at grouped
  case isTrue empty =>
    cases grouped
    exact Or.inl ⟨empty, rfl⟩
  case isFalse there =>
    obtain ⟨total, summed, rest⟩ := Option.bind_eq_some_iff.mp grouped
    obtain ⟨posted, built, kept⟩ := Option.bind_eq_some_iff.mp rest
    cases kept
    exact Or.inr ⟨there, total, posted, summed, built, rfl⟩

/-- A chain of lookups that are all there gives something. -/
theorem exists_bind_eq_some {α β : Type} {first : Option α} {next : α → Option β}
    (there : ∃ middle, first = some middle)
    (later : ∀ middle, first = some middle → ∃ value, next middle = some value) :
    ∃ value, (first >>= next) = some value := by
  obtain ⟨middle, rfl⟩ := there
  exact later middle rfl

theorem exists_group? {mode : Mode} {order : List OrderedProduct → ℚ → Option PostedOrder}
    (priced : ∀ item ∈ slider.items mode, item.price.isSome = true)
    (built : slider.items mode ≠ [] →
      ∀ total, ∃ posted, order (slider.items mode) total = some posted) :
    ∃ orders, slider.group? mode order = some orders := by
  unfold OrderSliderValidation.group?
  split
  case isTrue empty => exact ⟨[], rfl⟩
  case isFalse there =>
    obtain ⟨total, summed⟩ := Option.isSome_iff_exists.mp (total_isSome_iff.mpr priced)
    obtain ⟨posted, made⟩ := built there total
    exact ⟨[posted], by rw [summed, Option.bind_eq_bind, Option.bind_some, made]; rfl⟩

/-- Without policies, what `toFormData` posts of the products is what is posted of each. -/
theorem mapM_postedWithPolicy {products : List OrderedProduct} {items : List PostedItem}
    (encoded : products.mapM OrderedProduct.postedWithPolicy = some items) :
    (∀ product ∈ products, product.policy.isSome = true) ∧
      (∀ item ∈ items, item.policy.isSome = true) ∧
      items.map PostedItem.withoutPolicy =
        products.map fun product => product.posted none none := by
  induction products generalizing items with
  | nil =>
      cases encoded
      exact ⟨List.forall_mem_nil _, List.forall_mem_nil _, rfl⟩
  | cons product rest ih =>
      rw [List.mapM_cons] at encoded
      obtain ⟨item, first, later⟩ := Option.bind_eq_some_iff.mp encoded
      obtain ⟨others, remaining, made⟩ := Option.bind_eq_some_iff.mp later
      cases made
      obtain ⟨policy, given, rfl⟩ := Option.map_eq_some_iff.mp first
      obtain ⟨policies, posted, same⟩ := ih remaining
      have given' : product.policy.isSome = true := by rw [given, Option.isSome_some]
      refine ⟨List.forall_mem_cons.mpr ⟨given', policies⟩,
        List.forall_mem_cons.mpr ⟨rfl, posted⟩, ?_⟩
      rw [List.map_cons, List.map_cons, same]
      rfl

theorem exists_mapM_postedWithPolicy {products : List OrderedProduct}
    (policies : ∀ product ∈ products, product.policy.isSome = true) :
    ∃ items, products.mapM OrderedProduct.postedWithPolicy = some items := by
  have each : ∀ product ∈ products, ∃ item, product.postedWithPolicy = some item ∧ True := by
    intro product member
    obtain ⟨policy, given⟩ := Option.isSome_iff_exists.mp (policies product member)
    exact ⟨product.posted none (some policy),
      by rw [OrderedProduct.postedWithPolicy, given, Option.map_some], trivial⟩
  obtain ⟨items, encoded, _⟩ := exists_mapM_iff.mpr each
  exact ⟨items, encoded⟩

/-- An order is posted for a group without asking anything of its products. -/
theorem groups_of_group? {mode : Mode} {flag : Option Bool} {person : Option PostedPerson}
    {payment : ℚ → PostedPayment} {posted : OrderedProduct → PostedItem}
    {orders : List PostedOrder} (amount : ∀ total, (payment total).totalAmount = total)
    (unset : ∀ item, (posted item).policy = none)
    (grouped : slider.group? mode (fun items total =>
      some (slider.order id mode flag person (payment total) (items.map posted))) = some orders) :
    slider.Groups id mode flag posted (· = none) orders := by
  rcases group?_eq_some grouped with empty | ⟨there, total, order, summed, built, rfl⟩
  · exact Or.inl empty
  · cases built
    have same : ((slider.items mode).map posted).map PostedItem.withoutPolicy =
        (slider.items mode).map posted := by
      rw [List.map_map]
      refine List.map_congr_left fun item _ => ?_
      rw [Function.comp_apply, PostedItem.withoutPolicy, ← unset item]
    exact Or.inr ⟨there, person, payment total, _, by rw [amount, summed], same,
      List.forall_mem_map.mpr fun item _ => unset item, rfl⟩

theorem toFormDataCard_orders {card : FormData} (encoded : slider.toFormDataCard id = some card) :
    ∃ pickups deliveries reservations,
      card.orders = pickups ++ deliveries ++ reservations ∧
      slider.Groups id .pickup (some false) (fun item => item.posted none none) (· = none)
        pickups ∧
      slider.Groups id .delivery (some false) (fun item => item.posted none none) (· = none)
        deliveries ∧
      slider.Groups id .reservation (some true)
        (fun item => item.posted (some item.reservationP) none) (· = none) reservations := by
  obtain ⟨pickups, first, later⟩ := Option.bind_eq_some_iff.mp encoded
  obtain ⟨deliveries, second, last⟩ := Option.bind_eq_some_iff.mp later
  obtain ⟨reservations, third, made⟩ := Option.bind_eq_some_iff.mp last
  cases made
  exact ⟨pickups, deliveries, reservations, rfl,
    groups_of_group? (fun _ => rfl) (fun _ => rfl) first,
    groups_of_group? (fun _ => rfl) (fun _ => rfl) second,
    groups_of_group? (fun _ => rfl) (fun _ => rfl) third⟩

theorem toFormData_orders {form : FormData} (encoded : slider.toFormData id = some form) :
    ∃ pickups deliveries, form.orders = pickups ++ deliveries ∧
      slider.Groups id .pickup none (fun item => item.posted none none) (·.isSome = true)
        pickups ∧
      slider.Groups id .delivery none (fun item => item.posted none none) (·.isSome = true)
        deliveries ∧
      (∀ item ∈ slider.items .pickup, item.policy.isSome = true) ∧
      ∀ item ∈ slider.items .delivery, item.policy.isSome = true := by
  obtain ⟨contacts, _, encoded⟩ := Option.bind_eq_some_iff.mp encoded
  obtain ⟨contact, _, encoded⟩ := Option.bind_eq_some_iff.mp encoded
  obtain ⟨pickups, first, encoded⟩ := Option.bind_eq_some_iff.mp encoded
  obtain ⟨deliveries, second, encoded⟩ := Option.bind_eq_some_iff.mp encoded
  obtain ⟨persons, _, made⟩ := Option.bind_eq_some_iff.mp encoded
  cases made
  have picked : slider.Groups id .pickup none (fun item => item.posted none none)
        (·.isSome = true) pickups ∧
      ∀ item ∈ slider.items .pickup, item.policy.isSome = true := by
    rcases group?_eq_some first with empty | ⟨there, total, posted, summed, built, rfl⟩
    · refine ⟨Or.inl empty, ?_⟩
      rw [empty.1]
      exact List.forall_mem_nil _
    · obtain ⟨_, _, built⟩ := Option.bind_eq_some_iff.mp built
      obtain ⟨person, _, built⟩ := Option.bind_eq_some_iff.mp built
      obtain ⟨items, mapped, made⟩ := Option.bind_eq_some_iff.mp built
      cases made
      obtain ⟨policies, given, same⟩ := mapM_postedWithPolicy mapped
      exact ⟨Or.inr ⟨there, _, _, _, summed.symm, same, given, rfl⟩, policies⟩
  have delivered : slider.Groups id .delivery none (fun item => item.posted none none)
        (·.isSome = true) deliveries ∧
      ∀ item ∈ slider.items .delivery, item.policy.isSome = true := by
    rcases group?_eq_some second with empty | ⟨there, total, posted, summed, built, rfl⟩
    · refine ⟨Or.inl empty, ?_⟩
      rw [empty.1]
      exact List.forall_mem_nil _
    · obtain ⟨items, mapped, made⟩ := Option.bind_eq_some_iff.mp built
      cases made
      obtain ⟨policies, given, same⟩ := mapM_postedWithPolicy mapped
      exact ⟨Or.inr ⟨there, _, _, _, summed.symm, same, given, rfl⟩, policies⟩
  exact ⟨pickups, deliveries, rfl, picked.1, delivered.1, picked.2, delivered.2⟩

/-- The card's encoder loses nothing, whenever it posts anything. -/
theorem toFormDataCard_complete {card : FormData}
    (modes : ∀ item ∈ slider.products, ∃! mode : Mode, mode.takes item.toProductCart = true)
    (encoded : slider.toFormDataCard id = some card) : card.Complete slider := by
  obtain ⟨pickups, deliveries, reservations, orders, picked, delivered, reserved⟩ :=
    toFormDataCard_orders encoded
  refine ⟨?_, ?_⟩
  · rw [orders, List.flatMap_append, List.flatMap_append, picked.lines fun _ => rfl,
      delivered.lines fun _ => rfl, reserved.lines fun _ => rfl, ← List.map_append,
      ← List.map_append]
    exact (groups_perm modes).map OrderedProduct.line
  · rw [orders, List.forall_mem_append, List.forall_mem_append]
    exact ⟨⟨picked.totals, delivered.totals⟩, reserved.totals⟩

theorem exists_toFormDataCard
    (priced : ∀ item ∈ slider.products, item.price.isSome = true) :
    ∃ card, slider.toFormDataCard id = some card := by
  have group : ∀ mode, ∀ item ∈ slider.items mode, item.price.isSome = true :=
    fun mode item member => priced item (List.mem_of_mem_filter member)
  refine exists_bind_eq_some (exists_group? (group .pickup) fun _ _ => ⟨_, rfl⟩) fun _ _ => ?_
  refine exists_bind_eq_some (exists_group? (group .delivery) fun _ _ => ⟨_, rfl⟩) fun _ _ => ?_
  exact exists_bind_eq_some (exists_group? (group .reservation) fun _ _ => ⟨_, rfl⟩)
    fun _ _ => ⟨_, rfl⟩

/-- The other encoder loses the reserved products, and nothing else. -/
theorem toFormData_complete_iff {form : FormData}
    (modes : ∀ item ∈ slider.products, ∃! mode : Mode, mode.takes item.toProductCart = true)
    (encoded : slider.toFormData id = some form) :
    form.Complete slider ↔ slider.items .reservation = [] := by
  obtain ⟨pickups, deliveries, orders, picked, delivered, _⟩ := toFormData_orders encoded
  have lines : form.orders.flatMap PostedOrder.lines =
      (slider.items .pickup ++ slider.items .delivery).map OrderedProduct.line := by
    rw [orders, List.flatMap_append, picked.lines fun _ => rfl, delivered.lines fun _ => rfl,
      List.map_append]
  have split := groups_perm modes
  constructor
  · intro complete
    have lengths := complete.products.length_eq
    rw [lines, List.length_map, List.length_map, ← split.length_eq, List.length_append,
      List.length_append, List.length_append] at lengths
    exact List.eq_nil_of_length_eq_zero (by omega)
  · intro none_reserved
    refine ⟨?_, ?_⟩
    · rw [none_reserved, List.append_nil] at split
      rw [lines]
      exact split.map OrderedProduct.line
    · rw [orders, List.forall_mem_append]
      exact ⟨picked.totals, delivered.totals⟩

theorem exists_toFormData (selected : slider.Selected)
    (priced : ∀ item ∈ slider.products, item.price.isSome = true)
    (policies : ∀ item ∈ slider.products, item.policy.isSome = true) :
    ∃ form, slider.toFormData id = some form := by
  obtain ⟨contacts, stored, chosen⟩ := selected.contact
  obtain ⟨persons, known, person⟩ := selected.person
  have group : ∀ mode, ∀ item ∈ slider.items mode, item.price.isSome = true :=
    fun mode item member => priced item (List.mem_of_mem_filter member)
  have mapped : ∀ mode, ∃ items,
      (slider.items mode).mapM OrderedProduct.postedWithPolicy = some items :=
    fun mode => exists_mapM_postedWithPolicy fun item member =>
      policies item (List.mem_of_mem_filter member)
  refine exists_bind_eq_some ⟨contacts, stored⟩ fun _ same => ?_
  cases stored.symm.trans same
  refine exists_bind_eq_some (Option.isSome_iff_exists.mp (List.find?_isSome.mpr chosen))
    fun _ _ => ?_
  refine exists_bind_eq_some (exists_group? (group .pickup) fun there total => ?_) fun _ _ => ?_
  · refine exists_bind_eq_some ⟨persons, known⟩ fun _ same => ?_
    cases known.symm.trans same
    refine exists_bind_eq_some
      (Option.isSome_iff_exists.mp (List.find?_isSome.mpr (person there))) fun _ _ => ?_
    exact exists_bind_eq_some (mapped .pickup) fun _ _ => ⟨_, rfl⟩
  refine exists_bind_eq_some (exists_group? (group .delivery) fun _ total => ?_) fun _ _ => ?_
  · exact exists_bind_eq_some (mapped .delivery) fun _ _ => ⟨_, rfl⟩
  exact exists_bind_eq_some ⟨persons, known⟩ fun _ _ => ⟨_, rfl⟩

/-- Nothing is posted of an empty screen. -/
theorem orders_nil {mode : Mode} {flag : Option Bool} {posted : OrderedProduct → PostedItem}
    {policy : Option String → Prop} {orders : List PostedOrder}
    (groups : slider.Groups id mode flag posted policy orders) (empty : slider.items mode = []) :
    orders = [] := by
  rcases groups with ⟨_, nothing⟩ | ⟨there, _⟩
  · exact nothing
  · exact absurd empty there

/-- One encoder posts the policy of every item, and the other one posts none. -/
theorem contents_disjoint {form card : FormData} (posted : slider.toFormData id = some form)
    (encoded : slider.toFormDataCard id = some card)
    (same : ∀ content, content ∈ form.orders.map PostedOrder.content ↔
      content ∈ card.orders.map PostedOrder.content) :
    card.orders.flatMap PostedOrder.lines = [] := by
  obtain ⟨pickups, deliveries, orders, picked, delivered, _⟩ := toFormData_orders posted
  obtain ⟨pickups', deliveries', reservations', orders', picked', delivered', reserved'⟩ :=
    toFormDataCard_orders encoded
  have given : ∀ order ∈ form.orders, ∀ item ∈ order.items, item.policy.isSome = true := by
    rw [orders, List.forall_mem_append]
    exact ⟨picked.policies, delivered.policies⟩
  have unset : ∀ order ∈ card.orders, ∀ item ∈ order.items, item.policy = none := by
    rw [orders', List.forall_mem_append, List.forall_mem_append]
    exact ⟨⟨picked'.policies, delivered'.policies⟩, reserved'.policies⟩
  rw [List.flatMap_eq_nil_iff]
  intro order member
  refine List.map_eq_nil_iff.mpr (List.eq_nil_iff_forall_not_mem.mpr fun item there => ?_)
  obtain ⟨other, found, matched⟩ :=
    List.mem_map.mp ((same order.content).mpr (List.mem_map_of_mem member))
  have items : other.items = order.items := congrArg OrderContent.items matched
  have some_policy := given other found item (items ▸ there)
  rw [unset order member item there] at some_policy
  cases some_policy

/-- Item policies included, the encoders agree on the empty screen only.  These and the
flag apart, they agree exactly when every product has a price and a policy and none is
reserved. -/
theorem encodersAgree_iff (slider : OrderSliderValidation) (id : ObjectId)
    (modes : ∀ item ∈ slider.products, ∃! mode : Mode, mode.takes item.toProductCart = true)
    (selected : slider.Selected) :
    (EncodersAgree PostedOrder.content slider id ↔ slider.products = []) ∧
      (EncodersAgree PostedOrder.plainContent slider id ↔
        ∀ item ∈ slider.products,
          item.price.isSome = true ∧ item.policy.isSome = true ∧ item.reservation = false) := by
  refine ⟨⟨?_, fun empty => ?_⟩, ?_, fun sold => ?_⟩
  · rintro ⟨form, card, posted, encoded, _, complete, same⟩
    have nothing := complete.products
    rw [contents_disjoint posted encoded same] at nothing
    exact List.map_eq_nil_iff.mp nothing.nil_eq.symm
  · have all : ∀ {Holds : OrderedProduct → Prop}, ∀ item ∈ slider.products, Holds item := by
      rw [empty]
      exact List.forall_mem_nil _
    have none_had : ∀ mode, slider.items mode = [] := fun mode => by
      rw [OrderSliderValidation.items, empty, List.filter_nil]
    obtain ⟨form, posted⟩ := exists_toFormData selected all all
    obtain ⟨card, encoded⟩ := exists_toFormDataCard all
    obtain ⟨pickups, deliveries, orders, picked, delivered, _⟩ := toFormData_orders posted
    obtain ⟨pickups', deliveries', reservations', orders', picked', delivered', reserved'⟩ :=
      toFormDataCard_orders encoded
    refine ⟨form, card, posted, encoded,
      (toFormData_complete_iff modes posted).mpr (none_had .reservation),
      toFormDataCard_complete modes encoded, fun content => ?_⟩
    rw [orders, orders', orders_nil picked (none_had _), orders_nil delivered (none_had _),
      orders_nil picked' (none_had _), orders_nil delivered' (none_had _),
      orders_nil reserved' (none_had _)]
    rfl
  · rintro ⟨form, card, posted, encoded, complete, _, _⟩ item member
    have unreserved := (toFormData_complete_iff modes posted).mp complete
    obtain ⟨pickups, deliveries, _, picked, delivered, withPickup, withDelivery⟩ :=
      toFormData_orders posted
    obtain ⟨mode, taken, _⟩ := modes item member
    have there : item ∈ slider.items mode := List.mem_filter.mpr ⟨member, taken⟩
    cases mode with
    | pickup =>
        exact ⟨picked.priced item there, withPickup item there,
          unreserved_of_takes (by decide) taken⟩
    | delivery =>
        exact ⟨delivered.priced item there, withDelivery item there,
          unreserved_of_takes (by decide) taken⟩
    | reservation =>
        rw [unreserved] at there
        exact absurd there List.not_mem_nil
  · obtain ⟨form, posted⟩ := exists_toFormData selected
      (fun item member => (sold item member).1) fun item member => (sold item member).2.1
    obtain ⟨card, encoded⟩ : ∃ card, slider.toFormDataCard id = some card :=
      exists_toFormDataCard fun item member => (sold item member).1
    have unreserved : slider.items .reservation = [] := by
      refine List.filter_eq_nil_iff.mpr fun item member => ?_
      rw [Mode.takes, (sold item member).2.2]
      exact Bool.false_ne_true
    obtain ⟨pickups, deliveries, orders, picked, delivered, _⟩ := toFormData_orders posted
    obtain ⟨pickups', deliveries', reservations', orders', picked', delivered', reserved'⟩ :=
      toFormDataCard_orders encoded
    refine ⟨form, card, posted, encoded,
      (toFormData_complete_iff modes posted).mpr unreserved,
      toFormDataCard_complete modes encoded, fun content => ?_⟩
    rw [orders, orders', orders_nil reserved' unreserved, List.append_nil, List.map_append,
      List.map_append, picked.plainContent picked' rfl, delivered.plainContent delivered' rfl]

end Encoders

/-! ## A reserved product -/

/-- Two products with a policy; the second one can be reserved. -/
def basket (reserved : Bool) : OrderSliderValidation where
  products := [
    { id := some "a", productId := some "20", variantId := some "a", price := some 100
      quantity := 2, discount := 0, reservation := false, reservationP := 0, delivery := false
      deliveryP := 0, pickup := true, reservationPolicy := true, deliveryPolicy := true
      pickupPolicy := true, name := some "lamp", image := none, policy := some "\x7b\x7d" },
    { id := some "b", productId := some "21", variantId := some "b", price := some 40
      quantity := 1, discount := 0, reservation := reserved, reservationP := 1 / 4
      delivery := true, deliveryP := 0, pickup := false, reservationPolicy := true
      deliveryPolicy := true, pickupPolicy := true, name := some "rug", image := none
      policy := some "\x7b\x7d" }]
  cartId := some "10"
  storeId := some 10
  orderId := none
  cardNumber := none
  expdate := none
  cvc := none
  name := none
  phone := none
  city := none
  street := none
  street2 := none
  postalCode := none
  pickupName := none
  pickupNif := none
  deliveryAdresse := none
  distance := none
  totalDelivery := some 0
  pickupPersons := some [⟨"Ada", true⟩]
  infosContact := some [⟨⟨some "Ada", none, none, none, none, none⟩, true⟩]

theorem basket_oneMode (reserved : Bool) : ∀ item ∈ (basket reserved).products,
    ∃! mode : Mode, mode.takes item.toProductCart = true := by
  rw [basket, List.forall_mem_cons, List.forall_mem_singleton]
  constructor
  · refine ⟨.pickup, rfl, fun mode taken => ?_⟩
    cases mode with
    | pickup => rfl
    | delivery => cases taken
    | reservation => cases taken
  · cases reserved with
    | false =>
        refine ⟨.delivery, rfl, fun mode taken => ?_⟩
        cases mode with
        | pickup => cases taken
        | delivery => rfl
        | reservation => cases taken
    | true =>
        refine ⟨.reservation, rfl, fun mode taken => ?_⟩
        cases mode with
        | pickup => cases taken
        | delivery => cases taken
        | reservation => rfl

theorem basket_selected (reserved : Bool) : (basket reserved).Selected :=
  ⟨⟨_, rfl, _, List.mem_singleton_self _, rfl⟩,
    ⟨_, rfl, fun _ => ⟨_, List.mem_singleton_self _, rfl⟩⟩⟩

theorem basket_agree_iff :
    (EncodersAgree PostedOrder.content (basket false) 1 ↔ (basket false).products = []) ∧
      (EncodersAgree PostedOrder.plainContent (basket false) 1 ↔
        ∀ item ∈ (basket false).products,
          item.price.isSome = true ∧ item.policy.isSome = true ∧ item.reservation = false) :=
  encodersAgree_iff (basket false) 1 (basket_oneMode false) (basket_selected false)

/-- The reserved product is posted with the card, and not otherwise. -/
theorem reserved_not_posted :
    (∀ item ∈ (basket true).products, ∃! mode : Mode, mode.takes item.toProductCart = true) ∧
      (basket true).Selected ∧
      ((basket true).toFormData 1).map (fun form => form.orders.flatMap PostedOrder.lines) =
        some [⟨"20", "a", some 100, 0, 2⟩] ∧
      ((basket true).toFormDataCard 1).map (fun form => form.orders.flatMap PostedOrder.lines) =
        some [⟨"20", "a", some 100, 0, 2⟩, ⟨"21", "b", some 40, 0, 1⟩] ∧
      ¬ EncodersAgree PostedOrder.content (basket true) 1 ∧
      ¬ EncodersAgree PostedOrder.plainContent (basket true) 1 := by
  refine ⟨basket_oneMode true, basket_selected true, by decide +kernel, by decide +kernel, ?_, ?_⟩
  · rintro ⟨form, card, posted, _, complete, _⟩
    exact absurd ((toFormData_complete_iff (basket_oneMode true) posted).mp complete)
      (by decide +kernel)
  · rintro ⟨form, card, posted, _, complete, _⟩
    exact absurd ((toFormData_complete_iff (basket_oneMode true) posted).mp complete)
      (by decide +kernel)

end Proximity.Apps.Client
