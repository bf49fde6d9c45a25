import Proximity.Apps.CartBoxes
import Proximity.Systems.Run

/-!
# The keys of the stored cart

A cart lists the variants of the items of its store.  Two calls can break that: a product
that is put under another store than its own, and a deleted item whose cart has others.
-/

namespace Proximity.Apps.Client

open Proximity.Systems Proximity.Models

/-- Every cart lists the items of its store, each once, and every item has its cart. -/
structure WellFormed (boxes : Boxes) : Prop where
  nonempty : ∀ cart ∈ boxes.carts.docs, cart.cartItemsKeys ≠ []
  distinct : ∀ cart ∈ boxes.carts.docs, cart.cartItemsKeys.Nodup
  listed : ∀ cart ∈ boxes.carts.docs, ∀ key, key ∈ cart.cartItemsKeys.map some ↔
    ∃ item ∈ boxes.items.docs, item.variantId = key ∧ item.storeId = some cart.storeId
  owned : ∀ item ∈ boxes.items.docs, ∃ cart ∈ boxes.carts.docs, item.storeId = some cart.storeId

/-- What the app has in memory is well formed, and what it would find on disk. -/
def StoredWell (device : Device) : Prop := WellFormed device.memory ∧ WellFormed device.disk

/-- Nothing is unsaved. -/
structure Sound (device : Device) : Prop where
  saved : device.disk = device.memory
  wellFormed : WellFormed device.memory

theorem Sound.storedWell {device : Device} (sound : Sound device) : StoredWell device :=
  ⟨sound.wellFormed, sound.saved.symm ▸ sound.wellFormed⟩

section Boxes

variable {boxes : Boxes} (wellFormed : WellFormed boxes)

include wellFormed

/-- An item that stays with its store may change in anything else. -/
theorem WellFormed.putItem {item before : CartItem} (stored : before ∈ boxes.items.docs)
    (named : before.variantId = item.variantId) (same : item.storeId = before.storeId) :
    WellFormed (boxes.putItem item) := by
  refine ⟨wellFormed.nonempty, wellFormed.distinct, fun cart cart_stored key => ?_,
    fun other other_stored => ?_⟩
  · rw [wellFormed.listed cart cart_stored]
    constructor
    · rintro ⟨other, other_stored, key_of, store_of⟩
      by_cases here : other.variantId = item.variantId
      · have one : other = before :=
          Collection.eq_of_id_eq other_stored stored (here.trans named.symm)
        subst one
        exact ⟨item, Collection.mem_put.mpr (Or.inr rfl), here.symm.trans key_of,
          same.trans store_of⟩
      · exact ⟨other, Collection.mem_put.mpr (Or.inl ⟨other_stored, here⟩), key_of, store_of⟩
    · rintro ⟨other, other_stored, key_of, store_of⟩
      rcases Collection.mem_put.mp other_stored with ⟨old, -⟩ | rfl
      · exact ⟨other, old, key_of, store_of⟩
      · exact ⟨before, stored, named.trans key_of, same.symm.trans store_of⟩
  · rcases Collection.mem_put.mp other_stored with ⟨old, -⟩ | rfl
    · exact wellFormed.owned other old
    · rw [same]
      exact wellFormed.owned before stored

/-- A cart that keeps its keys may change in anything else. -/
theorem WellFormed.putCart {cart before : Cart} (stored : before ∈ boxes.carts.docs)
    (named : before.storeId = cart.storeId) (same : cart.cartItemsKeys = before.cartItemsKeys) :
    WellFormed (boxes.putCart cart) := by
  constructor
  · intro other other_stored
    rcases Collection.mem_put.mp other_stored with ⟨old, -⟩ | rfl
    · exact wellFormed.nonempty other old
    · rw [same]
      exact wellFormed.nonempty before stored
  · intro other other_stored
    rcases Collection.mem_put.mp other_stored with ⟨old, -⟩ | rfl
    · exact wellFormed.distinct other old
    · rw [same]
      exact wellFormed.distinct before stored
  · intro other other_stored key
    rcases Collection.mem_put.mp other_stored with ⟨old, -⟩ | rfl
    · exact wellFormed.listed other old key
    · rw [same, ← named]
      exact wellFormed.listed before stored key
  · intro item item_stored
    obtain ⟨other, other_stored, store_of⟩ := wellFormed.owned item item_stored
    by_cases here : other.storeId = cart.storeId
    · exact ⟨cart, Collection.mem_put.mpr (Or.inr rfl), here ▸ store_of⟩
    · exact ⟨other, Collection.mem_put.mpr (Or.inl ⟨other_stored, here⟩), store_of⟩

/-- A cart goes away with all items of its store. -/
theorem WellFormed.without {after : Boxes} {storeId : ObjectId}
    (carts : after.carts = boxes.carts.delete storeId)
    (items : ∀ item, item ∈ after.items.docs ↔
      item ∈ boxes.items.docs ∧ item.storeId ≠ some storeId) : WellFormed after := by
  have left : ∀ cart, cart ∈ after.carts.docs ↔
      cart ∈ boxes.carts.docs ∧ cart.storeId ≠ storeId := by
    intro cart
    rw [carts]
    exact Collection.mem_delete
  refine ⟨fun cart stays => wellFormed.nonempty cart ((left cart).mp stays).1,
    fun cart stays => wellFormed.distinct cart ((left cart).mp stays).1,
    fun cart stays key => ?_, fun item stays => ?_⟩
  · obtain ⟨stored, other⟩ := (left cart).mp stays
    rw [wellFormed.listed cart stored]
    constructor
    · rintro ⟨item, item_stored, key_of, store_of⟩
      refine ⟨item, (items item).mpr ⟨item_stored, fun gone => ?_⟩, key_of, store_of⟩
      exact other (Option.some.inj (store_of.symm.trans gone))
    · rintro ⟨item, item_stays, key_of, store_of⟩
      exact ⟨item, ((items item).mp item_stays).1, key_of, store_of⟩
  · obtain ⟨item_stored, elsewhere⟩ := (items item).mp stays
    obtain ⟨cart, stored, store_of⟩ := wellFormed.owned item item_stored
    refine ⟨cart, (left cart).mpr ⟨stored, ?_⟩, store_of⟩
    rintro rfl
    exact elsewhere store_of

end Boxes

section Devices

variable {device : Device} (sound : Sound device)

include sound

theorem Sound.putItem {item before : CartItem} (stored : before ∈ device.memory.items.docs)
    (named : before.variantId = item.variantId) (same : item.storeId = before.storeId) :
    Sound (device.putItem item) :=
  ⟨congrArg (fun boxes => boxes.putItem item) sound.saved,
    sound.wellFormed.putItem stored named same⟩

theorem Sound.putCart {cart before : Cart} (stored : before ∈ device.memory.carts.docs)
    (named : before.storeId = cart.storeId) (same : cart.cartItemsKeys = before.cartItemsKeys) :
    Sound (device.putCart cart) :=
  ⟨congrArg (fun boxes => boxes.putCart cart) sound.saved,
    sound.wellFormed.putCart stored named same⟩

theorem Sound.addQuantity (key : String) : Sound (device.addQuantity key) := by
  unfold Device.addQuantity
  split
  case h_1 item found =>
      exact sound.putItem (Collection.findById?_eq_some_iff.mp found).1 rfl rfl
  case h_2 => exact sound

theorem Sound.subtractQuantity (key : String) : Sound (device.subtractQuantity key) := by
  unfold Device.subtractQuantity
  split
  case h_1 item found =>
      have stored := (Collection.findById?_eq_some_iff.mp found).1
      split
      case isTrue => exact sound.putItem stored rfl rfl
      case isFalse => exact sound.putItem stored rfl rfl
  case h_2 => exact sound

theorem Sound.checkCart (item : CartItem) : Sound (device.checkCart item) := by
  unfold Device.checkCart
  split
  case h_1 => exact sound
  case h_2 cart found =>
      obtain ⟨storeId, -, here⟩ := Option.bind_eq_some_iff.mp found
      have stored := (Collection.findById?_eq_some_iff.mp here).1
      split
      case isTrue => exact sound.putCart stored rfl rfl
      case isFalse =>
          split
          case h_1 => exact sound
          case h_2 =>
              split
              case isTrue => exact sound.putCart stored rfl rfl
              case isFalse => exact sound.putCart stored rfl rfl

theorem Sound.checkOrderedProduct (key : String) : Sound (device.checkOrderedProduct key) := by
  unfold Device.checkOrderedProduct
  split
  case h_1 item found =>
      have stored := (Collection.findById?_eq_some_iff.mp found).1
      have toggled : Sound (device.putItem { item with checked := !item.checked }) :=
        sound.putItem stored rfl rfl
      exact toggled.checkCart _
  case h_2 => exact sound

/-- The loop goes over items that stay in their box with their stores. -/
theorem Sound.checkItems (storeId : ObjectId) (checked : Bool) {items : List CartItem}
    (kept : ∀ item ∈ items, ∃ before ∈ device.memory.items.docs,
      before.variantId = item.variantId ∧ item.storeId = before.storeId) :
    Sound (device.checkItems storeId checked items) := by
  induction items generalizing device with
  | nil => exact sound
  | cons item rest ih =>
      obtain ⟨⟨before, stored, named, same⟩, later⟩ := List.forall_mem_cons.mp kept
      unfold Device.checkItems
      rw [List.foldl_cons]
      split
      case isTrue =>
          refine ih (sound.putItem stored named same) fun other member => ?_
          obtain ⟨earlier, earlier_stored, key_of, store_of⟩ := later other member
          by_cases here : earlier.variantId = item.variantId
          · have one : earlier = before :=
              Collection.eq_of_id_eq earlier_stored stored (here.trans named.symm)
            subst one
            exact ⟨{ item with checked := checked }, Collection.mem_put.mpr (Or.inr rfl),
              here.symm.trans key_of, store_of.trans same.symm⟩
          · exact ⟨earlier, Collection.mem_put.mpr (Or.inl ⟨earlier_stored, here⟩), key_of,
              store_of⟩
      case isFalse => exact ih sound later

theorem Sound.checkAllOrderedProducts (storeId : ObjectId) :
    Sound (device.checkAllOrderedProducts storeId) := by
  unfold Device.checkAllOrderedProducts
  split
  case h_1 cart found =>
      have stored := (Collection.findById?_eq_some_iff.mp found).1
      have toggled : Sound (device.putCart { cart with checked := !cart.checked }) :=
        sound.putCart stored rfl rfl
      exact toggled.checkItems storeId _ fun item member => ⟨item, member, rfl, rfl⟩
  case h_2 => exact sound

theorem Sound.deleteOrderFromCart (storeId : ObjectId) :
    Sound (device.deleteOrderFromCart storeId) := by
  constructor
  · unfold Device.deleteOrderFromCart Device.deleteAllItems Device.deleteCart
    rw [sound.saved]
  · refine sound.wellFormed.without rfl fun item => Collection.mem_deleteMany.trans ?_
    rw [decide_eq_false_iff_not, List.mem_map]
    refine and_congr_right fun stored => not_congr ?_
    constructor
    · rintro ⟨other, chosen, key_of⟩
      obtain ⟨other_stored, store_of⟩ := List.mem_filter.mp chosen
      rw [← Collection.eq_of_id_eq other_stored stored key_of]
      exact of_decide_eq_true store_of
    · exact fun store_of => ⟨item, List.mem_filter.mpr ⟨stored, decide_eq_true store_of⟩, rfl⟩

end Devices

/-! ## The two calls that can break a cart -/

/-- The keys of a store's cart, if it has one. -/
def Boxes.keysOf (boxes : Boxes) (storeId : ObjectId) : List String :=
  (boxes.carts.findById? storeId).elim [] Cart.cartItemsKeys

section Additions

variable {boxes : Boxes} (wellFormed : WellFormed boxes)

include wellFormed

theorem WellFormed.keysOf (storeId : ObjectId) :
    (boxes.keysOf storeId).Nodup ∧ ∀ key, key ∈ (boxes.keysOf storeId).map some ↔
      ∃ item ∈ boxes.items.docs, item.variantId = key ∧ item.storeId = some storeId := by
  unfold Boxes.keysOf
  cases found : boxes.carts.findById? storeId with
  | none =>
      refine ⟨List.nodup_nil, fun key => iff_of_false List.not_mem_nil ?_⟩
      rintro ⟨item, stored, -, store_of⟩
      obtain ⟨cart, cart_stored, own⟩ := wellFormed.owned item stored
      exact Collection.findById?_eq_none_iff.mp found cart cart_stored
        (Option.some.inj (own.symm.trans store_of))
  | some cart =>
      obtain ⟨stored, rfl⟩ := Collection.findById?_eq_some_iff.mp found
      exact ⟨wellFormed.distinct cart stored, wellFormed.listed cart stored⟩

variable {item : CartItem} {key : String}
  (fresh : boxes.items.findById? (some key) = none) (named : item.variantId = some key)

include fresh

/-- A key that is not in the box is in no cart. -/
theorem WellFormed.unlisted {cart : Cart} (stored : cart ∈ boxes.carts.docs) :
    key ∉ cart.cartItemsKeys := by
  intro listed
  obtain ⟨other, other_stored, key_of, -⟩ :=
    (wellFormed.listed cart stored (some key)).mp (List.mem_map_of_mem listed)
  exact Collection.findById?_eq_none_iff.mp fresh other other_stored key_of

include named

theorem WellFormed.add {cart : Cart} (own : item.storeId = some cart.storeId)
    (keys : cart.cartItemsKeys = boxes.keysOf cart.storeId ++ [key]) :
    WellFormed ((boxes.putItem item).putCart cart) := by
  obtain ⟨distinct, listed⟩ := wellFormed.keysOf cart.storeId
  have stored_iff : ∀ other, other ∈ (boxes.items.put item).docs ↔
      other ∈ boxes.items.docs ∨ other = item := by
    intro other
    rw [Collection.mem_put]
    refine or_congr_left (and_iff_left_of_imp fun stored same => ?_)
    exact Collection.findById?_eq_none_iff.mp fresh other stored (same.trans named)
  have unlisted : key ∉ boxes.keysOf cart.storeId := by
    intro member
    obtain ⟨other, stored, key_of, -⟩ := (listed (some key)).mp (List.mem_map_of_mem member)
    exact Collection.findById?_eq_none_iff.mp fresh other stored key_of
  constructor
  · intro other stored
    rcases Collection.mem_put.mp stored with ⟨old, -⟩ | rfl
    · exact wellFormed.nonempty other old
    · rw [keys]
      exact List.concat_ne_nil key _
  · intro other stored
    rcases Collection.mem_put.mp stored with ⟨old, -⟩ | rfl
    · exact wellFormed.distinct other old
    · rw [keys, ← List.concat_eq_append]
      exact distinct.concat unlisted
  · intro other stored other_key
    have items_iff : (∃ one ∈ (boxes.items.put item).docs,
          one.variantId = other_key ∧ one.storeId = some other.storeId) ↔
        (∃ one ∈ boxes.items.docs,
          one.variantId = other_key ∧ one.storeId = some other.storeId) ∨
        (some key = other_key ∧ cart.storeId = other.storeId) := by
      simp only [stored_iff, or_and_right, exists_or, exists_eq_left, named, own,
        Option.some.injEq]
    refine Iff.trans ?_ items_iff.symm
    rcases Collection.mem_put.mp stored with ⟨old, elsewhere⟩ | rfl
    · rw [wellFormed.listed other old, or_iff_left fun both => elsewhere both.2.symm]
    · rw [keys, List.map_append, List.mem_append, listed, List.map_singleton,
        List.mem_singleton, and_iff_left rfl, eq_comm (a := other_key)]
  · intro other stored
    rcases (stored_iff other).mp stored with old | rfl
    · obtain ⟨owner, owner_stored, store_of⟩ := wellFormed.owned other old
      by_cases here : owner.storeId = cart.storeId
      · exact ⟨cart, Collection.mem_put.mpr (Or.inr rfl), here ▸ store_of⟩
      · exact ⟨owner, Collection.mem_put.mpr (Or.inl ⟨owner_stored, here⟩), store_of⟩
    · exact ⟨cart, Collection.mem_put.mpr (Or.inr rfl), own⟩

/-- An item whose store's cart does not get its key. -/
theorem WellFormed.not_putItem : ¬ WellFormed (boxes.putItem item) := by
  intro later
  have here : item ∈ (boxes.putItem item).items.docs := Collection.mem_put.mpr (Or.inr rfl)
  obtain ⟨cart, stored, own⟩ := later.owned item here
  have listed := (later.listed cart stored item.variantId).mpr ⟨item, here, rfl, own⟩
  rw [named, List.mem_map_of_injective (Option.some_injective _)] at listed
  exact wellFormed.unlisted fresh stored listed

omit wellFormed named in
/-- A cart that gets the key of another store's item. -/
theorem WellFormed.not_add {cart : Cart} (other : item.storeId ≠ some cart.storeId)
    (listed : key ∈ cart.cartItemsKeys) :
    ¬ WellFormed ((boxes.putItem item).putCart cart) := by
  intro later
  have here : cart ∈ ((boxes.putItem item).putCart cart).carts.docs :=
    Collection.mem_put.mpr (Or.inr rfl)
  obtain ⟨found, stored, key_of, own⟩ :=
    (later.listed cart here (some key)).mp (List.mem_map_of_mem listed)
  rcases Collection.mem_put.mp stored with ⟨old, -⟩ | rfl
  · exact Collection.findById?_eq_none_iff.mp fresh found old key_of
  · exact other own

end Additions

/-- What a call has to be for the stored cart to stay well formed: a new item is put into
the cart of its product's store, and a deleted item is the last of its cart. -/
def BoxCall.KeepsCart (device : Device) : BoxCall → Prop
  | .addToCart selection (some store) _ => ∀ key, selection.variantId = some key →
      device.memory.items.findById? (some key) = none →
        ∃ storeId, store.id = some storeId ∧ selection.storeId = some storeId
  | .deleteItemFromCart key => ∀ item ∈ device.memory.items.docs, item.variantId = some key →
      ∀ cart ∈ device.memory.carts.docs, item.storeId = some cart.storeId →
        cart.cartItemsKeys = [key]
  | _ => True

/-- A call keeps everything saved and well formed, or leaves a cart that is not. -/
def Decided (target : Device) (keeps : Prop) : Prop :=
  (Sound target ∧ keeps) ∨ (¬ StoredWell target ∧ ¬ keeps)

/-- A new item is put into the box, and its key at the end of the store's cart. -/
theorem addToCart_new {device : Device} {selection : Selection} {store : Store} {key : String}
    {storeId : ObjectId} (quantity : Int) (named : selection.variantId = some key)
    (fresh : device.memory.items.findById? (some key) = none) (of : store.id = some storeId) :
    ∃ cart : Cart, cart.storeId = storeId ∧
      cart.cartItemsKeys = device.memory.keysOf storeId ++ [key] ∧
      device.addToCart selection (some store) quantity =
        (device.putItem (CartItem.fromProduct selection quantity true)).putCart cart := by
  have same : (device.putItem (CartItem.fromProduct selection quantity true)).memory.carts =
    device.memory.carts := rfl
  unfold Boxes.keysOf
  cases found : device.memory.carts.findById? storeId with
  | none =>
      refine ⟨⟨storeId, [key], true⟩, rfl, rfl, ?_⟩
      simp only [Device.addToCart, named, fresh, of, same, found]
  | some cart =>
      refine ⟨{ cart with cartItemsKeys := cart.cartItemsKeys ++ [key] },
        (Collection.findById?_eq_some_iff.mp found).2, rfl, ?_⟩
      simp only [Device.addToCart, named, fresh, of, same, found]

section Calls

variable {device : Device} (sound : Sound device)

include sound

theorem addToCart_decided (selection : Selection) (store : Option Store) (quantity : Int) :
    Decided (device.addToCart selection store quantity)
      ((BoxCall.addToCart selection store quantity).KeepsCart device) := by
  cases store with
  | none => exact Or.inl ⟨sound, trivial⟩
  | some store =>
      cases found : device.memory.items.findById? selection.variantId with
      | some item =>
          simp only [Device.addToCart, found]
          refine Or.inl ⟨sound.putItem (Collection.findById?_eq_some_iff.mp found).1 rfl rfl, ?_⟩
          intro key named missing
          rw [named, missing] at found
          cases found
      | none =>
          cases named : selection.variantId with
          | none =>
              rw [named] at found
              simp only [Device.addToCart, named, found]
              refine Or.inl ⟨sound, fun key same => ?_⟩
              cases named.symm.trans same
          | some key =>
              rw [named] at found
              cases of : store.id with
              | none =>
                  simp only [Device.addToCart, named, found, of]
                  refine Or.inr ⟨fun later => sound.wellFormed.not_putItem found named later.1, ?_⟩
                  intro keeps
                  obtain ⟨storeId, some_of, -⟩ := keeps key named found
                  cases of.symm.trans some_of
              | some storeId =>
                  obtain ⟨cart, rfl, keys, added⟩ := addToCart_new quantity named found of
                  rw [added]
                  by_cases own : selection.storeId = some cart.storeId
                  · refine Or.inl ⟨⟨?_, sound.wellFormed.add found named own keys⟩, ?_⟩
                    · exact congrArg (fun boxes => (Boxes.putItem boxes
                        (CartItem.fromProduct selection quantity true)).putCart cart) sound.saved
                    · exact fun _ _ _ => ⟨cart.storeId, of, own⟩
                  · have listed : key ∈ cart.cartItemsKeys := by
                      rw [keys]
                      exact List.mem_append_right _ (List.mem_singleton.mpr rfl)
                    refine Or.inr ⟨fun later => WellFormed.not_add found own listed later.1, ?_⟩
                    intro keeps
                    obtain ⟨other, other_of, store_of⟩ := keeps key named found
                    cases of.symm.trans other_of
                    exact own store_of

theorem deleteItemFromCart_decided (key : String) :
    Decided (device.deleteItemFromCart key)
      ((BoxCall.deleteItemFromCart key).KeepsCart device) := by
  cases found : device.memory.items.findById? (some key) with
  | none =>
      simp only [Device.deleteItemFromCart, found]
      refine Or.inl ⟨sound, fun item stored named => ?_⟩
      exact absurd named (Collection.findById?_eq_none_iff.mp found item stored)
  | some item =>
      obtain ⟨stored, named⟩ := Collection.findById?_eq_some_iff.mp found
      obtain ⟨cart, cart_stored, own⟩ := sound.wellFormed.owned item stored
      have here : item.storeId.bind device.memory.carts.findById? = some cart := by
        rw [own, Option.bind_some]
        exact Collection.findById?_eq_some_iff.mpr ⟨cart_stored, rfl⟩
      have listed : key ∈ cart.cartItemsKeys := by
        have mapped := (sound.wellFormed.listed cart cart_stored (some key)).mpr
          ⟨item, stored, named, own⟩
        rwa [List.mem_map_of_injective (Option.some_injective _)] at mapped
      have keeps_iff : (BoxCall.deleteItemFromCart key).KeepsCart device ↔
          cart.cartItemsKeys.erase key = [] := by
        rw [List.erase_eq_nil_iff, or_iff_right (List.ne_nil_of_mem listed)]
        constructor
        · exact fun keeps => keeps item stored named cart cart_stored own
        · intro last other other_stored other_named owner owner_stored other_own
          rw [Collection.eq_of_id_eq other_stored stored (other_named.trans named.symm), own]
            at other_own
          rw [Collection.eq_of_id_eq owner_stored cart_stored (Option.some.inj other_own).symm]
          exact last
      simp only [Device.deleteItemFromCart, found, here]
      rw [keeps_iff]
      split
      case isTrue last =>
          have only : cart.cartItemsKeys = [key] :=
            (List.erase_eq_nil_iff.mp last).resolve_left (List.ne_nil_of_mem listed)
          refine Or.inl ⟨⟨?_, ?_⟩, last⟩
          · simp only [Device.deleteItem, Device.deleteCart, Device.changeCart, Boxes.deleteItem,
              Boxes.deleteCart, Collection.delete_update, sound.saved]
          · refine sound.wellFormed.without (Collection.delete_update _ _ _) fun other =>
              Collection.mem_delete.trans (and_congr_right fun other_stored => not_congr ?_)
            constructor
            · intro other_named
              rw [Collection.eq_of_id_eq other_stored stored (other_named.trans named.symm)]
              exact own
            · intro other_own
              have member := (sound.wellFormed.listed cart cart_stored other.variantId).mpr
                ⟨other, other_stored, rfl, other_own⟩
              rw [only] at member
              exact List.mem_singleton.mp member
      case isFalse more =>
          refine Or.inr ⟨fun later => ?_, more⟩
          have disk_stored : cart ∈ (device.disk.deleteItem (some key)).carts.docs :=
            sound.saved.symm ▸ cart_stored
          obtain ⟨other, other_stored, other_named, -⟩ :=
            (later.2.listed cart disk_stored (some key)).mp (List.mem_map_of_mem listed)
          exact (Collection.mem_delete.mp other_stored).2 other_named

theorem boxStep_decided {target : Device} {call : BoxCall}
    (stepped : boxStep? device call = some target) : Decided target (call.KeepsCart device) := by
  cases call with
  | addToCart selection store quantity =>
      cases stepped
      exact addToCart_decided sound selection store quantity
  | addQuantity key =>
      cases stepped
      exact Or.inl ⟨sound.addQuantity key, trivial⟩
  | subtractQuantity key =>
      cases stepped
      exact Or.inl ⟨sound.subtractQuantity key, trivial⟩
  | checkOrderedProduct key =>
      cases stepped
      exact Or.inl ⟨sound.checkOrderedProduct key, trivial⟩
  | checkAllOrderedProducts storeId =>
      cases stepped
      exact Or.inl ⟨sound.checkAllOrderedProducts storeId, trivial⟩
  | deleteItemFromCart key =>
      cases stepped
      exact deleteItemFromCart_decided sound key
  | deleteOrderFromCart storeId =>
      cases stepped
      exact Or.inl ⟨sound.deleteOrderFromCart storeId, trivial⟩
  | restart =>
      cases stepped
      exact Or.inl ⟨⟨rfl, sound.storedWell.2⟩, trivial⟩

end Calls

/-! ## Runs -/

def KeepsCart (source : Device) (call : BoxCall) (_ : Device) : Prop := call.KeepsCart source

/-- The stored cart is well formed in every state of a run, restarts included, exactly when
every call of the run keeps it so. -/
theorem storedWell_iff_keepsCart {device : Device} (sound : Sound device) (calls : List BoxCall) :
    Always boxStep? StoredWell device calls ↔ EveryStep boxStep? KeepsCart device calls := by
  have exact_step : ∀ source call target, Sound source → boxStep? source call = some target →
      (Sound target ↔ KeepsCart source call target) := by
    intro source call target sound stepped
    rcases boxStep_decided sound stepped with ⟨later, keeps⟩ | ⟨broken, breaks⟩
    · exact iff_of_true later keeps
    · exact iff_of_false (fun later => broken later.storedWell) breaks
  rw [← always_iff_everyStep exact_step sound]
  constructor
  · refine Always.strengthen (fun source call target sound stepped later => ?_) sound
    exact (boxStep_decided sound stepped).elim And.left fun both => absurd later both.1
  · exact fun always => always.mono fun _ => Sound.storedWell

/-! ## A cart of two items -/

def emptyDevice : Device :=
  ⟨⟨Collection.empty, Collection.empty⟩, ⟨Collection.empty, Collection.empty⟩⟩

theorem emptyDevice_sound : Sound emptyDevice :=
  ⟨rfl, List.forall_mem_nil _, List.forall_mem_nil _, List.forall_mem_nil _,
    List.forall_mem_nil _⟩

/-- A variant of store 10, as it is shown there. -/
def shownVariant (variantId : String) : Selection where
  product := ⟨some 5, 0, none, none⟩
  storeId := some 10
  variantId := some variantId
  price := some 5

def addsShown (variantId : String) : BoxCall :=
  .addToCart (shownVariant variantId) (some ⟨some 10⟩) 1

theorem emptied_storedWell_iff :
    Always boxStep? StoredWell emptyDevice
        [addsShown "a", .addQuantity "a", .deleteItemFromCart "a", .restart] ↔
      EveryStep boxStep? KeepsCart emptyDevice
        [addsShown "a", .addQuantity "a", .deleteItemFromCart "a", .restart] :=
  storedWell_iff_keepsCart emptyDevice_sound _

/-- After the restart the cart lists the deleted item again. -/
theorem shortened_not_storedWell :
    Sound emptyDevice ∧
      ¬ Always boxStep? StoredWell emptyDevice
        [addsShown "a", addsShown "b", .deleteItemFromCart "a", .restart] := by
  refine ⟨emptyDevice_sound, fun always => ?_⟩
  have reached : ∃ target, run? boxStep? emptyDevice
      [addsShown "a", addsShown "b", .deleteItemFromCart "a", .restart] = some target ∧
      target.memory.carts.findById? 10 = some ⟨10, ["a", "b"], true⟩ ∧
      target.memory.items.findById? (some "a") = none :=
    ⟨_, rfl, by decide +kernel, by decide +kernel⟩
  obtain ⟨target, run, cart, missing⟩ := reached
  obtain ⟨wellFormed, -⟩ := always.target run
  have stored := (Collection.findById?_eq_some_iff.mp cart).1
  have listed : "a" ∈ ["a", "b"] := List.mem_cons_self
  exact wellFormed.unlisted missing stored listed

end Proximity.Apps.Client
