import Proximity.Apps.StoredCart
import Proximity.Systems.Checks

/-!
# The check of a stored cart

A cart is checked when all items of its store are.  The flag is set along with the items one
way and another, but not when an item is deleted.
-/

namespace Proximity.Apps.Client

open Proximity.Systems Proximity.Models

/-- A cart is checked exactly when every item of its store is. -/
def Mirrors (boxes : Boxes) : Prop :=
  ∀ cart ∈ boxes.carts.docs, (cart.checked = true ↔
    ∀ item ∈ boxes.items.docs, item.storeId = some cart.storeId → item.checked = true)

def StoredMirrors (device : Device) : Prop := Mirrors device.memory ∧ Mirrors device.disk

namespace Boxes

def flag (boxes : Boxes) (storeId : ObjectId) : Option Bool :=
  (boxes.carts.findById? storeId).map Cart.checked

def AllChecked (boxes : Boxes) (storeId : ObjectId) : Prop :=
  ∀ item ∈ boxes.items.docs, item.storeId = some storeId → item.checked = true

/-- The items of a store but the one under a key. -/
def OthersChecked (boxes : Boxes) (key : Option String) (storeId : ObjectId) : Prop :=
  ∀ item ∈ boxes.items.docs, item.variantId ≠ key → item.storeId = some storeId →
    item.checked = true

end Boxes

theorem mirrors_iff_flag {boxes : Boxes} :
    Mirrors boxes ↔ ∀ storeId checked, boxes.flag storeId = some checked →
      (checked = true ↔ boxes.AllChecked storeId) := by
  constructor
  · intro mirrors storeId checked flagged
    obtain ⟨cart, found, rfl⟩ := Option.map_eq_some_iff.mp flagged
    obtain ⟨stored, rfl⟩ := Collection.findById?_eq_some_iff.mp found
    exact mirrors cart stored
  · intro flags cart stored
    have found : boxes.carts.findById? cart.storeId = some cart :=
      Collection.findById?_eq_some_iff.mpr ⟨stored, rfl⟩
    exact flags cart.storeId cart.checked (by rw [Boxes.flag, found]; rfl)

theorem mirrors_congr {before after : Boxes} (flags : after.flag = before.flag)
    (items : ∀ storeId, after.AllChecked storeId ↔ before.AllChecked storeId) :
    Mirrors after ↔ Mirrors before := by
  rw [mirrors_iff_flag, mirrors_iff_flag, flags]
  simp only [items]

/-- What happens at one store is judged there. -/
theorem mirrors_iff_at {before after : Boxes} (mirrors : Mirrors before) (storeId : ObjectId)
    (elsewhere : ∀ other, other ≠ storeId → after.flag other = before.flag other ∧
      (after.AllChecked other ↔ before.AllChecked other)) :
    Mirrors after ↔ ∀ checked, after.flag storeId = some checked →
      (checked = true ↔ after.AllChecked storeId) := by
  rw [mirrors_iff_flag]
  refine ⟨fun after => after storeId, fun here other checked flagged => ?_⟩
  by_cases same : other = storeId
  · subst same
    exact here checked flagged
  · obtain ⟨flags, items⟩ := elsewhere other same
    rw [items]
    exact mirrors_iff_flag.mp mirrors other checked (flags ▸ flagged)

/-! ## What is put and deleted -/

namespace Boxes

variable (boxes : Boxes)

theorem flag_putItem (item : CartItem) : (boxes.putItem item).flag = boxes.flag := rfl

theorem flag_putCart (cart : Cart) (storeId : ObjectId) :
    (boxes.putCart cart).flag storeId =
      if storeId = cart.storeId then some cart.checked else boxes.flag storeId := by
  rw [flag, putCart, Collection.findById?_put, Cart.document_id]
  split <;> rfl

theorem flag_deleteCart (storeId other : ObjectId) :
    (boxes.deleteCart storeId).flag other =
      if other = storeId then none else boxes.flag other := by
  rw [flag, deleteCart, Collection.findById?_delete]
  split <;> rfl

variable {boxes} in
theorem flag_of_found {storeId : ObjectId} {cart : Cart}
    (found : boxes.carts.findById? storeId = some cart) :
    boxes.flag storeId = some cart.checked := by
  rw [flag, found]
  rfl

variable {boxes} in
/-- The cart of an item is the one of the item's store. -/
theorem owner_spec {item : CartItem} {cart : Cart}
    (owner : item.storeId.bind boxes.carts.findById? = some cart) :
    item.storeId = some cart.storeId ∧ cart ∈ boxes.carts.docs ∧
      boxes.carts.findById? cart.storeId = some cart := by
  obtain ⟨storeId, own, found⟩ := Option.bind_eq_some_iff.mp owner
  obtain ⟨stored, rfl⟩ := Collection.findById?_eq_some_iff.mp found
  exact ⟨own, stored, found⟩

theorem allChecked_putItem (item : CartItem) (storeId : ObjectId) :
    (boxes.putItem item).AllChecked storeId ↔
      boxes.OthersChecked item.variantId storeId ∧
        (item.storeId = some storeId → item.checked = true) := by
  constructor
  · intro all
    refine ⟨fun other stored apart => all other ?_, all item ?_⟩
    · exact Collection.mem_put.mpr (Or.inl ⟨stored, apart⟩)
    · exact Collection.mem_put.mpr (Or.inr rfl)
  · rintro ⟨others, this⟩ other stored
    rcases Collection.mem_put.mp stored with ⟨old, apart⟩ | rfl
    · exact others other old apart
    · exact this

theorem allChecked_deleteItem (key : Option String) (storeId : ObjectId) :
    (boxes.deleteItem key).AllChecked storeId ↔ boxes.OthersChecked key storeId := by
  constructor
  · exact fun all item stored apart => all item (Collection.mem_delete.mpr ⟨stored, apart⟩)
  · intro others item stays
    obtain ⟨stored, apart⟩ := Collection.mem_delete.mp stays
    exact others item stored apart

variable {boxes}

theorem allChecked_iff_of_stored {item : CartItem} (stored : item ∈ boxes.items.docs)
    (storeId : ObjectId) :
    boxes.AllChecked storeId ↔
      boxes.OthersChecked item.variantId storeId ∧
        (item.storeId = some storeId → item.checked = true) := by
  constructor
  · exact fun all => ⟨fun other member _ => all other member, all item stored⟩
  · rintro ⟨others, this⟩ other member
    by_cases same : other.variantId = item.variantId
    · rw [Collection.eq_of_id_eq member stored same]
      exact this
    · exact others other member same

theorem othersChecked_of_fresh {key : Option String} (fresh : boxes.items.findById? key = none)
    (storeId : ObjectId) : boxes.OthersChecked key storeId ↔ boxes.AllChecked storeId := by
  constructor
  · exact fun others item stored =>
      others item stored (Collection.findById?_eq_none_iff.mp fresh item stored)
  · exact fun all item stored _ => all item stored

/-- An item that stays with its store counts there only. -/
theorem allChecked_putItem_elsewhere {item before : CartItem}
    (stored : before ∈ boxes.items.docs) (named : before.variantId = item.variantId)
    (same : item.storeId = before.storeId) {storeId : ObjectId}
    (elsewhere : before.storeId ≠ some storeId) :
    (boxes.putItem item).AllChecked storeId ↔ boxes.AllChecked storeId := by
  rw [allChecked_putItem, allChecked_iff_of_stored stored, named, same]
  exact and_congr_right fun _ =>
    iff_of_true (fun here => absurd here elsewhere) fun here => absurd here elsewhere

/-- The deletion of an item that is checked, or of another store, changes nothing. -/
theorem allChecked_deleteItem_elsewhere {item : CartItem} (stored : item ∈ boxes.items.docs)
    {storeId : ObjectId} (elsewhere : item.storeId ≠ some storeId) :
    (boxes.deleteItem item.variantId).AllChecked storeId ↔ boxes.AllChecked storeId := by
  rw [allChecked_deleteItem, allChecked_iff_of_stored stored]
  exact (and_iff_left fun here => absurd here elsewhere).symm

end Boxes

/-! ## A new item -/

theorem Boxes.allChecked_putItem_new {boxes : Boxes} {item : CartItem} {key : Option String}
    (named : item.variantId = key) (fresh : boxes.items.findById? key = none)
    (checked : item.checked = true) (storeId : ObjectId) :
    (boxes.putItem item).AllChecked storeId ↔ boxes.AllChecked storeId := by
  rw [allChecked_putItem, and_iff_left fun _ => checked, named]
  exact othersChecked_of_fresh fresh storeId

/-- A cart that is there keeps its check, and a new one is checked; a new item is checked. -/
theorem addToCart_new_flag {device : Device} {selection : Selection} {store : Store}
    {key : String} {storeId : ObjectId} (quantity : Int) (named : selection.variantId = some key)
    (fresh : device.memory.items.findById? (some key) = none) (of : store.id = some storeId) :
    (∀ other, (device.addToCart selection (some store) quantity).memory.flag other =
      if other = storeId then some ((device.memory.flag storeId).getD true)
      else device.memory.flag other) ∧
    ∀ other, (device.addToCart selection (some store) quantity).memory.AllChecked other ↔
      device.memory.AllChecked other := by
  have same : (device.putItem (CartItem.fromProduct selection quantity true)).memory.carts =
    device.memory.carts := rfl
  have items : ∀ other,
      (device.memory.putItem (CartItem.fromProduct selection quantity true)).AllChecked other ↔
        device.memory.AllChecked other :=
    Boxes.allChecked_putItem_new named fresh rfl
  cases found : device.memory.carts.findById? storeId with
  | none =>
      have flagged : device.memory.flag storeId = none := Option.map_eq_none_iff.mpr found
      simp only [Device.addToCart, named, fresh, of, same, found, flagged]
      exact ⟨fun other => Boxes.flag_putCart _ _ other, items⟩
  | some cart =>
      have own := (Collection.findById?_eq_some_iff.mp found).2
      have flagged := Boxes.flag_of_found found
      simp only [Device.addToCart, named, fresh, of, same, found, flagged]
      refine ⟨fun other => (Boxes.flag_putCart _ _ other).trans ?_, items⟩
      rw [← own]
      rfl

/-! ## The loop over a store's items -/

theorem checkItems_carts (device : Device) (storeId : ObjectId) (checked : Bool)
    (items : List CartItem) :
    (device.checkItems storeId checked items).memory.carts = device.memory.carts := by
  induction items generalizing device with
  | nil => rfl
  | cons item rest ih =>
      unfold Device.checkItems
      rw [List.foldl_cons]
      split
      · exact ih _
      · exact ih _

/-- The loop rewrites the items of the store that it goes over, each once. -/
theorem mem_checkItems {device : Device} {storeId : ObjectId} {checked : Bool}
    {items : List CartItem} (stored : ∀ item ∈ items, item ∈ device.memory.items.docs)
    (distinct : (items.map CartItem.variantId).Nodup) (other : CartItem) :
    other ∈ (device.checkItems storeId checked items).memory.items.docs ↔
      (other ∈ device.memory.items.docs ∧ ¬ (other ∈ items ∧ other.storeId = some storeId)) ∨
        ∃ item ∈ items, item.storeId = some storeId ∧
          other = { item with checked := checked } := by
  induction items generalizing device with
  | nil => simp [Device.checkItems]
  | cons item rest ih =>
      obtain ⟨here, later⟩ := List.forall_mem_cons.mp stored
      rw [List.map_cons, List.nodup_cons] at distinct
      obtain ⟨apart, distinct⟩ := distinct
      have absent : ∀ one ∈ rest, one.variantId ≠ item.variantId :=
        fun one member same => apart (same ▸ List.mem_map_of_mem member)
      unfold Device.checkItems
      rw [List.foldl_cons]
      split
      case isTrue own =>
        refine (ih (fun one member => ?_) distinct).trans ?_
        · exact Collection.mem_put.mpr (Or.inl ⟨later one member, absent one member⟩)
        · have put : other ∈ (device.putItem { item with checked := checked }).memory.items.docs ↔
              (other ∈ device.memory.items.docs ∧ other.variantId ≠ item.variantId) ∨
                other = { item with checked := checked } := Collection.mem_put
          rw [put, List.exists_mem_cons_iff]
          by_cases added : other = { item with checked := checked }
          · have fresh : other ∉ rest := fun member => absent other member (by rw [added])
            exact iff_of_true (Or.inl ⟨Or.inr added, fun both => fresh both.1⟩)
              (Or.inr (Or.inl ⟨own, added⟩))
          · have not_this : ¬ (item.storeId = some storeId ∧
                other = { item with checked := checked }) := fun both => added both.2
            rw [or_iff_left added, or_iff_right not_this, List.mem_cons]
            refine or_congr_left ?_
            rw [and_assoc]
            refine and_congr_right fun member => ?_
            rw [or_and_right, not_or]
            refine and_congr_left fun _ => not_congr ⟨fun same => ?_, fun both => ?_⟩
            · have one : other = item := Collection.eq_of_id_eq member here same
              exact ⟨one, one ▸ own⟩
            · exact congrArg CartItem.variantId both.1
      case isFalse elsewhere =>
        refine (ih later distinct).trans ?_
        have not_this : ¬ (item.storeId = some storeId ∧
            other = { item with checked := checked }) := fun both => elsewhere both.1
        have not_item : ¬ (other = item ∧ other.storeId = some storeId) :=
          fun both => elsewhere (both.1 ▸ both.2)
        rw [List.exists_mem_cons_iff, or_iff_right not_this, List.mem_cons, or_and_right,
          or_iff_right not_item]

/-! ## What the calls need -/

/-- The keys of a cart tell that all its items but one are checked. -/
def Cart.ListsChecked (boxes : Boxes) (key : String) (cart : Cart) : Prop :=
  ∀ other ∈ cart.cartItemsKeys, other ≠ key →
    ∃ item, boxes.items.findById? (some other) = some item ∧ item.checked = true

/-- An item that is deleted leaves an unchecked one in an unchecked cart.  The rest is about
carts whose keys are not those of their store's items: a new cart finds no unchecked item, a
cart that is unchecked has an item, and the keys tell what the items tell. -/
def BoxCall.KeepsCheck (boxes : Boxes) : BoxCall → Prop
  | .addToCart selection (some store) _ => ∀ key storeId, selection.variantId = some key →
      boxes.items.findById? (some key) = none → store.id = some storeId →
        boxes.carts.findById? storeId = none → boxes.AllChecked storeId
  | .checkOrderedProduct key => ∀ item cart, boxes.items.findById? (some key) = some item →
      item.checked = false → item.storeId.bind boxes.carts.findById? = some cart →
        (cart.ListsChecked boxes key ↔ boxes.OthersChecked (some key) cart.storeId)
  | .checkAllOrderedProducts storeId => ∀ cart, boxes.carts.findById? storeId = some cart →
      cart.checked = true → ∃ item ∈ boxes.items.docs, item.storeId = some storeId
  | .deleteItemFromCart key => ∀ item cart, boxes.items.findById? (some key) = some item →
      item.storeId.bind boxes.carts.findById? = some cart → cart.checked = false →
        cart.cartItemsKeys.erase key ≠ [] → ¬ boxes.OthersChecked (some key) cart.storeId
  | _ => True

section Calls

variable {device : Device} (mirrors : Mirrors device.memory)

include mirrors

/-- An item may change in anything but its store and its check. -/
theorem Mirrors.putItem {item before : CartItem} (stored : before ∈ device.memory.items.docs)
    (named : before.variantId = item.variantId) (store : item.storeId = before.storeId)
    (check : item.checked = before.checked) : Mirrors (device.putItem item).memory := by
  refine (mirrors_congr (device.memory.flag_putItem item) fun storeId => ?_).mpr mirrors
  have put := device.memory.allChecked_putItem item storeId
  rw [store, check, ← named] at put
  exact put.trans (Boxes.allChecked_iff_of_stored stored storeId).symm

theorem Mirrors.addQuantity (key : String) : Mirrors (device.addQuantity key).memory := by
  unfold Device.addQuantity
  split
  case h_1 item found =>
    exact mirrors.putItem (Collection.findById?_eq_some_iff.mp found).1 rfl rfl rfl
  case h_2 => exact mirrors

theorem Mirrors.subtractQuantity (key : String) :
    Mirrors (device.subtractQuantity key).memory := by
  unfold Device.subtractQuantity
  split
  case h_1 item found =>
    have stored := (Collection.findById?_eq_some_iff.mp found).1
    split
    case isTrue => exact mirrors.putItem stored rfl rfl rfl
    case isFalse => exact mirrors.putItem stored rfl rfl rfl
  case h_2 => exact mirrors

theorem Mirrors.addToCart_iff (selection : Selection) (store : Option Store) (quantity : Int) :
    Mirrors (device.addToCart selection store quantity).memory ↔
      (BoxCall.addToCart selection store quantity).KeepsCheck device.memory := by
  cases store with
  | none => exact iff_of_true mirrors trivial
  | some store =>
      cases found : device.memory.items.findById? selection.variantId with
      | some item =>
          simp only [Device.addToCart, found]
          refine iff_of_true
            (mirrors.putItem (Collection.findById?_eq_some_iff.mp found).1 rfl rfl rfl) ?_
          intro key storeId named missing
          rw [named, missing] at found
          cases found
      | none =>
          cases named : selection.variantId with
          | none =>
              rw [named] at found
              simp only [Device.addToCart, named, found]
              refine iff_of_true mirrors fun key storeId same => ?_
              cases named.symm.trans same
          | some key =>
              rw [named] at found
              cases of : store.id with
              | none =>
                  have added : (device.addToCart selection (some store) quantity).memory =
                      device.memory.putItem (CartItem.fromProduct selection quantity true) := by
                    simp only [Device.addToCart, named, found, of]
                    rfl
                  have items : ∀ other, (device.memory.putItem
                      (CartItem.fromProduct selection quantity true)).AllChecked other ↔
                        device.memory.AllChecked other :=
                    Boxes.allChecked_putItem_new named found rfl
                  rw [added]
                  refine iff_of_true ?_ fun other storeId _ _ some_of => ?_
                  · exact (mirrors_congr (device.memory.flag_putItem _) items).mpr mirrors
                  · cases of.symm.trans some_of
              | some storeId =>
                  obtain ⟨flags, items⟩ := addToCart_new_flag quantity named found of
                  refine (mirrors_iff_at mirrors storeId fun other apart => ?_).trans ?_
                  · exact ⟨(flags other).trans (if_neg apart), items other⟩
                  rw [flags, if_pos rfl, items]
                  constructor
                  · intro kept _ _ _ _ some_of missing
                    cases of.symm.trans some_of
                    exact (kept true (by rw [Boxes.flag, missing]; rfl)).mp rfl
                  · intro guard checked flagged
                    cases Option.some.inj flagged
                    cases kept : device.memory.flag storeId with
                    | some checked => exact mirrors_iff_flag.mp mirrors storeId checked kept
                    | none =>
                        have missing := Option.map_eq_none_iff.mp kept
                        exact iff_of_true rfl (guard key storeId named found of missing)

omit mirrors in
theorem checkCart_items (item : CartItem) :
    (device.checkCart item).memory.items = device.memory.items := by
  unfold Device.checkCart
  repeat' split
  all_goals rfl

/-- Every key of the cart is in the box and checked. -/
def Cart.AllListed (boxes : Boxes) (cart : Cart) : Prop :=
  ∀ key ∈ cart.cartItemsKeys,
    ∃ item, boxes.items.findById? (some key) = some item ∧ item.checked = true

omit mirrors in
/-- The cart of an item that was checked is checked when its keys tell so. -/
theorem checkCart_flag {item : CartItem} {cart : Cart} (checked : item.checked = true)
    (found : item.storeId.bind device.memory.carts.findById? = some cart) :
    (cart.AllListed device.memory → ∀ other, (device.checkCart item).memory.flag other =
      if other = cart.storeId then some true else device.memory.flag other) ∧
    (¬ cart.AllListed device.memory →
      (device.checkCart item).memory.flag = device.memory.flag) := by
  have listed_iff : cart.AllListed device.memory ↔ ∃ items,
      (cart.cartItemsKeys.mapM fun key => device.memory.items.findById? (some key)) = some items ∧
        ∀ item ∈ items, item.checked = true := exists_mapM_iff.symm
  unfold Device.checkCart
  rw [found, checked]
  dsimp only
  rw [if_neg (by decide), listed_iff]
  cases read : cart.cartItemsKeys.mapM fun key => device.memory.items.findById? (some key) with
  | none => exact ⟨fun ⟨_, listed, _⟩ => (nomatch listed), fun _ => rfl⟩
  | some items =>
      dsimp only
      split
      case isTrue all =>
        refine ⟨fun _ other => Boxes.flag_putCart _ _ other, fun missing => ?_⟩
        exact absurd ⟨items, rfl, List.all_eq_true.mp all⟩ missing
      case isFalse some_unchecked =>
        refine ⟨fun ⟨same, listed, all⟩ => ?_, fun _ => funext fun other => ?_⟩
        · cases listed
          exact absurd (List.all_eq_true.mpr all) some_unchecked
        · refine (Boxes.flag_putCart _ _ other).trans ?_
          split
          case isTrue here =>
            rw [here]
            exact (Boxes.flag_of_found (Boxes.owner_spec found).2.2).symm
          case isFalse => rfl

omit mirrors in
/-- The cart of an item that was unchecked is unchecked. -/
theorem checkCart_flag_unchecked {item : CartItem} {cart : Cart} (unchecked : item.checked = false)
    (found : item.storeId.bind device.memory.carts.findById? = some cart) (other : ObjectId) :
    (device.checkCart item).memory.flag other =
      if other = cart.storeId then some false else device.memory.flag other := by
  unfold Device.checkCart
  rw [found, unchecked]
  exact Boxes.flag_putCart _ _ other

omit mirrors in
/-- With the item checked, the keys tell what they told of the others. -/
theorem allListed_putItem_iff {item : CartItem} {key : String} (named : item.variantId = some key)
    (checked : item.checked = true) (cart : Cart) :
    cart.AllListed (device.putItem item).memory ↔ cart.ListsChecked device.memory key := by
  refine forall₂_congr fun other _ => ?_
  have read : (device.putItem item).memory.items.findById? (some other) =
      if some other = some key then some item
      else device.memory.items.findById? (some other) := by
    rw [← named]
    exact Collection.findById?_put _ _ _
  by_cases same : other = key
  · rw [read, if_pos (congrArg some same)]
    exact iff_of_true ⟨item, rfl, checked⟩ fun apart => absurd same apart
  · rw [read, if_neg fun equal => same (Option.some.inj equal), imp_iff_right same]

section Toggled

/-- The item with the other check. -/
def CartItem.toggled (item : CartItem) : CartItem := { item with checked := !item.checked }

variable {key : String} {item : CartItem}
variable (found : device.memory.items.findById? (some key) = some item)

include found

omit mirrors in
theorem checkOrderedProduct_of_found :
    device.checkOrderedProduct key = (device.putItem item.toggled).checkCart item.toggled := by
  simp only [Device.checkOrderedProduct, found]
  rfl

omit mirrors in
theorem allChecked_checkOrderedProduct (storeId : ObjectId) :
    (device.checkOrderedProduct key).memory.AllChecked storeId ↔
      (device.memory.putItem item.toggled).AllChecked storeId := by
  rw [checkOrderedProduct_of_found found, Boxes.AllChecked, checkCart_items]
  rfl

omit mirrors in
theorem allChecked_checkOrderedProduct_elsewhere {storeId : ObjectId}
    (elsewhere : item.storeId ≠ some storeId) :
    (device.checkOrderedProduct key).memory.AllChecked storeId ↔
      device.memory.AllChecked storeId := by
  rw [allChecked_checkOrderedProduct found]
  have stored := (Collection.findById?_eq_some_iff.mp found).1
  have named : item.variantId = item.toggled.variantId := rfl
  exact Boxes.allChecked_putItem_elsewhere stored named rfl elsewhere

omit mirrors in
theorem allChecked_checkOrderedProduct_here {storeId : ObjectId}
    (own : item.storeId = some storeId) :
    (device.checkOrderedProduct key).memory.AllChecked storeId ↔
      device.memory.OthersChecked (some key) storeId ∧ item.toggled.checked = true := by
  have named : item.toggled.variantId = some key := (Collection.findById?_eq_some_iff.mp found).2
  have put := device.memory.allChecked_putItem item.toggled storeId
  rw [named, imp_iff_right (show item.toggled.storeId = some storeId from own)] at put
  exact (allChecked_checkOrderedProduct found storeId).trans put

/-- An item without a cart may be checked or not. -/
theorem Mirrors.toggle_unowned (unowned : item.storeId.bind device.memory.carts.findById? = none) :
    Mirrors (device.checkOrderedProduct key).memory := by
  have toggled_unowned :
      item.toggled.storeId.bind (device.putItem item.toggled).memory.carts.findById? = none :=
    unowned
  have flags : (device.checkOrderedProduct key).memory.flag = device.memory.flag := by
    rw [checkOrderedProduct_of_found found]
    unfold Device.checkCart
    rw [toggled_unowned]
    rfl
  rw [mirrors_iff_flag, flags]
  intro storeId checked flagged
  have elsewhere : item.storeId ≠ some storeId := by
    intro own
    rw [own, Option.bind_some] at unowned
    rw [Boxes.flag, unowned] at flagged
    cases flagged
  rw [allChecked_checkOrderedProduct_elsewhere found elsewhere]
  exact mirrors_iff_flag.mp mirrors storeId checked flagged

variable {cart : Cart} (owner : item.storeId.bind device.memory.carts.findById? = some cart)

include owner

/-- What the call leaves is decided at the cart of the item. -/
theorem Mirrors.toggle_iff_at (apart : ∀ other, other ≠ cart.storeId →
      (device.checkOrderedProduct key).memory.flag other = device.memory.flag other)
    {value : Bool}
    (flagged : (device.checkOrderedProduct key).memory.flag cart.storeId = some value) :
    Mirrors (device.checkOrderedProduct key).memory ↔
      (value = true ↔
        device.memory.OthersChecked (some key) cart.storeId ∧ item.toggled.checked = true) := by
  have own := (Boxes.owner_spec owner).1
  refine (mirrors_iff_at mirrors cart.storeId fun other elsewhere => ?_).trans ?_
  · refine ⟨apart other elsewhere, ?_⟩
    refine allChecked_checkOrderedProduct_elsewhere found fun owned => elsewhere ?_
    exact Option.some.inj (owned.symm.trans own)
  · rw [flagged, allChecked_checkOrderedProduct_here found own]
    simp

/-- With an item the cart is unchecked. -/
theorem Mirrors.uncheck (checked : item.checked = true) :
    Mirrors (device.checkOrderedProduct key).memory := by
  have unchecked : item.toggled.checked = false := congrArg not checked
  have flags : ∀ other, (device.checkOrderedProduct key).memory.flag other =
      if other = cart.storeId then some false else device.memory.flag other := by
    rw [checkOrderedProduct_of_found found]
    exact checkCart_flag_unchecked unchecked owner
  refine (mirrors.toggle_iff_at found owner (fun other elsewhere => ?_)
    ((flags _).trans (if_pos rfl))).mpr ?_
  · exact (flags other).trans (if_neg elsewhere)
  · rw [unchecked]
    exact iff_of_false Bool.false_ne_true fun both => Bool.false_ne_true both.2

/-- The cart is checked with its last item when its keys tell so. -/
theorem Mirrors.check_iff (unchecked : item.checked = false) :
    Mirrors (device.checkOrderedProduct key).memory ↔
      (cart.ListsChecked device.memory key ↔
        device.memory.OthersChecked (some key) cart.storeId) := by
  have checked : item.toggled.checked = true := congrArg not unchecked
  have named : item.toggled.variantId = some key := (Collection.findById?_eq_some_iff.mp found).2
  obtain ⟨own, cart_stored, kept⟩ := Boxes.owner_spec owner
  have cart_unchecked : cart.checked = false := by
    refine Bool.not_eq_true _ |>.mp fun all => ?_
    have stored := (Collection.findById?_eq_some_iff.mp found).1
    have this := (mirrors cart cart_stored).mp all item stored own
    exact Bool.false_ne_true (unchecked.symm.trans this)
  have toggled_owner : item.toggled.storeId.bind
      (device.putItem item.toggled).memory.carts.findById? = some cart := owner
  obtain ⟨tells, silent⟩ := checkCart_flag checked toggled_owner
  rw [← checkOrderedProduct_of_found found, allListed_putItem_iff named checked] at tells silent
  by_cases lists : cart.ListsChecked device.memory key
  · rw [mirrors.toggle_iff_at found owner
      (fun other elsewhere => (tells lists other).trans (if_neg elsewhere))
      ((tells lists _).trans (if_pos rfl)), and_iff_left checked]
    exact iff_congr (iff_of_true rfl lists) Iff.rfl
  · rw [mirrors.toggle_iff_at found owner (fun other _ => congrFun (silent lists) other)
      ((congrFun (silent lists) _).trans (Boxes.flag_of_found kept)), and_iff_left checked,
      cart_unchecked]
    exact iff_congr (iff_of_false Bool.false_ne_true lists) Iff.rfl

end Toggled

theorem Mirrors.checkOrderedProduct_iff (key : String) :
    Mirrors (device.checkOrderedProduct key).memory ↔
      (BoxCall.checkOrderedProduct key).KeepsCheck device.memory := by
  cases found : device.memory.items.findById? (some key) with
  | none =>
      simp only [Device.checkOrderedProduct, found]
      refine iff_of_true mirrors fun item cart here => ?_
      cases found.symm.trans here
  | some item =>
      cases owner : item.storeId.bind device.memory.carts.findById? with
      | none =>
          refine iff_of_true (mirrors.toggle_unowned found owner) fun other cart here _ owned => ?_
          cases found.symm.trans here
          cases owner.symm.trans owned
      | some cart =>
          cases check : item.checked with
          | true =>
              refine iff_of_true (mirrors.uncheck found owner check) ?_
              intro other _ here unchecked _
              cases found.symm.trans here
              cases check.symm.trans unchecked
          | false =>
              refine (mirrors.check_iff found owner check).trans ?_
              constructor
              · intro agree other _ other_found _ other_owner
                cases found.symm.trans other_found
                cases owner.symm.trans other_owner
                exact agree
              · exact fun guard => guard item cart found check owner

section CheckedAll

variable {storeId : ObjectId} {cart : Cart}
variable (found : device.memory.carts.findById? storeId = some cart)

include found

omit mirrors in
theorem checkAllOrderedProducts_of_found : device.checkAllOrderedProducts storeId =
    (device.putCart { cart with checked := !cart.checked }).checkItems storeId (!cart.checked)
      device.memory.items.docs := by
  simp only [Device.checkAllOrderedProducts, found]
  rfl

omit mirrors in
theorem flag_checkAllOrderedProducts (other : ObjectId) :
    (device.checkAllOrderedProducts storeId).memory.flag other =
      if other = storeId then some !cart.checked else device.memory.flag other := by
  have own := (Collection.findById?_eq_some_iff.mp found).2
  rw [checkAllOrderedProducts_of_found found, Boxes.flag, checkItems_carts]
  refine (Boxes.flag_putCart _ _ other).trans ?_
  rw [← own]
  rfl

omit mirrors in
theorem mem_checkAllOrderedProducts (item : CartItem) :
    item ∈ (device.checkAllOrderedProducts storeId).memory.items.docs ↔
      (item ∈ device.memory.items.docs ∧ item.storeId ≠ some storeId) ∨
        ∃ before ∈ device.memory.items.docs, before.storeId = some storeId ∧
          item = { before with checked := !cart.checked } := by
  have there : ∀ one ∈ device.memory.items.docs,
      one ∈ (device.putCart { cart with checked := !cart.checked }).memory.items.docs :=
    fun one member => member
  rw [checkAllOrderedProducts_of_found found,
    mem_checkItems there device.memory.items.distinct item]
  refine or_congr_left (and_congr_right fun member => not_congr ?_)
  exact and_iff_right member

omit mirrors in
theorem allChecked_checkAllOrderedProducts_elsewhere {other : ObjectId} (apart : other ≠ storeId) :
    (device.checkAllOrderedProducts storeId).memory.AllChecked other ↔
      device.memory.AllChecked other := by
  constructor
  · intro all item member here
    refine all item ((mem_checkAllOrderedProducts found item).mpr (Or.inl ⟨member, ?_⟩)) here
    exact fun there => apart (Option.some.inj (here.symm.trans there))
  · intro all item member here
    rcases (mem_checkAllOrderedProducts found item).mp member with
      ⟨old, _⟩ | ⟨before, _, there, rfl⟩
    · exact all item old here
    · exact absurd (Option.some.inj (here.symm.trans there)) apart

omit mirrors in
theorem allChecked_checkAllOrderedProducts_here :
    (device.checkAllOrderedProducts storeId).memory.AllChecked storeId ↔
      ((∃ item ∈ device.memory.items.docs, item.storeId = some storeId) →
        (!cart.checked) = true) := by
  constructor
  · rintro all ⟨before, member, here⟩
    exact all { before with checked := !cart.checked }
      ((mem_checkAllOrderedProducts found _).mpr (Or.inr ⟨before, member, here, rfl⟩)) here
  · intro checked item member here
    rcases (mem_checkAllOrderedProducts found item).mp member with
      ⟨_, there⟩ | ⟨before, old, there, rfl⟩
    · exact absurd here there
    · exact checked ⟨before, old, there⟩

end CheckedAll

theorem Mirrors.checkAllOrderedProducts_iff (storeId : ObjectId) :
    Mirrors (device.checkAllOrderedProducts storeId).memory ↔
      (BoxCall.checkAllOrderedProducts storeId).KeepsCheck device.memory := by
  cases found : device.memory.carts.findById? storeId with
  | none =>
      simp only [Device.checkAllOrderedProducts, found]
      refine iff_of_true mirrors fun cart here => ?_
      cases found.symm.trans here
  | some cart =>
      have guard_iff : (BoxCall.checkAllOrderedProducts storeId).KeepsCheck device.memory ↔
          (cart.checked = true →
            ∃ item ∈ device.memory.items.docs, item.storeId = some storeId) := by
        refine ⟨fun guard => guard cart found, fun guard other here => ?_⟩
        cases found.symm.trans here
        exact guard
      refine (mirrors_iff_at mirrors storeId fun other apart => ?_).trans ?_
      · exact ⟨(flag_checkAllOrderedProducts found other).trans (if_neg apart),
          allChecked_checkAllOrderedProducts_elsewhere found apart⟩
      · rw [flag_checkAllOrderedProducts found, if_pos rfl,
          allChecked_checkAllOrderedProducts_here found, guard_iff]
        cases cart.checked with
        | true => simp
        | false => simp

omit mirrors in
/-- A change of the keys leaves the checks. -/
theorem flag_changeCart (storeId : ObjectId) {change : Update Cart}
    (kept : ∀ cart, (change.apply cart).checked = cart.checked) :
    (device.changeCart storeId change).memory.flag = device.memory.flag := by
  funext other
  have read : (device.changeCart storeId change).memory.carts.findById? other =
      if other = storeId then (device.memory.carts.findById? storeId).map change.apply
      else device.memory.carts.findById? other := Collection.findById?_update _ _ _ _
  rw [Boxes.flag, read]
  split
  case isTrue here =>
    rw [here, Option.map_map, Boxes.flag]
    exact congrArg (fun flag => Option.map flag _) (funext kept)
  case isFalse => rfl

section Deleted

/-- The key is taken out of the cart. -/
def Device.withoutKey (device : Device) (cart : Cart) (key : String) : Device :=
  device.changeCart cart.storeId
    ⟨fun one => { one with cartItemsKeys := cart.cartItemsKeys.erase key }, fun _ => rfl⟩

variable {key : String} {item : CartItem} {cart : Cart}
variable (found : device.memory.items.findById? (some key) = some item)
variable (owner : item.storeId.bind device.memory.carts.findById? = some cart)

omit mirrors in
theorem flag_withoutKey : (device.withoutKey cart key).memory.flag = device.memory.flag :=
  flag_changeCart cart.storeId fun _ => rfl

include found owner

omit mirrors in
theorem allChecked_deleteItem_apart {other : ObjectId} (apart : other ≠ cart.storeId) :
    (device.memory.deleteItem (some key)).AllChecked other ↔ device.memory.AllChecked other := by
  obtain ⟨stored, named⟩ := Collection.findById?_eq_some_iff.mp found
  rw [CartItem.document_id] at named
  rw [← named]
  refine Boxes.allChecked_deleteItem_elsewhere stored fun there => apart ?_
  exact Option.some.inj (there.symm.trans (Boxes.owner_spec owner).1)

/-- The cart is deleted with its last item. -/
theorem Mirrors.delete_last (last : cart.cartItemsKeys.erase key = []) :
    Mirrors (device.deleteItemFromCart key).memory := by
  have after : device.deleteItemFromCart key =
      ((device.withoutKey cart key).deleteCart cart.storeId).deleteItem (some key) := by
    simp only [Device.deleteItemFromCart, found, owner, if_pos last]
    rfl
  have gone : ∀ other, (device.deleteItemFromCart key).memory.flag other =
      if other = cart.storeId then none else device.memory.flag other := by
    intro other
    have kept : (device.withoutKey cart key).memory.flag = device.memory.flag := flag_withoutKey
    rw [after, ← kept]
    exact (device.withoutKey cart key).memory.flag_deleteCart cart.storeId other
  refine (mirrors_iff_at mirrors cart.storeId fun other apart => ?_).mpr ?_
  · refine ⟨(gone other).trans (if_neg apart), ?_⟩
    rw [after]
    exact allChecked_deleteItem_apart found owner apart
  · rw [gone, if_pos rfl]
    intro _ absent
    cases absent

/-- An unchecked cart needs an unchecked item among those that stay. -/
theorem Mirrors.delete_iff (more : cart.cartItemsKeys.erase key ≠ []) :
    Mirrors (device.deleteItemFromCart key).memory ↔
      (cart.checked = false → ¬ device.memory.OthersChecked (some key) cart.storeId) := by
  obtain ⟨_, cart_stored, kept⟩ := Boxes.owner_spec owner
  have after : device.deleteItemFromCart key =
      (device.withoutKey cart key).deleteItem (some key) := by
    simp only [Device.deleteItemFromCart, found, owner, if_neg more]
    rfl
  have flagged : (device.deleteItemFromCart key).memory.flag = device.memory.flag := by
    rw [after]
    exact flag_withoutKey
  have here : (device.deleteItemFromCart key).memory.AllChecked cart.storeId ↔
      device.memory.OthersChecked (some key) cart.storeId := by
    rw [after]
    exact device.memory.allChecked_deleteItem (some key) cart.storeId
  have before : cart.checked = true →
      device.memory.OthersChecked (some key) cart.storeId := by
    intro checked other member _
    exact (mirrors cart cart_stored).mp checked other member
  refine (mirrors_iff_at mirrors cart.storeId fun other apart => ?_).trans ?_
  · refine ⟨congrFun flagged other, ?_⟩
    rw [after]
    exact allChecked_deleteItem_apart found owner apart
  · rw [flagged, Boxes.flag_of_found kept, here]
    cases checked : cart.checked with
    | true => simpa using before checked
    | false => simp

end Deleted

theorem Mirrors.deleteItemFromCart_iff (key : String) :
    Mirrors (device.deleteItemFromCart key).memory ↔
      (BoxCall.deleteItemFromCart key).KeepsCheck device.memory := by
  cases found : device.memory.items.findById? (some key) with
  | none =>
      simp only [Device.deleteItemFromCart, found]
      refine iff_of_true mirrors fun item cart here => ?_
      cases found.symm.trans here
  | some item =>
      cases owner : item.storeId.bind device.memory.carts.findById? with
      | none =>
          simp only [Device.deleteItemFromCart, found, owner]
          refine iff_of_true mirrors fun other cart here owned => ?_
          cases found.symm.trans here
          cases owner.symm.trans owned
      | some cart =>
          have guard_iff : (BoxCall.deleteItemFromCart key).KeepsCheck device.memory ↔
              (cart.checked = false → cart.cartItemsKeys.erase key ≠ [] →
                ¬ device.memory.OthersChecked (some key) cart.storeId) := by
            constructor
            · exact fun guard => guard item cart found owner
            · intro guard other owning other_found other_owner
              cases found.symm.trans other_found
              cases owner.symm.trans other_owner
              exact guard
          rw [guard_iff]
          by_cases last : cart.cartItemsKeys.erase key = []
          · exact iff_of_true (mirrors.delete_last found owner last) fun _ more => absurd last more
          · refine (mirrors.delete_iff found owner last).trans ?_
            exact forall_congr' fun _ => (imp_iff_right last).symm

theorem Mirrors.deleteOrderFromCart (storeId : ObjectId) :
    Mirrors (device.deleteOrderFromCart storeId).memory := by
  refine (mirrors_iff_at mirrors storeId fun other apart => ?_).mpr ?_
  · refine ⟨(Boxes.flag_deleteCart _ storeId other).trans (if_neg apart), ?_⟩
    constructor
    · intro all item member here
      refine all item (Collection.mem_deleteMany.mpr ⟨member, ?_⟩) here
      rw [decide_eq_false_iff_not, List.mem_map]
      rintro ⟨gone, chosen, same⟩
      obtain ⟨gone_member, there⟩ := List.mem_filter.mp chosen
      rw [Collection.eq_of_id_eq gone_member member same, here] at there
      exact apart (Option.some.inj (of_decide_eq_true there))
    · exact fun all item stays => all item (Collection.mem_deleteMany.mp stays).1
  · have gone : (device.deleteOrderFromCart storeId).memory.flag storeId = none :=
      (Boxes.flag_deleteCart _ storeId storeId).trans (if_pos rfl)
    rw [gone]
    intro _ absent
    cases absent

end Calls

/-! ## Memory and disk -/

/-- What is not saved is in the keys of the carts only. -/
structure SavedChecks (device : Device) : Prop where
  items : device.disk.items = device.memory.items
  flags : device.disk.flag = device.memory.flag

theorem SavedChecks.mirrors_iff {device : Device} (saved : SavedChecks device) :
    Mirrors device.disk ↔ Mirrors device.memory :=
  mirrors_congr saved.flags fun storeId => by rw [Boxes.AllChecked, saved.items]; rfl

section Saved

variable {device : Device} (saved : SavedChecks device)

include saved

theorem SavedChecks.putItem (item : CartItem) : SavedChecks (device.putItem item) :=
  ⟨congrArg (fun items => Collection.put items item) saved.items, saved.flags⟩

theorem SavedChecks.putCart (cart : Cart) : SavedChecks (device.putCart cart) := by
  refine ⟨saved.items, funext fun storeId => ?_⟩
  exact (device.disk.flag_putCart cart storeId).trans
    (saved.flags ▸ (device.memory.flag_putCart cart storeId).symm)

theorem SavedChecks.deleteCart (storeId : ObjectId) : SavedChecks (device.deleteCart storeId) := by
  refine ⟨saved.items, funext fun other => ?_⟩
  exact (device.disk.flag_deleteCart storeId other).trans
    (saved.flags ▸ (device.memory.flag_deleteCart storeId other).symm)

theorem SavedChecks.deleteItem (key : Option String) : SavedChecks (device.deleteItem key) :=
  ⟨congrArg (fun items => Collection.delete items key) saved.items, saved.flags⟩

theorem SavedChecks.deleteAllItems (keys : List (Option String)) :
    SavedChecks (device.deleteAllItems keys) :=
  ⟨congrArg (fun items => Collection.deleteMany items fun item : CartItem =>
    decide (item.variantId ∈ keys)) saved.items, saved.flags⟩

theorem SavedChecks.changeCart (storeId : ObjectId) {change : Update Cart}
    (kept : ∀ cart, (change.apply cart).checked = cart.checked) :
    SavedChecks (device.changeCart storeId change) :=
  ⟨saved.items, saved.flags.trans (flag_changeCart storeId kept).symm⟩

theorem SavedChecks.checkItems (storeId : ObjectId) (checked : Bool) (items : List CartItem) :
    SavedChecks (device.checkItems storeId checked items) := by
  induction items generalizing device with
  | nil => exact saved
  | cons item rest ih =>
      unfold Device.checkItems
      rw [List.foldl_cons]
      split
      · exact ih (saved.putItem _)
      · exact ih saved

theorem SavedChecks.checkCart (item : CartItem) : SavedChecks (device.checkCart item) := by
  unfold Device.checkCart
  repeat' split
  all_goals first | exact saved | exact saved.putCart _

theorem SavedChecks.addToCart (selection : Selection) (store : Option Store) (quantity : Int) :
    SavedChecks (device.addToCart selection store quantity) := by
  unfold Device.addToCart
  dsimp only
  repeat' split
  all_goals
    first
    | exact saved
    | exact saved.putItem _
    | exact (saved.putItem _).putCart _

theorem SavedChecks.step {target : Device} {call : BoxCall}
    (stepped : boxStep? device call = some target) : SavedChecks target := by
  cases call with
  | addToCart selection store quantity =>
      cases stepped
      exact saved.addToCart selection store quantity
  | addQuantity key =>
      cases stepped
      unfold Device.addQuantity
      split
      · exact saved.putItem _
      · exact saved
  | subtractQuantity key =>
      cases stepped
      unfold Device.subtractQuantity
      repeat' split
      all_goals first | exact saved | exact saved.putItem _
  | checkOrderedProduct key =>
      cases stepped
      unfold Device.checkOrderedProduct
      split
      · exact (saved.putItem _).checkCart _
      · exact saved
  | checkAllOrderedProducts storeId =>
      cases stepped
      unfold Device.checkAllOrderedProducts
      split
      · exact (saved.putCart _).checkItems _ _ _
      · exact saved
  | deleteItemFromCart key =>
      cases stepped
      unfold Device.deleteItemFromCart
      dsimp only
      split
      case h_1 => exact saved
      case h_2 item =>
        split
        case h_1 => exact saved
        case h_2 cart _ =>
          have changed : SavedChecks (device.changeCart cart.storeId
              ⟨fun one => { one with cartItemsKeys := cart.cartItemsKeys.erase key },
                fun _ => rfl⟩) := saved.changeCart cart.storeId fun _ => rfl
          split
          case isTrue => exact (changed.deleteCart _).deleteItem _
          case isFalse => exact changed.deleteItem _
  | deleteOrderFromCart storeId =>
      cases stepped
      exact (saved.deleteAllItems _).deleteCart _
  | restart =>
      cases stepped
      exact ⟨rfl, rfl⟩

/-- A call keeps the checks of the carts exactly when it is one that does. -/
theorem boxStep_mirrors_iff {target : Device} {call : BoxCall} (mirrors : Mirrors device.memory)
    (stepped : boxStep? device call = some target) :
    Mirrors target.memory ↔ call.KeepsCheck device.memory := by
  cases call with
  | addToCart selection store quantity =>
      cases stepped
      exact mirrors.addToCart_iff selection store quantity
  | addQuantity key =>
      cases stepped
      exact iff_of_true (mirrors.addQuantity key) trivial
  | subtractQuantity key =>
      cases stepped
      exact iff_of_true (mirrors.subtractQuantity key) trivial
  | checkOrderedProduct key =>
      cases stepped
      exact mirrors.checkOrderedProduct_iff key
  | checkAllOrderedProducts storeId =>
      cases stepped
      exact mirrors.checkAllOrderedProducts_iff storeId
  | deleteItemFromCart key =>
      cases stepped
      exact mirrors.deleteItemFromCart_iff key
  | deleteOrderFromCart storeId =>
      cases stepped
      exact iff_of_true (mirrors.deleteOrderFromCart storeId) trivial
  | restart =>
      cases stepped
      exact iff_of_true (saved.mirrors_iff.mpr mirrors) trivial

end Saved

/-- Where the keys of the carts are those of their items, only a deletion can go wrong. -/
theorem WellFormed.keepsCheck {boxes : Boxes} (wellFormed : WellFormed boxes) {call : BoxCall}
    (kept : ∀ key, call ≠ .deleteItemFromCart key) : call.KeepsCheck boxes := by
  cases call with
  | addToCart selection store quantity =>
      cases store with
      | none => trivial
      | some store =>
          intro key storeId _ _ _ missing item stored own
          obtain ⟨cart, cart_stored, owner⟩ := wellFormed.owned item stored
          exact absurd (Option.some.inj (owner.symm.trans own))
            (Collection.findById?_eq_none_iff.mp missing cart cart_stored)
  | checkOrderedProduct key =>
      intro item cart _ _ owner
      have cart_stored := (Boxes.owner_spec owner).2.1
      constructor
      · intro lists other stored apart own
        obtain ⟨otherKey, listed, named⟩ := List.mem_map.mp
          ((wellFormed.listed cart cart_stored other.variantId).mpr ⟨other, stored, rfl, own⟩)
        obtain ⟨found, kept_at, checked⟩ := lists otherKey listed fun same =>
          apart (same ▸ named.symm)
        obtain ⟨found_stored, found_named⟩ := Collection.findById?_eq_some_iff.mp kept_at
        rwa [← Collection.eq_of_id_eq found_stored stored (found_named.trans named)]
      · intro others other listed apart
        obtain ⟨found, stored, named, own⟩ :=
          (wellFormed.listed cart cart_stored (some other)).mp (List.mem_map_of_mem listed)
        refine ⟨found, Collection.findById?_eq_some_iff.mpr ⟨stored, named⟩, ?_⟩
        exact others found stored (fun same => apart (Option.some.inj (named.symm.trans same))) own
  | checkAllOrderedProducts storeId =>
      intro cart here _
      obtain ⟨cart_stored, rfl⟩ := Collection.findById?_eq_some_iff.mp here
      obtain ⟨key, listed⟩ := List.exists_mem_of_ne_nil _ (wellFormed.nonempty cart cart_stored)
      obtain ⟨item, stored, _, own⟩ :=
        (wellFormed.listed cart cart_stored (some key)).mp (List.mem_map_of_mem listed)
      exact ⟨item, stored, own⟩
  | deleteItemFromCart key => exact absurd rfl (kept key)
  | addQuantity key | subtractQuantity key | deleteOrderFromCart storeId | restart => trivial

/-! ## Runs -/

/-- In every state of a run, restarts included, the carts in memory and on disk are checked as
their items are, exactly when every call of the run keeps the checks. -/
theorem storedMirrors_iff_keepsCheck {device : Device} (saved : SavedChecks device)
    (mirrors : Mirrors device.memory) (calls : List BoxCall) :
    Always boxStep? StoredMirrors device calls ↔
      EveryStep boxStep? (fun source call _ => call.KeepsCheck source.memory) device calls := by
  have stored_iff : ∀ one, SavedChecks one → (StoredMirrors one ↔ Mirrors one.memory) :=
    fun one saved => ⟨fun both => both.1, fun here => ⟨here, saved.mirrors_iff.mpr here⟩⟩
  have exact_step : ∀ source call target, SavedChecks source ∧ StoredMirrors source →
      boxStep? source call = some target →
      (SavedChecks target ∧ StoredMirrors target ↔ call.KeepsCheck source.memory) := by
    rintro source call target ⟨saved, stored⟩ stepped
    have later := saved.step stepped
    rw [stored_iff target later, and_iff_right later]
    exact boxStep_mirrors_iff saved stored.1 stepped
  have initial : SavedChecks device ∧ StoredMirrors device :=
    ⟨saved, (stored_iff device saved).mpr mirrors⟩
  rw [← always_iff_everyStep exact_step initial]
  constructor
  · exact Always.strengthen (fun source call target holds stepped later =>
      ⟨holds.1.step stepped, later⟩) initial
  · exact fun always => always.mono fun _ => And.right

/-! ## An unchecked item that is deleted -/

theorem emptyDevice_savedChecks : SavedChecks emptyDevice := ⟨rfl, rfl⟩

theorem emptyDevice_mirrors : Mirrors emptyDevice.memory := List.forall_mem_nil _

theorem added_storedMirrors_iff :
    Always boxStep? StoredMirrors emptyDevice
        [addsShown "a", addsShown "b", .checkOrderedProduct "a", .checkOrderedProduct "a"] ↔
      EveryStep boxStep? (fun source call _ => call.KeepsCheck source.memory) emptyDevice
        [addsShown "a", addsShown "b", .checkOrderedProduct "a", .checkOrderedProduct "a"] :=
  storedMirrors_iff_keepsCheck emptyDevice_savedChecks emptyDevice_mirrors _

/-- The cart stays unchecked although its one item is checked. -/
theorem unchecked_not_storedMirrors :
    SavedChecks emptyDevice ∧ Mirrors emptyDevice.memory ∧
      ¬ Always boxStep? StoredMirrors emptyDevice
        [addsShown "a", addsShown "b", .checkOrderedProduct "a", .deleteItemFromCart "a"] := by
  refine ⟨emptyDevice_savedChecks, emptyDevice_mirrors, fun always => ?_⟩
  have reached : ∃ target, run? boxStep? emptyDevice
      [addsShown "a", addsShown "b", .checkOrderedProduct "a", .deleteItemFromCart "a"] =
        some target ∧
      target.memory.flag 10 = some false ∧
      (∀ item ∈ target.memory.items.docs, item.checked = true) :=
    ⟨_, rfl, by decide +kernel, by decide +kernel⟩
  obtain ⟨target, run, unchecked, checked⟩ := reached
  have mirrored := mirrors_iff_flag.mp (always.target run).1 10 false unchecked
  exact absurd (mirrored.mpr fun item member _ => checked item member) (by decide)

end Proximity.Apps.Client
