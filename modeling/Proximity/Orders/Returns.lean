import Mathlib.Algebra.Order.BigOperators.Group.List
import Mathlib.Algebra.Order.Ring.Rat
import Mathlib.Tactic.Linarith
import Mathlib.Tactic.Ring
import Proximity.Orders.Changes

/-!
# The quantities of returned products

The check compares each line of the order with the first entry of its variant.  It reads
no later entry of the variant, no entry of another variant, and no sign.
-/

namespace Proximity.Orders

open Proximity.Systems Proximity.Models

/-- The entries that the change stores with the order. -/
def Change.entries? : Change → Option (List ReturnItem)
  | .status _ => none
  | .return returnItems _ => some returnItems
  | .refund returnItems => some returnItems.items
  | .cancel _ _ => none

def returnedTotal (entries : List ReturnItem) (variantId : String) : ℚ :=
  ((entries.filter fun entry => decide (entry.variantId = variantId)).map ReturnItem.quantity).sum

def orderedTotal (items : List OrderItem) (variantId : String) : ℚ :=
  ((items.filter fun item => decide (item.variantId = variantId)).map OrderItem.quantity).sum

/-- Of every variant no more is returned than was ordered, and no less than nothing. -/
structure WithinOrder (items : List OrderItem) (entries : List ReturnItem) : Prop where
  ordered : ∀ entry ∈ entries, ∃ item ∈ items, item.variantId = entry.variantId
  nonnegative : ∀ variantId, 0 ≤ returnedTotal entries variantId
  bounded : ∀ variantId, returnedTotal entries variantId ≤ orderedTotal items variantId

/-- The entries name variants of the order, each of them once, with quantities that are
not negative; what they leave out was not ordered less than never. -/
structure NamedOnce (items : List OrderItem) (entries : List ReturnItem) : Prop where
  ordered : ∀ entry ∈ entries, entry.variantId ∈ items.map OrderItem.variantId
  once : (entries.map ReturnItem.variantId).Nodup
  nonnegative : ∀ entry ∈ entries, 0 ≤ entry.quantity
  unnamed : ∀ variantId, variantId ∉ entries.map ReturnItem.variantId →
    0 ≤ orderedTotal items variantId

/-- The check finds the same entries in both lists: they name the same variants, and a
variant's first entry is the same. -/
structure ReadAlike (entries others : List ReturnItem) : Prop where
  variants : others.map ReturnItem.variantId = entries.map ReturnItem.variantId
  first : ∀ variantId,
    (others.find? fun returned => decide (returned.variantId = variantId)) =
      entries.find? fun returned => decide (returned.variantId = variantId)

theorem ReadAlike.refl (entries : List ReturnItem) : ReadAlike entries entries :=
  ⟨rfl, fun _ => rfl⟩

/-! ## The check -/

theorem exceeds_eq_false_iff {items : List OrderItem} {entries : List ReturnItem} :
    exceeds items entries = false ↔
      ∀ item ∈ items, ∀ entry,
        (entries.find? fun returned => decide (returned.variantId = item.variantId)) = some entry →
          entry.quantity ≤ item.quantity := by
  rw [exceeds, List.any_eq_false]
  refine forall₂_congr fun item _ => ?_
  cases entries.find? fun returned => decide (returned.variantId = item.variantId) with
  | none => simp
  | some entry => simp

/-- Entries are stored by a return or by a refund, which have passed all checks. -/
theorem Accepted.posted_cases {database : Database} {call : Call} {order : Order}
    {change : Change} {entries : List ReturnItem} (accepted : Accepted database call order change)
    (posted : change.entries? = some entries) :
    ∃ userId permitted, entries ≠ [] ∧ database.permitted? userId order = some permitted ∧
      exceeds order.items entries = false ∧
      ((∃ body, call = .returnOrders body ∧ body.userId = some userId ∧
          database.order? body.orderId = some order) ∨
        ∃ body, call = .refundOrders body ∧ body.userId = some userId ∧
          database.order? body.orderId = some order) := by
  obtain ⟨named, asked, written⟩ := accepted
  cases answered : respond database call.operation with
  | error failure => simp [writes, answered] at written
  | ok effect =>
      simp only [writes, answered] at written
      cases call with
      | updateOrdersStatus id body =>
          obtain ⟨status, -, rfl⟩ := Option.map_eq_some_iff.mp asked
          cases posted
      | returnOrders body =>
          rcases returnOrders_cases answered with
            ⟨-, rfl⟩ | ⟨userId, other, items, permitted, given, also_named, parsed, listed,
              allowed, fits, -⟩
          · exact absurd rfl written
          · cases named.symm.trans also_named
            cases asked.symm.trans (returnOrders_change? parsed)
            cases posted
            exact ⟨userId, permitted, listed, allowed, fits, .inl ⟨body, rfl, given, named⟩⟩
      | refundOrders body =>
          rcases refundOrders_cases answered with
            ⟨-, rfl⟩ | ⟨userId, other, items, permitted, given, also_named, parsed, listed,
              allowed, fits, -⟩
          · exact absurd rfl written
          · cases named.symm.trans also_named
            cases asked.symm.trans (refundOrders_change? parsed)
            cases posted
            exact ⟨userId, permitted, listed, allowed, fits, .inr ⟨body, rfl, given, named⟩⟩
      | cancelOrders body =>
          obtain ⟨userId, -, rfl⟩ := Option.map_eq_some_iff.mp asked
          cases posted

/-- Both copies of the check are in front of the writes. -/
theorem Accepted.checked {database : Database} {call : Call} {order : Order} {change : Change}
    {entries : List ReturnItem} (accepted : Accepted database call order change)
    (posted : change.entries? = some entries) : exceeds order.items entries = false := by
  obtain ⟨_, _, _, _, fits, _⟩ := accepted.posted_cases posted
  exact fits

theorem ReadAlike.exceeds_eq {entries others : List ReturnItem} (alike : ReadAlike entries others)
    (items : List OrderItem) : exceeds items others = exceeds items entries := by
  simp only [exceeds, alike.first]

theorem ReadAlike.ne_nil {entries others : List ReturnItem} (alike : ReadAlike entries others)
    (listed : entries ≠ []) : others ≠ [] := by
  rintro rfl
  exact listed (List.map_eq_nil_iff.mp alike.variants.symm)

/-- A return that passes all checks writes. -/
theorem returnOrders_writes_of {database : Database} {body : ReturnBody} {userId : ObjectId}
    {order : Order} {returnItems : List ReturnItem} {permitted : User × Store}
    (given : body.userId = some userId) (named : database.order? body.orderId = some order)
    (parsed : body.returnItems.parse (.ok []) = .ok returnItems) (listed : returnItems ≠ [])
    (allowed : database.permitted? userId order = some permitted)
    (fits : exceeds order.items returnItems = false) :
    writes database (Call.returnOrders body).operation ≠ [] := by
  have answered : ∃ notices, returnOrders database body =
      .ok ⟨[.update order.id (returnUpdate returnItems body.motif)], notices⟩ := by
    rw [returnOrders, given]
    simp only [bind_eq_ok_iff, found_eq_ok_iff, require_eq_ok_iff, pure_eq_ok_iff]
    exact ⟨_, order, named, returnItems, parsed, (), listed, permitted, allowed, (), fits, rfl⟩
  obtain ⟨notices, ok⟩ := answered
  rw [writes, Call.operation, respond, ok]
  exact List.cons_ne_nil _ _

theorem refundOrders_writes_of {database : Database} {body : RefundBody} {userId : ObjectId}
    {order : Order} {returnItems : RefundItems} {permitted : User × Store}
    (given : body.userId = some userId) (named : database.order? body.orderId = some order)
    (parsed : body.returnItems.parse (.error .unreadable) = .ok returnItems)
    (listed : returnItems.items ≠ [])
    (allowed : database.permitted? userId order = some permitted)
    (fits : exceeds order.items returnItems.items = false) :
    writes database (Call.refundOrders body).operation ≠ [] := by
  have answered : ∃ notices, refundOrders database body =
      .ok ⟨[.update order.id (refundUpdate returnItems)], notices⟩ := by
    rw [refundOrders, given]
    simp only [bind_eq_ok_iff, found_eq_ok_iff, require_eq_ok_iff, pure_eq_ok_iff]
    exact ⟨_, order, named, returnItems, parsed, (), listed, permitted, allowed, (), fits, rfl⟩
  obtain ⟨notices, ok⟩ := answered
  rw [writes, Call.operation, respond, ok]
  exact List.cons_ne_nil _ _

/-- With a list that reads alike in its body, an accepted call is accepted too. -/
theorem Accepted.alike {database : Database} {call : Call} {order : Order} {change : Change}
    {entries others : List ReturnItem} (accepted : Accepted database call order change)
    (posted : change.entries? = some entries) (alike : ReadAlike entries others) :
    ∃ again asked, Accepted database again order asked ∧ asked.entries? = some others := by
  obtain ⟨userId, permitted, listed, allowed, fits, kind⟩ := accepted.posted_cases posted
  have others_fit : exceeds order.items others = false :=
    (alike.exceeds_eq order.items).trans fits
  have others_listed : others ≠ [] := alike.ne_nil listed
  rcases kind with ⟨body, rfl, given, named⟩ | ⟨body, rfl, given, named⟩
  · exact ⟨.returnOrders { body with returnItems := .text (some others) },
      .return others body.motif,
      ⟨named, rfl, returnOrders_writes_of given named rfl others_listed allowed others_fit⟩, rfl⟩
  · exact ⟨.refundOrders { body with returnItems := .text (some ⟨others, none⟩) },
      .refund ⟨others, none⟩,
      ⟨named, rfl, refundOrders_writes_of given named rfl others_listed allowed others_fit⟩, rfl⟩

/-! ## Totals -/

/-- An entry whose variant is named once is all that is returned of the variant. -/
theorem single_entry {entries : List ReturnItem}
    (once : (entries.map ReturnItem.variantId).Nodup) {entry : ReturnItem}
    (member : entry ∈ entries) :
    (entries.filter fun returned => decide (returned.variantId = entry.variantId)) = [entry] := by
  induction entries with
  | nil => cases member
  | cons head rest ih =>
      rw [List.map_cons, List.nodup_cons] at once
      rcases List.mem_cons.mp member with rfl | later
      · have alone : (rest.filter fun returned => decide (returned.variantId = entry.variantId)) =
            [] := List.filter_eq_nil_iff.mpr fun other there same =>
          once.1 (of_decide_eq_true same ▸ List.mem_map_of_mem there)
        rw [List.filter_cons_of_pos (by simp), alone]
      · have apart : head.variantId ≠ entry.variantId := fun same =>
          once.1 (same ▸ List.mem_map_of_mem later)
        rw [List.filter_cons_of_neg (by simpa using apart)]
        exact ih once.2 later

theorem first_of_once {entries : List ReturnItem}
    (once : (entries.map ReturnItem.variantId).Nodup) {entry : ReturnItem}
    (member : entry ∈ entries) :
    (entries.find? fun returned => decide (returned.variantId = entry.variantId)) =
      some entry := by
  rw [← List.head?_filter, single_entry once member]
  rfl

theorem total_of_once {entries : List ReturnItem}
    (once : (entries.map ReturnItem.variantId).Nodup) {entry : ReturnItem}
    (member : entry ∈ entries) : returnedTotal entries entry.variantId = entry.quantity := by
  rw [returnedTotal, single_entry once member, List.map_singleton, List.sum_singleton]

theorem total_of_unnamed {entries : List ReturnItem} {variantId : String}
    (unnamed : variantId ∉ entries.map ReturnItem.variantId) :
    returnedTotal entries variantId = 0 := by
  have nothing : (entries.filter fun entry => decide (entry.variantId = variantId)) = [] :=
    List.filter_eq_nil_iff.mpr fun entry member same =>
      unnamed (of_decide_eq_true same ▸ List.mem_map_of_mem member)
  rw [returnedTotal, nothing]
  rfl

/-- A line of the order that has at least what is returned, as all lines of the variant
have, leaves it within the variant's total. -/
theorem le_orderedTotal {items : List OrderItem} {variantId : String} {quantity : ℚ}
    (nonnegative : 0 ≤ quantity)
    (covered : ∀ item ∈ items, item.variantId = variantId → quantity ≤ item.quantity)
    {item : OrderItem} (member : item ∈ items) (names : item.variantId = variantId) :
    quantity ≤ orderedTotal items variantId := by
  have lines : ∀ ordered ∈
      (items.filter fun item => decide (item.variantId = variantId)).map OrderItem.quantity,
      quantity ≤ ordered := by
    intro ordered listed
    obtain ⟨line, kept, rfl⟩ := List.mem_map.mp listed
    obtain ⟨there, same⟩ := List.mem_filter.mp kept
    exact covered line there (of_decide_eq_true same)
  have line : item.quantity ∈
      (items.filter fun item => decide (item.variantId = variantId)).map OrderItem.quantity :=
    List.mem_map_of_mem (List.mem_filter.mpr ⟨member, decide_eq_true names⟩)
  calc quantity ≤ item.quantity := covered item member names
    _ ≤ orderedTotal items variantId :=
        List.single_le_sum (fun ordered listed => nonnegative.trans (lines ordered listed)) _ line

theorem NamedOnce.alike {items : List OrderItem} {entries others : List ReturnItem}
    (named : NamedOnce items entries) (alike : ReadAlike entries others) :
    NamedOnce items others := by
  have once : (others.map ReturnItem.variantId).Nodup := alike.variants ▸ named.once
  have kept (entry : ReturnItem) (member : entry ∈ others) : entry ∈ entries :=
    List.mem_of_find?_eq_some ((alike.first _).symm.trans (first_of_once once member))
  exact ⟨fun entry member => named.ordered entry (kept entry member), once,
    fun entry member => named.nonnegative entry (kept entry member),
    fun variantId unnamed => named.unnamed variantId (alike.variants ▸ unnamed)⟩

/-- The check settles the bound of a variant that is named once. -/
theorem NamedOnce.withinOrder {items : List OrderItem} {entries : List ReturnItem}
    (named : NamedOnce items entries) (fits : exceeds items entries = false) :
    WithinOrder items entries := by
  have total (variantId : String) : 0 ≤ returnedTotal entries variantId ∧
      returnedTotal entries variantId ≤ orderedTotal items variantId := by
    by_cases there : variantId ∈ entries.map ReturnItem.variantId
    · obtain ⟨entry, member, rfl⟩ := List.mem_map.mp there
      obtain ⟨item, line, names⟩ := List.mem_map.mp (named.ordered entry member)
      have nonnegative := named.nonnegative entry member
      rw [total_of_once named.once member]
      refine ⟨nonnegative, le_orderedTotal nonnegative (fun other listed same => ?_) line names⟩
      exact exceeds_eq_false_iff.mp fits other listed entry
        (by rw [same]; exact first_of_once named.once member)
    · rw [total_of_unnamed there]
      exact ⟨le_rfl, named.unnamed variantId there⟩
  exact ⟨fun entry member => List.mem_map.mp (named.ordered entry member),
    fun variantId => (total variantId).1, fun variantId => (total variantId).2⟩

/-! ## What the check does not read -/

/-- A list that names a variant twice has a later entry of it. -/
theorem exists_repeated {entries : List ReturnItem}
    (repeated : ¬(entries.map ReturnItem.variantId).Nodup) :
    ∃ before later after, entries = before ++ later :: after ∧
      ∃ entry ∈ before, entry.variantId = later.variantId := by
  induction entries with
  | nil => exact absurd List.nodup_nil repeated
  | cons head rest ih =>
      by_cases again : head.variantId ∈ rest.map ReturnItem.variantId
      · obtain ⟨later, listed, same⟩ := List.mem_map.mp again
        obtain ⟨before, after, rfl⟩ := List.mem_iff_append.mp listed
        exact ⟨head :: before, later, after, rfl, head, List.mem_cons_self, same.symm⟩
      · have rest_repeated : ¬(rest.map ReturnItem.variantId).Nodup := fun once =>
          repeated (List.nodup_cons.mpr ⟨again, once⟩)
        obtain ⟨before, later, after, rfl, entry, listed, same⟩ := ih rest_repeated
        exact ⟨head :: before, later, after, rfl, entry, List.mem_cons_of_mem head listed, same⟩

/-- The quantity of a later entry is not read. -/
theorem readAlike_of_later {before after : List ReturnItem} {entry later : ReturnItem}
    (listed : entry ∈ before) (same : entry.variantId = later.variantId) (quantity : ℚ) :
    ReadAlike (before ++ later :: after)
      (before ++ { later with quantity := quantity } :: after) := by
  refine ⟨by simp, fun variantId => ?_⟩
  rw [List.find?_append, List.find?_append]
  by_cases names : later.variantId = variantId
  · have read : (before.find? fun returned => decide (returned.variantId = variantId)).isSome :=
      List.find?_isSome.mpr ⟨entry, listed, decide_eq_true (same.trans names)⟩
    obtain ⟨first, found⟩ := Option.isSome_iff_exists.mp read
    rw [found]
    rfl
  · rw [List.find?_cons_of_neg (by simpa using names),
      List.find?_cons_of_neg (by simpa using names)]

theorem returnedTotal_later (before after : List ReturnItem) (later : ReturnItem) (quantity : ℚ) :
    returnedTotal (before ++ { later with quantity := quantity } :: after) later.variantId =
      returnedTotal (before ++ later :: after) later.variantId - later.quantity + quantity := by
  simp only [returnedTotal, List.filter_append, List.filter_cons, decide_true, if_true,
    List.map_append, List.map_cons, List.sum_append, List.sum_cons]
  ring

/-- Of a variant that is named twice, a list that reads alike returns more than was ordered. -/
theorem exists_alike_beyond (items : List OrderItem) {entries : List ReturnItem}
    (repeated : ¬(entries.map ReturnItem.variantId).Nodup) :
    ∃ others, ReadAlike entries others ∧ ¬WithinOrder items others := by
  obtain ⟨before, later, after, rfl, entry, listed, same⟩ := exists_repeated repeated
  let quantity : ℚ := orderedTotal items later.variantId -
    (returnedTotal (before ++ later :: after) later.variantId - later.quantity) + 1
  refine ⟨_, readAlike_of_later listed same quantity, fun within => ?_⟩
  have bounded := within.bounded later.variantId
  rw [returnedTotal_later] at bounded
  simp only [quantity] at bounded
  linarith

/-- What an accepted call stores stays within the order when the entries name variants of
the order once and with no negative quantities; and these are the lists for which the check
is enough, for of all others there is one that it cannot tell from them, that is accepted
too, and that does not stay within the order. -/
theorem withinOrder_iff_namedOnce {database : Database} {call : Call} {order : Order}
    {change : Change} {entries : List ReturnItem}
    (accepted : Accepted database call order change) (posted : change.entries? = some entries) :
    (NamedOnce order.items entries → WithinOrder order.items entries) ∧
      (NamedOnce order.items entries ↔ ∀ again asked others,
        Accepted database again order asked → asked.entries? = some others →
          ReadAlike entries others → WithinOrder order.items others) := by
  refine ⟨fun named => named.withinOrder (accepted.checked posted), ?_, ?_⟩
  · intro named again asked others also_accepted also_posted alike
    exact (named.alike alike).withinOrder (also_accepted.checked also_posted)
  · intro all
    have within := all call change entries accepted posted (ReadAlike.refl entries)
    have once : (entries.map ReturnItem.variantId).Nodup := by
      by_contra repeated
      obtain ⟨others, alike, beyond⟩ := exists_alike_beyond order.items repeated
      obtain ⟨again, asked, also_accepted, also_posted⟩ := accepted.alike posted alike
      exact beyond (all again asked others also_accepted also_posted alike)
    refine ⟨fun entry member => List.mem_map.mpr (within.ordered entry member), once, ?_, ?_⟩
    · intro entry member
      rw [← total_of_once once member]
      exact within.nonnegative entry.variantId
    · intro variantId unnamed
      rw [← total_of_unnamed unnamed]
      exact within.bounded variantId

/-! ## A product returned twice -/

/-- The client returns of the products it ordered. -/
def returnsEntries (entries : List ReturnItem) : Call :=
  .returnOrders ⟨some 1, some 100, .text (some entries), none⟩

/-- The client ordered two variants, one of them on two lines. -/
def threeLines : Order :=
  { clientOrder with
    items := [⟨"product", "variant", 5, 0, 1⟩, ⟨"product", "other", 7, 0, 4⟩,
      ⟨"product", "variant", 5, 0, 2⟩] }

theorem twoVariants_withinOrder_iff :
    Accepted { marketplace with orders := ⟨[threeLines], by decide⟩ }
        (returnsEntries [⟨"other", 3⟩, ⟨"variant", 1⟩]) threeLines
        (.return [⟨"other", 3⟩, ⟨"variant", 1⟩] none) ∧
      WithinOrder threeLines.items [⟨"other", 3⟩, ⟨"variant", 1⟩] := by
  have accepted : Accepted { marketplace with orders := ⟨[threeLines], by decide⟩ }
      (returnsEntries [⟨"other", 3⟩, ⟨"variant", 1⟩]) threeLines
      (.return [⟨"other", 3⟩, ⟨"variant", 1⟩] none) := ⟨rfl, rfl, by decide +kernel⟩
  refine ⟨accepted, (withinOrder_iff_namedOnce accepted rfl).1 ⟨?_, ?_, ?_, ?_⟩⟩
  · decide +kernel
  · decide +kernel
  · decide +kernel
  · intro variantId _
    refine List.sum_nonneg fun quantity listed => ?_
    obtain ⟨item, kept, rfl⟩ := List.mem_map.mp listed
    have all : ∀ item ∈ threeLines.items, 0 ≤ item.quantity := by decide +kernel
    exact all item (List.mem_of_mem_filter kept)

/-- Two entries return the one product twice, and the check sees the first. -/
theorem twoEntries_not_withinOrder :
    Accepted marketplace (returnsEntries [⟨"variant", 1⟩, ⟨"variant", 1⟩]) clientOrder
        (.return [⟨"variant", 1⟩, ⟨"variant", 1⟩] none) ∧
      ¬ WithinOrder clientOrder.items [⟨"variant", 1⟩, ⟨"variant", 1⟩] := by
  refine ⟨⟨rfl, rfl, by decide +kernel⟩, fun within => ?_⟩
  exact absurd (within.bounded "variant") (by decide +kernel)

end Proximity.Orders
