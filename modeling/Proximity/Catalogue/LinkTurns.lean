import Proximity.Catalogue.Links

/-!
# One turn on a link

What a turn of a call can do to offers and products, and which turns keep a linked state
linked.  The two writes of a call leave the link half made in between, so every state of
a run is linked only when no write reaches a link.
-/

namespace Proximity.Catalogue.Links

open Proximity.Systems Proximity.Models

variable {database : Database} {boot : Time} {call : Call}

/-- The id that a call draws for the offer it has not saved yet. -/
def Call.newId? : Call → Option ObjectId
  | .createOffer newId _ _ => some newId
  | .savingOffer draft => some draft.id
  | _ => none

/-! ## What a turn can do -/

/-- The products that the turn deletes. -/
def Call.Deletes (product : Product) : Call → Prop
  | .deletingProduct id => product.id = id
  | .deletingProducts storeId => product.storeId = storeId
  | _ => False

/-- The turn writes an offer or the offer of a product. -/
def Call.WritesLink : Call → Prop
  | .savingOffer _ | .assigningOffer _ | .deleteOffer _ | .removingOffer _ => True
  | _ => False

inductive Turned (boot : Time) (database : Database) : Call → Database → Call → Prop where
  | drafted {newId : ObjectId} {user : Token} {body : NewOfferBody} {draft : Draft}
      (drafted : draftOffer boot database user newId body = .ok draft) :
      Turned boot database (.createOffer newId user body) database (.savingOffer draft)
  | saved (draft : Draft) :
      Turned boot database (.savingOffer draft)
        { database with offers := database.offers.insert draft.offer } (.assigningOffer draft)
  | assigned (draft : Draft) :
      Turned boot database (.assigningOffer draft)
        { database with
          products := database.products.update draft.body.productId draft.assign }
        (.answered none)
  | expired (id : ObjectId) :
      Turned boot database (.deleteOffer id)
        { database with offers := database.offers.update id expireOffer } (.removingOffer id)
  | removed {id : ObjectId} {product : Product} (found : offered? database id = some product) :
      Turned boot database (.removingOffer id)
        { database with products := database.products.update product.id removeOffer }
        (.answered none)
  | unassigned {id : ObjectId} (missing : offered? database id = none) :
      Turned boot database (.removingOffer id) database (.answered none)
  | elsewhere {call next : Call} {after : Database} (still : ¬ call.WritesLink)
      (later : ¬ next.WritesLink) (undrawn : next.newId? = none)
      (offers : after.offers = database.offers)
      (products : ∀ product, product ∈ after.products.docs ↔
        product ∈ database.products.docs ∧ ¬ call.Deletes product) :
      Turned boot database call after next

/-- A turn that writes nothing. -/
theorem Turned.unwritten {next : Call} (still : ¬ call.WritesLink)
    (deletes : ∀ product, ¬ call.Deletes product) (later : ¬ next.WritesLink)
    (undrawn : next.newId? = none) : Turned boot database call database next :=
  .elsewhere still later undrawn rfl fun product => (and_iff_left (deletes product)).symm

theorem turned_advance (boot : Time) (database : Database) (call : Call) :
    Turned boot database call (advance boot database call).1 (advance boot database call).2 := by
  cases call with
  | createOffer newId user body =>
      cases checked : draftOffer boot database user newId body with
      | error failure =>
          simp only [advance, checked]
          exact .unwritten id (fun _ => id) id rfl
      | ok draft =>
          simp only [advance, checked]
          exact .drafted checked
  | savingOffer draft => exact .saved draft
  | assigningOffer draft => exact .assigned draft
  | deleteOffer id => exact .expired id
  | removingOffer id =>
      cases found : offered? database id with
      | none =>
          simp only [advance, found]
          exact .unassigned found
      | some product =>
          simp only [advance, found]
          exact .removed found
  | deleteProduct user productId =>
      cases checked : deleteProduct database user productId with
      | error failure =>
          simp only [advance, checked]
          exact .unwritten id (fun _ => id) id rfl
      | ok effect =>
          simp only [advance, checked]
          exact .unwritten id (fun _ => id) id rfl
  | deletingProduct id =>
      exact .elsewhere not_false not_false rfl rfl fun _ => Collection.mem_delete
  | deleteStore storeId =>
      cases checked : deleteStore database storeId with
      | error failure =>
          simp only [advance, checked]
          exact .unwritten id (fun _ => id) id rfl
      | ok effect =>
          simp only [advance, checked]
          exact .unwritten id (fun _ => id) id rfl
  | deletingProducts storeId =>
      refine .elsewhere not_false not_false rfl rfl fun product => ?_
      rw [advance, Collection.mem_deleteMany, decide_eq_false_iff_not]
      rfl
  | deletingStore storeId =>
      exact .elsewhere id id rfl rfl fun _ => (and_iff_left id).symm
  | answered failure => exact .unwritten id (fun _ => id) id rfl

theorem callTurn_spec {source target : Crowd Database Call} {turn : Nat × Time}
    (turned : callTurn? source turn = some target) :
    ∃ call after next, source.agents[turn.1]? = some call ∧
      Turned turn.2 source.shared call after next ∧
      target = ⟨after, source.agents.set turn.1 next⟩ := by
  obtain ⟨call, found, rfl⟩ := Option.map_eq_some_iff.mp turned
  exact ⟨call, _, _, found, turned_advance turn.2 source.shared call, rfl⟩

/-! ## The links of one state -/

/-- Without some of the products, the rest is linked when none of those was offered. -/
theorem linked_without_iff {after : Database} {gone : Product → Prop} (linked : Linked database)
    (offers : after.offers = database.offers)
    (products : ∀ product, product ∈ after.products.docs ↔
      product ∈ database.products.docs ∧ ¬ gone product) :
    Linked after ↔
      ∀ product ∈ database.products.docs, gone product → product.offer = none := by
  constructor
  · intro later product stored leaves
    by_contra offered
    obtain ⟨id, assigned⟩ := Option.ne_none_iff_exists'.mp offered
    obtain ⟨offer, offer_stored, -, named, live⟩ := linked.assigned product stored id assigned
    obtain ⟨other, other_left, other_named, -⟩ := later.offered offer (offers ▸ offer_stored) live
    obtain ⟨other_stored, stays⟩ := (products other).mp other_left
    rw [Collection.eq_of_id_eq other_stored stored (other_named.trans named)] at stays
    exact stays leaves
  · intro unoffered
    constructor
    · intro product stays id assigned
      rw [offers]
      exact linked.assigned product ((products product).mp stays).1 id assigned
    · intro offer offer_stored live
      rw [offers] at offer_stored
      obtain ⟨product, stored, named, assigned⟩ := linked.offered offer offer_stored live
      refine ⟨product, (products product).mpr ⟨stored, fun leaves => ?_⟩, named, assigned⟩
      rw [unoffered product stored leaves] at assigned
      cases assigned

theorem not_linked_save {draft : Draft} (linked : Linked database)
    (fresh : database.offers.findById? draft.id = none) :
    ¬ Linked { database with offers := database.offers.insert draft.offer } := by
  intro later
  obtain ⟨product, stored, -, assigned⟩ :=
    later.offered draft.offer (Collection.mem_insert.mpr (Or.inr ⟨fresh, rfl⟩)) rfl
  obtain ⟨offer, offer_stored, named, -⟩ := linked.assigned product stored _ assigned
  exact Collection.findById?_eq_none_iff.mp fresh offer offer_stored named

theorem linked_expire_iff {id : ObjectId} (linked : Linked database) :
    Linked { database with offers := database.offers.update id expireOffer } ↔
      offered? database id = none := by
  rw [offered?_eq_none_iff]
  constructor
  · intro later product stored assigned
    obtain ⟨offer, offer_stored, named, -, live⟩ := later.assigned product stored id assigned
    exact (mem_expired offer_stored live).2 named
  · intro unassigned
    constructor
    · intro product stored other assigned
      obtain ⟨offer, offer_stored, named, rest⟩ := linked.assigned product stored other assigned
      refine ⟨offer, Collection.mem_update.mpr (Or.inl ⟨offer_stored, ?_⟩), named, rest⟩
      rintro rfl
      exact unassigned product stored (assigned.trans (congrArg some named.symm))
    · intro offer offer_stored live
      exact linked.offered offer (mem_expired offer_stored live).1 live

/-- A product that loses its offer leaves the offer without it. -/
theorem not_linked_remove {id : ObjectId} {product : Product} (linked : Linked database)
    (found : offered? database id = some product) :
    ¬ Linked { database with products := database.products.update product.id removeOffer } := by
  intro later
  obtain ⟨stored, assigned⟩ := offered?_spec found
  obtain ⟨offer, offer_stored, -, named, live⟩ := linked.assigned product stored id assigned
  obtain ⟨other, other_stored, other_named, other_assigned⟩ := later.offered offer offer_stored live
  rcases Collection.mem_update.mp other_stored with ⟨-, elsewhere⟩ | ⟨before, -, rfl⟩
  · exact elsewhere (other_named.trans named)
  · cases other_assigned

/-- The turn makes no link, and breaks none. -/
def Call.LeavesLinks (database : Database) : Call → Prop
  | .savingOffer _ | .assigningOffer _ => False
  | .deleteOffer id | .removingOffer id => offered? database id = none
  | call => ∀ product ∈ database.products.docs, call.Deletes product → product.offer = none

theorem linked_turned_iff {after : Database} {next : Call} (linked : Linked database)
    (turned : Turned boot database call after next)
    (unsaved : ∀ id, call.newId? = some id → database.offers.findById? id = none)
    (not_assigning : ∀ draft, call ≠ .assigningOffer draft) :
    Linked after ↔ call.LeavesLinks database := by
  cases turned with
  | drafted drafted => exact iff_of_true linked fun _ _ => False.elim
  | saved draft => exact iff_of_false (not_linked_save linked (unsaved draft.id rfl)) id
  | assigned draft => exact absurd rfl (not_assigning draft)
  | expired id => exact linked_expire_iff linked
  | removed found =>
      refine iff_of_false (not_linked_remove linked found) fun missing => ?_
      cases found.symm.trans missing
  | unassigned missing => exact iff_of_true linked missing
  | elsewhere still later undrawn offers products =>
      rw [linked_without_iff linked offers products]
      cases call with
      | savingOffer draft => exact absurd trivial still
      | assigningOffer draft => exact absurd trivial still
      | deleteOffer id => exact absurd trivial still
      | removingOffer id => exact absurd trivial still
      | _ => exact Iff.rfl

/-! ## Every state -/

/-- Every id that a call will save under is drawn for it alone. -/
structure Drawn (crowd : Crowd Database Call) : Prop where
  apart : Exclusive Call.newId? crowd.agents
  unsaved : ∀ call ∈ crowd.agents, ∀ id, call.newId? = some id →
    crowd.shared.offers.findById? id = none

theorem Turned.newId? {after : Database} {next : Call} {id : ObjectId}
    (turned : Turned boot database call after next) (reserved : next.newId? = some id) :
    call.newId? = some id := by
  cases turned with
  | drafted drafted =>
      obtain ⟨product, -, -, -, discountType, -, rfl⟩ := draftOffer_eq_ok_iff.mp drafted
      exact reserved
  | elsewhere still later undrawn offers products => cases undrawn.symm.trans reserved
  | _ => cases reserved

/-- Only a save adds an id. -/
theorem Turned.findById? {after : Database} {next : Call} {id : ObjectId}
    (turned : Turned boot database call after next) (missing : database.offers.findById? id = none)
    (other : ∀ draft, call = .savingOffer draft → draft.id ≠ id) :
    after.offers.findById? id = none := by
  cases turned with
  | saved draft =>
      rw [Collection.findById?_insert, missing, Option.none_or]
      exact if_neg (other draft rfl)
  | expired expiredId =>
      rw [Collection.findById?_update]
      split
      case isTrue same => rw [← same, missing, Option.map_none]
      case isFalse => exact missing
  | elsewhere still later undrawn offers products => rw [offers, missing]
  | _ => exact missing

theorem callTurn_drawn {source target : Crowd Database Call} {turn : Nat × Time}
    (drawn : Drawn source) (stepped : callTurn? source turn = some target) : Drawn target := by
  obtain ⟨call, after, next, found, turned, rfl⟩ := callTurn_spec stepped
  have member : call ∈ source.agents := List.mem_of_getElem? found
  constructor
  · exact drawn.apart.set found fun id reserved => Or.inl (turned.newId? reserved)
  · intro other stands id reserved
    have missing : source.shared.offers.findById? id = none := by
      rcases List.mem_or_eq_of_mem_set stands with standing | rfl
      · exact drawn.unsaved other standing id reserved
      · exact drawn.unsaved call member id (turned.newId? reserved)
    refine turned.findById? missing ?_
    rintro draft rfl rfl
    cases turned with
    | saved draft =>
        refine drawn.apart.dropped found rfl ?_ other stands reserved
        exact (Option.some_ne_none _).symm
    | elsewhere still later undrawn offers products => exact still trivial

/-- The turn leaves the links of the state that it is taken in. -/
def LeavesLinks (source : Crowd Database Call) (turn : Nat × Time) (_ : Crowd Database Call) :
    Prop :=
  ∀ call, source.agents[turn.1]? = some call → call.LeavesLinks source.shared

/-- The sum of the variants covers the stock of an offer that the turn saves. -/
def StockFits (source : Crowd Database Call) (turn : Nat × Time) (_ : Crowd Database Call) :
    Prop :=
  ∀ draft, source.agents[turn.1]? = some (.savingOffer draft) →
    ∃ product, source.shared.products.findById? draft.body.productId = some product ∧
      draft.body.offerStock ≤ totalQuantity product

/-- The state is linked, and no offer waits for its product. -/
structure Untouched (crowd : Crowd Database Call) : Prop where
  linked : Linked crowd.shared
  drawn : Drawn crowd
  not_assigning : ∀ draft, .assigningOffer draft ∉ crowd.agents

theorem callTurn_linked_iff {source target : Crowd Database Call} {turn : Nat × Time}
    (untouched : Untouched source) (stepped : callTurn? source turn = some target) :
    Linked target.shared ↔ LeavesLinks source turn target := by
  obtain ⟨call, after, next, found, turned, rfl⟩ := callTurn_spec stepped
  have member : call ∈ source.agents := List.mem_of_getElem? found
  rw [linked_turned_iff untouched.linked turned (untouched.drawn.unsaved call member)
    fun draft assigning => untouched.not_assigning draft (assigning ▸ member)]
  exact (forall_turn_iff found).symm

theorem callTurn_untouched {source target : Crowd Database Call} {turn : Nat × Time}
    (untouched : Untouched source) (stepped : callTurn? source turn = some target)
    (linked : Linked target.shared) : Untouched target := by
  refine ⟨linked, callTurn_drawn untouched.drawn stepped, ?_⟩
  have leaves := (callTurn_linked_iff untouched stepped).mp linked
  obtain ⟨call, after, next, found, turned, rfl⟩ := callTurn_spec stepped
  intro draft assigning
  rcases List.mem_or_eq_of_mem_set assigning with standing | rfl
  · exact untouched.not_assigning draft standing
  · cases turned with
    | saved draft => exact leaves _ found
    | elsewhere still later undrawn offers products => exact later trivial

theorem always_linked_iff {crowd : Crowd Database Call} (untouched : Untouched crowd)
    (turns : List (Nat × Time)) :
    Always callTurn? (fun crowd => Linked crowd.shared) crowd turns ↔
      EveryStep callTurn? LeavesLinks crowd turns := by
  have exact_step : ∀ source turn target, Untouched source →
      callTurn? source turn = some target →
        (Untouched target ↔ LeavesLinks source turn target) := by
    intro source turn target untouched stepped
    rw [← callTurn_linked_iff untouched stepped]
    exact ⟨Untouched.linked, callTurn_untouched untouched stepped⟩
  rw [← always_iff_everyStep exact_step untouched]
  exact ⟨Always.strengthen (fun _ _ _ => callTurn_untouched) untouched,
    fun always => always.mono fun _ => Untouched.linked⟩

end Proximity.Catalogue.Links
