import Proximity.Catalogue.LinkTurns

/-!
# Which runs keep offers and products linked

Between calls the link holds as long as no product goes away under an offer and no two
offers of one product are created at a time.
-/

namespace Proximity.Catalogue.Links

open Proximity.Systems Proximity.Models

variable {database : Database} {boot : Time} {call : Call}

/-- The offer that a call is creating, or is going to create. -/
def Call.creates? : Call → Option ObjectId
  | .createOffer newId _ _ => some newId
  | .savingOffer draft | .assigningOffer draft => some draft.id
  | _ => none

/-- The product that a call is about to assign its offer to. -/
def Call.offers? : Call → Option ObjectId
  | .savingOffer draft | .assigningOffer draft => some draft.body.productId
  | _ => none

/-- The product has no live offer, and no call is creating one. -/
def Unoffered (crowd : Crowd Database Call) (productId : ObjectId) : Prop :=
  (∀ offer ∈ crowd.shared.offers.docs, offer.offerDeleted = false → offer.productId ≠ productId) ∧
    ∀ call ∈ crowd.agents, call.offers? ≠ some productId

/-- An offer asks for no more than the stock, one offer of a product is created at a time
and deleted after that, and a product goes away without offers. -/
def Call.Orderly (boot : Time) (crowd : Crowd Database Call) : Call → Prop
  | .createOffer newId user body => ∀ draft,
      draftOffer boot crowd.shared user newId body = .ok draft →
      body.offerStock ≤ totalQuantity draft.product ∧
        ∀ call ∈ crowd.agents, call.offers? ≠ some body.productId
  | .deleteOffer id => ∀ call ∈ crowd.agents, call.creates? ≠ some id
  | call => ∀ product ∈ crowd.shared.products.docs, call.Deletes product →
      Unoffered crowd product.id

def Orderly (source : Crowd Database Call) (turn : Nat × Time) (_ : Crowd Database Call) : Prop :=
  ∀ call, source.agents[turn.1]? = some call → call.Orderly turn.2 source

/-- The links of a state in which calls may have written one side of theirs. -/
structure Settling (crowd : Crowd Database Call) : Prop where
  assigned : ∀ product ∈ crowd.shared.products.docs, ∀ id, product.offer = some id →
    ∃ offer ∈ crowd.shared.offers.docs, offer.id = id ∧ offer.productId = product.id ∧
      (offer.offerDeleted = false ∨ .removingOffer id ∈ crowd.agents)
  offered : ∀ offer ∈ crowd.shared.offers.docs, offer.offerDeleted = false →
    (∃ product ∈ crowd.shared.products.docs,
      product.id = offer.productId ∧ product.offer = some offer.id) ∨
    ∃ draft, .assigningOffer draft ∈ crowd.agents ∧ draft.offer = offer
  drafted : ∀ draft, .savingOffer draft ∈ crowd.agents ∨ .assigningOffer draft ∈ crowd.agents →
    ∃ product ∈ crowd.shared.products.docs, product.id = draft.body.productId ∧
      product.offer = none ∧ draft.body.offerStock ≤ totalQuantity product
  saved : ∀ draft, .assigningOffer draft ∈ crowd.agents → draft.offer ∈ crowd.shared.offers.docs
  removing : ∀ id, .removingOffer id ∈ crowd.agents →
    (∀ offer ∈ crowd.shared.offers.docs, offer.id = id → offer.offerDeleted = true) ∧
      ∀ call ∈ crowd.agents, call.creates? ≠ some id
  alone : Exclusive Call.offers? crowd.agents
  drawn : Drawn crowd

theorem Settling.linked {crowd : Crowd Database Call} (settling : Settling crowd)
    (rest : AtRest crowd) : Linked crowd.shared := by
  constructor
  · intro product stored id assigned
    obtain ⟨offer, offer_stored, named, link, live | removing⟩ :=
      settling.assigned product stored id assigned
    · exact ⟨offer, offer_stored, named, link, live⟩
    · rcases rest _ removing with entry | ⟨failure, answered⟩
      · exact entry.elim
      · cases answered
  · intro offer offer_stored live
    rcases settling.offered offer offer_stored live with linked | ⟨draft, assigning, -⟩
    · exact linked
    · rcases rest _ assigning with entry | ⟨failure, answered⟩
      · exact entry.elim
      · cases answered

section Turns

variable {index : Nat} {agents : List Call} {next : Call}

theorem mem_of_mem_set {other : Call} (stands : other ∈ agents.set index next)
    (apart : other ≠ next) : other ∈ agents :=
  (List.mem_or_eq_of_mem_set stands).resolve_right apart

/-- A call that takes up no product drafts nothing. -/
theorem drafting_of_set {draft : Draft} (idle : next.offers? = none)
    (drafting : .savingOffer draft ∈ agents.set index next ∨
      .assigningOffer draft ∈ agents.set index next) :
    .savingOffer draft ∈ agents ∨ .assigningOffer draft ∈ agents := by
  refine drafting.imp (fun saving => mem_of_mem_set saving ?_)
    fun assigning => mem_of_mem_set assigning ?_
  · rintro rfl
    cases idle
  · rintro rfl
    cases idle

variable {source : Crowd Database Call} {after : Database}

theorem Turned.creates? {id : ObjectId} (turned : Turned boot database call after next)
    (creating : next.creates? = some id) : call.creates? = some id := by
  cases turned with
  | drafted checked =>
      obtain ⟨product, -, -, -, discountType, -, rfl⟩ := draftOffer_eq_ok_iff.mp checked
      exact creating
  | saved draft => exact creating
  | elsewhere still later undrawn offers products =>
      cases next with
      | createOffer newId user body => cases undrawn
      | savingOffer draft => exact absurd trivial later
      | assigningOffer draft => exact absurd trivial later
      | _ => cases creating
  | _ => cases creating

/-- An offer that is stored later was stored before, is saved, or is deleted. -/
theorem Turned.mem_offers {offer : Offer} (turned : Turned boot database call after next)
    (stored : offer ∈ after.offers.docs) :
    offer ∈ database.offers.docs ∨ offer.offerDeleted = true ∨
      ∃ draft, call = .savingOffer draft ∧ offer = draft.offer := by
  cases turned with
  | saved draft =>
      rcases Collection.mem_insert.mp stored with old | ⟨-, rfl⟩
      · exact Or.inl old
      · exact Or.inr (Or.inr ⟨draft, rfl, rfl⟩)
  | expired id =>
      rcases Collection.mem_update.mp stored with ⟨old, -⟩ | ⟨before, -, rfl⟩
      · exact Or.inl old
      · exact Or.inr (Or.inl rfl)
  | elsewhere still later undrawn offers products => exact Or.inl (offers ▸ stored)
  | _ => exact Or.inl stored

/-- An offer that another call assigns goes on waiting for it. -/
theorem Settling.linked_or_waits (settling : Settling source)
    (found : source.agents[index]? = some call) {offer : Offer}
    (stored : offer ∈ source.shared.offers.docs) (live : offer.offerDeleted = false)
    (other : ∀ draft, call ≠ .assigningOffer draft) :
    (∃ product ∈ source.shared.products.docs,
      product.id = offer.productId ∧ product.offer = some offer.id) ∨
    ∃ draft, .assigningOffer draft ∈ source.agents.set index next ∧ draft.offer = offer := by
  refine (settling.offered offer stored live).imp_right ?_
  rintro ⟨draft, assigning, same⟩
  exact ⟨draft, mem_set_of_ne found assigning (other draft).symm, same⟩

/-- A product whose deleted offer another call removes goes on waiting for that. -/
theorem Settling.live_or_removing (settling : Settling source)
    (found : source.agents[index]? = some call) {product : Product} {id : ObjectId}
    (stored : product ∈ source.shared.products.docs) (assigned : product.offer = some id)
    (other : call ≠ .removingOffer id) :
    ∃ offer ∈ source.shared.offers.docs, offer.id = id ∧ offer.productId = product.id ∧
      (offer.offerDeleted = false ∨ .removingOffer id ∈ source.agents.set index next) := by
  obtain ⟨offer, offer_stored, named, link, state⟩ :=
    settling.assigned product stored id assigned
  exact ⟨offer, offer_stored, named, link,
    state.imp_right fun removing => mem_set_of_ne found removing other.symm⟩

variable (settling : Settling source) (found : source.agents[index]? = some call)
  (turned : Turned boot source.shared call after next) (orderly : call.Orderly boot source)

include settling found turned orderly

theorem turned_removing {id : ObjectId}
    (removes : .removingOffer id ∈ source.agents.set index next) :
    (∀ offer ∈ after.offers.docs, offer.id = id → offer.offerDeleted = true) ∧
      ∀ other ∈ source.agents.set index next, other.creates? ≠ some id := by
  have member : call ∈ source.agents := List.mem_of_getElem? found
  have uncreated : (∀ other ∈ source.agents, other.creates? ≠ some id) →
      ∀ other ∈ source.agents.set index next, other.creates? ≠ some id := by
    intro none_creates other stands creating
    rcases List.mem_or_eq_of_mem_set stands with standing | rfl
    · exact none_creates other standing creating
    · exact none_creates call member (turned.creates? creating)
  rcases List.mem_or_eq_of_mem_set removes with standing | rfl
  · obtain ⟨deleted, none_creates⟩ := settling.removing id standing
    refine ⟨fun offer stored named => ?_, uncreated none_creates⟩
    rcases turned.mem_offers stored with old | gone | ⟨draft, rfl, rfl⟩
    · exact deleted offer old named
    · exact gone
    · exact absurd (congrArg some named) (none_creates _ member)
  · cases turned with
    | expired id =>
        refine ⟨fun offer stored named => ?_, uncreated orderly⟩
        rcases Collection.mem_update.mp stored with ⟨-, elsewhere⟩ | ⟨before, -, rfl⟩
        · exact absurd named elsewhere
        · rfl
    | elsewhere still later undrawn offers products => exact absurd trivial later

theorem turned_alone : Exclusive Call.offers? (source.agents.set index next) := by
  refine settling.alone.set found fun taken offering => ?_
  cases turned with
  | drafted checked =>
      obtain ⟨-, untaken⟩ := orderly _ checked
      obtain ⟨product, -, -, -, discountType, -, rfl⟩ := draftOffer_eq_ok_iff.mp checked
      cases offering
      exact Or.inr untaken
  | saved draft => exact Or.inl offering
  | elsewhere still later undrawn offers products =>
      cases next with
      | savingOffer draft => exact absurd trivial later
      | assigningOffer draft => exact absurd trivial later
      | _ => cases offering
  | _ => cases offering

theorem turned_saved {draft : Draft}
    (assigns : .assigningOffer draft ∈ source.agents.set index next) :
    draft.offer ∈ after.offers.docs := by
  cases turned with
  | saved saved =>
      rcases List.mem_or_eq_of_mem_set assigns with standing | same
      · exact Collection.mem_insert_of_mem _ (settling.saved draft standing)
      · cases same
        have fresh := settling.drawn.unsaved _ (List.mem_of_getElem? found) draft.id rfl
        exact Collection.mem_insert.mpr (Or.inr ⟨fresh, rfl⟩)
  | expired id =>
      have standing := mem_of_mem_set assigns nofun
      refine Collection.mem_update.mpr (Or.inl ⟨settling.saved draft standing, ?_⟩)
      exact fun named => orderly _ standing (congrArg some named)
  | elsewhere still later undrawn offers products =>
      rw [offers]
      refine settling.saved draft (mem_of_mem_set assigns ?_)
      rintro rfl
      exact later trivial
  | _ => exact settling.saved draft (mem_of_mem_set assigns nofun)

omit settling found turned in
theorem unoffered_of_deletes (still : ¬ call.WritesLink) {product : Product}
    (stored : product ∈ source.shared.products.docs) (deletes : call.Deletes product) :
    Unoffered source product.id := by
  cases call with
  | savingOffer draft => exact absurd trivial still
  | assigningOffer draft => exact absurd trivial still
  | deletingProduct id => exact orderly product stored deletes
  | deletingProducts storeId => exact orderly product stored deletes
  | _ => exact deletes.elim

theorem turned_drafted {draft : Draft}
    (drafting : .savingOffer draft ∈ source.agents.set index next ∨
      .assigningOffer draft ∈ source.agents.set index next) :
    ∃ product ∈ after.products.docs, product.id = draft.body.productId ∧
      product.offer = none ∧ draft.body.offerStock ≤ totalQuantity product := by
  cases turned with
  | drafted checked =>
      obtain ⟨stock, -⟩ := orderly _ checked
      obtain ⟨product, product_found, -, free, discountType, -, rfl⟩ :=
        draftOffer_eq_ok_iff.mp checked
      obtain ⟨stored, named⟩ := Collection.findById?_eq_some_iff.mp product_found
      rcases drafting with saving | assigning
      · rcases List.mem_or_eq_of_mem_set saving with standing | same
        · exact settling.drafted draft (Or.inl standing)
        · cases same
          exact ⟨product, stored, named, free, stock⟩
      · exact settling.drafted draft (Or.inr (mem_of_mem_set assigning nofun))
  | saved saved =>
      rcases drafting with saving | assigning
      · exact settling.drafted draft (Or.inl (mem_of_mem_set saving nofun))
      · rcases List.mem_or_eq_of_mem_set assigning with standing | same
        · exact settling.drafted draft (Or.inr standing)
        · cases same
          exact settling.drafted draft (Or.inl (List.mem_of_getElem? found))
  | assigned assigned =>
      obtain ⟨product, stored, named, rest⟩ := settling.drafted draft (drafting_of_set rfl drafting)
      refine ⟨product, Collection.mem_update.mpr (Or.inl ⟨stored, fun same => ?_⟩), named, rest⟩
      have taken : draft.body.productId = assigned.body.productId := named.symm.trans same
      have dropped : ∀ other ∈ source.agents.set index (.answered none),
          other.offers? ≠ some assigned.body.productId :=
        settling.alone.dropped found rfl (Option.some_ne_none _).symm
      rcases drafting with saving | assigning
      · exact dropped _ saving (congrArg some taken)
      · exact dropped _ assigning (congrArg some taken)
  | expired id => exact settling.drafted draft (drafting_of_set rfl drafting)
  | removed offered =>
      obtain ⟨product, stored, named, free, stock⟩ :=
        settling.drafted draft (drafting_of_set rfl drafting)
      obtain ⟨other_stored, assigned⟩ := offered?_spec offered
      refine ⟨product, Collection.mem_update.mpr (Or.inl ⟨stored, fun same => ?_⟩), named, free,
        stock⟩
      rw [Collection.eq_of_id_eq stored other_stored same, assigned] at free
      cases free
  | unassigned missing => exact settling.drafted draft (drafting_of_set rfl drafting)
  | elsewhere still later undrawn offers products =>
      have idle : next.offers? = none := by
        cases next with
        | savingOffer draft => exact absurd trivial later
        | assigningOffer draft => exact absurd trivial later
        | _ => rfl
      have drafted := drafting_of_set idle drafting
      obtain ⟨product, stored, named, rest⟩ := settling.drafted draft drafted
      refine ⟨product, (products product).mpr ⟨stored, fun deletes => ?_⟩, named, rest⟩
      obtain ⟨-, untaken⟩ := unoffered_of_deletes orderly still stored deletes
      rcases drafted with saving | assigning
      · exact untaken _ saving (congrArg some named.symm)
      · exact untaken _ assigning (congrArg some named.symm)

theorem turned_offered {offer : Offer} (stored : offer ∈ after.offers.docs)
    (live : offer.offerDeleted = false) :
    (∃ product ∈ after.products.docs,
      product.id = offer.productId ∧ product.offer = some offer.id) ∨
    ∃ draft, .assigningOffer draft ∈ source.agents.set index next ∧ draft.offer = offer := by
  have member : call ∈ source.agents := List.mem_of_getElem? found
  cases turned with
  | drafted checked => exact settling.linked_or_waits found stored live fun _ => nofun
  | saved saved =>
      rcases Collection.mem_insert.mp stored with old | ⟨-, rfl⟩
      · exact settling.linked_or_waits found old live fun _ => nofun
      · have bound : index < source.agents.length := (List.getElem?_eq_some_iff.mp found).1
        exact Or.inr ⟨saved, List.mem_set bound _, rfl⟩
  | assigned assigned =>
      obtain ⟨product, product_stored, named, free, -⟩ :=
        settling.drafted assigned (Or.inr member)
      rcases settling.offered offer stored live with ⟨other, other_stored, link, offered⟩ |
        ⟨draft, assigning, same⟩
      · refine Or.inl ⟨other, Collection.mem_update.mpr (Or.inl ⟨other_stored, ?_⟩), link, offered⟩
        intro here
        rw [Collection.eq_of_id_eq other_stored product_stored (here.trans named.symm), free]
          at offered
        cases offered
      · by_cases own : draft = assigned
        · subst own
          subst same
          have here : source.shared.products.findById? draft.body.productId = some product :=
            Collection.findById?_eq_some_iff.mpr ⟨product_stored, named⟩
          exact Or.inl ⟨draft.assign.apply product,
            (Collection.mem_update_of_found here).mpr (Or.inr rfl), named, rfl⟩
        · refine Or.inr ⟨draft, mem_set_of_ne found assigning fun equal => own ?_, same⟩
          cases equal
          rfl
  | expired id =>
      exact settling.linked_or_waits found (mem_expired stored live).1 live fun _ => nofun
  | @removed id product offered =>
      obtain ⟨product_stored, assigned⟩ := offered?_spec offered
      refine (settling.linked_or_waits found stored live fun _ => nofun).imp_left ?_
      rintro ⟨other, other_stored, link, named⟩
      refine ⟨other, Collection.mem_update.mpr (Or.inl ⟨other_stored, fun here => ?_⟩), link, named⟩
      rw [Collection.eq_of_id_eq other_stored product_stored here, assigned] at named
      have deleted := (settling.removing id member).1 offer stored (Option.some.inj named).symm
      cases live.symm.trans deleted
  | unassigned missing => exact settling.linked_or_waits found stored live fun _ => nofun
  | elsewhere still later undrawn offers products =>
      rw [offers] at stored
      have not_assigning : ∀ draft, call ≠ .assigningOffer draft := by
        rintro draft rfl
        exact still trivial
      refine (settling.linked_or_waits found stored live not_assigning).imp_left ?_
      rintro ⟨product, product_stored, link, named⟩
      refine ⟨product, (products product).mpr ⟨product_stored, fun deletes => ?_⟩, link, named⟩
      obtain ⟨unoffered, -⟩ := unoffered_of_deletes orderly still product_stored deletes
      exact unoffered offer stored live link.symm

theorem turned_assigned {product : Product} {id : ObjectId}
    (stored : product ∈ after.products.docs) (assigned : product.offer = some id) :
    ∃ offer ∈ after.offers.docs, offer.id = id ∧ offer.productId = product.id ∧
      (offer.offerDeleted = false ∨ .removingOffer id ∈ source.agents.set index next) := by
  have member : call ∈ source.agents := List.mem_of_getElem? found
  cases turned with
  | drafted checked => exact settling.live_or_removing found stored assigned nofun
  | saved saved =>
      obtain ⟨offer, offer_stored, rest⟩ :=
        settling.live_or_removing found stored assigned nofun
      exact ⟨offer, Collection.mem_insert_of_mem _ offer_stored, rest⟩
  | assigned draft =>
      rcases Collection.mem_update.mp stored with ⟨old, -⟩ | ⟨before, here, rfl⟩
      · exact settling.live_or_removing found old assigned nofun
      · cases assigned
        exact ⟨draft.offer, settling.saved draft member, rfl,
          (Collection.findById?_eq_some_iff.mp here).2.symm, Or.inl rfl⟩
  | expired expiredId =>
      obtain ⟨offer, offer_stored, named, link, state⟩ :=
        settling.live_or_removing found stored assigned nofun
      by_cases same : id = expiredId
      · subst same
        have here : source.shared.offers.findById? id = some offer :=
          Collection.findById?_eq_some_iff.mpr ⟨offer_stored, named⟩
        have bound : index < source.agents.length := (List.getElem?_eq_some_iff.mp found).1
        exact ⟨expireOffer.apply offer, (Collection.mem_update_of_found here).mpr (Or.inr rfl),
          named, link, Or.inr (List.mem_set bound _)⟩
      · exact ⟨offer, Collection.mem_update.mpr (Or.inl ⟨offer_stored, fun at_id =>
          same (named.symm.trans at_id)⟩), named, link, state⟩
  | @removed removedId removed offered =>
      obtain ⟨removed_stored, removed_assigned⟩ := offered?_spec offered
      rcases Collection.mem_update.mp stored with ⟨old, elsewhere⟩ | ⟨before, -, rfl⟩
      · refine settling.live_or_removing found old assigned fun same => ?_
        cases same
        obtain ⟨offer, offer_stored, named, link, -⟩ := settling.assigned product old id assigned
        obtain ⟨other, other_stored, other_named, other_link, -⟩ :=
          settling.assigned removed removed_stored id removed_assigned
        rw [Collection.eq_of_id_eq offer_stored other_stored (named.trans other_named.symm)] at link
        exact elsewhere (link.symm.trans other_link)
      · cases assigned
  | @unassigned removedId missing =>
      refine settling.live_or_removing found stored assigned fun same => ?_
      cases same
      exact offered?_eq_none_iff.mp missing product stored assigned
  | elsewhere still later undrawn offers products =>
      rw [offers]
      refine settling.live_or_removing found ((products product).mp stored).1 assigned ?_
      rintro rfl
      exact still trivial

end Turns

theorem callTurn_settling {source target : Crowd Database Call} {turn : Nat × Time}
    (settling : Settling source) (stepped : callTurn? source turn = some target)
    (orderly : Orderly source turn target) : Settling target := by
  have drawn := callTurn_drawn settling.drawn stepped
  obtain ⟨call, after, next, found, turned, rfl⟩ := callTurn_spec stepped
  have fits := orderly call found
  exact ⟨fun _ stored _ => turned_assigned settling found turned fits stored,
    fun _ => turned_offered settling found turned fits,
    fun _ => turned_drafted settling found turned fits,
    fun _ => turned_saved settling found turned fits,
    fun _ => turned_removing settling found turned fits,
    turned_alone settling found turned fits, drawn⟩

/-- Every state of a run is linked, and every offer covered by the stock, exactly when no
turn touches a link.  In an orderly run every offer is covered, and every state between
calls is linked. -/
theorem linked_runs {calls : List Call} (entry : ∀ call ∈ calls, call.Entry)
    (drawn : Drawn ⟨database, calls⟩) (linked : Linked database) (turns : List (Nat × Time)) :
    ((Always callTurn? (fun crowd => Linked crowd.shared) ⟨database, calls⟩ turns ∧
        EveryStep callTurn? StockFits ⟨database, calls⟩ turns) ↔
      EveryStep callTurn? LeavesLinks ⟨database, calls⟩ turns) ∧
    (EveryStep callTurn? Orderly ⟨database, calls⟩ turns →
      Always callTurn? (fun crowd => AtRest crowd → Linked crowd.shared) ⟨database, calls⟩ turns ∧
        EveryStep callTurn? StockFits ⟨database, calls⟩ turns) := by
  have not_assigning : ∀ draft, .assigningOffer draft ∉ calls := fun _ => entry _
  have not_saving : ∀ draft, .savingOffer draft ∉ calls := fun _ => entry _
  have not_removing : ∀ id, .removingOffer id ∉ calls := fun _ => entry _
  have untouched : Untouched ⟨database, calls⟩ := ⟨linked, drawn, not_assigning⟩
  constructor
  · rw [always_linked_iff untouched turns, and_iff_left_iff_imp]
    refine fun leaves => leaves.mono fun source turn target _ guard draft saving => ?_
    exact (guard _ saving).elim
  · intro orderly
    have idle : ∀ call ∈ calls, call.offers? = none := by
      intro call member
      have begun := entry call member
      cases call with
      | savingOffer draft => cases begun
      | assigningOffer draft => cases begun
      | _ => rfl
    have settling : Settling ⟨database, calls⟩ := by
      refine ⟨?_, fun offer stored live => Or.inl (linked.offered offer stored live),
        fun draft drafting => ?_, fun draft assigning => absurd assigning (not_assigning draft),
        fun id removing => absurd removing (not_removing id), ?_, drawn⟩
      · intro product stored id assigned
        obtain ⟨offer, offer_stored, named, link, live⟩ :=
          linked.assigned product stored id assigned
        exact ⟨offer, offer_stored, named, link, Or.inl live⟩
      · exact (drafting.elim (not_saving draft) (not_assigning draft)).elim
      · intro left right first second shared at_left _ offering _
        cases (idle first (List.mem_of_getElem? at_left)).symm.trans offering
    constructor
    · exact (always_of_everyStep (fun _ _ _ => callTurn_settling) settling orderly).mono
        fun _ => Settling.linked
    · refine everyStep_of_invariant Settling (fun source turn target settled stepped guard =>
        ⟨fun draft saving => ?_, callTurn_settling settled stepped guard⟩) settling orderly
      obtain ⟨product, stored, named, -, stock⟩ :=
        settled.drafted draft (Or.inl (List.mem_of_getElem? saving))
      exact ⟨product, Collection.findById?_eq_some_iff.mpr ⟨stored, named⟩, stock⟩

/-! ## A product that is deleted under its offer -/

/-- The seller creates an offer and does something else about it. -/
def sale (offerStock : ℚ) (later : Call) : List Call :=
  [.createOffer 31 ⟨2, .seller⟩ (fifthOff offerStock), later]

/-- The offer is created, and then the other call takes its two turns. -/
def saleTurns : List (Nat × Time) := [(0, 0), (0, 0), (0, 0), (1, 0), (1, 0)]

theorem sale_drawn (offerStock : ℚ) {later : Call} (undrawn : later.newId? = none) :
    Drawn ⟨unofferedMarket, sale offerStock later⟩ := by
  have first : ∀ (place : Nat) call id, (sale offerStock later)[place]? = some call →
      call.newId? = some id → place = 0 := by
    intro place call id stands reserved
    match place with
    | 0 => rfl
    | 1 =>
        cases stands
        cases undrawn.symm.trans reserved
    | _ + 2 => cases stands
  constructor
  · intro left right one other id at_left at_right reserved again
    exact (first left one id at_left reserved).trans (first right other id at_right again).symm
  · exact fun _ _ _ _ => rfl

theorem sale_entry (offerStock : ℚ) {later : Call} (entry : later.Entry) :
    ∀ call ∈ sale offerStock later, call.Entry := by
  intro call member
  rcases List.mem_pair.mp member with rfl | rfl
  · trivial
  · exact entry

theorem orderly_of_found {source target : Crowd Database Call} {turn : Nat × Time} {call : Call}
    (found : source.agents[turn.1]? = some call) (orderly : call.Orderly turn.2 source) :
    Orderly source turn target :=
  (forall_turn_iff found).mpr orderly

/-- An offer of the whole stock that is deleted later. -/
theorem endedSale_orderly :
    EveryStep callTurn? Orderly ⟨unofferedMarket, sale 5 (.deleteOffer 31)⟩ saleTurns := by
  refine .cons rfl (orderly_of_found rfl fun draft checked => ?_)
    (.cons rfl (orderly_of_found rfl fun _ _ => False.elim)
      (.cons rfl (orderly_of_found rfl fun _ _ => False.elim)
        (.cons rfl (orderly_of_found rfl fun call member => ?_)
          (.cons rfl (orderly_of_found rfl fun _ _ => False.elim) trivial))))
  · obtain ⟨product, found, -, -, discountType, -, rfl⟩ := draftOffer_eq_ok_iff.mp checked
    cases found
    have enough : (5 : ℚ) ≤ totalQuantity fiveUnits := by decide +kernel
    refine ⟨enough, fun call member => ?_⟩
    rcases List.mem_pair.mp member with rfl | rfl
    · exact (Option.some_ne_none _).symm
    · exact (Option.some_ne_none _).symm
  · rcases List.mem_pair.mp member with rfl | rfl
    · exact (Option.some_ne_none _).symm
    · exact (Option.some_ne_none _).symm

theorem endedSale_linked :
    Always callTurn? (fun crowd => AtRest crowd → Linked crowd.shared)
        ⟨unofferedMarket, sale 5 (.deleteOffer 31)⟩ saleTurns ∧
      EveryStep callTurn? StockFits ⟨unofferedMarket, sale 5 (.deleteOffer 31)⟩ saleTurns :=
  have entry : (Call.deleteOffer 31).Entry := trivial
  (linked_runs (sale_entry 5 entry) (sale_drawn 5 rfl) unofferedMarket_linked saleTurns).2
    endedSale_orderly

/-- A thousand units of five are offered, and the product is deleted under the offer. -/
theorem brokenSale_not_linked :
    Linked unofferedMarket ∧
      Drawn ⟨unofferedMarket, sale 1000 (.deleteProduct ⟨2, .seller⟩ 20)⟩ ∧
      (∃ target, run? callTurn?
          ⟨unofferedMarket, sale 1000 (.deleteProduct ⟨2, .seller⟩ 20)⟩ saleTurns = some target ∧
        AtRest target ∧ ¬ Linked target.shared) ∧
      ¬ EveryStep callTurn? StockFits
        ⟨unofferedMarket, sale 1000 (.deleteProduct ⟨2, .seller⟩ 20)⟩ saleTurns := by
  refine ⟨unofferedMarket_linked, sale_drawn 1000 rfl, ⟨_, rfl, ?_, ?_⟩, ?_⟩
  · intro call member
    have answered : call ∈ [Call.answered none, .answered none] := member
    rcases List.mem_pair.mp answered with rfl | rfl
    · exact Or.inr ⟨none, rfl⟩
    · exact Or.inr ⟨none, rfl⟩
  · intro linked
    obtain ⟨product, stored, -⟩ := linked.offered
      (newOffer 0 fiveUnits 31 (fifthOff 1000) .percentage) (List.mem_singleton.mpr rfl) rfl
    cases stored
  · intro every
    obtain ⟨-, later⟩ := every _ rfl
    obtain ⟨fits, -⟩ := later _ rfl
    obtain ⟨product, found, stock⟩ := fits ⟨0, fiveUnits, 31, fifthOff 1000, .percentage⟩ rfl
    cases found
    have short : ¬ (1000 : ℚ) ≤ totalQuantity fiveUnits := by decide +kernel
    exact short stock

end Proximity.Catalogue.Links
