import Proximity.Orders.Service
import Proximity.Systems.Run

/-!
# Who changes an order

Only the client of an order or the seller of its store should change it.  The
operations check that of the user their body or their path names, so a request
keeps the rule when that user is its own principal, or when the order it names
is the principal's anyway.
-/

namespace Proximity.Orders

open Proximity.Systems Proximity.Models

/-- The principal is the order's client or the seller of its store. -/
def PartyOf (database : Database) (principal : ObjectId) (order : Order) : Prop :=
  principal = order.clientId ∨
    ∃ store, database.stores.findById? order.storeId = some store ∧ principal = store.sellerId

/-- What the rule says of one request: every order that a write of it changes or
deletes is the principal's, and every other stored order stays as it is. -/
structure Authorized (source : Database) (request : Request) (target : Database) : Prop where
  touched : ∀ order, Write.Touched source.orders (writes source request.operation) order →
    PartyOf source request.principal order
  kept : ∀ order ∈ source.orders.docs, ¬ PartyOf source request.principal order →
    order ∈ target.orders.docs

def AuthorizedStep (source : Database) (action : Action) (target : Database) : Prop :=
  match action with
  | .request request => Authorized source request target
  | .elsewhere _ => True

/-! ## Requests that act for their own principal -/

/-- The order that a body names, when stored, is the principal's. -/
def NamesOwn (database : Database) (principal : ObjectId) (orderId : Option ObjectId) : Prop :=
  ∀ order, database.order? orderId = some order → PartyOf database principal order

/-- The body names no user, the principal itself, or an order of the principal. -/
def ActsAs (database : Database) (principal : ObjectId) (userId orderId : Option ObjectId) : Prop :=
  userId = none ∨ userId = some principal ∨ NamesOwn database principal orderId

/-- The order of that id once the elements of the request are saved. -/
def namedAtDelete? (database : Database) (elements : List (Option Order)) (orderId : ObjectId) :
    Option Order :=
  (database.orders.findById? orderId).or
    ((elements.filterMap id).find? fun order => decide (order.id = orderId))

def ActsForItself (database : Database) (request : Request) : Prop :=
  match request.operation with
  | .updateOrdersStatus id body =>
      id = none ∨ NamesOwn database request.principal body.orderId
  | .returnOrders body => ActsAs database request.principal body.userId body.orderId
  | .refundOrders body => ActsAs database request.principal body.userId body.orderId
  | .cancelOrders body => ActsAs database request.principal body.userId body.orderId
  | .createOrderDirectly body =>
      ∀ elements orderId order, createReadable body = .ok elements →
        body.orderId = some orderId → namedAtDelete? database elements orderId = some order →
        PartyOf database request.principal order

def ActsForItselfStep (source : Database) (action : Action) (_ : Database) : Prop :=
  match action with
  | .request request => ActsForItself source request
  | .elsewhere _ => True

/-! ## What each operation writes -/

theorem order?_eq_some {database : Database} {orderId : Option ObjectId} {order : Order}
    (named : database.order? orderId = some order) : order ∈ database.orders.docs := by
  obtain ⟨id, -, stored⟩ := Option.bind_eq_some_iff.mp named
  exact (Collection.findById?_eq_some_iff.mp stored).1

/-- The permission check says that the user it was given is a party of the order. -/
theorem partyOf_of_permitted {database : Database} {userId : ObjectId} {order : Order}
    {permitted : User × Store} (allowed : database.permitted? userId order = some permitted) :
    PartyOf database userId order := by
  unfold Database.permitted? at allowed
  split at allowed
  case h_1 user store isUser isStore =>
      obtain ⟨-, same⟩ := Collection.findById?_eq_some_iff.mp isUser
      rw [← same, User.document_id]
      split at allowed
      case isTrue party =>
          rcases party with client | seller
          · exact Or.inl client
          · exact Or.inr ⟨store, isStore, seller⟩
      case isFalse => cases allowed
  case h_2 => cases allowed

/-- The answer writes nothing, or updates the named order for an allowed reason. -/
def UpdatesNamed (database : Database) (orderId : Option ObjectId) (Allowed : Order → Prop)
    (effect : Effect) : Prop :=
  effect.writes = [] ∨ ∃ order change, database.order? orderId = some order ∧
    Allowed order ∧ effect.writes = [.update order.id change]

theorem updateOrdersStatus_writes {database : Database} {id : Option ObjectId} {body : UpdateBody}
    {effect : Effect} (answered : updateOrdersStatus database id body = .ok effect) :
    UpdatesNamed database body.orderId (fun _ => id ≠ none) effect := by
  rcases updateOrdersStatus_cases answered with
    ⟨-, rfl⟩ | ⟨userId, _, status, order, rfl, -, -, -, named, rfl⟩
  · exact Or.inl rfl
  · exact Or.inr ⟨order, statusUpdate status, named, Option.some_ne_none userId, rfl⟩

/-- Some user that the body names is a party of the order. -/
def ByParty (database : Database) (userId : Option ObjectId) (order : Order) : Prop :=
  ∃ user, userId = some user ∧ PartyOf database user order

/-- An update of the named order after the permission check. -/
theorem updatesNamed_of_permitted {database : Database} {orderId userId : Option ObjectId}
    {user : ObjectId} {order : Order} {permitted : User × Store} (named : userId = some user)
    (stored : database.order? orderId = some order)
    (allowed : database.permitted? user order = some permitted) (change : Update Order)
    (notices : List Notice) :
    UpdatesNamed database orderId (ByParty database userId)
      ⟨[.update order.id change], notices⟩ :=
  Or.inr ⟨order, change, stored, ⟨user, named, partyOf_of_permitted allowed⟩, rfl⟩

theorem returnOrders_writes {database : Database} {body : ReturnBody} {effect : Effect}
    (answered : returnOrders database body = .ok effect) :
    UpdatesNamed database body.orderId (ByParty database body.userId) effect := by
  rcases returnOrders_cases answered with
    ⟨-, rfl⟩ | ⟨_, _, _, _, named, stored, -, -, allowed, -, rfl⟩
  · exact Or.inl rfl
  · exact updatesNamed_of_permitted named stored allowed _ _

theorem refundOrders_writes {database : Database} {body : RefundBody} {effect : Effect}
    (answered : refundOrders database body = .ok effect) :
    UpdatesNamed database body.orderId (ByParty database body.userId) effect := by
  rcases refundOrders_cases answered with
    ⟨-, rfl⟩ | ⟨_, _, _, _, named, stored, -, -, allowed, -, rfl⟩
  · exact Or.inl rfl
  · exact updatesNamed_of_permitted named stored allowed _ _

theorem cancelOrders_writes {database : Database} {body : CancelBody} {effect : Effect}
    (answered : cancelOrders database body = .ok effect) :
    UpdatesNamed database body.orderId (ByParty database body.userId) effect := by
  rcases cancelOrders_cases answered with ⟨-, rfl⟩ | ⟨_, _, _, named, stored, allowed, rfl⟩
  · exact Or.inl rfl
  · exact updatesNamed_of_permitted named stored allowed _ _

theorem createElements_inserts (stores : Collection Store) (orders : Collection Order)
    (elements : List (Option Order)) :
    ∃ inserted : List Order, (createElements stores orders elements).writes =
      inserted.map Write.insert := by
  induction elements generalizing orders with
  | nil => exact ⟨[], rfl⟩
  | cons element rest ih =>
      cases element with
      | none => exact ih orders
      | some order =>
          rw [createElements]
          cases orders.findById? order.id with
          | none =>
              obtain ⟨inserted, later⟩ := ih (orders.insert order)
              exact ⟨order :: inserted, by simpa using later⟩
          | some taken => exact ih orders

theorem findById?_createElements (stores : Collection Store) (orders : Collection Order)
    (elements : List (Option Order)) (orderId : ObjectId) :
    (Write.applyAll orders (createElements stores orders elements).writes).findById? orderId =
      (orders.findById? orderId).or
        ((elements.filterMap id).find? fun order => decide (order.id = orderId)) := by
  induction elements generalizing orders with
  | nil => simp [createElements, Effect.nothing, Write.applyAll]
  | cons element rest ih =>
      cases element with
      | none => simpa [createElements] using ih orders
      | some order =>
          rw [createElements]
          cases taken : orders.findById? order.id with
          | none =>
              have later := ih (orders.insert order)
              rw [Collection.findById?_insert, Option.or_assoc] at later
              refine later.trans (congrArg _ ?_)
              by_cases here : order.id = orderId
              · simp [here]
              · simp [here]
          | some other =>
              refine (ih orders).trans ?_
              by_cases here : order.id = orderId
              · rw [← here, taken]
                rfl
              · simp [here]

/-! ## Runs -/

/-- An update of the named order touches that order alone. -/
theorem updatesNamed_touched {database : Database} {principal : ObjectId}
    {orderId : Option ObjectId} {Allowed : Order → Prop} {effect : Effect}
    (updates : UpdatesNamed database orderId Allowed effect)
    (party : ∀ order, database.order? orderId = some order → Allowed order →
      PartyOf database principal order)
    {order : Order} (touched : Write.Touched database.orders effect.writes order) :
    PartyOf database principal order := by
  rcases updates with none_written | ⟨updated, change, named, allowed, one_written⟩
  · rw [none_written] at touched
    exact touched.elim
  · rw [one_written, Write.touched_singleton] at touched
    obtain ⟨stored, same⟩ := touched
    rw [Collection.eq_of_id_eq stored (order?_eq_some named) same.symm]
    exact party updated named allowed

theorem byParty_partyOf {database : Database} {principal : ObjectId}
    {userId orderId : Option ObjectId} (acts : ActsAs database principal userId orderId)
    {order : Order} (named : database.order? orderId = some order)
    (allowed : ByParty database userId order) : PartyOf database principal order := by
  obtain ⟨user, rfl, party⟩ := allowed
  rcases acts with absent | itself | own
  · cases absent
  · cases itself
    exact party
  · exact own order named

theorem createOrderDirectly_touched {database : Database} {principal : ObjectId}
    {body : CreateBody}
    (acts : ActsForItself database ⟨principal, .createOrderDirectly body⟩) {order : Order}
    (touched : Write.Touched database.orders (createOrderDirectly database body).writes order) :
    PartyOf database principal order := by
  unfold createOrderDirectly at touched
  cases readable : createReadable body with
  | error failure =>
      rw [readable] at touched
      exact touched.elim
  | ok elements =>
      rw [readable] at touched
      obtain ⟨inserted, inserts⟩ :=
        createElements_inserts database.stores database.orders elements
      have fresh : ¬ Write.Touched database.orders
          (createElements database.stores database.orders elements).writes order := by
        rw [inserts]
        exact Write.not_touched_inserts database.orders inserted order
      cases deleted : body.orderId with
      | none =>
          rw [deleted] at touched
          exact absurd touched fresh
      | some orderId =>
          rw [deleted] at touched
          rcases Write.touched_append.mp touched with created | last
          · exact absurd created fresh
          · obtain ⟨stored, same⟩ := Write.touched_singleton.mp last
            have there := Collection.findById?_eq_some_iff.mpr ⟨stored, same.symm⟩
            rw [findById?_createElements] at there
            exact acts elements orderId order readable deleted there

theorem request_touched {database : Database} {request : Request}
    (acts : ActsForItself database request) {order : Order}
    (touched : Write.Touched database.orders (writes database request.operation) order) :
    PartyOf database request.principal order := by
  obtain ⟨principal, operation⟩ := request
  unfold writes at touched
  cases answered : respond database operation with
  | error failure =>
      rw [answered] at touched
      exact touched.elim
  | ok effect =>
      rw [answered] at touched
      cases operation with
      | updateOrdersStatus id body =>
          refine updatesNamed_touched (updateOrdersStatus_writes answered) ?_ touched
          intro order named given
          exact (acts.resolve_left given) order named
      | returnOrders body =>
          exact updatesNamed_touched (returnOrders_writes answered)
            (fun _ named allowed => byParty_partyOf acts named allowed) touched
      | refundOrders body =>
          exact updatesNamed_touched (refundOrders_writes answered)
            (fun _ named allowed => byParty_partyOf acts named allowed) touched
      | cancelOrders body =>
          exact updatesNamed_touched (cancelOrders_writes answered)
            (fun _ named allowed => byParty_partyOf acts named allowed) touched
      | createOrderDirectly body =>
          cases answered
          exact createOrderDirectly_touched acts touched

theorem step_authorized {source target : Database} {action : Action}
    (stepped : step? source action = some target)
    (acts : ActsForItselfStep source action target) : AuthorizedStep source action target := by
  cases action with
  | request request =>
      cases stepped
      refine ⟨fun order touched => request_touched acts touched, fun order stored stranger => ?_⟩
      exact Write.mem_applyAll_of_not_touched stored
        fun touched => stranger (request_touched acts touched)
  | elsewhere other => trivial

/-- In every run whose requests act for their own principal, every order is
changed and deleted only by its client or the seller of its store. -/
theorem authorized_of_actsForItself (database : Database) (actions : List Action)
    (guarded : EveryStep step? ActsForItselfStep database actions) :
    EveryStep step? AuthorizedStep database actions :=
  guarded.mono fun _ _ _ stepped acts => step_authorized stepped acts

/-! ## A stranger that names the client -/

def clientOrder : Order where
  id := 100
  clientId := 1
  storeId := 10
  items := [⟨"product", "variant", 5, 0, 1⟩]
  pickUp := true
  delivery := false
  status := .pending
  returnFlag := none
  returnItems := []
  returnMotif := none
  waitingforReturn := none
  returned := none
  returnedItems := []
  refundPaymentInfos := none
  refund := none
  canceled := none
  canceledBy := none

/-- The order of client 1 in the store of seller 2, and a third user. -/
def marketplace : Database where
  users := ⟨[⟨1, some "client", none, none, "", .user, true, false, none⟩,
    ⟨2, some "seller", none, none, "", .seller, true, false, none⟩,
    ⟨3, some "stranger", none, none, "", .user, true, false, none⟩], by decide⟩
  stores := ⟨[⟨10, 2, "store", "", "", true⟩], by decide⟩
  orders := ⟨[clientOrder], by decide⟩

def cancels (principal userId : ObjectId) : Action :=
  .request ⟨principal, .cancelOrders ⟨some userId, some 100, none⟩⟩

/-- The client cancels its own order. -/
theorem clientCancels_authorized : EveryStep step? ActsForItselfStep marketplace [cancels 1 1] ∧
    EveryStep step? AuthorizedStep marketplace [cancels 1 1] := by
  have guarded : EveryStep step? ActsForItselfStep marketplace [cancels 1 1] :=
    fun _ _ => ⟨Or.inr (Or.inl rfl), trivial⟩
  exact ⟨guarded, authorized_of_actsForItself marketplace [cancels 1 1] guarded⟩

/-- User 3 cancels the order of client 1 by naming client 1 in the body. -/
theorem strangerCancels_not_authorized :
    ¬ EveryStep step? AuthorizedStep marketplace [cancels 3 1] := by
  intro every
  obtain ⟨authorized, -⟩ := every _ rfl
  have party : PartyOf marketplace 3 clientOrder :=
    authorized.touched clientOrder (Or.inl ⟨List.mem_singleton.mpr rfl, rfl⟩)
  rcases party with client | ⟨store, found, seller⟩
  · exact absurd client (by decide)
  · cases found
    exact absurd seller (by decide)

end Proximity.Orders
