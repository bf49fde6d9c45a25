import Proximity.Orders.Changes

/-!
# Who is told of an operation

Every operation chooses the recipient of its notice in its own way, and several can be
performed by the client of the order and by the seller of its store.
-/

namespace Proximity.Orders

open Proximity.Systems Proximity.Models

/-- The user that performs the operation of a request; the service takes it from where it
checks the permission. -/
def Request.performer (request : Request) : Option ObjectId :=
  match request.operation with
  | .updateOrdersStatus id _ => id
  | .returnOrders body => body.userId
  | .refundOrders body => body.userId
  | .cancelOrders body => body.userId
  | .createOrderDirectly _ => some request.principal

/-- The effect changes the stored order, or stores it. -/
def OperatesOn (database : Database) (effect : Effect) (order : Order) : Prop :=
  (order ∈ database.orders.docs ∧ ∃ change, Write.update order.id change ∈ effect.writes) ∨
    Write.insert order ∈ effect.writes

/-- Some notice about the order is for the user. -/
def Notified (effect : Effect) (order : Order) (owner : ObjectId) : Prop :=
  ∃ notice ∈ effect.notices, notice.order = order.id ∧ notice.owner = owner

/-- The recipients are the parties of the order other than the user. -/
def OthersTold (database : Database) (effect : Effect) (order : Order) (user : ObjectId) : Prop :=
  ∀ owner, Notified effect order owner ↔ PartyOf database owner order ∧ owner ≠ user

/-- The user does not sell in the store of the order. -/
def NotSelling (database : Database) (order : Order) (user : ObjectId) : Prop :=
  ∀ store, database.stores.findById? order.storeId = some store → user ≠ store.sellerId

/-- The user is not the one that the operation always writes to; a cancellation writes to the
one who cancels. -/
def ByTheOther (database : Database) (order : Order) (user : ObjectId) : Operation → Prop
  | .updateOrdersStatus _ _ => user ≠ order.clientId
  | .returnOrders _ => NotSelling database order user
  | .refundOrders _ => user ≠ order.clientId
  | .cancelOrders _ => False
  | .createOrderDirectly _ => NotSelling database order user

/-- The recipient that the operation chooses. -/
def Operation.recipient? (database : Database) (order : Order) (user : ObjectId) :
    Operation → Option ObjectId
  | .updateOrdersStatus _ _ => some order.clientId
  | .returnOrders _ => (database.stores.findById? order.storeId).map Store.sellerId
  | .refundOrders _ => some order.clientId
  | .cancelOrders _ => some user
  | .createOrderDirectly _ => (database.stores.findById? order.storeId).map Store.sellerId

/-! ## The notices of each operation -/

/-- One update and one notice, both of the named order. -/
theorem notified_iff_of_single {database : Database} {named order : Order}
    {orderId : Option ObjectId} {change : Update Order} {notice : Notice}
    (stored : database.order? orderId = some named)
    (operates : OperatesOn database ⟨[.update named.id change], [notice]⟩ order)
    (about : notice.order = named.id) (owner : ObjectId) :
    order = named ∧
      (Notified ⟨[.update named.id change], [notice]⟩ order owner ↔ notice.owner = owner) := by
  rcases operates with ⟨there, other, written⟩ | inserted
  · have same : order.id = named.id := (Write.update.inj (List.mem_singleton.mp written)).1
    cases Collection.eq_of_id_eq there (order?_eq_some stored) same
    exact ⟨rfl, by simp [Notified, about]⟩
  · cases List.mem_singleton.mp inserted

theorem mem_createNotice {stores : Collection Store} {order : Order} {notice : Notice}
    (sent : notice ∈ createNotice stores order) : notice.order = order.id := by
  unfold createNotice at sent
  split at sent
  case h_1 => rw [List.mem_singleton.mp sent]
  case h_2 => cases sent

/-- The saves of the elements tell nobody of an order whose id is taken. -/
theorem createElements_notices_fresh {stores : Collection Store} {orders : Collection Order}
    {elements : List (Option Order)} {notice : Notice}
    (sent : notice ∈ (createElements stores orders elements).notices) :
    orders.findById? notice.order = none := by
  induction elements generalizing orders with
  | nil => cases sent
  | cons element rest ih =>
      cases element with
      | none => exact ih sent
      | some first =>
          rw [createElements] at sent
          cases taken : orders.findById? first.id with
          | some other =>
              rw [taken] at sent
              exact ih sent
          | none =>
              rw [taken] at sent
              rcases List.mem_append.mp sent with own | later
              · rw [mem_createNotice own, taken]
              · have fresh := ih later
                rw [Collection.findById?_insert, Option.or_eq_none_iff] at fresh
                exact fresh.1

theorem createElements_inserts_fresh {stores : Collection Store} {orders : Collection Order}
    {elements : List (Option Order)} {order : Order}
    (inserted : Write.insert order ∈ (createElements stores orders elements).writes) :
    orders.findById? order.id = none := by
  induction elements generalizing orders with
  | nil => cases inserted
  | cons element rest ih =>
      cases element with
      | none => exact ih inserted
      | some first =>
          rw [createElements] at inserted
          cases taken : orders.findById? first.id with
          | some other =>
              rw [taken] at inserted
              exact ih inserted
          | none =>
              rw [taken] at inserted
              rcases List.mem_cons.mp inserted with here | later
              · cases here
                exact taken
              · have fresh := ih later
                rw [Collection.findById?_insert, Option.or_eq_none_iff] at fresh
                exact fresh.1

theorem createNotice_owner (stores : Collection Store) (order : Order) (owner : ObjectId) :
    (∃ notice ∈ createNotice stores order, notice.owner = owner) ↔
      (stores.findById? order.storeId).map Store.sellerId = some owner := by
  unfold createNotice
  cases stores.findById? order.storeId with
  | none => simp
  | some store => simp

/-- A new order is announced to the seller of its store, if that is stored. -/
theorem createElements_notified {stores : Collection Store} {orders : Collection Order}
    {elements : List (Option Order)} {order : Order}
    (inserted : Write.insert order ∈ (createElements stores orders elements).writes)
    (owner : ObjectId) :
    Notified (createElements stores orders elements) order owner ↔
      (stores.findById? order.storeId).map Store.sellerId = some owner := by
  induction elements generalizing orders with
  | nil => cases inserted
  | cons element rest ih =>
      cases element with
      | none => exact ih inserted
      | some first =>
          rw [createElements] at inserted ⊢
          cases taken : orders.findById? first.id with
          | some other =>
              rw [taken] at inserted
              exact ih inserted
          | none =>
              rw [taken] at inserted
              have after : (orders.insert first).findById? first.id = some first := by
                simp [taken]
              have split : ∀ told, Notified
                  ⟨.insert first :: (createElements stores (orders.insert first) rest).writes,
                    createNotice stores first ++
                      (createElements stores (orders.insert first) rest).notices⟩ told owner ↔
                  (∃ notice ∈ createNotice stores first,
                    notice.order = told.id ∧ notice.owner = owner) ∨
                  Notified (createElements stores (orders.insert first) rest) told owner := by
                intro told
                simp only [Notified, List.mem_append, or_and_right, exists_or]
              rw [split]
              rcases List.mem_cons.mp inserted with here | later
              · cases here
                rw [← createNotice_owner]
                constructor
                · rintro (⟨notice, own, -, same⟩ | ⟨notice, sent, about, -⟩)
                  · exact ⟨notice, own, same⟩
                  · have fresh := createElements_notices_fresh sent
                    rw [about, after] at fresh
                    cases fresh
                · rintro ⟨notice, own, same⟩
                  exact Or.inl ⟨notice, own, mem_createNotice own, same⟩
              · have fresh := createElements_inserts_fresh later
                have other : first.id ≠ order.id := by
                  intro same
                  rw [← same, after] at fresh
                  cases fresh
                rw [← ih later]
                constructor
                · rintro (⟨notice, own, about, -⟩ | sent)
                  · exact absurd ((mem_createNotice own).symm.trans about) other
                  · exact sent
                · exact Or.inr

theorem createOrderDirectly_notified {database : Database} {body : CreateBody} {order : Order}
    (operates : OperatesOn database (createOrderDirectly database body) order)
    (owner : ObjectId) :
    Notified (createOrderDirectly database body) order owner ↔
      (database.stores.findById? order.storeId).map Store.sellerId = some owner := by
  unfold createOrderDirectly at operates ⊢
  cases readable : createReadable body with
  | error failure =>
      rw [readable] at operates
      rcases operates with ⟨-, change, written⟩ | inserted
      · cases written
      · cases inserted
  | ok elements =>
      rw [readable] at operates
      have inserted : Write.insert order ∈
          (createElements database.stores database.orders elements).writes := by
        obtain ⟨documents, inserts⟩ :=
          createElements_inserts database.stores database.orders elements
        cases deleted : body.orderId with
        | none =>
            rw [deleted] at operates
            simpa [OperatesOn, inserts] using operates
        | some orderId =>
            rw [deleted] at operates
            simpa [OperatesOn, inserts] using operates
      have told := createElements_notified inserted owner
      cases body.orderId with
      | none => exact told
      | some orderId => exact told

/-- Every operation tells the one that it chooses. -/
theorem notified_iff {database : Database} {request : Request} {effect : Effect}
    (answered : respond database request.operation = .ok effect) {user : ObjectId}
    (performed : request.performer = some user) {order : Order}
    (operates : OperatesOn database effect order) (owner : ObjectId) :
    Notified effect order owner ↔
      request.operation.recipient? database order user = some owner := by
  obtain ⟨principal, operation⟩ := request
  cases operation with
  | updateOrdersStatus id body =>
      rcases updateOrdersStatus_cases answered with
        ⟨absent, -⟩ | ⟨_, _, status, named, -, -, -, -, stored, rfl⟩
      · cases absent.symm.trans performed
      · obtain ⟨rfl, told⟩ := notified_iff_of_single stored operates rfl owner
        simpa [Operation.recipient?] using told
  | returnOrders body =>
      rcases returnOrders_cases answered with
        ⟨absent, -⟩ | ⟨_, named, items, permitted, given, stored, -, -, allowed, -, rfl⟩
      · cases absent.symm.trans performed
      · obtain ⟨rfl, told⟩ := notified_iff_of_single stored operates rfl owner
        simpa [Operation.recipient?, (permitted_spec allowed).2.1] using told
  | refundOrders body =>
      rcases refundOrders_cases answered with
        ⟨absent, -⟩ | ⟨_, named, items, permitted, given, stored, -, -, allowed, -, rfl⟩
      · cases absent.symm.trans performed
      · obtain ⟨rfl, told⟩ := notified_iff_of_single stored operates rfl owner
        simpa [Operation.recipient?] using told
  | cancelOrders body =>
      rcases cancelOrders_cases answered with
        ⟨absent, -⟩ | ⟨_, named, permitted, given, stored, allowed, rfl⟩
      · cases absent.symm.trans performed
      · obtain ⟨rfl, told⟩ := notified_iff_of_single stored operates rfl owner
        cases given.symm.trans performed
        obtain ⟨same, -, party⟩ := permitted_spec allowed
        have itself : (if permitted.1.id = order.clientId then order.clientId
            else permitted.2.sellerId) = user := by
          rw [same]
          split
          case isTrue client => exact client.symm
          case isFalse stranger => exact (party.resolve_left stranger).symm
        rw [told, itself]
        simp [Operation.recipient?]
  | createOrderDirectly body =>
      cases answered
      exact createOrderDirectly_notified operates owner

/-! ## The other party -/

/-- Telling the client tells the other party exactly when it was not the client that acted. -/
theorem client_other_iff {database : Database} {order : Order} {user : ObjectId}
    (party : PartyOf database user order) :
    (∀ owner, some order.clientId = some owner ↔ PartyOf database owner order ∧ owner ≠ user) ↔
      user ≠ order.clientId := by
  constructor
  · intro told same
    exact ((told order.clientId).mp rfl).2 same.symm
  · intro other owner
    obtain ⟨store, found, sells⟩ := party.resolve_left other
    constructor
    · rintro ⟨⟩
      exact ⟨Or.inl rfl, other.symm⟩
    · rintro ⟨client | ⟨store', found', seller⟩, different⟩
      · rw [client]
      · cases found.symm.trans found'
        exact absurd (seller.trans sells.symm) different

/-- Telling the seller tells the other party exactly when it was not the seller that acted. -/
theorem seller_other_iff {database : Database} {order : Order} {user : ObjectId}
    (party : PartyOf database user order) :
    (∀ owner, (database.stores.findById? order.storeId).map Store.sellerId = some owner ↔
      PartyOf database owner order ∧ owner ≠ user) ↔ NotSelling database order user := by
  constructor
  · intro told store found same
    have chosen := (told store.sellerId).mp (by rw [found]; rfl)
    exact chosen.2 same.symm
  · intro other owner
    have client : user = order.clientId :=
      party.resolve_right fun ⟨store, found, sells⟩ => other store found sells
    constructor
    · intro chosen
      obtain ⟨store, found, rfl⟩ := Option.map_eq_some_iff.mp chosen
      exact ⟨Or.inr ⟨store, found, rfl⟩, (other store found).symm⟩
    · rintro ⟨isClient | ⟨store, found, seller⟩, different⟩
      · exact absurd (isClient.trans client.symm) different
      · rw [found, seller]
        rfl

/-- A party's operation tells exactly the other party when it is performed by the one that the
operation does not write to; a cancellation never does. -/
theorem othersTold_iff {database : Database} {request : Request} {effect : Effect}
    (answered : respond database request.operation = .ok effect) {user : ObjectId}
    (performed : request.performer = some user) {order : Order}
    (operates : OperatesOn database effect order) (party : PartyOf database user order) :
    OthersTold database effect order user ↔
      ByTheOther database order user request.operation := by
  simp only [OthersTold, notified_iff answered performed operates]
  cases request.operation with
  | updateOrdersStatus id body => exact client_other_iff party
  | returnOrders body => exact seller_other_iff party
  | refundOrders body => exact client_other_iff party
  | cancelOrders body =>
      refine iff_of_false (fun told => ?_) not_false
      exact ((told user).mp rfl).2 rfl
  | createOrderDirectly body => exact seller_other_iff party

def clientReturnsOrder : Request :=
  ⟨1, .returnOrders ⟨some 1, some 100, .text (some [⟨"variant", 1⟩]), none⟩⟩

theorem clientOrder_party : PartyOf marketplace 1 clientOrder := Or.inl rfl

/-- The client asks for a return. -/
theorem clientReturnsOrder_told_iff :
    ∃ effect, respond marketplace clientReturnsOrder.operation = .ok effect ∧
      (OthersTold marketplace effect clientOrder 1 ↔
        ByTheOther marketplace clientOrder 1 clientReturnsOrder.operation) := by
  have answered : respond marketplace clientReturnsOrder.operation =
      .ok ⟨[.update 100 (returnUpdate [⟨"variant", 1⟩] none)],
        [⟨2, "Return", 100, "Return Request",
          "You have recived a new return request [ " ++ toString 100 ++ " ]"⟩]⟩ := rfl
  have operates : OperatesOn marketplace ⟨[.update 100 (returnUpdate [⟨"variant", 1⟩] none)],
      [⟨2, "Return", 100, "Return Request",
        "You have recived a new return request [ " ++ toString 100 ++ " ]"⟩]⟩ clientOrder :=
    Or.inl ⟨List.mem_singleton_self _, _, List.mem_singleton_self _⟩
  exact ⟨_, answered, othersTold_iff answered rfl operates clientOrder_party⟩

def clientCancelsOrder : Request := ⟨1, .cancelOrders ⟨some 1, some 100, none⟩⟩

/-- The client cancels the order and is told of it. -/
theorem clientCancels_not_othersTold :
    ∃ effect, respond marketplace clientCancelsOrder.operation = .ok effect ∧
      OperatesOn marketplace effect clientOrder ∧ PartyOf marketplace 1 clientOrder ∧
      ¬ OthersTold marketplace effect clientOrder 1 := by
  have answered : respond marketplace clientCancelsOrder.operation =
      .ok ⟨[.update 100 (cancelUpdate 1 none)],
        [⟨1, "Cancel", 100, "Order Canceled",
          "Your order has been canceled [ " ++ toString 100 ++ " ]"⟩]⟩ := rfl
  have operates : OperatesOn marketplace ⟨[.update 100 (cancelUpdate 1 none)],
      [⟨1, "Cancel", 100, "Order Canceled",
        "Your order has been canceled [ " ++ toString 100 ++ " ]"⟩]⟩ clientOrder :=
    Or.inl ⟨List.mem_singleton_self _, _, List.mem_singleton_self _⟩
  refine ⟨_, answered, operates, clientOrder_party, fun told => ?_⟩
  have itself : Notified _ clientOrder 1 := (notified_iff answered rfl operates 1).mpr rfl
  exact ((told 1).mp itself).2 rfl

end Proximity.Orders
