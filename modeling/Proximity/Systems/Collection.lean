import Mathlib.Data.List.Nodup

/-!
# Document collections

A collection is a list of documents in natural order whose ids are distinct.
An update is a change that keeps the id, so no operation can build a collection
with two documents of one id.
-/

namespace Proximity.Systems

universe u v

/-- A type of documents with an id field. -/
class Document (Doc : Type u) (Id : outParam (Type v)) where
  id : Doc → Id

structure Collection (Doc : Type u) {Id : Type v} [Document Doc Id] where
  docs : List Doc
  distinct : (docs.map Document.id).Nodup

/-- A change of a document that does not touch its id. -/
structure Update (Doc : Type u) {Id : Type v} [Document Doc Id] where
  apply : Doc → Doc
  keepsId : ∀ doc, Document.id (apply doc) = Document.id doc

namespace Collection

variable {Doc : Type u} {Id : Type v} [Document Doc Id]

def empty : Collection Doc := ⟨[], List.nodup_nil⟩

theorem eq_of_docs_eq {first second : Collection Doc} (same : first.docs = second.docs) :
    first = second := by
  cases first
  cases second
  cases same
  rfl

section Reads

variable [DecidableEq Id]

def findById? (collection : Collection Doc) (id : Id) : Option Doc :=
  collection.docs.find? fun doc => decide (Document.id doc = id)

omit [DecidableEq Id] in
/-- `findOne`: the first match in natural order. -/
def findOne? (collection : Collection Doc) (filter : Doc → Bool) : Option Doc :=
  collection.docs.find? filter

omit [DecidableEq Id] in
theorem eq_of_id_eq {collection : Collection Doc} {first second : Doc}
    (left : first ∈ collection.docs) (right : second ∈ collection.docs)
    (same : Document.id first = Document.id second) : first = second :=
  List.inj_on_of_nodup_map collection.distinct left right same

theorem findById?_eq_some_iff {collection : Collection Doc} {id : Id} {doc : Doc} :
    collection.findById? id = some doc ↔ doc ∈ collection.docs ∧ Document.id doc = id := by
  constructor
  · intro found
    exact ⟨List.mem_of_find?_eq_some found, by simpa using List.find?_some found⟩
  · rintro ⟨member, rfl⟩
    cases found : collection.findById? (Document.id doc) with
    | none =>
        have missed := List.find?_eq_none.mp found doc member
        simp at missed
    | some other =>
        have here := List.mem_of_find?_eq_some found
        have same : Document.id other = Document.id doc := by
          simpa using List.find?_some found
        rw [eq_of_id_eq here member same]

theorem findById?_eq_none_iff {collection : Collection Doc} {id : Id} :
    collection.findById? id = none ↔ ∀ doc ∈ collection.docs, Document.id doc ≠ id := by
  simp [findById?]

omit [DecidableEq Id] in
theorem findOne?_spec {collection : Collection Doc} {filter : Doc → Bool} {doc : Doc}
    (found : collection.findOne? filter = some doc) :
    doc ∈ collection.docs ∧ filter doc = true :=
  ⟨List.mem_of_find?_eq_some found, List.find?_some found⟩

omit [DecidableEq Id] in
theorem findOne?_eq_none_iff {collection : Collection Doc} {filter : Doc → Bool} :
    collection.findOne? filter = none ↔ ∀ doc ∈ collection.docs, filter doc = false := by
  simp [findOne?]

end Reads

section Writes

variable [DecidableEq Id]

/-- Insertion of a new document; a stored document of that id makes it fail. -/
def insert (collection : Collection Doc) (doc : Doc) : Collection Doc :=
  if fresh : Document.id doc ∈ collection.docs.map Document.id then collection
  else
    ⟨collection.docs ++ [doc], by
      rw [List.map_append, List.map_singleton, ← List.concat_eq_append]
      exact collection.distinct.concat fresh⟩

def update (collection : Collection Doc) (id : Id) (change : Update Doc) : Collection Doc where
  docs := collection.docs.map fun doc => if Document.id doc = id then change.apply doc else doc
  distinct := by
    have kept : (Document.id ∘ fun doc : Doc =>
        if Document.id doc = id then change.apply doc else doc) = Document.id := by
      funext doc
      simp only [Function.comp_apply]
      split
      · exact change.keepsId doc
      · rfl
    rw [List.map_map, kept]
    exact collection.distinct

def delete (collection : Collection Doc) (id : Id) : Collection Doc where
  docs := collection.docs.filter fun doc => decide (Document.id doc ≠ id)
  distinct := collection.distinct.sublist (List.filter_sublist.map _)

omit [DecidableEq Id] in
def deleteMany (collection : Collection Doc) (filter : Doc → Bool) : Collection Doc where
  docs := collection.docs.filter fun doc => !filter doc
  distinct := collection.distinct.sublist (List.filter_sublist.map _)

theorem mem_insert {collection : Collection Doc} {inserted doc : Doc} :
    doc ∈ (collection.insert inserted).docs ↔
      doc ∈ collection.docs ∨
        (collection.findById? (Document.id inserted) = none ∧ doc = inserted) := by
  unfold insert
  split
  case isTrue taken =>
      have found : collection.findById? (Document.id inserted) ≠ none := by
        obtain ⟨other, member, same⟩ := List.mem_map.mp taken
        exact fun missing => findById?_eq_none_iff.mp missing other member same
      simp [found]
  case isFalse fresh =>
      have missing : collection.findById? (Document.id inserted) = none :=
        findById?_eq_none_iff.mpr fun other member same =>
          fresh (List.mem_map.mpr ⟨other, member, same⟩)
      simp [missing]

theorem mem_insert_of_mem {collection : Collection Doc} (inserted : Doc) {doc : Doc}
    (member : doc ∈ collection.docs) : doc ∈ (collection.insert inserted).docs :=
  mem_insert.mpr (Or.inl member)

theorem mem_update {collection : Collection Doc} {id : Id} {change : Update Doc} {doc : Doc} :
    doc ∈ (collection.update id change).docs ↔
      (doc ∈ collection.docs ∧ Document.id doc ≠ id) ∨
        ∃ before, collection.findById? id = some before ∧ change.apply before = doc := by
  simp only [update, List.mem_map]
  constructor
  · rintro ⟨before, member, rfl⟩
    by_cases here : Document.id before = id
    · rw [if_pos here]
      exact Or.inr ⟨before, findById?_eq_some_iff.mpr ⟨member, here⟩, rfl⟩
    · rw [if_neg here]
      exact Or.inl ⟨member, here⟩
  · rintro (⟨member, elsewhere⟩ | ⟨before, found, rfl⟩)
    · exact ⟨doc, member, if_neg elsewhere⟩
    · obtain ⟨member, here⟩ := findById?_eq_some_iff.mp found
      exact ⟨before, member, if_pos here⟩

/-- An update of a stored document leaves the others and the changed one. -/
theorem mem_update_of_found {collection : Collection Doc} {id : Id} {change : Update Doc}
    {before doc : Doc} (found : collection.findById? id = some before) :
    doc ∈ (collection.update id change).docs ↔
      (doc ∈ collection.docs ∧ Document.id doc ≠ id) ∨ doc = change.apply before := by
  rw [mem_update, found]
  simp [eq_comm]

/-- A property of all documents stays when the change keeps it. -/
theorem forall_update {collection : Collection Doc} {id : Id} {change : Update Doc}
    {Holds : Doc → Prop} (all : ∀ doc ∈ collection.docs, Holds doc)
    (changed : ∀ doc ∈ collection.docs, Document.id doc = id → Holds (change.apply doc)) :
    ∀ doc ∈ (collection.update id change).docs, Holds doc := by
  intro doc stored
  rcases mem_update.mp stored with ⟨old, -⟩ | ⟨before, found, rfl⟩
  · exact all doc old
  · obtain ⟨there, named⟩ := findById?_eq_some_iff.mp found
    exact changed before there named

/-- All documents have a property after an update of a stored one exactly when the others have
it and the changed one has it. -/
theorem forall_update_iff_and {collection : Collection Doc} {id : Id} {change : Update Doc}
    {Holds : Doc → Prop} {before : Doc} (found : collection.findById? id = some before) :
    (∀ doc ∈ (collection.update id change).docs, Holds doc) ↔
      (∀ doc ∈ collection.docs, Document.id doc ≠ id → Holds doc) ∧
        Holds (change.apply before) := by
  simp only [mem_update_of_found found, or_imp, and_imp, forall_and, forall_eq]

/-- When all other documents have a property, all have it after an update of a stored one
exactly when the changed document has it. -/
theorem forall_update_iff {collection : Collection Doc} {id : Id} {change : Update Doc}
    {Holds : Doc → Prop} {before : Doc}
    (others : ∀ doc ∈ collection.docs, Document.id doc ≠ id → Holds doc)
    (found : collection.findById? id = some before) :
    (∀ doc ∈ (collection.update id change).docs, Holds doc) ↔ Holds (change.apply before) :=
  (forall_update_iff_and found).trans (and_iff_right others)

/-- Two changes that agree on the stored document are one update. -/
theorem update_congr {collection : Collection Doc} {id : Id} {first second : Update Doc}
    (agree : ∀ doc, collection.findById? id = some doc → first.apply doc = second.apply doc) :
    collection.update id first = collection.update id second := by
  refine eq_of_docs_eq (List.map_congr_left fun doc stored => ?_)
  split
  case isTrue here => exact agree doc (findById?_eq_some_iff.mpr ⟨stored, here⟩)
  case isFalse => rfl

theorem mem_delete {collection : Collection Doc} {id : Id} {doc : Doc} :
    doc ∈ (collection.delete id).docs ↔ doc ∈ collection.docs ∧ Document.id doc ≠ id := by
  simp [delete]

omit [DecidableEq Id] in
theorem mem_deleteMany {collection : Collection Doc} {filter : Doc → Bool} {doc : Doc} :
    doc ∈ (collection.deleteMany filter).docs ↔ doc ∈ collection.docs ∧ filter doc = false := by
  simp [deleteMany]

@[simp] theorem findById?_update (collection : Collection Doc) (id other : Id)
    (change : Update Doc) :
    (collection.update id change).findById? other =
      if other = id then (collection.findById? id).map change.apply
      else collection.findById? other := by
  ext doc
  rw [findById?_eq_some_iff, mem_update]
  by_cases here : other = id
  · subst here
    rw [if_pos rfl, Option.map_eq_some_iff]
    constructor
    · rintro ⟨⟨-, elsewhere⟩ | found, same⟩
      · exact absurd same elsewhere
      · exact found
    · rintro ⟨before, found, rfl⟩
      exact ⟨Or.inr ⟨before, found, rfl⟩,
        (change.keepsId before).trans (findById?_eq_some_iff.mp found).2⟩
  · rw [if_neg here, findById?_eq_some_iff]
    constructor
    · rintro ⟨⟨member, -⟩ | ⟨before, found, rfl⟩, same⟩
      · exact ⟨member, same⟩
      · rw [change.keepsId, (findById?_eq_some_iff.mp found).2] at same
        exact absurd same.symm here
    · rintro ⟨member, same⟩
      exact ⟨Or.inl ⟨member, fun at_id => here (same.symm.trans at_id)⟩, same⟩

@[simp] theorem findById?_delete (collection : Collection Doc) (id other : Id) :
    (collection.delete id).findById? other =
      if other = id then none else collection.findById? other := by
  ext doc
  rw [findById?_eq_some_iff, mem_delete]
  by_cases here : other = id
  · subst here
    simp only [if_pos, reduceCtorEq, iff_false]
    rintro ⟨⟨-, elsewhere⟩, same⟩
    exact elsewhere same
  · rw [if_neg here, findById?_eq_some_iff]
    constructor
    · rintro ⟨⟨member, -⟩, same⟩
      exact ⟨member, same⟩
    · rintro ⟨member, same⟩
      exact ⟨⟨member, fun at_id => here (same.symm.trans at_id)⟩, same⟩

@[simp] theorem findById?_insert (collection : Collection Doc) (inserted : Doc) (id : Id) :
    (collection.insert inserted).findById? id =
      (collection.findById? id).or (if Document.id inserted = id then some inserted else none) := by
  ext doc
  rw [findById?_eq_some_iff, mem_insert, Option.or_eq_some_iff, findById?_eq_some_iff]
  constructor
  · rintro ⟨member | ⟨fresh, rfl⟩, rfl⟩
    · exact Or.inl ⟨member, rfl⟩
    · exact Or.inr ⟨fresh, if_pos rfl⟩
  · rintro (⟨member, same⟩ | ⟨fresh, here⟩)
    · exact ⟨Or.inl member, same⟩
    · split at here
      case isTrue same =>
          cases here
          exact ⟨Or.inr ⟨same ▸ fresh, rfl⟩, same⟩
      case isFalse => cases here

/-- Insertion of several documents, one after the other. -/
def insertAll (collection : Collection Doc) (docs : List Doc) : Collection Doc :=
  docs.foldl insert collection

/-- What is stored stays, whatever is inserted. -/
theorem findById?_insertAll_of_some {collection : Collection Doc} {id : Id} {doc : Doc}
    (stored : collection.findById? id = some doc) (docs : List Doc) :
    (collection.insertAll docs).findById? id = some doc := by
  induction docs generalizing collection with
  | nil => exact stored
  | cons first rest ih => exact ih (by rw [findById?_insert, stored, Option.some_or])

theorem findById?_insertAll_of_none {collection : Collection Doc} {id : Id}
    (missing : collection.findById? id = none) {docs : List Doc}
    (others : ∀ doc ∈ docs, Document.id doc ≠ id) :
    (collection.insertAll docs).findById? id = none := by
  induction docs generalizing collection with
  | nil => exact missing
  | cons first rest ih =>
      obtain ⟨other, others⟩ := List.forall_mem_cons.mp others
      exact ih (by rw [findById?_insert, missing, Option.none_or, if_neg other]) others

/-- Documents of ids of their own are all there after their insertion. -/
theorem findById?_insertAll_of_mem {collection : Collection Doc} {docs : List Doc} {doc : Doc}
    (own : (docs.map Document.id).Nodup)
    (unused : ∀ doc ∈ docs, collection.findById? (Document.id doc) = none)
    (member : doc ∈ docs) :
    (collection.insertAll docs).findById? (Document.id doc) = some doc := by
  induction docs generalizing collection with
  | nil => cases member
  | cons first rest ih =>
      rw [List.map_cons, List.nodup_cons] at own
      obtain ⟨free, others⟩ := List.forall_mem_cons.mp unused
      rcases List.mem_cons.mp member with rfl | later
      · exact findById?_insertAll_of_some
          (by rw [findById?_insert, free, Option.none_or, if_pos rfl]) rest
      · refine ih own.2 (fun other among => ?_) later
        have different : Document.id first ≠ Document.id other := fun same =>
          own.1 (same ▸ List.mem_map_of_mem among)
        rw [findById?_insert, others other among, Option.none_or, if_neg different]

/-- The document takes the place of the stored one of its id. -/
def become (doc : Doc) : Update Doc where
  apply stored := if Document.id stored = Document.id doc then doc else stored
  keepsId stored := by
    split
    case isTrue same => exact same.symm
    case isFalse => rfl

/-- The document is stored in place of the one of its id, or as a new one. -/
def put (collection : Collection Doc) (doc : Doc) : Collection Doc :=
  (collection.update (Document.id doc) (become doc)).insert doc

@[simp] theorem findById?_put (collection : Collection Doc) (doc : Doc) (id : Id) :
    (collection.put doc).findById? id =
      if id = Document.id doc then some doc else collection.findById? id := by
  rw [put, findById?_insert, findById?_update]
  split
  case isTrue here =>
      cases found : collection.findById? (Document.id doc) with
      | none => rw [Option.map_none, Option.none_or, if_pos here.symm]
      | some before =>
          have same := (findById?_eq_some_iff.mp found).2
          exact congrArg some (if_pos same)
  case isFalse elsewhere => rw [if_neg (Ne.symm elsewhere), Option.or_none]

theorem mem_put {collection : Collection Doc} {doc other : Doc} :
    other ∈ (collection.put doc).docs ↔
      (other ∈ collection.docs ∧ Document.id other ≠ Document.id doc) ∨ other = doc := by
  have stored_iff : other ∈ (collection.put doc).docs ↔
      (collection.put doc).findById? (Document.id other) = some other := by
    rw [findById?_eq_some_iff, and_iff_left rfl]
  rw [stored_iff, findById?_put]
  split
  case isTrue here =>
      rw [Option.some.injEq, eq_comm]
      exact ⟨Or.inr, fun either => either.resolve_left fun both => both.2 here⟩
  case isFalse elsewhere =>
      rw [findById?_eq_some_iff, and_iff_left rfl]
      constructor
      · exact fun stored => Or.inl ⟨stored, elsewhere⟩
      · rintro (⟨stored, -⟩ | rfl)
        · exact stored
        · exact absurd rfl elsewhere

theorem update_of_fresh {collection : Collection Doc} {id : Id} (change : Update Doc)
    (fresh : id ∉ collection.docs.map Document.id) : collection.update id change = collection := by
  refine eq_of_docs_eq ?_
  have same : ∀ doc ∈ collection.docs,
      (if Document.id doc = id then change.apply doc else doc) = doc := fun doc stored => by
    rw [if_neg]
    rintro rfl
    exact fresh (List.mem_map_of_mem stored)
  exact (List.map_congr_left same).trans (List.map_id' collection.docs)

/-- A document of a new id comes last. -/
theorem docs_put_of_fresh {collection : Collection Doc} {doc : Doc}
    (fresh : Document.id doc ∉ collection.docs.map Document.id) :
    (collection.put doc).docs = collection.docs ++ [doc] := by
  rw [put, update_of_fresh (become doc) fresh, insert, dif_neg fresh]

/-- Several documents, one after the other. -/
def putAll (collection : Collection Doc) (docs : List Doc) : Collection Doc :=
  docs.foldl put collection

theorem docs_putAll_of_distinct {collection : Collection Doc} {docs : List Doc}
    (distinct : ((collection.docs ++ docs).map Document.id).Nodup) :
    (collection.putAll docs).docs = collection.docs ++ docs := by
  induction docs generalizing collection with
  | nil => exact (List.append_nil _).symm
  | cons doc rest ih =>
      have fresh : Document.id doc ∉ collection.docs.map Document.id := by
        rw [List.map_append, List.nodup_append] at distinct
        exact fun there => distinct.2.2 _ there _ List.mem_cons_self rfl
      have placed := docs_put_of_fresh fresh
      have later : ((collection.put doc).putAll rest).docs = (collection.put doc).docs ++ rest := by
        refine ih ?_
        rw [placed, List.append_assoc]
        exact distinct
      rw [placed, List.append_assoc] at later
      exact later

/-- What is deleted need not be updated before. -/
theorem delete_update (collection : Collection Doc) (id : Id) (change : Update Doc) :
    (collection.update id change).delete id = collection.delete id := by
  refine eq_of_docs_eq ?_
  simp only [update, delete]
  induction collection.docs with
  | nil => rfl
  | cons doc rest ih =>
      by_cases here : Document.id doc = id
      · simpa [here, change.keepsId] using ih
      · simpa [here] using ih

end Writes

end Collection

/-- An entry of a map, which is a collection of entries. -/
structure MapEntry (Key : Type u) (Value : Type v) where
  key : Key
  value : Value
  deriving DecidableEq, Repr

instance (Key : Type u) (Value : Type v) : Document (MapEntry Key Value) Key := ⟨MapEntry.key⟩

/-! ## Write logs -/

/-- One write of a request. -/
inductive Write (Doc : Type u) {Id : Type v} [Document Doc Id] where
  | insert (doc : Doc)
  | update (id : Id) (change : Update Doc)
  | delete (id : Id)

namespace Write

variable {Doc : Type u} {Id : Type v} [Document Doc Id] [DecidableEq Id]

def apply (collection : Collection Doc) : Write Doc → Collection Doc
  | .insert doc => collection.insert doc
  | .update id change => collection.update id change
  | .delete id => collection.delete id

omit [DecidableEq Id] in
/-- The write changes or deletes the stored document of that id. -/
def Targets (id : Id) : Write Doc → Prop
  | .insert _ => False
  | .update other _ => other = id
  | .delete other => other = id

def applyAll (collection : Collection Doc) (writes : List (Write Doc)) : Collection Doc :=
  writes.foldl apply collection

/-- The document is stored when some write of the list changes or deletes it. -/
def Touched : Collection Doc → List (Write Doc) → Doc → Prop
  | _, [], _ => False
  | collection, write :: rest, doc =>
      (doc ∈ collection.docs ∧ write.Targets (Document.id doc)) ∨
        Touched (write.apply collection) rest doc

theorem mem_apply_of_not_targets {collection : Collection Doc} {write : Write Doc} {doc : Doc}
    (member : doc ∈ collection.docs) (free : ¬ write.Targets (Document.id doc)) :
    doc ∈ (write.apply collection).docs := by
  cases write with
  | insert inserted => exact Collection.mem_insert_of_mem inserted member
  | update id change => exact Collection.mem_update.mpr (Or.inl ⟨member, Ne.symm free⟩)
  | delete id => exact Collection.mem_delete.mpr ⟨member, Ne.symm free⟩

/-- A stored document that no write touches is stored unchanged at the end. -/
theorem mem_applyAll_of_not_touched {collection : Collection Doc} {writes : List (Write Doc)}
    {doc : Doc} (member : doc ∈ collection.docs) (free : ¬ Touched collection writes doc) :
    doc ∈ (applyAll collection writes).docs := by
  induction writes generalizing collection with
  | nil => exact member
  | cons write rest ih =>
      rw [Touched, not_or, not_and] at free
      exact ih (mem_apply_of_not_targets member (free.1 member)) free.2

theorem touched_append {collection : Collection Doc} {first second : List (Write Doc)}
    {doc : Doc} : Touched collection (first ++ second) doc ↔
      Touched collection first doc ∨ Touched (applyAll collection first) second doc := by
  induction first generalizing collection with
  | nil => simp [Touched, applyAll]
  | cons write rest ih =>
      simp only [List.cons_append, Touched, ih, or_assoc]
      rfl

theorem touched_singleton {collection : Collection Doc} {write : Write Doc} {doc : Doc} :
    Touched collection [write] doc ↔
      doc ∈ collection.docs ∧ write.Targets (Document.id doc) := by
  simp [Touched]

/-- Insertions touch no stored document. -/
theorem not_touched_inserts (collection : Collection Doc) (inserted : List Doc) (doc : Doc) :
    ¬ Touched collection (inserted.map insert) doc := by
  induction inserted generalizing collection with
  | nil => exact id
  | cons head rest ih =>
      rw [List.map_cons, Touched, not_or]
      exact ⟨fun both => both.2, ih _⟩

theorem docs_applyAll_deletes (collection : Collection Doc) (ids : List Id) :
    (applyAll collection (ids.map delete)).docs =
      collection.docs.filter fun doc => decide (Document.id doc ∉ ids) := by
  induction ids generalizing collection with
  | nil => simp [applyAll]
  | cons id rest ih =>
      have later : (applyAll (collection.delete id) (rest.map delete)).docs =
          (collection.docs.filter fun doc => decide (Document.id doc ≠ id)).filter
            fun doc => decide (Document.id doc ∉ rest) := ih _
      have first : applyAll collection ((id :: rest).map delete) =
          applyAll (collection.delete id) (rest.map delete) := rfl
      rw [first, later, List.filter_filter]
      refine List.filter_congr fun doc _ => ?_
      rw [Bool.eq_iff_iff]
      simp [and_comm]

theorem mem_applyAll_deletes {collection : Collection Doc} {ids : List Id} {doc : Doc} :
    doc ∈ (applyAll collection (ids.map delete)).docs ↔
      doc ∈ collection.docs ∧ Document.id doc ∉ ids := by
  rw [docs_applyAll_deletes, List.mem_filter, decide_eq_true_iff]

theorem touched_deletes {collection : Collection Doc} {ids : List Id} {doc : Doc} :
    Touched collection (ids.map delete) doc ↔
      doc ∈ collection.docs ∧ Document.id doc ∈ ids := by
  induction ids generalizing collection with
  | nil => simp [Touched]
  | cons id rest ih =>
      rw [List.map_cons, Touched, List.mem_cons]
      constructor
      · rintro (⟨stored, here⟩ | later)
        · exact ⟨stored, Or.inl here.symm⟩
        · obtain ⟨stored, there⟩ := ih.mp later
          exact ⟨(Collection.mem_delete.mp stored).1, Or.inr there⟩
      · rintro ⟨stored, here | there⟩
        · exact Or.inl ⟨stored, here.symm⟩
        · by_cases same : Document.id doc = id
          · exact Or.inl ⟨stored, same.symm⟩
          · exact Or.inr (ih.mpr ⟨Collection.mem_delete.mpr ⟨stored, same⟩, there⟩)

end Write

end Proximity.Systems
