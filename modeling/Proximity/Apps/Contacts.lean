import Mathlib.Algebra.Order.Ring.Rat
import Mathlib.Data.List.Nodup
import Proximity.Apps.OrderForms
import Proximity.Systems.Run

/-!
# The client's app: the contacts of an order

The screen that validates an order keeps three lists: who picks it up, where it is delivered
to, and whose card pays.  An entry is added under a number one above the length of its list,
and is selected and deleted by that number.
-/

namespace Proximity.Apps.Client.Contacts

open Proximity.Systems

universe u v

structure Entry (Content : Type u) where
  id : Option Int
  content : Content
  selected : Bool
  dbId : Option String
  deriving DecidableEq, Repr

/-- An entry of a server's list; its `id` is overwritten. -/
structure EntryJson (Json : Type v) where
  dbId : Option String
  content : Option Json
  selected : Option Bool
  deriving DecidableEq, Repr

section Lists

variable {Content : Type u} {Json : Type v}

/-! ## What the three models share -/

/-- `fromJson`, after `parsedJson[i]["id"] = i + 1`; `none` is a `TypeError`. -/
def Entry.fromJson (read : Option Json → Option Content) (selected : Option Bool) (i : Nat)
    (parsedJson : EntryJson Json) : Option (Entry Content) :=
  (read parsedJson.content).map fun content =>
    { id := some (i + 1)
      content
      selected := decide (selected = some true) || parsedJson.selected.getD false
      dbId := some (parsedJson.dbId.getD "") }

def Entry.listFrom (read : Option Json → Option Content) (selected : Option Bool) :
    Nat → List (EntryJson Json) → Option (List (Entry Content))
  | _, [] => some []
  | i, parsedJson :: rest => do
      let entry ← Entry.fromJson read selected i parsedJson
      let later ← Entry.listFrom read selected (i + 1) rest
      pure (entry :: later)

def Entry.storeCategoriesFromJsonList (read : Option Json → Option Content)
    (parsedJson : List (EntryJson Json)) (selected : Option Bool) :
    Option (List (Entry Content)) :=
  Entry.listFrom read selected 0 parsedJson

/-- Of delivery addresses too, where a `null` throws once the list is empty. -/
def initEntries (value : Option (List (Entry Content))) : List (Entry Content) :=
  value.getD []

def Entry.choose (id : Option Int) (e : Entry Content) : Entry Content :=
  if e.id = id then { e with selected := true } else { e with selected := false }

/-- Only ticking a box does anything. -/
def changeSelect (value : Option Bool) (id : Option Int) (entries : List (Entry Content)) :
    List (Entry Content) :=
  if entries.any (fun element => decide (element.id = id)) = true ∧ value = some true then
    entries.map (Entry.choose id)
  else entries

def deleteEntry (id : Option Int) (entries : List (Entry Content)) : List (Entry Content) :=
  entries.filter fun element => !decide (element.id = id)

def addEntry (content : Content) (entries : List (Entry Content)) : List (Entry Content) :=
  entries ++ [{ id := some (entries.length + 1), content, selected := false, dbId := none }]

end Lists

/-! ## The three lists of the screen -/

abbrev PickupPerson := Entry String

abbrev AddressOrder := Entry (Option Address)

abbrev InfosContact := Entry ContactInfos

def PickupPerson.storeCategoriesFromJsonList (parsedJson : List (EntryJson String))
    (selected : Option Bool) : Option (List PickupPerson) :=
  Entry.storeCategoriesFromJsonList (fun name => some (name.getD "")) parsedJson selected

def AddressOrder.storeCategoriesFromJsonList (parsedJson : List (EntryJson Address))
    (selected : Option Bool) : Option (List AddressOrder) :=
  Entry.storeCategoriesFromJsonList (fun address => address.map some) parsedJson selected

/-- Contacts without `infos` cannot be read. -/
def InfosContact.storeCategoriesFromJsonList (parsedJson : List (EntryJson ContactInfos))
    (selected : Option Bool) : Option (List InfosContact) :=
  Entry.storeCategoriesFromJsonList (fun infos => infos) parsedJson selected

/-- The part of the screen's state that its contacts and the price of a delivery are kept in. -/
structure Slider where
  pickupPersons : List PickupPerson
  deliveryAddresses : List AddressOrder
  infosContact : List InfosContact
  storeAdresse : Option Address
  maxDeliveryFixe : Option ℚ
  maxDeliveryKm : Option ℚ
  deliveryAdresse : Option Address
  distance : Option ℚ
  totalDelivery : Option ℚ
  deriving DecidableEq, Repr

namespace Slider

def initPickupPersons (slider : Slider) (value : Option (List PickupPerson)) : Slider :=
  { slider with pickupPersons := initEntries value }

def initDeliveryAddresses (slider : Slider) (value : Option (List AddressOrder)) : Slider :=
  { slider with deliveryAddresses := initEntries value }

def initInfoContacts (slider : Slider) (value : Option (List InfosContact)) : Slider :=
  { slider with infosContact := initEntries value }

/-- The screen before its lists are set. -/
def opened (storeAddress : Option Address) (maxDeliveryFixe maxDeliveryKm : Option ℚ) :
    Slider where
  pickupPersons := []
  deliveryAddresses := []
  infosContact := []
  storeAdresse := storeAddress
  maxDeliveryFixe := maxDeliveryFixe
  maxDeliveryKm := maxDeliveryKm
  deliveryAdresse := none
  distance := none
  totalDelivery := if maxDeliveryFixe ≠ some 0 then maxDeliveryFixe else some 0

def initProducts (storeAddress : Option Address) (maxDeliveryFixe maxDeliveryKm : Option ℚ)
    (pickupPersons : Option (List PickupPerson)) (cards : Option (List InfosContact)) : Slider :=
  ((opened storeAddress maxDeliveryFixe maxDeliveryKm).initPickupPersons
    (some (pickupPersons.getD []))).initInfoContacts cards

def changeSelectPickupPerson (slider : Slider) (value : Option Bool) (id : Option Int) : Slider :=
  { slider with pickupPersons := changeSelect value id slider.pickupPersons }

def changeSelectInfosContact (slider : Slider) (value : Option Bool) (id : Option Int) : Slider :=
  { slider with infosContact := changeSelect value id slider.infosContact }

def deletePickupPerson (slider : Slider) (id : Option Int) : Slider :=
  { slider with pickupPersons := deleteEntry id slider.pickupPersons }

def deleteDeliveryAddresse (slider : Slider) (id : Option Int) : Slider :=
  { slider with deliveryAddresses := deleteEntry id slider.deliveryAddresses }

def deleteInfosContact (slider : Slider) (id : Option Int) : Slider :=
  { slider with infosContact := deleteEntry id slider.infosContact }

def addPickupPerson (slider : Slider) (name : String) : Slider :=
  { slider with pickupPersons := addEntry name slider.pickupPersons }

def addDeliveryAddresses (slider : Slider) (value : Address) : Slider :=
  { slider with deliveryAddresses := addEntry (some value) slider.deliveryAddresses }

def addInfosContact (slider : Slider) (value : ContactInfos) : Slider :=
  { slider with infosContact := addEntry value slider.infosContact }

/-! ### The price of a delivery -/

/-- The total is computed from a distance that is not zero only. -/
def reprice (slider : Slider) : Slider :=
  if slider.maxDeliveryFixe = some 0 ∧ slider.maxDeliveryKm ≠ some 0 ∧
      slider.distance ≠ some 0 then
    { slider with
      totalDelivery := some (slider.maxDeliveryKm.getD 1 * slider.distance.getD 1) }
  else slider

def distanceTo (distanceBetween : ℚ → ℚ → ℚ → ℚ → ℚ) (store address : Address) : ℚ :=
  distanceBetween (store.lat.getD 0) (store.lng.getD 0) (address.lat.getD 0) (address.lng.getD 0)

/-- An address that is `null` throws where its distance from the store is asked for, and the
screen goes on. -/
def deliverTo (distanceBetween : ℚ → ℚ → ℚ → ℚ → ℚ) (slider : Slider) (value : Option Address) :
    Slider :=
  match slider.storeAdresse, value with
  | none, _ => reprice { slider with deliveryAdresse := value }
  | some _, none => { slider with deliveryAdresse := none }
  | some store, some address =>
      reprice
        { slider with
          deliveryAdresse := some address
          distance := some (distanceTo distanceBetween store address) }

/-- Every address of the id is delivered to, one after the other. -/
def changeSelectDeliveryAddress (distanceBetween : ℚ → ℚ → ℚ → ℚ → ℚ) (slider : Slider)
    (value : Option Bool) (id : Option Int) : Slider :=
  if value = some true then
    { (slider.deliveryAddresses.filter fun e => decide (e.id = id)).foldl
        (fun slider e => deliverTo distanceBetween slider e.content) slider with
      deliveryAddresses := changeSelect value id slider.deliveryAddresses }
  else slider

def changeDeliveryAddress (distanceBetween : ℚ → ℚ → ℚ → ℚ → ℚ) (slider : Slider)
    (value : Address) : Slider :=
  deliverTo distanceBetween slider (some value)

end Slider

/-! ## The calls of the screen -/

/-- A call that is about one of the lists. -/
inductive EntryCall (Json : Type v) (Content : Type u) where
  | init (selected : Option Bool) (parsedJson : Option (List (EntryJson Json)))
  | select (value : Option Bool) (id : Option Int)
  | delete (id : Option Int)
  | add (content : Content)
  deriving DecidableEq, Repr

inductive ContactCall where
  | pickupPersons (call : EntryCall String String)
  | deliveryAddresses (call : EntryCall Address Address)
  | infosContact (call : EntryCall ContactInfos ContactInfos)
  | changeDeliveryAddress (value : Address)
  deriving DecidableEq, Repr

/-- A list that the server did not send is `null`. -/
def readList {Json : Type v} {Content : Type u}
    (read : List (EntryJson Json) → Option (List (Entry Content))) :
    Option (List (EntryJson Json)) → Option (Option (List (Entry Content)))
  | none => some none
  | some parsedJson => (read parsedJson).map some

def contactStep? (distanceBetween : ℚ → ℚ → ℚ → ℚ → ℚ) (slider : Slider) :
    ContactCall → Option Slider
  | .pickupPersons (.init selected parsedJson) =>
      (readList (PickupPerson.storeCategoriesFromJsonList · selected) parsedJson).map
        slider.initPickupPersons
  | .pickupPersons (.select value id) => some (slider.changeSelectPickupPerson value id)
  | .pickupPersons (.delete id) => some (slider.deletePickupPerson id)
  | .pickupPersons (.add name) => some (slider.addPickupPerson name)
  | .deliveryAddresses (.init selected parsedJson) =>
      (readList (AddressOrder.storeCategoriesFromJsonList · selected) parsedJson).map
        slider.initDeliveryAddresses
  | .deliveryAddresses (.select value id) =>
      some (slider.changeSelectDeliveryAddress distanceBetween value id)
  | .deliveryAddresses (.delete id) => some (slider.deleteDeliveryAddresse id)
  | .deliveryAddresses (.add address) => some (slider.addDeliveryAddresses address)
  | .infosContact (.init selected parsedJson) =>
      (readList (InfosContact.storeCategoriesFromJsonList · selected) parsedJson).map
        slider.initInfoContacts
  | .infosContact (.select value id) => some (slider.changeSelectInfosContact value id)
  | .infosContact (.delete id) => some (slider.deleteInfosContact id)
  | .infosContact (.add infos) => some (slider.addInfosContact infos)
  | .changeDeliveryAddress value => some (slider.changeDeliveryAddress distanceBetween value)

/-! ## What a list should keep -/

section Kept

variable {Content : Type u} {Json : Type v}

structure Kept (entries : List (Entry Content)) : Prop where
  distinct : (entries.map Entry.id).Nodup
  single : (entries.countP fun e => e.selected) ≤ 1

/-- The one entry of the id is taken out, and without such an entry nothing happens. -/
structure RemovesExactly (id : Option Int) (source target : List (Entry Content)) : Prop where
  removed : ∀ front entry back, source = front ++ entry :: back → entry.id = id →
    target = front ++ back
  absent : (∀ entry ∈ source, entry.id ≠ id) → target = source

/-- The one entry of the id is selected, the others are not. -/
structure SelectsExactly (id : Option Int) (source target : List (Entry Content)) : Prop where
  selected : ∀ front entry back, source = front ++ entry :: back → entry.id = id →
    target = front.map (fun e => { e with selected := false }) ++
      { entry with selected := true } :: back.map (fun e => { e with selected := false })
  absent : (∀ entry ∈ source, entry.id ≠ id) → target = source

def EntryCall.Exact {Given : Type*} (source target : List (Entry Content)) :
    EntryCall Json Given → Prop
  | .select value id => value = some true → SelectsExactly id source target
  | .delete id => RemovesExactly id source target
  | .init _ _ | .add _ => True

/-- At most one entry of a server's list comes selected, and the number an entry is added under
is not one of the list's. -/
def EntryCall.Fits {Given : Type*} (source : List (Entry Content)) : EntryCall Json Given → Prop
  | .init selected parsedJson => ∀ entries, parsedJson = some entries →
      (entries.countP fun e => decide (selected = some true) || e.selected.getD false) ≤ 1
  | .add _ => some (source.length + 1 : Int) ∉ source.map Entry.id
  | .select _ _ | .delete _ => True

/-! ## One list -/

/-- An entry of a list that is read, and the entries after it. -/
theorem listFrom_cons {read : Option Json → Option Content} {selected : Option Bool} {i : Nat}
    {json : EntryJson Json} {rest : List (EntryJson Json)} {entries : List (Entry Content)}
    (parsed : Entry.listFrom read selected i (json :: rest) = some entries) :
    ∃ content later, read json.content = some content ∧
      Entry.listFrom read selected (i + 1) rest = some later ∧
      entries = ⟨some (i + 1), content, decide (selected = some true) || json.selected.getD false,
        some (json.dbId.getD "")⟩ :: later := by
  obtain ⟨entry, made, parsed⟩ := Option.bind_eq_some_iff.mp parsed
  obtain ⟨later, remaining, parsed⟩ := Option.bind_eq_some_iff.mp parsed
  obtain ⟨content, given, rfl⟩ := Option.map_eq_some_iff.mp made
  cases parsed
  exact ⟨content, later, given, remaining, rfl⟩

theorem listFrom_ids {read : Option Json → Option Content} {selected : Option Bool} {i : Nat}
    {parsedJson : List (EntryJson Json)} {entries : List (Entry Content)}
    (parsed : Entry.listFrom read selected i parsedJson = some entries) :
    entries.map Entry.id =
      (List.range' (i + 1) parsedJson.length).map fun number : Nat => some (number : Int) := by
  induction parsedJson generalizing i entries with
  | nil =>
      cases parsed
      rfl
  | cons json rest ih =>
      obtain ⟨content, later, _, remaining, rfl⟩ := listFrom_cons parsed
      rw [List.map_cons, ih remaining]
      rfl

theorem listFrom_selected {read : Option Json → Option Content} {selected : Option Bool} {i : Nat}
    {parsedJson : List (EntryJson Json)} {entries : List (Entry Content)}
    (parsed : Entry.listFrom read selected i parsedJson = some entries) :
    (entries.countP fun e => e.selected) =
      parsedJson.countP fun e => decide (selected = some true) || e.selected.getD false := by
  induction parsedJson generalizing i entries with
  | nil =>
      cases parsed
      rfl
  | cons json rest ih =>
      obtain ⟨content, later, _, remaining, rfl⟩ := listFrom_cons parsed
      rw [List.countP_cons, List.countP_cons, ih remaining]

/-- A list that is read is numbered from one on. -/
theorem kept_listFrom_iff {read : Option Json → Option Content} {selected : Option Bool}
    {parsedJson : List (EntryJson Json)} {entries : List (Entry Content)}
    (parsed : Entry.storeCategoriesFromJsonList read parsedJson selected = some entries) :
    Kept entries ↔
      (parsedJson.countP fun e =>
        decide (selected = some true) || e.selected.getD false) ≤ 1 := by
  rw [← listFrom_selected parsed]
  refine ⟨fun kept => kept.single, fun single => ⟨?_, single⟩⟩
  rw [listFrom_ids parsed]
  refine List.Nodup.map (fun left right same => ?_) List.nodup_range'
  simpa using same

theorem kept_nil : Kept ([] : List (Entry Content)) :=
  ⟨List.nodup_nil, Nat.zero_le 1⟩

theorem map_choose_id (id : Option Int) (entries : List (Entry Content)) :
    (entries.map (Entry.choose id)).map Entry.id = entries.map Entry.id := by
  rw [List.map_map]
  refine List.map_congr_left fun e _ => ?_
  rw [Function.comp_apply, Entry.choose]
  split <;> rfl

theorem countP_choose (id : Option Int) (entries : List (Entry Content)) :
    ((entries.map (Entry.choose id)).countP fun e => e.selected) =
      (entries.map Entry.id).count id := by
  rw [List.countP_map, List.count, List.countP_map]
  refine List.countP_congr fun e _ => ?_
  simp only [Function.comp_apply, Entry.choose, beq_iff_eq]
  split <;> simp_all

theorem Kept.changeSelect {entries : List (Entry Content)} (kept : Kept entries)
    (value : Option Bool) (id : Option Int) : Kept (changeSelect value id entries) := by
  unfold Contacts.changeSelect
  split
  case isTrue =>
    refine ⟨by rw [map_choose_id]; exact kept.distinct, ?_⟩
    rw [countP_choose]
    exact List.nodup_iff_count_le_one.mp kept.distinct id
  case isFalse => exact kept

theorem Kept.deleteEntry {entries : List (Entry Content)} (kept : Kept entries)
    (id : Option Int) : Kept (deleteEntry id entries) := by
  have kept_of : (Contacts.deleteEntry id entries).Sublist entries := List.filter_sublist
  exact ⟨kept.distinct.sublist (kept_of.map Entry.id),
    (kept_of.countP_le).trans kept.single⟩

theorem Kept.addEntry_iff {entries : List (Entry Content)} (kept : Kept entries)
    (content : Content) :
    Kept (addEntry content entries) ↔
      some (entries.length + 1 : Int) ∉ entries.map Entry.id := by
  constructor
  · intro added fresh
    have distinct := added.distinct
    rw [addEntry, List.map_append, List.nodup_append] at distinct
    exact distinct.2.2 _ fresh _ (List.mem_singleton.mpr rfl) rfl
  · intro fresh
    constructor
    · rw [addEntry, List.map_append, List.map_singleton, ← List.concat_eq_append]
      exact List.Nodup.concat fresh kept.distinct
    · rw [addEntry, List.countP_append]
      exact kept.single

/-- Around the one entry of an id there is none of it. -/
theorem Kept.around {front back : List (Entry Content)} {entry : Entry Content}
    (kept : Kept (front ++ entry :: back)) :
    ∀ other ∈ front ++ back, other.id ≠ entry.id := by
  have distinct := kept.distinct
  rw [List.map_append, List.map_cons] at distinct
  have apart := (List.nodup_middle.mp distinct)
  rw [List.nodup_cons, ← List.map_append] at apart
  intro other member same
  exact apart.1 (same ▸ List.mem_map_of_mem member)

theorem Kept.removesExactly {entries : List (Entry Content)} (kept : Kept entries)
    (id : Option Int) : RemovesExactly id entries (Contacts.deleteEntry id entries) := by
  constructor
  · rintro front entry back rfl rfl
    have apart := kept.around
    have others : ∀ part : List (Entry Content), (∀ other ∈ part, other.id ≠ entry.id) →
        Contacts.deleteEntry entry.id part = part := fun part different =>
      List.filter_eq_self.mpr fun other member => by
        rw [decide_eq_false (different other member), Bool.not_false]
    rw [Contacts.deleteEntry, List.filter_append, List.filter_cons_of_neg (by simp)]
    congr 1
    · exact others front fun other member => apart other (List.mem_append_left back member)
    · exact others back fun other member => apart other (List.mem_append_right front member)
  · intro absent
    exact List.filter_eq_self.mpr fun other member => by
      rw [decide_eq_false (absent other member), Bool.not_false]

theorem map_choose_of_ne {id : Option Int} {entries : List (Entry Content)}
    (different : ∀ e ∈ entries, e.id ≠ id) :
    entries.map (Entry.choose id) = entries.map fun e => { e with selected := false } :=
  List.map_congr_left fun e member => if_neg (different e member)

theorem Kept.selectsExactly {entries : List (Entry Content)} (kept : Kept entries)
    (id : Option Int) :
    SelectsExactly id entries (Contacts.changeSelect (some true) id entries) := by
  constructor
  · rintro front entry back rfl rfl
    have apart := kept.around
    rw [Contacts.changeSelect, if_pos ⟨by simp, rfl⟩, List.map_append, List.map_cons,
      map_choose_of_ne fun e member => apart e (List.mem_append_left back member),
      map_choose_of_ne fun e member => apart e (List.mem_append_right front member),
      Entry.choose, if_pos rfl]
  · intro absent
    refine if_neg fun present => ?_
    obtain ⟨entry, member, same⟩ := List.any_eq_true.mp present.1
    exact absent entry member (of_decide_eq_true same)

/-- What a call makes of its list. -/
def EntryCall.Acts {Given : Type*} (read : Option Json → Option Content) (store : Given → Content)
    (source target : List (Entry Content)) : EntryCall Json Given → Prop
  | .init selected parsedJson => ∃ value,
      readList (Entry.storeCategoriesFromJsonList read · selected) parsedJson = some value ∧
        target = initEntries value
  | .select value id => target = Contacts.changeSelect value id source
  | .delete id => target = Contacts.deleteEntry id source
  | .add given => target = addEntry (store given) source

section Acts

variable {Given : Type*} {read : Option Json → Option Content} {store : Given → Content}
  {source target : List (Entry Content)} {call : EntryCall Json Given}

theorem EntryCall.Acts.kept_iff (acts : call.Acts read store source target) (kept : Kept source) :
    Kept target ↔ call.Fits source := by
  cases call with
  | init selected parsedJson =>
      obtain ⟨value, parsed, rfl⟩ := acts
      cases parsedJson with
      | none =>
          cases parsed
          exact iff_of_true kept_nil fun entries sent => nomatch sent
      | some parsedJson =>
          obtain ⟨entries, made, rfl⟩ := Option.map_eq_some_iff.mp parsed
          refine (kept_listFrom_iff made).trans ⟨fun single sent same => ?_, fun fits => fits _ rfl⟩
          cases same
          exact single
  | select value id =>
      cases acts
      exact iff_of_true (kept.changeSelect value id) trivial
  | delete id =>
      cases acts
      exact iff_of_true (kept.deleteEntry id) trivial
  | add given =>
      cases acts
      exact kept.addEntry_iff (store given)

theorem EntryCall.Acts.exact (acts : call.Acts read store source target) (kept : Kept source) :
    call.Exact source target := by
  cases call with
  | init selected parsedJson => trivial
  | select value id =>
      cases acts
      rintro rfl
      exact kept.selectsExactly id
  | delete id =>
      cases acts
      exact kept.removesExactly id
  | add given => trivial

end Acts

end Kept

/-! ## The three lists together -/

namespace Slider

structure Kept (slider : Slider) : Prop where
  pickupPersons : Contacts.Kept slider.pickupPersons
  deliveryAddresses : Contacts.Kept slider.deliveryAddresses
  infosContact : Contacts.Kept slider.infosContact

def lists (slider : Slider) : List PickupPerson × List AddressOrder × List InfosContact :=
  (slider.pickupPersons, slider.deliveryAddresses, slider.infosContact)

theorem kept_opened (storeAddress : Option Address) (maxDeliveryFixe maxDeliveryKm : Option ℚ) :
    (opened storeAddress maxDeliveryFixe maxDeliveryKm).Kept :=
  ⟨kept_nil, kept_nil, kept_nil⟩

theorem reprice_lists (slider : Slider) : slider.reprice.lists = slider.lists := by
  unfold reprice
  split <;> rfl

theorem deliverTo_lists (distanceBetween : ℚ → ℚ → ℚ → ℚ → ℚ) (slider : Slider)
    (value : Option Address) : (deliverTo distanceBetween slider value).lists = slider.lists := by
  unfold deliverTo
  split
  · exact reprice_lists _
  · rfl
  · exact reprice_lists _

theorem foldl_deliverTo_lists (distanceBetween : ℚ → ℚ → ℚ → ℚ → ℚ) (slider : Slider)
    (entries : List AddressOrder) :
    (entries.foldl (fun slider e => deliverTo distanceBetween slider e.content) slider).lists =
      slider.lists := by
  induction entries generalizing slider with
  | nil => rfl
  | cons entry rest ih =>
      rw [List.foldl_cons, ih, deliverTo_lists]

theorem changeSelectDeliveryAddress_lists (distanceBetween : ℚ → ℚ → ℚ → ℚ → ℚ) (slider : Slider)
    (value : Option Bool) (id : Option Int) :
    (slider.changeSelectDeliveryAddress distanceBetween value id).lists =
      (slider.pickupPersons, changeSelect value id slider.deliveryAddresses,
        slider.infosContact) := by
  unfold changeSelectDeliveryAddress
  split
  case isTrue =>
    have same := foldl_deliverTo_lists distanceBetween slider
      (slider.deliveryAddresses.filter fun e => decide (e.id = id))
    simp only [lists, Prod.mk.injEq] at same ⊢
    exact ⟨same.1, trivial, same.2.2⟩
  case isFalse unticked =>
    rw [changeSelect, if_neg fun both => unticked both.2]
    rfl

end Slider

/-- A call moves the list it is about, and leaves the others. -/
def ContactCall.Moves (source target : Slider) : ContactCall → Prop
  | .pickupPersons call =>
      call.Acts (fun name => some (name.getD "")) (fun name => name)
        source.pickupPersons target.pickupPersons ∧
      target.deliveryAddresses = source.deliveryAddresses ∧
      target.infosContact = source.infosContact
  | .deliveryAddresses call =>
      target.pickupPersons = source.pickupPersons ∧
      call.Acts (fun address => address.map some) some
        source.deliveryAddresses target.deliveryAddresses ∧
      target.infosContact = source.infosContact
  | .infosContact call =>
      target.pickupPersons = source.pickupPersons ∧
      target.deliveryAddresses = source.deliveryAddresses ∧
      call.Acts (fun infos => infos) (fun infos => infos)
        source.infosContact target.infosContact
  | .changeDeliveryAddress _ => target.lists = source.lists

theorem contactStep?_moves {distanceBetween : ℚ → ℚ → ℚ → ℚ → ℚ} {source target : Slider}
    {call : ContactCall} (stepped : contactStep? distanceBetween source call = some target) :
    call.Moves source target := by
  cases call with
  | pickupPersons call =>
      cases call with
      | init selected parsedJson =>
          obtain ⟨value, parsed, rfl⟩ := Option.map_eq_some_iff.mp stepped
          exact ⟨⟨value, parsed, rfl⟩, rfl, rfl⟩
      | select value id | delete id | add name =>
          cases stepped
          exact ⟨rfl, rfl, rfl⟩
  | deliveryAddresses call =>
      cases call with
      | init selected parsedJson =>
          obtain ⟨value, parsed, rfl⟩ := Option.map_eq_some_iff.mp stepped
          exact ⟨rfl, ⟨value, parsed, rfl⟩, rfl⟩
      | select value id =>
          cases stepped
          have same := source.changeSelectDeliveryAddress_lists distanceBetween value id
          simp only [Slider.lists, Prod.mk.injEq] at same
          exact ⟨same.1, same.2.1, same.2.2⟩
      | delete id | add address =>
          cases stepped
          exact ⟨rfl, rfl, rfl⟩
  | infosContact call =>
      cases call with
      | init selected parsedJson =>
          obtain ⟨value, parsed, rfl⟩ := Option.map_eq_some_iff.mp stepped
          exact ⟨rfl, rfl, ⟨value, parsed, rfl⟩⟩
      | select value id | delete id | add infos =>
          cases stepped
          exact ⟨rfl, rfl, rfl⟩
  | changeDeliveryAddress value =>
      cases stepped
      exact source.deliverTo_lists distanceBetween (some value)

/-- A delete removes exactly the entry it names and a select selects exactly that entry, and
the other lists stay as they are. -/
def ContactCall.Exact (source : Slider) (call : ContactCall) (target : Slider) : Prop :=
  match call with
  | .pickupPersons call =>
      call.Exact source.pickupPersons target.pickupPersons ∧
      target.deliveryAddresses = source.deliveryAddresses ∧
      target.infosContact = source.infosContact
  | .deliveryAddresses call =>
      target.pickupPersons = source.pickupPersons ∧
      call.Exact source.deliveryAddresses target.deliveryAddresses ∧
      target.infosContact = source.infosContact
  | .infosContact call =>
      target.pickupPersons = source.pickupPersons ∧
      target.deliveryAddresses = source.deliveryAddresses ∧
      call.Exact source.infosContact target.infosContact
  | .changeDeliveryAddress _ => target.lists = source.lists

def ContactCall.Fits (source : Slider) (call : ContactCall) : Prop :=
  match call with
  | .pickupPersons call => call.Fits source.pickupPersons
  | .deliveryAddresses call => call.Fits source.deliveryAddresses
  | .infosContact call => call.Fits source.infosContact
  | .changeDeliveryAddress _ => True

section Steps

variable {distanceBetween : ℚ → ℚ → ℚ → ℚ → ℚ} {source target : Slider} {call : ContactCall}

theorem contactStep?_exact (stepped : contactStep? distanceBetween source call = some target)
    (kept : source.Kept) : call.Exact source target := by
  have moved := contactStep?_moves stepped
  cases call with
  | pickupPersons call =>
      exact ⟨moved.1.exact kept.pickupPersons, moved.2⟩
  | deliveryAddresses call =>
      exact ⟨moved.1, moved.2.1.exact kept.deliveryAddresses, moved.2.2⟩
  | infosContact call =>
      exact ⟨moved.1, moved.2.1, moved.2.2.exact kept.infosContact⟩
  | changeDeliveryAddress value => exact moved

theorem contactStep?_kept_iff (stepped : contactStep? distanceBetween source call = some target)
    (kept : source.Kept) : target.Kept ↔ call.Fits source := by
  have moved := contactStep?_moves stepped
  cases call with
  | pickupPersons call =>
      obtain ⟨acts, addresses, infos⟩ := moved
      refine Iff.trans ?_ (acts.kept_iff kept.pickupPersons)
      exact ⟨fun target => target.pickupPersons,
        fun persons => ⟨persons, addresses ▸ kept.deliveryAddresses, infos ▸ kept.infosContact⟩⟩
  | deliveryAddresses call =>
      obtain ⟨persons, acts, infos⟩ := moved
      refine Iff.trans ?_ (acts.kept_iff kept.deliveryAddresses)
      exact ⟨fun target => target.deliveryAddresses,
        fun addresses => ⟨persons ▸ kept.pickupPersons, addresses, infos ▸ kept.infosContact⟩⟩
  | infosContact call =>
      obtain ⟨persons, addresses, acts⟩ := moved
      refine Iff.trans ?_ (acts.kept_iff kept.infosContact)
      exact ⟨fun target => target.infosContact,
        fun infos => ⟨persons ▸ kept.pickupPersons, addresses ▸ kept.deliveryAddresses, infos⟩⟩
  | changeDeliveryAddress value =>
      simp only [ContactCall.Moves, Slider.lists, Prod.mk.injEq] at moved
      exact iff_of_true
        ⟨moved.1 ▸ kept.pickupPersons, moved.2.1 ▸ kept.deliveryAddresses,
          moved.2.2 ▸ kept.infosContact⟩ trivial

end Steps

/-- The screen is opened by the calls that set two of its lists. -/
theorem run?_initProducts (distanceBetween : ℚ → ℚ → ℚ → ℚ → ℚ) (storeAddress : Option Address)
    (maxDeliveryFixe maxDeliveryKm : Option ℚ) {persons : Option (List (EntryJson String))}
    {cards : Option (List (EntryJson ContactInfos))} {pickupPersons : Option (List PickupPerson)}
    {infos : Option (List InfosContact)}
    (readPersons : readList (PickupPerson.storeCategoriesFromJsonList · (some false)) persons =
      some pickupPersons)
    (readCards : readList (InfosContact.storeCategoriesFromJsonList · (some false)) cards =
      some infos) :
    run? (contactStep? distanceBetween) (.opened storeAddress maxDeliveryFixe maxDeliveryKm)
        [.pickupPersons (.init (some false) persons), .infosContact (.init (some false) cards)] =
      some (.initProducts storeAddress maxDeliveryFixe maxDeliveryKm pickupPersons infos) := by
  simp only [run?, contactStep?, readPersons, readCards, Option.map_some, Option.bind_some]
  rfl

/-- The lists stay in order, and every call does to them what it says, exactly when no entry is
added under a number its list still has and no server's list comes with two selected entries. -/
theorem contacts_kept_iff (distanceBetween : ℚ → ℚ → ℚ → ℚ → ℚ) (storeAddress : Option Address)
    (maxDeliveryFixe maxDeliveryKm : Option ℚ) (calls : List ContactCall) :
    (Always (contactStep? distanceBetween) Slider.Kept
        (.opened storeAddress maxDeliveryFixe maxDeliveryKm) calls ∧
      EveryStep (contactStep? distanceBetween) ContactCall.Exact
        (.opened storeAddress maxDeliveryFixe maxDeliveryKm) calls) ↔
      EveryStep (contactStep? distanceBetween) (fun source call _ => call.Fits source)
        (.opened storeAddress maxDeliveryFixe maxDeliveryKm) calls := by
  have initial := Slider.kept_opened storeAddress maxDeliveryFixe maxDeliveryKm
  have exact_step : ∀ source call target, source.Kept →
      contactStep? distanceBetween source call = some target →
      (target.Kept ↔ call.Fits source) :=
    fun _ _ _ kept stepped => contactStep?_kept_iff stepped kept
  refine ⟨fun both => (always_iff_everyStep exact_step initial).mp both.1,
    fun fits => ⟨(always_iff_everyStep exact_step initial).mpr fits, ?_⟩⟩
  refine everyStep_of_invariant Slider.Kept (fun source call target kept stepped guard => ?_)
    initial fits
  exact ⟨contactStep?_exact stepped kept, (contactStep?_kept_iff stepped kept).mpr guard⟩

/-- The first of three persons is deleted, and the next one is added under the number of the
last. -/
def addedAfterDelete : List ContactCall :=
  [.pickupPersons (.add "Ada"), .pickupPersons (.add "Ben"), .pickupPersons (.add "Cleo"),
    .pickupPersons (.delete (some 1)), .pickupPersons (.add "Dan")]

theorem not_kept_addedAfterDelete :
    ¬(Always (contactStep? fun _ _ _ _ => 0) Slider.Kept (.opened none (some 5) (some 1))
        addedAfterDelete ∧
      EveryStep (contactStep? fun _ _ _ _ => 0) ContactCall.Exact
        (.opened none (some 5) (some 1)) addedAfterDelete) := by
  intro holds
  have reached : run? (contactStep? fun _ _ _ _ => 0) (.opened none (some 5) (some 1))
      addedAfterDelete = some
        { Slider.opened none (some 5) (some 1) with
          pickupPersons :=
            [⟨some 2, "Ben", false, none⟩, ⟨some 3, "Cleo", false, none⟩,
              ⟨some 3, "Dan", false, none⟩] } := by rfl
  exact absurd (holds.1.target reached).pickupPersons.distinct (by decide)

end Proximity.Apps.Client.Contacts
