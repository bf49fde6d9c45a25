import Mathlib.Tactic.Linarith
import Proximity.Apps.Contacts

/-!
# The client's app: the price of a delivery

The total is kept in a field and is set again when an address is chosen, unless the address
is where the store is: then the total of the address before stays.
-/

namespace Proximity.Apps.Client.Contacts

open Proximity.Systems

/-- What a delivery from a store costs: a fixed price, or a price for each kilometre. -/
def deliveryPrice (distanceBetween : ℚ → ℚ → ℚ → ℚ → ℚ) (store : Address)
    (maxDeliveryFixe maxDeliveryKm : ℚ) (chosen : Option Address) : ℚ :=
  if maxDeliveryFixe ≠ 0 then maxDeliveryFixe
  else chosen.elim 0 fun address =>
    maxDeliveryKm * Slider.distanceTo distanceBetween store address

/-- The addresses a call chooses, in the order it chooses them. -/
def ContactCall.chosen (source : Slider) : ContactCall → List Address
  | .deliveryAddresses (.select value id) =>
      if value = some true then
        (source.deliveryAddresses.filter fun e => decide (e.id = id)).filterMap Entry.content
      else []
  | .changeDeliveryAddress value => [value]
  | _ => []

/-- The total after some addresses are chosen one after the other. -/
def totalAfter (distanceBetween : ℚ → ℚ → ℚ → ℚ → ℚ) (store : Address)
    (maxDeliveryFixe maxDeliveryKm total : ℚ) (chosen : List Address) : ℚ :=
  chosen.foldl (fun total address =>
    if maxDeliveryFixe = 0 ∧ maxDeliveryKm ≠ 0 ∧
        Slider.distanceTo distanceBetween store address ≠ 0 then
      maxDeliveryKm * Slider.distanceTo distanceBetween store address
    else total) total

/-- A screen of a known store, whose addresses all came with their content. -/
structure Slider.Known (store : Address) (maxDeliveryFixe maxDeliveryKm : ℚ) (slider : Slider) :
    Prop where
  store : slider.storeAdresse = some store
  fixe : slider.maxDeliveryFixe = some maxDeliveryFixe
  km : slider.maxDeliveryKm = some maxDeliveryKm
  addressed : ∀ e ∈ slider.deliveryAddresses, e.content.isSome = true

/-- The total is the price of a delivery to the address chosen last. -/
def Slider.Priced (distanceBetween : ℚ → ℚ → ℚ → ℚ → ℚ) (store : Address)
    (maxDeliveryFixe maxDeliveryKm : ℚ) (slider : Slider) : Prop :=
  slider.totalDelivery = some
    (deliveryPrice distanceBetween store maxDeliveryFixe maxDeliveryKm slider.deliveryAdresse)

/-- When the distance counts, an address at the store is chosen only where all addresses chosen
before it were at the store too. -/
def ContactCall.LeavesStore (distanceBetween : ℚ → ℚ → ℚ → ℚ → ℚ) (store : Address)
    (maxDeliveryFixe maxDeliveryKm : ℚ) (source : Slider) (call : ContactCall) : Prop :=
  maxDeliveryFixe = 0 → maxDeliveryKm ≠ 0 →
    ∀ last ∈ (call.chosen source).getLast?,
      Slider.distanceTo distanceBetween store last = 0 →
      (∀ address ∈ source.deliveryAdresse,
        Slider.distanceTo distanceBetween store address = 0) ∧
      ∀ address ∈ call.chosen source, Slider.distanceTo distanceBetween store address = 0

section Prices

variable {distanceBetween : ℚ → ℚ → ℚ → ℚ → ℚ} {store : Address}
  {maxDeliveryFixe maxDeliveryKm : ℚ}

/-! ## The total over a list of choices -/

theorem totalAfter_fixed (fixed : maxDeliveryFixe ≠ 0) (total : ℚ) (chosen : List Address) :
    totalAfter distanceBetween store maxDeliveryFixe maxDeliveryKm total chosen = total := by
  induction chosen generalizing total with
  | nil => rfl
  | cons address rest ih =>
      rw [totalAfter, List.foldl_cons, if_neg fun each => fixed each.1]
      exact ih total

theorem totalAfter_free (free : maxDeliveryKm = 0) (total : ℚ) (chosen : List Address) :
    totalAfter distanceBetween store maxDeliveryFixe maxDeliveryKm total chosen = total := by
  induction chosen generalizing total with
  | nil => rfl
  | cons address rest ih =>
      rw [totalAfter, List.foldl_cons, if_neg fun each => each.2.1 free]
      exact ih total

/-- Away from the store only the last choice counts. -/
theorem totalAfter_concat_of_ne (each : maxDeliveryFixe = 0) (paid : maxDeliveryKm ≠ 0)
    {last : Address} (away : Slider.distanceTo distanceBetween store last ≠ 0) (total : ℚ)
    (front : List Address) :
    totalAfter distanceBetween store maxDeliveryFixe maxDeliveryKm total (front ++ [last]) =
      maxDeliveryKm * Slider.distanceTo distanceBetween store last := by
  rw [totalAfter, List.foldl_append, List.foldl_cons, List.foldl_nil,
    if_pos ⟨each, paid, away⟩]

/-- A total of zero is one that no choice away from the store has touched. -/
theorem totalAfter_eq_zero_iff (each : maxDeliveryFixe = 0) (paid : maxDeliveryKm ≠ 0)
    (total : ℚ) (chosen : List Address) :
    totalAfter distanceBetween store maxDeliveryFixe maxDeliveryKm total chosen = 0 ↔
      total = 0 ∧ ∀ address ∈ chosen, Slider.distanceTo distanceBetween store address = 0 := by
  induction chosen generalizing total with
  | nil => simp [totalAfter]
  | cons address rest ih =>
      rw [totalAfter, List.foldl_cons]
      by_cases here : Slider.distanceTo distanceBetween store address = 0
      · rw [if_neg fun away => away.2.2 here]
        refine (ih total).trans ?_
        rw [List.forall_mem_cons, and_iff_right here]
      · rw [if_pos ⟨each, paid, here⟩]
        refine (ih _).trans (iff_of_false (fun zero => ?_) fun zero => ?_)
        · exact mul_ne_zero paid here zero.1
        · exact here (zero.2 address List.mem_cons_self)

/-- The total of the last choice is right exactly when no choice of the store's own place left
an older one standing. -/
theorem totalAfter_priced_iff (each : maxDeliveryFixe = 0) (paid : maxDeliveryKm ≠ 0)
    (before : Option Address) (front : List Address) (last : Address) :
    totalAfter distanceBetween store maxDeliveryFixe maxDeliveryKm
        (before.elim 0 fun address =>
          maxDeliveryKm * Slider.distanceTo distanceBetween store address) (front ++ [last]) =
        maxDeliveryKm * Slider.distanceTo distanceBetween store last ↔
      (Slider.distanceTo distanceBetween store last = 0 →
        (∀ address ∈ before, Slider.distanceTo distanceBetween store address = 0) ∧
        ∀ address ∈ front ++ [last],
          Slider.distanceTo distanceBetween store address = 0) := by
  by_cases here : Slider.distanceTo distanceBetween store last = 0
  · rw [here, mul_zero, totalAfter_eq_zero_iff each paid, imp_iff_right rfl]
    refine and_congr_left fun _ => ?_
    cases before with
    | none => simp
    | some address => simp [paid]
  · rw [totalAfter_concat_of_ne each paid here]
    exact iff_of_true rfl fun zero => absurd zero here

/-! ## A choice on the screen -/

theorem Slider.deliverTo_known (distanceBetween : ℚ → ℚ → ℚ → ℚ → ℚ) {slider : Slider}
    (known : slider.Known store maxDeliveryFixe maxDeliveryKm) {total : ℚ}
    (before : slider.totalDelivery = some total) (address : Address) :
    Slider.Known store maxDeliveryFixe maxDeliveryKm
        (Slider.deliverTo distanceBetween slider (some address)) ∧
      (Slider.deliverTo distanceBetween slider (some address)).deliveryAdresse = some address ∧
      (Slider.deliverTo distanceBetween slider (some address)).totalDelivery =
        some (totalAfter distanceBetween store maxDeliveryFixe maxDeliveryKm total [address]) := by
  unfold Slider.deliverTo
  rw [known.store]
  simp only [Slider.reprice, known.fixe, known.km, Option.some.injEq, ne_eq, totalAfter,
    List.foldl_cons, List.foldl_nil, Option.getD_some]
  split
  · exact ⟨⟨rfl, rfl, rfl, known.addressed⟩, rfl, rfl⟩
  · exact ⟨⟨rfl, rfl, rfl, known.addressed⟩, rfl, before⟩

/-- The entries of a list are delivered to as their addresses are chosen. -/
theorem Slider.foldl_deliverTo_known (distanceBetween : ℚ → ℚ → ℚ → ℚ → ℚ)
    {entries : List AddressOrder}
    (addressed : ∀ e ∈ entries, e.content.isSome = true) {slider : Slider}
    (known : slider.Known store maxDeliveryFixe maxDeliveryKm) {total : ℚ}
    (before : slider.totalDelivery = some total) :
    let after := entries.foldl
      (fun slider e => Slider.deliverTo distanceBetween slider e.content) slider
    after.Known store maxDeliveryFixe maxDeliveryKm ∧
      after.deliveryAdresse =
        (entries.filterMap Entry.content).getLast?.or slider.deliveryAdresse ∧
      after.totalDelivery = some (totalAfter distanceBetween store maxDeliveryFixe maxDeliveryKm
        total (entries.filterMap Entry.content)) := by
  induction entries generalizing slider total with
  | nil => exact ⟨known, rfl, before⟩
  | cons entry rest ih =>
      obtain ⟨address, content⟩ := Option.isSome_iff_exists.mp (addressed entry List.mem_cons_self)
      obtain ⟨reached, chosen, paid⟩ :=
        Slider.deliverTo_known distanceBetween known before address
      have later := ih (fun e member => addressed e (List.mem_cons_of_mem _ member)) reached paid
      simp only [List.foldl_cons, List.filterMap_cons, content]
      refine ⟨later.1, later.2.1.trans ?_, later.2.2.trans ?_⟩
      · rw [chosen, List.getLast?_cons]
        cases (rest.filterMap Entry.content).getLast? <;> rfl
      · rfl

theorem listFrom_addressed {selected : Option Bool} {i : Nat}
    {parsedJson : List (EntryJson Address)} {entries : List AddressOrder}
    (parsed : Entry.listFrom (fun address => address.map some) selected i parsedJson =
      some entries) : ∀ e ∈ entries, e.content.isSome = true := by
  induction parsedJson generalizing i entries with
  | nil =>
      cases parsed
      simp
  | cons json rest ih =>
      obtain ⟨content, later, read, remaining, rfl⟩ := listFrom_cons parsed
      obtain ⟨address, _, rfl⟩ := Option.map_eq_some_iff.mp read
      exact List.forall_mem_cons.mpr ⟨rfl, ih remaining⟩

/-- The address kept is the one that was chosen last. -/
def ContactCall.KeepsLast (source : Slider) (call : ContactCall) (target : Slider) : Prop :=
  target.deliveryAdresse = (call.chosen source).getLast?.or source.deliveryAdresse

/-- What one call does to the address that is chosen and to the total. -/
structure ContactCall.Delivers (distanceBetween : ℚ → ℚ → ℚ → ℚ → ℚ) (store : Address)
    (maxDeliveryFixe maxDeliveryKm total : ℚ) (source : Slider) (call : ContactCall)
    (target : Slider) : Prop where
  known : target.Known store maxDeliveryFixe maxDeliveryKm
  chosen : call.KeepsLast source target
  paid : target.totalDelivery = some
    (totalAfter distanceBetween store maxDeliveryFixe maxDeliveryKm total (call.chosen source))

theorem changeSelect_addressed {entries : List AddressOrder}
    (addressed : ∀ e ∈ entries, e.content.isSome = true) (value : Option Bool)
    (id : Option Int) : ∀ e ∈ changeSelect value id entries, e.content.isSome = true := by
  unfold changeSelect
  split
  · intro e member
    obtain ⟨entry, stored, rfl⟩ := List.mem_map.mp member
    rw [Entry.choose]
    split <;> exact addressed entry stored
  · exact addressed

theorem contactStep?_delivers {source target : Slider} {call : ContactCall}
    (stepped : contactStep? distanceBetween source call = some target)
    (known : source.Known store maxDeliveryFixe maxDeliveryKm) {total : ℚ}
    (before : source.totalDelivery = some total) :
    call.Delivers distanceBetween store maxDeliveryFixe maxDeliveryKm total source target := by
  cases call with
  | pickupPersons call | infosContact call =>
      cases call with
      | init selected parsedJson =>
          obtain ⟨value, _, rfl⟩ := Option.map_eq_some_iff.mp stepped
          exact ⟨⟨known.store, known.fixe, known.km, known.addressed⟩, rfl, before⟩
      | select value id | delete id | add content =>
          cases stepped
          exact ⟨⟨known.store, known.fixe, known.km, known.addressed⟩, rfl, before⟩
  | deliveryAddresses call =>
      cases call with
      | init selected parsedJson =>
          obtain ⟨value, read, rfl⟩ := Option.map_eq_some_iff.mp stepped
          refine ⟨⟨known.store, known.fixe, known.km, ?_⟩, rfl, before⟩
          cases parsedJson with
          | none =>
              cases read
              exact fun e member => absurd member List.not_mem_nil
          | some parsedJson =>
              obtain ⟨entries, parsed, rfl⟩ := Option.map_eq_some_iff.mp read
              exact listFrom_addressed parsed
      | select value id =>
          cases stepped
          rw [Slider.changeSelectDeliveryAddress]
          split
          case isTrue ticked =>
            have addressed : ∀ e ∈ source.deliveryAddresses.filter fun e => decide (e.id = id),
                e.content.isSome = true :=
              fun e member => known.addressed e (List.mem_of_mem_filter member)
            obtain ⟨reached, last, paid⟩ :=
              Slider.foldl_deliverTo_known distanceBetween addressed known before
            refine ⟨⟨reached.store, reached.fixe, reached.km,
              changeSelect_addressed known.addressed value id⟩, ?_, ?_⟩
            · rw [ContactCall.KeepsLast, ContactCall.chosen, if_pos ticked]
              exact last
            · rw [ContactCall.chosen, if_pos ticked]
              exact paid
          case isFalse unticked =>
            refine ⟨known, ?_, ?_⟩
            · rw [ContactCall.KeepsLast, ContactCall.chosen, if_neg unticked]
              rfl
            · rw [ContactCall.chosen, if_neg unticked]
              exact before
      | delete id =>
          cases stepped
          exact ⟨⟨known.store, known.fixe, known.km, fun e member =>
            known.addressed e (List.mem_of_mem_filter member)⟩, rfl, before⟩
      | add address =>
          cases stepped
          refine ⟨⟨known.store, known.fixe, known.km, fun e member => ?_⟩, rfl, before⟩
          rcases List.mem_append.mp member with stored | added
          · exact known.addressed e stored
          · rw [List.mem_singleton.mp added]
            rfl
  | changeDeliveryAddress value =>
      cases stepped
      obtain ⟨reached, last, paid⟩ :=
        Slider.deliverTo_known distanceBetween known before value
      exact ⟨reached, last, paid⟩

/-- A call leaves the price right exactly when it does not return to the store from elsewhere. -/
theorem ContactCall.Delivers.priced_iff {source target : Slider} {call : ContactCall}
    (delivers : call.Delivers distanceBetween store maxDeliveryFixe maxDeliveryKm
      (deliveryPrice distanceBetween store maxDeliveryFixe maxDeliveryKm source.deliveryAdresse)
      source target) :
    target.Priced distanceBetween store maxDeliveryFixe maxDeliveryKm ↔
      call.LeavesStore distanceBetween store maxDeliveryFixe maxDeliveryKm source := by
  rw [Slider.Priced, delivers.paid, delivers.chosen, Option.some.injEq]
  by_cases fixed : maxDeliveryFixe ≠ 0
  · rw [totalAfter_fixed fixed, deliveryPrice, if_pos fixed, deliveryPrice, if_pos fixed]
    exact iff_of_true rfl fun each => absurd each fixed
  rw [ne_eq, not_not] at fixed
  simp only [deliveryPrice, fixed, ne_eq, not_true_eq_false, if_false]
  by_cases free : maxDeliveryKm = 0
  · rw [totalAfter_free free]
    refine iff_of_true ?_ fun _ paid => absurd free paid
    rw [free]
    cases (call.chosen source).getLast?.or source.deliveryAdresse <;>
      cases source.deliveryAdresse <;> simp
  rw [LeavesStore, imp_iff_right rfl, imp_iff_right free]
  rcases List.eq_nil_or_concat (call.chosen source) with none | ⟨front, last, some⟩
  · rw [none]
    exact iff_of_true rfl fun last absent => nomatch absent
  · rw [some, List.concat_eq_append, List.getLast?_concat]
    refine (totalAfter_priced_iff rfl free source.deliveryAdresse front last).trans ?_
    simp

theorem Slider.initProducts_known (pickupPersons : Option (List PickupPerson))
    (cards : Option (List InfosContact)) :
    (Slider.initProducts (some store) (some maxDeliveryFixe) (some maxDeliveryKm) pickupPersons
      cards).Known store maxDeliveryFixe maxDeliveryKm :=
  ⟨rfl, rfl, rfl, fun _ member => absurd member List.not_mem_nil⟩

theorem Slider.initProducts_priced (pickupPersons : Option (List PickupPerson))
    (cards : Option (List InfosContact)) :
    (Slider.initProducts (some store) (some maxDeliveryFixe) (some maxDeliveryKm) pickupPersons
      cards).Priced distanceBetween store maxDeliveryFixe maxDeliveryKm := by
  rw [Slider.Priced, deliveryPrice]
  simp only [Slider.initProducts, Slider.opened, Slider.initPickupPersons,
    Slider.initInfoContacts, ne_eq, Option.some.injEq, Option.elim_none]
  split <;> rfl

end Prices

/-- The total is the price of a delivery to the address chosen last, through every run, exactly
when no run returns to the store's own place from elsewhere while the distance counts. -/
theorem delivery_priced_iff (distanceBetween : ℚ → ℚ → ℚ → ℚ → ℚ) (store : Address)
    (maxDeliveryFixe maxDeliveryKm : ℚ) (pickupPersons : Option (List PickupPerson))
    (cards : Option (List InfosContact)) (calls : List ContactCall) :
    (Always (contactStep? distanceBetween)
        (Slider.Priced distanceBetween store maxDeliveryFixe maxDeliveryKm)
        (.initProducts (some store) (some maxDeliveryFixe) (some maxDeliveryKm) pickupPersons
          cards) calls ∧
      EveryStep (contactStep? distanceBetween) ContactCall.KeepsLast
        (.initProducts (some store) (some maxDeliveryFixe) (some maxDeliveryKm) pickupPersons
          cards) calls) ↔
      EveryStep (contactStep? distanceBetween)
        (fun source call _ =>
          call.LeavesStore distanceBetween store maxDeliveryFixe maxDeliveryKm source)
        (.initProducts (some store) (some maxDeliveryFixe) (some maxDeliveryKm) pickupPersons
          cards) calls := by
  let Invariant := fun slider : Slider =>
    slider.Known store maxDeliveryFixe maxDeliveryKm ∧
      slider.Priced distanceBetween store maxDeliveryFixe maxDeliveryKm
  have initial : Invariant (.initProducts (some store) (some maxDeliveryFixe)
      (some maxDeliveryKm) pickupPersons cards) :=
    ⟨Slider.initProducts_known pickupPersons cards, Slider.initProducts_priced pickupPersons cards⟩
  have delivers : ∀ source call target, Invariant source →
      contactStep? distanceBetween source call = some target →
      call.Delivers distanceBetween store maxDeliveryFixe maxDeliveryKm
        (deliveryPrice distanceBetween store maxDeliveryFixe maxDeliveryKm
          source.deliveryAdresse) source target :=
    fun source call target holds stepped => contactStep?_delivers stepped holds.1 holds.2
  constructor
  · rintro ⟨priced, _⟩
    have exact_step : ∀ source call target, Invariant source →
        contactStep? distanceBetween source call = some target →
        (Invariant target ↔
          call.LeavesStore distanceBetween store maxDeliveryFixe maxDeliveryKm source) := by
      intro source call target holds stepped
      have delivered := delivers source call target holds stepped
      exact (and_iff_right delivered.known).trans delivered.priced_iff
    refine (always_iff_everyStep exact_step initial).mp ?_
    exact Always.strengthen (fun source call target holds stepped kept =>
      ⟨(delivers source call target holds stepped).known, kept⟩) initial priced
  · intro guarded
    have step : ∀ source call target, Invariant source →
        contactStep? distanceBetween source call = some target →
        call.LeavesStore distanceBetween store maxDeliveryFixe maxDeliveryKm source →
        Invariant target := fun source call target holds stepped leaves =>
      have delivered := delivers source call target holds stepped
      ⟨delivered.known, delivered.priced_iff.mpr leaves⟩
    refine ⟨(always_of_everyStep step initial guarded).mono fun slider holds => holds.2, ?_⟩
    refine everyStep_of_invariant Invariant (fun source call target holds stepped leaves => ?_)
      initial guarded
    exact ⟨(delivers source call target holds stepped).chosen,
      step source call target holds stepped leaves⟩

def streetDistance (lat1 lon1 lat2 lon2 : ℚ) : ℚ :=
  |lat2 - lat1| + |lon2 - lon1|

/-- An address of two coordinates. -/
def Address.at (lat lng : ℚ) : Address where
  lat := some lat
  lng := some lng
  city := none
  streetName := none
  postalCode := none
  fullAddress := none
  region := none
  countryName := none

/-- A delivery far away is chosen, then one to the store's own place. -/
def returned : List ContactCall :=
  [.deliveryAddresses (.add (Address.at 3 4)), .deliveryAddresses (.add (Address.at 0 0)),
    .deliveryAddresses (.select (some true) (some 1)),
    .deliveryAddresses (.select (some true) (some 2))]

theorem not_priced_returned :
    (∀ lat1 lon1 lat2 lon2, 0 ≤ streetDistance lat1 lon1 lat2 lon2) ∧
      (∀ lat lon, streetDistance lat lon lat lon = 0) ∧
      ¬(Always (contactStep? streetDistance)
          (Slider.Priced streetDistance (Address.at 0 0) 0 2)
          (.initProducts (some (Address.at 0 0)) (some 0) (some 2) none none) returned ∧
        EveryStep (contactStep? streetDistance) ContactCall.KeepsLast
          (.initProducts (some (Address.at 0 0)) (some 0) (some 2) none none) returned) := by
  refine ⟨fun lat1 lon1 lat2 lon2 => add_nonneg (abs_nonneg _) (abs_nonneg _),
    fun lat lon => by simp [streetDistance], fun holds => ?_⟩
  have reached : ∃ target, run? (contactStep? streetDistance)
      (.initProducts (some (Address.at 0 0)) (some 0) (some 2) none none) returned =
        some target ∧ target.totalDelivery = some 14 ∧
          target.deliveryAdresse = some (Address.at 0 0) :=
    ⟨_, rfl, by decide +kernel, by decide +kernel⟩
  obtain ⟨target, run, total, chosen⟩ := reached
  have priced := holds.1.target run
  rw [Slider.Priced, total, chosen] at priced
  exact absurd priced (by decide +kernel)

end Proximity.Apps.Client.Contacts
