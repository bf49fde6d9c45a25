import Proximity.Apps.ProductForm
import Proximity.Systems.Checks
import Proximity.Systems.Collection
import Proximity.Systems.JsonEncoder

/-!
# The merchant's app: the working time of a store

The hours at which a store is open, every day or day by day, as they are encoded and decoded.
-/

namespace Proximity.Apps.Commercant.StoreForm

open Proximity.Systems Proximity.Systems.JsonText
open Proximity.Apps.Commercant.ProductForm (signed trim tryParse isWhiteSpace int64?)

/-! ## Times of a day -/

structure TimeOfDay where
  hour : ℤ
  minute : ℤ
  deriving DecidableEq, Repr

structure TimeRange where
  openTime : Option TimeOfDay
  closeTime : Option TimeOfDay
  deriving DecidableEq, Repr

/-- `split` -/
def split (text : String) (mark : Char) : List String :=
  (text.toList.splitOn mark).map String.ofList

/-- `padLeft` -/
def padLeft (text : String) (width : ℕ) (padding : Char) : String :=
  String.ofList (text.toList.leftpad width padding)

/-- The minute is padded, the hour is not. -/
def TimeOfDay.text (time : TimeOfDay) : String :=
  toString time.hour ++ ":" ++ padLeft (toString time.minute) 2 '0'

/-- `int.parse` of the first two parts, whatever comes after them. -/
def TimeOfDay.parse? (text : String) : Option TimeOfDay := do
  let parts := split text ':'
  let hour ← parts[0]?.bind tryParse
  let minute ← parts[1]?.bind tryParse
  some ⟨hour, minute⟩

def TimeRange.toJson (range : TimeRange) : Option Datum := do
  let openTime ← range.openTime
  let closeTime ← range.closeTime
  some (.object [("openTime", .string openTime.text), ("closeTime", .string closeTime.text)])

def TimeRange.fromJson (json : Value) : Option TimeRange := do
  let openTime ← ((← json.member? "openTime").text?).bind TimeOfDay.parse?
  let closeTime ← ((← json.member? "closeTime").text?).bind TimeOfDay.parse?
  some ⟨some openTime, some closeTime⟩

/-! ## Working times -/

structure WorkingTime where
  option : String
  fixedHours : Option (List TimeRange)
  customizedHours : Option (Collection (MapEntry String (List TimeRange)))

def encodeRanges (ranges : List TimeRange) : Option Datum :=
  (ranges.mapM TimeRange.toJson).map .array

/-- An entry under the last part of its key. -/
def encodeDay (day : MapEntry String (List TimeRange)) : Option (MapEntry String Datum) := do
  let ranges ← encodeRanges day.value
  let key ← (split day.key '.').getLast?
  some ⟨key, ranges⟩

def members (data : Collection (MapEntry String Datum)) : Datum :=
  .object (data.docs.map fun entry => (entry.key, entry.value))

/-- `map`: of two entries with one new key the later one is kept. -/
def encodeDays (days : Collection (MapEntry String (List TimeRange))) : Option Datum :=
  (days.docs.mapM encodeDay).map fun entries => members (Collection.empty.putAll entries)

/-- A part that is `null` when it is missing. -/
def ofPart {α : Type} (encode : α → Option Datum) : Option α → Option Datum
  | none => some (.scalar .null)
  | some part => encode part

def WorkingTime.toJson (time : WorkingTime) : Option String := do
  let fixedHoursData ← ofPart encodeRanges time.fixedHours
  let customizedHoursData ← ofPart encodeDays time.customizedHours
  let data := Datum.object [("option", .string time.option), ("fixedHours", fixedHoursData),
    ("customizedHours", customizedHoursData)]
  some data.encode

/-- `as List<dynamic>` -/
def asList : Value → Option (List Value)
  | .array items => some items
  | _ => none

/-- `as Map<String, dynamic>` -/
def asMap : Value → Option (List (List ℕ × Value))
  | .object members => some members
  | _ => none

/-- `null` stands for nothing. -/
def orEmpty {α : Type} (read : Value → Option (List α)) : Value → Option (List α)
  | .scalar .null => some []
  | value => read value

def decodeRanges (items : List Value) : Option (List TimeRange) := items.mapM TimeRange.fromJson

def decodeDay (member : List ℕ × Value) : Option (MapEntry String (List TimeRange)) := do
  let ranges ← (asList member.2).bind decodeRanges
  let key ← (Value.string member.1).text?
  some ⟨key, ranges⟩

def WorkingTime.fromJson (json : Value) : Option WorkingTime := do
  let option ← (← json.member? "option").text?
  let fixedHoursData ← orEmpty asList (← json.member? "fixedHours")
  let customizedHoursData ← orEmpty asMap (← json.member? "customizedHours")
  let fixedHours ← decodeRanges fixedHoursData
  let entries ← customizedHoursData.mapM decodeDay
  let customizedHours := Collection.empty.putAll entries
  some ⟨option, if fixedHours = [] then none else some fixedHours,
    if customizedHours.docs = [] then none else some customizedHours⟩

/-! ## Numbers -/

theorem isWhiteSpace_of_isDigit {digit : Char} (isDigit : digit.isDigit = true) :
    isWhiteSpace digit = false := by
  obtain ⟨low, high⟩ := Char.isDigit_iff_toNat.mp isDigit
  simp only [isWhiteSpace, Bool.or_eq_false_iff, Bool.and_eq_false_iff, decide_eq_false_iff_not]
  have low' : 48 ≤ digit.toNat := low
  have high' : digit.toNat ≤ 57 := high
  omega

theorem trim_eq_self {text : List Char}
    (each : ∀ character ∈ text, isWhiteSpace character = false) : trim text = text := by
  have kept : ∀ part : List Char, (∀ character ∈ part, isWhiteSpace character = false) →
      part.dropWhile isWhiteSpace = part := by
    intro part black
    cases part with
    | nil => rfl
    | cons first rest =>
        exact List.dropWhile_cons_of_neg (by simp [black first List.mem_cons_self])
  rw [trim, kept text each, kept text.reverse fun character member =>
    each character (List.mem_reverse.mp member), List.reverse_reverse]

/-- Digits are parsed as the number they stand for. -/
theorem tryParse_digits {digits : List Char} (there : digits ≠ [])
    (each : digits.all Char.isDigit = true) (small : Nat.ofDigitChars 10 digits 0 < 2 ^ 63) :
    tryParse (String.ofList digits) = some (Nat.ofDigitChars 10 digits 0 : ℤ) := by
  have isDigit := List.all_eq_true.mp each
  have trimmed : trim digits = digits :=
    trim_eq_self fun digit member => isWhiteSpace_of_isDigit (isDigit digit member)
  have unsigned : signed digits = (false, digits) := by
    unfold signed
    split
    case h_1 => exact absurd (isDigit '-' List.mem_cons_self) (by decide)
    case h_2 => exact absurd (isDigit '+' List.mem_cons_self) (by decide)
    case h_3 => rfl
  have value : digits? digits = some (Nat.ofDigitChars 10 digits 0) := if_pos ⟨there, each⟩
  unfold tryParse
  rw [String.toList_ofList, trimmed, unsigned]
  dsimp only
  split
  case h_1 => exact absurd (isDigit 'x' (List.mem_cons_of_mem _ List.mem_cons_self)) (by decide)
  case h_2 => exact absurd (isDigit 'X' (List.mem_cons_of_mem _ List.mem_cons_self)) (by decide)
  case h_3 =>
    rw [value, Option.bind_some, int64?, if_neg Bool.false_ne_true, if_pos small]

theorem tryParse_toString {number : ℕ} (small : number < 2 ^ 63) :
    tryParse (toString (number : ℤ)) = some (number : ℤ) := by
  have read := tryParse_digits Nat.toDigits_ne_nil (all_isDigit_toDigits number)
    (Nat.ofDigitChars_ten_toDigits.trans_lt small)
  rw [Nat.ofDigitChars_ten_toDigits, ← toList_toString_natCast, String.ofList_toList] at read
  exact read

/-- Padding with zeros does not change the number. -/
theorem tryParse_padLeft {number : ℕ} (small : number < 2 ^ 63) (width : ℕ) :
    tryParse (padLeft (toString (number : ℤ)) width '0') = some (number : ℤ) := by
  have value : Nat.ofDigitChars 10 ((Nat.toDigits 10 number).leftpad width '0') 0 = number := by
    rw [List.leftpad, Nat.ofDigitChars_append, Nat.ofDigitChars_replicate_zero, Nat.mul_zero,
      Nat.ofDigitChars_ten_toDigits]
  have each : ((Nat.toDigits 10 number).leftpad width '0').all Char.isDigit = true := by
    rw [List.leftpad, List.all_append, all_isDigit_toDigits, Bool.and_true, List.all_replicate]
    split <;> rfl
  have there : (Nat.toDigits 10 number).leftpad width '0' ≠ [] := fun empty =>
    Nat.toDigits_ne_nil (List.append_eq_nil_iff.mp empty).2
  have read := tryParse_digits there each (value.trans_lt small)
  rw [value] at read
  rw [padLeft, toList_toString_natCast]
  exact read

/-! ## Round trips -/

theorem split_of_notMem {text : String} {mark : Char} (absent : mark ∉ text.toList) :
    split text mark = [text] := by
  rw [split, List.splitOn_eq_singleton absent, List.map_singleton, String.ofList_toList]

theorem split_append {first second : String} {mark : Char} (absent : mark ∉ first.toList)
    (absent' : mark ∉ second.toList) :
    split (first ++ String.singleton mark ++ second) mark = [first, second] := by
  have joined : (first ++ String.singleton mark ++ second).toList =
      first.toList ++ mark :: second.toList := by
    simp [String.toList_append]
  rw [split, joined, List.splitOn_append_cons_self, List.splitOn_eq_singleton absent,
    List.splitOn_eq_singleton absent']
  simp

theorem colon_notMem_toString (number : ℕ) : ':' ∉ (toString (number : ℤ)).toList := by
  intro member
  rw [toList_toString_natCast] at member
  exact absurd (List.all_eq_true.mp (all_isDigit_toDigits number) ':' member) (by decide)

theorem colon_notMem_padLeft (number width : ℕ) :
    ':' ∉ (padLeft (toString (number : ℤ)) width '0').toList := by
  rw [padLeft, String.toList_ofList, List.leftpad, List.mem_append, not_or]
  exact ⟨fun member => absurd (List.eq_of_mem_replicate member) (by decide),
    colon_notMem_toString number⟩

structure TimeOfDay.InDay (time : TimeOfDay) : Prop where
  hour : 0 ≤ time.hour ∧ time.hour ≤ 23
  minute : 0 ≤ time.minute ∧ time.minute ≤ 59

theorem TimeOfDay.parse?_text {time : TimeOfDay} (inDay : time.InDay) :
    parse? time.text = some time := by
  obtain ⟨hour, minute⟩ := time
  obtain ⟨⟨before, hourBound⟩, ⟨since, minuteBound⟩⟩ := inDay
  dsimp only at before hourBound since minuteBound
  lift hour to ℕ using before
  lift minute to ℕ using since
  have parts : split (toString (hour : ℤ) ++ ":" ++ padLeft (toString (minute : ℤ)) 2 '0') ':' =
      [toString (hour : ℤ), padLeft (toString (minute : ℤ)) 2 '0'] := by
    have colon : ":" = String.singleton ':' := by decide
    rw [colon]
    exact split_append (colon_notMem_toString hour) (colon_notMem_padLeft minute 2)
  have hourRead : tryParse (toString (hour : ℤ)) = some (hour : ℤ) :=
    tryParse_toString (by omega)
  have minuteRead : tryParse (padLeft (toString (minute : ℤ)) 2 '0') = some (minute : ℤ) :=
    tryParse_padLeft (by omega) 2
  rw [text, parse?, parts]
  dsimp only [List.getElem?_cons_zero, List.getElem?_cons_succ, Option.bind_some]
  rw [hourRead, minuteRead]
  rfl

/-- Both times are there. -/
def TimeRange.InDay (range : TimeRange) : Prop :=
  ∃ openTime closeTime, range = ⟨some openTime, some closeTime⟩ ∧ openTime.InDay ∧ closeTime.InDay

/-- A range as it is written. -/
def TimeRange.written (range : TimeRange) : Datum :=
  .object [("openTime", .string ((range.openTime.map TimeOfDay.text).getD "")),
    ("closeTime", .string ((range.closeTime.map TimeOfDay.text).getD ""))]

theorem TimeRange.toJson_of_inDay {range : TimeRange} (inDay : range.InDay) :
    range.toJson = some range.written := by
  obtain ⟨openTime, closeTime, rfl, -, -⟩ := inDay
  rfl

theorem TimeRange.written_readable (range : TimeRange) : range.written.Readable := by
  have distinct : ["openTime", "closeTime"].Nodup := by decide
  refine .object distinct ?_
  rw [List.forall_mem_cons, List.forall_mem_singleton]
  exact ⟨.string _, .string _⟩

theorem TimeRange.fromJson_written {range : TimeRange} (inDay : range.InDay) :
    fromJson range.written.value = some range := by
  obtain ⟨openTime, closeTime, rfl, opens, closes⟩ := inDay
  simp only [fromJson, written, Datum.member?_value, List.lookup_cons, String.reduceBEq,
    Option.map_some, Option.getD_some, Option.bind_eq_bind, Option.bind_some, Datum.text?_value,
    TimeOfDay.parse?_text opens, TimeOfDay.parse?_text closes]

/-! ## Ranges and days -/

def InDays (ranges : List TimeRange) : Prop := ∀ range ∈ ranges, range.InDay

theorem encodeRanges_of_inDays {ranges : List TimeRange} (inDays : InDays ranges) :
    encodeRanges ranges = some (.array (ranges.map TimeRange.written)) := by
  have each : ∀ range ∈ ranges, range.toJson = some range.written :=
    fun range member => TimeRange.toJson_of_inDay (inDays range member)
  rw [encodeRanges, mapM_eq_some_map each]
  rfl

theorem ranges_readable (ranges : List TimeRange) :
    (Datum.array (ranges.map TimeRange.written)).Readable :=
  .array (List.forall_mem_map.mpr fun range _ => range.written_readable)

theorem asList_written {ranges : List TimeRange} (inDays : InDays ranges) :
    (asList (Datum.array (ranges.map TimeRange.written)).value).bind decodeRanges =
      some ranges := by
  rw [Datum.value, Datum.itemValues_eq_map, List.map_map, asList, Option.bind_some, decodeRanges]
  exact mapM_map_eq_some fun range member => TimeRange.fromJson_written (inDays range member)

/-- The key has no point, and the ranges are within a day. -/
structure DayTimed (day : MapEntry String (List TimeRange)) : Prop where
  key : '.' ∉ day.key.toList
  ranges : InDays day.value

/-- A day as it is written. -/
def writtenDay (day : MapEntry String (List TimeRange)) : MapEntry String Datum :=
  ⟨day.key, .array (day.value.map TimeRange.written)⟩

theorem encodeDay_of_timed {day : MapEntry String (List TimeRange)} (timed : DayTimed day) :
    encodeDay day = some (writtenDay day) := by
  rw [encodeDay, encodeRanges_of_inDays timed.ranges, split_of_notMem timed.key]
  rfl

theorem decodeDay_written {day : MapEntry String (List TimeRange)} (timed : DayTimed day) :
    decodeDay (utf16 day.key.toList, (writtenDay day).value.value) = some day := by
  rw [decodeDay, writtenDay, asList_written timed.ranges, text?_string]
  rfl

theorem encodeDays_of_timed {days : Collection (MapEntry String (List TimeRange))}
    (timed : ∀ day ∈ days.docs, DayTimed day) :
    encodeDays days = some (.object
      (days.docs.map fun day => (day.key, (writtenDay day).value))) := by
  have distinct : ((days.docs.map writtenDay).map MapEntry.key).Nodup := by
    rw [List.map_map]
    exact days.distinct
  have docs : (Collection.empty.putAll (days.docs.map writtenDay)).docs =
      days.docs.map writtenDay := Collection.docs_putAll_of_distinct distinct
  rw [encodeDays, mapM_eq_some_map fun day member => encodeDay_of_timed (timed day member),
    Option.map_some, members, docs, List.map_map]
  rfl

theorem days_readable (days : Collection (MapEntry String (List TimeRange))) :
    (Datum.object (days.docs.map fun day => (day.key, (writtenDay day).value))).Readable := by
  refine .object ?_ (List.forall_mem_map.mpr fun day _ => ranges_readable day.value)
  rw [List.map_map]
  exact days.distinct

theorem decodeDays_written {days : Collection (MapEntry String (List TimeRange))}
    (timed : ∀ day ∈ days.docs, DayTimed day) :
    ∃ members, asMap (Datum.object
        (days.docs.map fun day => (day.key, (writtenDay day).value))).value = some members ∧
      members.mapM decodeDay = some days.docs := by
  refine ⟨_, rfl, ?_⟩
  rw [Datum.memberValues_eq_map, List.map_map, List.map_map]
  exact mapM_map_eq_some fun day member => decodeDay_written (timed day member)

/-! ## Working times -/

namespace WorkingTime

/-- Every range has both times, and no day has a point in its key. -/
structure Timed (time : WorkingTime) : Prop where
  fixedHours : ∀ ranges, time.fixedHours = some ranges → InDays ranges
  customizedHours : ∀ days, time.customizedHours = some days → ∀ day ∈ days.docs, DayTimed day

/-- An empty list or map is not told from a missing one. -/
def withoutEmpty (time : WorkingTime) : WorkingTime where
  option := time.option
  fixedHours := time.fixedHours.filter fun ranges => !ranges.isEmpty
  customizedHours := time.customizedHours.filter fun days => !days.docs.isEmpty

theorem null_readable : (Datum.scalar .null).Readable := .scalar (by decide)

theorem fixedHours_written {time : WorkingTime} (timed : time.Timed) :
    ∃ datum items, ofPart encodeRanges time.fixedHours = some datum ∧ datum.Readable ∧
      orEmpty asList datum.value = some items ∧
        decodeRanges items = some (time.fixedHours.getD []) := by
  cases given : time.fixedHours with
  | none => exact ⟨_, [], rfl, null_readable, rfl, rfl⟩
  | some ranges =>
      have inDays := timed.fixedHours ranges given
      obtain ⟨items, listed, decoded⟩ := Option.bind_eq_some_iff.mp (asList_written inDays)
      exact ⟨_, items, encodeRanges_of_inDays inDays, ranges_readable ranges, listed, decoded⟩

theorem customizedHours_written {time : WorkingTime} (timed : time.Timed) :
    ∃ datum members, ofPart encodeDays time.customizedHours = some datum ∧ datum.Readable ∧
      orEmpty asMap datum.value = some members ∧
        members.mapM decodeDay =
          some ((time.customizedHours.map Collection.docs).getD []) := by
  cases given : time.customizedHours with
  | none => exact ⟨_, [], rfl, null_readable, rfl, rfl⟩
  | some days =>
      have days_timed := timed.customizedHours days given
      obtain ⟨members, mapped, decoded⟩ := decodeDays_written days_timed
      exact ⟨_, members, encodeDays_of_timed days_timed, days_readable days, mapped, decoded⟩

theorem kept_fixedHours (hours : Option (List TimeRange)) :
    (if hours.getD [] = [] then none else some (hours.getD [])) =
      hours.filter fun ranges => !ranges.isEmpty := by
  cases hours with
  | none => rfl
  | some ranges =>
      cases ranges with
      | nil => rfl
      | cons range rest => rfl

theorem kept_customizedHours
    (hours : Option (Collection (MapEntry String (List TimeRange)))) :
    (if (Collection.empty.putAll ((hours.map Collection.docs).getD [])).docs = [] then none
      else some (Collection.empty.putAll ((hours.map Collection.docs).getD []))) =
      hours.filter fun days => !days.docs.isEmpty := by
  cases hours with
  | none => rfl
  | some days =>
      have same : Collection.empty.putAll days.docs = days :=
        Collection.eq_of_docs_eq (Collection.docs_putAll_of_distinct days.distinct)
      rw [Option.map_some, Option.getD_some, same, Option.filter_some]
      cases docs : days.docs with
      | nil => rfl
      | cons day rest => rfl

/-- What is encoded is read back, but for an empty list or map. -/
theorem readBack_withoutEmpty {time : WorkingTime} (timed : time.Timed) :
    (time.toJson.bind parse?).bind fromJson = some time.withoutEmpty := by
  obtain ⟨fixed, ranges, fixedEncoded, fixedReadable, listed, rangesDecoded⟩ :=
    fixedHours_written timed
  obtain ⟨customized, days, daysEncoded, daysReadable, mapped, daysDecoded⟩ :=
    customizedHours_written timed
  have readable : (Datum.object [("option", .string time.option), ("fixedHours", fixed),
      ("customizedHours", customized)]).Readable := by
    have distinct : ["option", "fixedHours", "customizedHours"].Nodup := by decide
    refine .object distinct ?_
    simp only [List.forall_mem_cons]
    exact ⟨.string _, fixedReadable, daysReadable, List.forall_mem_nil _⟩
  simp only [toJson, fixedEncoded, daysEncoded, Option.bind_eq_bind, Option.bind_some,
    readable.parse?_encode, fromJson, Datum.member?_value, List.lookup_cons, String.reduceBEq,
    Option.map_some, Option.getD_some, Datum.text?_value, listed, mapped, rangesDecoded,
    daysDecoded, kept_fixedHours, kept_customizedHours, withoutEmpty]

end WorkingTime

/-- A store with a break at noon on Saturdays. -/
def market : WorkingTime where
  option := "customized \"hours\""
  fixedHours := some []
  customizedHours := some
    ⟨[⟨"saturday", [⟨some ⟨9, 5⟩, some ⟨12, 0⟩⟩, ⟨some ⟨14, 30⟩, some ⟨23, 59⟩⟩]⟩, ⟨"sunday", []⟩],
      by decide⟩

theorem market_timed : market.Timed where
  fixedHours ranges given := by
    cases given
    exact List.forall_mem_nil _
  customizedHours days given := by
    cases given
    simp only [List.forall_mem_cons]
    refine ⟨⟨by decide, ?_⟩, ⟨by decide, List.forall_mem_nil _⟩, List.forall_mem_nil _⟩
    simp only [InDays, List.forall_mem_cons]
    exact ⟨⟨_, _, rfl, ⟨by decide, by decide⟩, ⟨by decide, by decide⟩⟩,
      ⟨_, _, rfl, ⟨by decide, by decide⟩, ⟨by decide, by decide⟩⟩, List.forall_mem_nil _⟩

theorem market_readBack : (market.toJson.bind parse?).bind WorkingTime.fromJson =
    some { market with fixedHours := none } :=
  WorkingTime.readBack_withoutEmpty market_timed

end Proximity.Apps.Commercant.StoreForm
