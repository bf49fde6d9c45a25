import Mathlib.Algebra.Group.Nat.Defs
import Mathlib.Data.Int.Order.Basic
import Mathlib.Order.Monotone.Basic

/-!
# The Gregorian calendar

Days are numbered from 1 January 1970, months from January of the year 0.  The calendar is
extended to all days before and after.
-/

namespace Proximity.Systems.Calendar

def leap (year : ℤ) : Bool := year % 4 = 0 ∧ (year % 100 ≠ 0 ∨ year % 400 = 0)

/-- The number of days of a month. -/
def daysIn (month : ℤ) : ℤ :=
  if month % 12 = 1 then if leap (month / 12) = true then 29 else 28
  else if month % 12 ∈ [3, 5, 8, 10] then 30
  else 31

/-- The first day of a month.  The years are counted from March, so that a leap day ends one. -/
def firstOf (month : ℤ) : ℤ :=
  let year := (month - 2) / 12
  365 * year + year / 4 - year / 100 + year / 400 + (153 * ((month - 2) % 12) + 2) / 5 - 719468

/-- The month of a day: the mean length of a month is 146097 days in 4800 months. -/
def monthOf (day : ℤ) : ℤ :=
  let near := (day + 719468) * 4800 / 146097 + 2
  if firstOf (near + 1) ≤ day then near + 1
  else if firstOf near ≤ day then near
  else near - 1

/-- The day of the month. -/
def dateOf (day : ℤ) : ℤ := day - firstOf (monthOf day) + 1

/-! ## Months -/

example : firstOf (12 * 1970) = 0 := by decide

/-- The leap days up to a year are those up to the year before, and its own. -/
theorem leapDays_pred (year : ℤ) : year / 4 - year / 100 + year / 400 =
    (year - 1) / 4 - (year - 1) / 100 + (year - 1) / 400 +
      if leap year = true then 1 else 0 := by
  have fourth : year / 4 = (year - 1) / 4 + if year % 4 = 0 then 1 else 0 := by
    split <;> omega
  have century : year / 100 = (year - 1) / 100 + if year % 100 = 0 then 1 else 0 := by
    split <;> omega
  have cycle : year / 400 = (year - 1) / 400 + if year % 400 = 0 then 1 else 0 := by
    split <;> omega
  have multiple : year % 100 = 0 → year % 4 = 0 := by omega
  have multiple' : year % 400 = 0 → year % 100 = 0 := by omega
  have leaps : leap year = true ↔ year % 4 = 0 ∧ (year % 100 ≠ 0 ∨ year % 400 = 0) :=
    decide_eq_true_iff
  rw [fourth, century, cycle]
  by_cases inFourth : year % 4 = 0
  · by_cases inCentury : year % 100 = 0
    · by_cases inCycle : year % 400 = 0
      · rw [if_pos inFourth, if_pos inCentury, if_pos inCycle,
          if_pos (leaps.mpr ⟨inFourth, .inr inCycle⟩)]
        omega
      · have common : ¬leap year = true := fun leap =>
          (leaps.mp leap).2.elim (· inCentury) inCycle
        rw [if_pos inFourth, if_pos inCentury, if_neg inCycle, if_neg common]
        omega
    · have notCycle : ¬year % 400 = 0 := mt multiple' inCentury
      rw [if_pos inFourth, if_neg inCentury, if_neg notCycle,
        if_pos (leaps.mpr ⟨inFourth, .inl inCentury⟩)]
      omega
  · have notCentury : ¬year % 100 = 0 := mt multiple inFourth
    have notCycle : ¬year % 400 = 0 := mt multiple' notCentury
    have common : ¬leap year = true := fun leap => inFourth (leaps.mp leap).1
    rw [if_neg inFourth, if_neg notCentury, if_neg notCycle, if_neg common]
    omega

theorem daysIn_february {month : ℤ} (february : month % 12 = 1) :
    daysIn month = 28 + if leap (month / 12) = true then 1 else 0 := by
  rw [daysIn, if_pos february]
  split <;> rfl

/-- A month is as many days long as it has. -/
theorem firstOf_succ (month : ℤ) : firstOf (month + 1) = firstOf month + daysIn month := by
  by_cases february : month % 12 = 1
  · have leapDays := leapDays_pred (month / 12)
    have year : (month + 1 - 2) / 12 = month / 12 ∧ (month + 1 - 2) % 12 = 0 := by omega
    have lastYear : (month - 2) / 12 = month / 12 - 1 ∧ (month - 2) % 12 = 11 := by omega
    rw [daysIn_february february]
    unfold firstOf
    dsimp only
    rw [year.1, year.2, lastYear.1, lastYear.2]
    generalize month / 12 = year at *
    omega
  · have year : (month + 1 - 2) / 12 = (month - 2) / 12 ∧
        (month + 1 - 2) % 12 = (month - 2) % 12 + 1 := by omega
    have place : (month - 2) % 12 = (month % 12 + 10) % 12 := by omega
    have others : month % 12 = 0 ∨ month % 12 = 2 ∨ month % 12 = 3 ∨ month % 12 = 4 ∨
        month % 12 = 5 ∨ month % 12 = 6 ∨ month % 12 = 7 ∨ month % 12 = 8 ∨ month % 12 = 9 ∨
        month % 12 = 10 ∨ month % 12 = 11 := by omega
    unfold firstOf daysIn
    dsimp only
    rw [year.1, year.2, place, if_neg february]
    generalize (month - 2) / 12 = year
    rcases others with h | h | h | h | h | h | h | h | h | h | h
    all_goals
      simp [h]
      omega

/-- A year is near 146097 days in 400 years. -/
theorem years_bounds (year : ℤ) :
    146097 * year - 699 ≤ 400 * (365 * year + year / 4 - year / 100 + year / 400) ∧
      400 * (365 * year + year / 4 - year / 100 + year / 400) ≤ 146097 * year + 396 := by
  omega

/-- The first day of a month is near where it would be if all months were as long. -/
theorem firstOf_bounds (month : ℤ) :
    146097 * (month - 2) - 10400 ≤ 4800 * (firstOf month + 719468) ∧
      4800 * (firstOf month + 719468) ≤ 146097 * (month - 2) + 15360 := by
  have parts := Int.mul_ediv_add_emod (month - 2) 12
  have first : 0 ≤ (month - 2) % 12 := Int.emod_nonneg _ (by decide)
  have last : (month - 2) % 12 < 12 := Int.emod_lt_of_pos _ (by decide)
  obtain ⟨since, till⟩ := years_bounds ((month - 2) / 12)
  unfold firstOf
  dsimp only
  rw [← parts]
  generalize (month - 2) / 12 = year at *
  generalize (month - 2) % 12 = place at *
  generalize 365 * year + year / 4 - year / 100 + year / 400 = years at *
  omega

theorem monthOf_spec (day : ℤ) :
    firstOf (monthOf day) ≤ day ∧ day < firstOf (monthOf day + 1) := by
  have before := (firstOf_bounds ((day + 719468) * 4800 / 146097 + 2 - 1)).2
  have after := (firstOf_bounds ((day + 719468) * 4800 / 146097 + 2 + 1 + 1)).1
  unfold monthOf
  dsimp only
  split
  case isTrue late => omega
  case isFalse notLate =>
    split
    case isTrue => omega
    case isFalse early =>
      have next : (day + 719468) * 4800 / 146097 + 2 - 1 + 1 =
          (day + 719468) * 4800 / 146097 + 2 := by omega
      rw [next]
      omega

theorem daysIn_bounds (month : ℤ) : 28 ≤ daysIn month ∧ daysIn month ≤ 31 := by
  unfold daysIn
  split
  case isTrue => split <;> decide
  case isFalse => split <;> decide

/-- Later months begin later. -/
theorem firstOf_lt_iff {first second : ℤ} : firstOf first < firstOf second ↔ first < second := by
  have later : StrictMono firstOf := by
    refine strictMono_int_of_lt_succ fun month => ?_
    have long := (daysIn_bounds month).1
    rw [firstOf_succ]
    omega
  exact later.lt_iff_lt

theorem monthOf_eq_iff {day month : ℤ} :
    monthOf day = month ↔ firstOf month ≤ day ∧ day < firstOf (month + 1) := by
  constructor
  · rintro rfl
    exact monthOf_spec day
  · rintro ⟨since, till⟩
    obtain ⟨began, ends⟩ := monthOf_spec day
    have notLater := firstOf_lt_iff.mp (began.trans_lt till)
    have notEarlier := firstOf_lt_iff.mp (since.trans_lt ends)
    omega

/-- An earlier day is in the month of a day when it is not before the first. -/
theorem monthOf_eq_of_le_iff {earlier day : ℤ} (le : earlier ≤ day) :
    monthOf earlier = monthOf day ↔ firstOf (monthOf day) ≤ earlier := by
  rw [monthOf_eq_iff]
  exact and_iff_left (le.trans_lt (monthOf_spec day).2)

theorem dateOf_bounds (day : ℤ) : 1 ≤ dateOf day ∧ dateOf day ≤ 31 := by
  obtain ⟨began, ends⟩ := monthOf_spec day
  have long := (daysIn_bounds (monthOf day)).2
  rw [firstOf_succ] at ends
  unfold dateOf
  omega

/-- A day is known from its month and its date. -/
theorem eq_of_month_date {first second : ℤ} (month : monthOf first = monthOf second)
    (date : dateOf first = dateOf second) : first = second := by
  unfold dateOf at date
  rw [month] at date
  omega

/-! ## Dates as text -/

def padded (width number : ℕ) : List Char := (Nat.toDigits 10 number).leftpad width '0'

/-- Four digits, or a sign and six. -/
def yearText (year : ℤ) : List Char :=
  if 0 ≤ year ∧ year ≤ 9999 then padded 4 year.toNat
  else if 0 < year then '+' :: padded 6 year.natAbs
  else '-' :: padded 6 year.natAbs

def yearOf (day : ℤ) : ℤ := monthOf day / 12

/-- The date of a day as it stands before the time. -/
def dateText (day : ℤ) : List Char :=
  yearText (yearOf day) ++ ('-' :: (padded 2 (monthOf day % 12 + 1).toNat ++
    ('-' :: padded 2 (dateOf day).toNat)))

theorem length_padded {width number : ℕ} (some_digit : 0 < width) (small : number < 10 ^ width) :
    (padded width number).length = width := by
  rw [padded, List.length_leftpad]
  exact max_eq_left ((Nat.length_toDigits_le_iff (by decide) some_digit).mpr small)

theorem padded_injective (width : ℕ) : Function.Injective (padded width) := by
  have value : ∀ number, Nat.ofDigitChars 10 (padded width number) 0 = number := fun number => by
    rw [padded, List.leftpad, Nat.ofDigitChars_append, Nat.ofDigitChars_replicate_zero,
      Nat.mul_zero, Nat.ofDigitChars_ten_toDigits]
  intro first second same
  rw [← value first, same, value]

theorem isDigit_of_mem_padded {width number : ℕ} {character : Char}
    (member : character ∈ padded width number) : character.isDigit = true := by
  rcases List.mem_append.mp member with zero | digit
  · rw [List.eq_of_mem_replicate zero]
    rfl
  · exact Nat.isDigit_of_mem_toDigits (by decide) (by decide) digit

theorem length_dateText {day : ℤ} (year : 0 ≤ yearOf day ∧ yearOf day ≤ 9999) :
    (dateText day).length = 10 := by
  obtain ⟨_, date⟩ := dateOf_bounds day
  have four : (padded 4 (yearOf day).toNat).length = 4 := length_padded (by decide) (by omega)
  have month : (padded 2 (monthOf day % 12 + 1).toNat).length = 2 :=
    length_padded (by decide) (by omega)
  have two : (padded 2 (dateOf day).toNat).length = 2 := length_padded (by decide) (by omega)
  rw [dateText, yearText, if_pos year]
  simp [four, month, two]

theorem yearText_sign {year : ℤ} (other : ¬(0 ≤ year ∧ year ≤ 9999)) :
    ∃ sign rest, yearText year = sign :: rest ∧ sign.isDigit = false := by
  rw [yearText, if_neg other]
  split
  case isTrue => exact ⟨'+', _, rfl, rfl⟩
  case isFalse => exact ⟨'-', _, rfl, rfl⟩

theorem yearText_digit {year : ℤ} (four : 0 ≤ year ∧ year ≤ 9999) :
    ∃ digit rest, yearText year = digit :: rest ∧ digit.isDigit = true := by
  rw [yearText, if_pos four]
  have long : (padded 4 year.toNat).length = 4 := length_padded (by decide) (by omega)
  cases text : padded 4 year.toNat with
  | nil =>
      rw [text] at long
      cases long
  | cons digit rest =>
      have member : digit ∈ padded 4 year.toNat := text ▸ List.mem_cons_self
      exact ⟨digit, rest, rfl, isDigit_of_mem_padded member⟩

theorem eq_of_dateText_eq {first second : ℤ} (year : 0 ≤ yearOf first ∧ yearOf first ≤ 9999)
    (year' : 0 ≤ yearOf second ∧ yearOf second ≤ 9999)
    (same : dateText first = dateText second) : first = second := by
  have date := dateOf_bounds first
  have date' := dateOf_bounds second
  have length : ∀ year : ℤ, 0 ≤ year ∧ year ≤ 9999 → (padded 4 year.toNat).length = 4 :=
    fun year four => length_padded (by decide) (by omega)
  have lengthMonth : ∀ month : ℤ, (padded 2 (month % 12 + 1).toNat).length = 2 :=
    fun month => length_padded (by decide) (by omega)
  rw [dateText, dateText, yearText, yearText, if_pos year, if_pos year'] at same
  obtain ⟨years, rest⟩ := List.append_inj same ((length _ year).trans (length _ year').symm)
  obtain ⟨months, rest⟩ := List.append_inj (List.cons_eq_cons.mp rest).2
    ((lengthMonth _).trans (lengthMonth _).symm)
  have dates := padded_injective 2 (List.cons_eq_cons.mp rest).2
  have sameYear := padded_injective 4 years
  have sameMonth := padded_injective 2 months
  refine eq_of_month_date ?_ (by omega)
  unfold yearOf at sameYear year year'
  omega

/-- With years of four digits, the first ten characters are the whole date. -/
theorem take_dateText_eq_iff {first second : ℤ} (year : 0 ≤ yearOf second ∧ yearOf second ≤ 9999) :
    (dateText first).take 10 = (dateText second).take 10 ↔ first = second := by
  refine ⟨fun same => ?_, fun same => by rw [same]⟩
  have whole : (dateText second).take 10 = dateText second :=
    List.take_of_length_le (length_dateText year).le
  by_cases four : 0 ≤ yearOf first ∧ yearOf first ≤ 9999
  · have whole' : (dateText first).take 10 = dateText first :=
      List.take_of_length_le (length_dateText four).le
    rw [whole, whole'] at same
    exact eq_of_dateText_eq four year same
  · obtain ⟨sign, rest, signed, notDigit⟩ := yearText_sign four
    obtain ⟨digit, rest', digits, isDigit⟩ := yearText_digit year
    rw [dateText, dateText, signed, digits, List.cons_append, List.cons_append,
      List.take_succ_cons, List.take_succ_cons] at same
    rw [(List.cons_eq_cons.mp same).1, isDigit] at notDigit
    cases notDigit

end Proximity.Systems.Calendar
