import Mathlib.Data.List.Induction
import Proximity.Systems.Binary64

/-!
# Numbers as decimal text

The literals that number readers accept, and the text that a double is printed as: the
shortest decimal that is nearest to it and to no other double.
-/

namespace Proximity.Systems

/-! ## Reading -/

/-- The parts of a literal: digits, digits after a point, a power of ten. -/
structure DecimalLiteral where
  whole : List Char
  fraction : Option (List Char)
  exponent : Option ℤ
  deriving DecidableEq

def digits? (text : List Char) : Option ℕ :=
  if text ≠ [] ∧ text.all Char.isDigit = true then some (Nat.ofDigitChars 10 text 0) else none

def power? : List Char → Option ℤ
  | '-' :: digits => (digits? digits).map fun power : ℕ => -power
  | '+' :: digits => (digits? digits).map fun power : ℕ => power
  | digits => (digits? digits).map fun power : ℕ => power

def exponent? : List Char → Option (Option ℤ)
  | [] => some none
  | mark :: text => if mark = 'e' ∨ mark = 'E' then (power? text).map some else none

/-- The digits after a point, if there is one, and the rest. -/
def afterWhole : List Char → Option (List Char) × List Char
  | '.' :: text => (some (text.takeWhile Char.isDigit), text.dropWhile Char.isDigit)
  | text => (none, text)

/-- `12`, `12.5`, `12.`, `.5`, each with an exponent or without. -/
def decimalLiteral? (text : List Char) : Option DecimalLiteral :=
  let whole := text.takeWhile Char.isDigit
  let parts := afterWhole (text.dropWhile Char.isDigit)
  if whole = [] ∧ parts.1.getD [] = [] then none
  else (exponent? parts.2).map fun exponent => ⟨whole, parts.1, exponent⟩

def DecimalLiteral.value (literal : DecimalLiteral) : ℚ :=
  Nat.ofDigitChars 10 (literal.whole ++ literal.fraction.getD []) 0 *
    10 ^ (literal.exponent.getD 0 - (literal.fraction.getD []).length)

/-! ## Printing -/

/-- The two decimals of so many digits on either side of a magnitude, the nearer one first. -/
def neighbours (magnitude : ℚ) (digits : ℕ) : List (ℕ × ℤ) :=
  let exponent := Int.log 10 magnitude + 1 - digits
  let below := ⌊magnitude / 10 ^ exponent⌋₊
  if magnitude / 10 ^ exponent - below ≤ 1 / 2 then [(below, exponent), (below + 1, exponent)]
  else [(below + 1, exponent), (below, exponent)]

/-- Every digit that a magnitude on the finest grid can have. -/
def everyDigit (magnitude : ℚ) : ℕ × ℤ := (⌊magnitude * 10 ^ 1074⌋₊, -1074)

/-- The first decimal that is nearest to the magnitude.  Seventeen digits are enough. -/
def shortest (magnitude : ℚ) : ℕ × ℤ :=
  (((List.range 17).flatMap fun digits => neighbours magnitude (digits + 1)).find? fun decimal =>
    nearest (decimal.1 * 10 ^ decimal.2) = .finite magnitude).getD (everyDigit magnitude)

/-- Trailing zeros are moved to the exponent. -/
def withoutZeros (digits : ℕ) (exponent : ℤ) : ℕ × ℤ :=
  if 0 < digits ∧ digits % 10 = 0 then withoutZeros (digits / 10) (exponent + 1)
  else (digits, exponent)
termination_by digits
decreasing_by omega

/-- Digits and an exponent as text: with a point from `1e-6` up to `1e21`, else with a power
of ten. -/
def layout (digits : ℕ) (exponent : ℤ) : List Char :=
  let text := Nat.toDigits 10 digits
  let point := text.length + exponent
  if 0 < point ∧ point ≤ 21 then
    if 0 ≤ exponent then text ++ List.replicate exponent.toNat '0' ++ ['.', '0']
    else text.take point.toNat ++ '.' :: text.drop point.toNat
  else if -6 < point ∧ point ≤ 0 then '0' :: '.' :: (List.replicate (-point).toNat '0' ++ text)
  else
    text.take 1 ++ (if text.drop 1 = [] then [] else '.' :: text.drop 1) ++
      'e' :: (if point - 1 < 0 then '-' else '+') :: Nat.toDigits 10 (point - 1).natAbs

def magnitudeText (magnitude : ℚ) : List Char :=
  if magnitude = 0 then ['0', '.', '0']
  else
    let decimal := withoutZeros (shortest magnitude).1 (shortest magnitude).2
    layout decimal.1 decimal.2

/-- `toString` of a double. -/
def Double.text : Double → List Char
  | .finite value => if value < 0 then '-' :: magnitudeText (-value) else magnitudeText value
  | .infinite negative => (if negative = true then ['-'] else []) ++ "Infinity".toList
  | .nan => "NaN".toList

/-! ## Digits -/

/-- No zero comes first, unless it is the only digit. -/
def Leading (text : List Char) : Prop := text.head? = some '0' → text = ['0']

instance (text : List Char) : Decidable (Leading text) :=
  inferInstanceAs (Decidable (_ → _))

theorem all_isDigit_toDigits (number : ℕ) :
    (Nat.toDigits 10 number).all Char.isDigit = true := by
  rw [List.all_eq_true]
  exact fun _ member => Nat.isDigit_of_mem_toDigits (by decide) (by decide) member

theorem leading_toDigits (number : ℕ) : Leading (Nat.toDigits 10 number) := by
  induction number using Nat.strongRecOn with
  | ind number ih =>
      rw [Nat.toDigits_eq_if (by decide)]
      split
      case isTrue small =>
        intro zero
        rw [List.head?_cons, Option.some_inj] at zero
        rw [zero]
      case isFalse large =>
        intro zero
        have quotient_pos : 0 < number / 10 := Nat.div_pos (Nat.le_of_not_lt large) (by decide)
        rw [List.head?_append_of_ne_nil _ Nat.toDigits_ne_nil] at zero
        have only := ih (number / 10) (by omega) zero
        have vanishes : number / 10 = 0 := by
          have spelled : Nat.ofDigitChars 10 (Nat.toDigits 10 (number / 10)) 0 = number / 10 :=
            Nat.ofDigitChars_ten_toDigits
          rw [only] at spelled
          exact spelled.symm
        omega

theorem digits?_toDigits (number : ℕ) : digits? (Nat.toDigits 10 number) = some number := by
  rw [digits?, if_pos ⟨Nat.toDigits_ne_nil, all_isDigit_toDigits number⟩,
    Nat.ofDigitChars_ten_toDigits]

theorem digitChar_of_isDigit {digit : Char} (isDigit : digit.isDigit = true) :
    digit.toNat - '0'.toNat < 10 ∧ (digit.toNat - '0'.toNat).digitChar = digit := by
  obtain ⟨least, greatest⟩ := Char.isDigit_iff_toNat.mp isDigit
  have zero : '0'.toNat = 48 := rfl
  have nine : '9'.toNat = 57 := rfl
  have small : digit.toNat - '0'.toNat < 10 := by omega
  refine ⟨small, Char.toNat_inj.mp ?_⟩
  rw [Nat.toNat_digitChar_of_lt_ten small]
  omega

/-- Digits that lead are the digits of the number that they spell. -/
theorem toDigits_ofDigitChars {text : List Char} (there : text ≠ [])
    (digits : text.all Char.isDigit = true) (leading : Leading text) :
    Nat.toDigits 10 (Nat.ofDigitChars 10 text 0) = text := by
  induction text using List.reverseRecOn with
  | nil => exact absurd rfl there
  | append_singleton front last ih =>
      rw [List.all_append, Bool.and_eq_true] at digits
      have lastDigit : last.isDigit = true :=
        List.all_eq_true.mp digits.2 _ (List.mem_singleton_self _)
      obtain ⟨small, spelled⟩ := digitChar_of_isDigit lastDigit
      rw [Nat.ofDigitChars_append, Nat.ofDigitChars_cons, Nat.ofDigitChars_nil]
      by_cases alone : front = []
      · subst alone
        rw [Nat.ofDigitChars_nil, Nat.mul_zero, Nat.zero_add, Nat.toDigits_of_lt_base small,
          spelled, List.nil_append]
      · have notZero : front.head? ≠ some '0' := fun zero => by
          have only := leading (by rw [List.head?_append_of_ne_nil _ alone, zero])
          have length := congrArg List.length only
          rw [List.length_append, List.length_singleton, List.length_singleton,
            Nat.add_eq_right, List.length_eq_zero_iff] at length
          exact alone length
        have same := ih alone digits.1 fun zero => absurd zero notZero
        have positive : 0 < Nat.ofDigitChars 10 front 0 := by
          refine Nat.pos_of_ne_zero fun vanishes => notZero ?_
          rw [← same, vanishes]
          rfl
        rw [← Nat.toDigits_append_toDigits (by decide) positive small, same,
          Nat.toDigits_of_lt_base small, spelled]

/-! ## Literals read back -/

/-- Digits up to something else. -/
theorem takeWhile_isDigit {digits : List Char} (rest : List Char)
    (all : digits.all Char.isDigit = true)
    (stops : ∀ next ∈ rest.head?, next.isDigit = false) :
    (digits ++ rest).takeWhile Char.isDigit = digits ∧
      (digits ++ rest).dropWhile Char.isDigit = rest := by
  have each := List.all_eq_true.mp all
  have none_more : rest.takeWhile Char.isDigit = [] ∧ rest.dropWhile Char.isDigit = rest := by
    cases rest with
    | nil => exact ⟨rfl, rfl⟩
    | cons next rest =>
        have stop := stops next rfl
        rw [List.takeWhile_cons_of_neg (by rw [stop]; exact Bool.false_ne_true),
          List.dropWhile_cons_of_neg (by rw [stop]; exact Bool.false_ne_true)]
        exact ⟨rfl, rfl⟩
  rw [List.takeWhile_append_of_pos each, List.dropWhile_append_of_pos each, none_more.1,
    none_more.2, List.append_nil]
  exact ⟨rfl, rfl⟩

theorem decimalLiteral?_whole {whole : List Char} (rest : List Char) (there : whole ≠ [])
    (digits : whole.all Char.isDigit = true)
    (stops : ∀ next ∈ rest.head?, next.isDigit = false ∧ next ≠ '.') :
    decimalLiteral? (whole ++ rest) =
      (exponent? rest).map fun exponent => ⟨whole, none, exponent⟩ := by
  obtain ⟨taken, dropped⟩ := takeWhile_isDigit rest digits fun next first => (stops next first).1
  have noPoint : afterWhole rest = (none, rest) := by
    unfold afterWhole
    split
    case h_1 => exact absurd rfl (stops '.' rfl).2
    case h_2 => rfl
  unfold decimalLiteral?
  rw [taken, dropped, noPoint, if_neg fun nothing => there nothing.1]

theorem decimalLiteral?_point {whole fraction : List Char} (rest : List Char) (there : whole ≠ [])
    (digits : whole.all Char.isDigit = true) (more : fraction.all Char.isDigit = true)
    (stops : ∀ next ∈ rest.head?, next.isDigit = false) :
    decimalLiteral? (whole ++ '.' :: (fraction ++ rest)) =
      (exponent? rest).map fun exponent => ⟨whole, some fraction, exponent⟩ := by
  obtain ⟨taken, dropped⟩ := takeWhile_isDigit ('.' :: (fraction ++ rest)) digits
    fun next first => by cases first; rfl
  obtain ⟨taken', dropped'⟩ := takeWhile_isDigit rest more stops
  have point : afterWhole ('.' :: (fraction ++ rest)) = (some fraction, rest) := by
    rw [afterWhole, taken', dropped']
  unfold decimalLiteral?
  rw [taken, dropped, point, if_neg fun nothing => there nothing.1]

theorem exponent?_toDigits (power : ℤ) :
    exponent? ('e' :: (if power < 0 then '-' else '+') :: Nat.toDigits 10 power.natAbs) =
      some (some power) := by
  rw [exponent?, if_pos (Or.inl rfl)]
  split
  case isTrue negative =>
    rw [power?, digits?_toDigits, Option.map_some, Option.map_some,
      Int.ofNat_natAbs_of_nonpos negative.le, neg_neg]
  case isFalse nonneg =>
    rw [power?, digits?_toDigits, Option.map_some, Option.map_some,
      Int.natAbs_of_nonneg (not_lt.mp nonneg)]

/-- What a JSON reader asks of a literal, besides. -/
structure DecimalLiteral.Strict (literal : DecimalLiteral) : Prop where
  whole : literal.whole ≠ []
  leading : Leading literal.whole
  fraction : literal.fraction ≠ some []

/-- A literal that is not a plain integer. -/
def DecimalLiteral.Fractional (literal : DecimalLiteral) : Prop :=
  literal.fraction.isSome = true ∨ literal.exponent.isSome = true

theorem ofDigitChars_zeros (text : List Char) (count : ℕ) :
    Nat.ofDigitChars 10 (text ++ List.replicate count '0') 0 =
      Nat.ofDigitChars 10 text 0 * 10 ^ count := by
  rw [Nat.ofDigitChars_append, Nat.ofDigitChars_replicate_zero, Nat.mul_comm]

/-- The text is read as a literal of the value that a JSON reader takes for a fraction. -/
def ReadsFraction (text : List Char) (value : ℚ) : Prop :=
  ∃ literal, decimalLiteral? text = some literal ∧ literal.Strict ∧ literal.Fractional ∧
    literal.value = value

theorem readsFraction_point (whole fraction : List Char) (there : whole ≠ [])
    (digits : whole.all Char.isDigit = true) (leading : Leading whole) (some_more : fraction ≠ [])
    (more : fraction.all Char.isDigit = true) :
    ReadsFraction (whole ++ '.' :: fraction)
      (Nat.ofDigitChars 10 (whole ++ fraction) 0 * 10 ^ (-(fraction.length : ℤ))) := by
  refine ⟨⟨whole, some fraction, none⟩, ?_, ⟨there, leading, ?_⟩, Or.inl rfl, ?_⟩
  · have read := decimalLiteral?_point [] there digits more nofun
    rwa [List.append_nil] at read
  · exact fun empty => some_more (Option.some_inj.mp empty)
  · simp [DecimalLiteral.value]

theorem readsFraction_power (whole fraction : List Char) (there : whole ≠ [])
    (digits : whole.all Char.isDigit = true) (leading : Leading whole)
    (more : fraction.all Char.isDigit = true) (power : ℤ) :
    ReadsFraction
      (whole ++ (if fraction = [] then [] else '.' :: fraction) ++
        'e' :: (if power < 0 then '-' else '+') :: Nat.toDigits 10 power.natAbs)
      (Nat.ofDigitChars 10 (whole ++ fraction) 0 * 10 ^ (power - fraction.length)) := by
  have exponent := exponent?_toDigits power
  by_cases alone : fraction = []
  · subst alone
    refine ⟨⟨whole, none, some power⟩, ?_, ⟨there, leading, nofun⟩, Or.inr rfl, ?_⟩
    · rw [if_pos rfl, List.append_nil, decimalLiteral?_whole _ there digits, exponent]
      · rfl
      · intro next first
        cases first
        decide
    · simp [DecimalLiteral.value]
  · refine ⟨⟨whole, some fraction, some power⟩, ?_, ⟨there, leading, ?_⟩, Or.inl rfl, ?_⟩
    · rw [if_neg alone, List.append_assoc, List.cons_append,
        decimalLiteral?_point _ there digits more, exponent]
      · rfl
      · intro next first
        cases first
        rfl
    · exact fun empty => alone (Option.some_inj.mp empty)
    · simp [DecimalLiteral.value]

theorem all_isDigit_of_subset {part text : List Char} (subset : part ⊆ text)
    (digits : text.all Char.isDigit = true) : part.all Char.isDigit = true :=
  List.all_eq_true.mpr fun _ member => List.all_eq_true.mp digits _ (subset member)

theorem all_isDigit_replicate (count : ℕ) :
    (List.replicate count '0').all Char.isDigit = true := by
  rw [List.all_eq_true]
  intro digit member
  rw [List.eq_of_mem_replicate member]
  rfl

/-- What is laid out is read back. -/
theorem readsFraction_layout {digits : ℕ} (positive : 0 < digits) (exponent : ℤ) :
    ReadsFraction (layout digits exponent) (digits * 10 ^ exponent) := by
  have all := all_isDigit_toDigits digits
  have spelled : Nat.ofDigitChars 10 (Nat.toDigits 10 digits) 0 = digits :=
    Nat.ofDigitChars_ten_toDigits
  have there : Nat.toDigits 10 digits ≠ [] := Nat.toDigits_ne_nil
  have notZero : (Nat.toDigits 10 digits).head? ≠ some '0' := fun zero => by
    rw [leading_toDigits digits zero] at spelled
    exact positive.ne spelled
  unfold layout
  obtain ⟨text, isText⟩ : ∃ text, Nat.toDigits 10 digits = text := ⟨_, rfl⟩
  rw [isText] at all spelled notZero there ⊢
  have length_pos := List.length_pos_iff.mpr there
  dsimp only
  split
  case isTrue inside =>
    split
    case isTrue whole =>
      have read := readsFraction_point (text ++ List.replicate exponent.toNat '0') ['0']
        (by simp [there]) (by simp [all]) (fun zero => by
          rw [List.head?_append_of_ne_nil _ there] at zero
          exact absurd zero notZero) (List.cons_ne_nil _ _) rfl
      have zeros : text ++ List.replicate exponent.toNat '0' ++ ['0'] =
          text ++ List.replicate (exponent.toNat + 1) '0' := by
        rw [List.append_assoc, List.replicate_succ']
      have value : ((digits * 10 ^ (exponent.toNat + 1) : ℕ) : ℚ) * 10 ^ (-(1 : ℤ)) =
          digits * 10 ^ exponent := by
        have power : (10 : ℚ) ^ exponent = 10 ^ exponent.toNat := by
          rw [← zpow_natCast, Int.toNat_of_nonneg whole]
        rw [power]
        push_cast
        ring
      rw [zeros, ofDigitChars_zeros, spelled, List.length_singleton, Nat.cast_one, value] at read
      exact read
    case isFalse fractional =>
      have cut : (text.length + exponent).toNat < text.length := by omega
      have rest : text.drop (text.length + exponent).toNat ≠ [] := by
        rw [Ne, List.drop_eq_nil_iff]
        omega
      have front : (text.take (text.length + exponent).toNat).head? = text.head? := by
        rw [List.head?_take, if_neg (by omega)]
      have read := readsFraction_point (text.take (text.length + exponent).toNat)
        (text.drop (text.length + exponent).toNat)
        (fun nothing => by
          rw [List.take_eq_nil_iff] at nothing
          rcases nothing with none_taken | empty
          · omega
          · exact there empty)
        (all_isDigit_of_subset (List.take_subset _ _) all)
        (fun zero => absurd (front ▸ zero) notZero) rest
        (all_isDigit_of_subset (List.drop_subset _ _) all)
      have places : -((text.drop (text.length + exponent).toNat).length : ℤ) = exponent := by
        rw [List.length_drop]
        omega
      rw [List.take_append_drop, spelled, places] at read
      exact read
  case isFalse outside =>
    split
    case isTrue small =>
      have read := readsFraction_point ['0']
        (List.replicate (-(text.length + exponent)).toNat '0' ++ text)
        (List.cons_ne_nil _ _) rfl (fun _ => rfl) (by simp [there])
        (by rw [List.all_append, all_isDigit_replicate, all]; rfl)
      have value : Nat.ofDigitChars 10
          (['0'] ++ (List.replicate (-(text.length + exponent)).toNat '0' ++ text)) 0 = digits := by
        rw [List.singleton_append, Nat.ofDigitChars_cons, Nat.ofDigitChars_append,
          Nat.ofDigitChars_replicate_zero]
        exact spelled
      have places : -((List.replicate (-(text.length + exponent)).toNat '0' ++ text).length : ℤ) =
          exponent := by
        rw [List.length_append, List.length_replicate]
        omega
      rw [value, places] at read
      exact read
    case isFalse =>
      have first : (text.take 1).head? = text.head? := by
        rw [List.head?_take, if_neg one_ne_zero]
      have read := readsFraction_power (text.take 1) (text.drop 1)
        (fun nothing => by
          rw [List.take_eq_nil_iff] at nothing
          exact nothing.elim one_ne_zero there)
        (all_isDigit_of_subset (List.take_subset _ _) all)
        (fun zero => absurd (first ▸ zero) notZero)
        (all_isDigit_of_subset (List.drop_subset _ _) all) (text.length + exponent - 1)
      have places : text.length + exponent - 1 - ((text.drop 1).length : ℤ) = exponent := by
        rw [List.length_drop]
        omega
      rw [List.take_append_drop, spelled, places] at read
      exact read

/-! ## Doubles read back -/

theorem everyDigit_value {magnitude : ℚ} (nonneg : 0 ≤ magnitude)
    (representable : nearest magnitude = .finite magnitude) :
    ((everyDigit magnitude).1 : ℚ) * 10 ^ (everyDigit magnitude).2 = magnitude := by
  obtain ⟨count, counted⟩ :
      ∃ count, roundHalfEven (magnitude / 2 ^ gridExponent magnitude) = count := ⟨_, rfl⟩
  have count_nonneg : 0 ≤ count :=
    counted ▸ roundHalfEven_nonneg (div_nonneg nonneg (zpow_pos two_pos _).le)
  obtain ⟨steps, above⟩ := Int.le.dest (le_max_left (-1074) (Int.log 2 magnitude - 52))
  have value : magnitude = count * 2 ^ (-1074 + (steps : ℤ)) := by
    conv_lhs => rw [(nearest_eq_finite representable).1, onGrid, counted, gridExponent, ← above]
  have scaled : magnitude * 10 ^ 1074 = ((count.toNat * 2 ^ steps * 5 ^ 1074 : ℕ) : ℚ) := by
    have natural : ((count.toNat : ℕ) : ℚ) = count := by
      rw [← Int.cast_natCast, Int.toNat_of_nonneg count_nonneg]
    have ten : (10 : ℚ) ^ 1074 = 2 ^ 1074 * 5 ^ 1074 := by
      rw [← mul_pow]
      norm_num
    have grid : (2 : ℚ) ^ (-1074 + (steps : ℤ)) * 2 ^ 1074 = 2 ^ steps := by
      rw [← zpow_natCast, ← zpow_natCast, ← zpow_add₀ two_ne_zero]
      congr 1
      push_cast
      omega
    rw [Nat.cast_mul, Nat.cast_mul, Nat.cast_pow, Nat.cast_pow, Nat.cast_ofNat, Nat.cast_ofNat,
      natural, ten, value, ← grid]
    simp only [mul_assoc]
  have powers : (10 : ℚ) ^ 1074 * 10 ^ (-1074 : ℤ) = 1 := by
    rw [zpow_neg, ← zpow_natCast]
    exact mul_inv_cancel₀ (zpow_ne_zero _ (by norm_num))
  calc ((everyDigit magnitude).1 : ℚ) * 10 ^ (everyDigit magnitude).2
      = magnitude * 10 ^ 1074 * 10 ^ (-1074 : ℤ) := by
        rw [everyDigit, scaled, Nat.floor_natCast]
    _ = magnitude := by rw [mul_assoc, powers, mul_one]

/-- The shortest decimal is nearest to the magnitude that it is printed for. -/
theorem nearest_shortest {magnitude : ℚ} (nonneg : 0 ≤ magnitude)
    (representable : nearest magnitude = .finite magnitude) :
    nearest ((shortest magnitude).1 * 10 ^ (shortest magnitude).2) = .finite magnitude := by
  unfold shortest
  cases found : List.find? _ _ with
  | some decimal =>
      have near := List.find?_some found
      rwa [decide_eq_true_iff] at near
  | none =>
      rw [Option.getD_none, everyDigit_value nonneg representable]
      exact representable

theorem withoutZeros_spec (digits : ℕ) (exponent : ℤ) :
    ((withoutZeros digits exponent).1 : ℚ) * 10 ^ (withoutZeros digits exponent).2 =
      digits * 10 ^ exponent ∧
    (0 < digits → 0 < (withoutZeros digits exponent).1) := by
  induction digits, exponent using withoutZeros.induct with
  | case1 digits exponent zero ih =>
      rw [withoutZeros, if_pos zero]
      have tens : (digits : ℚ) = (digits / 10 : ℕ) * 10 := by
        exact_mod_cast (Nat.div_mul_cancel (Nat.dvd_of_mod_eq_zero zero.2)).symm
      refine ⟨?_, fun _ => ih.2 (by omega)⟩
      rw [ih.1, tens, zpow_add_one₀ (by norm_num)]
      ring
  | case2 digits exponent notZero =>
      rw [withoutZeros, if_neg notZero]
      exact ⟨rfl, fun positive => positive⟩

/-- What a magnitude is printed as is read back as the magnitude. -/
theorem exists_readsFraction {magnitude : ℚ} (nonneg : 0 ≤ magnitude)
    (representable : nearest magnitude = .finite magnitude) :
    ∃ value, ReadsFraction (magnitudeText magnitude) value ∧ nearest value = .finite magnitude := by
  unfold magnitudeText
  split
  case isTrue zero =>
    refine ⟨_, readsFraction_point ['0'] ['0'] (List.cons_ne_nil _ _) rfl
      (fun _ => rfl) (List.cons_ne_nil _ _) rfl, ?_⟩
    have value : (Nat.ofDigitChars 10 (['0'] ++ ['0']) 0 : ℚ) * 10 ^ (-(['0'].length : ℤ)) = 0 := by
      rw [show Nat.ofDigitChars 10 (['0'] ++ ['0']) 0 = 0 from rfl, Nat.cast_zero, zero_mul]
    rw [value, ← zero]
    exact representable
  case isFalse notZero =>
    have printed := nearest_shortest nonneg representable
    have positive : 0 < (shortest magnitude).1 := by
      refine Nat.pos_of_ne_zero fun vanishes => notZero ?_
      rw [vanishes, Nat.cast_zero, zero_mul] at printed
      have zero : nearest 0 = .finite 0 := by decide +kernel
      exact (Double.finite.inj (zero.symm.trans printed)).symm
    obtain ⟨same, kept⟩ := withoutZeros_spec (shortest magnitude).1 (shortest magnitude).2
    refine ⟨_, readsFraction_layout (kept positive) _, ?_⟩
    rw [same]
    exact printed

end Proximity.Systems
