import Proximity.Systems.JsonTemplate

/-!
# Numbers in JSON texts

An integer and a finite double are printed as numbers that are read back; the other doubles
are not.
-/

namespace Proximity.Systems.JsonText

/-! ## Signs -/

theorem scalar?_of_isDigit {digit : Char} {text : List Char} (isDigit : digit.isDigit = true) :
    scalar? (digit :: text) = magnitude? false (digit :: text) := by
  have named : ∀ first : Char, first.isDigit = false → ∀ rest, digit :: text ≠ first :: rest := by
    intro first notDigit rest same
    cases same
    rw [notDigit] at isDigit
    cases isDigit
  unfold scalar?
  rw [if_neg (show digit :: text ≠ "null".toList from named 'n' rfl _),
    if_neg (show digit :: text ≠ "true".toList from named 't' rfl _),
    if_neg (show digit :: text ≠ "false".toList from named 'f' rfl _)]
  split
  case h_1 rest same => exact absurd same (named '-' rfl rest)
  case h_2 => rfl

theorem scalar?_minus (text : List Char) : scalar? ('-' :: text) = magnitude? true text := rfl

/-! ## Integers -/

theorem toList_toString_natCast (number : ℕ) :
    (toString (number : ℤ)).toList = Nat.toDigits 10 number :=
  Nat.toList_repr

theorem toList_toString_negSucc (number : ℕ) :
    (toString (Int.negSucc number)).toList = '-' :: Nat.toDigits 10 (number + 1) := by
  have text : toString (Int.negSucc number) = "-" ++ (number + 1).repr := rfl
  rw [text, String.toList_append, Nat.toList_repr]
  rfl

theorem decimalLiteral?_toDigits (number : ℕ) :
    decimalLiteral? (Nat.toDigits 10 number) = some ⟨Nat.toDigits 10 number, none, none⟩ := by
  have read := decimalLiteral?_whole [] Nat.toDigits_ne_nil
    (all_isDigit_toDigits number) nofun
  rwa [List.append_nil] at read

theorem exponent?_eq_none {text : List Char} (read : exponent? text = some none) : text = [] := by
  cases text with
  | nil => rfl
  | cons mark text =>
      rw [exponent?] at read
      split at read
      case isTrue =>
        obtain ⟨power, _, made⟩ := Option.map_eq_some_iff.mp read
        cases made
      case isFalse => cases read

theorem afterWhole_eq_none {text rest : List Char} (after : afterWhole text = (none, rest)) :
    text = rest := by
  unfold afterWhole at after
  split at after
  case h_1 => cases after
  case h_2 => exact congrArg Prod.snd after

/-- A literal with neither point nor exponent is digits only. -/
theorem decimalLiteral?_integer {text whole : List Char}
    (read : decimalLiteral? text = some ⟨whole, none, none⟩) :
    text = whole ∧ whole.all Char.isDigit = true := by
  unfold decimalLiteral? at read
  dsimp only at read
  split at read
  case isTrue => cases read
  case isFalse =>
    obtain ⟨exponent, ended, made⟩ := Option.map_eq_some_iff.mp read
    obtain ⟨point, rest⟩ : ∃ rest, afterWhole (text.dropWhile Char.isDigit) = (none, rest) :=
      ⟨_, Prod.ext (congrArg DecimalLiteral.fraction made) rfl⟩
    rw [rest] at ended
    have none_given : exponent = none := congrArg DecimalLiteral.exponent made
    have taken : text.takeWhile Char.isDigit = whole := congrArg DecimalLiteral.whole made
    subst none_given
    have dropped : text.dropWhile Char.isDigit = [] :=
      (afterWhole_eq_none rest).trans (exponent?_eq_none ended)
    have whole_text : text = whole := by
      calc text = text.takeWhile Char.isDigit ++ text.dropWhile Char.isDigit :=
            List.takeWhile_append_dropWhile.symm
        _ = whole := by rw [taken, dropped, List.append_nil]
    refine ⟨whole_text, ?_⟩
    rw [← taken]
    exact List.all_takeWhile

theorem magnitude?_toDigits (negative : Bool) {number : ℕ} (signed : negative = true → 0 < number) :
    magnitude? negative (Nat.toDigits 10 number) =
      some (.int (if negative = true then -number else number)) := by
  have value : Nat.ofDigitChars 10 (Nat.toDigits 10 number) 0 = number :=
    Nat.ofDigitChars_ten_toDigits
  rw [magnitude?, decimalLiteral?_toDigits, Option.bind_some]
  dsimp only
  rw [if_neg, if_pos ⟨rfl, rfl⟩, value, if_neg]
  · rintro ⟨minus, zero⟩
    exact (signed minus).ne' zero
  · rintro (empty | notLeading | nothing)
    · exact Nat.toDigits_ne_nil empty
    · exact notLeading (leading_toDigits number)
    · cases nothing

theorem scalar?_toDigits (number : ℕ) :
    scalar? (Nat.toDigits 10 number) = some (.int number) := by
  have digits := List.all_eq_true.mp (all_isDigit_toDigits number)
  have read : magnitude? false (Nat.toDigits 10 number) = some (.int number) :=
    magnitude?_toDigits false nofun
  cases text : Nat.toDigits 10 number with
  | nil => exact absurd text Nat.toDigits_ne_nil
  | cons digit rest =>
      rw [text] at digits read
      rw [scalar?_of_isDigit (digits digit List.mem_cons_self), read]

/-- An integer is read back. -/
theorem scalar?_toString (number : ℤ) :
    scalar? (toString number).toList = some (.int number) := by
  cases number with
  | ofNat number =>
      rw [Int.ofNat_eq_natCast, toList_toString_natCast]
      exact scalar?_toDigits number
  | negSucc number =>
      rw [toList_toString_negSucc, scalar?_minus, magnitude?_toDigits true fun _ => Nat.succ_pos _]
      rfl

theorem eq_toDigits_of_magnitude? {negative : Bool} {text : List Char} {number : ℤ}
    (read : magnitude? negative text = some (.int number)) :
    ∃ value : ℕ, text = Nat.toDigits 10 value ∧ (negative = true → 0 < value) ∧
      number = if negative = true then -(value : ℤ) else value := by
  obtain ⟨⟨whole, point, power⟩, literal, later⟩ := Option.bind_eq_some_iff.mp read
  dsimp only at later
  split at later
  case isTrue => cases later
  case isFalse strict =>
    rw [not_or, not_or, not_not] at strict
    obtain ⟨there, leading, _⟩ := strict
    split at later
    case isTrue plain =>
      obtain ⟨rfl, rfl⟩ := plain
      obtain ⟨rfl, digits⟩ := decimalLiteral?_integer literal
      split at later
      case isTrue => cases later
      case isFalse notZero =>
        refine ⟨Nat.ofDigitChars 10 text 0, (toDigits_ofDigitChars there digits leading).symm,
          fun minus => Nat.pos_of_ne_zero fun zero => notZero ⟨minus, zero⟩, ?_⟩
        exact (Scalar.int.inj (Option.some_inj.mp later)).symm
    case isFalse => cases later

/-- What is read as an integer is what the integer is printed as. -/
theorem eq_toString_of_scalar? {text : List Char} {number : ℤ}
    (read : scalar? text = some (.int number)) : text = (toString number).toList := by
  unfold scalar? at read
  split at read
  case isTrue => cases read
  case isFalse =>
    split at read
    case isTrue => cases read
    case isFalse =>
      split at read
      case isTrue => cases read
      case isFalse =>
        split at read
        case h_1 rest =>
          obtain ⟨value, rfl, positive, rfl⟩ := eq_toDigits_of_magnitude? read
          obtain ⟨before, rfl⟩ := Nat.exists_eq_succ_of_ne_zero (positive rfl).ne'
          exact (toList_toString_negSucc before).symm
        case h_2 =>
          obtain ⟨value, rfl, _, rfl⟩ := eq_toDigits_of_magnitude? read
          exact (toList_toString_natCast value).symm

/-! ## Doubles -/

theorem magnitude?_of_readsFraction {text : List Char} {value : ℚ} (negative : Bool)
    (reads : ReadsFraction text value) :
    magnitude? negative text = some (.double ((nearest value).signed negative)) := by
  obtain ⟨literal, read, strict, fractional, rfl⟩ := reads
  rw [magnitude?, read, Option.bind_some, if_neg, if_neg]
  · rintro ⟨noPoint, noPower⟩
    rcases fractional with point | power
    · rw [noPoint] at point
      cases point
    · rw [noPower] at power
      cases power
  · rintro (empty | notLeading | nothing)
    · exact strict.whole empty
    · exact notLeading strict.leading
    · exact strict.fraction nothing

theorem readsFraction_head {text : List Char} {value : ℚ} (reads : ReadsFraction text value) :
    ∃ digit rest, text = digit :: rest ∧ digit.isDigit = true := by
  obtain ⟨literal, read, strict, _, _⟩ := reads
  unfold decimalLiteral? at read
  dsimp only at read
  split at read
  case isTrue => cases read
  case isFalse =>
    obtain ⟨exponent, _, rfl⟩ := Option.map_eq_some_iff.mp read
    have there := strict.whole
    cases text with
    | nil => exact absurd rfl there
    | cons digit rest =>
        refine ⟨digit, rest, rfl, ?_⟩
        by_contra notDigit
        exact there (List.takeWhile_cons_of_neg notDigit)

/-- A finite double is read back. -/
theorem scalar?_text {number : Binary64} {value : ℚ} (finite : number.datum = .finite value) :
    scalar? number.datum.text = some (.double number.datum) := by
  have representable := number.representable value finite
  rw [finite, Double.text]
  split
  case isTrue negative =>
    rw [abs_of_neg negative] at representable
    obtain ⟨printed, reads, near⟩ :=
      exists_readsFraction (neg_nonneg.mpr negative.le) representable
    rw [scalar?_minus, magnitude?_of_readsFraction true reads, near, Double.signed, neg_neg]
  case isFalse notNegative =>
    have nonneg := not_lt.mp notNegative
    rw [abs_of_nonneg nonneg] at representable
    obtain ⟨printed, reads, near⟩ := exists_readsFraction nonneg representable
    obtain ⟨digit, rest, text, isDigit⟩ := readsFraction_head reads
    have read := magnitude?_of_readsFraction false reads
    rw [text] at read ⊢
    rw [scalar?_of_isDigit isDigit, read, near, Double.signed_false]

theorem scalar?_text_eq_none {number : Double} (notFinite : number.isFinite = false) :
    scalar? number.text = none := by
  cases number with
  | finite value => cases notFinite
  | infinite negative => cases negative <;> decide +kernel
  | nan => decide +kernel

/-- Only a finite double is printed as a number. -/
theorem scalar?_text_isSome_iff (number : Binary64) :
    (scalar? number.datum.text).isSome = true ↔ number.datum.isFinite = true := by
  cases finite : number.datum with
  | finite value =>
      rw [← finite, scalar?_text finite, finite]
      exact iff_of_true rfl rfl
  | infinite negative =>
      rw [scalar?_text_eq_none rfl]
      exact iff_of_false nofun nofun
  | nan =>
      rw [scalar?_text_eq_none rfl]
      exact iff_of_false nofun nofun

/-! ## Characters -/

def NumberChars (text : List Char) : Prop := ∀ character ∈ text, isScalarChar character = true

instance (text : List Char) : Decidable (NumberChars text) := List.decidableBAll _ _

theorem isScalarChar_of_isDigit {digit : Char} (isDigit : digit.isDigit = true) :
    isScalarChar digit = true := by
  rw [isScalarChar, Char.isAlphanum, isDigit, Bool.or_true]
  rfl

theorem isAlphanum_iff_toNat {character : Char} :
    character.isAlphanum = true ↔
      (65 ≤ character.toNat ∧ character.toNat ≤ 90) ∨
        (97 ≤ character.toNat ∧ character.toNat ≤ 122) ∨
          (48 ≤ character.toNat ∧ character.toNat ≤ 57) := by
  have upper : character.isUpper = true ↔ 65 ≤ character.toNat ∧ character.toNat ≤ 90 :=
    decide_eq_true_iff
  have lower : character.isLower = true ↔ 97 ≤ character.toNat ∧ character.toNat ≤ 122 :=
    Bool.and_eq_true_iff.trans (and_congr decide_eq_true_iff decide_eq_true_iff)
  have digit : character.isDigit = true ↔ 48 ≤ character.toNat ∧ character.toNat ≤ 57 :=
    Char.isDigit_iff_toNat
  have letter : character.isAlpha = true ↔ character.isUpper = true ∨ character.isLower = true :=
    Bool.or_eq_true_iff
  have all : character.isAlphanum = true ↔ character.isAlpha = true ∨ character.isDigit = true :=
    Bool.or_eq_true_iff
  rw [all, letter, upper, lower, digit, or_assoc]

theorem isScalarChar_iff_toNat {character : Char} :
    isScalarChar character = true ↔
      character.isAlphanum = true ∨ character.toNat = 43 ∨ character.toNat = 45 ∨
        character.toNat = 46 := by
  have plus : character = '+' ↔ character.toNat = 43 := Char.toNat_inj.symm
  have minus : character = '-' ↔ character.toNat = 45 := Char.toNat_inj.symm
  have point : character = '.' ↔ character.toNat = 46 := Char.toNat_inj.symm
  rw [← plus, ← minus, ← point]
  simp [isScalarChar, or_assoc]

theorem isScalarChar_of_hexDigit? {character : Char} {digit : ℕ}
    (isDigit : hexDigit? character = some digit) : isScalarChar character = true := by
  unfold hexDigit? at isDigit
  split at isDigit
  case isTrue decimal => exact isScalarChar_of_isDigit decimal
  case isFalse =>
    rw [isScalarChar_iff_toNat, isAlphanum_iff_toNat]
    split at isDigit
    case isTrue lower =>
      have bounds : 97 ≤ character.toNat ∧ character.toNat ≤ 102 := lower
      omega
    case isFalse =>
      split at isDigit
      case isTrue upper =>
        have bounds : 65 ≤ character.toNat ∧ character.toNat ≤ 70 := upper
        omega
      case isFalse => cases isDigit

theorem numberChars_toDigits (number : ℕ) : NumberChars (Nat.toDigits 10 number) :=
  fun _ member =>
    isScalarChar_of_isDigit (List.all_eq_true.mp (all_isDigit_toDigits number) _ member)

theorem numberChars_append {first second : List Char} :
    NumberChars (first ++ second) ↔ NumberChars first ∧ NumberChars second :=
  List.forall_mem_append

theorem numberChars_cons {first : Char} {rest : List Char} :
    NumberChars (first :: rest) ↔ isScalarChar first = true ∧ NumberChars rest :=
  List.forall_mem_cons

theorem numberChars_nil : NumberChars [] := List.forall_mem_nil _

theorem numberChars_zeros (count : ℕ) : NumberChars (List.replicate count '0') := by
  intro character member
  rw [List.eq_of_mem_replicate member]
  rfl

theorem NumberChars.subset {part text : List Char} (chars : NumberChars text)
    (subset : part ⊆ text) : NumberChars part :=
  fun character member => chars character (subset member)

theorem numberChars_layout (digits : ℕ) (exponent : ℤ) : NumberChars (layout digits exponent) := by
  have chars := numberChars_toDigits digits
  have taken : ∀ count, NumberChars ((Nat.toDigits 10 digits).take count) :=
    fun count => chars.subset (List.take_subset _ _)
  have dropped : ∀ count, NumberChars ((Nat.toDigits 10 digits).drop count) :=
    fun count => chars.subset (List.drop_subset _ _)
  have point : ∀ {rest}, NumberChars rest → NumberChars ('.' :: rest) :=
    fun rest => numberChars_cons.mpr ⟨rfl, rest⟩
  unfold layout
  dsimp only
  split
  case isTrue =>
    split
    case isTrue =>
      rw [numberChars_append, numberChars_append]
      exact ⟨⟨chars, numberChars_zeros _⟩, point (numberChars_zeros 1)⟩
    case isFalse => exact numberChars_append.mpr ⟨taken _, point (dropped _)⟩
  case isFalse =>
    split
    case isTrue =>
      rw [numberChars_cons]
      exact ⟨rfl, point (numberChars_append.mpr ⟨numberChars_zeros _, chars⟩)⟩
    case isFalse =>
      rw [numberChars_append, numberChars_append, numberChars_cons, numberChars_cons]
      refine ⟨⟨taken _, ?_⟩, rfl, ?_, numberChars_toDigits _⟩
      · split
        case isTrue => exact numberChars_nil
        case isFalse => exact point (dropped _)
      · split
        case isTrue => rfl
        case isFalse => rfl

theorem numberChars_magnitudeText (magnitude : ℚ) : NumberChars (magnitudeText magnitude) := by
  unfold magnitudeText
  split
  case isTrue => decide
  case isFalse => exact numberChars_layout _ _

theorem numberChars_text (number : Double) : NumberChars number.text := by
  cases number with
  | finite value =>
      rw [Double.text]
      split
      case isTrue => exact numberChars_cons.mpr ⟨rfl, numberChars_magnitudeText _⟩
      case isFalse => exact numberChars_magnitudeText _
  | infinite negative => cases negative <;> decide
  | nan => decide

/-- What is read is not empty. -/
theorem ne_nil_of_scalar? {text : List Char} {value : Scalar} (read : scalar? text = some value) :
    text ≠ [] := by
  rintro rfl
  cases read

theorem text_ne_nil (number : Binary64) : number.datum.text ≠ [] := by
  cases finite : number.datum with
  | finite value => exact finite ▸ ne_nil_of_scalar? (scalar?_text finite)
  | infinite negative => cases negative <;> decide
  | nan => decide

theorem numberChars_toString (number : ℤ) : NumberChars (toString number).toList := by
  cases number with
  | ofNat number =>
      rw [Int.ofNat_eq_natCast, toList_toString_natCast]
      exact numberChars_toDigits number
  | negSucc number =>
      rw [toList_toString_negSucc]
      exact numberChars_cons.mpr ⟨rfl, numberChars_toDigits _⟩

end Proximity.Systems.JsonText
