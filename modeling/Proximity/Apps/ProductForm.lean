import Proximity.Systems.JsonNumbers

/-!
# The merchant's app: the form of a product and the address of a store

What the form accepts, and the JSON texts that are put together from what was typed.
-/

namespace Proximity.Apps.Commercant.ProductForm

open Proximity.Systems Proximity.Systems.JsonText

/-! ## Numbers as they are typed -/

/-- What `trim` removes. -/
def isWhiteSpace (character : Char) : Bool :=
  let code := character.toNat
  (0x09 ≤ code && code ≤ 0x0D) || code = 0x20 || code = 0x85 || code = 0xA0 || code = 0x1680 ||
    (0x2000 ≤ code && code ≤ 0x200A) || code = 0x2028 || code = 0x2029 || code = 0x202F ||
    code = 0x205F || code = 0x3000 || code = 0xFEFF

def trim (text : List Char) : List Char :=
  (((text.dropWhile isWhiteSpace).reverse).dropWhile isWhiteSpace).reverse

/-- A sign, if there is one, and what it is the sign of. -/
def signed : List Char → Bool × List Char
  | '-' :: rest => (true, rest)
  | '+' :: rest => (false, rest)
  | rest => (false, rest)

def hexadecimal? (text : List Char) : Option ℕ :=
  if text = [] then none
  else text.foldlM (fun value character => (hexDigit? character).map (16 * value + ·)) 0

/-- An integer of 64 bits; sixteen hexadecimal digits without a minus are its bits. -/
def int64? (negative hex : Bool) (magnitude : ℕ) : Option ℤ :=
  if negative = true then if magnitude ≤ 2 ^ 63 then some (-magnitude) else none
  else if magnitude < 2 ^ 63 then some magnitude
  else if hex = true ∧ magnitude < 2 ^ 64 then some (magnitude - 2 ^ 64)
  else none

/-- `int.tryParse` -/
def tryParse (source : String) : Option ℤ :=
  let number := signed (trim source.toList)
  match number.2 with
  | '0' :: 'x' :: digits => (hexadecimal? digits).bind (int64? number.1 true)
  | '0' :: 'X' :: digits => (hexadecimal? digits).bind (int64? number.1 true)
  | digits => (digits? digits).bind (int64? number.1 false)

theorem value_nonneg (literal : DecimalLiteral) : 0 ≤ literal.value :=
  mul_nonneg (Nat.cast_nonneg _) (zpow_pos (by norm_num) _).le

/-- `double.parse`, which throws when the source is not a number. -/
def parse (source : String) : Option Binary64 :=
  let number := signed (trim source.toList)
  if number.2 = "Infinity".toList then some ⟨.infinite number.1, nofun⟩
  else if number.2 = "NaN".toList then some ⟨.nan, nofun⟩
  else
    (decimalLiteral? number.2).map fun literal =>
      .round number.1 literal.value (value_nonneg literal)

/-! ## The form -/

structure ValidationItem where
  value : Option String
  error : Option String
  deriving DecidableEq, Repr

structure ProductCreationValidation where
  name : ValidationItem
  description : ValidationItem
  price : ValidationItem
  quantity : ValidationItem
  deriving DecidableEq, Repr

def ProductCreationValidation.new : ProductCreationValidation where
  name := ⟨none, none⟩
  description := ⟨none, none⟩
  price := ⟨none, none⟩
  quantity := ⟨some "0", none⟩

/-- A text that must be longer than so many UTF-16 code units. -/
def longer (length : ℕ) (error value : String) : ValidationItem :=
  if value = "" then ⟨none, none⟩
  else if length < (utf16 value.toList).length then ⟨some value, none⟩
  else ⟨none, some error⟩

def ProductCreationValidation.changeName (form : ProductCreationValidation) (value : String) :
    ProductCreationValidation :=
  { form with name := longer 3 "Name must be at least 3 characters" value }

def ProductCreationValidation.changeDescription (form : ProductCreationValidation)
    (value : String) : ProductCreationValidation :=
  { form with description := longer 20 "Description must be at least 20 characters" value }

/-- `^\d+(\.\d{1,3})?$` -/
def isPrice (text : List Char) : Bool :=
  let whole := text.takeWhile Char.isDigit
  match text.dropWhile Char.isDigit with
  | [] => whole ≠ []
  | '.' :: decimals => whole ≠ [] && decimals.all Char.isDigit &&
      (1 ≤ decimals.length && decimals.length ≤ 3)
  | _ => false

def ProductCreationValidation.changePrice (form : ProductCreationValidation) (value : String) :
    ProductCreationValidation :=
  if value = "" then form
  else if isPrice value.toList = true then { form with price := ⟨some value, none⟩ }
  else { form with price := ⟨none, some "● Enter a valid price (e.g., 12.99)."⟩ }

def ProductCreationValidation.changeQuantity (form : ProductCreationValidation) (value : String) :
    ProductCreationValidation :=
  if value = "" then { form with quantity := ⟨none, none⟩ }
  else
    match tryParse value with
    | some quantity =>
        if 0 < quantity then { form with quantity := ⟨some value, none⟩ }
        else { form with quantity := ⟨none, some "Enter a valid quantity."⟩ }
    | none => { form with quantity := ⟨none, some "Enter a valid quantity."⟩ }

def ProductCreationValidation.isValid (form : ProductCreationValidation) : Bool :=
  form.name.value.isSome && form.description.value.isSome

/-! ## Variants -/

/-- A `MapEntry` of the screen, or a map that the server sent. -/
inductive Characteristic where
  | entry (key value : String)
  | map (name value : Option String)
  deriving DecidableEq, Repr

def Characteristic.name : Characteristic → Option String
  | .entry key _ => some key
  | .map name _ => name

def Characteristic.value : Characteristic → Option String
  | .entry _ value => some value
  | .map _ value => value

structure ProductVariant where
  characteristics : Option (List (Option Characteristic))
  price : Option Binary64
  quantity : Option ℤ
  deriving DecidableEq

/-- `^[a-zA-Z]+$`, which `changeOption` asks for. -/
def isOption (text : List Char) : Bool := text ≠ [] && text.all Char.isAlpha

/-- `^[A-Za-z0-9]+$`, which `changeValue` asks for. -/
def isOptionValue (text : List Char) : Bool := text ≠ [] && text.all Char.isAlphanum

/-! ## The texts -/

/-- What an interpolation prints. -/
def interpolated : Option String → String
  | none => "null"
  | some text => text

def nameAndValue (name value : String) : String :=
  "\x7b\n          \"name\": \"" ++ name ++ "\",\n          \"value\": \"" ++ value ++
    "\"\n        \x7d"

def Characteristic.text (characteristic : Characteristic) : String :=
  nameAndValue (interpolated characteristic.name) (interpolated characteristic.value)

def doubleText (price : Option Binary64) : String :=
  interpolated (price.map fun price => String.ofList price.datum.text)

def intText (quantity : Option ℤ) : String := interpolated (quantity.map toString)

/-- The last character is dropped if it is a comma.  The commas follow a brace, and so the
last of the `characters` is the comma alone. -/
def withoutLastComma (formData : String) : String :=
  if formData.toList.getLast? = some ',' then String.ofList formData.toList.dropLast else formData

/-- One characteristic of the loop; `null["name"]` throws. -/
def addCharacteristic (formData : String) (characteristic : Option Characteristic) :
    Option String :=
  characteristic.map fun characteristic => formData ++ (characteristic.text ++ ",")

/-- One variant of the loop. -/
def addVariant (formData : String) (variant : ProductVariant) : Option String :=
  variant.characteristics.bind fun characteristics =>
    (characteristics.foldlM addCharacteristic (formData ++ "\x7b\"characterstics\": [")).map
      fun formData =>
        withoutLastComma formData ++ ("], \"price\": " ++ doubleText variant.price ++
          ", \"quantity\": " ++ intText variant.quantity ++ "\x7d,")

def variantsFormData (variants : List ProductVariant) : Option String :=
  (variants.foldlM addVariant "[").map fun formData => withoutLastComma formData ++ "]"

def ProductCreationValidation.productToVariant (form : ProductCreationValidation) :
    Option String :=
  (form.price.value.bind parse).bind fun price =>
    form.quantity.value.map fun quantity =>
      withoutLastComma ("[" ++ ("\x7b\"characterstics\": [" ++
        nameAndValue "option" (interpolated form.name.value) ++ "], \"price\": " ++
        String.ofList price.datum.text ++ ", \"quantity\": " ++ quantity ++ "\x7d,")) ++ "]"

/-! ## Addresses -/

structure Address where
  city : Option String
  streetName : Option String
  postalCode : Option String
  fullAddress : Option String
  region : Option String
  countryName : Option String
  countryCode : Option String
  deriving DecidableEq, Repr

/-- The `address` of `toFormData`; the code of the country is fixed. -/
def Address.text (storeAddress : Address) : String :=
  "\x7b\n        \"city\": \"" ++ storeAddress.city.getD "" ++
    "\",\n        \"streetName\": \"" ++ storeAddress.streetName.getD "" ++
    "\",\n        \"postalCode\": \"" ++ storeAddress.postalCode.getD "" ++
    "\",\n        \"fullAdress\": \"" ++ storeAddress.fullAddress.getD "" ++
    "\",\n        \"region\": \"" ++ storeAddress.region.getD "" ++
    "\",\n        \"country\": \"" ++ storeAddress.countryName.getD "" ++
    "\",\n        \"countryCode\": \"FR\"\n      \x7d"

end Proximity.Apps.Commercant.ProductForm
