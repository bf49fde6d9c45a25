import Proximity.Apps.ProductText

/-!
# The merchant's app: what the text of an address tells

Six fields are inserted as they stand; the code of the country is fixed.
-/

namespace Proximity.Apps.Commercant.ProductForm

open Proximity.Systems Proximity.Systems.JsonText

/-- The names and the texts of the fields that are inserted, in their order. -/
def Address.inserted (address : Address) : List (String × String) :=
  [("city", address.city.getD ""), ("streetName", address.streetName.getD ""),
    ("postalCode", address.postalCode.getD ""), ("fullAdress", address.fullAddress.getD ""),
    ("region", address.region.getD ""), ("country", address.countryName.getD "")]

/-- None of the inserted fields needs an escape. -/
def Address.Sayable (address : Address) : Prop :=
  ∀ field ∈ address.inserted, Plain field.2.toList

def Address.fields (address : Address) (countryCode : String) : List (String × String) :=
  address.inserted ++ [("countryCode", countryCode)]

def Address.said (address : Address) (countryCode : String) : Value :=
  .object ((address.fields countryCode).map fun field => (key field.1, .string (key field.2)))

/-! ## The lines -/

def Address.holes (address : Address) : List (List Char) :=
  address.inserted.map fun field => field.2.toList

def fieldMember (field : String × String) : Member :=
  ⟨key field.1, [.string (key field.2)], .string (key field.2)⟩

def Address.tokens (address : Address) : List Token :=
  let members := (address.fields "FR").map fieldMember
  .leftBrace :: ([Token.comma].intercalate (members.map Member.written) ++ [.rightBrace])

theorem Address.tokens_eq (address : Address) :
    address.tokens =
      [.leftBrace, .string (key "city"), .colon, .string (key (address.city.getD "")), .comma,
        .string (key "streetName"), .colon, .string (key (address.streetName.getD "")), .comma,
        .string (key "postalCode"), .colon, .string (key (address.postalCode.getD "")), .comma,
        .string (key "fullAdress"), .colon, .string (key (address.fullAddress.getD "")), .comma,
        .string (key "region"), .colon, .string (key (address.region.getD "")), .comma,
        .string (key "country"), .colon, .string (key (address.countryName.getD "")), .comma,
        .string (key "countryCode"), .colon, .string (key "FR"), .rightBrace] := by
  simp [Address.tokens, Address.fields, Address.inserted, fieldMember, Member.written]

theorem Address.toList_text (address : Address) :
    address.text.toList =
      "\x7b\n        \"city\": \"".toList ++ ((address.city.getD "").toList ++
          '"' :: ([','] ++ ['\n'])) ++
        ("        \"streetName\": \"".toList ++ ((address.streetName.getD "").toList ++
          '"' :: ([','] ++ ['\n']))) ++
        ("        \"postalCode\": \"".toList ++ ((address.postalCode.getD "").toList ++
          '"' :: ([','] ++ ['\n']))) ++
        ("        \"fullAdress\": \"".toList ++ ((address.fullAddress.getD "").toList ++
          '"' :: ([','] ++ ['\n']))) ++
        ("        \"region\": \"".toList ++ ((address.region.getD "").toList ++
          '"' :: ([','] ++ ['\n']))) ++
        ("        \"country\": \"".toList ++ ((address.countryName.getD "").toList ++
          '"' :: ([','] ++ ['\n']))) ++
        "        \"countryCode\": \"FR\"\n      \x7d".toList := by
  have street : "\",\n        \"streetName\": \"".toList =
      '"' :: ([','] ++ ['\n']) ++ "        \"streetName\": \"".toList := by decide
  have postal : "\",\n        \"postalCode\": \"".toList =
      '"' :: ([','] ++ ['\n']) ++ "        \"postalCode\": \"".toList := by decide
  have full : "\",\n        \"fullAdress\": \"".toList =
      '"' :: ([','] ++ ['\n']) ++ "        \"fullAdress\": \"".toList := by decide
  have region : "\",\n        \"region\": \"".toList =
      '"' :: ([','] ++ ['\n']) ++ "        \"region\": \"".toList := by decide
  have country : "\",\n        \"country\": \"".toList =
      '"' :: ([','] ++ ['\n']) ++ "        \"country\": \"".toList := by decide
  have last : "\",\n        \"countryCode\": \"FR\"\n      \x7d".toList =
      '"' :: ([','] ++ ['\n']) ++ "        \"countryCode\": \"FR\"\n      \x7d".toList := by decide
  unfold Address.text
  simp only [String.toList_append]
  rw [street, postal, full, region, country, last]
  simp only [List.append_assoc]

theorem Address.template (address : Address) :
    Template address.text.toList address.holes True address.tokens := by
  have opened : lex .between "\x7b\n        \"city\": \"".toList =
      some ([.leftBrace, .string (key "city"), .colon], .string []) := by decide
  have street : lex .between "        \"streetName\": \"".toList =
      some ([.string (key "streetName"), .colon], .string []) := by decide
  have postal : lex .between "        \"postalCode\": \"".toList =
      some ([.string (key "postalCode"), .colon], .string []) := by decide
  have full : lex .between "        \"fullAdress\": \"".toList =
      some ([.string (key "fullAdress"), .colon], .string []) := by decide
  have region : lex .between "        \"region\": \"".toList =
      some ([.string (key "region"), .colon], .string []) := by decide
  have country : lex .between "        \"country\": \"".toList =
      some ([.string (key "country"), .colon], .string []) := by decide
  have closed : lex .between "        \"countryCode\": \"FR\"\n      \x7d".toList =
      some ([.string (key "countryCode"), .colon, .string (key "FR"), .rightBrace], .between) := by
    decide
  have city := Template.hole (address.city.getD "").toList opened (by decide) Gap.comma
  have line := fun {start : List Char} {name : List ℕ} (field : Option String)
      (lexed : lex .between start = some ([.string name, .colon], .string []))
      (plain : ∀ token ∈ [Token.string name, .colon], token.Plain) =>
    Template.hole (field.getD "").toList lexed plain Gap.comma
  have joined := (((((city.append (line address.streetName street (by decide))).append
    (line address.postalCode postal (by decide))).append
      (line address.fullAddress full (by decide))).append
        (line address.region region (by decide))).append
          (line address.countryName country (by decide))).append
            (Template.fixed closed (by decide))
  simp only [and_self] at joined
  rw [Address.toList_text, Address.tokens_eq]
  exact joined

/-! ## Addresses -/

theorem Address.denotes (address : Address) : Denotes address.tokens (address.said "FR") := by
  have names : ((address.fields "FR").map fieldMember).map Member.key =
      ["city", "streetName", "postalCode", "fullAdress", "region", "country", "countryCode"].map
        key := by
    simp only [Address.fields, Address.inserted, fieldMember, List.cons_append, List.nil_append,
      List.map_cons, List.map_nil]
  have pairs : ((address.fields "FR").map fieldMember).map Member.pair =
      (address.fields "FR").map fun field => (key field.1, .string (key field.2)) :=
    List.map_map
  have distinct : (((address.fields "FR").map fieldMember).map Member.key).Nodup := by
    rw [names]
    decide
  rw [Address.said, ← pairs]
  refine denotes_object (fun member there => ?_) distinct
  obtain ⟨field, _, rfl⟩ := List.mem_map.mp there
  exact denotes_string _

theorem Address.mentions {address : Address} {hole : List Char} (member : hole ∈ address.holes)
    (countryCode : String) : (address.said countryCode).Mentions (utf16 hole) := by
  obtain ⟨field, inserted, rfl⟩ := List.mem_map.mp member
  exact .object (List.mem_map_of_mem (List.mem_append_left _ inserted)) .string

theorem key_injective : Function.Injective key :=
  fun _ _ same => String.toList_injective (utf16_injective same)

/-- The text is read as an address exactly when no inserted field needs an escape and the
code of the country is the fixed one. -/
theorem Address.parse?_text_iff (address : Address) (countryCode : String) :
    parse? address.text = some (address.said countryCode) ↔
      address.Sayable ∧ countryCode = "FR" := by
  rw [address.template.parse?_eq_iff address.denotes fun hole member _ =>
    Address.mentions member countryCode]
  have same : address.said "FR" = address.said countryCode ↔ countryCode = "FR" := by
    simp only [Address.said, Address.fields, List.map_append, List.map_singleton,
      Value.object.injEq, List.append_cancel_left_eq, List.cons.injEq, Prod.mk.injEq,
      Value.string.injEq, true_and, and_true, key_injective.eq_iff]
    exact eq_comm
  rw [same, true_and, Address.holes, List.forall_mem_map]
  rfl

theorem Address.tells_iff (address : Address) (countryCode : String) :
    Tells (some address.text) (some (address.said countryCode)) ↔
      address.Sayable ∧ countryCode = "FR" := by
  rw [← address.parse?_text_iff]
  constructor
  · rintro ⟨text, value, built, typed, parsed⟩
    cases built
    cases typed
    exact parsed
  · exact fun parsed => ⟨_, _, rfl, rfl, parsed⟩

/-! ## All three texts -/

/-- The texts put together by hand are read as what was typed exactly when nothing that is
inserted needs an escape or is not there, the numbers are printed as numbers, and, for an
address with its country, the code is the one that is always written. -/
theorem handBuilt_tells_iff (variants : List ProductVariant) (form : ProductCreationValidation)
    (address : Address) :
    (Tells (variantsFormData variants) (variantsSaid variants) ↔
        ∀ variant ∈ variants, variant.Sayable) ∧
      (Tells form.productToVariant form.said ↔ form.Sayable) ∧
        (Tells (some address.text) (some (address.said "FR")) ↔ address.Sayable) ∧
          (Tells (some address.text) (some (address.said (address.countryCode.getD ""))) ↔
            address.Sayable ∧ address.countryCode = some "FR") := by
  refine ⟨variantsFormData_tells_iff variants, productToVariant_tells_iff form, ?_, ?_⟩
  · rw [address.tells_iff, and_iff_left rfl]
  · rw [address.tells_iff]
    refine and_congr_right fun _ => ?_
    cases address.countryCode with
    | none => exact iff_of_false (by decide) nofun
    | some countryCode => exact Option.some_inj.symm

def lampForm : ProductCreationValidation :=
  (((ProductCreationValidation.new.changeName "24\" lamp").changeDescription
    "A lamp for the bedside table").changePrice "12.99").changeQuantity "3"

def cornerAddress : Address where
  city := some "Lyon"
  streetName := some "rue de la \"Barre\""
  postalCode := some "69002"
  fullAddress := some "5 rue de la \"Barre\", Lyon"
  region := some "Rhône"
  countryName := some "France"
  countryCode := some "FR"

/-- A name with an inch mark is accepted, and what is sent is not JSON; neither is an address
with a quoted name read as it was typed. -/
theorem quotedNames_not_told :
    (lampForm.isValid = true ∧
      (lampForm.productToVariant.map fun text => (parse? text).isSome) = some false) ∧
      ¬Tells (some cornerAddress.text) (some (cornerAddress.said "FR")) := by
  refine ⟨by decide +kernel, fun told => ?_⟩
  have sayable := ((cornerAddress.tells_iff "FR").mp told).1
  have quoted : ("streetName", "rue de la \"Barre\"") ∈ cornerAddress.inserted :=
    List.mem_cons_of_mem _ List.mem_cons_self
  exact absurd (sayable _ quoted) (by decide)

end Proximity.Apps.Commercant.ProductForm
