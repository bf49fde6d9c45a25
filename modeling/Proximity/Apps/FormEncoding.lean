import Proximity.Apps.StoreForm
import Proximity.Systems.Run

/-!
# Encoding the form of a store

The form is encoded next to a form whose encoders change nothing.  The two stay the same as
long as every selected category has all its sub-categories selected when it is encoded.
-/

namespace Proximity.Apps.Commercant.StoreForm

open Proximity.Systems Proximity.Systems.JsonText
open Proximity.Apps.Commercant.StorePolicy (Policy)

/-- What an encoder returns. -/
inductive Posted where
  | store (data : Option FormData)
  | categories (text : String)

/-- The form and what has been encoded so far. -/
structure Session where
  form : StoreCreationSliderValidation
  posted : List Posted

/-- A selection, any other change of the form, or an encoder. -/
inductive Call where
  | change (checkDeselect : Option Bool) (change : Change)
  | edit (other : StoreCreationSliderValidation → StoreCreationSliderValidation)
  | toFormData (policy : Policy)
  | updateProductCategoriesFormData

def Session.next (session : Session) : Call → Session
  | .change checkDeselect change => { session with form := change.apply checkDeselect session.form }
  | .edit other => { session with form := other session.form }
  | .toFormData policy =>
      let reply := session.form.toFormData policy
      ⟨reply.1, session.posted ++ [.store reply.2]⟩
  | .updateProductCategoriesFormData =>
      let reply := session.form.updateProductCategoriesFormData
      ⟨reply.1, session.posted ++ [.categories reply.2]⟩

/-! ## Encoders that change nothing -/

namespace StoreCreationSliderValidation

variable (form : StoreCreationSliderValidation)

/-- The selected categories with their selected sub-categories. -/
def selection : List ProductCategory := form.selectedCategories.map ProductCategory.withSelected

def storeData (policy : Policy) : Option FormData :=
  form.workingTimeOption.bind fun option =>
    form.formData? policy ⟨option, form.fixedWorkingHours, form.customizedWorkingHours⟩
      (Datum.array (form.selection.map encodeCategory)).encode

def categoriesText : String := (Datum.array (form.selection.map encodeUpdatedCategory)).encode

end StoreCreationSliderValidation

/-- The selections and changes are the same, the encoders only return what is selected. -/
def Session.meant (session : Session) : Call → Session
  | .toFormData policy =>
      { session with posted := session.posted ++ [.store (session.form.storeData policy)] }
  | .updateProductCategoriesFormData =>
      { session with posted := session.posted ++ [.categories session.form.categoriesText] }
  | .change checkDeselect change => { session with form := change.apply checkDeselect session.form }
  | .edit other => { session with form := other session.form }

/-! ## What is encoded -/

theorem prune_cons (category : ProductCategory) (rest : List ProductCategory) :
    prune (category :: rest) =
      (if category.selected = true then category.withSelected else category) :: prune rest := rfl

theorem filter_selected_prune (categories : List ProductCategory) :
    (prune categories).filter ProductCategory.selected =
      (categories.filter ProductCategory.selected).map ProductCategory.withSelected := by
  induction categories with
  | nil => rfl
  | cons category rest ih =>
      rw [prune_cons]
      by_cases selected : category.selected = true
      · have still : category.withSelected.selected = true := selected
        rw [if_pos selected, List.filter_cons_of_pos selected, List.filter_cons_of_pos still,
          List.map_cons, ih]
      · rw [if_neg selected, List.filter_cons_of_neg selected, List.filter_cons_of_neg selected, ih]

variable (form : StoreCreationSliderValidation)

theorem pruned_selectedCategories : form.pruned.selectedCategories = form.selection :=
  filter_selected_prune form.productCategories

/-- Either way the same is returned. -/
theorem toFormData_data (policy : Policy) :
    (form.toFormData policy).2 = form.storeData policy := by
  rw [StoreCreationSliderValidation.toFormData, StoreCreationSliderValidation.storeData]
  cases form.workingTimeOption with
  | none => rfl
  | some option =>
      dsimp only
      rw [pruned_selectedCategories]
      rfl

theorem updateProductCategoriesFormData_text :
    form.updateProductCategoriesFormData.2 = form.categoriesText := by
  rw [StoreCreationSliderValidation.updateProductCategoriesFormData,
    StoreCreationSliderValidation.categoriesText]
  dsimp only
  rw [pruned_selectedCategories]

/-! ## What is changed -/

/-- Every selected category has all its sub-categories selected. -/
def Whole (form : StoreCreationSliderValidation) : Prop :=
  ∀ category ∈ form.productCategories, category.selected = true →
    ∀ sub ∈ category.subCategories, sub.selected = true

theorem withSelected_eq_self_iff (category : ProductCategory) :
    category.withSelected = category ↔ ∀ sub ∈ category.subCategories, sub.selected = true := by
  rw [← List.filter_eq_self]
  constructor
  · exact congrArg ProductCategory.subCategories
  · intro same
    rw [ProductCategory.withSelected, same]

theorem prune_eq_self_iff (categories : List ProductCategory) :
    prune categories = categories ↔ ∀ category ∈ categories, category.selected = true →
      ∀ sub ∈ category.subCategories, sub.selected = true := by
  induction categories with
  | nil => exact iff_of_true rfl (List.forall_mem_nil _)
  | cons category rest ih =>
      rw [prune_cons, List.cons_eq_cons, ih, List.forall_mem_cons]
      refine and_congr_left fun _ => ?_
      by_cases selected : category.selected = true
      · rw [if_pos selected, withSelected_eq_self_iff, imp_iff_right selected]
      · rw [if_neg selected]
        exact iff_of_true rfl fun chosen => absurd chosen selected

theorem pruned_eq_self_iff : form.pruned = form ↔ Whole form := by
  rw [Whole, ← prune_eq_self_iff]
  constructor
  · exact congrArg StoreCreationSliderValidation.productCategories
  · intro same
    rw [StoreCreationSliderValidation.pruned, same]

theorem toFormData_form_eq_iff (policy : Policy) :
    (form.toFormData policy).1 = form ↔ (form.workingTimeOption ≠ none → Whole form) := by
  rw [StoreCreationSliderValidation.toFormData]
  cases given : form.workingTimeOption with
  | none => exact iff_of_true rfl fun there => absurd rfl there
  | some option =>
      rw [imp_iff_right (Option.some_ne_none option)]
      exact pruned_eq_self_iff form

theorem updateProductCategoriesFormData_form_eq_iff :
    form.updateProductCategoriesFormData.1 = form ↔ Whole form := pruned_eq_self_iff form

/-! ## Runs -/

/-- An encoder that gets as far as the categories finds them whole. -/
def Call.Harmless (form : StoreCreationSliderValidation) : Call → Prop
  | .toFormData _ => form.workingTimeOption ≠ none → Whole form
  | .updateProductCategoriesFormData => Whole form
  | .change _ _ => True
  | .edit _ => True

theorem next_eq_meant_iff (session : Session) (call : Call) :
    session.next call = session.meant call ↔ call.Harmless session.form := by
  cases call with
  | change checkDeselect change => exact iff_of_true rfl trivial
  | edit other => exact iff_of_true rfl trivial
  | toFormData policy =>
      rw [Session.next, Session.meant, Call.Harmless, ← toFormData_form_eq_iff session.form policy,
        toFormData_data, Session.mk.injEq, and_iff_left rfl]
  | updateProductCategoriesFormData =>
      rw [Session.next, Session.meant, Call.Harmless,
        ← updateProductCategoriesFormData_form_eq_iff session.form,
        updateProductCategoriesFormData_text, Session.mk.injEq, and_iff_left rfl]

/-- The form next to the one whose encoders change nothing. -/
def beside? (both : Session × Session) (call : Call) : Option (Session × Session) :=
  some (both.1.next call, both.2.meant call)

/-- The forms are the same, and so is all that they have returned. -/
def Same (both : Session × Session) : Prop := both.1 = both.2

/-- Whatever is selected or changed in between, the encoders leave the form as it is and return
what is selected at the time exactly when every one of them finds the categories whole. -/
theorem always_same_iff (session : Session) (calls : List Call) :
    Always beside? Same (session, session) calls ↔
      EveryStep beside? (fun both call _ => call.Harmless both.1.form) (session, session)
        calls := by
  have exact_step : ∀ source call target, Same source → beside? source call = some target →
      (Same target ↔ call.Harmless source.1.form) := by
    rintro ⟨first, second⟩ call target same stepped
    cases same
    cases stepped
    exact next_eq_meant_iff first call
  exact always_iff_everyStep exact_step rfl

/-- A category with a sub-category that is not selected. -/
def clothes : ProductCategory where
  id := some 1
  name := "Clothes"
  selected := true
  subCategories := [⟨some 1, "Shirts", true, some "shirts", some 0⟩,
    ⟨some 2, "Shoes", false, some "shoes", some 0⟩]
  dbId := some "clothes"
  storeCategoryId := none
  storeCategoryDBId := some "fashion"
  productCount := some 0

def fashionForm : StoreCreationSliderValidation :=
  { StoreCreationSliderValidation.new with productCategories := [clothes] }

/-- The shoes are gone once the form has been encoded, and cannot be selected any more. -/
theorem clothes_not_same :
    ¬Always beside? Same (⟨fashionForm, []⟩, ⟨fashionForm, []⟩)
      [.updateProductCategoriesFormData,
        .change (some true) (.changeSelectProductSubCategorie (some true) (some 2) 0),
        .updateProductCategoriesFormData] := by
  intro always
  have same := (always.2 _ rfl).source
  have categories := congrArg (fun session => session.form.productCategories) same
  have subs : clothes.withSelected = clothes := (List.cons_eq_cons.mp categories).1
  have chosen := (withSelected_eq_self_iff clothes).mp subs ⟨some 2, "Shoes", false, _, _⟩
    (List.mem_cons_of_mem _ List.mem_cons_self)
  exact Bool.false_ne_true chosen

end Proximity.Apps.Commercant.StoreForm
