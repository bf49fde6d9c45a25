import Mathlib.Algebra.Order.Ring.Rat
import Mathlib.Data.List.Dedup
import Proximity.Models.Catalogue
import Proximity.Systems.Checks

/-!
# Ratings of stores

`updateStoreRating` looks the rate of a user up by an object where an id belongs, and reads the
aggregates of the model instead of those of the store.
-/

namespace Proximity.Catalogue.Ratings

open Proximity.Systems Proximity.Models

/-- The rating fields of a stored store. -/
structure RatedStore where
  id : ObjectId
  ratingCount : ℚ
  ratingSum : ℚ
  deriving DecidableEq, Repr

instance : Document RatedStore ObjectId := ⟨RatedStore.id⟩

/-- The virtual `rating`. -/
def RatedStore.rating (store : RatedStore) : ℚ :=
  if store.ratingSum ≠ 0 ∧ store.ratingCount ≠ 0 then store.ratingSum / store.ratingCount else 0

structure StoreRate where
  id : ObjectId
  userId : Option ObjectId
  storeId : Option ObjectId
  rate : ℚ
  deriving DecidableEq, Repr

instance : Document StoreRate ObjectId := ⟨StoreRate.id⟩

structure Database where
  stores : Collection RatedStore
  storeRates : Collection StoreRate

/-- A body that the schema of the route accepts: two texts and a number. -/
structure Body where
  userId : String
  storeId : String
  rate : ℚ
  deriving DecidableEq, Repr

inductive Failure where
  | castError
  deriving DecidableEq, Repr

/-! ## Casts of a query -/

def hexDigit? (digit : Char) : Option Nat :=
  if '0' ≤ digit ∧ digit ≤ '9' then some (digit.toNat - '0'.toNat)
  else if 'a' ≤ digit ∧ digit ≤ 'f' then some (digit.toNat - 'a'.toNat + 10)
  else if 'A' ≤ digit ∧ digit ≤ 'F' then some (digit.toNat - 'A'.toNat + 10)
  else none

/-- The id of 24 hexadecimal digits. -/
def objectId? (text : String) : Option ObjectId :=
  if text.length = 24 then
    (text.toList.mapM hexDigit?).map fun digits =>
      digits.foldl (fun value digit => 16 * value + digit) 0
  else none

/-- What is given where a query expects an id. -/
inductive IdValue where
  | text (text : String)
  | object (storeId userId : String)

/-- `value.toString()`. -/
def IdValue.toText : IdValue → String
  | .text given => given
  | .object _ _ => "[object Object]"

def castObjectId (value : IdValue) : Except Failure ObjectId :=
  found .castError (objectId? value.toText)

/-- A number, or what is none: `undefined` and all that is reckoned with it. -/
def castNumber (value : Option ℚ) : Except Failure ℚ := found .castError value

/-! ## `updateStoreRating` -/

/-- `Store.ratingSum` and `Store.ratingCount`: the model class has no such fields. -/
def modelRatingSum : Option ℚ := none

def modelRatingCount : Option ℚ := none

def setRate (rate : ℚ) : Update StoreRate :=
  ⟨fun stored => { stored with rate := rate }, fun _ => rfl⟩

def setRatings (sum count : ℚ) : Update RatedStore :=
  ⟨fun store => { store with ratingSum := sum, ratingCount := count }, fun _ => rfl⟩

/-- `StoreRate.findByIdAndUpdate` with `upsert`; only the id is taken from the query. -/
def upsertRate (database : Database) (value : IdValue) (rate : ℚ) :
    Except Failure Database := do
  let id ← castObjectId value
  match database.storeRates.findById? id with
  | some _ => return { database with storeRates := database.storeRates.update id (setRate rate) }
  | none => return { database with storeRates := database.storeRates.insert ⟨id, none, none, rate⟩ }

/-- `Store.findByIdAndUpdate` of the two aggregates. -/
def updateRatings (database : Database) (value : IdValue) (ratingSum ratingCount : Option ℚ) :
    Except Failure Database := do
  let id ← castObjectId value
  let sum ← castNumber ratingSum
  let count ← castNumber ratingCount
  return { database with stores := database.stores.update id (setRatings sum count) }

/-- The database after a call, and whether the call throws.  The store of the first look-up is
never read, and the test after it reads the model class, which is always there. -/
def updateStoreRating (database : Database) (body : Body) : Database × Option Failure :=
  match upsertRate database (.object body.storeId body.userId) body.rate with
  | .error failure => (database, some failure)
  | .ok rated =>
      let oldSum := modelRatingSum
      let oldCount := modelRatingCount
      match updateRatings rated (.text body.storeId) (oldSum.map (· + body.rate))
          (oldCount.map (· + 1)) with
      | .error failure => (rated, some failure)
      | .ok updated => (updated, none)

def run (database : Database) (bodies : List Body) : Database :=
  bodies.foldl (fun database body => (updateStoreRating database body).1) database

/-! ## What the ratings should be -/

/-- The user and the rate, when the body rates the store. -/
def Body.rates? (id : ObjectId) (body : Body) : Option (ObjectId × ℚ) :=
  if objectId? body.storeId = some id then
    (objectId? body.userId).map fun user => (user, body.rate)
  else none

/-- All rates of the store, in the order of the calls. -/
def given (bodies : List Body) (id : ObjectId) : List (ObjectId × ℚ) :=
  bodies.filterMap (Body.rates? id)

def raters (rates : List (ObjectId × ℚ)) : List ObjectId := (rates.map Prod.fst).dedup

def latest? (rates : List (ObjectId × ℚ)) (user : ObjectId) : Option ℚ :=
  rates.reverse.lookup user

def latestSum (rates : List (ObjectId × ℚ)) : ℚ := ((raters rates).filterMap (latest? rates)).sum

/-- The aggregates of the store are those of the rates. -/
structure Agrees (store : RatedStore) (rates : List (ObjectId × ℚ)) : Prop where
  ratingCount : store.ratingCount = (raters rates).length
  ratingSum : store.ratingSum = latestSum rates
  rating : store.rating = latestSum rates / (raters rates).length

/-! ## Every run -/

theorem objectId?_object (storeId userId : String) :
    objectId? (IdValue.object storeId userId).toText = none :=
  if_neg (by decide : ("[object Object]" : String).length ≠ 24)

theorem updateStoreRating_throws (database : Database) (body : Body) :
    updateStoreRating database body = (database, some .castError) := by
  have refused : upsertRate database (.object body.storeId body.userId) body.rate =
      .error .castError := by
    rw [upsertRate, castObjectId, objectId?_object]
    rfl
  rw [updateStoreRating, refused]

theorem run_eq (database : Database) (bodies : List Body) : run database bodies = database := by
  induction bodies with
  | nil => rfl
  | cons body rest ih =>
      rw [run, List.foldl_cons, updateStoreRating_throws]
      exact ih

/-- After the calls the store's ratings are those given, and no call has changed the ratings of
a store that it does not name. -/
structure RatingsHold (database : Database) (bodies : List Body) (id : ObjectId) : Prop where
  agrees : ∀ store, (run database bodies).stores.findById? id = some store →
    Agrees store (given bodies id)
  others : ∀ first body rest, bodies = first ++ body :: rest →
    ∀ other, objectId? body.storeId ≠ some other →
      (updateStoreRating (run database first) body).1.stores.findById? other =
        (run database first).stores.findById? other

theorem raters_eq_nil_iff {rates : List (ObjectId × ℚ)} : raters rates = [] ↔ rates = [] := by
  rw [raters, List.dedup_eq_nil, List.map_eq_nil_iff]

theorem rating_eq_div (store : RatedStore) :
    store.rating = store.ratingSum / store.ratingCount := by
  unfold RatedStore.rating
  split
  case isTrue => rfl
  case isFalse zero =>
      rcases not_and_or.mp zero with sum | count
      · rw [not_not.mp sum, zero_div]
      · rw [not_not.mp count, div_zero]

/-- The average follows from the two aggregates. -/
theorem agrees_of_aggregates {store : RatedStore} {rates : List (ObjectId × ℚ)}
    (count : store.ratingCount = (raters rates).length) (sum : store.ratingSum = latestSum rates) :
    Agrees store rates :=
  ⟨count, sum, by rw [rating_eq_div, count, sum]⟩

/-- The ratings of a store hold after a sequence of calls exactly when none of them rates it. -/
theorem ratingsHold_iff {database : Database} {id : ObjectId} {store : RatedStore}
    (stored : database.stores.findById? id = some store) (count : store.ratingCount = 0)
    (sum : store.ratingSum = 0) (bodies : List Body) :
    RatingsHold database bodies id ↔ given bodies id = [] := by
  constructor
  · intro holds
    have agrees := holds.agrees store (by rw [run_eq, stored])
    have none_rated : ((raters (given bodies id)).length : ℚ) = 0 :=
      agrees.ratingCount.symm.trans count
    exact raters_eq_nil_iff.mp (List.length_eq_zero_iff.mp (Nat.cast_eq_zero.mp none_rated))
  · intro unrated
    refine ⟨fun after found => ?_, fun first body rest _ other _ => ?_⟩
    · rw [run_eq, stored] at found
      cases found
      rw [unrated]
      exact agrees_of_aggregates count sum
    · rw [updateStoreRating_throws]

/-! ## One rate -/

def bakery : RatedStore := ⟨26, 0, 0⟩

def oneStore : Database := ⟨⟨[bakery], List.nodup_singleton 26⟩, Collection.empty⟩

/-- User 10 gives store 26 four stars. -/
def fourStars : Body := ⟨"00000000000000000000000a", "00000000000000000000001a", 4⟩

theorem fourStars_ratingsHold_iff :
    RatingsHold oneStore [fourStars] 26 ↔ given [fourStars] 26 = [] :=
  have stored : oneStore.stores.findById? 26 = some bakery := rfl
  ratingsHold_iff stored rfl rfl [fourStars]

theorem fourStars_not_ratingsHold : ¬ RatingsHold oneStore [fourStars] 26 := by
  intro holds
  have agrees := holds.agrees bakery rfl
  exact absurd agrees.ratingCount (by decide)

end Proximity.Catalogue.Ratings
