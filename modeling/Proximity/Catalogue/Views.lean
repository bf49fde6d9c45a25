import Proximity.Catalogue.Statistics
import Proximity.Systems.Calendar
import Proximity.Systems.Totals

/-!
# The views of a seller

The view services count the views of a seller in a period: all of them, and by store, by
product and by region.  An instant is its milliseconds since 1970.
-/

namespace Proximity.Catalogue.Views

open Proximity.Systems Proximity.Systems.Calendar Proximity.Models

/-- A `View` document; a view is stored with the ids of the viewed product. -/
structure View extends Statistics.View where
  date : ℤ
  deriving DecidableEq, Repr

structure Database where
  views : List View
  stores : Collection Store
  products : Collection Product

/-- The clock of the server and how far its local time is ahead of UTC, in milliseconds. -/
structure Server where
  now : ℤ
  offset : ℤ

inductive Failure where
  | invalidTimePeriod
  deriving DecidableEq, Repr

/-! ## Dates -/

def msPerDay : ℤ := 86400000

/-- `toISOString().slice(0, 10)` -/
def isoDate (date : ℤ) : List Char := (dateText (date / msPerDay)).take 10

namespace Server

variable (server : Server)

/-- The day in local time. -/
def localDay (date : ℤ) : ℤ := (date + server.offset) / msPerDay

/-- `getDay`: from 0 on Sunday; 1 January 1970 was a Thursday. -/
def getDay (date : ℤ) : ℤ := (server.localDay date + 4) % 7

def getDate (date : ℤ) : ℤ := dateOf (server.localDay date)

def getMonth (date : ℤ) : ℤ := monthOf (server.localDay date) % 12

def getFullYear (date : ℤ) : ℤ := yearOf (server.localDay date)

/-- `setDate` of the day before the week: the time of the day is kept. -/
def currentWeekStart : ℤ :=
  (server.localDay server.now - server.getDay server.now) * msPerDay +
    (server.now + server.offset) % msPerDay - server.offset

/-- The test of the filters. -/
def inPeriod (timePeriod : String) (viewDate : ℤ) : Except Failure Bool :=
  if timePeriod = "day" then .ok (decide (isoDate viewDate = isoDate server.now))
  else if timePeriod = "week" then .ok (decide (server.currentWeekStart ≤ viewDate))
  else if timePeriod = "month" then
    .ok (decide (server.getFullYear viewDate = server.getFullYear server.now) &&
      decide (server.getMonth viewDate = server.getMonth server.now))
  else .error .invalidTimePeriod

/-- `filter`, whose test may throw. -/
def filterViews (timePeriod : String) : List View → Except Failure (List View)
  | [] => .ok []
  | view :: rest => do
      let kept ← server.inPeriod timePeriod view.date
      let others ← filterViews timePeriod rest
      .ok (if kept = true then view :: others else others)

end Server

/-! ## Services -/

namespace Database

variable (database : Database) (server : Server) (sellerId : ObjectId)

def viewsOf : List View := database.views.filter fun view => decide (view.sellerId = sellerId)

/-- The views that are counted: all of them without a period. -/
def filteredViews (timePeriod : Option String) : Except Failure (List View) :=
  match timePeriod with
  | none => .ok (database.viewsOf sellerId)
  | some timePeriod =>
      if timePeriod = "" then .ok (database.viewsOf sellerId)
      else server.filterViews timePeriod (database.viewsOf sellerId)

def getViews (timePeriod : Option String) : Except Failure ℕ :=
  (database.filteredViews server sellerId timePeriod).map List.length

end Database

/-- One view more under its key. -/
def countView {Key : Type} [DecidableEq Key] (key : View → Key) (viewsMap : Totals Key ℕ)
    (view : View) : Totals Key ℕ :=
  viewsMap.put ⟨key view, match Totals.get? viewsMap (key view) with
    | some count => count + 1
    | none => 1⟩

def viewsMap {Key : Type} [DecidableEq Key] (key : View → Key) (views : List View) :
    Totals Key ℕ :=
  views.foldl (countView key) Collection.empty

/-- An entry of a report on stores or products. -/
structure NamedViews where
  name : String
  numberOfViews : ℕ
  deriving DecidableEq, Repr

structure RegionViews where
  region : Option String
  numberOfViews : ℕ
  deriving DecidableEq, Repr

/-- The documents that are found by the keys of the map, with their counts. -/
def documentReport {Doc : Type} [Document Doc ObjectId] (name : Doc → String)
    (documents : Collection Doc) (counts : Totals ObjectId ℕ) : List NamedViews :=
  (documents.docs.filter fun document => decide (Document.id document ∈ Totals.keys counts)).map
    fun document => ⟨name document, (Totals.get? counts (Document.id document)).getD 0⟩

/-- The keys of the map, with their counts. -/
def regionReport (counts : Totals (Option String) ℕ) : List RegionViews :=
  (Totals.keys counts).map fun region => ⟨region, (Totals.get? counts region).getD 0⟩

namespace Database

variable (database : Database) (server : Server) (sellerId : ObjectId)

def getStoreViews (timePeriod : Option String) : Except Failure (List NamedViews) :=
  (database.filteredViews server sellerId timePeriod).map fun views =>
    documentReport Store.name database.stores (viewsMap (fun view => view.storeId) views)

def getProductViews (timePeriod : Option String) : Except Failure (List NamedViews) :=
  (database.filteredViews server sellerId timePeriod).map fun views =>
    documentReport Product.name database.products (viewsMap (fun view => view.productId) views)

def getRegionViews (timePeriod : Option String) : Except Failure (List RegionViews) :=
  (database.filteredViews server sellerId timePeriod).map fun views =>
    regionReport (viewsMap (fun view => view.region) views)

end Database

end Proximity.Catalogue.Views
