import Proximity.Catalogue.Views

/-!
# The periods of the view services

A view of the day is a view of the week and of the month, but for two days of the calendar: a
week begins on Sunday at the time of the day that it is now, and a month begins in local time,
while the day is the one in UTC.
-/

namespace Proximity.Catalogue.Views

open Proximity.Systems Proximity.Systems.Calendar Proximity.Models

/-! ## Filters -/

namespace Server

variable {server : Server}

/-- A test that does not throw filters. -/
theorem filterViews_eq_ok {timePeriod : String} {holds : View → Bool}
    (tested : ∀ view : View, server.inPeriod timePeriod view.date = .ok (holds view))
    (views : List View) : server.filterViews timePeriod views = .ok (views.filter holds) := by
  induction views with
  | nil => rfl
  | cons view rest ih =>
      rw [filterViews, tested view, ih]
      change Except.ok _ = Except.ok _
      cases kept : holds view with
      | true => rw [if_pos rfl, List.filter_cons_of_pos kept]
      | false => rw [if_neg Bool.false_ne_true, List.filter_cons_of_neg (by rw [kept]; decide)]

def isDay (server : Server) (view : View) : Bool :=
  decide (isoDate view.date = isoDate server.now)

def isWeek (server : Server) (view : View) : Bool := decide (server.currentWeekStart ≤ view.date)

def isMonth (server : Server) (view : View) : Bool :=
  decide (server.getFullYear view.date = server.getFullYear server.now) &&
    decide (server.getMonth view.date = server.getMonth server.now)

variable (server) (views : List View)

theorem filterViews_day : server.filterViews "day" views = .ok (views.filter server.isDay) :=
  filterViews_eq_ok (fun _ => rfl) views

theorem filterViews_week : server.filterViews "week" views = .ok (views.filter server.isWeek) :=
  filterViews_eq_ok (fun _ => rfl) views

theorem filterViews_month : server.filterViews "month" views = .ok (views.filter server.isMonth) :=
  filterViews_eq_ok (fun _ => rfl) views

/-! ## Windows -/

/-- The week began as many days ago as it is days since Sunday. -/
theorem currentWeekStart_eq :
    server.currentWeekStart = server.now - server.getDay server.now * msPerDay := by
  unfold currentWeekStart localDay msPerDay
  omega

theorem getDay_bounds (date : ℤ) : 0 ≤ server.getDay date ∧ server.getDay date < 7 := by
  unfold getDay
  omega

theorem isMonth_iff (view : View) : server.isMonth view = true ↔
    monthOf (server.localDay view.date) = monthOf (server.localDay server.now) := by
  rw [isMonth, Bool.and_eq_true, decide_eq_true_iff, decide_eq_true_iff]
  unfold getFullYear getMonth yearOf
  omega

/-- The year in UTC has four digits. -/
def FourDigits : Prop :=
  0 ≤ yearOf (server.now / msPerDay) ∧ yearOf (server.now / msPerDay) ≤ 9999

theorem isDay_iff (four : server.FourDigits) (view : View) :
    server.isDay view = true ↔ view.date / msPerDay = server.now / msPerDay := by
  rw [isDay, decide_eq_true_iff, isoDate, isoDate]
  exact take_dateText_eq_iff four

/-- On a Sunday the week has just begun, on other days it has all of the day. -/
theorem isWeek_iff_of_sameDay {view : View} (same : view.date / msPerDay = server.now / msPerDay)
    (past : view.date ≤ server.now) :
    server.isWeek view = true ↔ (server.getDay server.now = 0 → view.date = server.now) := by
  have bounds := getDay_bounds server server.now
  rw [isWeek, decide_eq_true_iff, currentWeekStart_eq]
  unfold msPerDay at same ⊢
  generalize server.getDay server.now = days at bounds ⊢
  omega

/-- Within the month as many days back as are before the date of today. -/
theorem isMonth_iff_of_past {view : View} (past : view.date ≤ server.now) :
    server.isMonth view = true ↔
      server.localDay server.now - server.localDay view.date < server.getDate server.now := by
  have le : server.localDay view.date ≤ server.localDay server.now := by
    unfold localDay msPerDay
    omega
  rw [isMonth_iff, monthOf_eq_of_le_iff le]
  unfold getDate dateOf
  omega

/-- On the first of a month the day before is in another month, on other days it is not. -/
theorem isMonth_iff_of_sameDay {view : View} (same : view.date / msPerDay = server.now / msPerDay)
    (past : view.date ≤ server.now) :
    server.isMonth view = true ↔
      (server.getDate server.now = 1 → server.localDay view.date = server.localDay server.now) := by
  have near : server.localDay server.now - 1 ≤ server.localDay view.date ∧
      server.localDay view.date ≤ server.localDay server.now := by
    unfold localDay msPerDay at *
    omega
  have date : 1 ≤ server.getDate server.now := (dateOf_bounds _).1
  rw [isMonth_iff_of_past server past]
  omega

/-! ## Nesting -/

/-- What keeps a view of the day in the week and in the month: on a Sunday it is at this very
moment, and on the first of a month it is on the same day in local time.  Where the year has more
digits, the date is cut before its day and the whole month is the day. -/
structure Within (view : View) : Prop where
  sunday : server.FourDigits → server.getDay server.now = 0 → view.date = server.now
  first : server.FourDigits → server.getDate server.now = 1 →
    server.localDay view.date = server.localDay server.now
  week : ¬server.FourDigits → server.now - view.date ≤ server.getDay server.now * msPerDay
  month : ¬server.FourDigits →
    server.localDay server.now - server.localDay view.date < server.getDate server.now

theorem isWeek_isMonth_iff {view : View} (day : server.isDay view = true)
    (past : view.date ≤ server.now) :
    server.isWeek view = true ∧ server.isMonth view = true ↔ server.Within view := by
  by_cases four : server.FourDigits
  · have same := (server.isDay_iff four view).mp day
    rw [server.isWeek_iff_of_sameDay same past, server.isMonth_iff_of_sameDay same past]
    constructor
    · rintro ⟨sunday, first⟩
      exact ⟨fun _ => sunday, fun _ => first, (absurd four ·), (absurd four ·)⟩
    · intro within
      exact ⟨within.sunday four, within.first four⟩
  · have week : server.isWeek view = true ↔
        server.now - view.date ≤ server.getDay server.now * msPerDay := by
      rw [isWeek, decide_eq_true_iff, currentWeekStart_eq]
      omega
    rw [week, server.isMonth_iff_of_past past]
    constructor
    · rintro ⟨week, month⟩
      exact ⟨(absurd · four), (absurd · four), fun _ => week, fun _ => month⟩
    · intro within
      exact ⟨within.week four, within.month four⟩

end Server

/-- A period is given the views that are in it, and their number. -/
structure Counted (database : Database) (server : Server) (sellerId : ObjectId)
    (timePeriod : Option String) (views : List View) : Prop where
  filtered : database.filteredViews server sellerId timePeriod = .ok views
  count : database.getViews server sellerId timePeriod = .ok views.length

/-- Every view that is counted for the day is counted for the week and for the month. -/
def Nested (database : Database) (server : Server) (sellerId : ObjectId) : Prop :=
  ∃ daily weekly monthly, Counted database server sellerId (some "day") daily ∧
    Counted database server sellerId (some "week") weekly ∧
    Counted database server sellerId (some "month") monthly ∧
    (daily ⊆ weekly ∧ daily.length ≤ weekly.length) ∧
    (daily ⊆ monthly ∧ daily.length ≤ monthly.length)

section Nesting

variable (database : Database) (server : Server) (sellerId : ObjectId)

variable {database server sellerId} in
theorem counted_iff {timePeriod : Option String} {filtered views : List View}
    (found : database.filteredViews server sellerId timePeriod = .ok filtered) :
    Counted database server sellerId timePeriod views ↔ filtered = views := by
  constructor
  · intro counted
    exact Except.ok.inj (found.symm.trans counted.filtered)
  · rintro rfl
    exact ⟨found, by rw [Database.getViews, found]; rfl⟩

theorem filteredViews_day : database.filteredViews server sellerId (some "day") =
    .ok ((database.viewsOf sellerId).filter server.isDay) :=
  server.filterViews_day _

theorem filteredViews_week : database.filteredViews server sellerId (some "week") =
    .ok ((database.viewsOf sellerId).filter server.isWeek) :=
  server.filterViews_week _

theorem filteredViews_month : database.filteredViews server sellerId (some "month") =
    .ok ((database.viewsOf sellerId).filter server.isMonth) :=
  server.filterViews_month _

/-- One filter is in another one exactly when each of its views passes the other test. -/
theorem filter_subset_iff {views : List View} {first second : View → Bool} :
    (views.filter first ⊆ views.filter second ∧
        (views.filter first).length ≤ (views.filter second).length) ↔
      ∀ view ∈ views, first view = true → second view = true := by
  constructor
  · rintro ⟨subset, _⟩ view member passes
    exact (List.mem_filter.mp (subset (List.mem_filter.mpr ⟨member, passes⟩))).2
  · intro implied
    have sublist : (views.filter first).Sublist (views.filter second) := by
      have both : views.filter first = (views.filter second).filter first := by
        rw [List.filter_filter]
        refine List.filter_congr fun view member => ?_
        cases passes : first view with
        | false => rfl
        | true => rw [implied view member passes, Bool.and_true]
      rw [both]
      exact List.filter_sublist
    exact ⟨sublist.subset, sublist.length_le⟩

theorem nested_iff_filters : Nested database server sellerId ↔
    ∀ view ∈ database.viewsOf sellerId, server.isDay view = true →
      server.isWeek view = true ∧ server.isMonth view = true := by
  simp only [Nested, counted_iff (filteredViews_day database server sellerId),
    counted_iff (filteredViews_week database server sellerId),
    counted_iff (filteredViews_month database server sellerId), exists_and_left,
    exists_eq_left', filter_subset_iff]
  constructor
  · rintro ⟨week, month⟩ view member day
    exact ⟨week view member day, month view member day⟩
  · intro both
    exact ⟨fun view member day => (both view member day).1,
      fun view member day => (both view member day).2⟩

/-- With no view later than now, the day is in the week and in the month exactly when that is so
for the views of the day on Sundays and on the first of a month. -/
theorem nested_iff_within (past : ∀ view ∈ database.viewsOf sellerId, view.date ≤ server.now) :
    Nested database server sellerId ↔
      ∀ view ∈ database.viewsOf sellerId,
        isoDate view.date = isoDate server.now → server.Within view := by
  rw [nested_iff_filters]
  refine forall₂_congr fun view listed => ?_
  constructor
  · intro nested today
    have day : server.isDay view = true := decide_eq_true today
    exact (server.isWeek_isMonth_iff day (past view listed)).mp (nested day)
  · intro within day
    exact (server.isWeek_isMonth_iff day (past view listed)).mpr (within (of_decide_eq_true day))

end Nesting

/-- The views of one seller at some instants. -/
def viewedAt (dates : List ℤ) : Database where
  views := dates.map fun date => ⟨⟨1, 2, 3, some "Tunis"⟩, date⟩
  stores := Collection.empty
  products := Collection.empty

/-- Tuesday 14 March 2023, 10:00, one hour ahead of UTC. -/
def tuesday : Server := ⟨19430 * msPerDay + 32400000, 3600000⟩

theorem tuesday_nested_iff_within :
    Nested (viewedAt [19430 * msPerDay, 19418 * msPerDay]) tuesday 1 ↔
      ∀ view ∈ (viewedAt [19430 * msPerDay, 19418 * msPerDay]).viewsOf 1,
        isoDate view.date = isoDate tuesday.now → tuesday.Within view :=
  nested_iff_within _ _ _ (by decide)

/-- Sunday 1 January 2023, 12:00, in UTC. -/
def sunday : Server := ⟨19358 * msPerDay + 43200000, 0⟩

/-- Wednesday 1 February 2023, 00:30, one hour ahead of UTC. -/
def february : Server := ⟨19388 * msPerDay + 84600000, 3600000⟩

/-- A view of Sunday morning is not in the week, and a view of the evening before the first is not
in the month. -/
theorem sunday_february_not_nested :
    ((∀ view ∈ (viewedAt [19358 * msPerDay + 28800000]).viewsOf 1, view.date ≤ sunday.now) ∧
      ¬Nested (viewedAt [19358 * msPerDay + 28800000]) sunday 1) ∧
    ((∀ view ∈ (viewedAt [19388 * msPerDay + 72000000]).viewsOf 1, view.date ≤ february.now) ∧
      ¬Nested (viewedAt [19388 * msPerDay + 72000000]) february 1) := by
  refine ⟨⟨by decide, fun nested => ?_⟩, ⟨by decide, fun nested => ?_⟩⟩
  · have both := (nested_iff_filters _ _ _).mp nested _ List.mem_cons_self (by decide)
    exact absurd both.1 (by decide)
  · have both := (nested_iff_filters _ _ _).mp nested _ List.mem_cons_self (by decide)
    exact absurd both.2 (by decide)

end Proximity.Catalogue.Views
