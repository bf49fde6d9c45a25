import Proximity.Catalogue.ViewPeriods

/-!
# The reports on views

The reports by region, by store and by product are about the same views that are counted.  The
regions share them all out; the stores and products share out those whose document still exists.
-/

namespace Proximity.Catalogue.Views

open Proximity.Systems Proximity.Models

/-! ## The maps -/

section Maps

variable {Key : Type} [DecidableEq Key] (key : View → Key) (views : List View)

/-- How many of the views have a key. -/
def viewsWith (wanted : Key) : ℕ := (views.filter fun view => decide (key view = wanted)).length

theorem countView_eq_add (counts : Totals Key ℕ) (view : View) :
    countView key counts view = Totals.add counts (key view) 1 := by
  rw [countView, Totals.add, Totals.total]
  cases Totals.get? counts (key view) with
  | none => rfl
  | some count => rfl

theorem viewsMap_eq_addAll :
    viewsMap key views = Totals.addAll key (fun _ => 1) Collection.empty views := by
  rw [viewsMap, Totals.addAll]
  congr 1
  funext counts view
  exact countView_eq_add key counts view

theorem sum_ones {Item : Type} (items : List Item) : (items.map fun _ => 1).sum = items.length := by
  rw [List.map_const', List.sum_replicate, nsmul_one, Nat.cast_id]

theorem total_viewsMap (wanted : Key) :
    Totals.total (viewsMap key views) wanted = viewsWith key views wanted := by
  rw [viewsMap_eq_addAll, Totals.total_addAll_empty, sum_ones, viewsWith]

theorem mem_keys_viewsMap {wanted : Key} :
    wanted ∈ Totals.keys (viewsMap key views) ↔ ∃ view ∈ views, key view = wanted := by
  rw [viewsMap_eq_addAll, Totals.mem_keys_addAll_empty, List.mem_map]

theorem viewsWith_pos_iff {wanted : Key} :
    0 < viewsWith key views wanted ↔ ∃ view ∈ views, key view = wanted := by
  rw [viewsWith, List.length_pos_iff_exists_mem]
  simp only [List.mem_filter, decide_eq_true_iff]

/-- The numbers of views under distinct keys are the number of views with one of the keys. -/
theorem sum_viewsWith {listed : List Key} (distinct : listed.Nodup) :
    (listed.map (viewsWith key views)).sum =
      (views.filter fun view => decide (key view ∈ listed)).length := by
  have shared := Totals.sum_by_key key (fun _ => 1) distinct views
  simp only [sum_ones] at shared
  exact shared

theorem sum_values_viewsMap : (Totals.values (viewsMap key views)).sum = views.length := by
  rw [viewsMap_eq_addAll, Totals.sum_values_addAll, sum_ones]

end Maps

/-! ## Stores and products -/

/-- A report has an entry with its number of views for each document that still exists and has
been viewed. -/
structure Reports {Doc : Type} [Document Doc ObjectId] (name : Doc → String)
    (documents : Collection Doc) (key : View → ObjectId) (views : List View)
    (report : List NamedViews) : Prop where
  entries : report = (documents.docs.filter fun document =>
      decide (∃ view ∈ views, key view = Document.id document)).map fun document =>
    ⟨name document, viewsWith key views (Document.id document)⟩
  sum_le : (report.map NamedViews.numberOfViews).sum ≤ views.length
  sum_eq_iff : (report.map NamedViews.numberOfViews).sum = views.length ↔
    ∀ view ∈ views, ∃ document ∈ documents.docs, Document.id document = key view

section Documents

variable {Doc : Type} [Document Doc ObjectId] (name : Doc → String) (documents : Collection Doc)
variable (key : View → ObjectId) (views : List View)

theorem documentReport_viewsMap : documentReport name documents (viewsMap key views) =
    (documents.docs.filter fun document =>
        decide (∃ view ∈ views, key view = Document.id document)).map fun document =>
      ⟨name document, viewsWith key views (Document.id document)⟩ := by
  have entry : ∀ document : Doc,
      (Totals.get? (viewsMap key views) (Document.id document)).getD 0 =
        viewsWith key views (Document.id document) :=
    fun document => total_viewsMap key views (Document.id document)
  simp only [documentReport, mem_keys_viewsMap, entry]

/-- Documents without views add nothing. -/
theorem sum_documents (counts : ObjectId → ℕ) (chosen : Doc → Bool)
    (others : ∀ document, chosen document = false → counts (Document.id document) = 0)
    (listed : List Doc) :
    ((listed.filter chosen).map fun document => counts (Document.id document)).sum =
      (listed.map fun document => counts (Document.id document)).sum := by
  induction listed with
  | nil => rfl
  | cons document rest ih =>
      rw [List.map_cons, List.sum_cons, ← ih]
      cases kept : chosen document with
      | true => rw [List.filter_cons_of_pos kept, List.map_cons, List.sum_cons]
      | false =>
          rw [List.filter_cons_of_neg (by rw [kept]; exact Bool.false_ne_true),
            others document kept, zero_add]

theorem sum_documentReport :
    ((documentReport name documents (viewsMap key views)).map NamedViews.numberOfViews).sum =
      (views.filter fun view =>
        decide (key view ∈ documents.docs.map Document.id)).length := by
  have others : ∀ document : Doc,
      decide (∃ view ∈ views, key view = Document.id document) = false →
        viewsWith key views (Document.id document) = 0 := by
    intro document unseen
    have none := of_decide_eq_false unseen
    rw [← viewsWith_pos_iff] at none
    exact Nat.eq_zero_of_not_pos none
  rw [documentReport_viewsMap, List.map_map, ← sum_viewsWith key views documents.distinct,
    List.map_map]
  exact sum_documents (viewsWith key views) _ others documents.docs

theorem documentReport_reports :
    Reports name documents key views (documentReport name documents (viewsMap key views)) := by
  constructor
  case entries => exact documentReport_viewsMap name documents key views
  case sum_le =>
    rw [sum_documentReport]
    exact List.length_filter_le _ _
  case sum_eq_iff =>
    rw [sum_documentReport, List.length_filter_eq_length_iff]
    simp only [decide_eq_true_iff, List.mem_map]

end Documents

/-! ## Regions -/

/-- A report lists each region of a view once with its number of views. -/
structure ReportsRegions (views : List View) (report : List RegionViews) : Prop where
  distinct : (report.map RegionViews.region).Nodup
  listed : ∀ region, region ∈ report.map RegionViews.region ↔ ∃ view ∈ views, view.region = region
  count : ∀ entry ∈ report,
    entry.numberOfViews = viewsWith (fun view => view.region) views entry.region
  sum_eq : (report.map RegionViews.numberOfViews).sum = views.length

theorem regionReport_reports (views : List View) :
    ReportsRegions views (regionReport (viewsMap (fun view => view.region) views)) := by
  have regions : (regionReport (viewsMap (fun view => view.region) views)).map RegionViews.region =
      Totals.keys (viewsMap (fun view => view.region) views) := by
    rw [regionReport, List.map_map]
    exact List.map_id _
  constructor
  case distinct =>
    rw [regions]
    exact Totals.keys_nodup _
  case listed =>
    intro region
    rw [regions, mem_keys_viewsMap]
  case count =>
    intro entry member
    obtain ⟨region, _, rfl⟩ := List.mem_map.mp member
    exact total_viewsMap (fun view => view.region) views region
  case sum_eq =>
    rw [← sum_values_viewsMap (fun view => view.region) views, Totals.values_eq_map_total,
      regionReport, List.map_map]
    rfl

/-! ## Services -/

/-- The services agree on the views of a period. -/
structure AddUp (database : Database) (server : Server) (sellerId : ObjectId)
    (timePeriod : Option String) (views : List View) : Prop where
  counted : Counted database server sellerId timePeriod views
  regions : ∃ report, database.getRegionViews server sellerId timePeriod = .ok report ∧
    ReportsRegions views report
  stores : ∃ report, database.getStoreViews server sellerId timePeriod = .ok report ∧
    Reports Store.name database.stores (fun view => view.storeId) views report
  products : ∃ report, database.getProductViews server sellerId timePeriod = .ok report ∧
    Reports Product.name database.products (fun view => view.productId) views report

section Services

variable (database : Database) (server : Server) (sellerId : ObjectId)

variable {database server sellerId} in
theorem addUp_of_filtered {timePeriod : Option String} {views : List View}
    (filtered : database.filteredViews server sellerId timePeriod = .ok views) :
    AddUp database server sellerId timePeriod views := by
  constructor
  case counted => exact (counted_iff filtered).mpr rfl
  case regions =>
    exact ⟨_, by rw [Database.getRegionViews, filtered]; rfl, regionReport_reports views⟩
  case stores =>
    exact ⟨_, by rw [Database.getStoreViews, filtered]; rfl, documentReport_reports _ _ _ _⟩
  case products =>
    exact ⟨_, by rw [Database.getProductViews, filtered]; rfl, documentReport_reports _ _ _ _⟩

/-- The periods that the filters know, and none. -/
theorem exists_filteredViews {timePeriod : Option String}
    (known : timePeriod.getD "" ∈ ["", "day", "week", "month"]) :
    ∃ views, database.filteredViews server sellerId timePeriod = .ok views := by
  cases timePeriod with
  | none => exact ⟨_, rfl⟩
  | some timePeriod =>
      simp only [Option.getD_some, List.mem_cons, List.not_mem_nil, or_false] at known
      rcases known with rfl | rfl | rfl | rfl
      · exact ⟨_, rfl⟩
      · exact ⟨_, filteredViews_day database server sellerId⟩
      · exact ⟨_, filteredViews_week database server sellerId⟩
      · exact ⟨_, filteredViews_month database server sellerId⟩

/-- Another period makes the test of the first view throw; without views nothing is tested. -/
theorem filteredViews_unknown {timePeriod : Option String}
    (unknown : timePeriod.getD "" ∉ ["", "day", "week", "month"]) :
    database.filteredViews server sellerId timePeriod =
      match database.viewsOf sellerId with
      | [] => .ok []
      | _ :: _ => .error .invalidTimePeriod := by
  cases timePeriod with
  | none => exact absurd List.mem_cons_self unknown
  | some timePeriod =>
      simp only [Option.getD_some, List.mem_cons, List.not_mem_nil, or_false, not_or] at unknown
      obtain ⟨given, notDay, notWeek, notMonth⟩ := unknown
      have thrown : ∀ date, server.inPeriod timePeriod date = .error .invalidTimePeriod := by
        intro date
        rw [Server.inPeriod, if_neg notDay, if_neg notWeek, if_neg notMonth]
      rw [Database.filteredViews, if_neg given]
      cases database.viewsOf sellerId with
      | nil => rfl
      | cons view rest =>
          rw [Server.filterViews, thrown]
          rfl

end Services

/-- Views of this week and the last of two stores and three products, of which one store and
one product have been deleted since. -/
def viewedMarket : Database where
  views := [⟨⟨1, 2, 3, some "Tunis"⟩, 19430 * msPerDay⟩, ⟨⟨1, 4, 5, some "Sfax"⟩, 19429 * msPerDay⟩,
    ⟨⟨1, 2, 6, none⟩, 19429 * msPerDay⟩, ⟨⟨1, 2, 3, some "Tunis"⟩, 19418 * msPerDay⟩]
  stores := ⟨[⟨2, 1, "Bakery", "", "", true⟩, ⟨7, 1, "Florist", "", "", true⟩], by decide⟩
  products := ⟨[{ Statistics.viewedProduct with id := 3, name := "Bread" },
    { Statistics.viewedProduct with id := 5, name := "Rose" }], by decide⟩

end Proximity.Catalogue.Views
