import Proximity.Carts.Import

/-!
# What an imported cart holds

An import in which every addition finds no cart keeps the entry whose save comes first.
So all interleavings end in the cart that adding the entries in turn makes only if the
entries lead to a single line.
-/

namespace Proximity.Carts

open Proximity.Systems Proximity.Models Proximity.Catalogue

def Shop.linesOf (user : ObjectId) (shop : Shop) : List OrderLine :=
  Carts.linesOf ((shop.cart? user).map Cart.items)

/-- What the import has stored. -/
def storedLines (stored : Option StoredCart) : List OrderLine :=
  Carts.linesOf (stored.map StoredCart.items)

/-- Every interleaving of the additions that comes to its end has stored what adding the
entries one after another stores. -/
def ImportsAll (shop : Shop) (user : ObjectId) (now : Time) (entries : List Entry) : Prop :=
  ∀ turns target, run? (importTurn? shop.catalogue) (startImport entries) turns = some target →
    Finished target →
      (storedLines target.shared).Perm ((Shop.addAll user now shop entries).linesOf user)

/-! ## One entry after another -/

section Sequential

variable {shop : Shop} {user : ObjectId} {now : Time} {line : OrderLine}

theorem cartOrNew_lines (shop : Shop) (user : ObjectId) :
    (shop.cartOrNew user).items.map CartItem.orderLine = shop.linesOf user := by
  unfold Shop.cartOrNew Shop.linesOf Carts.linesOf
  cases shop.cart? user with
  | none => rfl
  | some cart => rfl

/-- An item put where there is no other or the one of its line is the line's item. -/
theorem putItem_orderLines {element : Entry} {priced : LookedUp} {items : List CartItem}
    (leads : (element.item priced).orderLine = line)
    (before : items.map CartItem.orderLine = [] ∨ items.map CartItem.orderLine = [line]) :
    (putItem element.named priced.variant priced.offer? priced.quantity items).map
      CartItem.orderLine = [line] := by
  subst leads
  rcases before with empty | single
  · rw [List.map_eq_nil_iff.mp empty]
    rfl
  · obtain ⟨item, rfl, same⟩ := List.map_eq_singleton_iff.mp single
    simp only [CartItem.orderLine, Entry.item, pricedItem, Prod.mk.injEq] at same
    obtain ⟨productId, variantId, -⟩ := same
    have here : item.variantId = element.named.variantId := variantId
    rw [putItem, if_pos here]
    simp [CartItem.orderLine, Entry.item, pricedItem, productId, variantId]

theorem save_lines (shop : Shop) {cart : Cart} (own : cart.userId = user) :
    (shop.save cart).linesOf user = cart.items.map CartItem.orderLine := by
  subst own
  simp [Shop.linesOf, Carts.linesOf]

/-- A valid entry of the line leaves a cart of that line alone. -/
theorem add_lines (now : Time) {element : Entry} (leads : line? shop.catalogue element = some line)
    (before : shop.linesOf user = [] ∨ shop.linesOf user = [line]) :
    (Shop.add user now shop element).linesOf user = [line] := by
  obtain ⟨priced, looked, priced_line⟩ := lookUp_of_line? now leads
  have answered : addEntry shop now user element = .ok { shop.cartOrNew user with
      items := putItem element.named priced.variant priced.offer? priced.quantity
        (shop.cartOrNew user).items } := by
    rw [addEntry, looked]
    rfl
  have own : ({ shop.cartOrNew user with
      items := putItem element.named priced.variant priced.offer? priced.quantity
        (shop.cartOrNew user).items } : Cart).userId = user := shop.cartOrNew_userId user
  rw [← cartOrNew_lines] at before
  rw [Shop.add, answered]
  exact (save_lines shop own).trans (putItem_orderLines priced_line before)

theorem add_invalid (user : ObjectId) (now : Time) {element : Entry}
    (invalid : line? shop.catalogue element = none) : Shop.add user now shop element = shop := by
  obtain ⟨failure, looked⟩ := lookUp_of_no_line now invalid
  have refused : addEntry shop now user element = .error failure := by
    rw [addEntry, looked]
    rfl
  rw [Shop.add, refused]

theorem add_catalogue (element : Entry) :
    (Shop.add user now shop element).catalogue = shop.catalogue := by
  unfold Shop.add
  split
  case h_1 => rfl
  case h_2 => rfl

/-- Entries of one line leave that line, once one of them is valid. -/
theorem addAll_lines {entries : List Entry}
    (same : ∀ element ∈ entries, ∀ other, line? shop.catalogue element = some other →
      other = line)
    (before : shop.linesOf user = [] ∨ shop.linesOf user = [line])
    (reached : shop.linesOf user = [line] ∨
      ∃ element ∈ entries, line? shop.catalogue element = some line) :
    (Shop.addAll user now shop entries).linesOf user = [line] := by
  induction entries generalizing shop with
  | nil => exact reached.resolve_right (by simp)
  | cons element rest ih =>
      have kept : (Shop.add user now shop element).catalogue = shop.catalogue :=
        add_catalogue element
      have later_same : ∀ other ∈ rest, ∀ found,
          line? (Shop.add user now shop element).catalogue other = some found → found = line := by
        rw [kept]
        exact fun other member => same other (List.mem_cons_of_mem element member)
      cases led : line? shop.catalogue element with
      | some found =>
          cases same element List.mem_cons_self found led
          have added := add_lines now led before
          exact ih later_same (Or.inr added) (Or.inl added)
      | none =>
          have stays := add_invalid user now led
          have left : shop.linesOf user = [line] ∨
              ∃ other ∈ rest, line? shop.catalogue other = some line := by
            refine reached.imp_right ?_
            rintro ⟨other, member, valid⟩
            rcases List.mem_cons.mp member with rfl | tail
            · rw [led] at valid
              cases valid
            · exact ⟨other, tail, valid⟩
          rw [stays] at later_same
          rw [Shop.addAll, List.foldl_cons, stays]
          exact ih later_same before left

theorem addAll_invalid {entries : List Entry}
    (invalid : ∀ element ∈ entries, line? shop.catalogue element = none) :
    Shop.addAll user now shop entries = shop := by
  induction entries with
  | nil => rfl
  | cons element rest ih =>
      rw [List.forall_mem_cons] at invalid
      rw [Shop.addAll, List.foldl_cons, add_invalid user now invalid.1]
      exact ih invalid.2

end Sequential

/-! ## Entries of one line, in any order -/

section OneLine

variable {catalogue : Database} {entries : List Entry} {line : OrderLine}

/-- A cart of the line alone, which some entry of the import leads to. -/
def HoldsLine (catalogue : Database) (entries : List Entry) (line : OrderLine)
    (stored : Option StoredCart) : Prop :=
  ∀ cart, stored = some cart → cart.items.map CartItem.orderLine = [line] ∧
    ∃ element ∈ entries, line? catalogue element = some line

/-- What an addition has found belongs to the line of its entry. -/
def FitsEntry (catalogue : Database) (line : OrderLine) (stored : Option StoredCart)
    (element : Entry) (addition : Addition) : Prop :=
  match addition with
  | .entered other => other = element
  | .priced other priced =>
      other = element ∧ line? catalogue element = some line ∧ (element.item priced).orderLine = line
  | .holding other priced cart =>
      other = element ∧ line? catalogue element = some line ∧
        (element.item priced).orderLine = line ∧
        ∀ seen, cart = some seen → seen.items.map CartItem.orderLine = [line] ∧ stored ≠ none
  | .settled => line? catalogue element = none ∨ stored ≠ none

theorem saveAddition_ne_none {stored found : Option StoredCart} {fresh : CartItem}
    (there : stored ≠ none) : saveAddition stored found fresh ≠ none := by
  obtain ⟨cart, rfl⟩ := Option.ne_none_iff_exists'.mp there
  cases found with
  | none => simp [saveAddition]
  | some seen => simp [saveAddition]

/-- A stored cart never goes away again. -/
theorem advance_ne_none {now : Time} {stored : Option StoredCart} (addition : Addition)
    (there : stored ≠ none) : (advance catalogue now stored addition).1 ≠ none := by
  cases addition with
  | entered element =>
      cases looked : lookUp catalogue now element with
      | ok priced => rwa [advance_of_ok looked]
      | error failure => rwa [advance_of_error looked]
  | priced element priced => exact there
  | holding element priced cart => exact saveAddition_ne_none there
  | settled => exact there

theorem fitsEntry_mono {before after : Option StoredCart}
    (stays : before ≠ none → after ≠ none) {element : Entry} {addition : Addition}
    (fits : FitsEntry catalogue line before element addition) :
    FitsEntry catalogue line after element addition := by
  cases addition with
  | entered other => exact fits
  | priced other priced => exact fits
  | holding other priced cart =>
      obtain ⟨same, valid, leads, found⟩ := fits
      exact ⟨same, valid, leads, fun seen here => ⟨(found seen here).1, stays (found seen here).2⟩⟩
  | settled => exact fits.imp_right stays

/-- A save of the line's item over a found cart of the line leaves the line. -/
theorem saveFound_line {seen stored : StoredCart} {fresh : CartItem}
    (leads : fresh.orderLine = line) (found : seen.items.map CartItem.orderLine = [line])
    (there : stored.items.map CartItem.orderLine = [line]) :
    (saveFound seen stored fresh).items.map CartItem.orderLine = [line] := by
  subst leads
  obtain ⟨old, seen_items, old_line⟩ := List.map_eq_singleton_iff.mp found
  obtain ⟨item, stored_items, item_line⟩ := List.map_eq_singleton_iff.mp there
  simp only [CartItem.orderLine, Prod.mk.injEq] at old_line item_line
  have placed : place? fresh.variantId seen.items = some (0, old) := by
    simp [place?, seen_items, List.findIdx?_cons, old_line.2.1]
  simp only [saveFound, placed]
  split
  case isTrue =>
      simp [stored_items, changedFields, CartItem.orderLine, item_line, old_line.2.2]
  case isFalse => exact there

theorem advance_own (same : ∀ element ∈ entries, ∀ other,
      line? catalogue element = some other → other = line)
    {now : Time} {stored : Option StoredCart} {element : Entry} {addition : Addition}
    (member : element ∈ entries) (holds : HoldsLine catalogue entries line stored)
    (fits : FitsEntry catalogue line stored element addition) :
    HoldsLine catalogue entries line (advance catalogue now stored addition).1 ∧
      FitsEntry catalogue line (advance catalogue now stored addition).1 element
        (advance catalogue now stored addition).2 := by
  cases addition with
  | entered other =>
      cases fits
      cases looked : lookUp catalogue now element with
      | ok priced =>
          have led := line?_of_lookUp looked
          have leads := same element member _ led
          rw [advance_of_ok looked]
          exact ⟨holds, rfl, led.trans (congrArg some leads), leads⟩
      | error failure =>
          rw [advance_of_error looked]
          refine ⟨holds, Or.inl ?_⟩
          cases led : line? catalogue element with
          | none => rfl
          | some other =>
              obtain ⟨priced, also_looked, -⟩ := lookUp_of_line? now led
              rw [looked] at also_looked
              cases also_looked
  | priced other priced =>
      obtain ⟨rfl, valid, leads⟩ := fits
      refine ⟨holds, rfl, valid, leads, fun seen found => ?_⟩
      exact ⟨(holds seen found).1, by rw [found]; simp [advance]⟩
  | holding other priced cart =>
      obtain ⟨rfl, valid, leads, found⟩ := fits
      cases cart with
      | none =>
          cases stored with
          | none =>
              refine ⟨?_, Or.inr (by simp [advance, saveAddition])⟩
              rintro cart ⟨⟩
              exact ⟨by rw [List.map_singleton, leads], other, member, valid⟩
          | some cart => exact ⟨holds, Or.inr (by simp [advance, saveAddition])⟩
      | some seen =>
          obtain ⟨seen_line, there⟩ := found seen rfl
          obtain ⟨cart, rfl⟩ := Option.ne_none_iff_exists'.mp there
          refine ⟨?_, Or.inr (by simp [advance, saveAddition])⟩
          rintro later ⟨⟩
          exact ⟨saveFound_line leads seen_line (holds cart rfl).1, other, member, valid⟩
  | settled => exact ⟨holds, fits⟩

theorem startImport_allFit : AllFit (HoldsLine catalogue entries line)
    (FitsEntry catalogue line) entries (startImport entries) := by
  refine ⟨?_, by simp [startImport], ?_⟩
  · rintro cart ⟨⟩
  · intro index element addition begun stands
    simp only [startImport, List.getElem?_map, begun, Option.map_some, Option.some.injEq] at stands
    subst stands
    exact rfl

/-- At every point of every interleaving the stored cart is of the entries' line. -/
theorem import_allFit (same : ∀ element ∈ entries, ∀ other,
      line? catalogue element = some other → other = line) (turns : List (Nat × Time)) :
    Always (importTurn? catalogue)
      (AllFit (HoldsLine catalogue entries line) (FitsEntry catalogue line) entries)
      (startImport entries) turns :=
  always_of_preserved
    (fun _ _ _ all stepped => turn_allFit
      (fun _ _ _ _ member holds fits => advance_own same member holds fits)
      (fun _ _ _ agent _ _ _ _ _ fits => fitsEntry_mono (advance_ne_none agent) fits)
      all stepped)
    startImport_allFit turns

theorem storedLines_of_finished (same : ∀ element ∈ entries, ∀ other,
      line? catalogue element = some other → other = line)
    {turns : List (Nat × Time)} {target : Crowd (Option StoredCart) Addition}
    (reached : run? (importTurn? catalogue) (startImport entries) turns = some target)
    (finished : Finished target)
    (valid : ∃ element ∈ entries, line? catalogue element = some line) :
    storedLines target.shared = [line] := by
  obtain ⟨element, member, led⟩ := valid
  have all := (import_allFit same turns).target reached
  obtain ⟨index, started⟩ := List.mem_iff_getElem?.mp member
  have bound : index < target.agents.length :=
    all.length ▸ (List.getElem?_eq_some_iff.mp started).1
  have last : target.agents[index] = .settled := finished _ (List.getElem_mem bound)
  have fits := all.fits index element _ started (List.getElem?_eq_getElem bound)
  rw [last] at fits
  have there : target.shared ≠ none := fits.resolve_left (by simp [led])
  obtain ⟨cart, stored⟩ := Option.ne_none_iff_exists'.mp there
  rw [stored]
  exact (all.good cart stored).1

theorem storedLines_of_invalid
    (invalid : ∀ element ∈ entries, line? catalogue element = none)
    {turns : List (Nat × Time)} {target : Crowd (Option StoredCart) Addition}
    (reached : run? (importTurn? catalogue) (startImport entries) turns = some target) :
    storedLines target.shared = [] := by
  have same : ∀ element ∈ entries, ∀ other,
      line? catalogue element = some other → other = (0, "", 0) := by
    intro element member other led
    rw [invalid element member] at led
    cases led
  have all := (import_allFit same turns).target reached
  cases stored : target.shared with
  | none => rfl
  | some cart =>
      obtain ⟨-, element, member, led⟩ := all.good cart stored
      rw [invalid element member] at led
      cases led

end OneLine

/-! ## Any valid entry can be the one that is kept -/

section Race

variable {catalogue : Database} {entries : List Entry}

/-- Every addition moves once, from the first to the last. -/
def round (count : Nat) : List (Nat × Time) := (List.range' 0 count).map fun index => (index, 0)

/-- An entry once it is looked up. -/
def considered (catalogue : Database) (element : Entry) : Addition :=
  match lookUp catalogue 0 element with
  | .ok priced => .priced element priced
  | .error _ => .settled

/-- An entry that was looked up and found no cart. -/
def ready (catalogue : Database) (element : Entry) : Addition :=
  match lookUp catalogue 0 element with
  | .ok priced => .holding element priced none
  | .error _ => .settled

theorem advance_entered (catalogue : Database) (element : Entry) :
    advance catalogue 0 none (.entered element) = (none, considered catalogue element) := by
  unfold considered
  cases looked : lookUp catalogue 0 element with
  | ok priced => exact advance_of_ok looked none
  | error failure => exact advance_of_error looked none

theorem advance_considered (catalogue : Database) (element : Entry) :
    advance catalogue 0 none (considered catalogue element) = (none, ready catalogue element) := by
  unfold considered ready
  cases lookUp catalogue 0 element with
  | ok priced => rfl
  | error failure => rfl

/-- A round that leaves the stored cart alone. -/
theorem run_quiet_round {stored : Option StoredCart} {before after : Entry → Addition}
    (quiet : ∀ element, advance catalogue 0 stored (before element) = (stored, after element)) :
    run? (importTurn? catalogue) ⟨stored, entries.map before⟩ (round entries.length) =
      some ⟨stored, entries.map after⟩ := by
  have still : ∀ addition ∈ entries.map before, advance catalogue 0 stored addition =
      (stored, (advance catalogue 0 stored addition).2) := by
    intro addition member
    obtain ⟨element, -, rfl⟩ := List.mem_map.mp member
    rw [quiet]
  have moved : (entries.map before).map (fun addition => (advance catalogue 0 stored addition).2) =
      entries.map after := by
    rw [List.map_map]
    exact List.map_congr_left fun element _ => congrArg Prod.snd (quiet element)
  have ran := run_full_round still
  rwa [List.length_map, moved] at ran

/-- Two rounds bring every addition in front of its save. -/
theorem run_ready (catalogue : Database) (entries : List Entry) :
    run? (importTurn? catalogue) (startImport entries)
        (round entries.length ++ round entries.length) =
      some ⟨none, entries.map (ready catalogue)⟩ := by
  rw [run?_append, startImport, run_quiet_round (advance_entered catalogue), Option.bind_some]
  exact run_quiet_round (advance_considered catalogue)

/-- Once a cart is stored, the additions that found none are refused. -/
theorem run_refused (catalogue : Database) (cart : StoredCart) {agents : List Addition}
    (waiting : ∀ addition ∈ agents, addition = .settled ∨
      ∃ element priced, addition = .holding element priced none) :
    ∃ target, run? (importTurn? catalogue) ⟨some cart, agents⟩ (round agents.length) =
        some target ∧ Finished target ∧ target.shared = some cart := by
  have still : ∀ addition ∈ agents,
      advance catalogue 0 (some cart) addition = (some cart, .settled) := by
    intro addition member
    rcases waiting addition member with rfl | ⟨element, priced, rfl⟩
    · rfl
    · rfl
  refine ⟨⟨some cart, agents.map fun _ => .settled⟩, run_full_round still, ?_, rfl⟩
  intro addition member
  obtain ⟨before, -, rfl⟩ := List.mem_map.mp member
  rfl

/-- Every valid entry is, in some interleaving, the only one that is kept. -/
theorem kept_alone {index : Nat} {element : Entry} {line : OrderLine}
    (here : entries[index]? = some element) (led : line? catalogue element = some line) :
    ∃ turns target, run? (importTurn? catalogue) (startImport entries) turns = some target ∧
      Finished target ∧ storedLines target.shared = [line] := by
  obtain ⟨priced, looked, leads⟩ := lookUp_of_line? 0 led
  have stands : (entries.map (ready catalogue))[index]? = some (.holding element priced none) := by
    rw [List.getElem?_map, here, Option.map_some, ready, looked]
  have saved : importTurn? catalogue ⟨none, entries.map (ready catalogue)⟩ (index, 0) =
      some ⟨some ⟨[element.item priced], 0⟩,
        (entries.map (ready catalogue)).set index .settled⟩ := by
    rw [importTurn?, turn?, stands]
    rfl
  have waiting : ∀ addition ∈ (entries.map (ready catalogue)).set index .settled,
      addition = .settled ∨ ∃ element priced, addition = .holding element priced none := by
    intro addition member
    rcases List.mem_or_eq_of_mem_set member with old | rfl
    · obtain ⟨other, -, rfl⟩ := List.mem_map.mp old
      unfold ready
      cases lookUp catalogue 0 other with
      | ok priced => exact Or.inr ⟨other, priced, rfl⟩
      | error failure => exact Or.inl rfl
    · exact Or.inl rfl
  obtain ⟨target, refused, finished, stored⟩ :=
    run_refused catalogue ⟨[element.item priced], 0⟩ waiting
  refine ⟨(round entries.length ++ round entries.length) ++ (index, 0) ::
    round ((entries.map (ready catalogue)).set index .settled).length, target, ?_, finished, ?_⟩
  · rw [run?_append, run_ready, Option.bind_some, run?, saved, Option.bind_some]
    exact refused
  · rw [stored, ← leads]
    rfl

end Race

/-! ## When the import agrees with adding one after another -/

theorem importsAll_iff_oneLine {shop : Shop} {user : ObjectId}
    (newAccount : shop.cart? user = none) (now : Time) (entries : List Entry) :
    ImportsAll shop user now entries ↔ OneLine shop.catalogue entries := by
  have empty : shop.linesOf user = [] := by rw [Shop.linesOf, newAccount]; rfl
  constructor
  · intro imports first firstMember second secondMember firstLine secondLine firstLed secondLed
    have only : ∀ element ∈ entries, ∀ line, line? shop.catalogue element = some line →
        (Shop.addAll user now shop entries).linesOf user = [line] := by
      intro element member line led
      obtain ⟨index, here⟩ := List.mem_iff_getElem?.mp member
      obtain ⟨turns, target, reached, finished, stored⟩ := kept_alone here led
      have agrees := imports turns target reached finished
      rw [stored] at agrees
      exact agrees.singleton_eq.symm
    have same := (only first firstMember firstLine firstLed).symm.trans
      (only second secondMember secondLine secondLed)
    exact List.singleton_inj.mp same
  · intro one turns target reached finished
    by_cases valid : ∃ element ∈ entries, ∃ line, line? shop.catalogue element = some line
    · obtain ⟨element, member, line, led⟩ := valid
      have same : ∀ other ∈ entries, ∀ found, line? shop.catalogue other = some found →
          found = line :=
        fun other otherMember found otherLed =>
          one other otherMember element member found line otherLed led
      rw [storedLines_of_finished same reached finished ⟨element, member, led⟩,
        addAll_lines same (Or.inl empty) (Or.inr ⟨element, member, led⟩)]
    · have invalid : ∀ element ∈ entries, line? shop.catalogue element = none := by
        intro element member
        by_contra led
        exact valid ⟨element, member, Option.ne_none_iff_exists'.mp led⟩
      rw [storedLines_of_invalid invalid reached, addAll_invalid invalid, empty]

def guestEntry : Entry := ⟨20, "a", some 2⟩

/-- The shop's product in a second variant. -/
def gallery : Shop :=
  { corner none with
    catalogue := ⟨⟨[{ soldProduct none with
      variants := [soldVariant, { soldVariant with id := "b" }] }], by simp⟩,
        Collection.empty, Collection.empty, []⟩ }

def guestCart : List Entry := [guestEntry, ⟨20, "b", some 1⟩]

/-- One entry twice beside one of no variant, and entries of two variants. -/
theorem guestEntry_importsAll_iff :
    gallery.cart? 7 = none ∧
      ∀ entries ∈ [[guestEntry, ⟨20, "c", some 1⟩, guestEntry], guestCart],
        ImportsAll gallery 7 0 entries ↔ OneLine gallery.catalogue entries :=
  ⟨rfl, fun entries _ => importsAll_iff_oneLine rfl 0 entries⟩

/-- Both additions look for the cart before either saves; the second insert is refused. -/
theorem gallery_importsFirst : gallery.cart? 7 = none ∧ ¬ ImportsAll gallery 7 0 guestCart := by
  refine ⟨rfl, fun imports => ?_⟩
  have kept := imports [(0, 0), (1, 0), (0, 0), (1, 0), (0, 0), (1, 0)]
    ⟨some ⟨[guestEntry.item ⟨soldVariant, none, 2⟩], 0⟩, [.settled, .settled]⟩ rfl
    (by simp [Finished])
  have added : (Shop.addAll 7 0 gallery guestCart).linesOf 7 = [(20, "a", 2), (20, "b", 1)] := by
    decide +kernel
  rw [added] at kept
  exact absurd kept.length_eq (by decide)

end Proximity.Carts
