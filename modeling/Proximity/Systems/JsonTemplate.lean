import Proximity.Systems.JsonParser
import Proximity.Systems.Tally

/-!
# JSON texts with holes

A text is put together from fixed parts and from strings that are inserted between quotation
marks as they stand.  Such a text is read as it is meant exactly when no inserted string needs
an escape: a string that is not plain is written with more units than it has, so the longest
one among those inserted is nowhere in what is read.
-/

namespace Proximity.Systems.JsonText

/-- What a string that is read can be: plain, or shorter than an inserted one that is not. -/
def Told (holes : List (List Char)) (content : List ℕ) : Prop :=
  (∀ unit ∈ content, PlainUnit unit) ∨
    ∃ hole ∈ holes, ¬Plain hole ∧ content.length < (utf16 hole).length

/-- A part of a text into which the holes are inserted.  If it is read at all, it is read as
whole tokens and its numbers are numbers; with plain holes it is read as the tokens. -/
structure Template (text : List Char) (holes : List (List Char)) (numbers : Prop)
    (tokens : List Token) : Prop where
  reads : ∀ start mode, lex .between text = some (start, mode) →
    mode = .between ∧ numbers ∧ ∀ content, .string content ∈ start → Told holes content
  writes : numbers → (∀ hole ∈ holes, Plain hole) → lex .between text = some (tokens, .between)

/-- A token that is not a string, or a plain one. -/
def Token.Plain : Token → Prop
  | .string content => ∀ unit ∈ content, PlainUnit unit
  | _ => True

instance : DecidablePred Token.Plain := fun token =>
  match token with
  | .string content => List.decidableBAll PlainUnit content
  | .leftBrace | .rightBrace | .leftBracket | .rightBracket | .colon | .comma | .scalar _ =>
      inferInstanceAs (Decidable True)

/-! ## Parts -/

theorem Told.mono {holes holes' : List (List Char)} {content : List ℕ} (subset : holes ⊆ holes')
    (told : Told holes content) : Told holes' content := by
  rcases told with plain | ⟨hole, member, notPlain, shorter⟩
  · exact Or.inl plain
  · exact Or.inr ⟨hole, subset member, notPlain, shorter⟩

theorem Template.nil {numbers : Prop} (holds : numbers) : Template [] [] numbers [] := by
  refine ⟨fun start mode lexed => ?_, fun _ _ => rfl⟩
  cases lexed
  exact ⟨rfl, holds, fun _ => nofun⟩

/-- A part without holes. -/
theorem Template.fixed {text : List Char} {tokens : List Token}
    (lexed : lex .between text = some (tokens, .between))
    (plain : ∀ token ∈ tokens, token.Plain) : Template text [] True tokens := by
  refine ⟨fun start mode read => ?_, fun _ _ => lexed⟩
  cases lexed.symm.trans read
  exact ⟨rfl, trivial, fun content member => Or.inl (plain (.string content) member)⟩

theorem Template.append {first second : List Char} {holes holes' : List (List Char)}
    {numbers numbers' : Prop} {tokens tokens' : List Token}
    (before : Template first holes numbers tokens)
    (after : Template second holes' numbers' tokens') :
    Template (first ++ second) (holes ++ holes') (numbers ∧ numbers') (tokens ++ tokens') := by
  constructor
  · intro start mode lexed
    obtain ⟨begun, middle, rest, began, ended, rfl⟩ := lex_append_eq_some lexed
    obtain ⟨rfl, counted, told⟩ := before.reads begun middle began
    obtain ⟨rfl, counted', told'⟩ := after.reads rest mode ended
    refine ⟨rfl, ⟨counted, counted'⟩, fun content member => ?_⟩
    rcases List.mem_append.mp member with there | there
    · exact (told content there).mono (List.subset_append_left _ _)
    · exact (told' content there).mono (List.subset_append_right _ _)
  · rintro ⟨counted, counted'⟩ plain
    rw [List.forall_mem_append] at plain
    exact lex_append_of_eq_some (before.writes counted plain.1) (after.writes counted' plain.2)

/-- What may stand between a hole and the end of its line. -/
inductive Gap : List Char → List Token → Prop where
  | none : Gap [] []
  | comma : Gap [','] [.comma]

variable {gap : List Char} {marks : List Token}

/-- No string goes on over the end of a line. -/
theorem lex_break (gaps : Gap gap marks) (content : List ℕ) :
    lex (.string content) (gap ++ ['\n']) = none := by
  cases gaps with
  | none => rfl
  | comma => rfl

/-- The quotation mark after a hole ends a string: any string that it began, or was part of,
would go on over the end of the line. -/
theorem string_of_lex_quote {mode mode' : Mode} {tokens : List Token} (gaps : Gap gap marks)
    (lexed : lex mode ('"' :: (gap ++ ['\n'])) = some (tokens, mode')) :
    ∃ content, mode = .string content := by
  rw [lex_cons] at lexed
  obtain ⟨⟨start, next⟩, entered, later⟩ := Option.bind_eq_some_iff.mp lexed
  obtain ⟨rest, ended, _⟩ := Option.map_eq_some_iff.mp later
  have broken : ∀ content, next ≠ .string content := fun content same => by
    subst same
    rw [lex_break gaps] at ended
    cases ended
  cases mode with
  | between =>
      cases entered
      exact absurd rfl (broken [])
  | scalar text =>
      obtain ⟨value, _, begun⟩ := Option.bind_eq_some_iff.mp entered
      cases begun
      exact absurd rfl (broken [])
  | string content => exact ⟨content, rfl⟩
  | escape content =>
      cases entered
      exact absurd rfl (broken _)
  | unicode content count unit => cases entered

theorem lex_quote (gaps : Gap gap marks) (content : List ℕ) :
    lex (.string content) ('"' :: (gap ++ ['\n'])) = some (.string content :: marks, .between) := by
  cases gaps with
  | none => rfl
  | comma => rfl

theorem Gap.no_string (gaps : Gap gap marks) (content : List ℕ) : .string content ∉ marks := by
  cases gaps with
  | none => exact List.not_mem_nil
  | comma =>
      intro member
      cases List.mem_singleton.mp member

/-- A hole between quotation marks, at the end of a line. -/
theorem Template.hole {before : List Char} (hole : List Char) {start : List Token}
    (opened : lex .between before = some (start, .string []))
    (plain : ∀ token ∈ start, token.Plain) (gaps : Gap gap marks) :
    Template (before ++ (hole ++ '"' :: (gap ++ ['\n']))) [hole] True
      (start ++ .string (utf16 hole) :: marks) := by
  constructor
  · intro tokens mode lexed
    obtain ⟨begun, middle, rest, began, ended, rfl⟩ := lex_append_eq_some lexed
    cases opened.symm.trans began
    obtain ⟨inside, last, closing, within, closed, rfl⟩ := lex_append_eq_some ended
    obtain ⟨content, rfl⟩ := string_of_lex_quote gaps closed
    cases (lex_quote gaps content).symm.trans closed
    refine ⟨rfl, trivial, fun other member => ?_⟩
    by_cases plainHole : Plain hole
    · cases (lex_plain plainHole []).symm.trans within
      rw [List.nil_append, List.nil_append, List.mem_append, List.mem_cons] at member
      rcases member with there | same | there
      · exact Or.inl (plain (.string other) there)
      · cases same
        exact Or.inl (plainUnit_utf16_iff.mpr plainHole)
      · exact absurd there (gaps.no_string other)
    · have empty : Mode.Within 0 (.string []) := ⟨Or.inl (List.forall_mem_nil _), le_rfl⟩
      obtain ⟨⟨written, _⟩, strings⟩ := lex_within empty within
      have told : ∀ {read : List ℕ}, Written (0 + (utf16 hole).length) read → Told [hole] read :=
        fun read => by
          rw [Nat.zero_add] at read
          exact read.imp_right fun shorter => ⟨hole, List.mem_singleton_self _, plainHole, shorter⟩
      rw [List.mem_append, List.mem_append, List.mem_cons] at member
      rcases member with there | there | same | there
      · exact Or.inl (plain (.string other) there)
      · exact told (strings other there)
      · cases same
        exact told written
      · exact absurd there (gaps.no_string other)
  · intro _ plainHoles
    have inserted := lex_plain (plainHoles hole (List.mem_singleton_self _)) []
    rw [List.nil_append] at inserted
    exact lex_append_of_eq_some opened (lex_append_of_eq_some inserted (lex_quote gaps _))

/-! ## Numbers and spaces -/

theorem enter_of_isScalarChar {character : Char} (isScalar : isScalarChar character = true) :
    enter character = some ([], .scalar [character]) := by
  have notSpace : isSpace character ≠ true := fun space => by
    simp only [isSpace, Bool.or_eq_true, decide_eq_true_eq] at space
    rcases space with ((rfl | rfl) | rfl) | rfl
    all_goals cases isScalar
  have notQuote : character ≠ '"' := fun quote => by
    subst quote
    cases isScalar
  rw [enter, if_neg notSpace, if_neg notQuote, if_pos isScalar]

theorem lex_scalarChars {text : List Char}
    (chars : ∀ character ∈ text, isScalarChar character = true) (before : List Char) :
    lex (.scalar before) text = some ([], .scalar (before ++ text)) := by
  induction text generalizing before with
  | nil => rw [lex_nil, List.append_nil]
  | cons character text ih =>
      obtain ⟨first, rest⟩ := List.forall_mem_cons.mp chars
      rw [lex_cons, read, if_pos first, Option.bind_some, ih rest, List.append_assoc]
      rfl

theorem lex_scalar {text : List Char} (there : text ≠ [])
    (chars : ∀ character ∈ text, isScalarChar character = true) :
    lex .between text = some ([], .scalar text) := by
  cases text with
  | nil => exact absurd rfl there
  | cons character text =>
      obtain ⟨first, rest⟩ := List.forall_mem_cons.mp chars
      rw [lex_cons, read, enter_of_isScalarChar first, Option.bind_some, lex_scalarChars rest]
      rfl

/-- A number ends where something else begins. -/
theorem lex_scalar_cons {text rest : List Char} {next : Char} (stops : isScalarChar next = false) :
    lex (.scalar text) (next :: rest) =
      (scalar? text).bind fun value =>
        (lex .between (next :: rest)).map fun later => (.scalar value :: later.1, later.2) := by
  have ended : read (.scalar text) next = (scalar? text).bind fun value =>
      (enter next).map fun entered => (.scalar value :: entered.1, entered.2) := by
    rw [read, if_neg (by rw [stops]; exact Bool.false_ne_true)]
  rw [lex_cons, ended, lex_cons, read]
  cases scalar? text with
  | none => rfl
  | some value =>
      cases enter next with
      | none => rfl
      | some entered => simp [Function.comp_def]

/-- A number, or what is printed in the place of one. -/
theorem Template.scalar {text rest : List Char} {next : Char} {holes : List (List Char)}
    {numbers : Prop} {tokens : List Token} (there : text ≠ [])
    (chars : ∀ character ∈ text, isScalarChar character = true)
    (stops : isScalarChar next = false) (after : Template (next :: rest) holes numbers tokens) :
    Template (text ++ next :: rest) holes ((scalar? text).isSome = true ∧ numbers)
      (.scalar ((scalar? text).getD .null) :: tokens) := by
  have lexes : lex .between (text ++ next :: rest) =
      (scalar? text).bind fun value =>
        (lex .between (next :: rest)).map fun later => (.scalar value :: later.1, later.2) := by
    rw [lex_append, lex_scalar there chars, Option.bind_some, lex_scalar_cons stops]
    simp
  constructor
  · intro start mode lexed
    rw [lexes] at lexed
    obtain ⟨value, isNumber, later⟩ := Option.bind_eq_some_iff.mp lexed
    obtain ⟨⟨begun, last⟩, ended, made⟩ := Option.map_eq_some_iff.mp later
    cases made
    obtain ⟨rfl, counted, told⟩ := after.reads begun _ ended
    have there := Option.isSome_iff_exists.mpr ⟨value, isNumber⟩
    refine ⟨rfl, ⟨there, counted⟩, fun content member => ?_⟩
    rcases List.mem_cons.mp member with same | inside
    · cases same
    · exact told content inside
  · rintro ⟨isNumber, counted⟩ plain
    obtain ⟨value, same⟩ := Option.isSome_iff_exists.mp isNumber
    rw [lexes, same, Option.bind_some, after.writes counted plain, Option.map_some,
      Option.getD_some]

/-- Characters that are spaces, or else no token's. -/
theorem Template.blank {text : List Char}
    (each : ∀ character ∈ text, isSpace character = true ∨ enter character = none) :
    Template text [] (∀ character ∈ text, isSpace character = true) [] := by
  induction text with
  | nil => exact Template.nil (List.forall_mem_nil _)
  | cons character text ih =>
      obtain ⟨first, rest⟩ := List.forall_mem_cons.mp each
      have entered : isSpace character = true → enter character = some ([], .between) :=
        fun space => by rw [enter, if_pos space]
      rw [List.forall_mem_cons]
      constructor
      · intro start mode lexed
        rw [lex_cons, read] at lexed
        rcases first with space | nothing
        · rw [entered space, Option.bind_some] at lexed
          obtain ⟨⟨begun, last⟩, ended, made⟩ := Option.map_eq_some_iff.mp lexed
          cases made
          obtain ⟨rfl, spaces, told⟩ := (ih rest).reads begun _ ended
          exact ⟨rfl, ⟨space, spaces⟩, told⟩
        · rw [nothing] at lexed
          cases lexed
      · rintro ⟨space, spaces⟩ plain
        rw [lex_cons, read, entered space, Option.bind_some, (ih rest).writes spaces plain]
        rfl

/-! ## Lists -/

section List

variable {α : Type} {items : List α} {text : α → List Char} {holes : α → List (List Char)}
  {numbers : α → Prop} {tokens : α → List Token}

theorem Template.rest
    (each : ∀ item ∈ items, Template (text item) (holes item) (numbers item) (tokens item)) :
    Template ((items.map text).flatMap (',' :: ·)) (items.flatMap holes)
      (∀ item ∈ items, numbers item) ((items.map tokens).flatMap (.comma :: ·)) := by
  induction items with
  | nil => exact Template.nil (List.forall_mem_nil _)
  | cons item items ih =>
      obtain ⟨first, others⟩ := List.forall_mem_cons.mp each
      have comma : Template [','] [] True [.comma] :=
        Template.fixed rfl (by decide)
      have joined := (comma.append first).append (ih others)
      rw [true_and] at joined
      rw [List.forall_mem_cons]
      exact joined

/-- Parts with commas between them. -/
theorem Template.separated
    (each : ∀ item ∈ items, Template (text item) (holes item) (numbers item) (tokens item)) :
    Template ([','].intercalate (items.map text)) (items.flatMap holes)
      (∀ item ∈ items, numbers item) ([Token.comma].intercalate (items.map tokens)) := by
  cases items with
  | nil => exact Template.rest each
  | cons item items =>
      obtain ⟨first, others⟩ := List.forall_mem_cons.mp each
      rw [List.map_cons, List.map_cons, intercalate_cons, intercalate_cons, List.forall_mem_cons]
      exact first.append (Template.rest others)

end List

/-! ## Whole texts -/

/-- If every inserted string is found in what is read, then they are all plain: of those that
are not, none could be the longest. -/
theorem plain_of_told {holes : List (List Char)}
    (told : ∀ hole ∈ holes, ¬Plain hole → Told holes (utf16 hole)) :
    ∀ hole ∈ holes, Plain hole := by
  have longer : ∀ hole ∈ holes, ¬Plain hole →
      ∃ other ∈ holes, ¬Plain other ∧ (utf16 hole).length < (utf16 other).length := by
    intro hole member notPlain
    rcases told hole member notPlain with plain | longer
    · exact absurd (plainUnit_utf16_iff.mp plain) notPlain
    · exact longer
  have unbounded : ∀ bound, (∃ hole ∈ holes, ¬Plain hole) →
      ∃ hole ∈ holes, ¬Plain hole ∧ bound ≤ (utf16 hole).length := by
    intro bound start
    induction bound with
    | zero =>
        obtain ⟨hole, member, notPlain⟩ := start
        exact ⟨hole, member, notPlain, Nat.zero_le _⟩
    | succ bound ih =>
        obtain ⟨hole, member, notPlain, large⟩ := ih
        obtain ⟨other, there, notPlain', more⟩ := longer hole member notPlain
        exact ⟨other, there, notPlain', by omega⟩
  intro hole member
  by_contra notPlain
  obtain ⟨other, there, _, large⟩ :=
    unbounded (tally (fun hole => (utf16 hole).length) holes + 1) ⟨hole, member, notPlain⟩
  have bounded := weight_le_tally (fun hole => (utf16 hole).length) there
  omega

/-- A text that inserts the strings of a value is read as the value exactly when its numbers
are numbers, its strings are plain, and its tokens are those of the value. -/
theorem Template.parse?_eq_iff {text : String} {holes : List (List Char)} {numbers : Prop}
    {tokens : List Token} {value value' : Value}
    (template : Template text.toList holes numbers tokens) (denotes : Denotes tokens value')
    (mentions : ∀ hole ∈ holes, ¬Plain hole → value.Mentions (utf16 hole)) :
    parse? text = some value ↔ numbers ∧ (∀ hole ∈ holes, Plain hole) ∧ value' = value := by
  have parsed : numbers → (∀ hole ∈ holes, Plain hole) → parse? text = some value' := by
    intro counted plain
    refine parse?_of_denotes ?_ denotes
    rw [tokens?, template.writes counted plain, Option.bind_some]
  constructor
  · intro same
    obtain ⟨read, whole, strings⟩ := parse?_mentions same
    obtain ⟨⟨start, mode⟩, lexed, ended⟩ := Option.bind_eq_some_iff.mp whole
    obtain ⟨rfl, counted, told⟩ := template.reads start mode lexed
    cases ended
    have plain := plain_of_told fun hole member notPlain =>
      told _ (strings _ (mentions hole member notPlain))
    exact ⟨counted, plain, Option.some_inj.mp ((parsed counted plain).symm.trans same)⟩
  · rintro ⟨counted, plain, rfl⟩
    exact parsed counted plain

/-- An array of parts. -/
theorem Template.array {α : Type} {items : List α} {part : α → List Char}
    {holes : α → List (List Char)} {numbers : α → Prop} {tokens : α → List Token} {text : String}
    (written : text.toList = '[' :: ([','].intercalate (items.map part) ++ [']']))
    (template : ∀ item ∈ items, Template (part item) (holes item) (numbers item) (tokens item)) :
    Template text.toList (items.flatMap holes) (∀ item ∈ items, numbers item)
      (.leftBracket :: ([Token.comma].intercalate (items.map tokens) ++ [.rightBracket])) := by
  have opened : Template ['['] [] True [.leftBracket] := Template.fixed rfl (by decide)
  have closed : Template [']'] [] True [.rightBracket] := Template.fixed rfl (by decide)
  have whole := opened.append ((Template.separated template).append closed)
  rw [List.append_nil, List.nil_append, true_and, and_true, List.singleton_append,
    ← written] at whole
  exact whole

/-- An array is read as it is meant exactly when each of its items is. -/
theorem parse?_array_iff {α : Type} {items : List α} {part : α → List Char}
    {holes : α → List (List Char)} {numbers : α → Prop} {tokens : α → List Token}
    {shown said : α → Value} {text : String}
    (written : text.toList = '[' :: ([','].intercalate (items.map part) ++ [']']))
    (template : ∀ item ∈ items, Template (part item) (holes item) (numbers item) (tokens item))
    (denotes : ∀ item ∈ items, Denotes (tokens item) (shown item))
    (mentions : ∀ item ∈ items, ∀ hole ∈ holes item, ¬Plain hole →
      (said item).Mentions (utf16 hole)) :
    parse? text = some (.array (items.map said)) ↔
      ∀ item ∈ items, numbers item ∧ (∀ hole ∈ holes item, Plain hole) ∧
        shown item = said item := by
  rw [(Template.array written template).parse?_eq_iff (denotes_array denotes)]
  · rw [List.forall_mem_flatMap, Value.array.injEq, List.map_inj_left, ← forall₂_and, ← forall₂_and]
  · intro hole member notPlain
    obtain ⟨item, there, inserted⟩ := List.mem_flatMap.mp member
    exact .array (List.mem_map_of_mem there) (mentions item there hole inserted notPlain)

end Proximity.Systems.JsonText
