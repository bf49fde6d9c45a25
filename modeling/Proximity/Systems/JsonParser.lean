import Proximity.Systems.JsonTokens

/-!
# The value of a JSON text

The tokens are taken one by one on a stack of the arrays and objects that are still open.
Of a key that an object repeats, the last value is kept.
-/

namespace Proximity.Systems.JsonText

inductive Value where
  | scalar (value : Scalar)
  | string (content : List ℕ)
  | array (items : List Value)
  | object (members : List (List ℕ × Value))

/-- A member, in the place of the one with its key if there is one. -/
def put (key : List ℕ) (value : Value) : List (List ℕ × Value) → List (List ℕ × Value)
  | [] => [(key, value)]
  | member :: rest =>
      if member.1 = key then (key, value) :: rest else member :: put key value rest

/-- What is open, and what may come next in it. -/
inductive Frame where
  | document
  | finished (value : Value)
  | arrayFirst
  | arrayNext (items : List Value)
  | arrayAfter (items : List Value)
  | objectFirst
  | objectNext (members : List (List ℕ × Value))
  | objectKey (members : List (List ℕ × Value)) (key : List ℕ)
  | objectValue (members : List (List ℕ × Value)) (key : List ℕ)
  | objectAfter (members : List (List ℕ × Value))

/-- A value that is complete goes where one is expected. -/
def deliver (value : Value) : List Frame → Option (List Frame)
  | .document :: rest => some (.finished value :: rest)
  | .arrayFirst :: rest => some (.arrayAfter [value] :: rest)
  | .arrayNext items :: rest => some (.arrayAfter (items ++ [value]) :: rest)
  | .objectValue members key :: rest => some (.objectAfter (put key value members) :: rest)
  | _ => none

def shift : List Frame → Token → Option (List Frame)
  | frames, .scalar value => deliver (.scalar value) frames
  | .objectFirst :: rest, .string key => some (.objectKey [] key :: rest)
  | .objectNext members :: rest, .string key => some (.objectKey members key :: rest)
  | frames, .string content => deliver (.string content) frames
  | .objectKey members key :: rest, .colon => some (.objectValue members key :: rest)
  | frames, .leftBracket => some (.arrayFirst :: frames)
  | .arrayFirst :: rest, .rightBracket => deliver (.array []) rest
  | .arrayAfter items :: rest, .rightBracket => deliver (.array items) rest
  | .arrayAfter items :: rest, .comma => some (.arrayNext items :: rest)
  | frames, .leftBrace => some (.objectFirst :: frames)
  | .objectFirst :: rest, .rightBrace => deliver (.object []) rest
  | .objectAfter members :: rest, .rightBrace => deliver (.object members) rest
  | .objectAfter members :: rest, .comma => some (.objectNext members :: rest)
  | _, _ => none

def run (frames : List Frame) (tokens : List Token) : Option (List Frame) :=
  tokens.foldlM shift frames

def parse? (text : String) : Option Value :=
  (tokens? text.toList).bind fun tokens =>
    (run [.document] tokens).bind fun frames =>
      match frames with
      | [.finished value] => some value
      | _ => none

/-! ## Strings of a value -/

/-- The string is in the value, other than as a key. -/
inductive Value.Mentions (content : List ℕ) : Value → Prop where
  | string : Mentions content (.string content)
  | array {items : List Value} {item : Value} (member : item ∈ items)
      (inside : Mentions content item) : Mentions content (.array items)
  | object {members : List (List ℕ × Value)} {key : List ℕ} {value : Value}
      (member : (key, value) ∈ members) (inside : Mentions content value) :
      Mentions content (.object members)

/-- The values that a frame holds. -/
def Frame.values : Frame → List Value
  | .document => []
  | .finished value => [value]
  | .arrayFirst => []
  | .arrayNext items => items
  | .arrayAfter items => items
  | .objectFirst => []
  | .objectNext members => members.map Prod.snd
  | .objectKey members _ => members.map Prod.snd
  | .objectValue members _ => members.map Prod.snd
  | .objectAfter members => members.map Prod.snd

/-- Every string in the frames satisfies the predicate. -/
def Strings (Holds : List ℕ → Prop) (frames : List Frame) : Prop :=
  ∀ frame ∈ frames, ∀ value ∈ frame.values, ∀ content, value.Mentions content → Holds content

variable {Holds : List ℕ → Prop}

theorem mem_put {key : List ℕ} {value : Value} {members : List (List ℕ × Value)}
    {other : List ℕ × Value} (member : other ∈ put key value members) :
    other = (key, value) ∨ other ∈ members := by
  induction members with
  | nil => exact Or.inl (List.mem_singleton.mp member)
  | cons first rest ih =>
      rw [put] at member
      split at member
      case isTrue =>
        rcases List.mem_cons.mp member with same | there
        · exact Or.inl same
        · exact Or.inr (List.mem_cons_of_mem _ there)
      case isFalse =>
        rcases List.mem_cons.mp member with same | there
        · exact Or.inr (same ▸ List.mem_cons_self)
        · exact (ih there).imp_right (List.mem_cons_of_mem _)

theorem strings_cons {frame : Frame} {rest : List Frame} :
    Strings Holds (frame :: rest) ↔
      (∀ value ∈ frame.values, ∀ content, value.Mentions content → Holds content) ∧
        Strings Holds rest :=
  List.forall_mem_cons

/-- A frame that holds no more than another one. -/
theorem Strings.replace {frame frame' : Frame} {rest : List Frame}
    (before : Strings Holds (frame :: rest)) (values : frame'.values ⊆ frame.values) :
    Strings Holds (frame' :: rest) := by
  rw [strings_cons] at before ⊢
  exact ⟨fun value member => before.1 value (values member), before.2⟩

/-- A frame that holds one value more than another one. -/
theorem Strings.deliver {frame frame' : Frame} {rest : List Frame} {value : Value}
    (before : Strings Holds (frame :: rest))
    (holds : ∀ content, value.Mentions content → Holds content)
    (values : ∀ other ∈ frame'.values, other = value ∨ other ∈ frame.values) :
    Strings Holds (frame' :: rest) := by
  rw [strings_cons] at before ⊢
  refine ⟨fun other member => ?_, before.2⟩
  rcases values other member with rfl | there
  · exact holds
  · exact before.1 other there

theorem deliver_strings {value : Value} {frames frames' : List Frame}
    (holds : ∀ content, value.Mentions content → Holds content) (before : Strings Holds frames)
    (delivered : deliver value frames = some frames') : Strings Holds frames' := by
  unfold JsonText.deliver at delivered
  split at delivered
  case h_1 =>
    cases delivered
    exact before.deliver holds fun other member => Or.inl (List.mem_singleton.mp member)
  case h_2 =>
    cases delivered
    exact before.deliver holds fun other member => Or.inl (List.mem_singleton.mp member)
  case h_3 items rest =>
    cases delivered
    refine before.deliver holds fun other member => ?_
    rcases List.mem_append.mp member with there | last
    · exact Or.inr there
    · exact Or.inl (List.mem_singleton.mp last)
  case h_4 members key rest =>
    cases delivered
    refine before.deliver holds fun other member => ?_
    obtain ⟨⟨name, held⟩, there, rfl⟩ := List.mem_map.mp member
    rcases mem_put there with same | old
    · exact Or.inl (congrArg Prod.snd same)
    · exact Or.inr (List.mem_map_of_mem old)
  case h_5 => cases delivered

theorem mentions_array {items : List Value} {rest : List Frame}
    (before : Strings Holds (.arrayAfter items :: rest)) (content : List ℕ)
    (inside : (Value.array items).Mentions content) : Holds content := by
  cases inside with
  | array member inside => exact (strings_cons.mp before).1 _ member content inside

theorem mentions_object {members : List (List ℕ × Value)} {rest : List Frame}
    (before : Strings Holds (.objectAfter members :: rest)) (content : List ℕ)
    (inside : (Value.object members).Mentions content) : Holds content := by
  cases inside with
  | object member inside =>
      exact (strings_cons.mp before).1 _ (List.mem_map_of_mem member) content inside

/-- A token more. -/
theorem shift_strings {frames frames' : List Frame} {token : Token}
    (holds : ∀ content, token = .string content → Holds content) (before : Strings Holds frames)
    (shifted : shift frames token = some frames') : Strings Holds frames' := by
  unfold shift at shifted
  split at shifted
  case h_1 => exact deliver_strings (fun content inside => by cases inside) before shifted
  case h_2 =>
    cases shifted
    exact before.replace (List.Subset.refl _)
  case h_3 =>
    cases shifted
    exact before.replace (List.Subset.refl _)
  case h_4 content _ _ =>
    refine deliver_strings (fun other inside => ?_) before shifted
    cases inside
    exact holds content rfl
  case h_5 =>
    cases shifted
    exact before.replace (List.Subset.refl _)
  case h_6 =>
    cases shifted
    exact strings_cons.mpr ⟨nofun, before⟩
  case h_7 =>
    refine deliver_strings (fun content inside => ?_) (strings_cons.mp before).2 shifted
    cases inside with
    | array member _ => cases member
  case h_8 => exact deliver_strings (mentions_array before) (strings_cons.mp before).2 shifted
  case h_9 =>
    cases shifted
    exact before.replace (List.Subset.refl _)
  case h_10 =>
    cases shifted
    exact strings_cons.mpr ⟨nofun, before⟩
  case h_11 =>
    refine deliver_strings (fun content inside => ?_) (strings_cons.mp before).2 shifted
    cases inside with
    | object member _ => cases member
  case h_12 => exact deliver_strings (mentions_object before) (strings_cons.mp before).2 shifted
  case h_13 =>
    cases shifted
    exact before.replace (List.Subset.refl _)
  case h_14 => cases shifted

/-- The strings of a value are among the strings of its tokens. -/
theorem run_strings {frames frames' : List Frame} {tokens : List Token}
    (holds : ∀ content, Token.string content ∈ tokens → Holds content)
    (before : Strings Holds frames) (ran : run frames tokens = some frames') :
    Strings Holds frames' := by
  induction tokens generalizing frames with
  | nil =>
      cases ran
      exact before
  | cons token rest ih =>
      rw [run, List.foldlM_cons] at ran
      obtain ⟨middle, shifted, later⟩ := Option.bind_eq_some_iff.mp ran
      refine ih (fun content member => holds content (List.mem_cons_of_mem _ member)) ?_ later
      exact shift_strings (fun content same => holds content (same ▸ List.mem_cons_self)) before
        shifted

/-- Every string of the value of a text is one of its tokens. -/
theorem parse?_mentions {text : String} {value : Value} (parsed : parse? text = some value) :
    ∃ tokens, tokens? text.toList = some tokens ∧
      ∀ content, value.Mentions content → .string content ∈ tokens := by
  obtain ⟨tokens, lexed, later⟩ := Option.bind_eq_some_iff.mp parsed
  obtain ⟨frames, ran, ended⟩ := Option.bind_eq_some_iff.mp later
  refine ⟨tokens, lexed, ?_⟩
  split at ended
  case h_1 final =>
    cases ended
    have strings : Strings (fun content => .string content ∈ tokens) [.finished value] := by
      refine run_strings (fun _ member => member) (fun frame member => ?_) ran
      cases List.mem_singleton.mp member
      exact nofun
    exact (strings_cons.mp strings).1 value List.mem_cons_self
  case h_2 => cases ended

/-! ## Tokens of a value -/

/-- Wherever a value is expected, the tokens deliver this one. -/
def Denotes (tokens : List Token) (value : Value) : Prop :=
  ∀ frames frames', deliver value frames = some frames' → run frames tokens = some frames'

theorem run_append (frames : List Frame) (first second : List Token) :
    run frames (first ++ second) = (run frames first).bind fun frames => run frames second := by
  unfold run
  rw [List.foldlM_append]
  rfl

theorem denotes_scalar (value : Scalar) : Denotes [.scalar value] (.scalar value) := by
  intro frames frames' delivered
  rw [run, List.foldlM_cons, shift, delivered]
  rfl

theorem denotes_string (content : List ℕ) : Denotes [.string content] (.string content) := by
  intro frames frames' delivered
  have shifted : shift frames (.string content) = deliver (.string content) frames := by
    unfold JsonText.deliver at delivered
    split at delivered
    case h_5 => cases delivered
    all_goals rfl
  rw [run, List.foldlM_cons, shifted, delivered]
  rfl

theorem run_cons (frames : List Frame) (token : Token) (tokens : List Token) :
    run frames (token :: tokens) = (shift frames token).bind fun frames => run frames tokens := by
  unfold run
  rw [List.foldlM_cons]
  rfl

theorem Denotes.run {tokens : List Token} {value : Value} (denotes : Denotes tokens value)
    {frames frames' : List Frame} (delivered : deliver value frames = some frames')
    (rest : List Token) : run frames (tokens ++ rest) = run frames' rest := by
  rw [run_append, denotes frames frames' delivered, Option.bind_some]

/-- Items with a mark between them. -/
theorem intercalate_cons {α : Type} (mark : α) (first : List α) (rest : List (List α)) :
    [mark].intercalate (first :: rest) = first ++ rest.flatMap fun item => mark :: item := by
  induction rest generalizing first with
  | nil => rw [List.intercalate_singleton, List.flatMap_nil, List.append_nil]
  | cons second rest ih =>
      rw [List.intercalate_cons_cons, ih, List.flatMap_cons, List.append_assoc,
        List.singleton_append, List.cons_append]

section Array

variable {α : Type} {items : List α} {tokens : α → List Token} {value : α → Value}

theorem run_items (each : ∀ item ∈ items, Denotes (tokens item) (value item)) (read : List Value)
    (frames : List Frame) (rest : List Token) :
    run (.arrayAfter read :: frames) ((items.map tokens).flatMap (.comma :: ·) ++ rest) =
      run (.arrayAfter (read ++ items.map value) :: frames) rest := by
  induction items generalizing read with
  | nil => simp
  | cons item items ih =>
      obtain ⟨first, others⟩ := List.forall_mem_cons.mp each
      rw [List.map_cons, List.flatMap_cons, List.cons_append, List.cons_append, run_cons,
        List.append_assoc]
      have next : shift (.arrayAfter read :: frames) .comma =
          some (.arrayNext read :: frames) := rfl
      have delivered : deliver (value item) (.arrayNext read :: frames) =
          some (.arrayAfter (read ++ [value item]) :: frames) := rfl
      rw [next, Option.bind_some, first.run delivered, ih others, List.append_assoc]
      rfl

theorem denotes_array (each : ∀ item ∈ items, Denotes (tokens item) (value item)) :
    Denotes (.leftBracket :: ([Token.comma].intercalate (items.map tokens) ++ [.rightBracket]))
      (.array (items.map value)) := by
  intro frames frames' delivered
  have opened : shift frames .leftBracket = some (.arrayFirst :: frames) := by
    cases frames with
    | nil => rfl
    | cons frame rest => cases frame <;> rfl
  rw [run_cons, opened, Option.bind_some]
  cases items with
  | nil =>
      rw [List.map_nil, List.intercalate_nil, List.nil_append, run_cons]
      change (deliver (.array ([].map value)) frames).bind _ = _
      rw [delivered]
      rfl
  | cons item items =>
      obtain ⟨first, others⟩ := List.forall_mem_cons.mp each
      have begun : deliver (value item) (.arrayFirst :: frames) =
          some (.arrayAfter [value item] :: frames) := rfl
      rw [List.map_cons, intercalate_cons, List.append_assoc, first.run begun, run_items others,
        run_cons]
      change (deliver (.array (value item :: items.map value)) frames).bind _ = _
      rw [← List.map_cons, delivered]
      rfl

end Array

section Object

/-- A member as it is written, and its value. -/
structure Member where
  key : List ℕ
  tokens : List Token
  value : Value

def Member.written (member : Member) : List Token := .string member.key :: .colon :: member.tokens

def Member.pair (member : Member) : List ℕ × Value := (member.key, member.value)

theorem put_of_notMem {key : List ℕ} {value : Value} {members : List (List ℕ × Value)}
    (absent : key ∉ members.map Prod.fst) : put key value members = members ++ [(key, value)] := by
  induction members with
  | nil => rfl
  | cons member rest ih =>
      rw [List.map_cons, List.mem_cons, not_or] at absent
      rw [put, if_neg (Ne.symm absent.1), ih absent.2, List.cons_append]

variable {members : List Member}

theorem run_members (each : ∀ member ∈ members, Denotes member.tokens member.value)
    (read : List (List ℕ × Value))
    (distinct : (read.map Prod.fst ++ members.map Member.key).Nodup)
    (frames : List Frame) (rest : List Token) :
    run (.objectAfter read :: frames) ((members.map Member.written).flatMap (.comma :: ·) ++ rest) =
      run (.objectAfter (read ++ members.map Member.pair) :: frames) rest := by
  induction members generalizing read with
  | nil => simp
  | cons member members ih =>
      obtain ⟨first, others⟩ := List.forall_mem_cons.mp each
      have absent : member.key ∉ read.map Prod.fst := fun there =>
        (List.nodup_append.mp distinct).2.2 _ there _ List.mem_cons_self rfl
      rw [List.map_cons, List.flatMap_cons, List.cons_append, List.cons_append, run_cons,
        List.append_assoc]
      have named : (shift (.objectAfter read :: frames) .comma).bind (fun frames =>
          run frames (member.written ++
            ((members.map Member.written).flatMap (.comma :: ·) ++ rest))) =
          run (.objectValue read member.key :: frames) (member.tokens ++
            ((members.map Member.written).flatMap (.comma :: ·) ++ rest)) := rfl
      have delivered : deliver member.value (.objectValue read member.key :: frames) =
          some (.objectAfter (read ++ [member.pair]) :: frames) := by
        rw [deliver, put_of_notMem absent]
        rfl
      rw [named, first.run delivered, ih others, List.append_assoc]
      · rfl
      · rw [List.map_append, List.append_assoc]
        exact distinct

theorem denotes_object (each : ∀ member ∈ members, Denotes member.tokens member.value)
    (distinct : (members.map Member.key).Nodup) :
    Denotes (.leftBrace :: ([Token.comma].intercalate (members.map Member.written) ++
      [.rightBrace])) (.object (members.map Member.pair)) := by
  intro frames frames' delivered
  have opened : shift frames .leftBrace = some (.objectFirst :: frames) := by
    cases frames with
    | nil => rfl
    | cons frame rest => cases frame <;> rfl
  rw [run_cons, opened, Option.bind_some]
  cases members with
  | nil =>
      rw [List.map_nil, List.intercalate_nil, List.nil_append, run_cons]
      change (deliver (.object ([].map Member.pair)) frames).bind _ = _
      rw [delivered]
      rfl
  | cons member members =>
      obtain ⟨first, others⟩ := List.forall_mem_cons.mp each
      rw [List.map_cons, intercalate_cons, List.append_assoc]
      have named : run (.objectFirst :: frames) (member.written ++
          ((members.map Member.written).flatMap (.comma :: ·) ++ [.rightBrace])) =
          run (.objectValue [] member.key :: frames) (member.tokens ++
            ((members.map Member.written).flatMap (.comma :: ·) ++ [.rightBrace])) := rfl
      have begun : deliver member.value (.objectValue [] member.key :: frames) =
          some (.objectAfter [member.pair] :: frames) := rfl
      rw [named, first.run begun, run_members others [member.pair] distinct, run_cons]
      change (deliver (.object (member.pair :: members.map Member.pair)) frames).bind _ = _
      rw [← List.map_cons, delivered]
      rfl

end Object

/-- The text of a value. -/
theorem parse?_of_denotes {text : String} {tokens : List Token} {value : Value}
    (lexed : tokens? text.toList = some tokens) (denotes : Denotes tokens value) :
    parse? text = some value := by
  rw [parse?, lexed, Option.bind_some,
    denotes [.document] [.finished value] rfl, Option.bind_some]

end Proximity.Systems.JsonText
