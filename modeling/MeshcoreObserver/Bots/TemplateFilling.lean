import MeshcoreObserver.Bots.OwnReplies
import MeshcoreObserver.Nodes.NodeLookup

/-!
# Filling a template

A template is read as characters and `{word}` tokens, in one way only, and
`renderTemplate` fills its tokens one by one. `SuppliedValue` keeps apart what
`String` makes of a value and the value itself: a handler may leave a value
`null` or `undefined`, and `key in values` holds of it all the same, as it holds
of the names every object inherits. Those are the tokens that are filled with
something else than a supplied value.
-/

namespace MeshcoreObserver

inductive Segment where
  | char (char : Char)
  | token (word : Text)
  deriving DecidableEq, Repr

structure IsWord (word : Text) : Prop where
  nonempty : word ≠ []
  chars : ∀ char ∈ word, isWordChar char

def tokenText (word : Text) : Text := '{' :: (word ++ ['}'])

def BeginsToken (text : Text) : Prop :=
  ∃ word rest, IsWord word ∧ text = tokenText word ++ rest

/-- The one way to read a template from left to right. -/
inductive Segments : Text → List Segment → Prop
  | nil : Segments [] []
  | char {char template segments} (plain : ¬BeginsToken (char :: template))
      (rest : Segments template segments) : Segments (char :: template) (.char char :: segments)
  | token {word template segments} (isWord : IsWord word) (rest : Segments template segments) :
      Segments (tokenText word ++ template) (.token word :: segments)

/-- A template contains a token. -/
def TokenOf (template word : Text) : Prop :=
  IsWord word ∧ ∃ before after, template = before ++ (tokenText word ++ after)

def Segment.fill (value : Text → Option Text) : Segment → Text
  | .char letter => [letter]
  | .token word => (value word).getD (tokenText word)

/-- Every token of the template is replaced by its value if it has one, and nothing else. -/
def FilledWith (value : Text → Option Text) (template output : Text) : Prop :=
  ∃ segments, Segments template segments ∧ output = segments.flatMap (Segment.fill value)

theorem not_isWordChar_open : ¬isWordChar '{' := by decide

theorem not_isWordChar_close : ¬isWordChar '}' := by decide

/-- Where the word characters end is not a matter of choice. -/
theorem word_unique {key word rest tail : Text} (keyChars : ∀ char ∈ key, isWordChar char)
    (wordChars : ∀ char ∈ word, isWordChar char) (ends : ∀ char ∈ tail.head?, ¬isWordChar char)
    (same : key ++ tail = word ++ '}' :: rest) : key = word ∧ tail = '}' :: rest := by
  induction key generalizing word with
  | nil =>
      cases word with
      | nil => exact ⟨rfl, same⟩
      | cons char word =>
          rw [List.nil_append] at same
          subst tail
          exact absurd (wordChars char (by simp)) (ends char (by simp))
  | cons first key ih =>
      cases word with
      | nil =>
          simp only [List.cons_append, List.nil_append, List.cons.injEq] at same
          rw [same.1] at keyChars
          exact absurd (keyChars '}' (by simp)) not_isWordChar_close
      | cons char word =>
          simp only [List.cons_append, List.cons.injEq] at same
          simp only [List.forall_mem_cons] at keyChars wordChars
          rcases ih keyChars.2 wordChars.2 same.2 with ⟨rfl, tailSame⟩
          exact ⟨by rw [same.1], tailSame⟩

theorem tokenText_append (word rest : Text) :
    tokenText word ++ rest = '{' :: (word ++ '}' :: rest) := by
  simp [tokenText]

theorem not_beginsToken {char : Char} (other : char ≠ '{') (template : Text) :
    ¬BeginsToken (char :: template) := by
  rintro ⟨word, rest, _, same⟩
  rw [tokenText_append, List.cons.injEq] at same
  exact other same.1

/-- What has been read of a token ends with a character that neither closes nor continues it. -/
theorem not_beginsToken_opened {key tail : Text} (keyChars : ∀ char ∈ key, isWordChar char)
    (ends : ∀ char ∈ tail.head?, ¬isWordChar char) (notClosed : key ≠ [] → tail.head? ≠ some '}') :
    ¬BeginsToken ('{' :: (key ++ tail)) := by
  rintro ⟨word, rest, isWord, same⟩
  rw [tokenText_append, List.cons.injEq] at same
  rcases word_unique keyChars isWord.chars ends same.2 with ⟨rfl, closed⟩
  apply notClosed isWord.nonempty
  rw [closed]
  rfl

theorem token_unique {word other rest template : Text} (isWord : IsWord word)
    (otherWord : IsWord other) (same : tokenText word ++ rest = tokenText other ++ template) :
    word = other ∧ rest = template := by
  rw [tokenText_append, tokenText_append, List.cons.injEq] at same
  have ends : ∀ char ∈ ('}' :: rest).head?, ¬isWordChar char := by
    intro char charMem
    cases charMem
    exact not_isWordChar_close
  rcases word_unique isWord.chars otherWord.chars ends same.2 with ⟨rfl, closed⟩
  exact ⟨rfl, (List.cons.inj closed).2⟩

theorem Segments.unique {template : Text} {segments others : List Segment}
    (read : Segments template segments) (again : Segments template others) :
    segments = others := by
  induction read generalizing others with
  | nil => cases again with | nil => rfl
  | char plain rest ih =>
      rename_i char template segments
      generalize whole : char :: template = text at again plain
      cases again with
      | nil => cases whole
      | char _ restAgain =>
          cases whole
          rw [ih restAgain]
      | token isWord _ => exact absurd ⟨_, _, isWord, rfl⟩ plain
  | token isWord rest ih =>
      rename_i word template segments
      generalize whole : tokenText word ++ template = text at again
      cases again with
      | nil => cases whole
      | char plain _ => exact absurd ⟨_, _, isWord, whole.symm⟩ plain
      | token otherWord restAgain =>
          rcases token_unique isWord otherWord whole with ⟨rfl, rfl⟩
          rw [ih restAgain]

/-- The segments that the replacement finds. The first argument is what has been read of a token
behind its opening brace. -/
def segmentsFrom : Option Text → Text → List Segment
  | none, [] => []
  | some key, [] => .char '{' :: key.map .char
  | none, char :: template =>
      if char = '{' then segmentsFrom (some []) template
      else .char char :: segmentsFrom none template
  | some key, char :: template =>
      if char = '}' ∧ key ≠ [] then .token key :: segmentsFrom none template
      else if isWordChar char then segmentsFrom (some (key ++ [char])) template
      else if char = '{' then .char '{' :: (key.map .char ++ segmentsFrom (some []) template)
      else .char '{' :: (key.map .char ++ .char char :: segmentsFrom none template)

def openedText : Option Text → Text
  | none => []
  | some key => '{' :: key

theorem Segments.chars {key template : Text} {segments : List Segment}
    (keyChars : ∀ char ∈ key, isWordChar char) (rest : Segments template segments) :
    Segments (key ++ template) (key.map .char ++ segments) := by
  induction key with
  | nil => exact rest
  | cons char key ih =>
      rw [List.forall_mem_cons] at keyChars
      apply Segments.char
      · apply not_beginsToken
        rintro rfl
        exact not_isWordChar_open keyChars.1
      · exact ih keyChars.2

theorem Segments.opened {key tail : Text} {segments : List Segment}
    (keyChars : ∀ char ∈ key, isWordChar char) (ends : ∀ char ∈ tail.head?, ¬isWordChar char)
    (notClosed : key ≠ [] → tail.head? ≠ some '}') (rest : Segments tail segments) :
    Segments ('{' :: (key ++ tail)) (.char '{' :: (key.map .char ++ segments)) :=
  .char (not_beginsToken_opened keyChars ends notClosed) (.chars keyChars rest)

theorem segments_segmentsFrom (template : Text) (key : Option Text)
    (keyChars : ∀ word ∈ key, ∀ char ∈ word, isWordChar char) :
    Segments (openedText key ++ template) (segmentsFrom key template) := by
  induction template generalizing key with
  | nil =>
      cases key with
      | none => exact .nil
      | some key =>
          have ends : ∀ char ∈ ([] : Text).head?, ¬isWordChar char := by simp
          have read := Segments.opened (keyChars key rfl) ends (by simp) .nil
          simp only [List.append_nil] at read ⊢
          exact read
  | cons char template ih =>
      cases key with
      | none =>
          simp only [segmentsFrom]
          split
          · rename_i opens
            subst char
            exact ih (some []) (by simp)
          · rename_i other
            exact .char (not_beginsToken other template) (ih none (by simp))
      | some key =>
          have known := keyChars key rfl
          simp only [segmentsFrom, openedText, List.cons_append]
          split
          · rename_i closes
            rcases closes with ⟨rfl, nonempty⟩
            rw [← tokenText_append]
            exact .token ⟨nonempty, known⟩ (ih none (by simp))
          · rename_i notClosed
            have apart : key ≠ [] → (char :: template).head? ≠ some '}' := by
              intro nonempty closed
              exact notClosed ⟨Option.some.inj closed, nonempty⟩
            split
            · rename_i isChar
              have longer : ∀ word ∈ some (key ++ [char]), ∀ char ∈ word, isWordChar char := by
                intro word wordMem other otherMem
                cases wordMem
                rcases List.mem_append.mp otherMem with old | new
                · exact known other old
                · rw [List.mem_singleton.mp new]
                  exact isChar
              have read := ih (some (key ++ [char])) longer
              simpa [openedText] using read
            · rename_i notChar
              have ends : ∀ other ∈ (char :: template).head?, ¬isWordChar other := by
                intro other otherMem
                cases otherMem
                exact notChar
              split
              · rename_i opens
                subst char
                exact .opened known ends apart (ih (some []) (by simp))
              · rename_i other
                exact .opened known ends apart
                  (.char (not_beginsToken other template) (ih none (by simp)))

theorem flatMap_fill_chars (value : Text → Option Text) (key : Text) :
    (key.map Segment.char).flatMap (Segment.fill value) = key := by
  induction key with
  | nil => rfl
  | cons char key ih =>
      simp only [List.map_cons, List.flatMap_cons, ih]
      rfl

theorem fillTemplate_eq (values : TemplateValues) (key : Option Text) (template : Text) :
    fillTemplate values key template =
      (segmentsFrom key template).flatMap (Segment.fill (lookupValue values)) := by
  induction template generalizing key with
  | nil =>
      cases key with
      | none => rfl
      | some key =>
          simp only [fillTemplate, segmentsFrom, List.flatMap_cons, flatMap_fill_chars]
          rfl
  | cons char template ih =>
      cases key with
      | none =>
          simp only [fillTemplate, segmentsFrom]
          split
          · exact ih (some [])
          · rw [ih none]
            rfl
      | some key =>
          simp only [fillTemplate, segmentsFrom]
          split
          · rw [ih none]
            rfl
          · split
            · exact ih (some (key ++ [char]))
            · split
              · rw [ih (some [])]
                simp [Segment.fill, flatMap_fill_chars]
              · rw [ih none]
                simp [Segment.fill, flatMap_fill_chars]

/-- `renderTemplate` fills the tokens of the template, and nothing else, with the values it looks
up. -/
theorem filledWith_renderTemplate (template : Text) (values : TemplateValues) :
    FilledWith (lookupValue values) template (renderTemplate template values) :=
  ⟨segmentsFrom none template, segments_segmentsFrom template none (by simp),
    fillTemplate_eq values none template⟩

theorem open_mem_tokenText {word before after : Text} (isWord : IsWord word)
    (split : tokenText word = before ++ '{' :: after) : before = [] := by
  cases before with
  | nil => rfl
  | cons first before =>
      simp only [tokenText, List.cons_append, List.cons.injEq] at split
      have opens : '{' ∈ word ++ ['}'] := by
        rw [split.2]
        simp
      rcases List.mem_append.mp opens with inside | last
      · exact absurd (isWord.chars '{' inside) not_isWordChar_open
      · cases List.mem_singleton.mp last

theorem tokenOf_cons {char : Char} {template word : Text}
    (plain : ¬BeginsToken (char :: template)) :
    TokenOf (char :: template) word ↔ TokenOf template word := by
  constructor
  · rintro ⟨isWord, before, after, whole⟩
    cases before with
    | nil => exact absurd ⟨word, after, isWord, whole⟩ plain
    | cons first before => exact ⟨isWord, before, after, (List.cons.inj whole).2⟩
  · rintro ⟨isWord, before, after, rfl⟩
    exact ⟨isWord, char :: before, after, rfl⟩

theorem tokenOf_token {word template other : Text} (isWord : IsWord word) :
    TokenOf (tokenText word ++ template) other ↔ other = word ∨ TokenOf template other := by
  constructor
  · rintro ⟨otherWord, before, after, whole⟩
    rcases List.append_eq_append_iff.mp whole with ⟨between, rfl, tail⟩ | ⟨between, front, tail⟩
    · exact .inr ⟨otherWord, between, after, tail⟩
    · cases between with
      | nil =>
          rw [List.nil_append] at tail
          exact .inr ⟨otherWord, [], after, tail.symm⟩
      | cons first between =>
          have opens : first = '{' := by
            rw [tokenText_append, List.cons_append, List.cons.injEq] at tail
            exact tail.1.symm
          subst first
          have start := open_mem_tokenText isWord front
          subst before
          rw [List.nil_append] at whole
          exact .inl (token_unique isWord otherWord whole).1.symm
  · rintro (rfl | ⟨otherWord, before, after, rfl⟩)
    · exact ⟨isWord, [], template, rfl⟩
    · exact ⟨otherWord, tokenText word ++ before, after, by rw [List.append_assoc]⟩

theorem mem_segments {template word : Text} {segments : List Segment}
    (read : Segments template segments) :
    .token word ∈ segments ↔ TokenOf template word := by
  induction read with
  | nil =>
      constructor
      · intro tokenMem
        cases tokenMem
      · rintro ⟨_, before, after, whole⟩
        simp [tokenText] at whole
  | char plain rest ih => simp only [tokenOf_cons plain, List.mem_cons, reduceCtorEq, false_or, ih]
  | token isWord rest ih =>
      simp only [tokenOf_token isWord, List.mem_cons, Segment.token.injEq, ih]

/-- Two ways to fill the tokens agree on a template where they agree on its tokens, and nowhere
else if what one of them fills in does not begin like a token. -/
theorem fill_eq_iff {value other : Text → Option Text} (segments : List Segment)
    (apart : ∀ word, value word = other word ∨
      other word = none ∧ ∃ first rest, value word = some (first :: rest) ∧ first ≠ '{') :
    segments.flatMap (Segment.fill value) = segments.flatMap (Segment.fill other) ↔
      ∀ word, .token word ∈ segments → value word = other word := by
  induction segments with
  | nil => simp
  | cons segment segments ih =>
      cases segment with
      | char char => simp [Segment.fill, ih]
      | token word =>
          simp only [List.flatMap_cons, Segment.fill, List.mem_cons, Segment.token.injEq,
            forall_eq_or_imp]
          rcases apart word with same | ⟨missing, first, rest, filled, begins⟩
          · rw [same, List.append_cancel_left_eq, ih]
            exact (and_iff_right rfl).symm
          · rw [missing, filled]
            simp [tokenText, begins]

/-- What a property of a values object holds. -/
inductive SuppliedValue where
  | undefined
  | null
  | given (text : Text)
  deriving DecidableEq, Repr

namespace SuppliedValue

/-- `String(value)`. -/
def string : SuppliedValue → Text
  | .undefined => "undefined".toList
  | .null => "null".toList
  | .given text => text

def text? : SuppliedValue → Option Text
  | .given text => some text
  | _ => none

@[simp] theorem string_given (text : Text) : (given text).string = text := rfl

def ofOption : Option Text → SuppliedValue
  | some text => .given text
  | none => .null

end SuppliedValue

abbrev SuppliedValues := List (Text × SuppliedValue)

namespace SuppliedValues

def strings (values : SuppliedValues) : TemplateValues :=
  values.map fun value => (value.1, value.2.string)

def find? (values : SuppliedValues) (word : Text) : Option SuppliedValue :=
  (List.find? (fun value => value.1 = word) values).map Prod.snd

/-- The text of a value that is supplied and neither undefined nor null. -/
def text? (values : SuppliedValues) (word : Text) : Option Text :=
  (values.find? word).bind SuppliedValue.text?

/-- `key in values` holds of a word for which no text is supplied. -/
def Misfills (values : SuppliedValues) (word : Text) : Prop :=
  values.find? word = some .undefined ∨ values.find? word = some .null ∨
    values.find? word = none ∧ (inheritedValue word).isSome

end SuppliedValues

theorem lookupValue_strings (values : SuppliedValues) (word : Text) :
    lookupValue values.strings word =
      match values.find? word with
      | some value => some value.string
      | none => inheritedValue word := by
  simp only [lookupValue, SuppliedValues.strings, SuppliedValues.find?, List.find?_map,
    Function.comp_def]
  cases List.find? (fun value => decide (value.1 = word)) values with
  | none => rfl
  | some value => rfl

theorem inheritedValue_begins {word text : Text} (inherited : inheritedValue word = some text) :
    ∃ first rest, text = first :: rest ∧ first ≠ '{' := by
  simp only [inheritedValue] at inherited
  split at inherited
  · cases inherited
    exact ⟨'f', _, rfl, by decide⟩
  · split at inherited
    · cases inherited
      exact ⟨'[', _, rfl, by decide⟩
    · split at inherited
      · cases inherited
        exact ⟨'f', _, rfl, by decide⟩
      · cases inherited

theorem misfills_iff (values : SuppliedValues) (word : Text) :
    values.Misfills word ↔
      values.text? word = none ∧
        ∃ first rest, lookupValue values.strings word = some (first :: rest) ∧ first ≠ '{' := by
  rw [lookupValue_strings]
  simp only [SuppliedValues.Misfills, SuppliedValues.text?]
  cases values.find? word with
  | none =>
      simp only [reduceCtorEq, true_and, false_or, Option.bind_none]
      constructor
      · intro inherited
        rcases Option.isSome_iff_exists.mp inherited with ⟨text, found⟩
        rcases inheritedValue_begins found with ⟨first, rest, rfl, begins⟩
        exact ⟨first, rest, found, begins⟩
      · rintro ⟨first, rest, found, _⟩
        rw [found]
        rfl
  | some value =>
      cases value with
      | undefined =>
          constructor
          · intro _
            exact ⟨rfl, 'u', _, rfl, by decide⟩
          · intro _
            exact .inl rfl
      | null =>
          constructor
          · intro _
            exact ⟨rfl, 'n', _, rfl, by decide⟩
          · intro _
            exact .inr (.inl rfl)
      | given text => simp [SuppliedValue.text?]

theorem lookupValue_of_not_misfills {values : SuppliedValues} {word : Text}
    (fills : ¬values.Misfills word) : lookupValue values.strings word = values.text? word := by
  rw [lookupValue_strings]
  simp only [SuppliedValues.Misfills, not_or, not_and] at fills
  simp only [SuppliedValues.text?]
  cases found : values.find? word with
  | none =>
      have absent := fills.2.2 found
      rw [Bool.not_eq_true, Option.isSome_eq_false_iff, Option.isNone_iff_eq_none] at absent
      exact absent
  | some value =>
      cases value with
      | undefined => exact absurd found fills.1
      | null => exact absurd found fills.2.1
      | given text => rfl

/-- `renderTemplate` fills exactly the supplied values in if no token is misfilled, and only
then. -/
theorem filledExactly_iff (values : SuppliedValues) (template : Text) :
    FilledWith values.text? template (renderTemplate template values.strings) ↔
      ∀ word, TokenOf template word → ¬values.Misfills word := by
  rcases filledWith_renderTemplate template values.strings with ⟨segments, read, rendered⟩
  have agree : segments.flatMap (Segment.fill (lookupValue values.strings)) =
      segments.flatMap (Segment.fill values.text?) ↔
        ∀ word, .token word ∈ segments → lookupValue values.strings word = values.text? word := by
    apply fill_eq_iff
    intro word
    by_cases misfills : values.Misfills word
    · exact .inr ((misfills_iff values word).mp misfills)
    · exact .inl (lookupValue_of_not_misfills misfills)
  have exactly : FilledWith values.text? template (renderTemplate template values.strings) ↔
      renderTemplate template values.strings =
        segments.flatMap (Segment.fill values.text?) := by
    constructor
    · rintro ⟨others, again, filled⟩
      rw [read.unique again]
      exact filled
    · intro filled
      exact ⟨segments, read, filled⟩
  rw [exactly, rendered, agree]
  apply forall_congr'
  intro word
  rw [mem_segments read]
  apply imp_congr_right
  intro _
  constructor
  · intro same misfills
    rcases (misfills_iff values word).mp misfills with ⟨missing, first, rest, filled, _⟩
    rw [same, missing] at filled
    cases filled
  · exact lookupValue_of_not_misfills

/-- The values of `execute` for a lookup, before `String` is applied to them. -/
def lookupValues (registry : NodeRegistry) (query : Text) (now : Int) : SuppliedValues :=
  if query = [] then [("query".toList, .given query)]
  else
    let result := registry.findByPrefix query
    let normalized := result.query.getD query
    let nodePrefix :=
      if result.status = .found ∧ Text.utf16Length query < 4 then
        ((result.node.bind RegistryNode.publicKeyHex).map (List.take 4)).getD normalized
      else normalized
    [("query".toList, .given query),
      ("name".toList, .ofOption (result.node.bind RegistryNode.name)),
      ("matchCount".toList, .ofOption (result.matchCount.map fun count => Text.ofInt count)),
      ("lastHeard".toList,
        .given (formatRelativeAge (result.node.bind RegistryNode.lastHeardAt) now)),
      ("nodePrefix".toList, .given nodePrefix),
      ("repeaterCount".toList,
        if result.status = .notFound then .given (Text.ofInt registry.countRepeaters)
        else .undefined)]

def handlerValues (runtime : BotRuntime) (registry : NodeRegistry) (reporter : StatsReporter)
    (command : CommandConfig) (state : HandlerState) (now : Int) : SuppliedValues :=
  match command.kindOrExact with
  | .exact => []
  | .lookup => lookupValues registry (state.query.getD []) now
  | .stats =>
      (executeStats runtime.toLowerCase reporter command (state.query.getD []) now).values.map
        fun value => (value.1, .given value.2)

/-- The values that `sendQueuedReply` adds to those of the handler. -/
def itemValues (item : QueuedReply) : TemplateValues :=
  [("sender".toList, item.sender), ("hopCount".toList, Text.ofInt item.hopCount),
    ("path".toList, item.path), ("trigger".toList, item.trigger), ("hash".toList, item.hash)]

def suppliedValues (runtime : BotRuntime) (registry : NodeRegistry) (reporter : StatsReporter)
    (command : CommandConfig) (state : HandlerState) (item : QueuedReply) (now : Int) :
    SuppliedValues :=
  handlerValues runtime registry reporter command state now ++
    (itemValues item).map fun value => (value.1, .given value.2)

theorem strings_given (values : TemplateValues) :
    SuppliedValues.strings (values.map fun value => (value.1, .given value.2)) = values := by
  rw [SuppliedValues.strings, List.map_map]
  exact List.map_id values

theorem string_ofOption (value : Option Text) :
    (SuppliedValue.ofOption value).string = textOrNull value := by
  cases value with
  | none => rfl
  | some text => rfl

theorem strings_lookupValues (registry : NodeRegistry) (command : CommandConfig) (query : Text)
    (now : Int) :
    (lookupValues registry query now).strings =
      (executeLookup registry command query now).values := by
  simp only [lookupValues, executeLookup]
  split
  · rfl
  · simp only [SuppliedValues.strings, List.map_cons, List.map_nil, string_ofOption,
      SuppliedValue.string_given, apply_ite SuppliedValue.string]
    rfl

theorem strings_handlerValues (runtime : BotRuntime) (registry : NodeRegistry)
    (reporter : StatsReporter) (command : CommandConfig) (state : HandlerState) (now : Int) :
    (handlerValues runtime registry reporter command state now).strings =
      (ChannelBot.execute runtime registry reporter command state now).values := by
  simp only [handlerValues, ChannelBot.execute]
  cases command.kindOrExact with
  | exact => rfl
  | lookup => exact strings_lookupValues registry command _ now
  | stats => exact strings_given _

theorem strings_suppliedValues (runtime : BotRuntime) (registry : NodeRegistry)
    (reporter : StatsReporter) (command : CommandConfig) (state : HandlerState)
    (item : QueuedReply) (now : Int) :
    (suppliedValues runtime registry reporter command state item now).strings =
      (ChannelBot.execute runtime registry reporter command state now).values ++
        itemValues item := by
  rw [← strings_handlerValues, ← strings_given (itemValues item)]
  simp only [suppliedValues, SuppliedValues.strings, List.map_append]

/-- A template is filled exactly with what a handler and `sendQueuedReply` supply if and only if
none of its tokens is misfilled. -/
theorem reply_filledExactly_iff (runtime : BotRuntime) (registry : NodeRegistry)
    (reporter : StatsReporter) (command : CommandConfig) (state : HandlerState)
    (item : QueuedReply) (now : Int) (template : Text) :
    FilledWith (suppliedValues runtime registry reporter command state item now).text? template
        (renderTemplate template
          ((ChannelBot.execute runtime registry reporter command state now).values ++
            itemValues item)) ↔
      ∀ word, TokenOf template word →
        ¬(suppliedValues runtime registry reporter command state item now).Misfills word := by
  rw [← strings_suppliedValues]
  exact filledExactly_iff _ template

/-- A lookup command whose every response shows the name of the node. -/
def nameCommand : CommandConfig :=
  { trigger := "!lookup".toList
    kind := some .lookup
    response := none
    overflowResponse := none
    foundResponse := some (tokenText "name".toList)
    notFoundResponse := some (tokenText "name".toList)
    ambiguousResponse := some (tokenText "name".toList)
    invalidResponse := some (tokenText "query".toList)
    usageResponse := none }

def nameReply : QueuedReply :=
  { botName := "bot".toList
    channel := "#test".toList
    trigger := "!lookup".toList
    sender := "Ann".toList
    hopCount := 1
    path := "E8".toList
    hash := "00".toList
    handlerState := ⟨.lookup, some "e8".toList⟩ }

/-- A lookup that finds nothing leaves the name null, and its response shows that. -/
theorem nullName_filled :
    ¬∀ (runtime : BotRuntime) (registry : NodeRegistry) (reporter : StatsReporter)
        (command : CommandConfig) (state : HandlerState) (item : QueuedReply) (now : Int)
        (template : Text),
      FilledWith (suppliedValues runtime registry reporter command state item now).text? template
        (renderTemplate template
          ((ChannelBot.execute runtime registry reporter command state now).values ++
            itemValues item)) := by
  intro filled
  have chars : "name".toList.all isWordChar = true := rfl
  have token : TokenOf (tokenText "name".toList) "name".toList :=
    ⟨⟨by simp, List.all_eq_true.mp chars⟩, [], [], rfl⟩
  have exactly := filled echoRuntime (registryOf []) ⟨none, fun _ => []⟩ nameCommand
    nameReply.handlerState nameReply 0 (tokenText "name".toList)
  rw [← strings_suppliedValues] at exactly
  have isNull : (suppliedValues echoRuntime (registryOf []) ⟨none, fun _ => []⟩ nameCommand
      nameReply.handlerState nameReply 0).find? "name".toList = some .null := by
    decide
  exact (filledExactly_iff _ _).mp exactly _ token (.inr (.inl isNull))

end MeshcoreObserver
