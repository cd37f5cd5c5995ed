import MeshcoreObserver.Bots.MatchedReplies
import MeshcoreObserver.CaseMapping
import MeshcoreObserver.Metrics.PacketHistory

/-!
# Ranges of the stats command

The stats command takes the tokens of `STATS_RANGE_TOKENS` in any case and
answers every other argument with its usage. The token table is an ordinary
object, so an argument that is spelled like one of the two inherited properties
without capitals is looked up as well, and resolves to a window that begins at
no number.
-/

namespace MeshcoreObserver

def statsRangeTokens : List Text := rangeDurationsMs.map Prod.fst ++ ["all".toList]

/-- The inherited properties that a lower-cased argument can be named like. -/
def inheritedTokens : List Text := ["constructor".toList, "__proto__".toList]

/-- The stats command a text is meant for, and its argument. -/
def statsArgument (commands : List CommandConfig) (text : Text) : Option (CommandConfig × Text) :=
  (commands.filter fun command => command.kind = some .stats).findSome? fun command =>
    (queryAfter command.trigger text).map fun argument => (command, argument)

/-- `match` of the stats handler, and `restore` and `execute` with the text that is queued. -/
def statsAnswer (toLowerCase : Text → Text) (reporter : StatsReporter)
    (commands : List CommandConfig) (text : Text) (now : Int) :
    Except Text (Option ActionResult) :=
  match matchStats commands text with
  | .error error => .error error
  | .ok none => .ok none
  | .ok (some found) =>
      match restoreSerialized .stats (some found.state.json) with
      | .error error => .error error
      | .ok data =>
          .ok (some (executeStats toLowerCase reporter found.command ((queryOf data).getD []) now))

/-- `serialize` accepts the state with an argument. -/
def StateFits (argument : Text) : Prop :=
  (HandlerState.json ⟨.stats, some argument⟩).utf8.length ≤ maxHandlerStateBytes

instance StateFits.decidable (argument : Text) : Decidable (StateFits argument) :=
  inferInstanceAs (Decidable (_ ≤ _))

def usageAnswer (command : CommandConfig) (argument : Text) : ActionResult :=
  { template := command.usageResponse, overflowTemplate := none
    values := [("query".toList, argument)] }

def rangeAnswer (reporter : StatsReporter) (command : CommandConfig) (argument : Text)
    (start now : Int) : ActionResult :=
  { template := command.response, overflowTemplate := command.overflowResponse
    values := reporter.summarize ⟨some start, now⟩ ++ [("range".toList, argument)] }

section Answers

variable (toLowerCase : Text → Text) (reporter : StatsReporter) (commands : List CommandConfig)
  (text : Text) (now : Int) (command : CommandConfig) (argument : Text)

/-- The answer summarises the window from a start to now. -/
structure AnswersFrom (start : Int) : Prop where
  ordered : start ≤ now
  resolved : resolveStatsRange toLowerCase argument now reporter.earliestSampleAt =
    some ⟨some start, now⟩
  answer : statsAnswer toLowerCase reporter commands text now =
    .ok (some (rangeAnswer reporter command argument start now))

/-- The argument is taken as a range exactly when it is one. A state that is too large to be queued
is refused when it is matched. -/
structure TakesRangeTokens : Prop where
  durations : ∀ range ∈ rangeDurationsMs, SameIgnoringCase argument range.1 →
    AnswersFrom toLowerCase reporter commands text now command argument (now - range.2)
  all : SameIgnoringCase argument "all".toList →
    AnswersFrom toLowerCase reporter commands text now command argument
      (reporter.earliestSampleAt.getD now)
  others : (∀ token ∈ statsRangeTokens, ¬SameIgnoringCase argument token) →
    resolveStatsRange toLowerCase argument now reporter.earliestSampleAt = none ∧
      statsAnswer toLowerCase reporter commands text now =
        if StateFits argument then .ok (some (usageAnswer command argument))
        else .error "command handler state exceeds the maximum serialized size".toList

end Answers

section Resolving

variable (mapping : CaseMapping) {argument : Text} (now : Int) (earliestSampleAt : Option Int)

theorem toLowerCase_eq_token {token : Text}
    (tokenMem : token ∈ statsRangeTokens ++ inheritedTokens) :
    mapping.toLowerCase argument = token ↔ SameIgnoringCase argument token := by
  have plain : ∀ token ∈ statsRangeTokens ++ inheritedTokens, token.all fun char =>
      IsAscii char ∧ char ≠ 'i' ∧ char ≠ 'k' ∧ char.toLower = char := by decide
  apply mapping.toLowerCase_eq_iff
  intro char charMem
  exact of_decide_eq_true (List.all_eq_true.mp (plain token tokenMem) char charMem)

theorem ne_nil_of_sameIgnoringCase {token : Text}
    (tokenMem : token ∈ statsRangeTokens ++ inheritedTokens)
    (same : SameIgnoringCase argument token) : argument ≠ [] := by
  have nonempty : ∀ token ∈ statsRangeTokens ++ inheritedTokens, token ≠ [] := by decide
  rintro rfl
  exact nonempty token tokenMem (List.map_eq_nil_iff.mp same.symm)

/-- A lower-cased argument has no capitals, and all but two inherited names have one. -/
theorem inheritedValue_toLowerCase :
    inheritedValue (mapping.toLowerCase argument) ≠ none ↔
      ∃ token ∈ inheritedTokens, SameIgnoringCase argument token := by
  have known : ∀ token ∈ inheritedTokens,
      (mapping.toLowerCase argument = token ↔ SameIgnoringCase argument token) :=
    fun token tokenMem => toLowerCase_eq_token mapping (List.mem_append_right _ tokenMem)
  have capitals : ∀ name ∈ prototypeMethods, name.any Char.isUpper = true := by decide
  constructor
  · intro inherited
    by_cases constructor : mapping.toLowerCase argument = "constructor".toList
    · exact ⟨_, List.mem_cons_self, (known _ List.mem_cons_self).mp constructor⟩
    · by_cases proto : mapping.toLowerCase argument = "__proto__".toList
      · have protoMem : "__proto__".toList ∈ inheritedTokens := by decide
        exact ⟨_, protoMem, (known _ protoMem).mp proto⟩
      · by_cases method : mapping.toLowerCase argument ∈ prototypeMethods
        · rcases List.any_eq_true.mp (capitals _ method) with ⟨char, charMem, isUpper⟩
          rw [mapping.not_isUpper_of_mem_toLowerCase charMem] at isUpper
          cases isUpper
        · refine absurd ?_ inherited
          rw [inheritedValue, if_neg constructor, if_neg proto,
            if_neg (by rwa [List.contains_iff_mem])]
  · rintro ⟨token, tokenMem, same⟩
    rw [(known token tokenMem).mpr same]
    have inherited : ∀ token ∈ inheritedTokens, inheritedValue token ≠ none := by decide
    exact inherited token tokenMem

theorem resolveStatsRange_all (same : SameIgnoringCase argument "all".toList) :
    resolveStatsRange mapping.toLowerCase argument now earliestSampleAt =
      some ⟨some (earliestSampleAt.getD now), now⟩ := by
  have tokenMem : "all".toList ∈ statsRangeTokens ++ inheritedTokens := by decide
  have lowered := (toLowerCase_eq_token mapping tokenMem).mpr same
  rw [resolveStatsRange, if_neg (ne_nil_of_sameIgnoringCase tokenMem same)]
  simp only [lowered, if_true]

theorem resolveStatsRange_duration {range : Text × Int} (rangeMem : range ∈ rangeDurationsMs)
    (same : SameIgnoringCase argument range.1) :
    resolveStatsRange mapping.toLowerCase argument now earliestSampleAt =
      some ⟨some (now - range.2), now⟩ := by
  have tokenMem : range.1 ∈ statsRangeTokens ++ inheritedTokens :=
    List.mem_append_left _ (List.mem_append_left _ (List.mem_map_of_mem rangeMem))
  have lowered := (toLowerCase_eq_token mapping tokenMem).mpr same
  have notAll : ∀ range ∈ rangeDurationsMs, range.1 ≠ "all".toList := by decide
  have found : ∀ range ∈ rangeDurationsMs,
      (rangeDurationsMs.find? fun other => other.1 = range.1) = some range := by decide
  rw [resolveStatsRange, if_neg (ne_nil_of_sameIgnoringCase tokenMem same)]
  simp only [lowered, if_neg (notAll range rangeMem), found range rangeMem]

/-- What is no token is looked up among the inherited properties. -/
theorem resolveStatsRange_other
    (others : ∀ token ∈ statsRangeTokens, ¬SameIgnoringCase argument token) :
    resolveStatsRange mapping.toLowerCase argument now earliestSampleAt = none ↔
      ∀ token ∈ inheritedTokens, ¬SameIgnoringCase argument token := by
  have apart : ∀ token ∈ statsRangeTokens, mapping.toLowerCase argument ≠ token := by
    intro token tokenMem same
    exact others token tokenMem
      ((toLowerCase_eq_token mapping (List.mem_append_left _ tokenMem)).mp same)
  have notAll := apart "all".toList (by decide)
  have unknown : (rangeDurationsMs.find? fun range => range.1 = mapping.toLowerCase argument) =
      none := by
    rw [List.find?_eq_none]
    intro range rangeMem same
    rw [decide_eq_true_eq] at same
    exact apart range.1 (List.mem_append_left _ (List.mem_map_of_mem rangeMem)) same.symm
  have inherited : _ ↔ ∃ token ∈ inheritedTokens, SameIgnoringCase argument token :=
    inheritedValue_toLowerCase mapping
  by_cases empty : argument = []
  · rw [resolveStatsRange, if_pos empty]
    refine iff_of_true rfl ?_
    intro token tokenMem same
    exact ne_nil_of_sameIgnoringCase (List.mem_append_right _ tokenMem) same empty
  · rw [resolveStatsRange, if_neg empty]
    simp only [if_neg notAll, unknown, Option.map_eq_none_iff]
    rw [← not_iff_not, ← ne_eq, inherited]
    push Not
    rfl

end Resolving

section Answering

variable (toLowerCase : Text → Text) (reporter : StatsReporter) {commands : List CommandConfig}
  {text : Text} (now : Int) {command : CommandConfig} {argument : Text}

theorem matchStats_of_statsArgument
    (matched : statsArgument commands text = some (command, argument)) :
    matchStats commands text =
      (HandlerState.serialize ⟨.stats, some argument⟩).map fun state => some ⟨command, state⟩ := by
  rw [matchStats]
  induction commands with
  | nil => cases matched
  | cons first commands ih =>
      rw [statsArgument] at matched ih
      by_cases stats : first.kind = some .stats
      · rw [List.filter_cons_of_pos (by rwa [decide_eq_true_eq]), List.findSome?_cons] at matched
        simp only [matchQuery, if_pos stats]
        cases behind : queryAfter first.trigger text with
        | none =>
            rw [behind] at matched
            exact ih matched
        | some query =>
            rw [behind] at matched
            cases matched
            rfl
      · rw [List.filter_cons_of_neg (by rwa [decide_eq_true_eq])] at matched
        simp only [matchQuery, if_neg stats]
        exact ih matched

/-- The argument is read back from the state that was queued. -/
theorem statsAnswer_eq (matched : statsArgument commands text = some (command, argument)) :
    statsAnswer toLowerCase reporter commands text now =
      if StateFits argument then
        .ok (some (executeStats toLowerCase reporter command argument now))
      else .error "command handler state exceeds the maximum serialized size".toList := by
  rw [statsAnswer, matchStats_of_statsArgument matched, HandlerState.serialize]
  by_cases fits : StateFits argument
  · have small := Nat.not_lt.mpr fits
    have data : restoreSerialized .stats (some (HandlerState.json ⟨.stats, some argument⟩)) =
        .ok (HandlerState.data ⟨.stats, some argument⟩) := by
      rw [HandlerState.restoreSerialized_json, HandlerState.restore, if_neg small,
        if_pos ⟨rfl, by simp⟩]
      rfl
    simp only [if_neg small, if_pos fits, Except.map, data, HandlerState.queryOf_data,
      Option.getD_some]
  · have large := Nat.not_le.mp fits
    simp only [if_pos large, if_neg fits, Except.map]

theorem utf16Length_le_two_mul (text : Text) : text.utf16Length ≤ 2 * text.length := by
  induction text with
  | nil => exact Nat.le_refl 0
  | cons char text ih =>
      simp only [Text.utf16Length, List.length_cons]
      split
      · omega
      · omega

/-- A token has at most three letters. -/
theorem StateFits.of_token {token : Text} (tokenMem : token ∈ statsRangeTokens)
    (same : SameIgnoringCase argument token) : StateFits argument := by
  have three : ∀ token ∈ statsRangeTokens, token.length ≤ 3 := by decide
  have lengths := congrArg List.length same
  rw [List.length_map, List.length_map] at lengths
  have short := three token tokenMem
  have units := utf16Length_le_two_mul argument
  apply HandlerState.small
  rintro _ ⟨⟩
  omega

end Answering

section Mapped

variable {mapping : CaseMapping} {reporter : StatsReporter} {commands : List CommandConfig}
  {text : Text} {now : Int} {command : CommandConfig} {argument : Text}

theorem AnswersFrom.of_resolved (matched : statsArgument commands text = some (command, argument))
    {start : Int} (ordered : start ≤ now) (fits : StateFits argument)
    (resolved : resolveStatsRange mapping.toLowerCase argument now reporter.earliestSampleAt =
      some ⟨some start, now⟩) :
    AnswersFrom mapping.toLowerCase reporter commands text now command argument start where
  ordered := ordered
  resolved := resolved
  answer := by
    rw [statsAnswer_eq _ _ _ matched, if_pos fits, executeStats, resolved]
    rfl

/-- The stats command takes its range tokens and no others, unless the argument is named like an
inherited property. -/
theorem takesRangeTokens_iff (mapping : CaseMapping) (reporter : StatsReporter)
    (commands : List CommandConfig) (text : Text) (now : Int) (command : CommandConfig)
    (argument : Text) (sampled : ∀ earliest ∈ reporter.earliestSampleAt, earliest ≤ now)
    (matched : statsArgument commands text = some (command, argument)) :
    TakesRangeTokens mapping.toLowerCase reporter commands text now command argument ↔
      ∀ name ∈ inheritedTokens, ¬SameIgnoringCase argument name := by
  constructor
  · intro takes name nameMem same
    have others : ∀ token ∈ statsRangeTokens, ¬SameIgnoringCase argument token := by
      intro token tokenMem also
      have apart : ∀ token ∈ statsRangeTokens, ∀ name ∈ inheritedTokens,
          ¬SameIgnoringCase token name := by decide
      exact apart token tokenMem name nameMem (also.symm.trans same)
    have unknown := (takes.others others).1
    exact (resolveStatsRange_other mapping now _ others).mp unknown name nameMem same
  · intro foreign
    constructor
    · intro range rangeMem same
      have positive : ∀ range ∈ rangeDurationsMs, 0 ≤ range.2 := by decide
      have duration := positive range rangeMem
      have tokenMem : range.1 ∈ statsRangeTokens :=
        List.mem_append_left _ (List.mem_map_of_mem rangeMem)
      apply AnswersFrom.of_resolved matched
      · omega
      · exact StateFits.of_token tokenMem same
      · exact resolveStatsRange_duration mapping now _ rangeMem same
    · intro same
      apply AnswersFrom.of_resolved matched
      · cases earliest : reporter.earliestSampleAt with
        | none => exact Int.le_refl now
        | some earliestAt => exact sampled earliestAt earliest
      · exact StateFits.of_token (by decide) same
      · exact resolveStatsRange_all mapping now _ same
    · intro others
      have unknown := (resolveStatsRange_other mapping now reporter.earliestSampleAt others).mpr
        foreign
      refine ⟨unknown, ?_⟩
      rw [statsAnswer_eq _ _ _ matched, executeStats, unknown]
      rfl

end Mapped

theorem takesRangeTokens_iff_of_hour :
    TakesRangeTokens CaseMapping.asciiOnly.toLowerCase threeSamples.statsReporter [statsCommand]
      "!stats  1H ".toList 120000 statsCommand "1H".toList :=
  (takesRangeTokens_iff CaseMapping.asciiOnly threeSamples.statsReporter [statsCommand]
    "!stats  1H ".toList 120000 statsCommand "1H".toList (by decide) (by decide +kernel)).mpr
    (by decide)

/-- The reply to `!stats constructor` is the one for a range. -/
theorem constructor_answered :
    statsArgument [statsCommand] "!stats constructor".toList =
        some (statsCommand, "constructor".toList) ∧
      ¬TakesRangeTokens CaseMapping.asciiOnly.toLowerCase threeSamples.statsReporter [statsCommand]
        "!stats constructor".toList 120000 statsCommand "constructor".toList := by
  refine ⟨by decide +kernel, ?_⟩
  intro takes
  have resolved : resolveStatsRange CaseMapping.asciiOnly.toLowerCase "constructor".toList 120000
      threeSamples.statsReporter.earliestSampleAt = some ⟨none, 120000⟩ := by decide
  have unknown := (takes.others (by decide)).1
  rw [resolved] at unknown
  cases unknown

end MeshcoreObserver
