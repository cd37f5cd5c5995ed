import MeshcoreObserver.Bots.ResponseTemplate
import MeshcoreObserver.Counting.LongestPrefix

/-!
# The byte budget of a response

`renderResponse` against what it promises: the full rendering where it fits, and
otherwise as much of a short form as the budget holds, cut between characters.
-/

namespace MeshcoreObserver

open Counting

def Text.Fits (maxBytes : Nat) (text : Text) : Prop := text.utf8.length ≤ maxBytes

instance (maxBytes : Nat) (text : Text) : Decidable (text.Fits maxBytes) :=
  inferInstanceAs (Decidable (text.utf8.length ≤ maxBytes))

theorem length_utf8 (text : Text) : text.utf8.length = totalCost Char.utf8Size text := by
  induction text with
  | nil => rfl
  | cons char text ih =>
      simp only [Text.utf8, List.flatMap_cons, List.length_append,
        String.length_utf8EncodeChar, totalCost_cons] at ih ⊢
      omega

theorem truncateFrom_eq (maxBytes used : Nat) (text : Text) :
    truncateFrom maxBytes used text = takeWithin Char.utf8Size maxBytes used text := by
  induction text generalizing used with
  | nil => rfl
  | cons char text ih => simp only [truncateFrom, takeWithin, ih]

/-- `truncateToUtf8Bytes` keeps the longest prefix of whole characters that fits. -/
theorem isLongestPrefix_truncateToUtf8Bytes (text : Text) (maxBytes : Nat) :
    IsLongestPrefix (Text.Fits maxBytes) text (truncateToUtf8Bytes text maxBytes) := by
  have cut := isLongestPrefix_takeWithin Char.utf8Size maxBytes 0 text (Nat.zero_le maxBytes)
  simp only [Nat.zero_add, ← length_utf8] at cut
  rw [truncateToUtf8Bytes, truncateFrom_eq]
  exact cut

theorem isLongestPrefix_degrade (text : Text) (maxBytes : Nat) :
    IsLongestPrefix (Text.Fits maxBytes) text (degrade text maxBytes).message := by
  simp only [degrade]
  split
  · rename_i fits
    exact IsLongestPrefix.whole fits
  · exact isLongestPrefix_truncateToUtf8Bytes text maxBytes

def pathOf (values : TemplateValues) : Text :=
  ((values.find? fun value => value.1 = "path".toList).map Prod.snd).getD []

/-- What is sent in place of a rendering that is too long, before it is cut. -/
def shortForm (template : Text) (overflowTemplate : Option Text) (values : TemplateValues) :
    Text :=
  match overflowTemplate with
  | some overflow => renderTemplate overflow values
  | none =>
      if pathOf values ≠ [] then renderTemplate template (withoutPath values)
      else renderTemplate template values

/-- A response to a template within its budget. -/
structure KeepsBudget (template : Text) (overflowTemplate : Option Text)
    (values : TemplateValues) (maxBytes : Nat) (response : RenderedResponse) : Prop where
  bounded : response.message.Fits maxBytes
  degraded_iff : response.degraded = false ↔ (renderTemplate template values).Fits maxBytes
  full : (renderTemplate template values).Fits maxBytes →
    response.message = renderTemplate template values
  short : ¬(renderTemplate template values).Fits maxBytes →
    IsLongestPrefix (Text.Fits maxBytes) (shortForm template overflowTemplate values)
      response.message

/-- An overflow template counts as given if it is not empty. -/
def givenOverflow (overflowTemplate : Option Text) : Option Text :=
  overflowTemplate.filter fun overflow => overflow ≠ []

theorem givenOverflow_of_empty {overflowTemplate : Option Text}
    (empty : ¬overflowTemplate.getD [] ≠ []) : givenOverflow overflowTemplate = none := by
  cases overflowTemplate with
  | none => rfl
  | some overflow =>
      simp only [Option.getD_some, ne_eq, not_not] at empty
      subst overflow
      rfl

theorem givenOverflow_of_nonempty {overflowTemplate : Option Text}
    (nonempty : overflowTemplate.getD [] ≠ []) :
    givenOverflow overflowTemplate = some (overflowTemplate.getD []) := by
  cases overflowTemplate with
  | none => exact absurd rfl nonempty
  | some overflow =>
      simp only [Option.getD_some] at nonempty
      simp only [givenOverflow, Option.filter_some, decide_eq_true nonempty, if_true,
        Option.getD_some]

section Render

variable {template : Text} {overflowTemplate : Option Text} {values : TemplateValues}
  {maxBytes : Nat}

theorem renderResponse_of_fits (fits : (renderTemplate template values).Fits maxBytes) :
    renderResponse template overflowTemplate values maxBytes =
      ⟨renderTemplate template values, false⟩ := by
  simp only [renderResponse]
  exact if_pos fits

theorem renderResponse_of_long (long : ¬(renderTemplate template values).Fits maxBytes) :
    renderResponse template overflowTemplate values maxBytes =
      degrade (shortForm template (givenOverflow overflowTemplate) values) maxBytes := by
  have cut : (⟨truncateToUtf8Bytes (renderTemplate template values) maxBytes, true⟩ :
      RenderedResponse) = degrade (renderTemplate template values) maxBytes := (if_neg long).symm
  rw [Text.Fits] at long
  simp only [renderResponse, if_neg long, cut]
  split
  · rename_i nonempty
    simp only [givenOverflow_of_nonempty nonempty, shortForm]
  · rename_i empty
    simp only [givenOverflow_of_empty empty, shortForm, pathOf]
    exact (apply_ite (fun text => degrade text maxBytes) _ _ _).symm

end Render

theorem degraded_degrade (text : Text) (maxBytes : Nat) : (degrade text maxBytes).degraded := by
  simp only [degrade]
  split
  · rfl
  · rfl

/-- Every response keeps its budget and is degraded no further than it must be. -/
theorem keepsBudget_renderResponse (template : Text) (overflowTemplate : Option Text)
    (values : TemplateValues) (maxBytes : Nat) :
    KeepsBudget template (givenOverflow overflowTemplate) values maxBytes
      (renderResponse template overflowTemplate values maxBytes) := by
  by_cases fits : (renderTemplate template values).Fits maxBytes
  · rw [renderResponse_of_fits fits]
    exact ⟨fits, ⟨fun _ => fits, fun _ => rfl⟩, fun _ => rfl, fun long => absurd fits long⟩
  · rw [renderResponse_of_long fits]
    have cut := isLongestPrefix_degrade
      (shortForm template (givenOverflow overflowTemplate) values) maxBytes
    refine ⟨cut.fits, ⟨?_, fun full => absurd full fits⟩, fun full => absurd full fits,
      fun _ => cut⟩
    intro whole
    rw [degraded_degrade] at whole
    cases whole

/-- An empty overflow template is not used. -/
theorem emptyOverflow_not_sent :
    ¬∀ (template : Text) (overflowTemplate : Option Text) (values : TemplateValues)
        (maxBytes : Nat), 1 ≤ maxBytes →
      KeepsBudget template overflowTemplate values maxBytes
        (renderResponse template overflowTemplate values maxBytes) := by
  intro keeps
  have long : ¬(renderTemplate ['a', 'b'] []).Fits 1 := by
    decide
  have sent := ((keeps ['a', 'b'] (some []) [] 1 (by decide)).short long).isPrefix
  revert sent
  decide

end MeshcoreObserver
