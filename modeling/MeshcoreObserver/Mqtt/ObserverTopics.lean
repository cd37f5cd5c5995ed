import MeshcoreObserver.CaseMapping
import MeshcoreObserver.Counting.Counts
import MeshcoreObserver.Text

/-!
# Topics of the observer

`resolveTopic` and the two topics it is used for. The variables of a template are
replaced from left to right, and what has been put in is not read again. A
variable without a value, or with an empty one, is an error.
-/

namespace MeshcoreObserver

open Counting

/-- `[A-Z_]`. -/
def isVariableChar (char : Char) : Bool := char.isUpper || char = '_'

def unresolved (template name : Text) : Text :=
  "Topic template \"".toList ++ template ++ "\" is missing a value for \"".toList ++ name ++
    "\"".toList

/-- The replacement of `/\{([A-Z_]+)\}/g`. Behind an opening brace, `name` is what has been
read of a variable. -/
def resolveVariables (template : Text) (vars : List (Text × Text)) :
    Option Text → Text → Except Text Text
  | none, [] => .ok []
  | some name, [] => .ok ('{' :: name)
  | none, char :: rest =>
      if char = '{' then resolveVariables template vars (some []) rest
      else (resolveVariables template vars none rest).map fun text => char :: text
  | some name, char :: rest =>
      if char = '}' ∧ name ≠ [] then
        match (find? name vars).getD [] with
        | [] => .error (unresolved template name)
        | value => (resolveVariables template vars none rest).map fun text => value ++ text
      else if isVariableChar char then
        resolveVariables template vars (some (name ++ [char])) rest
      else if char = '{' then
        (resolveVariables template vars (some []) rest).map fun text => '{' :: name ++ text
      else
        (resolveVariables template vars none rest).map fun text => '{' :: name ++ char :: text

def resolveTopic (template : Text) (vars : List (Text × Text)) : Except Text Text :=
  resolveVariables template vars none template

def statusTopicTemplate : Text := "meshcore/\x7bIATA\x7d/\x7bPUBLIC_KEY\x7d/status".toList

def packetsTopicTemplate : Text := "meshcore/\x7bIATA\x7d/\x7bPUBLIC_KEY\x7d/packets".toList

def topicVars (iata publicKey : Text) : List (Text × Text) :=
  [("IATA".toList, iata), ("PUBLIC_KEY".toList, publicKey)]

/-- The topic of a device, for a template that ends like this. -/
def deviceTopic (iata publicKey ending : Text) : Text :=
  "meshcore/".toList ++ (iata ++ ("/".toList ++ (publicKey ++ ending)))

/-- The topic of the status of the device with this public key. -/
def statusTopic (mapping : CaseMapping) (iata publicKey : Text) : Except Text Text :=
  resolveTopic statusTopicTemplate (topicVars iata (mapping.toUpperCase publicKey))

section Resolved

variable {template : Text} {vars : List (Text × Text)}

theorem resolve_literal {text : Text} (plain : '{' ∉ text) (rest : Text) :
    resolveVariables template vars none (text ++ rest) =
      (resolveVariables template vars none rest).map fun resolved => text ++ resolved := by
  induction text with
  | nil =>
      rw [List.nil_append]
      cases resolveVariables template vars none rest with
      | error message => rfl
      | ok resolved => rfl
  | cons char text ih =>
      simp only [List.mem_cons, not_or] at plain
      rw [List.cons_append, resolveVariables, if_neg (Ne.symm plain.1), ih plain.2]
      cases resolveVariables template vars none rest with
      | error message => rfl
      | ok resolved => rfl

theorem resolve_name {name : Text} (variableChars : name.all isVariableChar = true)
    (before rest : Text) :
    resolveVariables template vars (some before) (name ++ rest) =
      resolveVariables template vars (some (before ++ name)) rest := by
  induction name generalizing before with
  | nil => rw [List.nil_append, List.append_nil]
  | cons char name ih =>
      rw [List.all_cons, Bool.and_eq_true] at variableChars
      have here := variableChars.1
      have unfinished : ¬(char = '}' ∧ before ≠ []) := by
        rintro ⟨rfl, _⟩
        cases here
      rw [List.cons_append, resolveVariables, if_neg unfinished, if_pos here,
        ih variableChars.2, List.append_assoc]
      rfl

/-- A variable is replaced by its value. -/
theorem resolve_variable {name value : Text} (named : name ≠ [])
    (variableChars : name.all isVariableChar = true)
    (found : find? name vars = some value) (given : value ≠ []) (rest : Text) :
    resolveVariables template vars none ('{' :: (name ++ '}' :: rest)) =
      (resolveVariables template vars none rest).map fun resolved => value ++ resolved := by
  rw [resolveVariables, if_pos rfl, resolve_name variableChars, List.nil_append, resolveVariables,
    if_pos ⟨rfl, named⟩, found, Option.getD_some]
  cases value with
  | nil => exact absurd rfl given
  | cons first value => rfl

/-- A variable that is missing or empty is an error. -/
theorem resolve_missing {name : Text} (named : name ≠ [])
    (variableChars : name.all isVariableChar = true) (missing : (find? name vars).getD [] = [])
    (rest : Text) :
    resolveVariables template vars none ('{' :: (name ++ '}' :: rest)) =
      .error (unresolved template name) := by
  rw [resolveVariables, if_pos rfl, resolve_name variableChars, List.nil_append, resolveVariables,
    if_pos ⟨rfl, named⟩, missing]

end Resolved

/-- The topic of a device without a public key is an error. -/
theorem resolveTopic_keyless {template iata : Text} (ending : Text)
    (shape : template = "meshcore/".toList ++ ('{' :: ("IATA".toList ++ '}' :: ("/".toList ++
      '{' :: ("PUBLIC_KEY".toList ++ '}' :: (ending ++ []))))))
    (code : iata ≠ []) :
    resolveTopic template (topicVars iata []) =
      .error (unresolved template "PUBLIC_KEY".toList) := by
  rw [resolveTopic]
  nth_rewrite 2 [shape]
  rw [resolve_literal (by decide), resolve_variable (by decide) (by decide) rfl code,
    resolve_literal (by decide), resolve_missing (by decide) (by decide) rfl]
  rfl

/-- The topic of a status and of the packets of a device differ in their ends only. -/
theorem resolveTopic_device {template ending iata publicKey : Text}
    (shape : template = "meshcore/".toList ++ ('{' :: ("IATA".toList ++ '}' :: ("/".toList ++
      '{' :: ("PUBLIC_KEY".toList ++ '}' :: (ending ++ []))))))
    (plain : '{' ∉ ending) (code : iata ≠ []) (key : publicKey ≠ []) :
    resolveTopic template (topicVars iata publicKey) =
      .ok (deviceTopic iata publicKey ending) := by
  rw [resolveTopic]
  nth_rewrite 2 [shape]
  rw [resolve_literal (by decide), resolve_variable (by decide) (by decide) rfl code,
    resolve_literal (by decide), resolve_variable (by decide) (by decide) rfl key,
    resolve_literal plain]
  simp only [resolveVariables, Except.map, List.append_nil]
  rfl

theorem resolveTopic_packets {iata publicKey : Text} (code : iata ≠ []) (key : publicKey ≠ []) :
    resolveTopic packetsTopicTemplate (topicVars iata publicKey) =
      .ok (deviceTopic iata publicKey "/packets".toList) :=
  resolveTopic_device rfl (by decide) code key

theorem resolveTopic_packets_keyless {iata : Text} (code : iata ≠ []) :
    resolveTopic packetsTopicTemplate (topicVars iata []) =
      .error (unresolved packetsTopicTemplate "PUBLIC_KEY".toList) :=
  resolveTopic_keyless "/packets".toList rfl code

end MeshcoreObserver
