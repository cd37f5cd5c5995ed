import Mathlib.Data.List.Basic

/-!
# JSON texts

The values a JSON text can say, the text that is written for a value, and the
reader of the grammar. A value that is written is read back, whatever stands
behind it, and no name, text or number is lost or changed on the way.

A number is kept as the decimal its text says. A code unit of a surrogate pair
that has lost its other half is no character; it is read as the replacement
character.
-/

namespace JsonText

mutual

inductive Json where
  | null
  | bool (value : Bool)
  | number (mantissa exponent : Int)
  | string (value : List Char)
  | array (items : Items)
  | object (members : Members)
  deriving DecidableEq, Repr

inductive Items where
  | nil
  | cons (item : Json) (items : Items)
  deriving DecidableEq, Repr

inductive Members where
  | nil
  | cons (name : List Char) (value : Json) (members : Members)
  deriving DecidableEq, Repr

end

namespace Members

def names : Members → List (List Char)
  | .nil => []
  | .cons name _ members => name :: members.names

/-- An object has the last value that is written under a name. -/
def get? (wanted : List Char) : Members → Option Json
  | .nil => none
  | .cons name value members =>
      (members.get? wanted).or (if name = wanted then some value else none)

end Members

def hexDigit (value : Nat) : Char :=
  Char.ofNat (if value < 10 then 0x30 + value else 0x61 + (value - 10))

def escape (char : Char) : List Char :=
  if char = '"' ∨ char = '\\' then ['\\', char]
  else if char.toNat = 8 then ['\\', 'b']
  else if char.toNat = 9 then ['\\', 't']
  else if char.toNat = 10 then ['\\', 'n']
  else if char.toNat = 12 then ['\\', 'f']
  else if char.toNat = 13 then ['\\', 'r']
  else if char.toNat < 0x20 then
    ['\\', 'u', '0', '0', hexDigit (char.toNat / 16), hexDigit (char.toNat % 16)]
  else [char]

def quote (value : List Char) : List Char := '"' :: value.flatMap escape ++ ['"']

def decimal : Int → List Char
  | .ofNat value => Nat.toDigits 10 value
  | .negSucc value => '-' :: Nat.toDigits 10 (value + 1)

def numberText (mantissa exponent : Int) : List Char :=
  decimal mantissa ++ if exponent = 0 then [] else 'e' :: decimal exponent

mutual

def Json.text : Json → List Char
  | .null => ['n', 'u', 'l', 'l']
  | .bool true => ['t', 'r', 'u', 'e']
  | .bool false => ['f', 'a', 'l', 's', 'e']
  | .number mantissa exponent => numberText mantissa exponent
  | .string value => quote value
  | .array items => '[' :: items.text ++ [']']
  | .object members => '\x7b' :: members.text ++ ['\x7d']

def Items.text : Items → List Char
  | .nil => []
  | .cons item .nil => item.text
  | .cons item (.cons next items) => item.text ++ ',' :: (Items.cons next items).text

def Members.text : Members → List Char
  | .nil => []
  | .cons name value .nil => quote name ++ ':' :: value.text
  | .cons name value (.cons next other members) =>
      quote name ++ ':' :: value.text ++ ',' :: (Members.cons next other members).text

end

def digitValue (char : Char) : Nat := char.toNat - 0x30

def natural (digits : List Char) : Nat :=
  digits.foldl (fun value digit => value * 10 + digitValue digit) 0

def readDigits (text : List Char) : List Char × List Char :=
  (text.takeWhile Char.isDigit, text.dropWhile Char.isDigit)

def signed (negative : Bool) (value : Nat) : Int := if negative then -value else value

def readMinus : List Char → Bool × List Char
  | [] => (false, [])
  | char :: text => if char = '-' then (true, text) else (false, char :: text)

def readFraction : List Char → Option (List Char × List Char)
  | [] => some ([], [])
  | char :: text =>
      if char = '.' then
        let digits := readDigits text
        if digits.1 = [] then none else some digits
      else some ([], char :: text)

def readExponent : List Char → Option (Int × List Char)
  | [] => some (0, [])
  | char :: text =>
      if char = 'e' ∨ char = 'E' then
        let sign := if text.head? = some '+' then (false, text.drop 1) else readMinus text
        let digits := readDigits sign.2
        if digits.1 = [] then none else some (signed sign.1 (natural digits.1), digits.2)
      else some (0, char :: text)

/-- A number. Its integer part has no leading zero. -/
def readNumber (text : List Char) : Option (Json × List Char) :=
  let sign := readMinus text
  let digits := readDigits sign.2
  if digits.1 = [] ∨ (digits.1.head? = some '0' ∧ digits.1.length ≠ 1) then none
  else
    (readFraction digits.2).bind fun fraction =>
      (readExponent fraction.2).map fun exponent =>
        (.number (signed sign.1 (natural (digits.1 ++ fraction.1)))
          (exponent.1 - fraction.1.length), exponent.2)

def hexValue (char : Char) : Option Nat :=
  if char.isDigit then some (digitValue char)
  else if 'a' ≤ char ∧ char ≤ 'f' then some (char.toNat - 0x61 + 10)
  else if 'A' ≤ char ∧ char ≤ 'F' then some (char.toNat - 0x41 + 10)
  else none

def readUnit : List Char → Option (Nat × List Char)
  | first :: second :: third :: fourth :: text =>
      (hexValue first).bind fun first =>
        (hexValue second).bind fun second =>
          (hexValue third).bind fun third =>
            (hexValue fourth).map fun fourth =>
              (first * 4096 + second * 256 + third * 16 + fourth, text)
  | _ => none

def replacement : Char := Char.ofNat 0xFFFD

/-- The character a code unit begins, with the rest of a surrogate pair. -/
def readPair (unit : Nat) (text : List Char) : Char × List Char :=
  if 0xD800 ≤ unit ∧ unit ≤ 0xDBFF then
    match (if text.take 2 = ['\\', 'u'] then readUnit (text.drop 2) else none) with
    | some (low, rest) =>
        if 0xDC00 ≤ low ∧ low ≤ 0xDFFF then
          (Char.ofNat (0x10000 + (unit - 0xD800) * 0x400 + (low - 0xDC00)), rest)
        else (replacement, text)
    | none => (replacement, text)
  else if 0xDC00 ≤ unit ∧ unit ≤ 0xDFFF then (replacement, text)
  else (Char.ofNat unit, text)

/-- What stands behind a backslash. -/
def readEscape : List Char → Option (Char × List Char)
  | [] => none
  | char :: text =>
      if char = '"' ∨ char = '\\' ∨ char = '/' then some (char, text)
      else if char = 'b' then some (Char.ofNat 8, text)
      else if char = 't' then some (Char.ofNat 9, text)
      else if char = 'n' then some (Char.ofNat 10, text)
      else if char = 'f' then some (Char.ofNat 12, text)
      else if char = 'r' then some (Char.ofNat 13, text)
      else if char = 'u' then (readUnit text).map fun unit => readPair unit.1 unit.2
      else none

/-- What stands behind the opening quote of a string, up to its closing one. -/
def readString : Nat → List Char → Option (List Char × List Char)
  | 0, _ => none
  | _ + 1, [] => none
  | fuel + 1, char :: text =>
      if char = '"' then some ([], text)
      else if char = '\\' then
        (readEscape text).bind fun escaped =>
          (readString fuel escaped.2).map fun value => (escaped.1 :: value.1, value.2)
      else if char.toNat < 0x20 then none
      else (readString fuel text).map fun value => (char :: value.1, value.2)

def isBlank (char : Char) : Bool :=
  char = ' ' ∨ char.toNat = 9 ∨ char.toNat = 10 ∨ char.toNat = 13

def skipBlank (text : List Char) : List Char := text.dropWhile isBlank

def readWord (word : List Char) (value : Json) (text : List Char) : Option (Json × List Char) :=
  if word.isPrefixOf text then some (value, text.drop word.length) else none

mutual

def readValue : Nat → List Char → Option (Json × List Char)
  | 0, _ => none
  | _ + 1, [] => none
  | fuel + 1, char :: text =>
      if char = '\x7b' then
        if (skipBlank text).head? = some '\x7d' then some (.object .nil, (skipBlank text).drop 1)
        else (readMembers fuel text).map fun members => (.object members.1, members.2)
      else if char = '[' then
        if (skipBlank text).head? = some ']' then some (.array .nil, (skipBlank text).drop 1)
        else (readItems fuel text).map fun items => (.array items.1, items.2)
      else if char = '"' then (readString fuel text).map fun value => (.string value.1, value.2)
      else if char = 'n' then readWord ['n', 'u', 'l', 'l'] .null (char :: text)
      else if char = 't' then readWord ['t', 'r', 'u', 'e'] (.bool true) (char :: text)
      else if char = 'f' then readWord ['f', 'a', 'l', 's', 'e'] (.bool false) (char :: text)
      else readNumber (char :: text)

/-- One item or more, up to the closing bracket. -/
def readItems : Nat → List Char → Option (Items × List Char)
  | 0, _ => none
  | fuel + 1, text =>
      (readValue fuel (skipBlank text)).bind fun item =>
        match skipBlank item.2 with
        | [] => none
        | char :: rest =>
            if char = ']' then some (.cons item.1 .nil, rest)
            else if char = ',' then
              (readItems fuel rest).map fun items => (.cons item.1 items.1, items.2)
            else none

/-- One member or more, up to the closing brace. -/
def readMembers : Nat → List Char → Option (Members × List Char)
  | 0, _ => none
  | fuel + 1, text =>
      if (skipBlank text).head? = some '"' then
        (readString fuel ((skipBlank text).drop 1)).bind fun name =>
          if (skipBlank name.2).head? = some ':' then
            (readValue fuel (skipBlank ((skipBlank name.2).drop 1))).bind fun value =>
              match skipBlank value.2 with
              | [] => none
              | char :: rest =>
                  if char = '\x7d' then some (.cons name.1 value.1 .nil, rest)
                  else if char = ',' then
                    (readMembers fuel rest).map fun members =>
                      (.cons name.1 value.1 members.1, members.2)
                  else none
          else none
      else none

end

/-- `JSON.parse(text)`: one value and nothing else. -/
def parse (text : List Char) : Option Json :=
  (readValue (text.length + 1) (skipBlank text)).bind fun value =>
    if skipBlank value.2 = [] then some value.1 else none

/-- What may stand behind a value that is written. -/
def Delimited (rest : List Char) : Prop :=
  ∀ char, rest.head? = some char → char = ',' ∨ char = ']' ∨ char = '\x7d'

theorem delimited_nil : Delimited [] := by
  intro char head
  cases head

theorem delimited_cons {char : Char} (rest : List Char)
    (delimits : char = ',' ∨ char = ']' ∨ char = '\x7d') : Delimited (char :: rest) := by
  intro other head
  cases head
  exact delimits

theorem natural_append (digits : List Char) (digit : Char) :
    natural (digits ++ [digit]) = natural digits * 10 + digitValue digit := by
  simp only [natural, List.foldl_append, List.foldl_cons, List.foldl_nil]

theorem digitValue_digitChar {value : Nat} (small : value < 10) :
    digitValue value.digitChar = value := by
  rw [digitValue, Nat.toNat_digitChar_of_lt_ten small]
  omega

theorem natural_toDigits (value : Nat) : natural (Nat.toDigits 10 value) = value := by
  induction value using Nat.strongRecOn with
  | ind value ih =>
      rw [Nat.toDigits_eq_if (by decide)]
      split
      · rename_i small
        rw [← List.nil_append [value.digitChar], natural_append, digitValue_digitChar small]
        exact Nat.zero_add value
      · rw [natural_append, ih (value / 10) (by omega), digitValue_digitChar (by omega)]
        omega

theorem isDigit_toDigits {value : Nat} {char : Char} (charMem : char ∈ Nat.toDigits 10 value) :
    char.isDigit :=
  Nat.isDigit_of_mem_toDigits (by decide) (by decide) charMem

/-- Only zero begins with a zero, and it is one digit long. -/
theorem toDigits_leading (value : Nat) (zero : (Nat.toDigits 10 value).head? = some '0') :
    (Nat.toDigits 10 value).length = 1 := by
  have leads : value = 0 := by
    induction value using Nat.strongRecOn with
    | ind value ih =>
        rw [Nat.toDigits_eq_if (by decide)] at zero
        split at zero
        · rename_i small
          have same : digitValue value.digitChar = digitValue '0' :=
            congrArg digitValue (Option.some.inj zero)
          rw [digitValue_digitChar small] at same
          exact same
        · rename_i large
          rw [List.head?_append_of_ne_nil _ Nat.toDigits_ne_nil] at zero
          have none := ih (value / 10) (by omega) zero
          omega
  rw [leads]
  rfl

theorem readDigits_append {digits rest : List Char} (all : ∀ char ∈ digits, char.isDigit)
    (ends : ∀ char, rest.head? = some char → ¬char.isDigit) :
    readDigits (digits ++ rest) = (digits, rest) := by
  have untaken : rest.takeWhile Char.isDigit = [] ∧ rest.dropWhile Char.isDigit = rest := by
    cases rest with
    | nil => exact ⟨rfl, rfl⟩
    | cons char rest =>
        have ended := ends char rfl
        exact ⟨List.takeWhile_cons_of_neg ended, List.dropWhile_cons_of_neg ended⟩
  rw [readDigits, List.takeWhile_append_of_pos all, List.dropWhile_append_of_pos all, untaken.1,
    untaken.2, List.append_nil]

theorem readMinus_decimal (value : Int) (rest : List Char) :
    readMinus (decimal value ++ rest) =
      (decide (value < 0), Nat.toDigits 10 value.natAbs ++ rest) := by
  cases value with
  | ofNat value =>
      have nonneg : decide (Int.ofNat value < 0) = false := decide_eq_false (by simp)
      rw [nonneg, decimal, Int.natAbs_ofNat']
      cases digits : Nat.toDigits 10 value with
      | nil => exact absurd digits Nat.toDigits_ne_nil
      | cons char more =>
          have digit : char.isDigit := isDigit_toDigits (digits ▸ List.mem_cons_self)
          have unsigned : char ≠ '-' := by
            rintro rfl
            cases digit
          rw [List.cons_append, readMinus, if_neg unsigned]
  | negSucc value =>
      have negative : decide (Int.negSucc value < 0) = true :=
        decide_eq_true (Int.negSucc_lt_zero value)
      rw [negative, decimal, Int.natAbs_negSucc, List.cons_append, readMinus, if_pos rfl]

theorem signed_natAbs (value : Int) : signed (decide (value < 0)) value.natAbs = value := by
  rw [signed]
  split
  · rename_i negative
    have := of_decide_eq_true negative
    omega
  · rename_i nonnegative
    have : ¬value < 0 := fun negative => nonnegative (decide_eq_true negative)
    omega

theorem not_isDigit_of_delimited {rest : List Char} (delimited : Delimited rest) {char : Char}
    (head : rest.head? = some char) : ¬char.isDigit := by
  rcases delimited char head with rfl | rfl | rfl
  · decide
  · decide
  · decide

theorem readExponent_delimited {rest : List Char} (delimited : Delimited rest) :
    readExponent rest = some (0, rest) := by
  cases rest with
  | nil => rfl
  | cons char rest =>
      have plain : ¬(char = 'e' ∨ char = 'E') := by
        rcases delimited char rfl with rfl | rfl | rfl
        · decide
        · decide
        · decide
      rw [readExponent, if_neg plain]

theorem head?_decimal_ne_plus (value : Int) (rest : List Char) :
    (decimal value ++ rest).head? ≠ some '+' := by
  intro plus
  cases value with
  | ofNat value =>
      rw [decimal, List.head?_append_of_ne_nil _ Nat.toDigits_ne_nil] at plus
      cases isDigit_toDigits (List.mem_of_head? plus)
  | negSucc value => cases plus

theorem readExponent_decimal (exponent : Int) {rest : List Char} (delimited : Delimited rest) :
    readExponent ('e' :: (decimal exponent ++ rest)) = some (exponent, rest) := by
  rw [readExponent, if_pos (.inl rfl), if_neg (head?_decimal_ne_plus exponent rest),
    readMinus_decimal]
  simp only [readDigits_append (fun _ => isDigit_toDigits)
    (fun _ => not_isDigit_of_delimited delimited), Nat.toDigits_ne_nil, if_false,
    natural_toDigits, signed_natAbs]

theorem readFraction_of_ne {char : Char} (rest : List Char) (whole : char ≠ '.') :
    readFraction (char :: rest) = some ([], char :: rest) := by
  rw [readFraction, if_neg whole]

theorem readNumber_numberText (mantissa exponent : Int) {rest : List Char}
    (delimited : Delimited rest) :
    readNumber (numberText mantissa exponent ++ rest) = some (.number mantissa exponent, rest) := by
  have behind : ∀ tail : List Char, (∀ char, tail.head? = some char → ¬char.isDigit) →
      readFraction tail = some ([], tail) → readExponent tail = some (exponent, rest) →
        readNumber (decimal mantissa ++ tail) = some (.number mantissa exponent, rest) := by
    intro tail ends whole power
    have digits : readDigits (Nat.toDigits 10 mantissa.natAbs ++ tail) =
        (Nat.toDigits 10 mantissa.natAbs, tail) :=
      readDigits_append (fun _ => isDigit_toDigits) ends
    have leading : ¬(Nat.toDigits 10 mantissa.natAbs = [] ∨
        ((Nat.toDigits 10 mantissa.natAbs).head? = some '0' ∧
          (Nat.toDigits 10 mantissa.natAbs).length ≠ 1)) := by
      rintro (none | ⟨zero, long⟩)
      · exact Nat.toDigits_ne_nil none
      · exact long (toDigits_leading _ zero)
    simp only [readNumber, readMinus_decimal, digits, if_neg leading, whole, power,
      Option.bind_some, Option.map_some, List.append_nil, natural_toDigits, signed_natAbs,
      List.length_nil, Int.ofNat_zero, Int.sub_zero]
  rw [numberText, List.append_assoc]
  split
  · rename_i none
    subst exponent
    rw [List.nil_append]
    refine behind rest (fun _ => not_isDigit_of_delimited delimited) ?_
      (readExponent_delimited delimited)
    cases rest with
    | nil => rfl
    | cons char rest =>
        refine readFraction_of_ne rest ?_
        rcases delimited char rfl with rfl | rfl | rfl
        · decide
        · decide
        · decide
  · refine behind _ (fun char head => ?_) (readFraction_of_ne _ (by decide))
      (readExponent_decimal exponent delimited)
    cases head
    decide

theorem hexValue_hexDigit {value : Nat} (small : value < 16) :
    hexValue (hexDigit value) = some value := by
  have all : ∀ value, value < 16 → hexValue (hexDigit value) = some value := by decide
  exact all value small

theorem readUnit_hexDigit {value : Nat} (small : value < 256) (rest : List Char) :
    readUnit ('0' :: '0' :: hexDigit (value / 16) :: hexDigit (value % 16) :: rest) =
      some (value, rest) := by
  have zero : hexValue '0' = some 0 := by decide
  simp only [readUnit, zero, hexValue_hexDigit (show value / 16 < 16 by omega),
    hexValue_hexDigit (show value % 16 < 16 by omega), Option.bind_some, Option.map_some,
    Option.some.injEq, Prod.mk.injEq, and_true]
  omega

theorem char_eq {char : Char} {value : Nat} (code : char.toNat = value) :
    Char.ofNat value = char := by
  rw [← code]
  exact Char.ofNat_toNat char

theorem readString_escape (fuel : Nat) (char : Char) (text : List Char) :
    readString (fuel + 1) (escape char ++ text) =
      (readString fuel text).map fun value => (char :: value.1, value.2) := by
  have escaped : ∀ letters : List Char, readEscape (letters ++ text) = some (char, text) →
      readString (fuel + 1) ('\\' :: letters ++ text) =
        (readString fuel text).map fun value => (char :: value.1, value.2) := by
    intro letters same
    simp only [List.cons_append, readString, Char.reduceEq, if_false, if_true, same,
      Option.bind_some]
  rw [escape]
  split
  · rename_i special
    refine escaped [char] ?_
    rw [List.singleton_append, readEscape, if_pos]
    rcases special with quote | backslash
    · exact .inl quote
    · exact .inr (.inl backslash)
  · rename_i plain
    split
    · rename_i code
      exact escaped ['b'] (by rw [← char_eq code]; rfl)
    · split
      · rename_i code
        exact escaped ['t'] (by rw [← char_eq code]; rfl)
      · split
        · rename_i code
          exact escaped ['n'] (by rw [← char_eq code]; rfl)
        · split
          · rename_i code
            exact escaped ['f'] (by rw [← char_eq code]; rfl)
          · split
            · rename_i code
              exact escaped ['r'] (by rw [← char_eq code]; rfl)
            · split
              · rename_i control
                refine escaped ['u', '0', '0', _, _] ?_
                have pair : readPair char.toNat text = (char, text) := by
                  rw [readPair, if_neg (by omega), if_neg (by omega), Char.ofNat_toNat]
                simp only [List.cons_append, List.nil_append, readEscape, Char.reduceEq, or_self,
                  if_false, if_true, readUnit_hexDigit (show char.toNat < 256 by omega),
                  Option.map_some, pair]
              · rename_i printable
                rw [not_or] at plain
                rw [List.singleton_append, readString, if_neg plain.1, if_neg plain.2,
                  if_neg printable]

theorem readString_quote (value : List Char) {fuel : Nat} (enough : value.length < fuel)
    (rest : List Char) :
    readString fuel (value.flatMap escape ++ '"' :: rest) = some (value, rest) := by
  induction value generalizing fuel with
  | nil =>
      cases fuel with
      | zero => cases enough
      | succ fuel => rfl
  | cons char value ih =>
      cases fuel with
      | zero => cases enough
      | succ fuel =>
          rw [List.flatMap_cons, List.append_assoc, readString_escape,
            ih (Nat.lt_of_succ_lt_succ enough)]
          rfl

theorem skipBlank_of_head {text : List Char}
    (visible : ∀ char, text.head? = some char → ¬isBlank char) : skipBlank text = text := by
  cases text with
  | nil => rfl
  | cons char text => exact List.dropWhile_cons_of_neg (visible char rfl)

theorem skipBlank_delimited {rest : List Char} (delimited : Delimited rest) :
    skipBlank rest = rest := by
  apply skipBlank_of_head
  intro char head
  rcases delimited char head with rfl | rfl | rfl
  · decide
  · decide
  · decide

theorem not_isBlank_of_isDigit {char : Char} (digit : char.isDigit) : ¬isBlank char := by
  intro blank
  simp only [isBlank, decide_eq_true_eq] at blank
  rcases blank with rfl | code | code | code
  · cases digit
  · rw [← char_eq code] at digit
    cases digit
  · rw [← char_eq code] at digit
    cases digit
  · rw [← char_eq code] at digit
    cases digit

/-- A number begins with a digit or its sign. -/
theorem numberText_head (mantissa exponent : Int) :
    ∃ char text, numberText mantissa exponent = char :: text ∧ (char.isDigit ∨ char = '-') := by
  rw [numberText]
  cases mantissa with
  | ofNat value =>
      rw [decimal]
      cases digits : Nat.toDigits 10 value with
      | nil => exact absurd digits Nat.toDigits_ne_nil
      | cons char more =>
          exact ⟨char, _, rfl, .inl (isDigit_toDigits (digits ▸ List.mem_cons_self))⟩
  | negSucc value => exact ⟨'-', _, rfl, .inr rfl⟩

theorem Json.text_head (value : Json) :
    ∃ char text, value.text = char :: text ∧ ¬isBlank char ∧ char ≠ ']' := by
  cases value with
  | null => exact ⟨_, _, rfl, by decide, by decide⟩
  | bool value =>
      cases value with
      | true => exact ⟨_, _, rfl, by decide, by decide⟩
      | false => exact ⟨_, _, rfl, by decide, by decide⟩
  | number mantissa exponent =>
      rcases numberText_head mantissa exponent with ⟨char, text, same, digit | minus⟩
      · refine ⟨char, text, same, not_isBlank_of_isDigit digit, ?_⟩
        rintro rfl
        cases digit
      · subst char
        exact ⟨_, _, same, by decide, by decide⟩
  | string value => exact ⟨_, _, rfl, by decide, by decide⟩
  | array items => exact ⟨_, _, rfl, by decide, by decide⟩
  | object members => exact ⟨_, _, rfl, by decide, by decide⟩

theorem skipBlank_text (value : Json) (rest : List Char) :
    skipBlank (value.text ++ rest) = value.text ++ rest := by
  rcases value.text_head with ⟨char, text, same, visible, _⟩
  rw [same]
  exact List.dropWhile_cons_of_neg visible

theorem length_le_flatMap_escape (value : List Char) :
    value.length ≤ (value.flatMap escape).length := by
  induction value with
  | nil => exact Nat.le_refl 0
  | cons char value ih =>
      have escaped : 1 ≤ (escape char).length := by
        rw [escape]
        repeat' split
        all_goals exact Nat.succ_le_succ (Nat.zero_le _)
      rw [List.flatMap_cons, List.length_append, List.length_cons]
      omega

/-- An item and what stands behind it, once each of them is read back. -/
theorem readItems_cons {fuel : Nat} {item : Json} {items : Items} {rest : List Char}
    (readsItem : ∀ behind, Delimited behind →
      readValue fuel (item.text ++ behind) = some (item, behind))
    (readsItems : items ≠ .nil →
      readItems fuel (items.text ++ ']' :: rest) = some (items, rest)) :
    readItems (fuel + 1) ((Items.cons item items).text ++ ']' :: rest) =
      some (.cons item items, rest) := by
  cases items with
  | nil =>
      have closes : Delimited (']' :: rest) := delimited_cons rest (by decide)
      simp only [Items.text, readItems, skipBlank_text, readsItem _ closes, Option.bind_some,
        skipBlank_delimited closes, if_true]
  | cons next more =>
      have continues : ∀ text, Delimited (',' :: text) := fun text =>
        delimited_cons text (by decide)
      have apart : ¬ ',' = ']' := by decide
      simp only [Items.text, List.append_assoc, List.cons_append, readItems, skipBlank_text,
        readsItem _ (continues _), Option.bind_some, skipBlank_delimited (continues _), apart,
        if_false, if_true]
      rw [readsItems (by simp only [ne_eq, reduceCtorEq, not_false_eq_true])]
      rfl

/-- A member and what stands behind it, once each of them is read back. -/
theorem readMembers_cons {fuel : Nat} {name : List Char} {value : Json} {members : Members}
    {rest : List Char} (enough : name.length < fuel)
    (readsValue : ∀ behind, Delimited behind →
      readValue fuel (value.text ++ behind) = some (value, behind))
    (readsMembers : members ≠ .nil →
      readMembers fuel (members.text ++ '\x7d' :: rest) = some (members, rest)) :
    readMembers (fuel + 1) ((Members.cons name value members).text ++ '\x7d' :: rest) =
      some (.cons name value members, rest) := by
  have quoted : ∀ text, skipBlank ('"' :: text) = '"' :: text := fun text =>
    List.dropWhile_cons_of_neg (by decide)
  have named : ∀ text, skipBlank (':' :: text) = ':' :: text := fun text =>
    List.dropWhile_cons_of_neg (by decide)
  cases members with
  | nil =>
      have closes : Delimited ('\x7d' :: rest) := delimited_cons rest (by decide)
      simp only [Members.text, quote, List.append_assoc, List.cons_append, List.nil_append,
        readMembers, quoted, List.head?_cons, List.drop_one, List.tail_cons,
        readString_quote name enough, Option.bind_some, named, skipBlank_text,
        readsValue _ closes, skipBlank_delimited closes, if_true]
  | cons next other more =>
      have continues : ∀ text, Delimited (',' :: text) := fun text =>
        delimited_cons text (by decide)
      have apart : ¬ ',' = '\x7d' := by decide
      simp only [Members.text, quote, List.append_assoc, List.cons_append, List.nil_append,
        readMembers, quoted, List.head?_cons, List.drop_one, List.tail_cons,
        readString_quote name enough, Option.bind_some, named, skipBlank_text,
        readsValue _ (continues _), skipBlank_delimited (continues _), apart, if_false, if_true]
      rw [readsMembers (by simp only [ne_eq, reduceCtorEq, not_false_eq_true])]
      rfl

theorem Items.text_head (item : Json) (items : Items) :
    ∃ char text, (Items.cons item items).text = char :: text ∧ ¬isBlank char ∧ char ≠ ']' := by
  rcases item.text_head with ⟨char, text, same, visible, opens⟩
  cases items with
  | nil => exact ⟨char, text, same, visible, opens⟩
  | cons next more =>
      refine ⟨char, text ++ ',' :: (Items.cons next more).text, ?_, visible, opens⟩
      rw [Items.text, same, List.cons_append]

theorem Members.text_head (name : List Char) (value : Json) (members : Members) :
    ∃ text, (Members.cons name value members).text = '"' :: text := by
  cases members with
  | nil => exact ⟨_, rfl⟩
  | cons next other more => exact ⟨_, rfl⟩

/-- What begins like a number is read as one. -/
theorem readValue_numeric (fuel : Nat) {char : Char} (text : List Char)
    (numeric : char.isDigit ∨ char = '-') :
    readValue (fuel + 1) (char :: text) = readNumber (char :: text) := by
  have apart : ∀ other : Char, ¬(other.isDigit ∨ other = '-') → char ≠ other := by
    rintro other plain rfl
    exact plain numeric
  rw [readValue, if_neg (apart '\x7b' (by decide)), if_neg (apart '[' (by decide)),
    if_neg (apart '"' (by decide)), if_neg (apart 'n' (by decide)),
    if_neg (apart 't' (by decide)), if_neg (apart 'f' (by decide))]

/-- Brackets around items that are read back. -/
theorem readValue_items {fuel : Nat} {items : Items} {rest : List Char} (filled : items ≠ .nil)
    (reads : readItems fuel (items.text ++ ']' :: rest) = some (items, rest)) :
    readValue (fuel + 1) ((Json.array items).text ++ rest) = some (.array items, rest) := by
  cases items with
  | nil => exact absurd rfl filled
  | cons item items =>
      rcases Items.text_head item items with ⟨char, text, same, visible, opens⟩
      have closed : ¬some char = some ']' := fun closes => opens (Option.some.inj closes)
      have start : skipBlank (char :: (text ++ ']' :: rest)) = char :: (text ++ ']' :: rest) :=
        List.dropWhile_cons_of_neg visible
      rw [same, List.cons_append] at reads
      simp only [Json.text, same, List.append_assoc, List.cons_append, List.nil_append, readValue,
        Char.reduceEq, if_false, if_true, start, List.head?_cons, closed, reads, Option.map_some]

/-- Braces around members that are read back. -/
theorem readValue_members {fuel : Nat} {members : Members} {rest : List Char}
    (filled : members ≠ .nil)
    (reads : readMembers fuel (members.text ++ '\x7d' :: rest) = some (members, rest)) :
    readValue (fuel + 1) ((Json.object members).text ++ rest) = some (.object members, rest) := by
  cases members with
  | nil => exact absurd rfl filled
  | cons name value members =>
      rcases Members.text_head name value members with ⟨text, same⟩
      have start : skipBlank ('"' :: (text ++ '\x7d' :: rest)) = '"' :: (text ++ '\x7d' :: rest) :=
        List.dropWhile_cons_of_neg (by decide)
      rw [same, List.cons_append] at reads
      simp only [Json.text, same, List.append_assoc, List.cons_append, List.nil_append, readValue,
        Char.reduceEq, if_false, if_true, start, List.head?_cons, Option.some.injEq, reads,
        Option.map_some]

mutual

/-- A value that is written is read back, whatever stands behind it. -/
theorem Json.readValue_text : (value : Json) → ∀ {fuel : Nat} {rest : List Char},
    value.text.length ≤ fuel → Delimited rest →
      readValue fuel (value.text ++ rest) = some (value, rest)
  | .null, 0, _, enough, _ => absurd enough (by decide)
  | .null, _ + 1, _, _, _ => rfl
  | .bool true, 0, _, enough, _ => absurd enough (by decide)
  | .bool true, _ + 1, _, _, _ => rfl
  | .bool false, 0, _, enough, _ => absurd enough (by decide)
  | .bool false, _ + 1, _, _, _ => rfl
  | .number mantissa exponent, fuel, rest, enough, delimited => by
      have read := readNumber_numberText mantissa exponent delimited
      rcases numberText_head mantissa exponent with ⟨char, text, same, numeric⟩
      rw [Json.text, same] at enough ⊢
      rw [same] at read
      cases fuel with
      | zero => cases enough
      | succ fuel =>
          rw [List.cons_append, readValue_numeric fuel _ numeric]
          exact read
  | .string value, 0, _, enough, _ => by cases enough
  | .string value, fuel + 1, rest, enough, _ => by
      have long := length_le_flatMap_escape value
      simp only [Json.text, quote, List.length_cons, List.length_append, List.length_nil]
        at enough
      simp only [Json.text, quote, List.append_assoc, List.cons_append, List.nil_append,
        readValue, Char.reduceEq, if_false, if_true]
      rw [readString_quote value (by omega)]
      rfl
  | .array .nil, 0, _, enough, _ => absurd enough (by decide)
  | .array .nil, _ + 1, _, _, _ => rfl
  | .array (.cons item items), 0, _, enough, _ => by cases enough
  | .array (.cons item items), fuel + 1, rest, enough, _ => by
      have filled : Items.cons item items ≠ .nil := by
        simp only [ne_eq, reduceCtorEq, not_false_eq_true]
      simp only [Json.text, List.length_cons, List.length_append, List.length_nil] at enough
      exact readValue_items filled ((Items.cons item items).readItems_text filled (by omega))
  | .object .nil, 0, _, enough, _ => absurd enough (by decide)
  | .object .nil, _ + 1, _, _, _ => rfl
  | .object (.cons name value members), 0, _, enough, _ => by cases enough
  | .object (.cons name value members), fuel + 1, rest, enough, _ => by
      have filled : Members.cons name value members ≠ .nil := by
        simp only [ne_eq, reduceCtorEq, not_false_eq_true]
      simp only [Json.text, List.length_cons, List.length_append, List.length_nil] at enough
      exact readValue_members filled
        ((Members.cons name value members).readMembers_text filled (by omega))

theorem Items.readItems_text : (items : Items) → items ≠ .nil → ∀ {fuel : Nat}
    {rest : List Char}, items.text.length < fuel →
      readItems fuel (items.text ++ ']' :: rest) = some (items, rest)
  | .nil, filled, _, _, _ => absurd rfl filled
  | .cons _ _, _, 0, _, enough => by cases enough
  | .cons item .nil, _, fuel + 1, _, enough =>
      readItems_cons (fun _ => item.readValue_text (Nat.le_of_lt_succ enough))
        (absurd rfl)
  | .cons item (.cons next items), _, fuel + 1, _, enough => by
      simp only [Items.text, List.length_append, List.length_cons] at enough
      exact readItems_cons (fun _ => item.readValue_text (by omega))
        fun filled => (Items.cons next items).readItems_text filled (by omega)

theorem Members.readMembers_text : (members : Members) → members ≠ .nil → ∀ {fuel : Nat}
    {rest : List Char}, members.text.length < fuel →
      readMembers fuel (members.text ++ '\x7d' :: rest) = some (members, rest)
  | .nil, filled, _, _, _ => absurd rfl filled
  | .cons _ _ _, _, 0, _, enough => by cases enough
  | .cons name value .nil, _, fuel + 1, _, enough => by
      have long := length_le_flatMap_escape name
      simp only [Members.text, quote, List.length_append, List.length_cons] at enough
      exact readMembers_cons (by omega) (fun _ => value.readValue_text (by omega)) (absurd rfl)
  | .cons name value (.cons next other members), _, fuel + 1, _, enough => by
      have long := length_le_flatMap_escape name
      simp only [Members.text, quote, List.length_append, List.length_cons] at enough
      exact readMembers_cons (by omega) (fun _ => value.readValue_text (by omega))
        fun filled => (Members.cons next other members).readMembers_text filled (by omega)

end

/-- `JSON.parse` reads what is written. -/
theorem parse_text (value : Json) : parse value.text = some value := by
  have read := value.readValue_text (Nat.le_succ value.text.length) delimited_nil
  have start := skipBlank_text value []
  rw [List.append_nil] at read start
  rw [parse, start, read]
  rfl

theorem length_le_flatMap {Item Part : Type*} {parts : Item → List Part}
    (some : ∀ item, 0 < (parts item).length) (items : List Item) :
    items.length ≤ (items.flatMap parts).length := by
  induction items with
  | nil => exact Nat.zero_le _
  | cons item items ih =>
      have first := some item
      rw [List.flatMap_cons, List.length_append, List.length_cons]
      omega

theorem length_escape_pos (char : Char) : 0 < (escape char).length := by
  rw [escape]
  repeat' split
  all_goals exact Nat.succ_pos _

theorem length_le_quote (value : List Char) : value.length ≤ (quote value).length := by
  have written := length_le_flatMap length_escape_pos value
  rw [quote, List.cons_append, List.length_cons, List.length_append]
  omega

theorem length_value_le (name : List Char) (value : Json) (members : Members) :
    value.text.length ≤ (Members.cons name value members).text.length := by
  cases members with
  | nil =>
      rw [Members.text, List.length_append, List.length_cons]
      omega
  | cons next other members =>
      rw [Members.text, List.append_assoc, List.length_append, List.cons_append, List.length_cons,
        List.length_append]
      omega

theorem length_members_le (name : List Char) (value : Json) (members : Members) :
    members.text.length ≤ (Members.cons name value members).text.length := by
  cases members with
  | nil => exact Nat.zero_le _
  | cons next other members =>
      rw [Members.text, List.length_append, List.length_cons]
      omega

theorem length_members_le_object (members : Members) :
    members.text.length ≤ (Json.object members).text.length := by
  rw [Json.text, List.cons_append, List.length_cons, List.length_append]
  omega

end JsonText
