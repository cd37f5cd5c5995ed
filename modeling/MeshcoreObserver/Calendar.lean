import MeshcoreObserver.Json.JsonText
import Mathlib.Algebra.BigOperators.Group.List.Basic
import Mathlib.Algebra.GroupWithZero.Nat
import Mathlib.Algebra.Order.BigOperators.Group.List
import Mathlib.Algebra.Order.Group.Nat

/-!
# Calendar dates

The dates of the Gregorian calendar with a year of four digits: the number of a
date counted from the first of January 1970, its text, and the date that follows.
The numbers are in the order of the dates, and one date is one number further
than the date it follows.
-/

namespace Calendar

open JsonText

def isLeap (year : Nat) : Bool := year % 4 = 0 && (year % 100 ≠ 0 || year % 400 = 0)

/-- The number of the first of January. -/
def dayFromYear (year : Nat) : Int :=
  365 * ((year : Int) - 1970) + ((year : Int) - 1969) / 4 - ((year : Int) - 1901) / 100 +
    ((year : Int) - 1601) / 400

def monthLengths (year : Nat) : List Nat :=
  [31, if isLeap year then 29 else 28, 31, 30, 31, 30, 31, 31, 30, 31, 30, 31]

def daysInMonth (year month : Nat) : Nat := (monthLengths year).getD (month - 1) 0

/-- The days of the year in front of a month. -/
def daysBefore (year month : Nat) : Nat := ((monthLengths year).take (month - 1)).sum

structure Date where
  year : Nat
  month : Nat
  day : Nat
  year_le : year ≤ 9999
  month_mem : 1 ≤ month ∧ month ≤ 12
  day_mem : 1 ≤ day ∧ day ≤ daysInMonth year month
  deriving DecidableEq

/-- The date, where the calendar has one. -/
def date? (year month day : Nat) : Option Date :=
  if valid : year ≤ 9999 ∧ (1 ≤ month ∧ month ≤ 12) ∧ 1 ≤ day ∧ day ≤ daysInMonth year month then
    some ⟨year, month, day, valid.1, valid.2.1, valid.2.2⟩
  else none

namespace Date

def dayNumber (date : Date) : Int :=
  dayFromYear date.year + daysBefore date.year date.month + (date.day - 1)

instance : LE Date where
  le first second :=
    first.year < second.year ∨ (first.year = second.year ∧
      (first.month < second.month ∨ (first.month = second.month ∧ first.day ≤ second.day)))

instance (first second : Date) : Decidable (first ≤ second) :=
  inferInstanceAs (Decidable (_ ∨ _))

/-- The date of the day after. -/
def next (date : Date) : Option Date :=
  if date.day < daysInMonth date.year date.month then date? date.year date.month (date.day + 1)
  else if date.month < 12 then date? date.year (date.month + 1) 1
  else date? (date.year + 1) 1 1

end Date

theorem dayFromYear_succ (year : Nat) :
    dayFromYear (year + 1) = dayFromYear year + (if isLeap year then 366 else 365) := by
  simp only [dayFromYear, isLeap, Bool.and_eq_true, Bool.or_eq_true, decide_eq_true_eq]
  split <;> omega

theorem dayFromYear_mono {first second : Nat} (le : first ≤ second) :
    dayFromYear first ≤ dayFromYear second := by
  induction second, le using Nat.le_induction with
  | base => exact Int.le_refl _
  | succ second _ ih =>
      rw [dayFromYear_succ]
      split <;> omega

theorem sum_monthLengths (year : Nat) :
    (monthLengths year).sum = if isLeap year then 366 else 365 := by
  rw [monthLengths]
  cases isLeap year <;> rfl

theorem length_monthLengths (year : Nat) : (monthLengths year).length = 12 := rfl

/-- A month ends where the next one begins. -/
theorem daysBefore_succ (year : Nat) {month : Nat} (known : 1 ≤ month ∧ month ≤ 12) :
    daysBefore year (month + 1) = daysBefore year month + daysInMonth year month := by
  have inside : month - 1 < (monthLengths year).length := by
    rw [length_monthLengths]
    omega
  have successor : month + 1 - 1 = month - 1 + 1 := by omega
  rw [daysBefore, daysBefore, daysInMonth, successor, List.sum_take_succ _ _ inside,
    List.getD_eq_getElem?_getD, List.getElem?_eq_getElem inside, Option.getD_some]

theorem daysBefore_mono (year : Nat) {first second : Nat} (le : first ≤ second) :
    daysBefore year first ≤ daysBefore year second := by
  have fewer : first - 1 ≤ second - 1 := by omega
  have sublist : ((monthLengths year).take (first - 1)).Sublist
      ((monthLengths year).take (second - 1)) := List.take_sublist_take_left fewer
  exact sublist.sum_le_sum fun _ _ => Nat.zero_le _

/-- The next year begins where December ends. -/
theorem dayFromYear_succ_eq (year : Nat) :
    dayFromYear (year + 1) = dayFromYear year + daysBefore year 13 := by
  have whole : daysBefore year 13 = if isLeap year then 366 else 365 := sum_monthLengths year
  rw [dayFromYear_succ, whole]
  split <;> rfl

theorem daysBefore_one (year : Nat) : daysBefore year 1 = 0 := rfl

namespace Date

variable {date first second : Date}

theorem le_iff :
    first ≤ second ↔ first.year < second.year ∨ (first.year = second.year ∧
      (first.month < second.month ∨ (first.month = second.month ∧ first.day ≤ second.day))) :=
  Iff.rfl

/-- A date lies in front of the next month. -/
theorem dayNumber_lt (date : Date) :
    date.dayNumber < dayFromYear date.year + daysBefore date.year (date.month + 1) := by
  have month := daysBefore_succ date.year date.month_mem
  have day := date.day_mem.2
  rw [dayNumber, month]
  omega

theorem dayFromYear_le (date : Date) : dayFromYear date.year ≤ date.dayNumber := by
  have day := date.day_mem.1
  rw [dayNumber]
  omega

/-- A date lies in front of the next year. -/
theorem dayNumber_lt_dayFromYear (date : Date) : date.dayNumber < dayFromYear (date.year + 1) := by
  have lastDay := date.dayNumber_lt
  have months : daysBefore date.year (date.month + 1) ≤ daysBefore date.year 13 :=
    daysBefore_mono date.year (Nat.succ_le_succ date.month_mem.2)
  rw [dayFromYear_succ_eq]
  omega

theorem dayNumber_lt_of_year (before : first.year < second.year) :
    first.dayNumber < second.dayNumber :=
  calc first.dayNumber
      _ < dayFromYear (first.year + 1) := first.dayNumber_lt_dayFromYear
      _ ≤ dayFromYear second.year := dayFromYear_mono before
      _ ≤ second.dayNumber := second.dayFromYear_le

theorem dayNumber_lt_of_month (year : first.year = second.year)
    (before : first.month < second.month) : first.dayNumber < second.dayNumber := by
  have lastDay := first.dayNumber_lt
  have months : daysBefore first.year (first.month + 1) ≤ daysBefore first.year second.month :=
    daysBefore_mono first.year before
  have day := second.day_mem.1
  rw [dayNumber.eq_1 second, ← year]
  omega

/-- The numbers of dates are in the order of the dates. -/
theorem dayNumber_le_iff : first.dayNumber ≤ second.dayNumber ↔ first ≤ second := by
  rw [le_iff]
  rcases Nat.lt_trichotomy first.year second.year with before | year | after
  · have numbers := dayNumber_lt_of_year before
    omega
  · rcases Nat.lt_trichotomy first.month second.month with before | month | after
    · have numbers := dayNumber_lt_of_month year before
      omega
    · have firstNumber : first.dayNumber =
          dayFromYear second.year + daysBefore second.year second.month + (first.day - 1) := by
        rw [dayNumber, year, month]
      rw [firstNumber, dayNumber]
      omega
    · have numbers := dayNumber_lt_of_month year.symm after
      omega
  · have numbers := dayNumber_lt_of_year after
    omega

theorem eq_of_date? {year month day : Nat} (known : date? year month day = some date) :
    date.year = year ∧ date.month = month ∧ date.day = day := by
  rw [date?] at known
  split at known
  · cases known
    exact ⟨rfl, rfl, rfl⟩
  · cases known

/-- The date after has the next number. -/
theorem dayNumber_next (follows : first.next = some second) :
    second.dayNumber = first.dayNumber + 1 := by
  have month := daysBefore_succ first.year first.month_mem
  have day := first.day_mem
  have atMost := first.month_mem.2
  rw [next] at follows
  split at follows
  · rcases eq_of_date? follows with ⟨sameYear, sameMonth, later⟩
    rw [dayNumber, dayNumber, sameYear, sameMonth, later]
    omega
  · split at follows
    · rcases eq_of_date? follows with ⟨sameYear, nextMonth, firstDay⟩
      rw [dayNumber, dayNumber, sameYear, nextMonth, firstDay, month]
      omega
    · rcases eq_of_date? follows with ⟨nextYear, january, firstDay⟩
      rename_i lastDay lastMonth
      have december : first.month = 12 := by omega
      rw [december] at month day lastDay
      rw [dayNumber, dayNumber, nextYear, january, firstDay, daysBefore_one, dayFromYear_succ_eq,
        month, december]
      omega

end Date

/-- The last digits of a number. -/
def digits : Nat → Nat → List Char
  | 0, _ => []
  | places + 1, value => digits places (value / 10) ++ [(value % 10).digitChar]

/-- `YYYY-MM-DD`. -/
def Date.text (date : Date) : List Char :=
  digits 4 date.year ++ '-' :: (digits 2 date.month ++ '-' :: digits 2 date.day)

def isDate (text : List Char) : Bool :=
  text.length = 10 && (text.drop 4).head? = some '-' && (text.drop 7).head? = some '-' &&
    (text.take 4 ++ (text.drop 5).take 2 ++ text.drop 8).all Char.isDigit

/-- The date a text says, if it is one. -/
def ofText (text : List Char) : Option Date :=
  if isDate text then
    date? (natural (text.take 4)) (natural ((text.drop 5).take 2)) (natural (text.drop 8))
  else none

theorem natural_digits {places value : Nat} (bound : value < 10 ^ places) :
    natural (digits places value) = value := by
  induction places generalizing value with
  | zero =>
      have zero : value = 0 := by simpa using bound
      rw [zero]
      rfl
  | succ places ih =>
      have shorter : value / 10 < 10 ^ places := by
        rw [Nat.div_lt_iff_lt_mul (by decide)]
        rwa [Nat.pow_succ] at bound
      rw [digits, natural_append, ih shorter, digitValue_digitChar (Nat.mod_lt _ (by decide))]
      omega

theorem isDigit_of_mem_digits {places value : Nat} {char : Char}
    (charMem : char ∈ digits places value) : char.isDigit = true := by
  induction places generalizing value with
  | zero => cases charMem
  | succ places ih =>
      rcases List.mem_append.mp charMem with former | last
      · exact ih former
      · rw [List.mem_singleton.mp last, Nat.isDigit_digitChar, decide_eq_true_eq]
        exact Nat.mod_lt _ (by decide)

theorem daysInMonth_le (year month : Nat) : daysInMonth year month ≤ 31 := by
  have atMost : ∀ length ∈ monthLengths year, length ≤ 31 := by
    rw [monthLengths]
    cases isLeap year with
    | false => decide
    | true => decide
  rw [daysInMonth, List.getD_eq_getElem?_getD]
  cases found : (monthLengths year)[month - 1]? with
  | none => exact Nat.zero_le _
  | some length => exact atMost length (List.mem_of_getElem? found)

section Text

variable (date : Date)

theorem Date.take_year : date.text.take 4 = digits 4 date.year := rfl

theorem Date.take_month : (date.text.drop 5).take 2 = digits 2 date.month := rfl

theorem Date.drop_day : date.text.drop 8 = digits 2 date.day := rfl

theorem isDate_text : isDate date.text = true := by
  have length : date.text.length = 10 := rfl
  have firstDash : (date.text.drop 4).head? = some '-' := rfl
  have secondDash : (date.text.drop 7).head? = some '-' := rfl
  simp only [isDate, length, firstDash, secondDash, date.take_year, date.take_month,
    date.drop_day, decide_true, Bool.true_and, List.all_eq_true, List.mem_append]
  rintro char ((year | month) | day)
  · exact isDigit_of_mem_digits year
  · exact isDigit_of_mem_digits month
  · exact isDigit_of_mem_digits day

/-- A date is read back from its text. -/
theorem ofText_text : ofText date.text = some date := by
  have year := date.year_le
  have month := date.month_mem
  have day := date.day_mem
  have monthDays := daysInMonth_le date.year date.month
  have yearRead : natural (digits 4 date.year) = date.year := natural_digits (by omega)
  have monthRead : natural (digits 2 date.month) = date.month := natural_digits (by omega)
  have dayRead : natural (digits 2 date.day) = date.day := natural_digits (by omega)
  rw [ofText, if_pos (isDate_text date), date.take_year, date.take_month, date.drop_day, yearRead,
    monthRead, dayRead, date?, dif_pos ⟨year, month, day⟩]

end Text

end Calendar
