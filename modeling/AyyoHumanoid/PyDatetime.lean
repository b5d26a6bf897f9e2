import AyyoHumanoid.PyText
import Mathlib.Tactic.NormNum

/-!
# Calendar instants and their ISO text

A Python `datetime` has calendar fields and an optional UTC offset. Only
instants whose offset is exactly zero are ever stored, and those are written in
the fixed-width form `YYYY-MM-DDTHH:MM:SS.ffffffZ`.
-/

namespace AyyoHumanoid

/-- Leap years of the proleptic Gregorian calendar. -/
def isLeapYear (year : Nat) : Bool :=
  year % 4 == 0 && (year % 100 != 0 || year % 400 == 0)

/-- Days in a month, zero for a number that is not a month. -/
def daysInMonth (year month : Nat) : Nat :=
  if month = 2 then (if isLeapYear year then 29 else 28)
  else if month ∈ [4, 6, 9, 11] then 30
  else if 1 ≤ month ∧ month ≤ 12 then 31
  else 0

/-- The calendar fields of a `datetime`, without its offset. -/
structure CivilFields where
  /-- Year, from 1 to 9999. -/
  year : Nat
  /-- Month, from 1 to 12. -/
  month : Nat
  /-- Day of the month. -/
  day : Nat
  /-- Hour of the day. -/
  hour : Nat
  /-- Minute of the hour. -/
  minute : Nat
  /-- Second of the minute. -/
  second : Nat
  /-- Microsecond of the second. -/
  microsecond : Nat
  deriving DecidableEq, Repr

/-- The ranges that the `datetime` constructor enforces. -/
structure CivilFields.InRange (f : CivilFields) : Prop where
  /-- The year is representable. -/
  year : 1 ≤ f.year ∧ f.year ≤ 9999
  /-- The month exists. -/
  month : 1 ≤ f.month ∧ f.month ≤ 12
  /-- The day exists in its month. -/
  day : 1 ≤ f.day ∧ f.day ≤ daysInMonth f.year f.month
  /-- The hour exists. -/
  hour : f.hour < 24
  /-- The minute exists. -/
  minute : f.minute < 60
  /-- The second exists; leap seconds are not representable. -/
  second : f.second < 60
  /-- The microsecond exists. -/
  microsecond : f.microsecond < 1000000

instance (f : CivilFields) : Decidable f.InRange :=
  decidable_of_iff
    ((1 ≤ f.year ∧ f.year ≤ 9999) ∧ (1 ≤ f.month ∧ f.month ≤ 12) ∧
      (1 ≤ f.day ∧ f.day ≤ daysInMonth f.year f.month) ∧
      f.hour < 24 ∧ f.minute < 60 ∧ f.second < 60 ∧ f.microsecond < 1000000)
    ⟨fun ⟨h1, h2, h3, h4, h5, h6, h7⟩ => ⟨h1, h2, h3, h4, h5, h6, h7⟩,
      fun ⟨h1, h2, h3, h4, h5, h6, h7⟩ => ⟨h1, h2, h3, h4, h5, h6, h7⟩⟩

/-- A valid calendar instant. -/
structure Civil extends CivilFields where
  /-- Every field is in its range. -/
  inRange : toCivilFields.InRange
  deriving DecidableEq

/-- A month never has more than 31 days. -/
theorem daysInMonth_le (year month : Nat) : daysInMonth year month ≤ 31 := by
  unfold daysInMonth
  split
  · split <;> decide
  · split
    · decide
    · split <;> decide

namespace Civil

/-- A mixed-radix number that orders instants by their fields, most significant first. -/
def key (t : Civil) : Nat :=
  (((((t.year * 13 + t.month) * 32 + t.day) * 24 + t.hour) * 60 + t.minute) * 60 + t.second) *
    1000000 + t.microsecond

/-- The day of an instant is at most 31. -/
theorem day_le (t : Civil) : t.day ≤ 31 :=
  t.inRange.day.2.trans (daysInMonth_le t.year t.month)

/-- Instants with one key have the same fields. -/
theorem key_injective : Function.Injective key := by
  intro a b hkey
  have haDay := a.day_le
  have hbDay := b.day_le
  obtain ⟨-, haMonth, -, haHour, haMinute, haSecond, haMicro⟩ := a.inRange
  obtain ⟨-, hbMonth, -, hbHour, hbMinute, hbSecond, hbMicro⟩ := b.inRange
  simp only [key] at hkey
  have hmicro : a.microsecond = b.microsecond := by omega
  have hsecond : a.second = b.second := by omega
  have hminute : a.minute = b.minute := by omega
  have hhour : a.hour = b.hour := by omega
  have hday : a.day = b.day := by omega
  have hmonth : a.month = b.month := by omega
  have hyear : a.year = b.year := by omega
  cases a with
  | mk fa ha =>
    cases b with
    | mk fb hb =>
      cases fa
      cases fb
      simp_all

/-- UTC instants are compared field by field, as `datetime` comparison does. -/
instance : LinearOrder Civil :=
  LinearOrder.lift' key key_injective

/-- The strict order of instants is the strict order of their keys. -/
theorem lt_iff_key {a b : Civil} : a < b ↔ a.key < b.key := Iff.rfl

end Civil

/-- A Python `datetime`: calendar fields and the offset its `tzinfo` reports. -/
structure PyDatetime where
  /-- The calendar fields. -/
  civil : Civil
  /-- `None` for a naive value, otherwise the offset in seconds. -/
  utcoffset : Option Int
  deriving DecidableEq

/-- A UTC datetime. -/
def PyDatetime.utc (civil : Civil) : PyDatetime := ⟨civil, some 0⟩

namespace IsoText

open PyText

/-- Field separators of the ISO form. -/
def dash : CodePoint := 45

/-- The separator of date and time. -/
def letterT : CodePoint := 84

/-- The separator inside a time. -/
def colon : CodePoint := 58

/-- The separator of the fraction. -/
def dot : CodePoint := 46

/-- The UTC suffix. -/
def letterZ : CodePoint := 90

/-- `value.isoformat(timespec="microseconds").replace("+00:00", "Z")` of a UTC instant. -/
def datetimeToText (t : Civil) : PyStr :=
  padDigits 4 t.year ++ dash :: (padDigits 2 t.month ++ dash :: (padDigits 2 t.day ++
    letterT :: (padDigits 2 t.hour ++ colon :: (padDigits 2 t.minute ++
      colon :: (padDigits 2 t.second ++ dot :: (padDigits 6 t.microsecond ++ [letterZ]))))))

/-- Read a decimal field of fixed width that `stop` ends. -/
def takeField (width : Nat) (stop : CodePoint) (text : PyStr) : Option (Nat × PyStr) :=
  match text.drop width with
  | c :: rest => if c = stop then (readDigits 0 (text.take width)).map (·, rest) else none
  | [] => none

/-- `datetime.fromisoformat(value.replace("Z", "+00:00"))` on the stored form. -/
def datetimeFromText (text : PyStr) : Option Civil := do
  let (year, text) ← takeField 4 dash text
  let (month, text) ← takeField 2 dash text
  let (day, text) ← takeField 2 letterT text
  let (hour, text) ← takeField 2 colon text
  let (minute, text) ← takeField 2 colon text
  let (second, text) ← takeField 2 dot text
  let (microsecond, text) ← takeField 6 letterZ text
  let fields : CivilFields := ⟨year, month, day, hour, minute, second, microsecond⟩
  if hrange : fields.InRange ∧ text = [] then some ⟨fields, hrange.1⟩ else none

/-- A padded field followed by its separator reads back. -/
theorem takeField_padDigits {width n : Nat} (hn : n < 10 ^ width) (stop : CodePoint)
    (rest : PyStr) :
    takeField width stop (padDigits width n ++ stop :: rest) = some (n, rest) := by
  have hlen := padDigits_length width n
  have hdrop : (padDigits width n ++ stop :: rest).drop width = stop :: rest :=
    List.drop_left' hlen
  have htake : (padDigits width n ++ stop :: rest).take width = padDigits width n :=
    List.take_left' hlen
  simp only [takeField, hdrop, htake, readDigits_padDigits width n hn]
  simp

/-- The stored text of an instant reads back as the instant. -/
@[simp] theorem datetimeFromText_toText (t : Civil) :
    datetimeFromText (datetimeToText t) = some t := by
  obtain ⟨⟨year, month, day, hour, minute, second, microsecond⟩, hrange⟩ := t
  have hmax := daysInMonth_le year month
  obtain ⟨hyear, hmonth, hday, hhour, hminute, hsecond, hmicro⟩ := id hrange
  simp only at *
  simp only [datetimeToText, datetimeFromText]
  rw [takeField_padDigits (by norm_num; omega)]
  dsimp only [Option.bind_eq_bind, Option.bind_some]
  rw [takeField_padDigits (by norm_num; omega)]
  dsimp only [Option.bind_some]
  rw [takeField_padDigits (by norm_num; omega)]
  dsimp only [Option.bind_some]
  rw [takeField_padDigits (by norm_num; omega)]
  dsimp only [Option.bind_some]
  rw [takeField_padDigits (by norm_num; omega)]
  dsimp only [Option.bind_some]
  rw [takeField_padDigits (by norm_num; omega)]
  dsimp only [Option.bind_some]
  rw [takeField_padDigits (by norm_num; omega)]
  dsimp only [Option.bind_some]
  rw [dif_pos ⟨hrange, rfl⟩]

/-- Distinct instants have distinct stored texts. -/
theorem datetimeToText_injective : Function.Injective datetimeToText := by
  intro a b htext
  have hread := congrArg datetimeFromText htext
  simpa using hread

end IsoText
end AyyoHumanoid
