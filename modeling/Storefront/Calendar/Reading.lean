import Storefront.Calendar.Civil
import Storefront.Text.Digit
import Storefront.Text.Quoted

/-! # Reading dates

`Moment.read` reads a date and time of day.  It first tries the form that this library writes, then
the interchange formats: a calendar or week date, with or without hyphens, a separating character, a
time of day with or without colons, and an offset.  The error says what is wrong with the text.

The interchange formats are read octet by octet: their lengths and places count octets, every part
but the separating character is ASCII, and a zero octet where a part of the time may end counts as
the end of the text. -/

namespace Storefront.Calendar

open Text

/-- Why a text is not a moment. -/
inductive DateError where
  /-- The text has none of the known forms. -/
  | malformed (text : String)
  | yearRange (year : Int)
  | monthRange
  | dayRange
  | hourRange
  | minuteRange
  | secondRange
  /-- The offset, in microseconds, is a day or more. -/
  | offsetRange (offset : Int)
  deriving DecidableEq, Repr

/-- The number of microseconds of a day. -/
def dayLength : Int := 86400000000

/-- What is wrong with a date, in words. -/
def DateError.message : DateError → String
  | .malformed text => "Invalid isoformat string: " ++ Text.quoted text
  | .yearRange year => "year " ++ Decimal.whole year ++ " is out of range"
  | .monthRange => "month must be in 1..12"
  | .dayRange => "day is out of range for month"
  | .hourRange => "hour must be in 0..23"
  | .minuteRange => "minute must be in 0..59"
  | .secondRange => "second must be in 0..59"
  | .offsetRange offset =>
    let part := fun (name : String) (n : Int) =>
      if n = 0 then "" else ", " ++ name ++ "=" ++ Decimal.whole n
    let rest := offset % dayLength
    "offset must be a timedelta strictly between -timedelta(hours=24) and timedelta(hours=24), " ++
      "not datetime.timedelta(days=" ++ Decimal.whole (offset / dayLength) ++
      part "seconds" (rest / 1000000) ++ part "microseconds" (rest % 1000000) ++ ")."

/-- The values of a list of digits of any script. -/
def digitValues? (cs : List Char) : Option (List Nat) := cs.mapM digitValue?

/-- The number of a list of digits of any script. -/
def number? (cs : List Char) : Option Nat :=
  (digitValues? cs).map (·.foldl (fun n d => 10 * n + d) 0)

/-- A field of one or two digits: the first of two digits is an ASCII digit from `tens`, the second
any digit. -/
def shortField? (tens : List Char) (cs : List Char) : Option Nat :=
  match cs with
  | [d] => digitValue? d
  | [t, d] => if t ∈ tens then (digitValue? d).map ((t.toNat - 48) * 10 + ·) else none
  | _ => none

/-- A field of one or two ASCII digits. -/
def asciiField? (cs : List Char) : Option Nat :=
  if cs.all Char.isDigit then number? cs else none

/-- The month field: 1 to 12, with an optional leading zero. -/
def monthField? (cs : List Char) : Option Nat :=
  match cs with
  | [_] | [_, _] => (asciiField? cs).bind fun m => if 1 ≤ m ∧ m ≤ 12 then some m else none
  | _ => none

/-- The day field: 1 to 31, with an optional leading zero or, before a single digit, a space. -/
def dayField? (cs : List Char) : Option Nat :=
  match cs with
  | [d] | ['0', d] | [' ', d] =>
    if d.isDigit ∧ d ≠ '0' then some (d.toNat - 48) else none
  | ['1', _] | ['2', _] => shortField? ['1', '2'] cs
  | ['3', '0'] => some 30
  | ['3', '1'] => some 31
  | _ => none

/-- The hour field: 0 to 23. -/
def hourField? (cs : List Char) : Option Nat :=
  match cs with
  | ['2', d] => if d.isDigit ∧ d ≤ '3' then some (20 + (d.toNat - 48)) else none
  | _ => shortField? ['0', '1'] cs

/-- The minute field: 0 to 59. -/
def minuteField? (cs : List Char) : Option Nat :=
  shortField? ['0', '1', '2', '3', '4', '5'] cs

/-- Splits a text at the first character of a set; the set's character is dropped. -/
def splitAt? (seps : List Char) (cs : List Char) : Option (List Char × List Char) :=
  match cs.dropWhile (· ∉ seps) with
  | [] => none
  | _ :: rest => some (cs.takeWhile (· ∉ seps), rest)

/-- Whether a date exists. -/
def dateExists (year : Int) (month day : Nat) : Bool :=
  1 ≤ year && 1 ≤ month && month ≤ 12 && 1 ≤ day && day ≤ daysInMonth year month

/-- Reads the form that this library writes, with leading zeros optional except in the year. -/
def readTimestamp? (s : String) : Option Moment := do
  let cs := s.toList
  let year ← number? (cs.take 4)
  guard (4 ≤ cs.length)
  let ('-' :: cs) := cs.drop 4 | none
  let (monthText, cs) ← splitAt? ['-'] cs
  let month ← monthField? monthText
  let (dayText, cs) ← splitAt? ['T', 't'] cs
  let day ← dayField? dayText
  let (hourText, cs) ← splitAt? [':'] cs
  let hour ← hourField? hourText
  let (minuteText, cs) ← splitAt? [':'] cs
  let minute ← minuteField? minuteText
  let (secondText, cs) ← splitAt? ['Z', 'z'] cs
  let second ← minuteField? secondText
  guard (cs = [] ∧ dateExists year month day)
  some ⟨year, month, day, hour, minute, second⟩

/-- Reads a fixed number of ASCII digits off the front. -/
def takeDigits? (n : Nat) (cs : List Char) : Option (Nat × List Char) :=
  let ds := cs.take n
  if ds.length = n ∧ ds.all Char.isDigit then
    some (ds.foldl (fun k c => 10 * k + (c.toNat - 48)) 0, cs.drop n)
  else none

/-- The character at a position, NUL past the end. -/
def charAt (cs : List Char) (i : Nat) : Char := cs.getD i '\x00'

/-- Where the date ends and the separating character stands, judged by the form that the date seems
to have. -/
def datePartLength (cs : List Char) : Nat :=
  if cs.length = 7 then 7
  else if charAt cs 4 = '-' then
    if charAt cs 5 = 'W' then
      if 8 < cs.length ∧ charAt cs 8 = '-' then
        if 10 < cs.length ∧ (charAt cs 10).isDigit then 8 else 10
      else 8
    else 10
  else if charAt cs 4 = 'W' then
    let run := ((cs.drop 7).takeWhile Char.isDigit).length + 7
    if run < 9 then run else if run % 2 = 0 then 7 else 8
  else 8

/-- The date of a day of a week of a year that is counted in weeks, where it exists.  The calendar
starts with year 1: a week of year 0 is given a month that does not exist. -/
def weekDate? (year : Int) (week day : Nat) : Option (Int × Nat × Nat) :=
  let first := weekday (dayNumber year 1 1)
  let long := first = 3 ∨ (first = 2 ∧ isLeap year)
  if (week = 0 ∨ 53 < week ∨ (week = 53 ∧ ¬ long)) ∨ (day = 0 ∨ 7 < day) then none
  else if year < 1 then some (1, 0, 0)
  else
    let start := dayNumber year 1 1
    let monday := start - first + if 3 < first then 7 else 0
    some (civil (monday + (week - 1) * 7 + day - 1))

/-- Reads a date that fills the whole list. -/
def readDate? (cs : List Char) : Option (Int × Nat × Nat) := do
  let (year, cs) ← takeDigits? 4 cs
  let hyphens := cs.head? = some '-'
  let cs := if hyphens then cs.tail else cs
  match cs with
  | 'W' :: cs =>
    let (week, cs) ← takeDigits? 2 cs
    match cs with
    | [] => weekDate? year week 1
    | c :: rest =>
      guard (¬ hyphens ∨ c = '-')
      let (day, _) ← takeDigits? 1 (if hyphens then rest else c :: rest)
      weekDate? year week day
  | cs =>
    let (month, cs) ← takeDigits? 2 cs
    let cs ← if hyphens then (match cs with | '-' :: cs => some cs | _ => none) else some cs
    let (day, cs) ← takeDigits? 2 cs
    guard (cs = [])
    some (year, month, day)

/-- A time of day as far as it is given, and whether text was left over. -/
structure Clock where
  hour : Nat
  minute : Nat
  second : Nat
  microsecond : Nat
  leftover : Bool

/-- Midnight. -/
def Clock.midnight : Clock := ⟨0, 0, 0, 0, false⟩

/-- Whether a character stands where a text goes on. -/
def goesOn (c : Char) : Bool := c ≠ '\x00'

/-- Reads the digits behind the point of a second, six of which count: the number of microseconds,
and whether text was left over. `stop` is the character behind the clock text. -/
def readFraction? (stop : Char) (cs : List Char) : Option (Nat × Bool) := do
  let places := min cs.length 6
  let (n, rest) ← takeDigits? places cs
  some (n * Decimal.tenTo (6 - places), goesOn ((rest.dropWhile Char.isDigit).headD stop))

/-- Reads the part of a clock text behind its first fields, which `acc` holds, last first; `fields`
more may follow, with colons between all or between none. -/
def readClockFrom? (stop : Char) (colons : Bool) (fields : Nat) (acc : List Nat)
    (cs : List Char) : Option (List Nat × Nat × Bool) :=
  let finish := fun (acc : List Nat) (cs : List Char) =>
    (readFraction? stop cs).map fun (n, leftover) => (acc.reverse, n, leftover)
  match fields with
  | 0 => finish acc cs
  | fields + 1 => do
    let (v, rest) ← takeDigits? 2 cs
    let acc := v :: acc
    match rest with
    | [] => some (acc.reverse, 0, goesOn stop)
    | [c] => some (acc.reverse, 0, goesOn c)
    | c :: rest' =>
      let colons := if acc.length = 1 then c = ':' else colons
      if colons ∧ c = ':' then readClockFrom? stop colons fields acc rest'
      else if c = '.' ∨ c = ',' then finish acc rest'
      else if ¬ colons then readClockFrom? stop colons fields acc rest
      else none

/-- Reads a clock text, which `stop` stands behind. -/
def readClock? (stop : Char) (cs : List Char) : Option Clock := do
  let (fields, microsecond, leftover) ← readClockFrom? stop true 3 [] cs
  some ⟨fields.getD 0 0, fields.getD 1 0, fields.getD 2 0, microsecond, leftover⟩

/-- The offset that a clock text behind a sign stands for, in microseconds.  Less than a second is
no offset. -/
def Clock.offset (c : Clock) (negative : Bool) : Int :=
  let seconds := c.hour * 3600 + c.minute * 60 + c.second
  let n : Int := if seconds = 0 then 0 else seconds * 1000000 + c.microsecond
  if negative then -n else n

/-- Reads a time of day with an optional offset. -/
def readTime? (cs : List Char) : Option (Clock × Int) := do
  let isSign := fun c : Char => c = '+' || c = '-'
  let clockText := cs.takeWhile (!isSign ·)
  match cs.dropWhile (!isSign ·) with
  | [] =>
    let clock ← readClock? '\x00' clockText
    guard (¬ clock.leftover)
    some (clock, 0)
  | sign :: rest =>
    -- What stands between the clock text and the sign is passed over.
    let clock ← readClock? sign clockText
    let offset ← readClock? '\x00' rest
    guard (¬ offset.leftover)
    some (clock, offset.offset (sign = '-'))

/-- The moment of a date and a clock reading, or what is out of range. -/
def Moment.check (year : Int) (month day : Nat) (clock : Clock) (offset : Int) :
    Except DateError Moment :=
  if dayLength ≤ offset.natAbs then .error (.offsetRange offset)
  else if year < 1 ∨ 9999 < year then .error (.yearRange year)
  else if month < 1 ∨ 12 < month then .error .monthRange
  else if day < 1 ∨ daysInMonth year month < day then .error .dayRange
  else if 23 < clock.hour then .error .hourRange
  else if 59 < clock.minute then .error .minuteRange
  else if 59 < clock.second then .error .secondRange
  else .ok ⟨year, month, day, clock.hour, clock.minute, clock.second⟩

/-- The octets of a text in UTF-8, each as the character of that number. -/
def octets (s : String) : List Char := s.toUTF8.toList.map fun b => Char.ofNat b.toNat

/-- The number of octets of the character that an octet begins. -/
def octetCount (c : Char) : Nat :=
  if c.toNat < 0x80 then 1
  else if c.toNat / 16 = 0xe then 3
  else if c.toNat / 16 = 0xf then 4
  else 2

/-- Reads a date and a time of day in one of the interchange formats. -/
def readInterchange (s : String) : Except DateError Moment :=
  let cs := octets s
  let cut := datePartLength cs
  let parsed := do
    let date ← readDate? (cs.take cut)
    match cs.drop cut with
    | [] => some (date, Clock.midnight, 0)
    | c :: rest =>
      let (clock, offset) ← readTime? (rest.drop (octetCount c - 1))
      some (date, clock, offset)
  match parsed with
  | none => .error (.malformed s)
  | some ((year, month, day), clock, offset) => Moment.check year month day clock offset

/-- A text with every capital Z spelled as the offset zero. -/
def spellZulu (s : String) : String :=
  String.ofList (s.toList.flatMap fun c => if c = 'Z' then "+00:00".toList else [c])

/-- Reads a moment: the form that this library writes, else an interchange format. -/
def Moment.read (s : String) : Except DateError Moment :=
  match readTimestamp? s with
  | some m => .ok m
  | none => readInterchange (spellZulu s)

end Storefront.Calendar
