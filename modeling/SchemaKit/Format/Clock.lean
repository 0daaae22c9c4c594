import SchemaKit.Json.Reader

/-!
# Dates and times of day

Each format is a sequence of fields. A field takes its characters from the front of a text and
leaves the rest; a text has the format if the fields take all of it.

## Main definitions

* `Moment` — the numbers that the check of a date needs.
* `isDate`, `isTime`, `isDateTime` — the formats.
-/

namespace SchemaKit.Format

open Json (isDigit)

/-- Year, month and day read so far. -/
structure Moment where
  year : Nat
  month : Nat
  day : Nat

/-- A field of a format: what it reads into the moment, and the rest of the text. -/
abbrev Field := Moment → List Char → Option (Moment × List Char)

/-- Two digits below `bound`, or a single digit if `short` ones are allowed. -/
def twoDigits (short : Bool) (s : List Char) : Option (Nat × List Char) :=
  match s with
  | a :: b :: rest =>
    if isDigit a && isDigit b then some (Decimal.value [a, b], rest)
    else if isDigit a && short then some (Decimal.value [a], b :: rest)
    else none
  | [a] => if isDigit a && short then some (Decimal.value [a], []) else none
  | [] => none

/-- Four digits. -/
def yearField : Field := fun m s =>
  match s with
  | a :: b :: c :: d :: rest =>
    if [a, b, c, d].all isDigit then some ({ m with year := Decimal.value [a, b, c, d] }, rest)
    else none
  | _ => none

/-- Two digits from 1 to 12. -/
def monthField : Field := fun m s =>
  (twoDigits false s).bind fun (n, rest) =>
    if 1 ≤ n ∧ n ≤ 12 then some ({ m with month := n }, rest) else none

/-- Two digits; whether the month has that day is seen at the end. -/
def dayField : Field := fun m s =>
  (twoDigits false s).map fun (n, rest) => ({ m with day := n }, rest)

/-- One or two digits below 24. -/
def hourField : Field := fun m s =>
  (twoDigits true s).bind fun (n, rest) => if n < 24 then some (m, rest) else none

/-- Two digits below 60. -/
def minuteField : Field := fun m s =>
  (twoDigits false s).bind fun (n, rest) => if n < 60 then some (m, rest) else none

/-- Two digits below 60, with a fraction after a point or comma. -/
def secondField : Field := fun m s =>
  (minuteField m s).map fun (m, rest) =>
    match rest with
    | mark :: d :: more =>
      if (mark == '.' || mark == ',') && isDigit d then (m, more.dropWhile isDigit) else (m, rest)
    | _ => (m, rest)

/-- A fixed character. -/
def mark (c : Char) : Field := fun m s =>
  match s with
  | d :: rest => if d = c then some (m, rest) else none
  | [] => none

/-- `Z`, or an offset from it in hours and minutes. -/
def zoneField : Field := fun m s =>
  match s with
  | 'Z' :: rest => some (m, rest)
  | sign :: a :: b :: ':' :: c :: d :: rest =>
    match twoDigits false [a, b], twoDigits false [c, d] with
    | some (h, _), some (n, _) =>
      if (sign == '+' || sign == '-') && h ≤ 24 && n ≤ 60 then some (m, rest) else none
    | _, _ => none
  | _ => none

/-- Every fourth year has a day more, but of full centuries only every fourth one. -/
def isLeapYear (year : Nat) : Bool := year % 4 == 0 && (year % 100 != 0 || year % 400 == 0)

/-- The number of days of a month. -/
def daysIn (year month : Nat) : Nat :=
  if month = 2 then (if isLeapYear year then 29 else 28)
  else if [4, 6, 9, 11].contains month then 30 else 31

/-- Whether the fields take all of a text and give a day that exists. -/
def reads (fields : List Field) (s : List Char) : Bool :=
  go fields ⟨0, 1, 1⟩ s
where
  /-- The fields in a row. -/
  go : List Field → Moment → List Char → Bool
    | [], m, rest => rest.isEmpty && 1 ≤ m.day && m.day ≤ daysIn m.year m.month
    | f :: more, m, s =>
      match f m s with
      | some (m, rest) => go more m rest
      | none => false

/-- Year, month and day. -/
def dateFields : List Field := [yearField, mark '-', monthField, mark '-', dayField]

/-- Hour, minute and second. -/
def timeFields : List Field := [hourField, mark ':', minuteField, mark ':', secondField]

/-- A calendar day, `2006-01-02`. -/
def isDate (s : List Char) : Bool := reads dateFields s

/-- A time of day, `15:04:05`. -/
def isTime (s : List Char) : Bool := reads timeFields s

/-- A day, a time of day with or without zone, or a day and a time with zone. -/
def isDateTime (s : List Char) : Bool :=
  isTime s || reads (timeFields ++ [zoneField]) s || isDate s ||
    reads (dateFields ++ [mark 'T'] ++ timeFields ++ [zoneField]) s

end SchemaKit.Format
