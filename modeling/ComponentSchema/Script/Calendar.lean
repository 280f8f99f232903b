import ComponentSchema.Script.Number

/-!
Days and times.  A day is known by its number, counted from the first day of 1970, or by its year,
month and day in the month; a moment by the number of seconds since that day began.
-/

namespace ComponentSchema.Script

/-- A day in a year. -/
structure CalendarDay where
  year : Int
  /-- The month, counted from one. -/
  month : Nat
  /-- The day in the month, counted from one. -/
  day : Nat
deriving DecidableEq, Repr

namespace CalendarDay

def isLeap (year : Int) : Bool := year % 4 = 0 && (year % 100 ≠ 0 || year % 400 = 0)

def monthLength (year : Int) (month : Nat) : Nat :=
  if month = 2 then (if isLeap year then 29 else 28)
  else if [4, 6, 9, 11].contains month then 30
  else 31

def daysBefore (year : Int) (month : Nat) : Nat :=
  ((List.range (month - 1)).map fun index => monthLength year (index + 1)).foldl (· + ·) 0

/-- The number of the first day of a year. -/
def yearStart (year : Int) : Int :=
  let before := year - 1
  365 * (year - 1970) + (before.fdiv 4 - before.fdiv 100 + before.fdiv 400) - 477

def number (day : CalendarDay) : Int :=
  yearStart day.year + daysBefore day.year day.month + (day.day - 1 : Int)

def isValid (day : CalendarDay) : Bool :=
  1 ≤ day.month && day.month ≤ 12 && 1 ≤ day.day && day.day ≤ monthLength day.year day.month

/-- The year of a day with a number: one of the two that its length lets come near. -/
def yearOf (number : Int) : Int :=
  let near := 1970 + (number * 400).fdiv 146097
  if number < yearStart near then near - 1
  else if yearStart (near + 1) ≤ number then near + 1
  else near

/-- The month and the day in it of a day in a year, counted from zero; so many months are tried from
one on. -/
def monthFrom (year : Int) : Nat → Nat → Nat → Nat × Nat
  | 0, month, rest => (month, rest + 1)
  | count + 1, month, rest =>
    let length := monthLength year month
    if rest < length then (month, rest + 1) else monthFrom year count (month + 1) (rest - length)

def ofNumber (number : Int) : CalendarDay :=
  let year := yearOf number
  let (month, day) := monthFrom year 12 1 (number - yearStart year).toNat
  ⟨year, month, day⟩

/-- The day some months later, where a month that is too short goes on into the next one. -/
def addMonths (day : CalendarDay) (months : Int) : CalendarDay :=
  let total := day.year * 12 + (day.month - 1 : Int) + months
  let first : CalendarDay := ⟨total.fdiv 12, (total.fmod 12).toNat + 1, 1⟩
  ofNumber (first.number + (day.day - 1 : Int))

/-- The place of a day in the week, where Sunday is zero. -/
def weekday (number : Int) : Nat := ((number + 4) % 7).toNat

/-- The place of a day in its year, counted from zero. -/
def dayOfYear (day : CalendarDay) : Nat := (day.number - yearStart day.year).toNat

/-- The number of the week, where weeks begin with a day of the week and the days in front of the
first one are in week zero. -/
def plainWeek (day : CalendarDay) (start : Nat) : Nat :=
  (day.dayOfYear + 7 - (weekday day.number + 7 - start) % 7) / 7

/-- The year and the number of a week that begins with Monday and belongs to the year that has most
of its days. -/
def mondayWeek (day : CalendarDay) : Int × Nat :=
  let thursday := day.number - ((weekday day.number + 6) % 7 : Nat) + 3
  let year := yearOf thursday
  (year, ((thursday - yearStart year) / 7).toNat + 1)

end CalendarDay

/-- The names of the days of the week. -/
def weekdayNames : List String :=
  ["Sunday", "Monday", "Tuesday", "Wednesday", "Thursday", "Friday", "Saturday"]

def monthNames : List String :=
  ["January", "February", "March", "April", "May", "June", "July", "August", "September", "October",
    "November", "December"]

/-- A moment, told by the seconds since 1970 began. -/
structure Moment where
  seconds : Int

namespace Moment

def day (moment : Moment) : CalendarDay := .ofNumber (moment.seconds.fdiv 86400)

def secondOfDay (moment : Moment) : Nat := (moment.seconds.fmod 86400).toNat

/-! ## Formats -/

/-- How a part of a format is shown. -/
structure Shape where
  /-- What fills the space up, if that is told. -/
  filler? : Option (Option Char) := none
  width? : Option Nat := none
  toUpper : Bool := false
  toggles : Bool := false

/-- A number in a shape, which has some width and is filled up with some character otherwise. -/
def Shape.number (shape : Shape) (width : Nat) (filler : Char) (value : Int) : Text :=
  let digits := Text.ofNat value.natAbs
  let sign := if value < 0 then ['-'] else []
  match shape.filler?.getD (some filler) with
  | none => sign ++ digits
  | some filler =>
    let missing := shape.width?.getD width - digits.length - sign.length
    if filler = '0' then sign ++ List.replicate missing '0' ++ digits
    else List.replicate missing ' ' ++ sign ++ digits

def Shape.text (shape : Shape) (text : Text) : Text :=
  let shown := if shape.toUpper || shape.toggles then text.map Char.toUpper else text
  let filler := match shape.filler? with
    | some (some filler) => filler
    | _ => ' '
  if shape.filler? = some none then shown
  else List.replicate (shape.width?.getD 0 - shown.length) filler ++ shown

def letter? (moment : Moment) (shape : Shape) (letter : Char) : Option Text :=
  let day := moment.day
  let second := moment.secondOfDay
  let hour := second / 3600
  let shortHour := (hour + 11) % 12 + 1
  let weekday := CalendarDay.weekday day.number
  let name := fun (names : List String) (index : Nat) => ((names[index]?).getD "").toList
  let two := fun (value : Nat) => some (shape.number 2 '0' value)
  let blank := fun (value : Nat) => some (shape.number 2 ' ' value)
  let plainTwo := fun (value : Nat) => ({} : Shape).number 2 '0' value
  let joined := fun (between : Char) (parts : List Text) =>
    some (shape.text (Text.joined [between] parts))
  let clock := [plainTwo hour, plainTwo (second / 60 % 60), plainTwo (second % 60)]
  let month := plainTwo day.month
  let dayText := plainTwo day.day
  let year := (day.year.fmod 100).toNat
  let half := if hour < 12 then "AM".toList else "PM".toList
  match letter with
  | 'Y' => some (shape.number 4 '0' day.year)
  | 'C' => some (shape.number 2 '0' (day.year.fdiv 100))
  | 'y' => two year
  | 'm' => two day.month
  | 'd' => two day.day
  | 'e' => blank day.day
  | 'H' => two hour
  | 'k' => blank hour
  | 'I' => two shortHour
  | 'l' => blank shortHour
  | 'M' => two (second / 60 % 60)
  | 'S' => two (second % 60)
  | 's' => some (shape.number 1 '0' moment.seconds)
  | 'N' => some (List.replicate (shape.width?.getD 9) '0')
  | 'j' => some (shape.number 3 '0' (day.dayOfYear + 1 : Nat))
  | 'u' => some (shape.number 1 '0' ((weekday + 6) % 7 + 1 : Nat))
  | 'w' => some (shape.number 1 '0' weekday)
  | 'U' => two (day.plainWeek 0)
  | 'W' => two (day.plainWeek 1)
  | 'V' => two day.mondayWeek.2
  | 'G' => some (shape.number 4 '0' day.mondayWeek.1)
  | 'g' => two (day.mondayWeek.1.fmod 100).toNat
  | 'q' => some (shape.number 1 '0' ((day.month - 1) / 3 + 1 : Nat))
  | 'a' => some (shape.text ((name weekdayNames weekday).take 3))
  | 'A' => some (shape.text (name weekdayNames weekday))
  | 'b' | 'h' => some (shape.text ((name monthNames (day.month - 1)).take 3))
  | 'B' => some (shape.text (name monthNames (day.month - 1)))
  | 'p' => some ({ shape with toggles := false }.text
      (if shape.toggles then half.map Char.toLower else half))
  | 'P' => some (shape.text (half.map Char.toLower))
  | 'Z' => some (if shape.toggles then "utc".toList else shape.text "UTC".toList)
  | 'z' => some (shape.text "+0000".toList)
  | 'F' => joined '-' [({} : Shape).number 4 '0' day.year, month, dayText]
  | 'D' | 'x' => joined '/' [month, dayText, plainTwo year]
  | 'T' | 'X' => joined ':' clock
  | 'R' => joined ':' (clock.take 2)
  | 'r' => joined ' ' [Text.joined [':'] (plainTwo shortHour :: clock.drop 1), half]
  | 'c' => joined ' ' [(name weekdayNames weekday).take 3,
      (name monthNames (day.month - 1)).take 3, ({} : Shape).number 2 ' ' day.day,
      Text.joined [':'] clock, Text.ofInt day.year]
  | 'n' => some ['\n']
  | 't' => some ['\t']
  | '%' => some ['%']
  | _ => none

/-- A shape at the front of a text, and what follows; so many characters are looked at. -/
def scanShape : Nat → Shape → Text → Shape × Text
  | 0, shape, text => (shape, text)
  | count + 1, shape, text =>
    match text with
    | '-' :: rest => scanShape count { shape with filler? := some none } rest
    | '_' :: rest => scanShape count { shape with filler? := some (some ' ') } rest
    | '0' :: rest => scanShape count { shape with filler? := some (some '0') } rest
    | '+' :: rest => scanShape count { shape with filler? := some (some '0') } rest
    | '^' :: rest => scanShape count { shape with toUpper := true } rest
    | '#' :: rest => scanShape count { shape with toggles := true } rest
    | text =>
      match scanDigits? 10 text with
      | some (width, rest) => ({ shape with width? := some (min width 4096) }, rest)
      | none => (shape, text)

/-- What colons in front of a letter make of the distance from the middle of the zones. -/
def zoneText? : Text → Option (Text × Text)
  | ':' :: 'z' :: rest => some ("+00:00".toList, rest)
  | ':' :: ':' :: 'z' :: rest => some ("+00:00:00".toList, rest)
  | ':' :: ':' :: ':' :: 'z' :: rest => some ("+00".toList, rest)
  | _ => none

/-- A moment in a format, of which so many parts are filled in. -/
def format (moment : Moment) : Nat → Text → Text
  | 0, text => text
  | _, [] => []
  | count + 1, '%' :: rest =>
    match zoneText? rest with
    | some (zone, rest) => zone ++ moment.format count rest
    | none =>
      let (shape, after) := scanShape rest.length {} rest
      let plain := match after with
        | 'E' :: more => if more.isEmpty then after else more
        | 'O' :: more => if more.isEmpty then after else more
        | more => more
      match plain with
      | letter :: more =>
        match moment.letter? shape letter with
        | some text => text ++ moment.format count more
        | none => '%' :: moment.format count rest
      | [] => '%' :: moment.format count rest
  | count + 1, char :: rest => char :: moment.format count rest

/-! ## Reading -/

/-- Seconds of a day, told by hours, minutes and seconds. -/
def clock? (text : Text) : Option Nat := do
  let parts ← (Text.splitAt ':' text).mapM fun part =>
    if part.length ≤ 2 then Text.number? part else none
  match parts with
  | [hour, minute] => if hour < 24 && minute < 60 then some (3600 * hour + 60 * minute) else none
  | [hour, minute, second] =>
    if hour < 24 && minute < 60 && second < 61 then some (3600 * hour + 60 * minute + second)
    else none
  | _ => none

/-- The distance of a zone from the middle of the zones, in seconds. -/
def zone? (text : Text) : Option Int := do
  if ["Z", "z", "UTC", "GMT", "utc"].contains (String.ofList text) then some 0
  else
    let (sign, rest) ← match text with
      | '+' :: rest => some ((1 : Int), rest)
      | '-' :: rest => some (-1, rest)
      | _ => none
    let digits := rest.filter (· != ':')
    let value ← Text.number? digits
    if digits.length = 4 then some (sign * (3600 * (value / 100) + 60 * (value % 100) : Nat))
    else if digits.length ≤ 2 then some (sign * (3600 * value : Nat))
    else none

def dayOf? (text : Text) : Option CalendarDay := do
  let found : CalendarDay ← match Text.splitAt '-' text with
    | [year, month, day] =>
      some ⟨(← Text.number? year), ← Text.number? month, ← Text.number? day⟩
    | [all] =>
      match Text.splitAt '/' all with
      | [month, day, year] =>
        some ⟨(← Text.number? year), ← Text.number? month, ← Text.number? day⟩
      | [all] =>
        if all.length = 8 then
          some ⟨(← Text.number? (all.take 4)), ← Text.number? ((all.drop 4).take 2),
            ← Text.number? (all.drop 6)⟩
        else none
      | _ => none
    | _ => none
  if found.isValid then some found else none

/-- What is told of a moment. -/
structure Telling where
  day? : Option CalendarDay := none
  second? : Option Nat := none
  zone : Int := 0
  /-- How many months and seconds later it is. -/
  months : Int := 0
  seconds : Int := 0

/-- The units of time by their names: whether they are months, and how many seconds or months they
are. -/
def units : List (String × Bool × Int) :=
  [("year", true, 12), ("month", true, 1), ("fortnight", false, 1209600), ("week", false, 604800),
    ("day", false, 86400), ("hour", false, 3600), ("minute", false, 60), ("min", false, 60),
    ("second", false, 1), ("sec", false, 1)]

def unit? (word : Text) : Option (Bool × Int) :=
  let lower := word.map Char.toLower
  let single := if lower.getLast? = some 's' then lower.dropLast else lower
  units.lookup (String.ofList single)

def Telling.later (telling : Telling) (count : Int) (unit : Bool × Int) : Telling :=
  if unit.1 then { telling with months := telling.months + count * unit.2 }
  else { telling with seconds := telling.seconds + count * unit.2 }

def Telling.word? (telling : Telling) (word : Text) (rest : List Text) :
    Option (Telling × List Text) :=
  let lower := String.ofList (word.map Char.toLower)
  if lower = "now" || lower = "today" then some (telling, rest)
  else if lower = "yesterday" then some (telling.later (-1) (false, 86400), rest)
  else if lower = "tomorrow" then some (telling.later 1 (false, 86400), rest)
  else
    match clock? word, dayOf? word, zone? word with
    | some second, _, _ => some ({ telling with second? := some second }, rest)
    | none, some day, _ => some ({ telling with day? := some day }, rest)
    | none, none, zone =>
      let count := integer? word
      let next := rest.head?.bind unit?
      match count, next, unit? word, zone with
      | some count, some unit, _, _ =>
        let isAgo := (rest.tail.head?.map fun word => word.map Char.toLower) = some "ago".toList
        some (telling.later (if isAgo then -count else count) unit,
          rest.drop (if isAgo then 2 else 1))
      | _, _, some unit, _ =>
        let isAgo := (rest.head?.map fun word => word.map Char.toLower) = some "ago".toList
        some (telling.later (if isAgo then -1 else 1) unit, rest.drop (if isAgo then 1 else 0))
      | _, _, none, some zone =>
        if telling.second?.isSome then some ({ telling with zone }, rest) else none
      | _, _, none, none => none

/-- What words tell of a moment; there are at most so many. -/
def Telling.words? : Nat → Telling → List Text → Option Telling
  | 0, telling, _ => some telling
  | _, telling, [] => some telling
  | count + 1, telling, word :: rest => do
    let (telling, rest) ← telling.word? word rest
    Telling.words? count telling rest

/-- A text with blanks where a day and a time are joined, and in front of the mark of the zone. -/
def loosened : Text → Text
  | first :: 'T' :: second :: rest =>
    if first.isDigit && second.isDigit then first :: ' ' :: loosened (second :: rest)
    else first :: loosened ('T' :: second :: rest)
  | [first, 'Z'] => if first.isDigit then [first, ' ', 'Z'] else [first, 'Z']
  | char :: rest => char :: loosened rest
  | [] => []

/-- The moment that a text tells, where what it leaves out is as it is now. -/
def ofText? (now : Moment) (text : Text) : Option Moment := do
  match text with
  | '@' :: rest =>
    let whole := rest.takeWhile (· != '.')
    some ⟨← integer? whole⟩
  | _ =>
    let blanks := (loosened text).map fun char =>
      if char = ',' || isNumberBlank char then ' ' else char
    let words := (Text.splitAt ' ' blanks).filter fun word => !word.isEmpty
    let telling ← Telling.words? (words.length + 1) {} words
    let isRelative := words.any fun word =>
      ["now", "yesterday", "tomorrow", "today", "ago"].contains (String.ofList word) ||
        (unit? word).isSome
    let day := (telling.day?.getD now.day).addMonths telling.months
    let second := telling.second?.getD
      (if telling.day?.isNone && isRelative then now.secondOfDay else 0)
    some ⟨86400 * day.number + second - telling.zone + telling.seconds⟩

end Moment

end ComponentSchema.Script
