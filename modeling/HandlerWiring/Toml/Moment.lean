import HandlerWiring.Decimal.Format

/-!
# Moments

Dates, times of day and both together, with or without the distance to universal time. A date has
to exist; a second may be a leap second. Fractions of a second count to the nanosecond, and what
is finer is dropped. The text of a moment is normal: `T` between date and time, `Z` for universal
time, no zeros at the end of a fraction.
-/

namespace HandlerWiring.Toml

/-- A day of the calendar. -/
structure Date where
  year : Nat
  month : Nat
  day : Nat
deriving DecidableEq, Repr

/-- A time of day. -/
structure Time where
  hour : Nat
  minute : Nat
  second : Nat
  nanosecond : Nat
deriving DecidableEq, Repr

/-- The distance to universal time. -/
inductive Offset where
  | universal
  | minutes (ahead : Int)
deriving DecidableEq, Repr

/-- A date, a time of day, or both. -/
inductive Moment where
  | day (d : Date)
  | instant (d : Date) (t : Time) (offset : Option Offset)
  | time (t : Time)
deriving DecidableEq, Repr

/-- A number in decimal with zeros in front up to a width. -/
def padded (width n : Nat) : List Char :=
  let digits := Decimal.digitsOf n
  List.replicate (width - digits.length) '0' ++ digits

namespace Date

def text (d : Date) : List Char :=
  padded 4 d.year ++ '-' :: padded 2 d.month ++ '-' :: padded 2 d.day

/-- Whether February has 29 days. -/
def isLeapYear (year : Nat) : Bool :=
  year % 4 == 0 && (year % 100 != 0 || year % 400 == 0)

/-- The number of days of a month. -/
def daysIn (year month : Nat) : Nat :=
  if month = 2 then (if isLeapYear year then 29 else 28)
  else if month = 4 ∨ month = 6 ∨ month = 9 ∨ month = 11 then 30
  else 31

/-- Whether a date exists. -/
def exists? (d : Date) : Bool :=
  1 ≤ d.month && d.month ≤ 12 && 1 ≤ d.day && d.day ≤ daysIn d.year d.month

end Date

namespace Time

/-- The fraction of a second without zeros at its end, nothing if it is zero. -/
def fractionText (nanosecond : Nat) : List Char :=
  if nanosecond = 0 then []
  else '.' :: ((padded 9 nanosecond).reverse.dropWhile (· = '0')).reverse

def text (t : Time) : List Char :=
  padded 2 t.hour ++ ':' :: padded 2 t.minute ++ ':' :: padded 2 t.second ++
    fractionText t.nanosecond

end Time

/-- `Z`, or hours and minutes behind a sign. -/
def Offset.text : Offset → List Char
  | .universal => ['Z']
  | .minutes ahead =>
    (if ahead < 0 then '-' else '+') :: padded 2 (ahead.natAbs / 60) ++
      ':' :: padded 2 (ahead.natAbs % 60)

/-- A moment in normal form. -/
def Moment.text : Moment → List Char
  | .day d => d.text
  | .instant d t offset => d.text ++ 'T' :: t.text ++ (offset.map Offset.text).getD []
  | .time t => t.text

/-! ## Reading -/

/-- Read exactly so many decimal digits. -/
def readFixed (count : Nat) (cs : List Char) : Option (Nat × List Char) :=
  let digits := cs.take count
  if digits.length = count ∧ digits.all Char.isDigit then
    some (Decimal.valueOf digits, cs.drop count)
  else none

/-- Read one given character. -/
def readMark (mark : Char) : List Char → Option (List Char)
  | c :: cs => if c = mark then some cs else none
  | [] => none

/-- Read a date that exists. -/
def Date.read (cs : List Char) : Option (Date × List Char) := do
  let (year, cs) ← readFixed 4 cs
  let cs ← readMark '-' cs
  let (month, cs) ← readFixed 2 cs
  let cs ← readMark '-' cs
  let (day, cs) ← readFixed 2 cs
  let date : Date := ⟨year, month, day⟩
  if date.exists? then some (date, cs) else none

/-- Read the fraction behind a point, if there is one; the digits finer than a nanosecond are
dropped. -/
def Time.readFraction : List Char → Nat × List Char
  | '.' :: cs =>
    let digits := cs.takeWhile Char.isDigit
    if digits.isEmpty then (0, '.' :: cs)
    else
      let kept := digits.take 9
      (Decimal.valueOf kept * 10 ^ (9 - kept.length), cs.dropWhile Char.isDigit)
  | cs => (0, cs)

/-- Read a time of day. -/
def Time.read (cs : List Char) : Option (Time × List Char) := do
  let (hour, cs) ← readFixed 2 cs
  let cs ← readMark ':' cs
  let (minute, cs) ← readFixed 2 cs
  let cs ← readMark ':' cs
  let (second, cs) ← readFixed 2 cs
  let (nanosecond, cs) := Time.readFraction cs
  if hour ≤ 23 ∧ minute ≤ 59 ∧ second ≤ 60 then some (⟨hour, minute, second, nanosecond⟩, cs)
  else none

/-- Read hours and minutes of an offset. -/
def Offset.readMinutes (cs : List Char) : Option (Nat × List Char) := do
  let (hour, cs) ← readFixed 2 cs
  let cs ← readMark ':' cs
  let (minute, cs) ← readFixed 2 cs
  if hour ≤ 23 ∧ minute ≤ 59 then some (hour * 60 + minute, cs) else none

/-- Read an offset if one begins here; an offset that begins has to end well. -/
def Offset.read? : List Char → Option (Option Offset × List Char)
  | [] => some (none, [])
  | c :: cs =>
    if c = 'Z' ∨ c = 'z' then some (some .universal, cs)
    else if c = '+' then (Offset.readMinutes cs).map fun (n, cs) => (some (.minutes n), cs)
    else if c = '-' then (Offset.readMinutes cs).map fun (n, cs) => (some (.minutes (-n)), cs)
    else some (none, c :: cs)

/-- Whether a character may stand between date and time. -/
def isTimeMark (c : Char) : Bool := c = 'T' || c = 't' || c = ' '

/-- Read what may follow a date: a mark, a time and an offset. -/
def Moment.readAfter (d : Date) : List Char → Option (Moment × List Char)
  | [] => some (.day d, [])
  | c :: cs =>
    if isTimeMark c then
      match Time.read cs with
      | none => some (.day d, c :: cs)
      | some (t, cs) => (Offset.read? cs).map fun (offset, cs) => (.instant d t offset, cs)
    else some (.day d, c :: cs)

/-- Read a moment. -/
def Moment.read (cs : List Char) : Option (Moment × List Char) :=
  match Date.read cs with
  | some (d, rest) => Moment.readAfter d rest
  | none => (Time.read cs).map fun (t, rest) => (.time t, rest)

end HandlerWiring.Toml
