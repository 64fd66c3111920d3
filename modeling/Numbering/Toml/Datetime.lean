import Numbering.Numeral

/-! # Dates and times

A moment is a date, a time of day, or both, and with both an offset from universal time may stand.
Fractions of a second keep nine places. The written form has a `T` between date and time, a `Z` for
no offset, and no trailing zeros in a fraction.

`Datetime.scan?` reads a moment at the start of a text, and `Datetime.read?` one that fills a text.
-/

namespace Numbering.Toml

structure Date where
  year : Nat
  month : Nat
  day : Nat
  deriving DecidableEq, Repr

/-- A time of day; a minute may have a leap second. -/
structure Time where
  hour : Nat
  minute : Nat
  second : Nat
  nanosecond : Nat
  deriving DecidableEq, Repr

/-- The distance from universal time. -/
inductive Offset
  | universal
  | minutes (count : Int)
  deriving DecidableEq, Repr

/-- A date, a time of day, or both. -/
inductive Datetime
  | onlyDate (date : Date)
  | onlyTime (time : Time)
  | both (date : Date) (time : Time) (offset : Option Offset)
  deriving DecidableEq, Repr

/-- A number in decimal with leading zeros up to some number of digits. -/
def zeroPadded (width number : Nat) : Text :=
  let digits := Numeral.decimal number
  List.replicate (width - digits.length) '0' ++ digits

def Date.render (date : Date) : Text :=
  zeroPadded 4 date.year ++ ['-'] ++ zeroPadded 2 date.month ++ ['-'] ++ zeroPadded 2 date.day

def Time.render (time : Time) : Text :=
  let fraction :=
    if time.nanosecond = 0 then []
    else '.' :: ((zeroPadded 9 time.nanosecond).reverse.dropWhile (· == '0')).reverse
  zeroPadded 2 time.hour ++ [':'] ++ zeroPadded 2 time.minute ++ [':'] ++
    zeroPadded 2 time.second ++ fraction

/-- A sign, hours and minutes, or the letter for no offset. -/
def Offset.render : Offset → Text
  | .universal => ['Z']
  | .minutes count =>
    (if count < 0 then '-' else '+') :: zeroPadded 2 (count.natAbs / 60) ++ [':'] ++
      zeroPadded 2 (count.natAbs % 60)

def Datetime.render : Datetime → Text
  | .onlyDate date => date.render
  | .onlyTime time => time.render
  | .both date time offset =>
    date.render ++ ['T'] ++ time.render ++ (offset.map Offset.render).getD []

/-! ## Reading -/

/-- A number of exactly `width` digits within bounds at the start of a text. -/
def scanFixed? (width lowest highest : Nat) (text : Text) : Option (Nat × Text) :=
  let digits := text.take width
  let number := Numeral.readDecimal digits
  if digits.length = width ∧ digits.all Char.isDigit ∧ lowest ≤ number ∧ number ≤ highest then
    some (number, text.drop width)
  else none

/-- What follows a given character at the start of a text. -/
def scanMark? (mark : Char) : Text → Option Text
  | [] => none
  | c :: rest => if c = mark then some rest else none

/-- Whether a year has a 29th of February. -/
def isLeapYear (year : Nat) : Bool :=
  year % 4 == 0 && (year % 100 != 0 || year % 400 == 0)

def daysInMonth (year month : Nat) : Nat :=
  if month = 2 then if isLeapYear year then 29 else 28
  else if month = 4 ∨ month = 6 ∨ month = 9 ∨ month = 11 then 30
  else 31

def Date.scan? (text : Text) : Option (Date × Text) := do
  let (year, rest) ← scanFixed? 4 0 9999 text
  let rest ← scanMark? '-' rest
  let (month, rest) ← scanFixed? 2 1 12 rest
  let rest ← scanMark? '-' rest
  let (day, rest) ← scanFixed? 2 1 (daysInMonth year month) rest
  return (⟨year, month, day⟩, rest)

/-- The nanoseconds that the digits after a point stand for; the tenth digit and later ones do not
count. -/
def nanoseconds (digits : Text) : Nat :=
  let kept := digits.take 9
  Numeral.readDecimal (kept ++ List.replicate (9 - kept.length) '0')

/-- A fraction of a second, if the text begins with one. -/
def scanFraction : Text → Nat × Text
  | '.' :: rest =>
    match Numeral.spanDigits rest with
    | ([], _) => (0, '.' :: rest)
    | (digits, rest) => (nanoseconds digits, rest)
  | text => (0, text)

def Time.scan? (text : Text) : Option (Time × Text) := do
  let (hour, rest) ← scanFixed? 2 0 23 text
  let rest ← scanMark? ':' rest
  let (minute, rest) ← scanFixed? 2 0 59 rest
  let rest ← scanMark? ':' rest
  let (second, rest) ← scanFixed? 2 0 60 rest
  let (nanosecond, rest) := scanFraction rest
  return (⟨hour, minute, second, nanosecond⟩, rest)

/-- Hours and minutes of an offset after its sign. -/
def scanOffsetMinutes? (text : Text) : Option (Nat × Text) := do
  let (hours, rest) ← scanFixed? 2 0 23 text
  let rest ← scanMark? ':' rest
  let (minutes, rest) ← scanFixed? 2 0 59 rest
  return (60 * hours + minutes, rest)

def scanOffset (text : Text) : Option Offset × Text :=
  match text with
  | 'Z' :: rest => (some .universal, rest)
  | 'z' :: rest => (some .universal, rest)
  | '+' :: rest =>
    match scanOffsetMinutes? rest with
    | some (count, rest) => (some (.minutes count), rest)
    | none => (none, text)
  | '-' :: rest =>
    match scanOffsetMinutes? rest with
    | some (count, rest) => (some (.minutes (-count)), rest)
    | none => (none, text)
  | _ => (none, text)

/-- What follows the mark between a date and a time. -/
def scanDelimiter? : Text → Option Text
  | 'T' :: rest => some rest
  | 't' :: rest => some rest
  | ' ' :: rest => some rest
  | _ => none

/-- A moment at the start of a text. A blank after a date belongs to it only before a time. -/
def Datetime.scan? (text : Text) : Option (Datetime × Text) :=
  match Date.scan? text with
  | none => (Time.scan? text).map fun (time, rest) => (.onlyTime time, rest)
  | some (date, afterDate) =>
    match (scanDelimiter? afterDate).bind Time.scan? with
    | none => some (.onlyDate date, afterDate)
    | some (time, afterTime) =>
      let (offset, rest) := scanOffset afterTime
      some (.both date time offset, rest)

/-- The moment that a whole text writes. -/
def Datetime.read? (text : Text) : Option Datetime :=
  match Datetime.scan? text with
  | some (moment, []) => some moment
  | _ => none

end Numbering.Toml
