import RowMap.Decimal.Digits
import RowMap.Text.Blank
import RowMap.Timestamp.Basic

/-!
# Timestamps as text

The canonical text is `YYYY-MM-DD HH:MM:SS`, followed by a point and three, six or nine digits if
there is a fraction of a second. A year outside of 0 to 9999 is signed, and a leap second is written
as second 60.

`Timestamp.read?` takes the first of four notations that accepts the whole text: the canonical one,
the same with a `T` in the middle, a date and time with an offset, which is converted to
universal time, and a bare date.
-/

namespace RowMap

open Decimal (digits padded value isDigit)
open Text (trim trimLeft)

namespace Date

/-- Four digits, or a sign and at least four digits. -/
def yearText (year : Int) : List Char :=
  if 0 ≤ year ∧ year ≤ 9999 then padded 4 year.natAbs
  else (if year < 0 then '-' else '+') :: padded 4 year.natAbs

def text (d : Date) : List Char :=
  yearText d.year ++ '-' :: padded 2 d.month ++ '-' :: padded 2 d.day

end Date

namespace Clock

/-- The fraction of a second in the fewest of zero, three, six or nine digits. -/
def fractionText (nanosecond : Nat) : List Char :=
  let fraction := nanosecond % 1000000000
  if fraction = 0 then []
  else if fraction % 1000000 = 0 then '.' :: padded 3 (fraction / 1000000)
  else if fraction % 1000 = 0 then '.' :: padded 6 (fraction / 1000)
  else '.' :: padded 9 fraction

def text (c : Clock) : List Char :=
  padded 2 c.hour ++ ':' :: padded 2 c.minute ++ ':' ::
    padded 2 (c.second + c.nanosecond / 1000000000) ++ fractionText c.nanosecond

end Clock

namespace Timestamp

/-- The canonical text, with the given character between date and time. -/
def textWith (separator : Char) (t : Timestamp) : List Char :=
  t.date.text ++ separator :: t.clock.text

def text (t : Timestamp) : String :=
  String.ofList (t.textWith ' ')

end Timestamp

/-! ## Reading fields

Reading the beginning of a text yields what was read and the rest of the text. -/

namespace Timestamp

/-- One to `width` digits. -/
def readDigits (width : Nat) (cs : List Char) : Option (Nat × List Char) :=
  match (cs.take width).takeWhile isDigit with
  | [] => none
  | ds => some (value ds, cs.drop ds.length)

/-- Exactly `width` digits. -/
def readExactly (width : Nat) (cs : List Char) : Option (Nat × List Char) :=
  let ds := cs.take width
  if ds.length = width ∧ ds.all isDigit then some (value ds, cs.drop width) else none

/-- A number of at most two digits after any blanks. -/
def readField (cs : List Char) : Option (Nat × List Char) :=
  readDigits 2 (trimLeft cs)

/-- A year after any blanks: up to four digits, or a sign and any number of digits. -/
def readYear (cs : List Char) : Option (Int × List Char) :=
  match trimLeft cs with
  | '-' :: rest => (readDigits rest.length rest).map fun (n, rest) => (-(n : Int), rest)
  | '+' :: rest => (readDigits rest.length rest).map fun (n, rest) => ((n : Int), rest)
  | rest => (readDigits 4 rest).map fun (n, rest) => ((n : Int), rest)

/-- One given character. -/
def readChar (c : Char) : List Char → Option (List Char)
  | [] => none
  | d :: rest => if d = c then some rest else none

/-- The fraction of a second in nanoseconds: nothing, or a point and at least one digit, of which
nine count. -/
def readFraction : List Char → Option (Nat × List Char)
  | '.' :: rest =>
    match rest.takeWhile isDigit with
    | [] => none
    | ds => some (value (ds.take 9) * Nat.pow 10 (9 - ds.length), rest.drop ds.length)
  | rest => some (0, rest)

/-! ## Reading notations -/

/-- A year, a month and a day with signs between them. -/
def readDate (cs : List Char) : Option (Date × List Char) := do
  let (year, cs) ← readYear cs
  let cs ← readChar '-' cs
  let (month, cs) ← readField cs
  let cs ← readChar '-' cs
  let (day, cs) ← readField cs
  return (← Date.ofFields? year month day, cs)

/-- Hours, minutes and seconds, and a fraction if there is one. -/
def readClock (cs : List Char) : Option (Clock × List Char) := do
  let (hour, cs) ← readField cs
  let cs ← readChar ':' cs
  let (minute, cs) ← readField cs
  let cs ← readChar ':' cs
  let (second, cs) ← readField cs
  let (fraction, cs) ← readFraction cs
  return (← Clock.ofDisplay? hour minute second fraction, cs)

/-- Whether nothing is left to read. -/
def finished {α : Type} (reading : Option (α × List Char)) : Option α := do
  let (a, rest) ← reading
  if rest = [] then some a else none

/-- A date and a time of day with any number of blanks, or none, between them. -/
def readSpaced? (cs : List Char) : Option Timestamp := finished do
  let (date, cs) ← readDate cs
  let (clock, cs) ← readClock (trimLeft cs)
  return (⟨date, clock⟩, cs)

/-- A date and a time of day with a `T` between them. -/
def readJoined? (cs : List Char) : Option Timestamp := finished do
  let (date, cs) ← readDate cs
  let cs ← readChar 'T' cs
  let (clock, cs) ← readClock cs
  return (⟨date, clock⟩, cs)

/-- The minutes by which local time is ahead of universal time: `Z`, or a sign, two digits of hours,
a colon and two digits of minutes. -/
def readOffset : List Char → Option (Int × List Char)
  | [] => none
  | c :: rest => do
    if c = 'Z' ∨ c = 'z' then return (0, rest)
    let sign : Int ← if c = '+' then some 1 else if c = '-' ∨ c = '−' then some (-1) else none
    let (hours, rest) ← readExactly 2 rest
    let rest ← readChar ':' rest
    let (minutes, rest) ← readExactly 2 rest
    if hours < 24 ∧ minutes < 60 then some (sign * (60 * hours + minutes), rest) else none

/-- A date and time of fixed width with an offset, as the universal time it names. -/
def readZoned? (cs : List Char) : Option Timestamp := finished do
  let (year, cs) ← readExactly 4 cs
  let cs ← readChar '-' cs
  let (month, cs) ← readExactly 2 cs
  let cs ← readChar '-' cs
  let (day, cs) ← readExactly 2 cs
  let cs ← (readChar 'T' cs).or ((readChar 't' cs).or (readChar ' ' cs))
  let (hour, cs) ← readExactly 2 cs
  let cs ← readChar ':' cs
  let (minute, cs) ← readExactly 2 cs
  let cs ← readChar ':' cs
  let (second, cs) ← readExactly 2 cs
  let (fraction, cs) ← readFraction cs
  let (offset, cs) ← readOffset cs
  let date ← Date.ofFields? year month day
  let clock ← Clock.ofDisplay? hour minute second fraction
  return (← addMinutes? ⟨date, clock⟩ (-offset), cs)

def readDay? (cs : List Char) : Option Timestamp := finished do
  let (date, cs) ← readDate cs
  return (⟨date, Clock.midnight⟩, cs)

/-- Reads a timestamp in any of its notations, blanks at the ends aside. -/
def read? (text : List Char) : Option Timestamp :=
  let cs := trim text
  (readSpaced? cs).or ((readJoined? cs).or ((readZoned? cs).or (readDay? cs)))

end Timestamp

end RowMap
