/-
# EntityTables.Toml.Moment — dates and times

A day, a time of day, or both with a letter or a blank between them, and behind both perhaps the
distance from universal time. Every part has its range, and days are counted as the calendar has
them; seconds may be left out.

* `Moment.read?` — the moment that a word spells; `Moment.text` — its one written form.
-/
import EntityTables.Calendar.Date

namespace EntityTables.Toml

set_option autoImplicit false

/-- A day of the calendar. -/
structure Day where
  year : Nat
  month : Nat
  day : Nat
  deriving DecidableEq, Inhabited

/-- A time of day. -/
structure Clock where
  hour : Nat
  minute : Nat
  /-- The second, and perhaps the nanosecond in it. -/
  second? : Option (Nat × Option Nat)
  deriving DecidableEq, Inhabited

/-- A distance from universal time. -/
inductive Offset where
  | none
  | minutes (distance : Int)
  deriving DecidableEq, Inhabited

/-- A date, a time, or both. -/
inductive Moment where
  | date (day : Day)
  | time (clock : Clock)
  | both (day : Day) (clock : Clock) (offset? : Option Offset)
  deriving DecidableEq, Inhabited

/-- How many days a month has. -/
def daysIn (year month : Nat) : Nat :=
  if month = 2 then
    if year % 4 = 0 ∧ (year % 100 ≠ 0 ∨ year % 400 = 0) then 29 else 28
  else if month ∈ [4, 6, 9, 11] then 30
  else 31

namespace Moment

/-- The number that digits spell. -/
def numberOf (digits : List Char) : Nat :=
  digits.foldl (fun n d => n * 10 + (d.toNat - '0'.toNat)) 0

/-- The number of all digits that stand at the front, which must be so many, and the rest. -/
def number? (width : Nat) (cs : List Char) : Option (Nat × List Char) :=
  let digits := cs.takeWhile Char.isDigit
  if digits.length = width then some (numberOf digits, cs.drop width) else none

/-- A number in a range behind a character, and the rest. -/
def numberBehind? (mark : Char) (width least most : Nat) : List Char → Option (Nat × List Char)
  | c :: rest => do
    let (n, rest) ← if c = mark then number? width rest else none
    if least ≤ n ∧ n ≤ most then some (n, rest) else none
  | [] => none

/-- A day and the rest. -/
def readDay? (cs : List Char) : Option (Day × List Char) := do
  let (year, cs) ← number? 4 cs
  let (month, cs) ← numberBehind? '-' 2 1 12 cs
  let (day, cs) ← numberBehind? '-' 2 1 (daysIn year month) cs
  return (⟨year, month, day⟩, cs)

/-- The nanoseconds that digits behind a point stand for; what is finer is dropped. -/
def nanoseconds (digits : List Char) : Nat :=
  numberOf (digits.take 9 ++ List.replicate (9 - digits.length) '0')

/-- The nanoseconds behind a point, if there is one, and the rest. -/
def readNanoseconds? : List Char → Option (Option Nat × List Char)
  | '.' :: rest =>
    match rest.takeWhile Char.isDigit with
    | [] => none
    | digits => some (some (nanoseconds digits), rest.drop digits.length)
  | cs => some (none, cs)

/-- A time of day and the rest. A minute may have one second more than sixty. -/
def readClock? (cs : List Char) : Option (Clock × List Char) := do
  let (hour, cs) ← number? 2 cs
  let (minute, cs) ← numberBehind? ':' 2 0 59 cs
  if 23 < hour then none
  else if cs.head? = some ':' then
    let (second, cs) ← numberBehind? ':' 2 0 60 cs
    let (nanosecond?, cs) ← readNanoseconds? cs
    return (⟨hour, minute, some (second, nanosecond?)⟩, cs)
  else return (⟨hour, minute, none⟩, cs)

/-- The distance from universal time at the end of a moment, if there is one. -/
def readOffset? : List Char → Option (Option Offset)
  | [] => some none
  | c :: rest =>
    if c = 'Z' ∨ c = 'z' then if rest = [] then some (some .none) else none
    else if c = '+' ∨ c = '-' then do
      let (hours, rest) ← number? 2 rest
      let (minutes, rest) ← numberBehind? ':' 2 0 59 rest
      if hours ≤ 23 ∧ rest = [] then
        let distance : Int := hours * 60 + minutes
        some (some (.minutes (if c = '-' then -distance else distance)))
      else none
    else none

/-- The moment that a word spells. -/
def read? (cs : List Char) : Option Moment :=
  match readDay? cs with
  | some (day, []) => some (.date day)
  | some (day, separator :: rest) =>
    if separator = 'T' ∨ separator = 't' ∨ separator = ' ' then do
      let (clock, rest) ← readClock? rest
      return .both day clock (← readOffset? rest)
    else none
  | none =>
    match readClock? cs with
    | some (clock, []) => some (.time clock)
    | _ => none

open Calendar in
/-- A day as text. -/
def dayText (day : Day) : String :=
  padded 4 day.year ++ "-" ++ padded 2 day.month ++ "-" ++ padded 2 day.day

/-- Nanoseconds as digits behind a point, without zeros at the end but with one digit at least. -/
def fractionText (nanosecond : Nat) : String :=
  let digits := ((Calendar.padded 9 nanosecond).toList.reverse.dropWhile (· == '0')).reverse
  "." ++ if digits.isEmpty then "0" else String.ofList digits

open Calendar in
/-- A time of day as text. -/
def clockText (clock : Clock) : String :=
  padded 2 clock.hour ++ ":" ++ padded 2 clock.minute ++
    match clock.second? with
    | none => ""
    | some (second, none) => ":" ++ padded 2 second
    | some (second, some nanosecond) => ":" ++ padded 2 second ++ fractionText nanosecond

open Calendar in
/-- A distance from universal time as text. -/
def offsetText : Option Offset → String
  | none => ""
  | some .none => "Z"
  | some (.minutes distance) =>
    (if distance < 0 then "-" else "+") ++ padded 2 (distance.natAbs / 60) ++ ":" ++
      padded 2 (distance.natAbs % 60)

/-- The moment as text, with a capital letter between date and time. -/
def text : Moment → String
  | date d => dayText d
  | time c => clockText c
  | both d c offset? => dayText d ++ "T" ++ clockText c ++ offsetText offset?

end Moment

end EntityTables.Toml
