import PageComponent.Text.Digit

/-!
# Dates and times

A moment is a date of the Gregorian calendar, a time of day to the microsecond, or both, then
perhaps with an offset from universal time. A reader finds one at the front of a text and tells
its length.
-/

namespace PageComponent

def isLeapYear (year : Nat) : Bool :=
  year % 4 == 0 && (year % 100 != 0 || year % 400 == 0)

def daysInMonth (year month : Nat) : Nat :=
  if month = 2 then (if isLeapYear year then 29 else 28)
  else if month = 4 ∨ month = 6 ∨ month = 9 ∨ month = 11 then 30
  else 31

def IsDate (year month day : Nat) : Prop :=
  (1 ≤ year ∧ year ≤ 9999) ∧ (1 ≤ month ∧ month ≤ 12) ∧ 1 ≤ day ∧ day ≤ daysInMonth year month

instance (year month day : Nat) : Decidable (IsDate year month day) :=
  inferInstanceAs (Decidable (_ ∧ _ ∧ _))

structure Date where
  year : Nat
  month : Nat
  day : Nat
  isDate : IsDate year month day
deriving DecidableEq

structure TimeOfDay where
  hour : Nat
  minute : Nat
  second : Nat
  microsecond : Nat
deriving DecidableEq

inductive Moment where
  | date (d : Date)
  | time (t : TimeOfDay)
  /-- The offset counts minutes. -/
  | dateTime (d : Date) (t : TimeOfDay) (offset : Option Int)
deriving DecidableEq

/-! ## Reading -/

/-- The number that `width` decimal digits spell from position `start` on. -/
def digitsAt? (cs : List Char) (start width : Nat) : Option Nat :=
  let ds := (cs.drop start).take width
  if ds.length = width then Text.radixValue? 10 ds else none

/-- A date is `yyyy-mm-dd`. -/
def Date.read? (cs : List Char) : Option Date := do
  let year ← digitsAt? cs 0 4
  let month ← digitsAt? cs 5 2
  let day ← digitsAt? cs 8 2
  if cs[4]? = some '-' ∧ cs[7]? = some '-' then
    if h : IsDate year month day then some ⟨year, month, day, h⟩ else none
  else none

/-- An hour and a minute, `hh:mm`. -/
def readClock? (cs : List Char) : Option (Nat × Nat) := do
  let hour ← digitsAt? cs 0 2
  let minute ← digitsAt? cs 3 2
  if cs[2]? = some ':' ∧ hour < 24 ∧ minute < 60 then some (hour, minute) else none

/-- A time is `hh:mm:ss`, where a fraction may follow; what its digits say below a microsecond is
dropped. -/
def TimeOfDay.read? (cs : List Char) : Option (TimeOfDay × Nat) := do
  let (hour, minute) ← readClock? cs
  let second ← digitsAt? cs 6 2
  if cs[5]? = some ':' ∧ second < 60 then
    let ds := (cs.drop 9).takeWhile Char.isDigit
    if cs[8]? = some '.' ∧ ds ≠ [] then
      let micro := (ds ++ List.replicate 6 '0').take 6
      some (⟨hour, minute, second, (Text.radixValue? 10 micro).getD 0⟩, 9 + ds.length)
    else some (⟨hour, minute, second, 0⟩, 8)
  else none

/-- An offset is a `Z`, for none, or a sign with hours and minutes. -/
def readOffset : List Char → Option Int × Nat
  | c :: cs =>
    if c = 'Z' ∨ c = 'z' then (some 0, 1)
    else if c = '+' ∨ c = '-' then
      match readClock? cs with
      | some (hour, minute) =>
        let minutes : Int := hour * 60 + minute
        (some (if c = '-' then -minutes else minutes), 6)
      | none => (none, 0)
    else (none, 0)
  | [] => (none, 0)

namespace Moment

/-- The time of a date, which a space or the letter `T` separates from it. -/
def readTime? : List Char → Option (TimeOfDay × Nat)
  | c :: cs => if c = 'T' ∨ c = 't' ∨ c = ' ' then TimeOfDay.read? cs else none
  | [] => none

def read? (cs : List Char) : Option (Moment × Nat) :=
  match Date.read? cs with
  | some d =>
    match readTime? (cs.drop 10) with
    | some (t, n) =>
      let (offset, k) := readOffset (cs.drop (11 + n))
      some (.dateTime d t offset, 11 + n + k)
    | none => some (.date d, 10)
  | none => (TimeOfDay.read? cs).map fun (t, n) => (.time t, n)

end Moment

/-! ## Writing -/

def padded (width n : Nat) : String :=
  .ofList (Text.paddedDigits 10 width n)

def Date.text (d : Date) : String :=
  padded 4 d.year ++ "-" ++ padded 2 d.month ++ "-" ++ padded 2 d.day

def TimeOfDay.text (t : TimeOfDay) : String :=
  padded 2 t.hour ++ ":" ++ padded 2 t.minute ++ ":" ++ padded 2 t.second ++
    if t.microsecond = 0 then "" else "." ++ padded 6 t.microsecond

def offsetText (minutes : Int) : String :=
  (if minutes < 0 then "-" else "+") ++ padded 2 (minutes.natAbs / 60) ++ ":" ++
    padded 2 (minutes.natAbs % 60)

def numberList (ns : List Nat) : String :=
  ", ".intercalate (ns.map toString)

def Date.parts (d : Date) : List Nat :=
  [d.year, d.month, d.day]

/-- Seconds and microseconds that are zero are left out at the end. -/
def TimeOfDay.parts (t : TimeOfDay) : List Nat :=
  if t.microsecond ≠ 0 then [t.hour, t.minute, t.second, t.microsecond]
  else if t.second ≠ 0 then [t.hour, t.minute, t.second]
  else [t.hour, t.minute]

/-- A negative offset is shown as a day back and seconds forward. -/
def inspectOffset (minutes : Int) : String :=
  if minutes = 0 then "datetime.timezone.utc"
  else
    let seconds := minutes * 60
    "datetime.timezone(datetime.timedelta(" ++
      (if seconds < 0 then "days=-1, seconds=" ++ toString (seconds + 86400)
        else "seconds=" ++ toString seconds) ++ "))"

namespace Moment

def text : Moment → String
  | date d => d.text
  | time t => t.text
  | dateTime d t offset => d.text ++ " " ++ t.text ++ (offset.map offsetText).getD ""

def inspect : Moment → String
  | date d => "datetime.date(" ++ numberList d.parts ++ ")"
  | time t => "datetime.time(" ++ numberList t.parts ++ ")"
  | dateTime d t offset =>
    "datetime.datetime(" ++ numberList (d.parts ++ t.parts) ++
      (match offset with
        | some minutes => ", tzinfo=" ++ inspectOffset minutes
        | none => "") ++ ")"

end Moment

end PageComponent
