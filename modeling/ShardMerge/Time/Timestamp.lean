import ShardMerge.Text.Blank

/-!
# Timestamps

Points in time as calendar fields in Coordinated Universal Time, to the nanosecond.

* `Timestamp.write` gives the form `2024-01-02T03:04:05.250Z`: the fraction has as few of 0, 3, 6
  or 9 digits as show it, and a year outside 0 to 9999 has a sign.
* `Timestamp.read?` is more lenient.  It takes fewer digits, blanks between the parts, a small `t`
  or a space before the time, any fraction, and any offset below a day, which it subtracts.
* A leap second is second 60 of its minute and survives both.
* A `Clock` shows a point in time at each reading.
-/

namespace ShardMerge

open Text

/-- A point in time in Coordinated Universal Time. -/
structure Timestamp where
  year : Int
  month : Nat
  day : Nat
  hour : Nat
  minute : Nat
  /-- Second 60 is a leap second. -/
  second : Nat
  nanos : Nat
deriving DecidableEq, Repr, Inhabited

namespace Timestamp

/-- A year with a 29th of February. -/
def isLeapYear (year : Int) : Bool :=
  year % 4 = 0 && (year % 100 ≠ 0 || year % 400 = 0)

/-- The number of days of a month. -/
def daysInMonth (year : Int) (month : Nat) : Nat :=
  if month = 2 then if isLeapYear year then 29 else 28
  else if month = 4 ∨ month = 6 ∨ month = 9 ∨ month = 11 then 30
  else 31

/-- The first year of the calendar. -/
def minYear : Int := -262143

/-- The last year of the calendar. -/
def maxYear : Int := 262142

/-- The fields name a day of the calendar and a time of that day. -/
structure Valid (t : Timestamp) : Prop where
  year : minYear ≤ t.year ∧ t.year ≤ maxYear
  month : 1 ≤ t.month ∧ t.month ≤ 12
  day : 1 ≤ t.day ∧ t.day ≤ daysInMonth t.year t.month
  hour : t.hour < 24
  minute : t.minute < 60
  second : t.second ≤ 60
  nanos : t.nanos < 1000000000

/-- The decision procedure of `Valid`. -/
def isValid (t : Timestamp) : Bool :=
  minYear ≤ t.year && t.year ≤ maxYear && 1 ≤ t.month && t.month ≤ 12 && 1 ≤ t.day &&
    t.day ≤ daysInMonth t.year t.month && t.hour < 24 && t.minute < 60 && t.second ≤ 60 &&
    t.nanos < 1000000000

theorem isValid_iff {t : Timestamp} : t.isValid = true ↔ t.Valid := by
  simp only [isValid, Bool.and_eq_true, decide_eq_true_eq]
  constructor
  · rintro ⟨⟨⟨⟨⟨⟨⟨⟨⟨h1, h2⟩, h3⟩, h4⟩, h5⟩, h6⟩, h7⟩, h8⟩, h9⟩, h10⟩
    exact ⟨⟨h1, h2⟩, ⟨h3, h4⟩, ⟨h5, h6⟩, h7, h8, h9, h10⟩
  · rintro ⟨⟨h1, h2⟩, ⟨h3, h4⟩, ⟨h5, h6⟩, h7, h8, h9, h10⟩
    exact ⟨⟨⟨⟨⟨⟨⟨⟨⟨h1, h2⟩, h3⟩, h4⟩, h5⟩, h6⟩, h7⟩, h8⟩, h9⟩, h10⟩

instance (t : Timestamp) : Decidable t.Valid :=
  decidable_of_iff _ isValid_iff

/-! ## Writing -/

/-- The last `width` decimal digits of a number. -/
def lastDigits : (width n : Nat) → List Char
  | 0, _ => []
  | width + 1, n => lastDigits width (n / 10) ++ [Nat.digitChar (n % 10)]

/-- A year with four digits, or with a sign where four digits are not enough. -/
def writeYear (year : Int) : List Char :=
  if 0 ≤ year ∧ year ≤ 9999 then lastDigits 4 year.toNat
  else
    let n := year.natAbs
    let digits := if n ≤ 9999 then lastDigits 4 n else (toString n).toList
    (if year < 0 then '-' else '+') :: digits

/-- The fraction of a second with as few groups of three digits as show it. -/
def writeFraction (nanos : Nat) : List Char :=
  if nanos = 0 then []
  else if nanos % 1000000 = 0 then '.' :: lastDigits 3 (nanos / 1000000)
  else if nanos % 1000 = 0 then '.' :: lastDigits 6 (nanos / 1000)
  else '.' :: lastDigits 9 nanos

/-- The written form. -/
def write (t : Timestamp) : List Char :=
  writeYear t.year ++ '-' :: lastDigits 2 t.month ++ '-' :: lastDigits 2 t.day ++
    'T' :: lastDigits 2 t.hour ++ ':' :: lastDigits 2 t.minute ++ ':' :: lastDigits 2 t.second ++
    writeFraction t.nanos ++ ['Z']

instance : ToString Timestamp := ⟨fun t => String.ofList t.write⟩

/-! ## Reading -/

/-- Takes up to `max` leading digits, at least one, as a number. -/
def takeNumber (max : Nat) (s : List Char) : Option (Nat × List Char) :=
  let digits := (s.take max).takeWhile Char.isDigit
  if digits.isEmpty then none
  else some (Nat.ofDigitChars 10 digits 0, s.drop digits.length)

/-- Takes a number of at most two digits after blanks. -/
def takeField (s : List Char) : Option (Nat × List Char) :=
  takeNumber 2 (s.dropWhile isBlank)

/-- Takes a mark after blanks. -/
def takeMark (mark : Char) (s : List Char) : Option (List Char) :=
  match s.dropWhile isBlank with
  | c :: r => if c = mark then some r else none
  | [] => none

/-- Takes a year after blanks: up to four digits, or a sign and any digits. -/
def takeYear (s : List Char) : Option (Int × List Char) :=
  match s.dropWhile isBlank with
  | '-' :: r => (takeNumber r.length r).map fun (n, r) => (-(n : Int), r)
  | '+' :: r => (takeNumber r.length r).map fun (n, r) => ((n : Int), r)
  | r => (takeNumber 4 r).map fun (n, r) => ((n : Int), r)

/-- Takes a fraction of a second if there is one; digits after the ninth are dropped. -/
def takeFraction : List Char → Option (Nat × List Char)
  | '.' :: r =>
    let digits := r.takeWhile Char.isDigit
    if digits.isEmpty then none
    else
      let shown := digits.take 9
      some (Nat.ofDigitChars 10 shown 0 * Nat.pow 10 (9 - shown.length), r.drop digits.length)
  | r => some (0, r)

/-- Two leading digits. -/
def takePair : List Char → Option (Nat × List Char)
  | a :: b :: r =>
    if a.isDigit ∧ b.isDigit then some (Nat.ofDigitChars 10 [a, b] 0, r) else none
  | _ => none

/-- Takes hours and minutes of an offset, with colons or blanks between them. -/
def takeOffset (s : List Char) : Option (Nat × List Char) := do
  let (hours, s) ← takePair s
  let (minutes, s) ← takePair (s.dropWhile fun c => c = ':' || isBlank c)
  if hours < 24 ∧ minutes < 60 then some (hours * 60 + minutes, s) else none

/-- The letters `UTC` in any case at the start. -/
def dropUtc? : List Char → Option (List Char)
  | a :: b :: c :: r =>
    if a.toLower = 'u' ∧ b.toLower = 't' ∧ c.toLower = 'c' then some r else none
  | _ => none

/-- Takes an offset from Coordinated Universal Time in minutes. -/
def takeZone (s : List Char) : Option (Int × List Char) :=
  match dropUtc? s with
  | some r => some (0, r)
  | none =>
    match s with
    | [] => none
    | c :: r =>
      if c = 'Z' ∨ c = 'z' then some (0, r)
      else if c = '+' then (takeOffset r).map fun (n, r) => ((n : Int), r)
      else if c = '-' ∨ c = '\u2212' then (takeOffset r).map fun (n, r) => (-(n : Int), r)
      else none

/-- The same time on the next day. -/
def nextDay (t : Timestamp) : Timestamp :=
  if t.day < daysInMonth t.year t.month then { t with day := t.day + 1 }
  else if t.month < 12 then { t with month := t.month + 1, day := 1 }
  else { t with year := t.year + 1, month := 1, day := 1 }

/-- The same time on the day before. -/
def previousDay (t : Timestamp) : Timestamp :=
  if 1 < t.day then { t with day := t.day - 1 }
  else if 1 < t.month then
    { t with month := t.month - 1, day := daysInMonth t.year (t.month - 1) }
  else { t with year := t.year - 1, month := 12, day := 31 }

/-- Subtracts an offset of less than a day, in minutes. -/
def minusOffset (t : Timestamp) (offset : Int) : Timestamp :=
  let minutes : Int := t.hour * 60 + t.minute - offset
  let atMinute (n : Int) := { t with hour := (n / 60).toNat, minute := (n % 60).toNat }
  if minutes < 0 then (atMinute (minutes + 1440)).previousDay
  else if minutes < 1440 then atMinute minutes
  else (atMinute (minutes - 1440)).nextDay

/-- Reads a point in time with its offset. -/
def read? (s : List Char) : Option Timestamp := do
  let (year, s) ← takeYear s
  let s ← takeMark '-' s
  let (month, s) ← takeField s
  let s ← takeMark '-' s
  let (day, s) ← takeField s
  let s ← match s with
    | c :: r => if c = 'T' ∨ c = 't' ∨ c = ' ' then some r else none
    | [] => none
  let (hour, s) ← takeField s
  let s ← takeMark ':' s
  let (minute, s) ← takeField s
  let s ← takeMark ':' s
  let (second, s) ← takeField s
  let (nanos, s) ← takeFraction s
  let (offset, s) ← takeZone (s.dropWhile isBlank)
  let t : Timestamp := { year, month, day, hour, minute, second, nanos }
  let utc := t.minusOffset offset
  if isBlankText s ∧ t.isValid ∧ utc.isValid then some utc else none

end Timestamp

/-! ## Clocks -/

/-- A clock, by what it shows at each of its readings. -/
structure Clock where
  time : (reading : Nat) → Timestamp
deriving Inhabited

/-- A clock that stands still. -/
instance : Coe Timestamp Clock := ⟨fun now => { time := fun _ => now }⟩

namespace Clock

/-- What the clock shows at its next reading. -/
def now (clock : Clock) : Timestamp := clock.time 0

/-- The clock after some readings. -/
def after (clock : Clock) (readings : Nat) : Clock :=
  { time := fun reading => clock.time (readings + reading) }

/-- The clock shows points in time only. -/
def Valid (clock : Clock) : Prop := ∀ reading, (clock.time reading).Valid

/-- Gives each element of a list the time of a reading of its own. -/
def stamp {α : Type} (clock : Clock) : List α → List (Timestamp × α)
  | [] => []
  | a :: rest => (clock.now, a) :: (clock.after 1).stamp rest

@[simp] theorem now_still (now : Timestamp) : Clock.now (now : Clock) = now := rfl

theorem after_zero (clock : Clock) : clock.after 0 = clock := by
  simp only [after, Nat.zero_add]

theorem after_after (clock : Clock) (n m : Nat) : (clock.after n).after m = clock.after (n + m) := by
  simp only [after, Nat.add_assoc]

theorem Valid.after {clock : Clock} (h : clock.Valid) (readings : Nat) :
    (clock.after readings).Valid := fun reading => h (readings + reading)

theorem map_snd_stamp {α : Type} (clock : Clock) (l : List α) :
    (clock.stamp l).map Prod.snd = l := by
  induction l generalizing clock with
  | nil => rfl
  | cons a l ih => rw [stamp, List.map_cons, ih]

theorem length_stamp {α : Type} (clock : Clock) (l : List α) :
    (clock.stamp l).length = l.length := by
  rw [← List.length_map (f := Prod.snd), map_snd_stamp]

theorem Valid.of_mem_stamp {α : Type} {clock : Clock} (h : clock.Valid) {l : List α}
    {stamped : Timestamp × α} (hmem : stamped ∈ clock.stamp l) : stamped.1.Valid := by
  induction l generalizing clock with
  | nil => cases hmem
  | cons a l ih =>
    rcases List.mem_cons.1 hmem with rfl | hmem
    · exact h 0
    · exact ih (h.after 1) hmem

end Clock

end ShardMerge
