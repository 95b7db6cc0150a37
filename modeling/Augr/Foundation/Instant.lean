import Mathlib.Algebra.Order.Ring.Int
import Mathlib.Data.List.Basic

/-! Instants as nanoseconds since the first moment of year one.

Location matters to the program only as "is it UTC", so an instant keeps that bit.
A duration is a number of nanoseconds.
-/

set_option autoImplicit false

namespace Augr.Foundation

structure Instant where
  nanos : Int
  utc : Bool
  deriving DecidableEq, Repr, Inhabited

abbrev Duration := Int

namespace Instant

def zero : Instant := ⟨0, true⟩

def isZero (t : Instant) : Bool := t.nanos == 0

def toUtc (t : Instant) : Instant := ⟨t.nanos, true⟩

def truncate (t : Instant) : Instant := ⟨t.nanos - t.nanos % 1000, t.utc⟩

def equal (s t : Instant) : Bool := s.nanos == t.nanos

def before (s t : Instant) : Bool := s.nanos < t.nanos

def after (s t : Instant) : Bool := t.nanos < s.nanos

def maxDuration : Duration := 2 ^ 63 - 1

def minDuration : Duration := -2 ^ 63

/-- The difference saturates at the range of a duration. -/
def sub (s t : Instant) : Duration := max minDuration (min maxDuration (s.nanos - t.nanos))

def add (t : Instant) (d : Duration) : Instant := ⟨t.nanos + d, t.utc⟩

/-- An instant that is set, in UTC and on a whole microsecond. -/
def isCanonical (t : Instant) : Bool := !t.isZero && t.utc && t.equal t.truncate

def normalize (t : Instant) : Instant := t.toUtc.truncate

def secondsPerDay : Int := 86400

/-- Year, month and day of a day number counted from 1 January of year one. -/
def civil (day : Int) : Int × Int × Int :=
  -- Years start in March, so the leap day is the last day of a year.
  let shifted := day + 306
  let era := shifted / 146097
  let dayOfEra := shifted % 146097
  let yearOfEra := (dayOfEra - dayOfEra / 1460 + dayOfEra / 36524 - dayOfEra / 146096) / 365
  let dayOfYear := dayOfEra - (365 * yearOfEra + yearOfEra / 4 - yearOfEra / 100)
  let month := (5 * dayOfYear + 2) / 153
  let dayOfMonth := dayOfYear - (153 * month + 2) / 5 + 1
  let civilMonth := if month < 10 then month + 3 else month - 9
  (yearOfEra + era * 400 + (if civilMonth ≤ 2 then 1 else 0), civilMonth, dayOfMonth)

def padded (width : Nat) (value : Int) : List Char :=
  let digits := Nat.toDigits 10 value.natAbs
  (if value < 0 then ['-'] else []) ++ List.replicate (width - digits.length) '0' ++ digits

/-- The layout `2006-01-02T15:04:05.000000Z`. -/
def format (t : Instant) : String :=
  let seconds := t.nanos / 1000000000
  let micros := t.nanos % 1000000000 / 1000
  let clock := seconds % secondsPerDay
  let (year, month, day) := civil (seconds / secondsPerDay)
  String.ofList (padded 4 year ++ '-' :: padded 2 month ++ '-' :: padded 2 day ++ 'T' :: padded 2 (clock / 3600) ++
    ':' :: padded 2 (clock / 60 % 60) ++ ':' :: padded 2 (clock % 60) ++ '.' :: padded 6 micros ++ ['Z'])

example : (⟨63902822400123456789, true⟩ : Instant).format = "2026-01-01T00:00:00.123456Z" := by decide

@[simp] theorem truncate_truncate (t : Instant) : t.truncate.truncate = t.truncate := by
  simp only [truncate, mk.injEq, and_true]
  omega

@[simp] theorem toUtc_toUtc (t : Instant) : t.toUtc.toUtc = t.toUtc := rfl

@[simp] theorem utc_normalize (t : Instant) : t.normalize.utc = true := rfl

@[simp] theorem equal_self (t : Instant) : t.equal t = true := by simp [equal]

theorem equal_comm (s t : Instant) : s.equal t = t.equal s := Bool.beq_comm

@[simp] theorem equal_truncate_normalize (t : Instant) : t.normalize.equal t.normalize.truncate = true := by
  simp [normalize]

theorem equal_truncate_iff (t : Instant) : t.equal t.truncate = true ↔ t.truncate = t := by
  cases t
  simp only [equal, truncate, beq_iff_eq, mk.injEq, and_true]
  exact eq_comm

theorem isZero_of_canonical {t : Instant} (canonical : t.isCanonical = true) : t.isZero = false := by
  simp only [isCanonical, Bool.and_eq_true, Bool.not_eq_true'] at canonical
  exact canonical.1.1

theorem isCanonical_normalize {t : Instant} (set : t.normalize.isZero = false) : t.normalize.isCanonical = true := by
  simp [isCanonical, set]

theorem normalize_of_canonical {t : Instant} (canonical : t.isCanonical = true) : t.normalize = t := by
  simp only [isCanonical, Bool.and_eq_true, equal_truncate_iff] at canonical
  obtain ⟨⟨_, utc⟩, whole⟩ := canonical
  have same : t.toUtc = t := by
    cases t
    simpa [toUtc] using utc.symm
  rw [normalize, same, whole]

end Instant

/-- A reading of the system clock: later than the first microsecond of year one. -/
structure Reading where
  nanos : Int
  running : 1000 ≤ nanos

/-- What `time.Now().UTC().Truncate(time.Microsecond)` returns. -/
def Reading.now (reading : Reading) : Instant := Instant.normalize ⟨reading.nanos, true⟩

end Augr.Foundation
