import Mathlib.Data.Int.Basic
import Mathlib.Data.List.Basic

/-!
# Clocks

An instant is a number of nanoseconds.  A location tells how far its clocks are
ahead of UTC at an instant.

A limiter remembers when it has admitted something and forgets what lies a window back.
What it has admitted within any window is then bounded, as long as the clock does not
go back.
-/

/-! ## Instants and wall clocks -/

namespace GateSentry.Foundation.Calendar

abbrev Time := Int

def second : Int := 1000000000
def minute : Int := 60 * second
def hour : Int := 60 * minute

/-- The zero value of `time.Time`: the start of the year 1. -/
def zeroTime : Time := -62135596800 * second

structure Location where
  offset : Time → Int

def utc : Location := ⟨fun _ => 0⟩

def localSeconds (location : Location) (t : Time) : Int := t / second + location.offset t

def weekday (location : Location) (t : Time) : Int :=
  (localSeconds location t / 86400 + 4) % 7

def minuteOfDay (location : Location) (t : Time) : Int :=
  localSeconds location t % 86400 / 60

/-- `time.Date` of a wall clock, in seconds since its 1970.  The offset is looked up as if the
clock showed UTC, and once more at the instant that this gives. -/
def fromClock (location : Location) (seconds nanoseconds : Int) : Time :=
  let guess := seconds - location.offset (seconds * second)
  (seconds - location.offset (guess * second)) * second + nanoseconds

def addDays (location : Location) (t : Time) (days : Int) : Time :=
  fromClock location (localSeconds location t + days * 86400) (t % second)

end GateSentry.Foundation.Calendar

/-! ## Sliding windows -/

namespace GateSentry.Foundation.SlidingWindow

def counting (window now : Int) (times : List Int) : List Int :=
  times.filter (now - window < ·)

/-- In every window there are at most `limit` times. -/
def Bounded (window : Int) (limit : Nat) (times : List Int) : Prop :=
  ∀ start, (times.filter fun t => start ≤ t ∧ t < start + window).length ≤ limit

variable {window : Int} {limit : Nat} {times admitted : List Int} {now : Int}

theorem counting_counting {later : Int} (h : now ≤ later) :
    counting window later (counting window now times) = counting window later times := by
  unfold counting
  rw [List.filter_filter]
  apply List.filter_congr
  intro t _
  by_cases ht : later - window < t
  · have hearlier : now - window < t := by omega
    simp [hearlier]
  · simp [ht]

theorem counting_append (window now : Int) (times more : List Int) :
    counting window now (times ++ more) =
      counting window now times ++ counting window now more :=
  List.filter_append ..

theorem Bounded.sublist (h : Bounded window limit admitted) (hsub : times.Sublist admitted) :
    Bounded window limit times :=
  fun start => Nat.le_trans (hsub.filter _).length_le (h start)

theorem Bounded.admit (hbounded : Bounded window limit admitted)
    (hroom : (counting window now admitted).length < limit) :
    Bounded window limit (admitted ++ [now]) := by
  intro start
  rw [List.filter_append, List.length_append]
  by_cases hwithin : start ≤ now ∧ now < start + window
  · have hsubset : (admitted.filter fun t => start ≤ t ∧ t < start + window).length ≤
        (counting window now admitted).length := by
      apply List.Sublist.length_le
      apply List.monotone_filter_right
      intro t ht
      simp only [decide_eq_true_eq] at ht ⊢
      omega
    have hone : ([now].filter fun t => start ≤ t ∧ t < start + window).length = 1 := by
      simp [hwithin]
    omega
  · have hnone : ([now].filter fun t => start ≤ t ∧ t < start + window).length = 0 := by
      simp only [List.length_eq_zero_iff, List.filter_eq_nil_iff, List.mem_singleton,
        decide_eq_true_eq]
      rintro t rfl
      exact hwithin
    have hold := hbounded start
    omega

end GateSentry.Foundation.SlidingWindow
