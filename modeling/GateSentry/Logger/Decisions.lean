import Mathlib.Tactic.Linarith
import Mathlib.Tactic.Ring

/-!
# The timeline of the decision summary

The window of a summary is cut into hours, or into days when it is longer than two days.
Arithmetic that leaves the range of `int64` has no result, and no more has a `make` that panics.
-/

namespace GateSentry.Logger

def checked (n : Int) : Option Int := if -2 ^ 63 ≤ n ∧ n < 2 ^ 63 then some n else none

/-- The bounds of the filter: by default the seven days of retention up to now. -/
def window (now first last : Int) : Option (Int × Int) := do
  let last := if last ≤ 0 then now else last
  let first ← if first ≤ 0 then checked (now - 7 * 86400) else some first
  some (if last < first then last else first, last)

def timelineStep (first last : Int) : Int := if last - first ≤ 2 * 86400 then 3600 else 86400

def timelineStart (first last : Int) : Int := first - first.tmod (timelineStep first last)

/-- The loop over the starts of the buckets, as often as `fuel` allows. -/
def buckets (last step : Int) : Nat → Int → Option (List Int)
  | 0, _ => none
  | fuel + 1, t =>
    if t ≤ last then
      (checked (t + step)).bind fun next => (buckets last step fuel next).map (t :: ·)
    else some []

/-- `make` for so many buckets, of three words each: it panics beyond the address space. -/
def makeBuckets (capacity : Int) : Option Unit :=
  if 0 ≤ capacity ∧ capacity * 24 ≤ 2 ^ 48 then some () else none

def timeline (fuel : Nat) (now first last : Int) : Option (List Int) := do
  let (first, last) ← window now first last
  let _span ← checked (last - first)
  let length ← checked (last - timelineStart first last)
  makeBuckets (length.tdiv (timelineStep first last) + 1)
  buckets last (timelineStep first last) fuel (timelineStart first last)

/-- The most buckets that a window of at most thirty days needs: two days in hours. -/
def maxBuckets : Nat := 49

theorem exists_buckets {last step : Int} (hstep : 0 < step) (n : Nat) {t : Int}
    (hlow : -2 ^ 63 ≤ t) (hlast : last < t + n * step) (hfits : t + n * step < 2 ^ 63) :
    ∃ fuel starts, buckets last step fuel t = some starts ∧ starts.length ≤ n := by
  induction n generalizing t with
  | zero =>
    have hend : ¬ t ≤ last := by simpa using hlast
    exact ⟨1, [], by simp [buckets, hend], le_rfl⟩
  | succ n ih =>
    have hshift : t + (n + 1 : Nat) * step = t + step + n * step := by push_cast; ring
    rw [hshift] at hlast hfits
    obtain ⟨fuel, starts, hstarts, hlength⟩ := ih (by omega) hlast hfits
    have hnext : checked (t + step) = some (t + step) := by
      have := Int.mul_nonneg (Int.natCast_nonneg n) hstep.le
      exact if_pos (by omega)
    by_cases hend : t ≤ last
    · exact ⟨fuel + 1, t :: starts, by simp [buckets, hend, hnext, hstarts], by simpa using hlength⟩
    · exact ⟨1, [], by simp [buckets, hend], by simp⟩

theorem fits_of_buckets {last step : Int} {fuel : Nat} {t : Int} {starts : List Int}
    (hhigh : t < 2 ^ 63) (hstarts : buckets last step fuel t = some starts) :
    last < t + starts.length * step ∧ t + starts.length * step < 2 ^ 63 := by
  induction fuel generalizing t starts with
  | zero => cases hstarts
  | succ fuel ih =>
    simp only [buckets, checked] at hstarts
    split_ifs at hstarts with hend hnext
    · obtain ⟨rest, hrest, rfl⟩ := Option.map_eq_some_iff.mp hstarts
      have := ih hnext.2 hrest
      simp only [List.length_cons]
      push_cast
      constructor <;> linarith
    · cases hstarts
    · cases hstarts
      simp
      omega

theorem window_range {now first last a b : Int} (hnow : -2 ^ 63 ≤ now ∧ now < 2 ^ 63)
    (hlast : last < 2 ^ 63) (hwindow : window now first last = some (a, b)) :
    -2 ^ 63 ≤ a ∧ a ≤ b ∧ b < 2 ^ 63 := by
  simp only [window, checked] at hwindow
  grind

theorem timelineStep_cases (a b : Int) : timelineStep a b = 3600 ∨ timelineStep a b = 86400 := by
  unfold timelineStep
  split <;> simp

theorem timelineStart_range {a b : Int} (hlow : -2 ^ 63 ≤ a) (hhigh : a < 2 ^ 63) :
    -2 ^ 63 ≤ timelineStart a b ∧ timelineStart a b < 2 ^ 63 ∧
      a - timelineStep a b < timelineStart a b ∧ timelineStart a b < a + timelineStep a b := by
  unfold timelineStart
  rcases timelineStep_cases a b with hstep | hstep <;>
    · rw [hstep, Int.tmod_eq_emod]
      split <;> omega

/-- The timeline is bounded exactly when so few steps pass the end of the window and stay in
range. -/
theorem timeline_bounded_iff (now first last : Int) (hnow : -2 ^ 63 ≤ now ∧ now < 2 ^ 63)
    (hlast : last < 2 ^ 63) :
    (∃ fuel starts, timeline fuel now first last = some starts ∧ starts.length ≤ maxBuckets) ↔
      ∃ a b, window now first last = some (a, b) ∧ ∃ n : Nat, n ≤ maxBuckets ∧
        b < timelineStart a b + n * timelineStep a b ∧
          timelineStart a b + n * timelineStep a b < 2 ^ 63 := by
  constructor
  · rintro ⟨fuel, starts, hstarts, hlength⟩
    simp only [timeline, Option.bind_eq_bind, Option.bind_eq_some_iff] at hstarts
    obtain ⟨⟨a, b⟩, hwindow, _, _, _, _, _, _, hstarts⟩ := hstarts
    obtain ⟨hlow, hle, hhigh⟩ := window_range hnow hlast hwindow
    have hstart := timelineStart_range (b := b) hlow (by omega)
    exact ⟨a, b, hwindow, starts.length, hlength, fits_of_buckets hstart.2.1 hstarts⟩
  · rintro ⟨a, b, hwindow, n, hn, hpast, hfits⟩
    obtain ⟨hlow, hle, hhigh⟩ := window_range hnow hlast hwindow
    obtain ⟨hstart, _, hnear, hbefore⟩ := timelineStart_range (b := b) hlow (by omega)
    have hsteps := timelineStep_cases a b
    have hstep : 0 < timelineStep a b ∧ n * timelineStep a b ≤ 49 * 86400 := by
      unfold maxBuckets at hn
      rcases timelineStep_cases a b with hstep | hstep <;> rw [hstep] <;> omega
    obtain ⟨fuel, starts, hstarts, hlength⟩ := exists_buckets hstep.1 n hstart hpast hfits
    have hspan : checked (b - a) = some (b - a) := if_pos (by omega)
    have hcapacity : checked (b - timelineStart a b) = some (b - timelineStart a b) :=
      if_pos (by omega)
    have hmake : makeBuckets ((b - timelineStart a b).tdiv (timelineStep a b) + 1) = some () := by
      unfold makeBuckets maxBuckets at *
      refine if_pos ?_
      rw [Int.tdiv_eq_ediv, Int.sign_eq_one_of_pos hstep.1]
      rcases timelineStep_cases a b with hcase | hcase <;> rw [hcase] at hpast ⊢ <;> split <;> omega
    exact ⟨fuel, starts, by simp [timeline, hwindow, hspan, hcapacity, hmake, hstarts],
      hlength.trans hn⟩

theorem timeline_bounded_month : ∃ fuel starts,
    timeline fuel 1790000000 (1790000000 - 30 * 86400) 0 = some starts ∧
      starts.length ≤ maxBuckets :=
  (timeline_bounded_iff 1790000000 (1790000000 - 30 * 86400) 0 (by decide) (by decide)).mpr
    ⟨1787408000, 1790000000, by decide, 31, by decide, by decide, by decide⟩

/-- A request for everything from the first second on to the last that there is: `make` panics. -/
theorem timeline_unbounded : ¬ ∃ fuel starts,
    timeline fuel 1790000000 1 (2 ^ 63 - 1) = some starts ∧ starts.length ≤ maxBuckets := by
  rintro ⟨fuel, starts, hstarts, -⟩
  have hmake : makeBuckets ((2 ^ 63 - 1 : Int).tdiv 86400 + 1) = none := by decide
  have hmade : (makeBuckets ((2 ^ 63 - 1 : Int).tdiv 86400 + 1)).bind
    (fun _ => buckets (2 ^ 63 - 1) 86400 fuel 0) = some starts := hstarts
  rw [hmake] at hmade
  cases hmade

end GateSentry.Logger
