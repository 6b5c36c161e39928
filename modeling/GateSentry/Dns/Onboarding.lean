import GateSentry.Dns.Blocklists

/-!
# The protection check

The controlled domain of the check is put into the map that the refreshes replace.
-/

namespace GateSentry.Dns

open Foundation ByteText

def protectionCheckDomain : Bytes := utf8 "gatesentry-protection-check.invalid"

structure Onboarding where
  filters : Filters
  markerInstalled : Bool

def addBlockedDomainForTest (domain : Bytes) (s : Filters) : Filters :=
  { s with tables := { s.tables with
    blockedDomains := s.tables.blockedDomains.insert (toLower domain) true } }

def removeBlockedDomainForTest (domain : Bytes) (s : Filters) : Filters :=
  { s with tables := { s.tables with
    blockedDomains := s.tables.blockedDomains.erase (toLower domain) } }

def setOnboardingBlockedMarker (s : Onboarding) : Onboarding :=
  if s.markerInstalled then s
  else ⟨addBlockedDomainForTest protectionCheckDomain s.filters, true⟩

def clearOnboardingBlockedMarker (s : Onboarding) : Onboarding :=
  if !s.markerInstalled then s
  else ⟨removeBlockedDomainForTest protectionCheckDomain s.filters, false⟩

/-- What changes the map: the first and the last step of a refresh, and the calls on the
marker, which exclude one another. -/
inductive OnboardingStep where
  | reset
  | merge (domains : List Bytes)
  | setMarker
  | clearMarker

namespace Onboarding

def step (s : Onboarding) : OnboardingStep → Onboarding
  | .reset => { s with filters := (resetFilters.finish () s.filters).1 }
  | .merge domains => { s with filters := ((addBlockedDomains domains).finish () s.filters).1 }
  | .setMarker => setOnboardingBlockedMarker s
  | .clearMarker => clearOnboardingBlockedMarker s

/-- The state after the steps, the latest of which is the first of the list. -/
def afterSteps : List OnboardingStep → Onboarding
  | [] => ⟨emptyFilters, false⟩
  | last :: earlier => (afterSteps earlier).step last

abbrev Protects (s : Onboarding) : Prop := s.filters.Blocks protectionCheckDomain

theorem toLower_checkDomain :
    toLower protectionCheckDomain = protectionCheckDomain := by
  decide +kernel

variable (s : Onboarding)

theorem setMarker_spec : (s.step .setMarker).markerInstalled = true ∧
    ((s.step .setMarker).Protects ↔ (s.markerInstalled = true → s.Protects)) := by
  cases hset : s.markerInstalled with
  | true => simp [step, setOnboardingBlockedMarker, hset]
  | false =>
    simp [step, setOnboardingBlockedMarker, hset, Protects, Filters.Blocks,
      addBlockedDomainForTest, toLower_checkDomain]

theorem clearMarker_spec : (s.step .clearMarker).markerInstalled = false ∧
    ((s.step .clearMarker).Protects ↔ s.markerInstalled = false ∧ s.Protects) := by
  cases hset : s.markerInstalled with
  | false => simp [step, clearOnboardingBlockedMarker, hset]
  | true =>
    simp [step, clearOnboardingBlockedMarker, hset, Protects, Filters.Blocks,
      removeBlockedDomainForTest, toLower_checkDomain]

end Onboarding

/-- A step of the kind has been taken, and the other one not since. -/
def Since (kind : OnboardingStep → Prop) (other : OnboardingStep) : List OnboardingStep → Prop
  | [] => False
  | last :: earlier => kind last ∨ last ≠ other ∧ Since kind other earlier

def Marked : List OnboardingStep → Prop := Since (· = .setMarker) .clearMarker

def Listed : List OnboardingStep → Prop :=
  Since (fun step => ∃ domains, step = .merge domains ∧ protectionCheckDomain ∈ domains) .reset

/-- The marker stands while it is installed if no refresh empties the map meanwhile, and
without it the domain is blocked only if a feed lists it. -/
theorem protection_reliable (steps : List OnboardingStep) :
    ((∀ later earlier, steps = later ++ .reset :: earlier → ¬ Marked earlier) → Marked steps →
      (Onboarding.afterSteps steps).Protects) ∧
    (¬ Marked steps → (Onboarding.afterSteps steps).Protects → Listed steps) := by
  suffices h : ((Onboarding.afterSteps steps).markerInstalled = true ↔ Marked steps) ∧ _ from h.2
  induction steps with
  | nil => exact ⟨iff_of_false Bool.false_ne_true id, fun _ h => h.elim, fun _ h => by cases h⟩
  | cons last earlier ih =>
    obtain ⟨hflag, hstands, hlisted⟩ := ih
    have hbefore (h : ∀ later rest, last :: earlier = later ++ .reset :: rest → ¬ Marked rest) :
        Marked earlier → (Onboarding.afterSteps earlier).Protects :=
      hstands fun later rest hsteps => h (last :: later) rest (congrArg (last :: ·) hsteps)
    simp only [Onboarding.afterSteps, Marked, Listed, Since] at hflag hstands hlisted hbefore ⊢
    generalize Onboarding.afterSteps earlier = s at *
    cases last with
    | reset =>
      simp only [reduceCtorEq, false_or, ne_eq, not_false_eq_true, true_and]
      exact ⟨hflag, fun h hmarked => absurd hmarked (h [] earlier rfl), fun _ h => by cases h⟩
    | merge domains =>
      have hblocks : (s.step (.merge domains)).Protects ↔
          protectionCheckDomain ∈ domains ∨ s.Protects := blocks_assign
      simp only [reduceCtorEq, false_or, ne_eq, not_false_eq_true, true_and, hblocks]
      refine ⟨hflag, fun h hmarked => .inr (hbefore h hmarked), fun hunmarked => ?_⟩
      simpa using Or.imp_right (hlisted hunmarked)
    | setMarker =>
      obtain ⟨hset, hprotects⟩ := s.setMarker_spec
      refine ⟨iff_of_true hset (.inl rfl), fun h _ => ?_, fun h => absurd (.inl rfl) h⟩
      exact hprotects.mpr fun hbeforeSet => hbefore h (hflag.mp hbeforeSet)
    | clearMarker =>
      obtain ⟨hcleared, hprotects⟩ := s.clearMarker_spec
      rw [hcleared, hprotects]
      refine ⟨by simp, fun _ h => absurd h (by simp), fun _ h => ?_⟩
      simpa using hlisted (by simp [← hflag, h.1]) h.2

/-- The marker is set after a refresh has emptied the map, and another one is merged later. -/
def markedRefresh : List OnboardingStep :=
  [.merge [utf8 "ads.example"], .setMarker, .merge [utf8 "tracker.example"], .reset, .clearMarker]

theorem protection_reliable_markedRefresh : (Onboarding.afterSteps markedRefresh).Protects := by
  apply (protection_reliable markedRefresh).1
  · intro later earlier hsteps
    have hclear : earlier = [.clearMarker] := by
      rcases later with _ | ⟨_, _ | ⟨_, _ | ⟨_, _ | ⟨_, _ | ⟨_, _⟩⟩⟩⟩⟩ <;> simp_all [markedRefresh]
    simp [hclear, Marked, Since]
  · simp [markedRefresh, Marked, Since]

/-- A refresh empties the map, and the marker is not put back by another call. -/
theorem marker_lost :
    ¬ (Onboarding.afterSteps [.setMarker, .merge [], .reset, .setMarker]).Protects := by
  decide +kernel

end GateSentry.Dns
