import GateSentry.Dns.Query
import GateSentry.Foundation.Folds
import GateSentry.Foundation.Interruption

/-!
# Blocklist refreshes

`InitializeFilters` empties the tables, reads the configured lists, downloads them and
merges what they list.  Queries are answered between any two of these steps.
-/

namespace GateSentry.Dns

open Foundation ByteText

/-! ## Feeds -/

def fieldsFor : Nat → Bytes → Bytes → List Bytes
  | 0, field, _ => if field.isEmpty then [] else [field]
  | fuel + 1, field, text =>
    match whiteSpace.find? (·.isPrefixOf text), text with
    | some item, _ =>
      let rest := fieldsFor fuel [] (text.drop item.length)
      if field.isEmpty then rest else field :: rest
    | none, [] => if field.isEmpty then [] else [field]
    | none, b :: rest => fieldsFor fuel (field ++ [b]) rest

def fields (text : Bytes) : List Bytes := fieldsFor (text.length + 1) [] text

def scanLines (body : Bytes) : List Bytes :=
  let lines := Strings.pieces 10 body
  let lines := if lines.getLast? = some [] then lines.dropLast else lines
  lines.map fun line => if line.getLast? = some 13 then line.dropLast else line

def maxScanTokenSize : Nat := 64 * 1024

inductive Response where
  | failed
  | body (text : Bytes) (complete : Bool)

def domainOfLine (line : Bytes) : Option Bytes :=
  if line.head? = some 35 || line.isEmpty then none
  else
    match fields line with
    | ip :: domain :: _ =>
      if ip = utf8 "0.0.0.0" || ip = utf8 "::1" then some domain else none
    | [domain] => some domain
    | [] => none

def fetchDomainsFromBlocklist : Response → Option (List Bytes)
  | .failed => none
  | .body text complete =>
    if !complete || (Strings.pieces 10 text).any (maxScanTokenSize ≤ ·.length) then none
    else some ((scanLines text).filterMap domainOfLine)

/-! ## The refresh -/

structure Filters where
  tables : Tables
  blockedLists : List Bytes

/-- What a refresh reads: the configured lists, unless they cannot be parsed, the internal
records, and the responses of the feeds. -/
structure Refresh where
  customEntries : Option (List Bytes)
  internalEntries : List (Bytes × Bytes)
  response : Bytes → Response

abbrev Refreshing := Proc Unit Filters

def resetFilters : Refreshing Unit :=
  Proc.step (fun _ _ => ⟨⟨∅, ∅, ∅⟩, []⟩) fun _ _ => ()

def readBlockedLists (customEntries : Option (List Bytes)) : Refreshing Unit :=
  Proc.step
    (fun _ s => { s with
      blockedLists := (customEntries.getD []).foldl appendUnique s.blockedLists })
    fun _ _ => ()

def initializeInternalRecords (entries : List (Bytes × Bytes)) : Refreshing Unit :=
  Proc.step
    (fun _ s => { s with tables := { s.tables with internalRecords := Dict.assign entries ∅ } })
    fun _ _ => ()

/-- The domains of all feeds.  The downloads run at the same time and are collected in the
order in which they end, which a set of domains does not show. -/
def downloadBlocklists (response : Bytes → Response) : List Bytes → Refreshing (List Bytes)
  | [] => pure []
  | url :: rest => do
    let domains ← Proc.look fun _ _ => (fetchDomainsFromBlocklist (response url)).getD []
    let others ← downloadBlocklists response rest
    return domains ++ others

def addBlockedDomains (domains : List Bytes) : Refreshing Unit :=
  Proc.step
    (fun _ s => { s with tables := { s.tables with
      blockedDomains := Dict.assign (domains.map (·, true)) s.tables.blockedDomains } })
    fun _ _ => ()

def initializeBlockedDomains (response : Bytes → Response) : Refreshing Unit := do
  let urls ← Proc.look fun _ s => s.blockedLists
  let domains ← downloadBlocklists response urls
  addBlockedDomains domains

def initializeExceptionDomains : Refreshing Unit := Proc.look fun _ _ => ()

/-- `InitializeFilters`, without the category index, which is not one of the tables. -/
def initializeFilters (r : Refresh) : Refreshing Unit := do
  resetFilters
  readBlockedLists r.customEntries
  initializeInternalRecords r.internalEntries
  initializeBlockedDomains r.response
  initializeExceptionDomains

/-! ## What a refresh leaves -/

def Filters.Blocks (s : Filters) (domain : Bytes) : Prop :=
  (s.tables.blockedDomains.lookup domain).getD false = true

instance (s : Filters) (domain : Bytes) : Decidable (s.Blocks domain) :=
  inferInstanceAs (Decidable (_ = true))

namespace Refresh

variable (r : Refresh)

def urls : List Bytes := r.customEntries.getD []

def delivery (url : Bytes) : Option (List Bytes) := fetchDomainsFromBlocklist (r.response url)

def Delivers (domain : Bytes) : Prop :=
  ∃ url ∈ r.urls, ∃ domains, r.delivery url = some domains ∧ domain ∈ domains

def AllFail : Prop := ∀ url ∈ r.urls, r.delivery url = none

end Refresh

theorem ensures_downloadBlocklists {inv : Filters → Prop} {post : List Bytes → Filters → Prop}
    {s : Filters} (response : Bytes → Response) (urls : List Bytes) (hinv : inv s)
    (hpost : ∀ domains, (∀ domain, domain ∈ domains ↔ ∃ url ∈ urls, ∃ listed,
      fetchDomainsFromBlocklist (response url) = some listed ∧ domain ∈ listed) →
      post domains s) : (downloadBlocklists response urls).Ensures inv post s := by
  induction urls generalizing post with
  | nil =>
    apply Proc.ensures_pure hinv
    apply hpost
    simp
  | cons url rest ih =>
    refine Proc.ensures_bind (Proc.ensures_look hinv fun _ => ?_)
    refine Proc.ensures_bind (ih fun others hothers => ?_)
    apply Proc.ensures_pure hinv
    apply hpost
    intro domain
    rw [List.mem_append, hothers]
    cases hfetch : fetchDomainsFromBlocklist (response url) with
    | none | some => simp [hfetch]

theorem blocks_assign {domains : List Bytes} {domain : Bytes} {dict : Dict Bytes Bool} :
    ((Dict.assign (domains.map (·, true)) dict).lookup domain).getD false = true ↔
      domain ∈ domains ∨ (dict.lookup domain).getD false = true := by
  induction domains generalizing dict with
  | nil => simp [Dict.assign]
  | cons first rest ih =>
    refine (@ih (dict.insert first true)).trans ?_
    by_cases hfirst : domain = first
    · subst hfirst
      simp
    · simp [hfirst, AList.lookup_insert_ne hfirst]

theorem ensures_initializeFilters (r : Refresh) (s : Filters) :
    (initializeFilters r).Ensures (fun _ => True)
      (fun _ after => ∀ domain, after.Blocks domain ↔ r.Delivers domain) s := by
  refine Proc.ensures_bind (Proc.ensures_step trivial fun _ => ⟨trivial, ?_⟩)
  refine Proc.ensures_bind (Proc.ensures_step trivial fun _ => ⟨trivial, ?_⟩)
  refine Proc.ensures_bind (Proc.ensures_step trivial fun _ => ⟨trivial, ?_⟩)
  refine Proc.ensures_bind (Proc.ensures_bind (Proc.ensures_look trivial fun _ => ?_))
  refine Proc.ensures_bind (ensures_downloadBlocklists r.response _ trivial
    fun domains hdomains => Proc.ensures_step trivial fun _ => ⟨trivial, ?_⟩)
  refine Proc.ensures_look trivial fun _ domain => ?_
  unfold Filters.Blocks Refresh.Delivers Refresh.urls Refresh.delivery
  rw [blocks_assign, hdomains]
  simp [mem_foldl_appendUnique]

/-! ## Sequences of refreshes -/

def refresh (s : Filters) (r : Refresh) : Filters := ((initializeFilters r).finish () s).1

theorem blocks_refresh (s : Filters) (r : Refresh) (domain : Bytes) :
    (refresh s r).Blocks domain ↔ r.Delivers domain :=
  (ensures_initializeFilters r s).finish () domain

def CameFrom (earlier : List Refresh) (url domain : Bytes) : Prop :=
  ∃ domains, earlier.reverse.findSome? (fun r =>
    if url ∈ r.urls then r.delivery url else none) = some domains ∧ domain ∈ domains

/-- A refresh is to keep the domain blocked: a feed that it reads lists the domain, or the
domain came from a feed that it cannot read. -/
def Protected (earlier : List Refresh) (next : Refresh) (domain : Bytes) : Prop :=
  next.Delivers domain ∨ ∃ url ∈ next.urls, next.delivery url = none ∧ CameFrom earlier url domain

/-- The refresh after earlier ones drops no protection at any instant, and changes nothing
if it reads no feed. -/
def KeepsProtection (start : Filters) (earlier : List Refresh) (next : Refresh) : Prop :=
  let before := earlier.foldl refresh start
  (∀ s, (initializeFilters next).Visits before s → ∀ domain, before.Blocks domain →
    Protected earlier next domain → s.Blocks domain) ∧
  (next.AllFail → ∀ domain, (refresh before next).Blocks domain ↔ before.Blocks domain)

theorem visits_reset (r : Refresh) (s : Filters) :
    (initializeFilters r).Visits s ⟨⟨∅, ∅, ∅⟩, []⟩ :=
  .later () (.here _ _)

/-- The refresh starts by blocking nothing, so it keeps the protection exactly if there is
none to keep. -/
theorem refresh_keepsProtection_iff (start : Filters) (earlier : List Refresh)
    (next : Refresh) :
    KeepsProtection start earlier next ↔
      (∀ domain, (earlier.foldl refresh start).Blocks domain → ¬ Protected earlier next domain) ∧
      (next.AllFail → ∀ domain, ¬ (earlier.foldl refresh start).Blocks domain) := by
  have hfails (hfail : next.AllFail) (domain : Bytes) : ¬ next.Delivers domain := by
    rintro ⟨url, hurl, domains, hdelivery, _⟩
    cases (hfail url hurl).symm.trans hdelivery
  constructor
  · rintro ⟨hinstants, hunchanged⟩
    constructor
    · intro domain hblocked hprotected
      have hreset := hinstants _ (visits_reset next _) domain hblocked hprotected
      cases hreset
    · intro hfail domain hblocked
      have hafter := (hunchanged hfail domain).mpr hblocked
      exact hfails hfail domain ((blocks_refresh _ next domain).mp hafter)
  · rintro ⟨hnone, hempty⟩
    constructor
    · intro s _ domain hblocked hprotected
      exact absurd hprotected (hnone domain hblocked)
    · intro hfail domain
      rw [blocks_refresh]
      exact iff_of_false (hfails hfail domain) (hempty hfail domain)

/-! ## One feed -/

def emptyFilters : Filters := ⟨⟨∅, ∅, ∅⟩, []⟩

def oneFeed (response : Response) : Refresh where
  customEntries := some [utf8 "https://lists.example/ads"]
  internalEntries := []
  response _ := response

def adsFeed : Refresh := oneFeed (.body (utf8 "0.0.0.0 ads.example\n") true)

/-- A listed domain is not blocked at the start of the next refresh, although its feed is
read again, and stays unblocked after one that cannot read it. -/
theorem not_keepsProtection_ads : (refresh emptyFilters adsFeed).Blocks (utf8 "ads.example") ∧
    adsFeed.Delivers (utf8 "ads.example") ∧
    ¬ ((initializeFilters adsFeed).run [()] (refresh emptyFilters adsFeed)).1.Blocks
      (utf8 "ads.example") ∧
    CameFrom [adsFeed] (utf8 "https://lists.example/ads") (utf8 "ads.example") ∧
    ¬ (refresh (refresh emptyFilters adsFeed) (oneFeed .failed)).Blocks
      (utf8 "ads.example") := by
  refine ⟨by decide +kernel, ⟨utf8 "https://lists.example/ads", ?_, [utf8 "ads.example"], ?_, ?_⟩,
    by decide +kernel, ⟨[utf8 "ads.example"], ?_, ?_⟩, by decide +kernel⟩
  all_goals decide +kernel

end GateSentry.Dns
