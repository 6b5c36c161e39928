import GateSentry.Policy.Evaluate

/-!
# What a decision depends on

A decision without its explanation: which rules decide, narrow or are skipped, and in
which order.  From this it follows which rules may be removed from a policy: those that
a pause lifts, and those that only the proxy can see.
-/

namespace GateSentry.Policy

open Foundation ByteText Calendar

/-! ## The verdict -/

structure Verdict where
  action : PolicyAction := .none
  ruleID : Bytes := []
  matched : Bytes := []
  urlRegexes : List Bytes := []
  contentTypes : List Bytes := []
  conditionRuleID : Bytes := []

def GroupOutcome.verdict (out : GroupOutcome) : Verdict where
  action := out.action
  ruleID := out.ruleID
  matched := out.matched
  urlRegexes := out.urlRegexes
  contentTypes := out.contentTypes
  conditionRuleID := out.conditionRuleID

inductive RuleEffect where
  | skips
  | narrows
  | decides (matched : Bytes)

def ruleEffect (platform : Platform) (req : EvalRequest) (rule : GroupRule) : RuleEffect :=
  let proxy := req.layer ≠ .dns
  let matched := matchTarget rule.target req.domain req.index
  if !rule.enabled || matched.isEmpty then .skips
  else if (rule.schedule.map fun s => !s.isActive platform req.now).getD false then .skips
  else if rule.action = .block && req.paused then .skips
  else if !proxy && !(ruleConditionsNeedingProxy rule).isEmpty then .skips
  else if proxy && !rule.users.isEmpty && !rule.users.contains req.user then .skips
  else if proxy && !(rule.urlRegexes.isEmpty && rule.blockedContentTypes.isEmpty) then .narrows
  else .decides matched

def RuleEffect.apply (rule : GroupRule) (v : Verdict) : RuleEffect → Verdict × Bool
  | .skips => (v, false)
  | .narrows =>
    ({ v with
        urlRegexes := v.urlRegexes ++ rule.urlRegexes
        contentTypes := v.contentTypes ++ rule.blockedContentTypes
        conditionRuleID :=
          if v.conditionRuleID.isEmpty then rule.id else v.conditionRuleID }, false)
  | .decides matched => ({ v with action := rule.action, ruleID := rule.id, matched }, true)

def walkRules (platform : Platform) (req : EvalRequest) :
    List GroupRule → Verdict → Verdict × Bool
  | [], v => (v, false)
  | rule :: rest, v =>
    match (ruleEffect platform req rule).apply rule v with
    | (v, true) => (v, true)
    | (v, false) => walkRules platform req rest v

def Verdict.decidedBy (v : Verdict) (action : PolicyAction) (mark matched : Bytes) : Verdict :=
  { v with action, matched := mark ++ matched }

def listVerdict (group : PolicyGroup) (req : EvalRequest) (v : Verdict) : Verdict :=
  let allowed := matchDomainList group.allowedDomains req.domain
  let blocked := matchDomainList group.blockedDomains req.domain
  let category := matchCategoryList group.blockedCategories req.domain req.index
  let gateway := matchCategoryList req.gatewayCategories req.domain req.index
  if !allowed.isEmpty then v.decidedBy .allow [] allowed
  else if !blocked.isEmpty && !req.paused then v.decidedBy .block [] blocked
  else if !category.isEmpty && !req.paused then v.decidedBy .block (utf8 "category:") category
  else if !gateway.isEmpty then v.decidedBy .block (utf8 "category:") gateway
  else v

def groupVerdict (platform : Platform) (group : PolicyGroup) (req : EvalRequest) : Verdict :=
  match walkRules platform req group.rules {} with
  | (v, true) => v
  | (v, false) => listVerdict group req v

/-! ## Evaluation yields the verdict -/

section Evaluation

variable (platform : Platform) (req : EvalRequest)

theorem verdict_evaluateRule (index : Nat) (rule : GroupRule) (out : GroupOutcome) :
    ((evaluateRule platform req index rule out).1.verdict,
      (evaluateRule platform req index rule out).2) =
        (ruleEffect platform req rule).apply rule out.verdict := by
  unfold evaluateRule ruleEffect
  dsimp only
  split
  · rfl
  · split
    · rfl
    · split
      · rfl
      · split
        · rfl
        · split
          · rfl
          · split
            · rfl
            · rfl

theorem verdict_evaluateRules (index : Nat) (rules : List GroupRule) (out : GroupOutcome) :
    ((evaluateRules platform req index rules out).1.verdict,
      (evaluateRules platform req index rules out).2) =
        walkRules platform req rules out.verdict := by
  induction rules generalizing index out with
  | nil => rfl
  | cons rule rest ih =>
    have hrule := verdict_evaluateRule platform req index rule out
    rw [evaluateRules, walkRules, ← hrule]
    cases hdecided : evaluateRule platform req index rule out with
    | mk after decided =>
      cases decided with
      | true => rfl
      | false => exact ih (index + 1) after

theorem evaluateBlocked_cases (stage matched mark reason : Bytes) (paused : Bool)
    (out : GroupOutcome) :
    ((!matched.isEmpty && !paused) = true ∧
      ∃ after, evaluateBlocked stage matched mark reason paused out = (after, true) ∧
        after.verdict = out.verdict.decidedBy .block mark matched) ∨
    ((!matched.isEmpty && !paused) = false ∧
      ∃ after, evaluateBlocked stage matched mark reason paused out = (after, false) ∧
        after.verdict = out.verdict) := by
  unfold evaluateBlocked
  cases matched.isEmpty with
  | true => exact .inr ⟨rfl, _, rfl, rfl⟩
  | false =>
    cases paused with
    | true => exact .inr ⟨rfl, _, rfl, rfl⟩
    | false => exact .inl ⟨rfl, _, rfl, rfl⟩

theorem evaluateBlocked_flag {stage matched mark reason : Bytes} {paused decided : Bool}
    {out after : GroupOutcome}
    (h : evaluateBlocked stage matched mark reason paused out = (after, decided)) :
    (!matched.isEmpty && !paused) = decided := by
  obtain ⟨hflag, other, hother, -⟩ | ⟨hflag, other, hother, -⟩ :=
    evaluateBlocked_cases stage matched mark reason paused out
  · cases hother.symm.trans h
    exact hflag
  · cases hother.symm.trans h
    exact hflag

theorem verdict_evaluateLists (group : PolicyGroup) (out : GroupOutcome) :
    (evaluateLists group req out).verdict = listVerdict group req out.verdict := by
  unfold evaluateLists listVerdict
  dsimp only
  split
  · rfl
  · obtain ⟨hdomain, after, hafter, hverdict⟩ | ⟨hdomain, after, hafter, hverdict⟩ :=
      evaluateBlocked_cases (utf8 "blocked_domains")
        (matchDomainList group.blockedDomains req.domain) [] (utf8 "blocked domain ")
        req.paused out
    · rw [hafter, if_pos hdomain]
      exact hverdict
    · rw [hafter, if_neg (by simp [hdomain]), ← hverdict]
      obtain ⟨hcategory, last, hlast, hverdict⟩ | ⟨hcategory, last, hlast, hverdict⟩ :=
        evaluateBlocked_cases (utf8 "blocked_categories")
          (matchCategoryList group.blockedCategories req.domain req.index)
          (utf8 "category:") (utf8 "blocked category ") req.paused after
      · rw [if_pos hcategory, ← hverdict]
        simp only [hlast]
      · rw [if_neg (by simp [hcategory]), ← hverdict]
        simp only [hlast]
        obtain ⟨hgateway, final, hfinal, hverdict⟩ | ⟨hgateway, final, hfinal, hverdict⟩ :=
          evaluateBlocked_cases (utf8 "gateway_categories")
            (matchCategoryList req.gatewayCategories req.domain req.index)
            (utf8 "category:") (utf8 "gateway category ") false last
        · rw [if_pos (by simpa using hgateway), ← hverdict]
          simp only [hfinal]
        · rw [if_neg (by simpa using hgateway), ← hverdict]
          simp only [hfinal]
          rfl

theorem verdict_evaluateGroup (group : PolicyGroup) :
    (evaluateGroup platform group req).verdict = groupVerdict platform group req := by
  have hrules := verdict_evaluateRules platform req 0 group.rules {}
  unfold evaluateGroup groupVerdict
  change _ = match walkRules platform req group.rules (GroupOutcome.verdict {}) with
    | (v, true) => v
    | (v, false) => listVerdict group req v
  rw [← hrules]
  cases hwalked : evaluateRules platform req 0 group.rules {} with
  | mk out decided =>
    cases decided with
    | true => rfl
    | false => exact verdict_evaluateLists req group out

end Evaluation

/-! ## Removing rules -/

section Removal

variable {platform : Platform} {req req' : EvalRequest} {keep : GroupRule → Bool}

theorem walkRules_filter
    (hskips : ∀ rule, keep rule = false → ruleEffect platform req rule = .skips)
    (hkeeps : ∀ rule, keep rule = true →
      ruleEffect platform req rule = ruleEffect platform req' rule)
    (rules : List GroupRule) (v : Verdict) :
    walkRules platform req rules v = walkRules platform req' (rules.filter keep) v := by
  induction rules generalizing v with
  | nil => rfl
  | cons rule rest ih =>
    cases hkeep : keep rule with
    | false =>
      rw [List.filter_cons_of_neg (by simp [hkeep]), walkRules, hskips rule hkeep]
      exact ih v
    | true =>
      rw [List.filter_cons_of_pos hkeep, walkRules, walkRules, hkeeps rule hkeep]
      split
      · rfl
      · exact ih _

end Removal

/-! ## Pauses -/

def PolicyGroup.withoutBlocks (group : PolicyGroup) : PolicyGroup :=
  { group with
    rules := group.rules.filter (·.action ≠ .block)
    blockedDomains := []
    blockedCategories := [] }

def GroupOutcome.DecidedAt (out : GroupOutcome) (stage : Bytes) : Prop :=
  ∃ action detail, out.trace.getLast? = some ⟨stage, true, action, detail⟩

section Pause

variable (platform : Platform) (req : EvalRequest)

def EvalRequest.pausedAs (req : EvalRequest) (paused : Bool) : EvalRequest := { req with paused }

variable {rule : GroupRule}

theorem ruleEffect_paused_block (h : rule.action = .block) :
    ruleEffect platform (req.pausedAs true) rule = .skips := by
  unfold ruleEffect
  dsimp only
  split
  · rfl
  · split
    · rfl
    · rw [if_pos (by simp [h, EvalRequest.pausedAs])]

theorem ruleEffect_paused (h : rule.action ≠ .block) :
    ruleEffect platform (req.pausedAs true) rule =
      ruleEffect platform (req.pausedAs false) rule := by
  unfold ruleEffect
  simp only [h]
  rfl

theorem listVerdict_paused (group : PolicyGroup) (v : Verdict) :
    listVerdict group (req.pausedAs true) v =
      listVerdict group.withoutBlocks (req.pausedAs false) v := by
  unfold listVerdict
  simp only [EvalRequest.pausedAs, Bool.not_true, Bool.and_false, Bool.false_eq_true]
  rfl

theorem groupVerdict_paused (group : PolicyGroup) :
    groupVerdict platform group (req.pausedAs true) =
      groupVerdict platform group.withoutBlocks (req.pausedAs false) := by
  have hwalk : walkRules platform (req.pausedAs true) group.rules {} =
      walkRules platform (req.pausedAs false) group.withoutBlocks.rules {} := by
    apply walkRules_filter
    · intro rule hrule
      exact ruleEffect_paused_block platform req (by simpa using hrule)
    · intro rule hrule
      exact ruleEffect_paused platform req (by simpa using hrule)
  unfold groupVerdict
  rw [hwalk]
  split
  · rfl
  · exact listVerdict_paused req group _

def Verdict.Agrees (v w : Verdict) : Prop :=
  v.action = w.action ∧ v.ruleID = w.ruleID ∧ v.matched = w.matched

theorem Verdict.Agrees.symm {v w : Verdict} (h : v.Agrees w) : w.Agrees v :=
  ⟨h.1.symm, h.2.1.symm, h.2.2.symm⟩

theorem Verdict.Agrees.trans {u v w : Verdict} (h : u.Agrees v) (h' : v.Agrees w) : u.Agrees w :=
  ⟨h.1.trans h'.1, h.2.1.trans h'.2.1, h.2.2.trans h'.2.2⟩

variable {v after : Verdict}

theorem RuleEffect.apply_undecided {effect : RuleEffect} (h : effect.apply rule v = (after, false)) :
    after.Agrees v := by
  cases effect with
  | skips | narrows =>
    cases h
    exact ⟨rfl, rfl, rfl⟩
  | decides matched => cases h

variable {rules : List GroupRule}

theorem walkRules_undecided (h : walkRules platform req rules v = (after, false)) :
    after.Agrees v := by
  induction rules generalizing v with
  | nil =>
    cases h
    exact ⟨rfl, rfl, rfl⟩
  | cons rule rest ih =>
    rw [walkRules] at h
    split at h
    · cases h
    · next next heffect => exact (ih h).trans (RuleEffect.apply_undecided heffect)

theorem walkRules_paused (rules : List GroupRule) (v v' : Verdict)
    (h : (walkRules platform (req.pausedAs false) rules v).2 = true →
      (walkRules platform (req.pausedAs false) rules v).1.action ≠ .block) :
    (walkRules platform (req.pausedAs true) rules v').2 =
        (walkRules platform (req.pausedAs false) rules v).2 ∧
      ((walkRules platform (req.pausedAs false) rules v).2 = true →
        (walkRules platform (req.pausedAs true) rules v').1.Agrees
          (walkRules platform (req.pausedAs false) rules v).1) := by
  induction rules generalizing v v' with
  | nil =>
    refine ⟨rfl, fun hdecided => ?_⟩
    cases hdecided
  | cons rule rest ih =>
    rw [walkRules] at h
    rw [walkRules, walkRules]
    by_cases hblock : rule.action = .block
    · rw [ruleEffect_paused_block platform req hblock]
      cases heffect : ruleEffect platform (req.pausedAs false) rule with
      | skips =>
        rw [heffect] at h
        exact ih v v' h
      | narrows =>
        rw [heffect] at h
        exact ih _ v' h
      | decides matched =>
        rw [heffect] at h
        exact absurd hblock (h rfl)
    · rw [ruleEffect_paused platform req hblock]
      cases heffect : ruleEffect platform (req.pausedAs false) rule with
      | skips =>
        rw [heffect] at h
        exact ih v v' h
      | narrows =>
        rw [heffect] at h
        exact ih _ _ h
      | decides matched => exact ⟨rfl, fun _ => ⟨rfl, rfl, rfl⟩⟩

variable {out : GroupOutcome}

theorem DecidedAt.stage_eq {stage : Bytes} (h : out.DecidedAt stage)
    {step : TraceStep} (hlast : out.trace.getLast? = some step) : step.stage = stage := by
  obtain ⟨action, detail, htrace⟩ := h
  cases hlast.symm.trans htrace
  rfl

variable {after : GroupOutcome}

theorem evaluateRules_decided {index : Nat}
    (h : evaluateRules platform req index rules out = (after, true)) :
    ∃ step, after.trace.getLast? = some step ∧ step.stage = utf8 "rule" := by
  induction rules generalizing index out with
  | nil => cases h
  | cons rule rest ih =>
    rw [evaluateRules] at h
    split at h
    · next decided heval =>
      cases h
      unfold evaluateRule at heval
      dsimp only at heval
      repeat' split at heval
      all_goals cases heval
      exact ⟨_, List.getLast?_concat, rfl⟩
    · exact ih h

theorem evaluateBlocked_decided {stage matched mark reason : Bytes} {paused : Bool}
    (h : evaluateBlocked stage matched mark reason paused out = (after, true)) :
    ∃ step, after.trace.getLast? = some step ∧ step.stage = stage := by
  unfold evaluateBlocked at h
  repeat' split at h
  all_goals cases h
  exact ⟨_, List.getLast?_concat, rfl⟩

theorem evaluateLists_gateway {group : PolicyGroup}
    (h : (evaluateLists group req out).DecidedAt (utf8 "gateway_categories")) :
    matchDomainList group.allowedDomains req.domain = [] ∧
      matchCategoryList req.gatewayCategories req.domain req.index ≠ [] ∧
      (evaluateLists group req out).verdict = out.verdict.decidedBy .block (utf8 "category:")
        (matchCategoryList req.gatewayCategories req.domain req.index) := by
  have hstage {mark : Bytes} (hne : mark ≠ utf8 "gateway_categories") {after : GroupOutcome}
      (hlast : ∃ step, after.trace.getLast? = some step ∧ step.stage = mark)
      (hdecided : after.DecidedAt (utf8 "gateway_categories")) : False := by
    obtain ⟨step, htrace, hmark⟩ := hlast
    exact hne (hmark.symm.trans (DecidedAt.stage_eq hdecided htrace))
  have hverdict := verdict_evaluateLists req group out
  unfold evaluateLists at h
  unfold listVerdict at hverdict
  dsimp only at h hverdict
  split at h
  · exact (hstage (show utf8 "allowed_domains" ≠ _ by decide)
      ⟨_, List.getLast?_concat, rfl⟩ h).elim
  · next hallowed =>
    have hallowed : matchDomainList group.allowedDomains req.domain = [] := by
      simpa using hallowed
    split at h
    · next decided heval => exact (hstage (by decide) (evaluateBlocked_decided heval) h).elim
    · next after heval =>
      split at h
      · next decided hcategory =>
        exact (hstage (by decide) (evaluateBlocked_decided hcategory) h).elim
      · next last hcategory =>
        split at h
        · next decided hgateway =>
          have hmatched := evaluateBlocked_flag hgateway
          simp only [Bool.not_false, Bool.and_true, Bool.not_eq_true',
            List.isEmpty_eq_false_iff] at hmatched
          refine ⟨hallowed, hmatched, ?_⟩
          rw [hverdict, hallowed, evaluateBlocked_flag heval, evaluateBlocked_flag hcategory]
          simp [hmatched]
        · next final hgateway => exact (hstage (by decide) ⟨_, List.getLast?_concat, rfl⟩ h).elim

end Pause

section Pause

variable {platform : Platform} {req : EvalRequest} {group : PolicyGroup} {v v' : Verdict}

theorem listVerdict_paused_agrees (hv : v'.Agrees v)
    (h : (listVerdict group (req.pausedAs false) v).action ≠ .block) :
    (listVerdict group (req.pausedAs true) v').Agrees
      (listVerdict group (req.pausedAs false) v) := by
  obtain ⟨haction, hrule, hmatched⟩ := hv
  unfold listVerdict EvalRequest.pausedAs at h ⊢
  generalize matchDomainList group.allowedDomains req.domain = allowed at h ⊢
  generalize matchDomainList group.blockedDomains req.domain = blocked at h ⊢
  generalize matchCategoryList group.blockedCategories req.domain req.index = category at h ⊢
  generalize matchCategoryList req.gatewayCategories req.domain req.index = gateway at h ⊢
  cases allowed with
  | cons b rest => exact ⟨rfl, hrule, rfl⟩
  | nil =>
    cases blocked with
    | cons b rest => exact absurd rfl h
    | nil =>
      cases category with
      | cons b rest => exact absurd rfl h
      | nil =>
        cases gateway with
        | cons b rest => exact absurd rfl h
        | nil => exact ⟨haction, hrule, hmatched⟩

theorem listVerdict_gateway_agrees (hv : v'.Agrees v)
    (hallowed : matchDomainList group.allowedDomains req.domain = [])
    (hgateway : matchCategoryList req.gatewayCategories req.domain req.index ≠ []) :
    (listVerdict group (req.pausedAs true) v').Agrees (v.decidedBy .block (utf8 "category:")
      (matchCategoryList req.gatewayCategories req.domain req.index)) := by
  unfold listVerdict EvalRequest.pausedAs
  rw [hallowed]
  generalize matchDomainList group.blockedDomains req.domain = blocked
  generalize matchCategoryList group.blockedCategories req.domain req.index = category
  generalize matchCategoryList req.gatewayCategories req.domain req.index = gateway at hgateway ⊢
  cases gateway with
  | nil => exact absurd rfl hgateway
  | cons b rest => cases blocked <;> cases category <;> exact ⟨rfl, hv.2.1, rfl⟩

end Pause

/-- A paused policy decides like the policy without its blocks.  So a pause changes no
decision that is not a block, and none of the gateway's categories. -/
theorem paused_lifts_own_blocks (platform : Platform) (group : PolicyGroup)
    (req : EvalRequest) :
    (evaluateGroup platform group (req.pausedAs true)).verdict =
        (evaluateGroup platform group.withoutBlocks (req.pausedAs false)).verdict ∧
      ((evaluateGroup platform group (req.pausedAs false)).action ≠ .block →
        (evaluateGroup platform group (req.pausedAs true)).verdict.Agrees
          (evaluateGroup platform group (req.pausedAs false)).verdict) ∧
      ((evaluateGroup platform group (req.pausedAs false)).DecidedAt
          (utf8 "gateway_categories") →
        (evaluateGroup platform group (req.pausedAs true)).verdict.Agrees
          (evaluateGroup platform group (req.pausedAs false)).verdict) := by
  have hpaused := verdict_evaluateGroup platform (req.pausedAs true) group
  have hwalk := walkRules_paused platform req group.rules {} {}
  refine ⟨?_, ?_, ?_⟩
  · rw [hpaused, verdict_evaluateGroup, groupVerdict_paused]
  · intro haction
    change (evaluateGroup platform group (req.pausedAs false)).verdict.action ≠ .block at haction
    rw [hpaused]
    rw [verdict_evaluateGroup] at haction ⊢
    unfold groupVerdict at haction ⊢
    cases hunpaused : walkRules platform (req.pausedAs false) group.rules {} with
    | mk v decided =>
      cases hlifted : walkRules platform (req.pausedAs true) group.rules {} with
      | mk v' decided' =>
        rw [hunpaused, hlifted] at hwalk
        rw [hunpaused] at haction
        cases decided with
        | true =>
          obtain ⟨hsame, hagrees⟩ := hwalk fun _ => haction
          cases hsame
          exact hagrees rfl
        | false =>
          obtain ⟨hsame, -⟩ := hwalk (fun hdecided => absurd hdecided (by simp))
          cases hsame
          have hv := walkRules_undecided platform _ hunpaused
          have hv' := walkRules_undecided platform _ hlifted
          exact listVerdict_paused_agrees (hv'.trans hv.symm) haction
  · intro hgateway
    rw [hpaused]
    unfold evaluateGroup at hgateway ⊢
    unfold groupVerdict
    have hverdict := verdict_evaluateRules platform (req.pausedAs false) 0 group.rules {}
    cases hrules : evaluateRules platform (req.pausedAs false) 0 group.rules {} with
    | mk out decided =>
      rw [hrules] at hgateway hverdict
      cases decided with
      | true =>
        obtain ⟨step, hlast, hstage⟩ := evaluateRules_decided platform _ hrules
        have hsame := hstage.symm.trans (DecidedAt.stage_eq hgateway hlast)
        exact absurd hsame (by decide)
      | false =>
        obtain ⟨hallowed, hmatched, hdecided⟩ := evaluateLists_gateway _ hgateway
        have hwalked : walkRules platform (req.pausedAs false) group.rules {} =
            (out.verdict, false) := hverdict.symm
        cases hlifted : walkRules platform (req.pausedAs true) group.rules {} with
        | mk v' decided' =>
          rw [hwalked, hlifted] at hwalk
          obtain ⟨hsame, -⟩ := hwalk (fun hdecided => absurd hdecided (by simp))
          cases hsame
          have hv := walkRules_undecided platform _ hwalked
          have hv' := walkRules_undecided platform _ hlifted
          rw [hdecided]
          exact listVerdict_gateway_agrees (hv'.trans hv.symm) hallowed hmatched

/-! ## Layers -/

def PolicyGroup.withoutProxyRules (group : PolicyGroup) : PolicyGroup :=
  { group with rules := group.rules.filter fun rule => (ruleConditionsNeedingProxy rule).isEmpty }

def EvalContext.withoutProxyRules (ctx : EvalContext) : EvalContext :=
  { ctx with
    snap := { ctx.snap with groups := ctx.snap.groups.mapValues PolicyGroup.withoutProxyRules } }

def ProxyMatch.action (result : ProxyMatch) : PolicyAction :=
  if result.shouldBlock then .block else if result.allowed then .allow else .none

variable {rule : GroupRule}

theorem conditions_eq_nil (h : (ruleConditionsNeedingProxy rule).isEmpty = true) :
    rule.urlRegexes = [] ∧ rule.blockedContentTypes = [] ∧ rule.users = [] := by
  unfold ruleConditionsNeedingProxy at h
  cases hurls : rule.urlRegexes <;> cases htypes : rule.blockedContentTypes <;>
    cases husers : rule.users <;> simp [hurls, htypes, husers] at h ⊢

section Layers

variable (platform : Platform) {req req' : EvalRequest}

structure EvalRequest.SameCase (req req' : EvalRequest) : Prop where
  domain : req.domain = req'.domain
  now : req.now = req'.now
  paused : req.paused = req'.paused
  index : req.index = req'.index
  gatewayCategories : req.gatewayCategories = req'.gatewayCategories

theorem ruleEffect_conditional (hlayer : req.layer = .dns)
    (h : (ruleConditionsNeedingProxy rule).isEmpty = false) :
    ruleEffect platform req rule = .skips := by
  unfold ruleEffect
  dsimp only
  split
  · rfl
  · split
    · rfl
    · split
      · rfl
      · rw [if_pos (by simp [hlayer, h])]

theorem ruleEffect_unconditional (hcase : req.SameCase req')
    (h : (ruleConditionsNeedingProxy rule).isEmpty = true) :
    ruleEffect platform req rule = ruleEffect platform req' rule := by
  obtain ⟨hurls, htypes, husers⟩ := conditions_eq_nil h
  unfold ruleEffect
  simp only [hcase.domain, hcase.now, hcase.paused, hcase.index, h, hurls, htypes, husers,
    List.isEmpty_nil, Bool.not_true, Bool.and_false, Bool.and_self]
  rfl

theorem listVerdict_layers (hcase : req.SameCase req') (group : PolicyGroup) (v : Verdict) :
    listVerdict group req v = listVerdict group.withoutProxyRules req' v := by
  unfold listVerdict
  rw [hcase.domain, hcase.paused, hcase.index, hcase.gatewayCategories]
  rfl

section

variable (hlayer : req.layer = .dns)

include hlayer

theorem groupVerdict_dns (hcase : req.SameCase req') (group : PolicyGroup) :
    groupVerdict platform group req = groupVerdict platform group.withoutProxyRules req' := by
  have hwalk : walkRules platform req group.rules {} =
      walkRules platform req' group.withoutProxyRules.rules {} := by
    apply walkRules_filter
    · intro rule hrule
      exact ruleEffect_conditional platform hlayer hrule
    · intro rule hrule
      exact ruleEffect_unconditional platform hcase hrule
  unfold groupVerdict
  rw [hwalk]
  split
  · rfl
  · exact listVerdict_layers hcase group _

theorem ruleEffect_dns_ne_narrows (rule : GroupRule) :
    ruleEffect platform req rule ≠ .narrows := by
  unfold ruleEffect
  simp only [hlayer, ne_eq, not_true_eq_false, decide_false, Bool.false_and, Bool.false_eq_true,
    if_false]
  repeat' split
  all_goals simp

theorem walkRules_dns (rules : List GroupRule) (v : Verdict) :
    (walkRules platform req rules v).1.urlRegexes = v.urlRegexes ∧
      (walkRules platform req rules v).1.contentTypes = v.contentTypes := by
  induction rules generalizing v with
  | nil => exact ⟨rfl, rfl⟩
  | cons rule rest ih =>
    rw [walkRules]
    cases heffect : ruleEffect platform req rule with
    | skips => exact ih v
    | narrows => exact absurd heffect (ruleEffect_dns_ne_narrows platform hlayer rule)
    | decides matched => exact ⟨rfl, rfl⟩

end

theorem conditions_listVerdict (group : PolicyGroup) (req : EvalRequest) (v : Verdict) :
    (listVerdict group req v).urlRegexes = v.urlRegexes ∧
      (listVerdict group req v).contentTypes = v.contentTypes := by
  unfold listVerdict
  dsimp only
  repeat' split
  all_goals exact ⟨rfl, rfl⟩

theorem conditions_groupVerdict_dns (hlayer : req.layer = .dns) (group : PolicyGroup) :
    (groupVerdict platform group req).urlRegexes = [] ∧
      (groupVerdict platform group req).contentTypes = [] := by
  have hwalk := walkRules_dns platform hlayer group.rules {}
  unfold groupVerdict
  split
  · next v hdecided =>
    rw [hdecided] at hwalk
    exact hwalk
  · next v hundecided =>
    rw [hundecided] at hwalk
    have hlists := conditions_listVerdict group req v
    exact ⟨hlists.1.trans hwalk.1, hlists.2.trans hwalk.2⟩

end Layers

/-! ## Decisions of the two layers -/

section Decisions

variable (platform : Platform) (identity : Identity) (domain : Bytes) (layer : DecisionLayer)
  (ctx : EvalContext)

def EvalContext.request (ctx : EvalContext) (identity : Identity) (domain : Bytes)
    (layer : DecisionLayer) : EvalRequest where
  domain := canonicalDomain domain
  user := identity.authUser
  now := ctx.now
  layer := layer
  paused := (evaluatePauseIn identity ctx.pauses).isSome
  index := ctx.index
  gatewayCategories := ctx.gatewayCategories

def contextVerdict : Verdict :=
  (evaluateExceptionIn identity (canonicalDomain domain) ctx.exceptions).elim
    (groupVerdict platform (ctx.snap.groupOf identity.groupID)
      (ctx.request identity domain layer))
    fun e => { action := .allow, matched := e.domain }

theorem verdict_evaluate :
    (evaluate platform identity domain layer ctx).1.verdict =
      contextVerdict platform identity domain layer ctx := by
  have hgroup := verdict_evaluateGroup platform (ctx.request identity domain layer)
    (ctx.snap.groupOf identity.groupID)
  unfold evaluate contextVerdict
  dsimp only
  cases evaluateExceptionIn identity (canonicalDomain domain) ctx.exceptions with
  | some e => rfl
  | none =>
    rw [← hgroup]
    unfold EvalContext.request
    cases evaluatePauseIn identity ctx.pauses with
    | none => rfl
    | some pause =>
      dsimp only
      split
      · rfl
      · rfl

theorem groupOf_withoutProxyRules (groupID : Bytes) :
    ctx.withoutProxyRules.snap.groupOf groupID =
      (ctx.snap.groupOf groupID).withoutProxyRules := by
  unfold PolicySnapshot.groupOf EvalContext.withoutProxyRules
  rw [Dict.lookup_mapValues, Dict.lookup_mapValues]
  cases ctx.snap.groups.lookup groupID with
  | some group => rfl
  | none =>
    cases ctx.snap.groups.lookup defaultGroupID with
    | some | none => rfl

theorem verdict_evaluate_dns {other : Identity} (hdevice : other.deviceID = identity.deviceID)
    (hgroup : other.groupID = identity.groupID) :
    (evaluate platform identity domain .dns ctx).1.verdict =
      (evaluate platform other domain layer ctx.withoutProxyRules).1.verdict := by
  have hexception : evaluateExceptionIn other (canonicalDomain domain) ctx.exceptions =
      evaluateExceptionIn identity (canonicalDomain domain) ctx.exceptions := by
    unfold evaluateExceptionIn
    rw [hdevice, hgroup]
  have hpause : evaluatePauseIn identity ctx.pauses = evaluatePauseIn other ctx.pauses := by
    unfold evaluatePauseIn
    rw [hdevice, hgroup]
  have hcase : (ctx.request identity domain .dns).SameCase
      (ctx.withoutProxyRules.request other domain layer) :=
    ⟨rfl, rfl, congrArg Option.isSome hpause, rfl, rfl⟩
  rw [verdict_evaluate, verdict_evaluate]
  unfold contextVerdict
  rw [groupOf_withoutProxyRules, hgroup, ← groupVerdict_dns platform rfl hcase]
  change _ = (evaluateExceptionIn other (canonicalDomain domain) ctx.exceptions).elim _ _
  rw [hexception]

theorem conditions_evaluate_dns : (evaluate platform identity domain .dns ctx).1.urlRegexes = [] ∧
      (evaluate platform identity domain .dns ctx).1.contentTypes = [] := by
  change (evaluate platform identity domain .dns ctx).1.verdict.urlRegexes = [] ∧
    (evaluate platform identity domain .dns ctx).1.verdict.contentTypes = []
  rw [verdict_evaluate]
  unfold contextVerdict
  cases evaluateExceptionIn identity (canonicalDomain domain) ctx.exceptions with
  | some e => exact ⟨rfl, rfl⟩
  | none => exact conditions_groupVerdict_dns platform rfl _

end Decisions

theorem proxyMatch_unconditional {out : GroupOutcome} (hurls : out.urlRegexes = [])
    (htypes : out.contentTypes = []) (group : PolicyGroup) :
    (out.proxyMatch group).action = out.action ∧ (out.proxyMatch group).ruleID = out.ruleID ∧
      (out.proxyMatch group).matchedDomain = out.matched ∧
      ((out.proxyMatch group).shouldBlock = true ↔ out.action = .block) := by
  unfold GroupOutcome.proxyMatch ProxyMatch.action
  rw [hurls, htypes]
  cases haction : out.action <;> simp

/-- The decision for a DNS query is that of the proxy for the policy without the rules that
only the proxy can see; what it blocks is blocked there for every unauthenticated request. -/
theorem dns_decides_as_reduced_proxy (platform : Platform) (identity : Identity)
    (domain : Bytes) (ctx : EvalContext) :
    ((evaluateDNSIn platform identity domain ctx).action =
        (evaluateProxyIn platform identity domain ctx.withoutProxyRules).action ∧
      (evaluateDNSIn platform identity domain ctx).ruleID =
        (evaluateProxyIn platform identity domain ctx.withoutProxyRules).ruleID ∧
      (evaluateDNSIn platform identity domain ctx).matchedDomain =
        (evaluateProxyIn platform identity domain ctx.withoutProxyRules).matchedDomain) ∧
    ((evaluateDNSIn platform identity domain ctx).action = .block →
      ∀ other : Identity, other.deviceID = identity.deviceID →
        other.groupID = identity.groupID → other.authUser = [] →
          (evaluateProxyIn platform other domain ctx.withoutProxyRules).shouldBlock = true) := by
  have hconditions := conditions_evaluate_dns platform identity domain ctx
  have hproxy {other : Identity} (hdevice : other.deviceID = identity.deviceID)
      (hgroup : other.groupID = identity.groupID) :
      (evaluateProxyIn platform other domain ctx.withoutProxyRules).action =
          (evaluate platform identity domain .dns ctx).1.action ∧
        (evaluateProxyIn platform other domain ctx.withoutProxyRules).ruleID =
          (evaluate platform identity domain .dns ctx).1.ruleID ∧
        (evaluateProxyIn platform other domain ctx.withoutProxyRules).matchedDomain =
          (evaluate platform identity domain .dns ctx).1.matched ∧
        ((evaluateProxyIn platform other domain ctx.withoutProxyRules).shouldBlock = true ↔
          (evaluate platform identity domain .dns ctx).1.action = .block) := by
    have hverdict := verdict_evaluate_dns platform identity domain .explicitProxy ctx hdevice
      hgroup
    have hurls := (congrArg Verdict.urlRegexes hverdict).symm.trans hconditions.1
    have htypes := (congrArg Verdict.contentTypes hverdict).symm.trans hconditions.2
    have haction : (evaluate platform identity domain .dns ctx).1.action =
        (evaluate platform other domain .explicitProxy ctx.withoutProxyRules).1.action :=
      congrArg Verdict.action hverdict
    have hrule := congrArg Verdict.ruleID hverdict
    have hmatched := congrArg Verdict.matched hverdict
    obtain ⟨hproxy, hruleID, hdomain, hblock⟩ := proxyMatch_unconditional hurls htypes
      (evaluate platform other domain .explicitProxy ctx.withoutProxyRules).2
    refine ⟨hproxy.trans haction.symm, hruleID.trans hrule.symm, hdomain.trans hmatched.symm, ?_⟩
    rw [haction]
    exact hblock
  constructor
  · obtain ⟨haction, hrule, hdomain, -⟩ := hproxy rfl rfl
    exact ⟨haction.symm, hrule.symm, hdomain.symm⟩
  · intro hblock other hdevice hgroup _
    exact (hproxy hdevice hgroup).2.2.2.mpr hblock

end GateSentry.Policy
