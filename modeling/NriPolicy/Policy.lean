import NriPolicy.Restrictions

namespace NriPolicy.Policy

open Go Api Restrictions

structure PolicySubject where
  kind : String
  name : String
deriving DecidableEq

structure PolicyRule where
  namespaces : List String
  plugins : List String
  subjects : List PolicySubject
deriving DecidableEq

/-- Go's zero value is `{}`: no default deny and no rules. -/
structure NRIValidationPolicySpec where
  defaultDeny : Bool := false
  rules : List PolicyRule := []
deriving DecidableEq

structure ValidationContext where
  subject : Option PolicySubject := none
  podNamespace : String := ""
  podName : String := ""
  pluginName : String := ""
deriving DecidableEq

structure PolicyBasedValidator where
  policy : NRIValidationPolicySpec
  restrictionsValidator : Option RestrictionsValidator

def newPolicyBasedValidator (policy : NRIValidationPolicySpec)
    (restrictionsConfig : Option RestrictionsConfig) : PolicyBasedValidator :=
  { policy, restrictionsValidator := restrictionsConfig.map newRestrictionsValidator }

variable (pv : PolicyBasedValidator)

def PolicyBasedValidator.globMatch (_ : PolicyBasedValidator) (pattern str : String) : Bool :=
  Glob.globMatch pattern str

def PolicyBasedValidator.namespaceMatches (namespace' : String) (patterns : List String) : Bool :=
  patterns.any (fun pattern => pv.globMatch pattern namespace')

def PolicyBasedValidator.pluginAllowed (pluginName : String) (allowedPlugins : List String) : Bool :=
  allowedPlugins.any (fun allowed => pv.globMatch allowed pluginName)

/-- A missing subject is never allowed. -/
def PolicyBasedValidator.subjectAllowed (_ : PolicyBasedValidator) :
    Option PolicySubject → List PolicySubject → Bool
  | none, _ => false
  | some subject, allowedSubjects =>
      allowedSubjects.any (fun allowed => subject.kind = allowed.kind && subject.name = allowed.name)

def PolicyBasedValidator.findMatchingRules (namespace' : String) : List PolicyRule :=
  pv.policy.rules.filter (fun rule => pv.namespaceMatches namespace' rule.namespaces)

/-- The loop over the matching rules returns at the first rule that grants access; the
default-deny flag decides both when no rule matches and when none grants. -/
def PolicyBasedValidator.validatePluginAccess (ctx : ValidationContext) : Option String :=
  let matchingRules := pv.findMatchingRules ctx.podNamespace
  if matchingRules.length = 0 then
    if pv.policy.defaultDeny then
      some "access denied: no matching rules found and defaultDeny is true"
    else none
  else if matchingRules.any (fun rule => pv.pluginAllowed ctx.pluginName rule.plugins &&
      pv.subjectAllowed ctx.subject rule.subjects) then none
  else if pv.policy.defaultDeny then
    some "access denied: no rule allows this subject/plugin combination"
  else none

/-- Restrictions first, then the policy for each plugin of the map; the loop stores the
plugin's name in the shared context before each check. -/
def PolicyBasedValidator.validateContainerAdjustment (req : ValidateContainerAdjustmentRequest)
    (validationCtx : Option ValidationContext) : Option String :=
  match req.pod with
  | none => some "pod information is required for policy validation"
  | some pod =>
      let validationCtx := validationCtx.getD { podNamespace := pod.«namespace», podName := pod.name }
      let restrictionsErr := match pv.restrictionsValidator with
        | some rv => (rv.validateContainerAdjustment req).map
            (fun err => s!"restrictions validation failed: {err}")
        | none => none
      restrictionsErr.or (firstError (fun pluginName =>
        (pv.validatePluginAccess { validationCtx with pluginName }).map
          (fun err => s!"policy validation failed for plugin {pluginName}: {err}")) req.pluginMap)

structure ExtendedValidator where
  policyValidator : PolicyBasedValidator
  defaultValidator : Option (ValidateContainerAdjustmentRequest → Option String)

def newExtendedValidator (policy : NRIValidationPolicySpec)
    (restrictionsConfig : Option RestrictionsConfig)
    (defaultValidator : Option (ValidateContainerAdjustmentRequest → Option String)) :
    ExtendedValidator :=
  { policyValidator := newPolicyBasedValidator policy restrictionsConfig, defaultValidator }

def ExtendedValidator.validateContainerAdjustment (ev : ExtendedValidator)
    (req : ValidateContainerAdjustmentRequest) (validationCtx : Option ValidationContext) :
    Option String :=
  let defaultErr := match ev.defaultValidator with
    | some validate => (validate req).map (fun err => s!"default validation failed: {err}")
    | none => none
  defaultErr.or ((ev.policyValidator.validateContainerAdjustment req validationCtx).map
    (fun err => s!"policy validation failed: {err}"))

theorem subjectAllowed_eq_true (subject : Option PolicySubject) (allowed : List PolicySubject) :
    pv.subjectAllowed subject allowed = true ↔
      ∃ s, subject = some s ∧ ∃ a ∈ allowed, s.kind = a.kind ∧ s.name = a.name := by
  cases subject <;> simp [PolicyBasedValidator.subjectAllowed]

theorem validatePluginAccess_eq_none (ctx : ValidationContext) :
    pv.validatePluginAccess ctx = none ↔
      pv.policy.defaultDeny = false ∨ ∃ rule ∈ pv.policy.rules,
        pv.namespaceMatches ctx.podNamespace rule.namespaces = true ∧
        pv.pluginAllowed ctx.pluginName rule.plugins = true ∧
        pv.subjectAllowed ctx.subject rule.subjects = true := by
  unfold PolicyBasedValidator.validatePluginAccess PolicyBasedValidator.findMatchingRules
  cases hd : pv.policy.defaultDeny
  · simp
  · simp only [Bool.true_eq_false, false_or, if_true]
    split_ifs with h1 h2
    · simp only [List.length_eq_zero, List.filter_eq_nil_iff] at h1
      simp only [reduceCtorEq, false_iff, not_exists, not_and]
      exact fun r hr hn => absurd hn (h1 r hr)
    · simp only [List.any_eq_true, List.mem_filter, Bool.and_eq_true] at h2
      obtain ⟨r, ⟨hr, hn⟩, hp, hs⟩ := h2
      exact iff_of_true rfl ⟨r, hr, hn, hp, hs⟩
    · simp only [List.any_eq_true, List.mem_filter, Bool.and_eq_true, not_exists, not_and] at h2
      simp only [reduceCtorEq, false_iff, not_exists, not_and]
      exact fun r hr hn hp hs => h2 r ⟨hr, hn⟩ hp hs

theorem validateContainerAdjustment_eq_none (req : ValidateContainerAdjustmentRequest)
    (ctx : Option ValidationContext) :
    pv.validateContainerAdjustment req ctx = none ↔
      ∃ pod, req.pod = some pod ∧
        (∀ rv ∈ pv.restrictionsValidator, rv.validateContainerAdjustment req = none) ∧
        ∀ n ∈ req.pluginMap, pv.validatePluginAccess
          { ctx.getD { podNamespace := pod.«namespace», podName := pod.name } with pluginName := n } =
            none := by
  unfold PolicyBasedValidator.validateContainerAdjustment
  cases req.pod with
  | none => simp only [reduceCtorEq, false_and, exists_false]
  | some pod => cases pv.restrictionsValidator <;> simp [Option.or_eq_none]

example : (newPolicyBasedValidator
      { defaultDeny := true, rules := [⟨["dev-*"], ["*"], [⟨"User", "developer"⟩]⟩] } none
      ).validateContainerAdjustment
      { pod := some { name := "test-pod", «namespace» := "dev-test" }, pluginMap := ["test-plugin"] }
      (some { subject := some ⟨"User", "unauthorized-user"⟩, podNamespace := "dev-test" }) =
    some ("policy validation failed for plugin test-plugin: " ++
      "access denied: no rule allows this subject/plugin combination") := by decide

/-- The two copies of `globMatch` agree; what they accept lies in the pattern's wildcard
language; and on patterns with at most one `*`, first or last, they decide it. -/
theorem globMatch_wildcard_language :
    (∀ (rv : RestrictionsValidator) (pv : PolicyBasedValidator) (pattern str : String),
      rv.globMatch pattern str = pv.globMatch pattern str) ∧
    (∀ (rv : RestrictionsValidator) (pattern str : String),
      rv.globMatch pattern str = true → Glob.Wild pattern.data str.data) ∧
    (∀ (rv : RestrictionsValidator) (pattern str : String), Glob.SimpleGlob pattern.data →
      (rv.globMatch pattern str = true ↔ Glob.Wild pattern.data str.data)) :=
  ⟨fun _ _ _ _ => rfl, fun _ _ _ => Glob.wild_of_globMatch,
    fun _ _ str hp => Glob.globMatch_iff_wild hp str⟩

/-- The loop of ValidateContainerAdjustment over the plugin map with the context it writes each
plugin's name into before checking it; the loop stops at the first plugin the policy denies. -/
def PolicyBasedValidator.checkPlugins (validationCtx : ValidationContext) :
    List String → Option String × ValidationContext
  | [] => (none, validationCtx)
  | pluginName :: plugins =>
      let validationCtx := { validationCtx with pluginName }
      match pv.validatePluginAccess validationCtx with
      | some err =>
          (some s!"policy validation failed for plugin {pluginName}: {err}", validationCtx)
      | none => PolicyBasedValidator.checkPlugins validationCtx plugins

/-- ValidateContainerAdjustment with the caller's context as state. Go passes the context by
pointer and the loop writes into it, so the caller sees the context as the loop left it; a nil
context is replaced by a fresh one that the caller never sees. -/
def PolicyBasedValidator.validateContainerAdjustmentCtx (req : ValidateContainerAdjustmentRequest)
    (validationCtx : Option ValidationContext) : Option String × Option ValidationContext :=
  match req.pod with
  | none => (some "pod information is required for policy validation", validationCtx)
  | some pod =>
      let restrictionsErr := match pv.restrictionsValidator with
        | some rv => (rv.validateContainerAdjustment req).map
            (fun err => s!"restrictions validation failed: {err}")
        | none => none
      match restrictionsErr with
      | some err => (some err, validationCtx)
      | none =>
          let result := pv.checkPlugins
            (validationCtx.getD { podNamespace := pod.«namespace», podName := pod.name }) req.pluginMap
          (result.1, validationCtx.map fun _ => result.2)

def ExtendedValidator.validateContainerAdjustmentCtx (ev : ExtendedValidator)
    (req : ValidateContainerAdjustmentRequest) (validationCtx : Option ValidationContext) :
    Option String × Option ValidationContext :=
  match ev.defaultValidator.bind (· req) with
  | some err => (some s!"default validation failed: {err}", validationCtx)
  | none =>
      let result := ev.policyValidator.validateContainerAdjustmentCtx req validationCtx
      (result.1.map (fun err => s!"policy validation failed: {err}"), result.2)

/-- A caller that hands one context to a sequence of calls, as the package's test does. -/
def ExtendedValidator.runShared (ev : ExtendedValidator) :
    Option ValidationContext → List ValidateContainerAdjustmentRequest → List (Option String)
  | _, [] => []
  | validationCtx, req :: reqs =>
      let result := ev.validateContainerAdjustmentCtx req validationCtx
      result.1 :: ev.runShared result.2 reqs

theorem checkPlugins_fst (ctx : ValidationContext) (plugins : List String) :
    (pv.checkPlugins ctx plugins).1 = firstError (fun pluginName =>
      (pv.validatePluginAccess { ctx with pluginName }).map
        (fun err => s!"policy validation failed for plugin {pluginName}: {err}")) plugins := by
  induction plugins generalizing ctx with
  | nil => rfl
  | cons n ns ih =>
      simp only [PolicyBasedValidator.checkPlugins, firstError_cons]
      cases pv.validatePluginAccess { ctx with pluginName := n } with
      | some err => rfl
      | none => exact ih _

theorem checkPlugins_snd (ctx : ValidationContext) (plugins : List String) :
    ∃ n, (pv.checkPlugins ctx plugins).2 = { ctx with pluginName := n } := by
  induction plugins generalizing ctx with
  | nil => exact ⟨ctx.pluginName, rfl⟩
  | cons n ns ih =>
      simp only [PolicyBasedValidator.checkPlugins]
      cases pv.validatePluginAccess { ctx with pluginName := n } with
      | some err => exact ⟨n, rfl⟩
      | none => exact ih _

theorem checkPlugins_snd_of_none {ctx : ValidationContext} {plugins : List String}
    (h : (pv.checkPlugins ctx plugins).1 = none) :
    (pv.checkPlugins ctx plugins).2 = { ctx with pluginName := plugins.getLast?.getD ctx.pluginName } := by
  induction plugins generalizing ctx with
  | nil => rfl
  | cons n ns ih =>
      simp only [PolicyBasedValidator.checkPlugins] at h ⊢
      cases hn : pv.validatePluginAccess { ctx with pluginName := n } with
      | some err => simp [hn] at h
      | none =>
          simp only [hn] at h ⊢
          rw [ih h]
          cases ns <;> simp [List.getLast?_cons]

theorem checkPlugins_of_denied {ctx : ValidationContext} {pre post : List String} {n err : String}
    (hpre : ∀ m ∈ pre, pv.validatePluginAccess { ctx with pluginName := m } = none)
    (hn : pv.validatePluginAccess { ctx with pluginName := n } = some err) :
    pv.checkPlugins ctx (pre ++ n :: post) =
      (some s!"policy validation failed for plugin {n}: {err}", { ctx with pluginName := n }) := by
  induction pre generalizing ctx with
  | nil => simp only [List.nil_append, PolicyBasedValidator.checkPlugins, hn]
  | cons m ms ih =>
      simp only [List.mem_cons, forall_eq_or_imp] at hpre
      simp only [List.cons_append, PolicyBasedValidator.checkPlugins, hpre.1]
      exact ih hpre.2 hn

theorem validateContainerAdjustmentCtx_fst (req : ValidateContainerAdjustmentRequest)
    (validationCtx : Option ValidationContext) :
    (pv.validateContainerAdjustmentCtx req validationCtx).1 =
      pv.validateContainerAdjustment req validationCtx := by
  unfold PolicyBasedValidator.validateContainerAdjustmentCtx PolicyBasedValidator.validateContainerAdjustment
  cases req.pod with
  | none => rfl
  | some pod =>
      dsimp only
      split <;> simp_all [checkPlugins_fst]

theorem validateContainerAdjustmentCtx_snd (req : ValidateContainerAdjustmentRequest)
    (ctx : ValidationContext) :
    ∃ n, (pv.validateContainerAdjustmentCtx req (some ctx)).2 = some { ctx with pluginName := n } := by
  unfold PolicyBasedValidator.validateContainerAdjustmentCtx
  cases req.pod with
  | none => exact ⟨ctx.pluginName, rfl⟩
  | some pod =>
      dsimp only
      split
      · exact ⟨ctx.pluginName, rfl⟩
      · obtain ⟨n, hn⟩ := checkPlugins_snd pv ctx req.pluginMap
        exact ⟨n, by simp [hn]⟩

theorem validateContainerAdjustmentCtx_none (req : ValidateContainerAdjustmentRequest) :
    (pv.validateContainerAdjustmentCtx req none).2 = none := by
  unfold PolicyBasedValidator.validateContainerAdjustmentCtx
  cases req.pod with
  | none => rfl
  | some pod => dsimp only; split <;> rfl

theorem validateContainerAdjustmentCtx_of_pass {req : ValidateContainerAdjustmentRequest}
    {pod : PodSandbox} (hpod : req.pod = some pod)
    (hres : ∀ rv ∈ pv.restrictionsValidator, rv.validateContainerAdjustment req = none)
    (ctx : ValidationContext) :
    pv.validateContainerAdjustmentCtx req (some ctx) =
      ((pv.checkPlugins ctx req.pluginMap).1, some (pv.checkPlugins ctx req.pluginMap).2) := by
  unfold PolicyBasedValidator.validateContainerAdjustmentCtx
  cases hrv : pv.restrictionsValidator with
  | none => simp only [hpod, Option.getD_some, Option.map_some']
  | some rv =>
      simp only [hrv, Option.mem_def, forall_eq] at hres
      simp only [hpod, hres, Option.map_none', Option.getD_some, Option.map_some']

/-- What a call leaves in the caller's context: only the plugin name changes. After a call
that passes, it names the last plugin of the map (an empty map leaves it as it was); after the
policy denies a plugin, it names that plugin, the first one denied in map order. -/
theorem validateContainerAdjustmentCtx_context (req : ValidateContainerAdjustmentRequest)
    (ctx : ValidationContext) :
    (∃ n, (pv.validateContainerAdjustmentCtx req (some ctx)).2 = some { ctx with pluginName := n }) ∧
    ((pv.validateContainerAdjustmentCtx req (some ctx)).1 = none →
      (pv.validateContainerAdjustmentCtx req (some ctx)).2 =
        some { ctx with pluginName := req.pluginMap.getLast?.getD ctx.pluginName }) ∧
    ∀ (pod : PodSandbox) (pre : List String) (n : String) (post : List String) (err : String),
      req.pod = some pod →
      (∀ rv ∈ pv.restrictionsValidator, rv.validateContainerAdjustment req = none) →
      req.pluginMap = pre ++ n :: post →
      (∀ m ∈ pre, pv.validatePluginAccess { ctx with pluginName := m } = none) →
      pv.validatePluginAccess { ctx with pluginName := n } = some err →
      pv.validateContainerAdjustmentCtx req (some ctx) =
        (some s!"policy validation failed for plugin {n}: {err}", some { ctx with pluginName := n }) := by
  refine ⟨validateContainerAdjustmentCtx_snd pv req ctx, fun h => ?_,
    fun pod pre n post err hpod hres hmap hpre hn => ?_⟩
  · obtain ⟨pod, hpod, hres, -⟩ := (validateContainerAdjustment_eq_none pv req (some ctx)).mp
      ((validateContainerAdjustmentCtx_fst pv req (some ctx)).symm.trans h)
    rw [validateContainerAdjustmentCtx_of_pass pv hpod hres] at h ⊢
    exact congrArg some (checkPlugins_snd_of_none pv h)
  · rw [validateContainerAdjustmentCtx_of_pass pv hpod hres, hmap, checkPlugins_of_denied pv hpre hn]

theorem extendedCtx_fst (ev : ExtendedValidator)
    (req : ValidateContainerAdjustmentRequest) (validationCtx : Option ValidationContext) :
    (ev.validateContainerAdjustmentCtx req validationCtx).1 =
      ev.validateContainerAdjustment req validationCtx := by
  unfold ExtendedValidator.validateContainerAdjustmentCtx ExtendedValidator.validateContainerAdjustment
  cases ev.defaultValidator with
  | none => simp [validateContainerAdjustmentCtx_fst]
  | some validate => cases h : validate req <;> simp [h, validateContainerAdjustmentCtx_fst]

theorem extendedCtx_snd (ev : ExtendedValidator)
    (req : ValidateContainerAdjustmentRequest) (validationCtx : Option ValidationContext) :
    ∃ n, (ev.validateContainerAdjustmentCtx req validationCtx).2 =
      validationCtx.map fun ctx => { ctx with pluginName := n } := by
  unfold ExtendedValidator.validateContainerAdjustmentCtx
  split
  · exact ⟨validationCtx.elim "" (·.pluginName), by cases validationCtx <;> rfl⟩
  · cases validationCtx with
    | none => exact ⟨"", validateContainerAdjustmentCtx_none ev.policyValidator req⟩
    | some ctx => exact validateContainerAdjustmentCtx_snd ev.policyValidator req ctx

/-- Handing one context to a sequence of calls, as a caller that keeps it across requests does,
gives every call the decision, message included, that the context it first handed over yields:
the plugin names the loop writes into it never reach a later decision. Each call's decision is
the one the model without state gives. -/
theorem runShared_eq (ev : ExtendedValidator) (validationCtx : Option ValidationContext)
    (reqs : List ValidateContainerAdjustmentRequest) :
    ev.runShared validationCtx reqs =
      reqs.map fun req => ev.validateContainerAdjustment req validationCtx := by
  induction reqs generalizing validationCtx with
  | nil => rfl
  | cons req reqs ih =>
      obtain ⟨n, hn⟩ := extendedCtx_snd ev req validationCtx
      rw [ExtendedValidator.runShared, extendedCtx_fst, hn, ih, List.map_cons]
      refine congrArg (List.cons _) (List.map_congr_left fun req _ => ?_)
      cases validationCtx <;> rfl

end NriPolicy.Policy
