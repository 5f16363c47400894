import NriPolicy.Policy

namespace NriPolicy.Config

open Go Api Restrictions Policy

/-- The configuration file. `defaultValidatorConfig` is an opaque `map[string]interface{}`
handed to the legacy validator; only whether it is nil is ever read. -/
@[ext] structure ValidationConfig where
  policy : Option NRIValidationPolicySpec := none
  restrictions : Option RestrictionsConfig := none
  enableDefaultValidator : Bool := false
  defaultValidatorConfig : Option (List (String × String)) := none
deriving DecidableEq

def validKinds : List String := ["User", "Group", "ServiceAccount"]

def validatePolicy (policy : NRIValidationPolicySpec) : Option String :=
  firstErrorIdx (fun i rule =>
    if rule.namespaces.length = 0 then some s!"rule {i}: namespaces cannot be empty"
    else if rule.plugins.length = 0 then some s!"rule {i}: plugins cannot be empty"
    else if rule.subjects.length = 0 then some s!"rule {i}: subjects cannot be empty"
    else firstErrorIdx (fun j subject =>
      if subject.kind = "" then some s!"rule {i}, subject {j}: kind cannot be empty"
      else if subject.name = "" then some s!"rule {i}, subject {j}: name cannot be empty"
      else if subject.kind ∉ validKinds then
        some s!"rule {i}, subject {j}: invalid kind {subject.kind}, must be one of: [User Group ServiceAccount]"
      else none) rule.subjects) policy.rules

def validCapabilities : List MutationCapability :=
  [mutationAnnotations, mutationMounts, mutationArgs, mutationEnv, mutationHooks, mutationRlimits,
    mutationDevices, mutationResources, mutationSeccomp, mutationNamespaces, mutationMemory,
    mutationCPU, mutationBlockIO, mutationRDT, mutationUnified]

def validateMutationRestriction (restriction : MutationRestriction) : Option String :=
  if restriction.action ≠ restrictionAllow ∧ restriction.action ≠ restrictionDeny then
    some "invalid action: must be \x27allow\x27 or \x27deny\x27"
  else if restriction.capabilities.length = 0 then some "capabilities cannot be empty"
  else firstError (fun cap =>
    if cap ∉ validCapabilities then some s!"invalid capability: {cap}" else none)
    restriction.capabilities

/-- Checks the default action, the global restrictions and the plugin restrictions; the
pod restrictions, global or per plugin, are not looked at. -/
def validateRestrictions (restrictions : RestrictionsConfig) : Option String :=
  if restrictions.defaultAction ≠ "" ∧ restrictions.defaultAction ≠ restrictionAllow ∧
      restrictions.defaultAction ≠ restrictionDeny then
    some "invalid defaultAction: must be \x27allow\x27 or \x27deny\x27"
  else
    (firstErrorIdx (fun i restriction => (validateMutationRestriction restriction).map
      (fun err => s!"global restriction {i}: {err}")) restrictions.globalRestrictions).or
    (firstErrorIdx (fun i pluginRestriction =>
      if pluginRestriction.pluginPattern = "" then
        some s!"plugin restriction {i}: pluginPattern cannot be empty"
      else firstErrorIdx (fun j mutationRestriction =>
        (validateMutationRestriction mutationRestriction).map
          (fun err => s!"plugin restriction {i}, mutation restriction {j}: {err}"))
        pluginRestriction.mutationRestrictions) restrictions.pluginRestrictions)

def validateConfig : Option ValidationConfig → Option String
  | none => some "config cannot be nil"
  | some config =>
      (match config.policy with
        | some policy => (validatePolicy policy).map (fun err => s!"invalid policy: {err}")
        | none => none).or
      (match config.restrictions with
        | some restrictions =>
            (validateRestrictions restrictions).map (fun err => s!"invalid restrictions: {err}")
        | none => none)

theorem validateMutationRestriction_eq_none (r : MutationRestriction) :
    validateMutationRestriction r = none ↔
      (r.action = restrictionAllow ∨ r.action = restrictionDeny) ∧ r.capabilities ≠ [] ∧
        ∀ cap ∈ r.capabilities, cap ∈ validCapabilities := by
  unfold validateMutationRestriction
  split_ifs with h1 h2
  · simp only [reduceCtorEq, false_iff, not_and]
    exact fun h => absurd h (not_or.mpr h1)
  · simp [List.length_eq_zero.mp h2]
  · simp only [not_and_or, not_not] at h1
    simp [h1, List.length_eq_zero.not.mp h2]

theorem validatePolicy_eq_none (policy : NRIValidationPolicySpec) :
    validatePolicy policy = none ↔ ∀ rule ∈ policy.rules,
      rule.namespaces ≠ [] ∧ rule.plugins ≠ [] ∧ rule.subjects ≠ [] ∧
        ∀ s ∈ rule.subjects, s.name ≠ "" ∧ s.kind ∈ validKinds := by
  refine firstErrorIdx_eq_none (fun i rule => ?_) _
  simp only [List.length_eq_zero]
  by_cases h1 : rule.namespaces = []
  · simp [h1]
  rw [if_neg h1]
  by_cases h2 : rule.plugins = []
  · simp [h2]
  rw [if_neg h2]
  by_cases h3 : rule.subjects = []
  · simp [h3]
  rw [if_neg h3]
  refine (firstErrorIdx_eq_none (P := fun s : PolicySubject => s.name ≠ "" ∧ s.kind ∈ validKinds)
    (fun j s => ?_) _).trans (by simp [h1, h2, h3])
  by_cases hk : s.kind = "" <;> by_cases hn : s.name = "" <;>
    simp [hk, hn, show "" ∉ validKinds by decide]

theorem validateRestrictions_eq_none (rc : RestrictionsConfig) :
    validateRestrictions rc = none ↔
      (rc.defaultAction = "" ∨ rc.defaultAction = restrictionAllow ∨
        rc.defaultAction = restrictionDeny) ∧
      (∀ pr ∈ rc.pluginRestrictions, pr.pluginPattern ≠ "") ∧
      ∀ r ∈ rc.globalRestrictions ++ rc.pluginRestrictions.flatMap (·.mutationRestrictions),
        validateMutationRestriction r = none := by
  unfold validateRestrictions
  split_ifs with h
  · simp only [reduceCtorEq, false_iff, not_and]
    exact fun hd => absurd hd (by simpa only [not_or] using h)
  · rw [Option.or_eq_none, firstErrorIdx_map_eq_none, firstErrorIdx_eq_none
      (P := fun pr : PluginRestriction => pr.pluginPattern ≠ "" ∧
        ∀ r ∈ pr.mutationRestrictions, validateMutationRestriction r = none) ?hf]
    · simp only [not_and_or, not_not] at h
      simp only [h, true_and, List.forall_mem_append, List.forall_mem_flatMap, imp_and, forall_and]
      exact and_left_comm
    · intro i pr
      split_ifs <;> simp [*, firstErrorIdx_map_eq_none]

/-- A configuration passes validation exactly when every policy rule and subject, every
plugin restriction and every mutation restriction in it is well formed. -/
theorem validateConfig_eq_none_iff (c : ValidationConfig) :
    validateConfig (some c) = none ↔
      (∀ policy ∈ c.policy, ∀ rule ∈ policy.rules,
        rule.namespaces ≠ [] ∧ rule.plugins ≠ [] ∧ rule.subjects ≠ [] ∧
          ∀ s ∈ rule.subjects, s.name ≠ "" ∧ s.kind ∈ ["User", "Group", "ServiceAccount"]) ∧
      (∀ rc ∈ c.restrictions,
        (rc.defaultAction = "" ∨ rc.defaultAction = restrictionAllow ∨
          rc.defaultAction = restrictionDeny) ∧
        (∀ pr ∈ rc.pluginRestrictions, pr.pluginPattern ≠ "") ∧
        ∀ r ∈ rc.globalRestrictions ++ rc.pluginRestrictions.flatMap (·.mutationRestrictions),
          (r.action = restrictionAllow ∨ r.action = restrictionDeny) ∧ r.capabilities ≠ [] ∧
            ∀ cap ∈ r.capabilities, cap ∈ ["annotations", "mounts", "args", "env", "hooks",
              "rlimits", "devices", "resources", "seccomp", "namespaces", "memory", "cpu",
              "blockio", "rdt", "unified"]) := by
  have hcaps : validCapabilities = ["annotations", "mounts", "args", "env", "hooks", "rlimits",
      "devices", "resources", "seccomp", "namespaces", "memory", "cpu", "blockio", "rdt",
      "unified"] := rfl
  rw [validateConfig, Option.or_eq_none]
  refine and_congr ?_ ?_
  · cases c.policy with
    | none => exact iff_of_true rfl fun p h => absurd h (Option.not_mem_none p)
    | some policy =>
        simp only [Option.map_eq_none', validatePolicy_eq_none, validKinds, Option.mem_def,
          Option.some.injEq, forall_eq']
  · cases c.restrictions with
    | none => exact iff_of_true rfl fun p h => absurd h (Option.not_mem_none p)
    | some rc =>
        simp only [Option.map_eq_none', validateRestrictions_eq_none,
          validateMutationRestriction_eq_none, hcaps, Option.mem_def, Option.some.injEq,
          forall_eq']

theorem extracted_of_accepted {r : MutationRestriction} (hr : validateMutationRestriction r = none)
    {c : MutationCapability} (hc : c ∈ r.capabilities) (hs : c ≠ mutationSeccomp)
    (rv : RestrictionsValidator) : c ∈ rv.extractMutationCapabilities (some fullAdjustment) := by
  have hfull : ∀ c ∈ validCapabilities, c ≠ mutationSeccomp →
      c ∈ (newRestrictionsValidator {}).extractMutationCapabilities (some fullAdjustment) := by
    decide
  exact hfull c (((validateMutationRestriction_eq_none r).mp hr).2.2 c hc) hs

/-- A configuration whose one restriction is a global pod restriction with the action
`Allow`, which is neither `allow` nor `deny`. -/
def podActionConfig : ValidationConfig :=
  { restrictions := some { globalPodRestrictions := [{ action := "Allow", selector := {} }] } }

theorem validateConfig_accepts_unknown_pod_action :
    validateConfig (some podActionConfig) = none ∧
      ∀ rc ∈ podActionConfig.restrictions, ∃ r ∈ rc.globalPodRestrictions,
        r.action ≠ restrictionAllow ∧ r.action ≠ restrictionDeny ∧
          ∀ (rv : RestrictionsValidator) (pod : PodSandbox), rv.checkPodRestriction r pod = none := by
  refine ⟨by decide, fun rc hrc => ?_⟩
  simp only [podActionConfig, Option.mem_def, Option.some.injEq] at hrc
  subst hrc
  have ha : "Allow" ≠ restrictionAllow := by decide
  have hd : "Allow" ≠ restrictionDeny := by decide
  exact ⟨_, List.mem_singleton_self _, ha, hd, fun rv => checkPodRestriction_other_action rv ha hd⟩

end NriPolicy.Config
