import NriPolicy.Config

namespace NriPolicy.Manager

open Go Api Restrictions Policy Config

structure ValidationManager where
  extendedValidator : ExtendedValidator
  config : ValidationConfig

/-- `NewValidationManager` never fails, and the legacy validator it hands on is nil whether
or not the configuration enables it. -/
def newValidationManager (config : ValidationConfig) : ValidationManager :=
  let defaultValidator : Option (ValidateContainerAdjustmentRequest → Option String) := none
  let policy := config.policy.getD {}
  { extendedValidator := newExtendedValidator policy config.restrictions defaultValidator, config }

def ValidationManager.validateContainerAdjustment (vm : ValidationManager)
    (req : ValidateContainerAdjustmentRequest) (subject : Option PolicySubject) : Option String :=
  let validationCtx : ValidationContext := match req.pod with
    | some pod => { subject, podNamespace := pod.«namespace», podName := pod.name }
    | none => { subject }
  vm.extendedValidator.validateContainerAdjustment req (some validationCtx)

/-- The policy decision in the words of the specification: a plugin is admitted unless the
policy denies by default and no rule whose namespaces match the pod's names both the plugin
and the subject, a missing subject matching no entry. -/
def PolicyAdmits (policy : NRIValidationPolicySpec) (namespace' pluginName : String)
    (subject : Option PolicySubject) : Prop :=
  policy.defaultDeny = false ∨ ∃ rule ∈ policy.rules,
    (∃ p ∈ rule.namespaces, Glob.globMatch p namespace' = true) ∧
    (∃ p ∈ rule.plugins, Glob.globMatch p pluginName = true) ∧
    ∃ s ∈ subject, ∃ e ∈ rule.subjects, s.kind = e.kind ∧ s.name = e.name

theorem validatePluginAccess_eq_none_iff_admits (pv : PolicyBasedValidator)
    (ctx : ValidationContext) :
    pv.validatePluginAccess ctx = none ↔
      PolicyAdmits pv.policy ctx.podNamespace ctx.pluginName ctx.subject := by
  rw [validatePluginAccess_eq_none, PolicyAdmits]
  simp only [PolicyBasedValidator.namespaceMatches, PolicyBasedValidator.pluginAllowed,
    PolicyBasedValidator.globMatch, List.any_eq_true, subjectAllowed_eq_true, Option.mem_def]

theorem manager_validate_eq_none (c : ValidationConfig) (req : ValidateContainerAdjustmentRequest)
    (subject : Option PolicySubject) :
    (newValidationManager c).validateContainerAdjustment req subject = none ↔
      ∃ pod, req.pod = some pod ∧
        (∀ rc ∈ c.restrictions, (newRestrictionsValidator rc).validateContainerAdjustment req = none) ∧
        ∀ n ∈ req.pluginMap, PolicyAdmits (c.policy.getD {}) pod.«namespace» n subject := by
  simp only [ValidationManager.validateContainerAdjustment, ExtendedValidator.validateContainerAdjustment,
    newValidationManager, newExtendedValidator, Option.or, Option.map_eq_none',
    Policy.validateContainerAdjustment_eq_none, validatePluginAccess_eq_none_iff_admits]
  cases req.pod with
  | none => simp only [reduceCtorEq, false_and, exists_false]
  | some pod =>
      simp only [Option.some.injEq, exists_eq_left', newPolicyBasedValidator, Option.getD_some,
        Option.mem_map, forall_exists_index, and_imp, forall_apply_eq_imp_iff₂]

def seccompDenyConfig : ValidationConfig :=
  { restrictions := some { globalRestrictions := [⟨restrictionDeny, [mutationSeccomp]⟩] } }

def seccompRequest : ValidateContainerAdjustmentRequest :=
  { pod := some { name := "web", «namespace» := "default" },
    adjust := some { linux := some { seccompPolicy := some ⟨⟩ } }, pluginMap := ["seccomp-tuner"] }

/-- Every capability that validation accepts in a restriction, seccomp apart, is reported for
some adjustment, but seccomp is reported for none: the extractor never reads the adjustment's
seccomp policy. So a configuration that validation accepts and that denies seccomp changes
admits a request whose adjustment changes the seccomp policy. -/
theorem seccomp_denial_never_fires :
    (∀ r : MutationRestriction, validateMutationRestriction r = none →
      ∀ c ∈ r.capabilities, c ≠ mutationSeccomp →
        ∃ a : ContainerAdjustment, ∀ rv : RestrictionsValidator,
          c ∈ rv.extractMutationCapabilities (some a)) ∧
    (∀ (rv : RestrictionsValidator) (a : Option ContainerAdjustment),
      mutationSeccomp ∉ rv.extractMutationCapabilities a) ∧
    validateConfig (some seccompDenyConfig) = none ∧
    (newValidationManager seccompDenyConfig).validateContainerAdjustment seccompRequest none = none :=
  ⟨fun _ hr _ hc hs => ⟨fullAdjustment, extracted_of_accepted hr hc hs⟩,
    seccomp_not_mem_extractMutationCapabilities, by decide, by decide⟩

theorem policyAdmits_perm {policy : NRIValidationPolicySpec} {rules : List PolicyRule}
    (hp : rules.Perm policy.rules) (namespace' pluginName : String) (subject : Option PolicySubject) :
    PolicyAdmits { policy with rules } namespace' pluginName subject ↔
      PolicyAdmits policy namespace' pluginName subject := by
  simp only [PolicyAdmits]
  exact or_congr_right (exists_congr fun _ => and_congr_left' hp.mem_iff)

/-- The manager admits a request exactly when the request has a pod, the restrictions layer
passes it, and the policy admits every plugin of it; the outcome depends neither on the
order in which the plugin map is visited nor on the order of the policy's rules. -/
theorem validationManager_decision (c : ValidationConfig) (req : ValidateContainerAdjustmentRequest)
    (subject : Option PolicySubject) :
    ((newValidationManager c).validateContainerAdjustment req subject = none ↔
      ∃ pod, req.pod = some pod ∧
        (∀ rc ∈ c.restrictions, (newRestrictionsValidator rc).validateContainerAdjustment req = none) ∧
        ∀ n ∈ req.pluginMap, PolicyAdmits (c.policy.getD {}) pod.«namespace» n subject) ∧
    (∀ order : List String, order.Perm req.pluginMap →
      ((newValidationManager c).validateContainerAdjustment
        { req with pluginMap := order } subject).isNone =
        ((newValidationManager c).validateContainerAdjustment req subject).isNone) ∧
    ∀ rules : List PolicyRule, rules.Perm (c.policy.getD {}).rules →
      ((newValidationManager { c with policy := some { c.policy.getD {} with rules } }).validateContainerAdjustment
        req subject).isNone =
        ((newValidationManager c).validateContainerAdjustment req subject).isNone := by
  refine ⟨manager_validate_eq_none c req subject, fun order hp => ?_, fun rules hp => ?_⟩
  · rw [isNone_eq_isNone_iff, manager_validate_eq_none, manager_validate_eq_none]
    exact exists_congr fun _ => and_congr_right fun _ => and_congr
      (forall₂_congr fun rc _ => isNone_eq_isNone_iff.mp (validateContainerAdjustment_perm _ req hp))
      (forall_congr' fun _ => imp_congr hp.mem_iff Iff.rfl)
  · rw [isNone_eq_isNone_iff, manager_validate_eq_none, manager_validate_eq_none]
    exact exists_congr fun pod => and_congr_right fun _ => and_congr_right fun _ =>
      forall₂_congr fun n _ => policyAdmits_perm hp pod.«namespace» n subject

end NriPolicy.Manager
