import NriPolicy.Manager

namespace NriPolicy.Plugin

open Api Policy Config Manager

/-- The subject is read from the pod's annotations: a user, else a group, else a service
account, named default when the pod names none. A nil pod has no annotations. -/
def extractSubjectFromPod (pod : Option PodSandbox) : PolicySubject :=
  let annotations := (pod.map (·.annotations)).getD ∅
  match annotations.lookup "nri.io/user" with
  | some user => { kind := "User", name := user }
  | none =>
    match annotations.lookup "nri.io/group" with
    | some group => { kind := "Group", name := group }
    | none =>
      let serviceAccount := (annotations.lookup "nri.io/service-account").getD "default"
      { kind := "ServiceAccount", name := serviceAccount }

structure PluginPolicyValidator where
  validationManager : ValidationManager

/-- What main does once the configuration is loaded: an invalid configuration stops the plugin
with log.Fatalf, a valid one gives it its validation manager. -/
def start (config : ValidationConfig) : Except String PluginPolicyValidator :=
  match validateConfig (some config) with
  | some err => .error s!"Invalid validation config: {err}"
  | none => .ok { validationManager := newValidationManager config }

def PluginPolicyValidator.validateContainerAdjustment (p : PluginPolicyValidator)
    (req : ValidateContainerAdjustmentRequest) : Option String :=
  let subject := extractSubjectFromPod req.pod
  (p.validationManager.validateContainerAdjustment req (some subject)).map
    fun err => s!"policy validation failed: {err}"

theorem extractSubjectFromPod_kind_mem (pod : Option PodSandbox) :
    (extractSubjectFromPod pod).kind ∈ validKinds := by
  unfold extractSubjectFromPod
  dsimp only
  split
  · simp [validKinds]
  · split <;> simp [validKinds]

/-- The extraction order: the user annotation wins over the group annotation, and a pod with
neither is the service account it names, or default. -/
theorem extractSubjectFromPod_eq_iff (pod : PodSandbox) (s : PolicySubject) :
    extractSubjectFromPod (some pod) = s ↔
      (pod.annotations.lookup "nri.io/user" = some s.name ∧ s.kind = "User") ∨
      (pod.annotations.lookup "nri.io/user" = none ∧
        pod.annotations.lookup "nri.io/group" = some s.name ∧ s.kind = "Group") ∨
      (pod.annotations.lookup "nri.io/user" = none ∧ pod.annotations.lookup "nri.io/group" = none ∧
        (pod.annotations.lookup "nri.io/service-account").getD "default" = s.name ∧
        s.kind = "ServiceAccount") := by
  obtain ⟨kind, name⟩ := s
  unfold extractSubjectFromPod
  simp only [Option.map_some', Option.getD_some]
  cases pod.annotations.lookup "nri.io/user" <;> cases pod.annotations.lookup "nri.io/group" <;>
    simp [PolicySubject.mk.injEq, eq_comm, and_comm]

/-- The plugin starts exactly on a configuration that validation accepts; it gives every pod a
subject of a kind that validation accepts in a rule; and a started plugin admits a request
exactly when it has a pod, the restrictions pass it, and the policy admits every plugin of it
for the pod's subject. -/
theorem plugin_decision (config : ValidationConfig) :
    ((∃ p, start config = .ok p) ↔ validateConfig (some config) = none) ∧
    (∀ pod, (extractSubjectFromPod pod).kind ∈ validKinds) ∧
    ∀ p, start config = .ok p → ∀ req : ValidateContainerAdjustmentRequest,
      (p.validateContainerAdjustment req = none ↔
        ∃ pod, req.pod = some pod ∧
          (∀ rc ∈ config.restrictions,
            (Restrictions.newRestrictionsValidator rc).validateContainerAdjustment req = none) ∧
          ∀ n ∈ req.pluginMap, PolicyAdmits (config.policy.getD {}) pod.«namespace» n
            (some (extractSubjectFromPod (some pod)))) := by
  refine ⟨?_, extractSubjectFromPod_kind_mem, fun p hp req => ?_⟩
  · unfold start
    split <;> simp_all
  · unfold start at hp
    split at hp
    · cases hp
    · cases hp
      simp only [PluginPolicyValidator.validateContainerAdjustment, Option.map_eq_none',
        manager_validate_eq_none]
      exact exists_congr fun pod => and_congr_right fun h => by rw [h]

end NriPolicy.Plugin
