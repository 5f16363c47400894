import NriPolicy.Glob
import NriPolicy.Api

namespace NriPolicy.Restrictions

open Go Api

/-- `RestrictionAction` is a Go string type: a configuration may hold any string in it. -/
abbrev RestrictionAction := String

def restrictionAllow : RestrictionAction := "allow"
def restrictionDeny : RestrictionAction := "deny"

/-- `MutationCapability` is a Go string type as well. -/
abbrev MutationCapability := String

def mutationAnnotations : MutationCapability := "annotations"
def mutationMounts : MutationCapability := "mounts"
def mutationArgs : MutationCapability := "args"
def mutationEnv : MutationCapability := "env"
def mutationHooks : MutationCapability := "hooks"
def mutationRlimits : MutationCapability := "rlimits"
def mutationDevices : MutationCapability := "devices"
def mutationResources : MutationCapability := "resources"
def mutationSeccomp : MutationCapability := "seccomp"
def mutationNamespaces : MutationCapability := "namespaces"
def mutationMemory : MutationCapability := "memory"
def mutationCPU : MutationCapability := "cpu"
def mutationBlockIO : MutationCapability := "blockio"
def mutationRDT : MutationCapability := "rdt"
def mutationUnified : MutationCapability := "unified"

structure PodSelector where
  namespaces : List String := []
  labels : StringMap := ∅
  names : List String := []
deriving DecidableEq

structure MutationRestriction where
  action : RestrictionAction
  capabilities : List MutationCapability
deriving DecidableEq

structure PodRestriction where
  action : RestrictionAction
  selector : PodSelector
deriving DecidableEq

structure PluginRestriction where
  pluginPattern : String
  mutationRestrictions : List MutationRestriction := []
  podRestrictions : List PodRestriction := []
deriving DecidableEq

/-- The restrictions section of the configuration. Validation checks `defaultAction`, but no
validator ever reads it. -/
structure RestrictionsConfig where
  defaultAction : RestrictionAction := ""
  globalRestrictions : List MutationRestriction := []
  pluginRestrictions : List PluginRestriction := []
  globalPodRestrictions : List PodRestriction := []
deriving DecidableEq

structure RestrictionsValidator where
  config : RestrictionsConfig

def newRestrictionsValidator (config : RestrictionsConfig) : RestrictionsValidator := ⟨config⟩

variable (rv : RestrictionsValidator)

def RestrictionsValidator.globMatch (_ : RestrictionsValidator) (pattern str : String) : Bool :=
  Glob.globMatch pattern str

/-- The capabilities an adjustment exercises, in the order the source appends them.
The seccomp policy of the adjustment is never read, so seccomp is never reported. -/
def RestrictionsValidator.extractMutationCapabilities (_ : RestrictionsValidator) :
    Option ContainerAdjustment → List MutationCapability
  | none => []
  | some adjust =>
      (if adjust.annotations.entries.length > 0 then [mutationAnnotations] else []) ++
      (if adjust.mounts.length > 0 then [mutationMounts] else []) ++
      (if adjust.args.length > 0 then [mutationArgs] else []) ++
      (if adjust.env.length > 0 then [mutationEnv] else []) ++
      (if adjust.hooks.isSome then [mutationHooks] else []) ++
      (if adjust.rlimits.length > 0 then [mutationRlimits] else []) ++
      match adjust.linux with
      | none => []
      | some linux =>
          (if linux.devices.length > 0 then [mutationDevices] else []) ++
          (match linux.resources with
            | none => []
            | some res =>
                [mutationResources] ++
                (if res.memory.isSome then [mutationMemory] else []) ++
                (if res.cpu.isSome then [mutationCPU] else []) ++
                (if res.blockioClass.any (·.value ≠ "") then [ mutationBlockIO] else []) ++
                (if res.rdtClass.any (·.value ≠ "") then [mutationRDT] else []) ++
                (if res.unified.entries.length > 0 then [mutationUnified] else [])) ++
          (if linux.namespaces.length > 0 then [mutationNamespaces] else [])

theorem seccomp_not_mem_extractMutationCapabilities (a : Option ContainerAdjustment) :
    mutationSeccomp ∉ rv.extractMutationCapabilities a := by
  rcases a with _ | ⟨_, _, _, _, _, _, _ | ⟨_, _ | _, _, _⟩⟩ <;>
    simp [RestrictionsValidator.extractMutationCapabilities, mutationSeccomp, mutationAnnotations,
      mutationMounts, mutationArgs, mutationEnv, mutationHooks, mutationRlimits, mutationDevices,
      mutationResources, mutationNamespaces, mutationMemory, mutationCPU, mutationBlockIO,
      mutationRDT, mutationUnified]

/-- An adjustment that sets every field the extractor reads. -/
def fullAdjustment : ContainerAdjustment :=
  { annotations := AList.singleton "key" "value", mounts := [⟨⟩], args := ["arg"], env := [⟨⟩],
    hooks := some ⟨⟩, rlimits := [⟨⟩],
    linux := some
      { devices := [⟨⟩], namespaces := [⟨⟩],
        resources := some
          { memory := some ⟨⟩, cpu := some ⟨⟩, blockioClass := some ⟨"class"⟩,
            rdtClass := some ⟨"class"⟩, unified := AList.singleton "key" "value" } } }

def RestrictionsValidator.checkMutationRestriction (_ : RestrictionsValidator) (restriction : MutationRestriction)
    (capabilities : List MutationCapability) : Option String :=
  if restriction.action = restrictionAllow then
    firstError (fun cap => if cap ∉ restriction.capabilities then
      some s!"mutation capability {cap} not in allowlist" else none) capabilities
  else if restriction.action = restrictionDeny then
    firstError (fun cap => if cap ∈ restriction.capabilities then
      some s!"mutation capability {cap} is denied" else none) capabilities
  else none

/-- Every present field of the selector must match; the label loop returns at the first
key that the pod lacks or maps elsewhere. -/
def RestrictionsValidator.podMatches (selector : PodSelector) (pod : PodSandbox) : Bool :=
  if selector.namespaces.length > 0 &&
      !selector.namespaces.any (fun nsPattern => rv.globMatch nsPattern pod.«namespace») then false
  else if selector.labels.entries.length > 0 &&
      !selector.labels.entries.all (fun e => pod.labels.lookup e.1 = some e.2) then false
  else if selector.names.length > 0 &&
      !selector.names.any (fun namePattern => rv.globMatch namePattern pod.name) then false
  else true

def RestrictionsValidator.checkPodRestriction (restriction : PodRestriction)
    (pod : PodSandbox) : Option String :=
  let matched := rv.podMatches restriction.selector pod
  if restriction.action = restrictionAllow then
    if !matched then some "pod not in allowlist" else none
  else if restriction.action = restrictionDeny then
    if matched then some "pod is in denylist" else none
  else none

def RestrictionsValidator.findPluginRestrictions (pluginName : String) : List PluginRestriction :=
  rv.config.pluginRestrictions.filter (fun r => rv.globMatch r.pluginPattern pluginName)

def RestrictionsValidator.validatePluginMutations (pluginName : String)
    (req : ValidateContainerAdjustmentRequest) : Option String :=
  let capabilities := rv.extractMutationCapabilities req.adjust
  (firstError (rv.checkMutationRestriction · capabilities) rv.config.globalRestrictions).or
    (firstError (fun pluginRestriction =>
      firstError (rv.checkMutationRestriction · capabilities) pluginRestriction.mutationRestrictions)
      (rv.findPluginRestrictions pluginName))

def RestrictionsValidator.validatePodAccess (pluginName : String) (pod : PodSandbox) :
    Option String :=
  (firstError (rv.checkPodRestriction · pod) rv.config.globalPodRestrictions).or
    (firstError (fun pluginRestriction =>
      firstError (rv.checkPodRestriction · pod) pluginRestriction.podRestrictions)
      (rv.findPluginRestrictions pluginName))

def RestrictionsValidator.validateContainerAdjustment (req : ValidateContainerAdjustmentRequest) :
    Option String :=
  match req.pod with
  | none => some "pod information is required for restrictions validation"
  | some pod =>
      firstError (fun pluginName =>
        ((rv.validatePluginMutations pluginName req).map
          (fun err => s!"plugin {pluginName} restricted: {err}")).or
        ((rv.validatePodAccess pluginName pod).map
          (fun err => s!"plugin {pluginName} denied pod access: {err}")))
        req.pluginMap

/-- What the restriction checker demands of one mutation restriction: an allowlist lists
every capability in use, a denylist none of them; any other action demands nothing. -/
def MutationRestriction.Admits (r : MutationRestriction) (caps : List MutationCapability) : Prop :=
  (r.action = restrictionAllow → ∀ c ∈ caps, c ∈ r.capabilities) ∧
  (r.action = restrictionDeny → ∀ c ∈ caps, c ∉ r.capabilities)

/-- What the restriction checker demands of one pod restriction. -/
def PodRestriction.Admits (r : PodRestriction) (pod : PodSandbox) : Prop :=
  (r.action = restrictionAllow → rv.podMatches r.selector pod = true) ∧
  (r.action = restrictionDeny → rv.podMatches r.selector pod = false)

theorem allow_ne_deny : restrictionAllow ≠ restrictionDeny := by decide

theorem checkPodRestriction_other_action {r : PodRestriction}
    (ha : r.action ≠ restrictionAllow) (hd : r.action ≠ restrictionDeny)
    (pod : PodSandbox) : rv.checkPodRestriction r pod = none := by
  simp [RestrictionsValidator.checkPodRestriction, ha, hd]

theorem checkMutationRestriction_eq_none (r : MutationRestriction) (caps : List MutationCapability) :
    rv.checkMutationRestriction r caps = none ↔ r.Admits caps := by
  unfold RestrictionsValidator.checkMutationRestriction MutationRestriction.Admits
  by_cases ha : r.action = restrictionAllow
  · simp [ha, allow_ne_deny]
  · by_cases hd : r.action = restrictionDeny <;> simp [ha, hd, allow_ne_deny.symm]

theorem checkPodRestriction_eq_none (r : PodRestriction) (pod : PodSandbox) :
    rv.checkPodRestriction r pod = none ↔ r.Admits rv pod := by
  unfold RestrictionsValidator.checkPodRestriction PodRestriction.Admits
  by_cases ha : r.action = restrictionAllow
  · simp [ha, allow_ne_deny]
  · by_cases hd : r.action = restrictionDeny <;> simp [ha, hd, allow_ne_deny.symm]

theorem entries_all_lookup_iff (sel labels : StringMap) :
    sel.entries.all (fun e => labels.lookup e.1 = some e.2) = true ↔
      ∀ k ∈ sel, labels.lookup k = sel.lookup k := by
  rw [List.all_eq_true]
  constructor
  · intro h k hk
    obtain ⟨v, hv⟩ := Option.isSome_iff_exists.mp (AList.lookup_isSome.mpr hk)
    rw [hv]
    exact of_decide_eq_true (h ⟨k, v⟩ (AList.mem_lookup_iff.mp hv))
  · intro h e he
    have hl : sel.lookup e.1 = some e.2 := AList.mem_lookup_iff.mpr he
    exact decide_eq_true ((h e.1 (AList.lookup_isSome.mp (by simp [hl]))).trans hl)

theorem ite_false_eq_true {c : Prop} [Decidable c] {b : Bool} :
    ((if c then false else b) = true) ↔ ¬c ∧ b = true := by
  by_cases h : c <;> simp [h]

theorem not_guard_iff {α : Type} (l : List α) (b : Bool) :
    ¬(decide (l.length > 0) && !b) = true ↔ l = [] ∨ b = true := by
  cases l <;> cases b <;> simp

theorem podMatches_eq_true (sel : PodSelector) (pod : PodSandbox) :
    rv.podMatches sel pod = true ↔
      (sel.namespaces = [] ∨ ∃ p ∈ sel.namespaces, rv.globMatch p pod.«namespace» = true) ∧
      (∀ k ∈ sel.labels, pod.labels.lookup k = sel.labels.lookup k) ∧
      (sel.names = [] ∨ ∃ p ∈ sel.names, rv.globMatch p pod.name = true) := by
  rw [← entries_all_lookup_iff, ← List.any_eq_true, ← List.any_eq_true]
  unfold RestrictionsValidator.podMatches
  simp only [ite_false_eq_true, not_guard_iff, and_true]
  exact and_congr_right' (and_congr_left' (or_iff_right_of_imp fun h => by simp [h]))

/-- A pod matches a selector exactly when each non-empty field of the selector matches it,
whichever order the label map is visited in. -/
theorem podMatches_iff_selector (sel : PodSelector) (pod : PodSandbox) :
    (rv.podMatches sel pod = true ↔
      (sel.namespaces = [] ∨ ∃ p ∈ sel.namespaces, rv.globMatch p pod.«namespace» = true) ∧
      (∀ k ∈ sel.labels, pod.labels.lookup k = sel.labels.lookup k) ∧
      (sel.names = [] ∨ ∃ p ∈ sel.names, rv.globMatch p pod.name = true)) ∧
    ∀ labels : StringMap, labels.entries.Perm sel.labels.entries →
      rv.podMatches { sel with labels } pod = rv.podMatches sel pod := by
  refine ⟨podMatches_eq_true rv sel pod, fun labels hp => Bool.eq_iff_iff.mpr ?_⟩
  simp only [podMatches_eq_true, AList.mem_of_perm hp, AList.perm_lookup hp]

theorem validatePluginMutations_eq_none (pluginName : String)
    (req : ValidateContainerAdjustmentRequest) :
    rv.validatePluginMutations pluginName req = none ↔
      ∀ r ∈ rv.config.globalRestrictions ++
          (rv.findPluginRestrictions pluginName).flatMap (·.mutationRestrictions),
        r.Admits (rv.extractMutationCapabilities req.adjust) := by
  simp only [RestrictionsValidator.validatePluginMutations, Option.or_eq_none, firstError_eq_none,
    checkMutationRestriction_eq_none, List.forall_mem_append, List.forall_mem_flatMap]

theorem validatePodAccess_eq_none (pluginName : String) (pod : PodSandbox) :
    rv.validatePodAccess pluginName pod = none ↔
      ∀ r ∈ rv.config.globalPodRestrictions ++
          (rv.findPluginRestrictions pluginName).flatMap (·.podRestrictions),
        r.Admits rv pod := by
  simp only [RestrictionsValidator.validatePodAccess, Option.or_eq_none, firstError_eq_none,
    checkPodRestriction_eq_none, List.forall_mem_append, List.forall_mem_flatMap]

theorem validateContainerAdjustment_eq_none (req : ValidateContainerAdjustmentRequest) :
    rv.validateContainerAdjustment req = none ↔
      ∃ pod, req.pod = some pod ∧ ∀ n ∈ req.pluginMap,
        rv.validatePluginMutations n req = none ∧ rv.validatePodAccess n pod = none := by
  unfold RestrictionsValidator.validateContainerAdjustment
  cases req.pod <;> simp [Option.or_eq_none]

example : (newRestrictionsValidator
      { defaultAction := restrictionAllow,
        globalRestrictions := [⟨restrictionDeny, [mutationNamespaces]⟩] }).validateContainerAdjustment
      { pod := some { name := "test-pod", «namespace» := "test" },
        adjust := some { linux := some { namespaces := [⟨⟩] } }, pluginMap := ["test-plugin"] } =
    some "plugin test-plugin restricted: mutation capability namespaces is denied" := by decide

theorem validateContainerAdjustment_perm (req : ValidateContainerAdjustmentRequest)
    {order : List String} (hp : order.Perm req.pluginMap) :
    (rv.validateContainerAdjustment { req with pluginMap := order }).isNone =
      (rv.validateContainerAdjustment req).isNone := by
  rw [isNone_eq_isNone_iff, validateContainerAdjustment_eq_none,
    validateContainerAdjustment_eq_none]
  exact exists_congr fun _ => and_congr_right fun _ => forall_congr' fun _ => imp_congr hp.mem_iff Iff.rfl

/-- The restrictions layer passes a request exactly when the request has a pod and, for
every plugin of it, every restriction that applies to the plugin admits the adjustment's
capabilities and the pod; the plugin map may be visited in any order. -/
theorem restrictions_validate_eq_none_iff (rc : RestrictionsConfig)
    (req : ValidateContainerAdjustmentRequest) :
    ((newRestrictionsValidator rc).validateContainerAdjustment req = none ↔
      ∃ pod, req.pod = some pod ∧ ∀ n ∈ req.pluginMap,
        (∀ r ∈ rc.globalRestrictions ++
            (rc.pluginRestrictions.filter fun pr => Glob.globMatch pr.pluginPattern n).flatMap
              (·.mutationRestrictions),
          r.Admits ((newRestrictionsValidator rc).extractMutationCapabilities req.adjust)) ∧
        (∀ r ∈ rc.globalPodRestrictions ++
            (rc.pluginRestrictions.filter fun pr => Glob.globMatch pr.pluginPattern n).flatMap
              (·.podRestrictions),
          r.Admits (newRestrictionsValidator rc) pod)) ∧
    ∀ order : List String, order.Perm req.pluginMap →
      ((newRestrictionsValidator rc).validateContainerAdjustment { req with pluginMap := order }).isNone =
        ((newRestrictionsValidator rc).validateContainerAdjustment req).isNone := by
  refine ⟨?_, fun order hp => validateContainerAdjustment_perm _ req hp⟩
  simp only [validateContainerAdjustment_eq_none, validatePluginMutations_eq_none,
    validatePodAccess_eq_none]
  rfl

end NriPolicy.Restrictions
