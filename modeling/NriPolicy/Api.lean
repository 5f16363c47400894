import Mathlib.Data.List.AList

namespace NriPolicy.Api

/-- A Go `map[string]string`: an association list with distinct keys, whose entry order
stands for one order in which `range` visits the map. A nil map is the empty one. -/
abbrev StringMap := AList (fun _ : String => String)

structure LinuxPodSandbox where
  cgroupsPath : String
deriving DecidableEq

/-- The fields of a pod that the validators and the cgroup helpers read. -/
structure PodSandbox where
  name : String
  «namespace» : String
  labels : StringMap := ∅
  annotations : StringMap := ∅
  linux : Option LinuxPodSandbox := none
deriving DecidableEq

structure LinuxContainer where
  cgroupsPath : String
deriving DecidableEq

structure Container where
  linux : Option LinuxContainer := none
deriving DecidableEq

/-- Entries of the adjustment that the capability extractor only counts or tests for nil;
their contents are read by no modelled function. -/
structure Mount
deriving DecidableEq

structure KeyValue
deriving DecidableEq

structure Hooks
deriving DecidableEq

structure POSIXRlimit
deriving DecidableEq

structure LinuxDevice
deriving DecidableEq

structure LinuxNamespace
deriving DecidableEq

structure LinuxMemory
deriving DecidableEq

structure LinuxCPU
deriving DecidableEq

structure LinuxSeccomp
deriving DecidableEq

structure OptionalString where
  value : String
deriving DecidableEq

structure LinuxResources where
  memory : Option LinuxMemory := none
  cpu : Option LinuxCPU := none
  blockioClass : Option OptionalString := none
  rdtClass : Option OptionalString := none
  unified : StringMap := ∅
deriving DecidableEq

structure LinuxContainerAdjustment where
  devices : List LinuxDevice := []
  resources : Option LinuxResources := none
  seccompPolicy : Option LinuxSeccomp := none
  namespaces : List LinuxNamespace := []
deriving DecidableEq

/-- The adjustment a validating plugin is asked about; Go's zero value is `{}`. -/
structure ContainerAdjustment where
  annotations : StringMap := ∅
  mounts : List Mount := []
  args : List String := []
  env : List KeyValue := []
  hooks : Option Hooks := none
  rlimits : List POSIXRlimit := []
  linux : Option LinuxContainerAdjustment := none
deriving DecidableEq

/-- A validation request. `pluginMap` lists the keys of `req.GetPluginMap()` in the order
`range` visits them; `GetPluginMap` is outside the repository, so the map is taken as given. -/
structure ValidateContainerAdjustmentRequest where
  pod : Option PodSandbox := none
  adjust : Option ContainerAdjustment := none
  pluginMap : List String := []
deriving DecidableEq

end NriPolicy.Api
