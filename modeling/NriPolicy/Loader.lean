import NriPolicy.Config
import NriPolicy.Filepath

namespace NriPolicy.Loader

open Config Restrictions

/-- One turn of the merge loop of `LoadConfigFromDir`: each field the file sets replaces the
accumulated one; a false `enableDefaultValidator` leaves it as it was. -/
def mergeStep (mergedConfig config : ValidationConfig) : ValidationConfig :=
  { policy := if config.policy.isSome then config.policy else mergedConfig.policy
    restrictions :=
      if config.restrictions.isSome then config.restrictions else mergedConfig.restrictions
    enableDefaultValidator := if config.enableDefaultValidator then config.enableDefaultValidator
      else mergedConfig.enableDefaultValidator
    defaultValidatorConfig := if config.defaultValidatorConfig.isSome then
      config.defaultValidatorConfig else mergedConfig.defaultValidatorConfig }

/-- `LoadConfigFromDir`, with the file system as parameters: `glob` lists the files that a
pattern matches, and `loadConfigFromFile` reads and parses one of them. -/
def loadConfigFromDir (glob : String → Except String (List String))
    (loadConfigFromFile : String → Except String ValidationConfig) (dir : String) :
    Except String ValidationConfig := do
  let listFailed := fun err => s!"failed to list config files in {dir}: {err}"
  let yamlFiles ← (glob (Filepath.join [dir, "*.yaml"])).mapError listFailed
  let files ← (if yamlFiles.length = 0 then
    (glob (Filepath.join [dir, "*.yml"])).mapError listFailed else pure yamlFiles :
      Except String (List String))
  if files.length = 0 then throw s!"no config files found in {dir}"
  else
    files.foldlM (fun mergedConfig file => do
      let config ← (loadConfigFromFile file).mapError
        (fun err => s!"failed to load config from {file}: {err}")
      pure (mergeStep mergedConfig config)) {}

@[simp] theorem mergeStep_enableDefaultValidator (m c : ValidationConfig) :
    (mergeStep m c).enableDefaultValidator = (c.enableDefaultValidator || m.enableDefaultValidator) := by
  rcases c with ⟨_, _, _ | _, _⟩ <;> rfl

theorem loadConfigFromDir_of_listing {glob : String → Except String (List String)}
    {load : String → Except String ValidationConfig} {dir : String} {files : List String}
    (hlist : glob (Filepath.join [dir, "*.yaml"]) = .ok files ∨
      glob (Filepath.join [dir, "*.yaml"]) = .ok [] ∧ glob (Filepath.join [dir, "*.yml"]) = .ok files)
    (hne : files ≠ []) :
    loadConfigFromDir glob load dir = files.foldlM (fun mergedConfig file => do
      let config ← (load file).mapError (fun err => s!"failed to load config from {file}: {err}")
      pure (mergeStep mergedConfig config)) {} := by
  have hlen : files.length ≠ 0 := fun h => hne (List.length_eq_zero.mp h)
  rcases hlist with hy | ⟨hy, hyml⟩
  · simp only [loadConfigFromDir, hy, Go.mapError_ok, Go.ok_bind, hlen, if_false, pure_bind]
  · simp only [loadConfigFromDir, hy, hyml, Go.mapError_ok, Go.ok_bind, List.length_nil, if_true,
      hlen, if_false]

theorem foldlM_merge_eq_error {load : String → Except String ValidationConfig}
    {wrap : String → String → String} {pre : List String} {f e : String} (post : List String)
    (hpre : ∀ x ∈ pre, ∃ c, load x = .ok c) (hf : load f = .error e) (m : ValidationConfig) :
    (pre ++ f :: post).foldlM (fun mergedConfig file => do
      let config ← (load file).mapError (wrap file)
      pure (mergeStep mergedConfig config)) m = .error (wrap f e) := by
  induction pre generalizing m with
  | nil => simp [hf, Except.mapError, bind, Except.bind]
  | cons x xs ih =>
      obtain ⟨c, hc⟩ := hpre x (.head _)
      rw [List.cons_append, List.foldlM_cons]
      simp only [hc, Except.mapError, bind, Except.bind, pure, Except.pure]
      exact ih (fun y hy => hpre y (.tail _ hy)) _

/-- A file that fails to load fails the whole directory: once the listing succeeds, the
result is the error of the first file, in listing order, that does not load, and no merged
configuration is returned. The listing is that of the .yaml files, or of the .yml files when
there is no .yaml file. -/
theorem loadConfigFromDir_first_error {glob : String → Except String (List String)}
    {load : String → Except String ValidationConfig} {dir f err : String}
    {pre post : List String}
    (hlist : glob (Filepath.join [dir, "*.yaml"]) = .ok (pre ++ f :: post) ∨
      glob (Filepath.join [dir, "*.yaml"]) = .ok [] ∧
        glob (Filepath.join [dir, "*.yml"]) = .ok (pre ++ f :: post))
    (hpre : ∀ x ∈ pre, ∃ c, load x = .ok c) (hf : load f = .error err) :
    loadConfigFromDir glob load dir = .error s!"failed to load config from {f}: {err}" := by
  rw [loadConfigFromDir_of_listing hlist (by simp)]
  exact foldlM_merge_eq_error post hpre hf {}

theorem loadConfigFromDir_first_error_broken_file :
    ((fun _ => .ok ["10-base.yaml", "20-broken.yaml", "30-extra.yaml"] :
        String → Except String (List String)) (Filepath.join ["/etc/nri/conf.d", "*.yaml"]) =
          .ok (["10-base.yaml"] ++ "20-broken.yaml" :: ["30-extra.yaml"]) ∨
      (fun _ => .ok ["10-base.yaml", "20-broken.yaml", "30-extra.yaml"] :
        String → Except String (List String)) (Filepath.join ["/etc/nri/conf.d", "*.yaml"]) = .ok [] ∧
      (fun _ => .ok ["10-base.yaml", "20-broken.yaml", "30-extra.yaml"] :
        String → Except String (List String)) (Filepath.join ["/etc/nri/conf.d", "*.yml"]) =
          .ok (["10-base.yaml"] ++ "20-broken.yaml" :: ["30-extra.yaml"])) ∧
    (∀ x ∈ ["10-base.yaml"], ∃ c, (fun file => if file = "20-broken.yaml" then .error "unexpected EOF"
        else .ok {} : String → Except String ValidationConfig) x = .ok c) ∧
    (fun file => if file = "20-broken.yaml" then .error "unexpected EOF" else .ok {} :
        String → Except String ValidationConfig) "20-broken.yaml" = .error "unexpected EOF" ∧
    loadConfigFromDir (fun _ => .ok ["10-base.yaml", "20-broken.yaml", "30-extra.yaml"])
        (fun file => if file = "20-broken.yaml" then .error "unexpected EOF" else .ok {})
        "/etc/nri/conf.d" = .error "failed to load config from 20-broken.yaml: unexpected EOF" :=
  have hpre : ∀ x ∈ ["10-base.yaml"], ∃ c, (fun file => if file = "20-broken.yaml"
      then .error "unexpected EOF" else .ok {} : String → Except String ValidationConfig) x = .ok c :=
    fun x hx => ⟨{}, by rw [List.mem_singleton.mp hx]; rfl⟩
  ⟨.inl rfl, hpre, rfl, loadConfigFromDir_first_error (f := "20-broken.yaml") (.inl rfl) hpre rfl⟩

end NriPolicy.Loader
