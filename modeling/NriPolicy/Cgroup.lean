import NriPolicy.Filepath
import NriPolicy.Api

namespace NriPolicy.Cgroup

open Go Api

def isSystemdPath (path : String) : Bool := contains path ".slice" || contains path ":"

def convertSystemdPath (cgroupRoot systemdPath : String) : String :=
  match split systemdPath ':' with
  | slicePath :: finalParts@(_ :: _) => Filepath.join [cgroupRoot, slicePath, join finalParts ":"]
  | _ => Filepath.join [cgroupRoot, systemdPath]

def resolveCgroupPath (cgroupRoot cgroupPath : String) : String :=
  if isSystemdPath cgroupPath then convertSystemdPath cgroupRoot cgroupPath
  else Filepath.join [cgroupRoot, cgroupPath]

/-- `findCgroupV2Mount` over the text of `/proc/mounts` (`none` when it cannot be read): the
mount point of the first line whose third field is `cgroup2`. -/
def findCgroupV2Mount : Option String → String
  | none => ""
  | some data =>
      ((split data '\n').findSome? fun line =>
        match fields line with
        | _ :: mountPoint :: fsType :: _ => if fsType = "cgroup2" then some mountPoint else none
        | _ => none).getD ""

/-- What the cgroup helpers read from the host: the text of `/proc/mounts` (`none` when it
cannot be read) and the paths on which `os.Stat` succeeds. -/
structure Host where
  procMounts : Option String
  statOk : String → Bool

def isCgroupV2Mount (host : Host) (path : String) : Bool :=
  host.statOk (Filepath.join [path, "cgroup.controllers"])

def getCgroupV2Root (host : Host) : String :=
  let commonPaths := ["/sys/fs/cgroup", "/cgroup2"]
  let mountPoint := findCgroupV2Mount host.procMounts
  if mountPoint ≠ "" then mountPoint
  else (commonPaths.find? (isCgroupV2Mount host)).getD "/sys/fs/cgroup"

def getCGroupsV2Path (host : Host) (cgroupPath : String) : String :=
  if Filepath.isAbs cgroupPath then cgroupPath
  else
    let cgroupV2Root := getCgroupV2Root host
    let cgroupV2Root := if cgroupV2Root = "" then "/sys/fs/cgroup" else cgroupV2Root
    resolveCgroupPath cgroupV2Root cgroupPath

def getContainerCgroupsV2AbsPath (host : Host) (container : Option Container) : String :=
  match container.bind (·.linux) with
  | some linux => if linux.cgroupsPath = "" then "" else getCGroupsV2Path host linux.cgroupsPath
  | none => ""

def getPodCgroupsV2AbsPath (host : Host) (pod : Option PodSandbox) : String :=
  match pod.bind (·.linux) with
  | some linux => if linux.cgroupsPath = "" then "" else getCGroupsV2Path host linux.cgroupsPath
  | none => ""

def elements (cgroupPath : String) : List (List Char) :=
  cgroupPath.data.splitOnP fun c => c == '/' || c == ':'

/-- The path that resolveCgroupPath joins onto the root: the cgroups path with its first colon
read as a slash, as convertSystemdPath splits it. -/
def relativePath (cgroupPath : String) : String :=
  match split cgroupPath ':' with
  | slicePath :: finalParts@(_ :: _) => join [slicePath, join finalParts ":"] "/"
  | _ => cgroupPath

theorem resolveCgroupPath_eq_join {cgroupRoot : String} (cgroupPath : String)
    (hr : cgroupRoot ≠ "") :
    resolveCgroupPath cgroupRoot cgroupPath = Filepath.join [cgroupRoot, relativePath cgroupPath] := by
  unfold resolveCgroupPath
  split_ifs with hs
  · unfold convertSystemdPath relativePath
    split
    · simp [Filepath.join, hr, join, List.intercalate]
    · rfl
  · have hc : ':' ∉ cgroupPath.data := fun h =>
      hs (by simp [isSystemdPath, show ":" = String.singleton ':' from rfl, contains_singleton_iff.mpr h])
    simp only [relativePath, split_of_not_mem hc]

theorem join_split (s : String) (sep : Char) : join (split s sep) (String.singleton sep) = s :=
  String.ext (by simpa [join, split, Function.comp_def] using List.intercalate_splitOn s.data sep)

theorem split_append_colon {a : String} (ha : ':' ∉ a.data) (b : String) :
    split (a ++ ":" ++ b) ':' = a :: split b ':' := by
  have hdata : (a ++ ":" ++ b).data = a.data ++ ':' :: b.data := by simp
  calc split (a ++ ":" ++ b) ':' = split a ':' ++ split b ':' := by
        simp only [split, hdata, splitOn_append_sep, List.map_append]
    _ = a :: split b ':' := by rw [split_of_not_mem ha]; rfl

/-- Whichever driver the path's form selects, resolveCgroupPath joins the root and the path
with its first colon read as a slash: the .slice test never changes the result. -/
theorem resolveCgroupPath_first_colon {cgroupRoot : String} (hr : cgroupRoot ≠ "") {a : String}
    (ha : ':' ∉ a.data) (b : String) :
    resolveCgroupPath cgroupRoot a = Filepath.join [cgroupRoot, a] ∧
      resolveCgroupPath cgroupRoot (a ++ ":" ++ b) = Filepath.join [cgroupRoot, a ++ "/" ++ b] := by
  refine ⟨?_, ?_⟩
  · rw [resolveCgroupPath_eq_join a hr, relativePath, split_of_not_mem ha]
  · obtain ⟨x, xs, hx⟩ := List.exists_cons_of_ne_nil (show split b ':' ≠ [] by simpa [split] using List.splitOnP_ne_nil _ b.data)
    rw [resolveCgroupPath_eq_join _ hr, relativePath, split_append_colon ha, hx]
    dsimp only
    rw [← hx, show ":" = String.singleton ':' from rfl, join_split]
    exact congrArg (fun p => Filepath.join [cgroupRoot, p]) (String.ext (by simp [join, List.intercalate]))

theorem resolveCgroupPath_first_colon_slice :
    "/sys/fs/cgroup" ≠ "" ∧ ':' ∉ "kubepods.slice/kubepods-burstable.slice".data ∧
      (resolveCgroupPath "/sys/fs/cgroup" "kubepods.slice/kubepods-burstable.slice" =
          Filepath.join ["/sys/fs/cgroup", "kubepods.slice/kubepods-burstable.slice"] ∧
        resolveCgroupPath "/sys/fs/cgroup" ("kubepods.slice/kubepods-burstable.slice" ++ ":" ++
            "cri-containerd:abc") =
          Filepath.join ["/sys/fs/cgroup", "kubepods.slice/kubepods-burstable.slice" ++ "/" ++
            "cri-containerd:abc"]) :=
  ⟨by decide, by decide, resolveCgroupPath_first_colon (by decide) (by decide) _⟩

theorem splitOnP_or (p q : Char → Bool) (s : List Char) :
    s.splitOnP (fun c => p c || q c) = (s.splitOnP p).flatMap (List.splitOnP q) := by
  induction s with
  | nil => simp
  | cons x xs ih =>
      obtain ⟨h, t, ht⟩ := List.exists_cons_of_ne_nil (List.splitOnP_ne_nil p xs)
      obtain ⟨h', t', ht'⟩ := List.exists_cons_of_ne_nil (List.splitOnP_ne_nil q h)
      cases hp : p x <;> cases hq : q x <;> simp [hp, hq, ih, ht, ht']

theorem splitOnP_append_sep {p : Char → Bool} {c d : Char} (hc : p c = true) (hd : p d = true)
    (a r : List Char) : (a ++ c :: r).splitOnP p = (a ++ d :: r).splitOnP p :=
  (splitOnP_go_append hc a r []).trans (splitOnP_go_append hd a r []).symm

theorem elements_relativePath (cgroupPath : String) :
    elements (relativePath cgroupPath) = elements cgroupPath := by
  unfold relativePath
  split
  · rename_i slicePath finalParts _ hsplit
    rw [elements, elements, split_eq_cons (List.cons_ne_nil _ _) hsplit]
    simp only [join, List.map_cons, List.map_nil, List.intercalate, List.intersperse_cons₂,
      List.intersperse_single, List.flatten_cons, List.flatten_nil, List.append_nil,
      List.singleton_append]
    apply splitOnP_append_sep <;> rfl
  · rfl

theorem dotdot_mem_elements {s : String} (h : ['.', '.'] ∈ s.data.splitOn '/') :
    ['.', '.'] ∈ elements s := by
  rw [elements, splitOnP_or, List.mem_flatMap]
  exact ⟨_, h, by decide⟩

theorem relativePath_no_dotdot {cgroupPath : String} (hdots : ['.', '.'] ∉ elements cgroupPath) :
    ∀ e ∈ (relativePath cgroupPath).data.splitOn '/', e ≠ ['.', '.'] := fun _ he hdd =>
  hdots (elements_relativePath cgroupPath ▸ dotdot_mem_elements (hdd ▸ he))

theorem cgroupRoot_ne_empty {cgroupRoot : String} (habs : Filepath.isAbs cgroupRoot = true) :
    cgroupRoot ≠ "" := fun h => by simp [h, Filepath.isAbs, hasPrefix] at habs

theorem getCGroupsV2Path_within (host : Host) {cgroupPath : String}
    (habs : Filepath.isAbs (getCgroupV2Root host) = true)
    (hclean : Filepath.clean (getCgroupV2Root host) = getCgroupV2Root host)
    (hrel : Filepath.isAbs cgroupPath = false)
    (hclimb : Filepath.NeverClimbs ((relativePath cgroupPath).data.splitOn '/')) :
    Filepath.isWithin (getCgroupV2Root host) (getCGroupsV2Path host cgroupPath) = true := by
  have hr := cgroupRoot_ne_empty habs
  simp only [getCGroupsV2Path, hrel, Bool.false_eq_true, if_false, hr]
  rw [resolveCgroupPath_eq_join cgroupPath hr]
  exact Filepath.join_within habs hclean hclimb

theorem cgroupsV2AbsPath_of_within (host : Host) {cgroupsPath : String} (hne : cgroupsPath ≠ "")
    (h : Filepath.isWithin (getCgroupV2Root host) (getCGroupsV2Path host cgroupsPath) = true) :
    (∀ container : Container, container.linux = some ⟨cgroupsPath⟩ → Filepath.isWithin
      (getCgroupV2Root host) (getContainerCgroupsV2AbsPath host (some container)) = true) ∧
    (∀ pod : PodSandbox, pod.linux = some ⟨cgroupsPath⟩ → Filepath.isWithin
      (getCgroupV2Root host) (getPodCgroupsV2AbsPath host (some pod)) = true) := by
  constructor <;> intro x hx <;>
    simp [getContainerCgroupsV2AbsPath, getPodCgroupsV2AbsPath, hx, hne, h]

/-- On a host whose cgroup v2 root is absolute and clean, a container or a pod whose cgroups
path is relative and has no .. element is given a directory at the root or beneath it. -/
theorem cgroupsV2AbsPath_within (host : Host)
    (habs : Filepath.isAbs (getCgroupV2Root host) = true)
    (hclean : Filepath.clean (getCgroupV2Root host) = getCgroupV2Root host)
    {cgroupsPath : String} (hne : cgroupsPath ≠ "") (hrel : Filepath.isAbs cgroupsPath = false)
    (hdots : ['.', '.'] ∉ elements cgroupsPath) :
    (∀ container : Container, container.linux = some ⟨cgroupsPath⟩ → Filepath.isWithin
      (getCgroupV2Root host) (getContainerCgroupsV2AbsPath host (some container)) = true) ∧
    (∀ pod : PodSandbox, pod.linux = some ⟨cgroupsPath⟩ → Filepath.isWithin
      (getCgroupV2Root host) (getPodCgroupsV2AbsPath host (some pod)) = true) :=
  cgroupsV2AbsPath_of_within host hne (getCGroupsV2Path_within host habs hclean hrel
    (Filepath.neverClimbs_of_no_dotdot (relativePath_no_dotdot hdots)))

theorem cgroupsV2AbsPath_within_kubepods :
    Filepath.isAbs (getCgroupV2Root ⟨some "cgroup2 /sys/fs/cgroup cgroup2 rw 0 0", fun _ => false⟩)
        = true ∧
      Filepath.clean (getCgroupV2Root ⟨some "cgroup2 /sys/fs/cgroup cgroup2 rw 0 0", fun _ => false⟩)
        = getCgroupV2Root ⟨some "cgroup2 /sys/fs/cgroup cgroup2 rw 0 0", fun _ => false⟩ ∧
      "kubepods/burstable/pod123" ≠ "" ∧ Filepath.isAbs "kubepods/burstable/pod123" = false ∧
      ['.', '.'] ∉ elements "kubepods/burstable/pod123" ∧
      Filepath.isWithin (getCgroupV2Root ⟨some "cgroup2 /sys/fs/cgroup cgroup2 rw 0 0", fun _ => false⟩)
        (getContainerCgroupsV2AbsPath ⟨some "cgroup2 /sys/fs/cgroup cgroup2 rw 0 0", fun _ => false⟩
          (some { linux := some ⟨"kubepods/burstable/pod123"⟩ })) = true :=
  ⟨by decide, by decide, by decide, by decide, by decide,
    (cgroupsV2AbsPath_within ⟨some "cgroup2 /sys/fs/cgroup cgroup2 rw 0 0", fun _ => false⟩
      (by decide) (by decide) (by decide) (by decide) (by decide)).1 _ rfl⟩

/-- Against its comment, getCgroupV2Root never returns the empty string: a mount point read
from /proc/mounts is used only when it is not empty, and otherwise a common path or the
default is. So the fallback of getCGroupsV2Path for an empty root never applies. -/
theorem getCgroupV2Root_ne_empty (host : Host) :
    getCgroupV2Root host ≠ "" ∧
      ∀ cgroupPath, getCGroupsV2Path host cgroupPath = if Filepath.isAbs cgroupPath then cgroupPath
        else resolveCgroupPath (getCgroupV2Root host) cgroupPath := by
  have hne : getCgroupV2Root host ≠ "" := by
    unfold getCgroupV2Root
    dsimp only
    split_ifs with h
    · exact h
    · cases hf : ["/sys/fs/cgroup", "/cgroup2"].find? (isCgroupV2Mount host) with
      | none => decide
      | some p =>
          rcases List.mem_pair.mp (List.mem_of_find?_eq_some hf) with rfl | rfl <;> decide
  exact ⟨hne, fun cgroupPath => by simp only [getCGroupsV2Path, hne, if_false]⟩

theorem resolveCgroupPath_clean {cgroupRoot : String} (hr : cgroupRoot ≠ "") (cgroupPath : String) :
    Filepath.clean (resolveCgroupPath cgroupRoot cgroupPath) = resolveCgroupPath cgroupRoot cgroupPath := by
  rw [resolveCgroupPath_eq_join cgroupPath hr, Filepath.clean_join_cons hr]

/-- A relative cgroups path resolves to a path that filepath.Clean leaves as it is, however
the host's mount table spells the cgroup v2 root. -/
theorem getCGroupsV2Path_clean (host : Host) {cgroupPath : String}
    (hrel : Filepath.isAbs cgroupPath = false) :
    Filepath.clean (getCGroupsV2Path host cgroupPath) = getCGroupsV2Path host cgroupPath := by
  simp only [getCGroupsV2Path, hrel, Bool.false_eq_true, if_false]
  refine resolveCgroupPath_clean ?_ cgroupPath
  split_ifs with h
  · decide
  · exact h

theorem getCGroupsV2Path_clean_untidy_mount :
    Filepath.isAbs "kubepods//burstable/./pod123/" = false ∧
      Filepath.clean (getCGroupsV2Path ⟨some "cgroup2 /sys/fs//cgroup/ cgroup2 rw 0 0", fun _ => false⟩
        "kubepods//burstable/./pod123/") =
      getCGroupsV2Path ⟨some "cgroup2 /sys/fs//cgroup/ cgroup2 rw 0 0", fun _ => false⟩
        "kubepods//burstable/./pod123/" :=
  ⟨by decide, getCGroupsV2Path_clean _ (by decide)⟩

structure MountEntry where
  device : String
  mountPoint : String
  fsType : String
  options : String

def MountEntry.line (e : MountEntry) : String :=
  join [e.device, e.mountPoint, e.fsType, e.options, "0", "0"] " "

def mountsText (entries : List MountEntry) : String :=
  ⟨(entries.map fun e => e.line.data ++ ['\n']).flatten⟩

/-- No field is empty, and the kernel escapes white space inside a field. -/
def MountEntry.WellFormed (e : MountEntry) : Prop :=
  ∀ field ∈ [e.device, e.mountPoint, e.fsType, e.options],
    field ≠ "" ∧ ∀ c ∈ field.data, isSpace c = false

instance (e : MountEntry) : Decidable e.WellFormed :=
  inferInstanceAs (Decidable (∀ field ∈ [e.device, e.mountPoint, e.fsType, e.options],
    field ≠ "" ∧ ∀ c ∈ field.data, isSpace c = false))

theorem MountEntry.WellFormed.words {e : MountEntry} (h : e.WellFormed) :
    ∀ w ∈ [e.device, e.mountPoint, e.fsType, e.options, "0", "0"],
      w ≠ "" ∧ ∀ c ∈ w.data, isSpace c = false := fun w hw => by
  rcases List.mem_append.mp (show w ∈ [e.device, e.mountPoint, e.fsType, e.options] ++ ["0", "0"]
    from hw) with hw | hw
  · exact h w hw
  · rcases List.mem_pair.mp hw with rfl | rfl <;> decide

theorem fields_line {e : MountEntry} (h : e.WellFormed) :
    fields e.line = [e.device, e.mountPoint, e.fsType, e.options, "0", "0"] :=
  fields_join (List.cons_ne_nil _ _) h.words

theorem newline_not_mem_line {e : MountEntry} (h : e.WellFormed) : '\n' ∉ e.line.data := fun hn => by
  rcases mem_intercalate_singleton hn with hsep | ⟨part, hpart, hc⟩
  · cases hsep
  · obtain ⟨w, hw, rfl⟩ := List.mem_map.mp hpart
    exact absurd ((h.words w hw).2 _ hc) (by decide)

theorem split_mountsText {entries : List MountEntry} (h : ∀ e ∈ entries, e.WellFormed) :
    split (mountsText entries) '\n' = entries.map MountEntry.line ++ [""] := by
  induction entries with
  | nil => rfl
  | cons e es ih =>
      rw [List.forall_mem_cons] at h
      have hline : e.line.data.splitOn '\n' = [e.line.data] :=
        List.splitOnP_eq_single _ _ fun c hc he => newline_not_mem_line h.1 (eq_of_beq he ▸ hc)
      have hdata : (mountsText (e :: es)).data = e.line.data ++ '\n' :: (mountsText es).data := by
        simp [mountsText]
      simp only [split, hdata] at ih ⊢
      rw [splitOn_append_sep, hline, List.map_append, ih h.2]
      rfl

theorem findSome?_line {F : String → Option String} {entries : List MountEntry}
    (hF : ∀ e ∈ entries, F e.line = if e.fsType = "cgroup2" then some e.mountPoint else none) :
    entries.findSome? (F ∘ MountEntry.line) =
      (entries.find? (·.fsType = "cgroup2")).map (·.mountPoint) := by
  induction entries with
  | nil => rfl
  | cons e es ih =>
      rw [List.forall_mem_cons] at hF
      by_cases hf : e.fsType = "cgroup2" <;>
        simp [List.findSome?_cons, List.find?_cons, hF.1, hf, ih hF.2]

/-- findCgroupV2Mount reads back the mount table the kernel writes: the mount point of the
first cgroup2 entry, or the empty string when there is none. getCgroupV2Root then returns
that mount point without probing the common paths. -/
theorem findCgroupV2Mount_mountsText {entries : List MountEntry}
    (h : ∀ e ∈ entries, e.WellFormed) :
    findCgroupV2Mount (some (mountsText entries)) =
        ((entries.find? (·.fsType = "cgroup2")).map (·.mountPoint)).getD "" ∧
      ∀ (statOk : String → Bool) (e : MountEntry), entries.find? (·.fsType = "cgroup2") = some e →
        getCgroupV2Root ⟨some (mountsText entries), statOk⟩ = e.mountPoint := by
  have hfind : findCgroupV2Mount (some (mountsText entries)) =
      ((entries.find? (·.fsType = "cgroup2")).map (·.mountPoint)).getD "" := by
    rw [findCgroupV2Mount, split_mountsText h, List.findSome?_append, List.findSome?_map,
      findSome?_line]
    · cases entries.find? (·.fsType = "cgroup2") <;> rfl
    · intro e he
      simp only [Function.comp, fields_line (h e he)]
  refine ⟨hfind, fun statOk e he => ?_⟩
  have hne : e.mountPoint ≠ "" := (h e (List.mem_of_find?_eq_some he) e.mountPoint (by simp)).1
  simp [getCgroupV2Root, hfind, he, hne]

theorem findCgroupV2Mount_mountsText_sysfs :
    (∀ e ∈ [{ device := "sysfs", mountPoint := "/sys", fsType := "sysfs", options := "rw,nosuid" },
        { device := "cgroup2", mountPoint := "/sys/fs/cgroup", fsType := "cgroup2",
          options := "rw,nosuid,nodev" }], MountEntry.WellFormed e) ∧
      findCgroupV2Mount (some (mountsText
          [{ device := "sysfs", mountPoint := "/sys", fsType := "sysfs", options := "rw,nosuid" },
            { device := "cgroup2", mountPoint := "/sys/fs/cgroup", fsType := "cgroup2",
              options := "rw,nosuid,nodev" }])) = "/sys/fs/cgroup" :=
  have h : ∀ e ∈ [{ device := "sysfs", mountPoint := "/sys", fsType := "sysfs", options := "rw,nosuid" },
      { device := "cgroup2", mountPoint := "/sys/fs/cgroup", fsType := "cgroup2",
        options := "rw,nosuid,nodev" }], MountEntry.WellFormed e := by decide
  ⟨h, (findCgroupV2Mount_mountsText h).1⟩

end NriPolicy.Cgroup
