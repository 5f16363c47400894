import NriPolicy.Go

namespace NriPolicy.Filepath

def isAbs (path : String) : Bool := Go.hasPrefix path "/"

/-- How `filepath.Clean` treats one element of the path: `out` holds the elements kept so
far, last first. Empty and `.` elements vanish, `..` removes the element before it, and a
`..` that cannot is dropped at the root and kept in a relative path. -/
def cleanStep (rooted : Bool) (out : List (List Char)) (elem : List Char) : List (List Char) :=
  if elem = [] ∨ elem = ['.'] then out
  else if elem = ['.', '.'] then
    match out with
    | e :: rest => if e ≠ ['.', '.'] then rest else if rooted then out else elem :: out
    | [] => if rooted then [] else [elem]
  else elem :: out

theorem cleanStep_skip {rooted : Bool} {out : List (List Char)} {elem : List Char}
    (h : elem = [] ∨ elem = ['.']) : cleanStep rooted out elem = out := by
  unfold cleanStep
  exact if_pos h

theorem cleanStep_name {rooted : Bool} {out : List (List Char)} {elem : List Char}
    (h0 : elem ≠ []) (h1 : elem ≠ ['.']) (h2 : elem ≠ ['.', '.']) :
    cleanStep rooted out elem = elem :: out := by
  unfold cleanStep
  rw [if_neg (by tauto), if_neg h2]

theorem cleanStep_dotdot (rooted : Bool) (out : List (List Char)) :
    cleanStep rooted out ['.', '.'] = match out with
      | e :: rest => if e ≠ ['.', '.'] then rest else if rooted then out else ['.', '.'] :: out
      | [] => if rooted then [] else [['.', '.']] := by
  unfold cleanStep
  rw [if_neg (by decide), if_pos rfl]

/-- `filepath.Clean` on Unix, element by element, as its documentation states it: the
shortest path name equal to `path` by purely lexical processing. -/
def clean (path : String) : String :=
  if path = "" then "."
  else
    let rooted := path.data.head? = some '/'
    let out := ((path.data.splitOn '/').foldl (cleanStep rooted) []).reverse
    if rooted then ⟨'/' :: ['/'].intercalate out⟩
    else if out = [] then "." else ⟨['/'].intercalate out⟩

/-- `filepath.Join` on Unix: the elements from the first non-empty one, joined by `/` and
cleaned; all empty gives the empty string. -/
def join (elem : List String) : String :=
  match elem.dropWhile (· = "") with
  | [] => ""
  | rest => clean (Go.join rest "/")

/-- `path` is `root` itself or lies beneath it. -/
def isWithin (root path : String) : Bool :=
  path == root || Go.hasPrefix path (if root = "/" then "/" else root ++ "/")

def isName (e : List Char) : Bool := e ≠ [] ∧ e ≠ ['.'] ∧ e ≠ ['.', '.']

/-- Read in order, the elements of a relative path never climb above where they start: every
prefix of them holds at most as many `..` elements as names. -/
def NeverClimbs (elems : List (List Char)) : Prop :=
  ∀ pre ∈ elems.inits, pre.count ['.', '.'] ≤ pre.countP isName

instance (elems : List (List Char)) : Decidable (NeverClimbs elems) :=
  inferInstanceAs (Decidable (∀ pre ∈ elems.inits, pre.count ['.', '.'] ≤ pre.countP isName))

theorem intercalate_append (sep : List Char) {xs ys : List (List Char)} (hx : xs ≠ [])
    (hy : ys ≠ []) : sep.intercalate (xs ++ ys) = sep.intercalate xs ++ sep ++ sep.intercalate ys := by
  induction xs with
  | nil => exact absurd rfl hx
  | cons x xs ih =>
      obtain ⟨y, ys, rfl⟩ := List.exists_cons_of_ne_nil hy
      cases xs with
      | nil => simp [List.intercalate]
      | cons x' xs => simp [List.intercalate] at ih ⊢; simp [ih]

theorem foldl_cleanStep_of_no_dotdot (rooted : Bool) {elems : List (List Char)}
    (h : ∀ e ∈ elems, e ≠ ['.', '.']) (out : List (List Char)) :
    elems.foldl (cleanStep rooted) out =
      (elems.filter (fun e => e ≠ [] ∧ e ≠ ['.'])).reverse ++ out := by
  induction elems generalizing out with
  | nil => rfl
  | cons e elems ih =>
      simp only [List.mem_cons, forall_eq_or_imp] at h
      rw [List.foldl_cons, ih h.2]
      by_cases he : e = [] ∨ e = ['.']
      · have : ¬(e ≠ [] ∧ e ≠ ['.']) := by tauto
        simp [cleanStep, he, this]
      · have : e ≠ [] ∧ e ≠ ['.'] := by tauto
        simp [cleanStep, he, h.1, this]

theorem mem_cleanStep {rooted : Bool} {out : List (List Char)} {elem e : List Char}
    (h : e ∈ cleanStep rooted out elem) : e ∈ out ∨ (e = elem ∧ elem ≠ []) := by
  unfold cleanStep at h
  by_cases h1 : elem = [] ∨ elem = ['.']
  · rw [if_pos h1] at h
    exact .inl h
  rw [if_neg h1] at h
  by_cases h2 : elem = ['.', '.']
  · rw [if_pos h2] at h
    subst h2
    rcases out with _ | ⟨d, rest⟩ <;> cases rooted <;> simp at h <;> (try split_ifs at h) <;>
      simp_all
  · rw [if_neg h2] at h
    rcases List.mem_cons.mp h with rfl | he
    · exact .inr ⟨rfl, fun h0 => h1 (.inl h0)⟩
    · exact .inl he

theorem foldl_cleanStep_ne_nil (rooted : Bool) (elems : List (List Char)) :
    ∀ e ∈ elems.foldl (cleanStep rooted) [], e ≠ [] := by
  suffices ∀ out : List (List Char), (∀ e ∈ out, e ≠ []) →
      ∀ e ∈ elems.foldl (cleanStep rooted) out, e ≠ [] from this [] (by simp)
  induction elems with
  | nil => exact fun _ h => h
  | cons e elems ih =>
      refine fun out h => ih _ fun d hd => ?_
      rcases mem_cleanStep hd with hd | ⟨rfl, hne⟩
      · exact h d hd
      · exact hne

theorem clean_of_rooted {s : String} {t : List Char} (h : s.data = '/' :: t) :
    clean s = ⟨'/' :: ['/'].intercalate ((s.data.splitOn '/').foldl (cleanStep true) []).reverse⟩ := by
  have hs : s ≠ "" := fun he => by simp [he] at h
  simp [clean, hs, h]

theorem intercalate_ne_nil (sep : List Char) {xs : List (List Char)} (hx : xs ≠ [])
    (h : ∀ x ∈ xs, x ≠ []) : sep.intercalate xs ≠ [] := by
  obtain ⟨x, xs, rfl⟩ := List.exists_cons_of_ne_nil hx
  have hx0 : x ≠ [] := h x (List.mem_cons_self x xs)
  cases xs <;> simp [List.intercalate, hx0]

theorem isWithin_of_elements {root path : String} {out extra : List (List Char)}
    (hnn : ∀ e ∈ out, e ≠ []) (hroot : root.data = '/' :: ['/'].intercalate out)
    (hpath : path.data = '/' :: ['/'].intercalate (out ++ extra)) : isWithin root path = true := by
  simp only [isWithin, Bool.or_eq_true, beq_iff_eq]
  by_cases hx : extra = []
  · exact .inl (String.ext (by rw [hpath, hroot, hx, List.append_nil]))
  refine .inr (Go.hasPrefix_iff.mpr ?_)
  rw [hpath]
  by_cases ho : out = []
  · have : root = "/" := String.ext (by rw [hroot, ho]; rfl)
    simp [this]
  · have hr : root ≠ "/" := fun h => intercalate_ne_nil ['/'] ho hnn
      (List.cons.inj (hroot.symm.trans (congrArg String.data h))).2
    rw [if_neg hr, intercalate_append _ ho hx]
    show root.data ++ ['/'] <+: _
    rw [hroot, List.cons_append]
    exact (List.prefix_cons_inj '/').mpr (List.prefix_append _ _)

theorem foldl_cleanStep_above {elems : List (List Char)} :
    ∀ {top : List (List Char)} (base : List (List Char)), (∀ t ∈ top, t ≠ ['.', '.']) →
      (∀ pre ∈ elems.inits, pre.count ['.', '.'] ≤ top.length + pre.countP isName) →
      ∃ top', elems.foldl (cleanStep true) (top ++ base) = top' ++ base := by
  induction elems with
  | nil => exact fun base _ _ => ⟨_, rfl⟩
  | cons e es ih =>
      intro top base htop h
      simp only [List.inits, List.forall_mem_cons, List.forall_mem_map, List.count_cons,
        List.countP_cons, beq_iff_eq] at h
      rw [List.foldl_cons]
      by_cases h1 : e = [] ∨ e = ['.']
      · rw [cleanStep_skip h1]
        exact ih base htop fun pre hpre => by
          rcases h1 with rfl | rfl <;> simpa [isName] using h.2 pre hpre
      by_cases h2 : e = ['.', '.']
      · subst h2
        rw [cleanStep_dotdot]
        rcases top with _ | ⟨t, top⟩
        · simpa [isName] using h.2 [] (by simp)
        · rw [List.forall_mem_cons] at htop
          simp only [List.cons_append, ne_eq, htop.1, not_false_eq_true, if_true]
          exact ih base htop.2 fun pre hpre => by
            have := h.2 pre hpre
            simp [isName] at this
            omega
      · rw [cleanStep_name (fun h => h1 (.inl h)) (fun h => h1 (.inr h)) h2, ← List.cons_append]
        refine ih base (List.forall_mem_cons.mpr ⟨h2, htop⟩) fun pre hpre => ?_
        have := h.2 pre hpre
        simp only [not_or] at h1
        simp [isName, h1, h2] at this
        simp only [List.length_cons]
        omega

/-- Joining onto an absolute, clean root a path whose elements never climb above where they
start stays at the root or beneath it. -/
theorem join_within {root rel : String} (habs : isAbs root = true) (hclean : clean root = root)
    (hrel : NeverClimbs (rel.data.splitOn '/')) : isWithin root (join [root, rel]) = true := by
  obtain ⟨t, ht⟩ : ∃ t, root.data = '/' :: t := by
    obtain ⟨t, ht⟩ := Go.hasPrefix_iff.mp habs
    exact ⟨t, ht.symm⟩
  have hne : root ≠ "" := fun h => by simp [h] at ht
  have hroot : root.data = '/' :: ['/'].intercalate
      ((root.data.splitOn '/').foldl (cleanStep true) []).reverse := by
    conv_lhs => rw [← hclean, clean_of_rooted ht]
  obtain ⟨top, htop⟩ := @foldl_cleanStep_above (rel.data.splitOn '/') []
    ((root.data.splitOn '/').foldl (cleanStep true) []) (by simp)
    fun pre hpre => by simpa using hrel pre hpre
  have hj : join [root, rel] = clean ⟨root.data ++ '/' :: rel.data⟩ := by
    simp [join, hne, Go.join, List.intercalate]
  have hpath : (join [root, rel]).data = '/' :: ['/'].intercalate
      (((root.data.splitOn '/').foldl (cleanStep true) []).reverse ++ top.reverse) := by
    rw [hj, clean_of_rooted (t := t ++ '/' :: rel.data) (by simp [ht])]
    simp only [List.nil_append] at htop
    simp [Go.splitOn_append_sep, List.foldl_append, htop]
  exact isWithin_of_elements (fun e he => foldl_cleanStep_ne_nil true _ e (List.mem_reverse.mp he))
    hroot hpath

theorem neverClimbs_of_no_dotdot {elems : List (List Char)} (h : ∀ e ∈ elems, e ≠ ['.', '.']) :
    NeverClimbs elems := fun pre hpre => by
  have hc : pre.count ['.', '.'] = 0 := List.count_eq_zero.mpr fun hm =>
    h _ ((List.mem_inits _ _).mp hpre |>.subset hm) rfl
  omega

theorem sep_of_mem_splitOnP {p : Char → Bool} {xs e : List Char} (he : e ∈ xs.splitOnP p)
    {c : Char} (hc : c ∈ e) : p c = false := by
  induction xs generalizing e with
  | nil =>
      rw [List.splitOnP_nil, List.mem_singleton] at he
      subst he
      cases hc
  | cons x xs ih =>
      obtain ⟨h, t, ht⟩ := List.exists_cons_of_ne_nil (List.splitOnP_ne_nil p xs)
      rw [List.splitOnP_cons] at he
      split at he
      · rcases List.mem_cons.mp he with rfl | he
        · cases hc
        · exact ih he hc
      · rename_i hx
        rw [ht, List.modifyHead_cons] at he
        rcases List.mem_cons.mp he with rfl | he
        · rcases List.mem_cons.mp hc with rfl | hc
          · exact Bool.eq_false_iff.mpr hx
          · exact ih (ht ▸ List.mem_cons_self h t) hc
        · exact ih (ht ▸ List.mem_cons_of_mem h he) hc

theorem slash_not_mem_of_mem_splitOn {xs e : List Char} (he : e ∈ xs.splitOn '/') : '/' ∉ e :=
  fun hc => absurd (sep_of_mem_splitOnP he hc) (by decide)

/-- What the cleaning loop keeps on its stack, last element first: elements that are neither
empty nor `.` and hold no `/`, and below all others the `..` elements, which only a relative
path keeps. -/
def Canonical (rooted : Bool) (stack : List (List Char)) : Prop :=
  (∀ e ∈ stack, e ≠ [] ∧ e ≠ ['.'] ∧ '/' ∉ e) ∧
    ∃ names dots, stack = names ++ dots ∧ (∀ e ∈ names, e ≠ ['.', '.']) ∧
      (∀ e ∈ dots, e = ['.', '.']) ∧ (rooted = true → dots = [])

theorem canonical_nil (rooted : Bool) : Canonical rooted [] :=
  ⟨fun _ h => absurd h (List.not_mem_nil _), [], [], rfl, by simp, by simp, fun _ => rfl⟩

theorem canonical_cleanStep {rooted : Bool} {stack : List (List Char)} {elem : List Char}
    (h : Canonical rooted stack) (helem : '/' ∉ elem) :
    Canonical rooted (cleanStep rooted stack elem) := by
  by_cases h1 : elem = [] ∨ elem = ['.']
  · rw [cleanStep_skip h1]
    exact h
  obtain ⟨helts, names, dots, hstack, hn, hd, hr⟩ := h
  have hdd : ['.', '.'] ≠ ([] : List Char) ∧ ['.', '.'] ≠ ['.'] ∧ '/' ∉ ['.', '.'] := by decide
  by_cases h2 : elem = ['.', '.']
  · subst h2
    rw [cleanStep_dotdot]
    rcases names with _ | ⟨n, names⟩
    · rw [List.nil_append] at hstack
      subst stack
      cases rooted
      · have hpush : Canonical false (['.', '.'] :: dots) :=
          ⟨by simpa [hdd] using helts, [], ['.', '.'] :: dots, rfl, by simp, by simpa using hd, nofun⟩
        rcases dots with _ | ⟨e, rest⟩
        · exact hpush
        · simpa [hd e (List.mem_cons_self e rest)] using hpush
      · rw [hr rfl]
        exact canonical_nil true
    · rw [List.cons_append] at hstack
      subst stack
      simp only [ne_eq, hn n (List.mem_cons_self n names), not_false_eq_true, if_true]
      refine ⟨fun e he => helts e (List.mem_cons_of_mem n he), names, dots, rfl,
        fun e he => hn e (List.mem_cons_of_mem n he), hd, hr⟩
  · rw [cleanStep_name (fun h => h1 (.inl h)) (fun h => h1 (.inr h)) h2]
    refine ⟨fun e he => ?_, elem :: names, dots, by rw [hstack]; rfl, ?_, hd, hr⟩
    · rcases List.mem_cons.mp he with rfl | he
      · exact ⟨fun h => h1 (.inl h), fun h => h1 (.inr h), helem⟩
      · exact helts e he
    · exact List.forall_mem_cons.mpr ⟨h2, hn⟩

theorem canonical_foldl {rooted : Bool} {elems stack : List (List Char)}
    (h : Canonical rooted stack) (helems : ∀ e ∈ elems, '/' ∉ e) :
    Canonical rooted (elems.foldl (cleanStep rooted) stack) := by
  induction elems generalizing stack with
  | nil => exact h
  | cons e elems ih =>
      rw [List.forall_mem_cons] at helems
      exact ih (canonical_cleanStep h helems.1) helems.2

theorem canonical_clean_stack (rooted : Bool) (path : List Char) :
    Canonical rooted ((path.splitOn '/').foldl (cleanStep rooted) []) :=
  canonical_foldl (canonical_nil rooted) fun _ he => slash_not_mem_of_mem_splitOn he

theorem foldl_cleanStep_dotdots (k j : Nat) :
    (List.replicate k ['.', '.']).foldl (cleanStep false) (List.replicate j ['.', '.']) =
      List.replicate (k + j) ['.', '.'] := by
  induction k generalizing j with
  | zero => simp
  | succ k ih =>
      have hstep : cleanStep false (List.replicate j ['.', '.']) ['.', '.'] =
          List.replicate (j + 1) ['.', '.'] := by
        rw [cleanStep_dotdot]
        cases j <;> rfl
      rw [List.replicate_succ, List.foldl_cons, hstep, ih, Nat.add_right_comm, Nat.add_assoc]

theorem foldl_cleanStep_reverse {rooted : Bool} {stack : List (List Char)}
    (h : Canonical rooted stack) : stack.reverse.foldl (cleanStep rooted) [] = stack := by
  obtain ⟨helts, names, dots, rfl, hn, hd, hr⟩ := h
  have hdots : dots.reverse.foldl (cleanStep rooted) [] = dots := by
    cases rooted
    · rw [List.eq_replicate_of_mem hd, List.reverse_replicate]
      simpa using foldl_cleanStep_dotdots dots.length 0
    · rw [hr rfl]
      rfl
  have hfilter : names.reverse.filter (fun e => e ≠ [] ∧ e ≠ ['.']) = names.reverse :=
    List.filter_eq_self.mpr fun e he => by
      have := helts e (List.mem_append_left dots (List.mem_reverse.mp he))
      simpa using ⟨this.1, this.2.1⟩
  rw [List.reverse_append, List.foldl_append, hdots,
    foldl_cleanStep_of_no_dotdot rooted (fun e he => hn e (List.mem_reverse.mp he)), hfilter,
    List.reverse_reverse]

theorem foldl_splitOn_intercalate {rooted : Bool} {stack : List (List Char)}
    (h : Canonical rooted stack) :
    ((['/'].intercalate stack.reverse).splitOn '/').foldl (cleanStep rooted) [] = stack := by
  rcases stack with _ | ⟨e, rest⟩
  · rfl
  · rw [List.splitOn_intercalate _ '/' (fun x hx => (h.1 x (List.mem_reverse.mp hx)).2.2)
      (by simp), foldl_cleanStep_reverse h]

theorem head?_intercalate_slash {e : List Char} (he : e ≠ []) (rest : List (List Char)) :
    (['/'].intercalate (e :: rest)).head? = e.head? := by
  cases rest <;> simp [List.intercalate, List.head?_append_of_ne_nil _ he]

theorem clean_rooted_stack {stack : List (List Char)} (h : Canonical true stack) :
    clean ⟨'/' :: ['/'].intercalate stack.reverse⟩ = ⟨'/' :: ['/'].intercalate stack.reverse⟩ := by
  rw [clean_of_rooted rfl]
  have hsplit : ('/' :: ['/'].intercalate stack.reverse).splitOn '/' =
      [] :: (['/'].intercalate stack.reverse).splitOn '/' :=
    Go.splitOn_append_sep '/' [] _
  rw [hsplit, List.foldl_cons, cleanStep_skip (.inl rfl), foldl_splitOn_intercalate h]

theorem clean_relative_stack {stack : List (List Char)} (h : Canonical false stack)
    (hne : stack ≠ []) :
    clean ⟨['/'].intercalate stack.reverse⟩ = ⟨['/'].intercalate stack.reverse⟩ := by
  obtain ⟨e, rest, hrev⟩ := List.exists_cons_of_ne_nil (List.reverse_ne_nil_iff.mpr hne)
  have he := h.1 e (List.mem_reverse.mp (hrev ▸ List.mem_cons_self e rest))
  have hs : (⟨['/'].intercalate stack.reverse⟩ : String) ≠ "" := fun h0 =>
    intercalate_ne_nil ['/'] (List.reverse_ne_nil_iff.mpr hne)
      (fun x hx => (h.1 x (List.mem_reverse.mp hx)).1) (congrArg String.data h0)
  have hhead : (['/'].intercalate stack.reverse).head? ≠ some '/' := by
    rw [hrev, head?_intercalate_slash he.1]
    obtain ⟨c, cs, rfl⟩ := List.exists_cons_of_ne_nil he.1
    exact fun hc => he.2.2 (Option.some.inj hc ▸ List.mem_cons_self c cs)
  rw [clean, if_neg hs]
  simp only [hhead, decide_False, if_false, foldl_splitOn_intercalate h,
    if_neg (List.reverse_ne_nil_iff.mpr hne)]

theorem clean_clean (path : String) : clean (clean path) = clean path := by
  by_cases h0 : path = ""
  · rw [h0]
    rfl
  by_cases hr : path.data.head? = some '/'
  · have hc : clean path = ⟨'/' :: ['/'].intercalate
        ((path.data.splitOn '/').foldl (cleanStep true) []).reverse⟩ := by
      simp [clean, h0, hr]
    rw [hc]
    exact clean_rooted_stack (canonical_clean_stack true path.data)
  · by_cases hE : (path.data.splitOn '/').foldl (cleanStep false) [] = []
    · have hc : clean path = "." := by simp [clean, h0, hr, hE]
      rw [hc]
      rfl
    · have hc : clean path = ⟨['/'].intercalate
          ((path.data.splitOn '/').foldl (cleanStep false) []).reverse⟩ := by
        simp [clean, h0, hr, hE]
      rw [hc]
      exact clean_relative_stack (canonical_clean_stack false path.data) hE

theorem clean_join_cons {first : String} (hf : first ≠ "") (rest : List String) :
    clean (join (first :: rest)) = join (first :: rest) := by
  have hj : join (first :: rest) = clean (Go.join (first :: rest) "/") := by simp [join, hf]
  rw [hj, clean_clean]

end NriPolicy.Filepath
