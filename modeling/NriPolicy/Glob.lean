import NriPolicy.Go

namespace NriPolicy.Glob

open Go

/-- The body of `globMatch`, which the source writes out twice: once as a method of
`RestrictionsValidator` and once of `PolicyBasedValidator`. -/
def globMatch (pattern str : String) : Bool :=
  if pattern = "*" then true
  else if contains pattern "*" then
    if hasSuffix pattern "*" then hasPrefix str (trimSuffix pattern "*")
    else if hasPrefix pattern "*" then hasSuffix str (trimPrefix pattern "*")
    else pattern = str
  else pattern = str

/-- The wildcard language of a pattern: each `*` stands for any, possibly empty, string
and every other character for itself. -/
inductive Wild : List Char → List Char → Prop
  | nil : Wild [] []
  | char {c : Char} {p s : List Char} : c ≠ '*' → Wild p s → Wild (c :: p) (c :: s)
  | star {p s : List Char} (w : List Char) : Wild p s → Wild ('*' :: p) (w ++ s)

/-- Patterns with at most one `*`, and that one first or last. -/
def SimpleGlob (p : List Char) : Prop :=
  '*' ∉ p ∨ ∃ l, '*' ∉ l ∧ (p = '*' :: l ∨ p = l ++ ['*'])

theorem wild_refl : ∀ p : List Char, Wild p p
  | [] => .nil
  | c :: p => by
      by_cases hc : c = '*'
      · subst hc; exact .star ['*'] (wild_refl p)
      · exact .char hc (wild_refl p)

theorem Wild.append_star {p s : List Char} (h : Wild p s) (t : List Char) :
    Wild (p ++ ['*']) (s ++ t) := by
  induction h with
  | nil => simpa using Wild.star t .nil
  | char hc _ ih => exact .char hc ih
  | star w _ ih => simpa using Wild.star w ih

theorem Wild.eq_of_not_mem {p s : List Char} (h : Wild p s) (hp : '*' ∉ p) : s = p := by
  induction h with
  | nil => rfl
  | char _ _ ih => simp_all
  | star => simp at hp

theorem Wild.prefix_of_append_star {l s : List Char} (h : Wild (l ++ ['*']) s)
    (hl : '*' ∉ l) : l <+: s := by
  induction l generalizing s with
  | nil => exact List.nil_prefix
  | cons c l ih =>
      cases h with
      | char _ h => exact (List.prefix_cons_inj c).mpr (ih h (by simp_all))
      | star => simp at hl

theorem Wild.suffix_of_star_cons {l s : List Char} (h : Wild ('*' :: l) s)
    (hl : '*' ∉ l) : l <:+ s := by
  cases h with
  | char hc _ => exact absurd rfl hc
  | star w h => rw [h.eq_of_not_mem hl]; exact List.suffix_append w l

theorem eq_star_iff {s : String} : s = "*" ↔ s.data = ['*'] := String.ext_iff

@[simp] theorem star_data : "*".data = ['*'] := rfl

theorem contains_star {s : String} : contains s "*" = true ↔ '*' ∈ s.data :=
  contains_singleton_iff

theorem not_suffix_star {l : List Char} (hl : '*' ∉ l) (hne : l ≠ []) : ¬ ['*'] <:+ '*' :: l := by
  rintro ⟨t, ht⟩
  cases t with
  | nil => exact hne (List.cons_eq_cons.mp ht).2.symm
  | cons a t => exact hl ((List.cons_eq_cons.mp ht).2 ▸ by simp)

theorem globMatch_of_not_mem {pattern : String} (hp : '*' ∉ pattern.data) (str : String) :
    globMatch pattern str = decide (pattern = str) := by
  have h1 : pattern ≠ "*" := fun h => hp (by simp [eq_star_iff.mp h])
  have h2 : contains pattern "*" = false := Bool.eq_false_iff.mpr (fun h => hp (contains_star.mp h))
  simp [globMatch, h1, h2]

theorem globMatch_of_star_cons {pattern : String} {l : List Char} (hp : pattern.data = '*' :: l)
    (hl : '*' ∉ l) (str : String) : globMatch pattern str = hasSuffix str ⟨l⟩ := by
  by_cases hne : l = []
  · subst hne
    have h : pattern = "*" := eq_star_iff.mpr hp
    simp [globMatch, h, hasSuffix]
  · have h1 : pattern ≠ "*" := fun h => hne (List.cons_eq_cons.mp (hp.symm.trans (eq_star_iff.mp h))).2
    have h2 : contains pattern "*" = true := contains_star.mpr (by rw [hp]; simp)
    have h3 : hasSuffix pattern "*" = false :=
      Bool.eq_false_iff.mpr (fun h => not_suffix_star hl hne (hp ▸ hasSuffix_iff.mp h))
    have h4 : hasPrefix pattern "*" = true := hasPrefix_iff.mpr ⟨l, hp.symm⟩
    have h5 : trimPrefix pattern "*" = ⟨l⟩ := String.ext (by simpa [hp] using trimPrefix_append h4)
    simp [globMatch, h1, h2, h3, h4, h5]

theorem globMatch_of_append_star {pattern : String} {l : List Char}
    (hp : pattern.data = l ++ ['*']) (str : String) : globMatch pattern str = hasPrefix str ⟨l⟩ := by
  by_cases hne : l = []
  · subst hne
    have h : pattern = "*" := eq_star_iff.mpr hp
    simp [globMatch, h, hasPrefix]
  · have h1 : pattern ≠ "*" := fun h => hne (by simpa using hp.symm.trans (eq_star_iff.mp h))
    have h2 : contains pattern "*" = true := contains_star.mpr (by rw [hp]; simp)
    have h3 : hasSuffix pattern "*" = true := hasSuffix_iff.mpr ⟨l, hp.symm⟩
    have h5 : trimSuffix pattern "*" = ⟨l⟩ := String.ext (by simpa [hp] using trimSuffix_append h3)
    simp [globMatch, h1, h2, h3, h5]

/-- What `globMatch` accepts lies in the pattern's wildcard language, whatever the
pattern: a `*` that the matcher keeps as text is matched by a wildcard standing for it. -/
theorem wild_of_globMatch {pattern str : String} (h : globMatch pattern str = true) :
    Wild pattern.data str.data := by
  unfold globMatch at h
  split_ifs at h with h1 h2 h3 h4
  · subst h1; simpa using Wild.star str.data .nil
  · obtain ⟨t, ht⟩ := hasPrefix_iff.mp h
    rw [← trimSuffix_append h3, ← ht]
    exact (wild_refl _).append_star t
  · obtain ⟨t, ht⟩ := hasSuffix_iff.mp h
    rw [← trimPrefix_append h4, ← ht]
    exact .star t (wild_refl _)
  · rw [of_decide_eq_true h]; exact wild_refl _
  · rw [of_decide_eq_true h]; exact wild_refl _

theorem globMatch_iff_wild {pattern : String} (hp : SimpleGlob pattern.data) (str : String) :
    globMatch pattern str = true ↔ Wild pattern.data str.data := by
  refine ⟨wild_of_globMatch, fun h => ?_⟩
  rcases hp with hp | ⟨l, hl, hp | hp⟩
  · rw [globMatch_of_not_mem hp, decide_eq_true_iff]
    exact String.ext (h.eq_of_not_mem hp).symm
  · rw [globMatch_of_star_cons hp hl, hasSuffix_iff]
    exact (hp ▸ h).suffix_of_star_cons hl
  · rw [globMatch_of_append_star hp, hasPrefix_iff]
    exact (hp ▸ h).prefix_of_append_star hl

theorem wild_filter_star : ∀ p : List Char, Wild p (p.filter (· ≠ '*'))
  | [] => .nil
  | c :: p => by
      by_cases hc : c = '*'
      · subst hc
        simpa using Wild.star [] (wild_filter_star p)
      · simpa [hc] using Wild.char hc (wild_filter_star p)

theorem simpleGlob_of_globMatch {pattern str : String} (h : globMatch pattern str = true)
    (hs : '*' ∉ str.data) : SimpleGlob pattern.data := by
  unfold globMatch at h
  split_ifs at h with h1 h2 h3 h4
  · exact .inr ⟨[], List.not_mem_nil _, .inl (eq_star_iff.mp h1)⟩
  · refine .inr ⟨(trimSuffix pattern "*").data, fun hm => hs ?_, .inr (trimSuffix_append h3).symm⟩
    exact (hasPrefix_iff.mp h).subset hm
  · refine .inr ⟨(trimPrefix pattern "*").data, fun hm => hs ?_, .inl (trimPrefix_append h4).symm⟩
    exact (hasSuffix_iff.mp h).subset hm
  · exact .inl (of_decide_eq_true h ▸ hs)
  · exact .inl (of_decide_eq_true h ▸ hs)

/-- The matcher accepts the whole wildcard language of a pattern exactly when the pattern is
simple; a pattern with a `*` anywhere else loses, among others, the pattern with its stars
removed. -/
theorem globMatch_complete_iff (pattern : String) :
    (∀ str : String, Wild pattern.data str.data → globMatch pattern str = true) ↔
      SimpleGlob pattern.data := by
  refine ⟨fun h => simpleGlob_of_globMatch (h ⟨pattern.data.filter (· ≠ '*')⟩ (wild_filter_star _))
    (by simp [List.mem_filter]), fun hp str => (globMatch_iff_wild hp str).mpr⟩

end NriPolicy.Glob
