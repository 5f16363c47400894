import Mathlib.Data.List.Infix

namespace NriPolicy.Go

variable {α : Type}

/-- `strings.HasPrefix`. A Go string is modelled by the characters it holds. -/
def hasPrefix (s pre : String) : Bool := pre.data.isPrefixOf s.data

def hasSuffix (s suf : String) : Bool := suf.data.isSuffixOf s.data

def contains (s substr : String) : Bool := decide (substr.data <:+: s.data)

def trimSuffix (s suf : String) : String :=
  if hasSuffix s suf then ⟨s.data.take (s.data.length - suf.data.length)⟩ else s

def trimPrefix (s pre : String) : String :=
  if hasPrefix s pre then ⟨s.data.drop pre.data.length⟩ else s

theorem hasPrefix_iff {s pre : String} : hasPrefix s pre = true ↔ pre.data <+: s.data :=
  List.isPrefixOf_iff_prefix

theorem hasSuffix_iff {s suf : String} : hasSuffix s suf = true ↔ suf.data <:+ s.data :=
  List.isSuffixOf_iff_suffix

theorem contains_iff {s substr : String} : contains s substr = true ↔ substr.data <:+: s.data :=
  decide_eq_true_iff

theorem contains_singleton_iff {s : String} {c : Char} :
    contains s (String.singleton c) = true ↔ c ∈ s.data := by
  rw [contains_iff]
  refine ⟨fun h => List.singleton_sublist.mp h.sublist, fun h => ?_⟩
  obtain ⟨l, r, hs⟩ := List.append_of_mem h
  exact ⟨l, r, by rw [hs]; simp [String.singleton]⟩

theorem trimSuffix_append {s suf : String} (h : hasSuffix s suf = true) :
    (trimSuffix s suf).data ++ suf.data = s.data := by
  rw [trimSuffix, if_pos h]
  exact List.suffix_iff_eq_append.mp (hasSuffix_iff.mp h)

theorem trimPrefix_append {s pre : String} (h : hasPrefix s pre = true) :
    pre.data ++ (trimPrefix s pre).data = s.data := by
  rw [trimPrefix, if_pos h]
  exact List.prefix_iff_eq_append.mp (hasPrefix_iff.mp h)

def split (s : String) (sep : Char) : List String := (s.data.splitOn sep).map String.mk

def join (elems : List String) (sep : String) : String :=
  ⟨sep.data.intercalate (elems.map String.data)⟩

def isSpace (c : Char) : Bool :=
  c.isWhitespace || c = '\u000B' || c = '\u000C' || c = '\u0085' || c = '\u00A0' ||
    c = '\u1680' || ('\u2000' ≤ c && c ≤ '\u200A') || c = '\u2028' || c = '\u2029' ||
    c = '\u202F' || c = '\u205F' || c = '\u3000'

/-- `strings.Fields`: the runs of characters between white space. -/
def fields (s : String) : List String :=
  ((s.data.splitOnP isSpace).filter (· ≠ [])).map String.mk

theorem split_of_not_mem {s : String} {sep : Char} (h : sep ∉ s.data) : split s sep = [s] := by
  rw [split, List.splitOn,
    List.splitOnP_eq_single (· == sep) s.data fun _ hx he => h (eq_of_beq he ▸ hx)]
  rfl

/-- A string that splits into more than one part is its first part, the separator, and the
other parts joined back. -/
theorem split_eq_cons {s first : String} {sep : Char} {rest : List String} (hr : rest ≠ [])
    (h : split s sep = first :: rest) :
    s.data = first.data ++ sep :: (join rest (String.singleton sep)).data := by
  have hs : s.data.splitOn sep = first.data :: rest.map String.data := by
    simpa [split, List.map_map, Function.comp_def] using congrArg (List.map String.data) h
  obtain ⟨r, rest, rfl⟩ := List.exists_cons_of_ne_nil hr
  conv_lhs => rw [← List.intercalate_splitOn s.data sep, hs]
  simp [join, String.singleton, List.intercalate]

theorem splitOnP_go_append {p : Char → Bool} {sep : Char} (hs : p sep = true)
    (xs ys acc : List Char) :
    List.splitOnP.go p (xs ++ sep :: ys) acc = List.splitOnP.go p xs acc ++ List.splitOnP.go p ys [] := by
  induction xs generalizing acc with
  | nil => simp [List.splitOnP.go, hs]
  | cons a xs ih => by_cases ha : p a <;> simp [List.splitOnP.go, ha, ih]

theorem splitOn_append_sep (sep : Char) (xs ys : List Char) :
    (xs ++ sep :: ys).splitOn sep = xs.splitOn sep ++ ys.splitOn sep :=
  splitOnP_go_append (p := (· == sep)) (beq_self_eq_true sep) xs ys []

theorem intercalate_cons_cons (sep l l' : List Char) (ls : List (List Char)) :
    sep.intercalate (l :: l' :: ls) = l ++ sep ++ sep.intercalate (l' :: ls) := by
  simp [List.intercalate]

theorem mem_intercalate_singleton {c sep : Char} :
    ∀ {ls : List (List Char)}, c ∈ [sep].intercalate ls → c = sep ∨ ∃ l ∈ ls, c ∈ l
  | [], h => by simp [List.intercalate] at h
  | [l], h => .inr ⟨l, List.mem_singleton_self l, by simpa [List.intercalate] using h⟩
  | l :: l' :: ls, h => by
      rw [intercalate_cons_cons] at h
      rcases List.mem_append.mp h with h | h
      · rcases List.mem_append.mp h with h | h
        · exact .inr ⟨l, List.mem_cons_self l _, h⟩
        · exact .inl (List.mem_singleton.mp h)
      · rcases mem_intercalate_singleton h with h | ⟨m, hm, hc⟩
        · exact .inl h
        · exact .inr ⟨m, List.mem_cons_of_mem l hm, hc⟩

theorem splitOnP_intercalate {p : Char → Bool} {sep : Char} (hsep : p sep = true) :
    ∀ {ls : List (List Char)}, ls ≠ [] → (∀ l ∈ ls, ∀ c ∈ l, p c = false) →
      ([sep].intercalate ls).splitOnP p = ls
  | [], h, _ => absurd rfl h
  | [l], _, hl => by
      simpa [List.intercalate] using
        List.splitOnP_eq_single p l fun c hc => by simp [hl l (List.mem_singleton_self l) c hc]
  | l :: l' :: ls, _, hl => by
      have hl1 : l.splitOnP p = [l] :=
        List.splitOnP_eq_single p l fun c hc => by simp [hl l (List.mem_cons_self l _) c hc]
      have hrest := splitOnP_intercalate hsep (List.cons_ne_nil l' ls)
        fun x hx => hl x (List.mem_cons_of_mem l hx)
      rw [intercalate_cons_cons, List.append_assoc, List.singleton_append]
      exact (splitOnP_go_append hsep l _ []).trans (congrArg₂ (· ++ ·) hl1 hrest)

/-- The fields of words joined by single spaces are the words, when none is empty or holds
white space. -/
theorem fields_join {ws : List String} (hne : ws ≠ [])
    (h : ∀ w ∈ ws, w ≠ "" ∧ ∀ c ∈ w.data, isSpace c = false) : fields (join ws " ") = ws := by
  have hsplit : (join ws " ").data.splitOnP isSpace = ws.map String.data :=
    splitOnP_intercalate (by decide) (by simpa using hne)
      (by simpa using fun w hw => (h w hw).2)
  have hfilter : (ws.map String.data).filter (· ≠ []) = ws.map String.data :=
    List.filter_eq_self.mpr fun d hd => by
      obtain ⟨w, hw, rfl⟩ := List.mem_map.mp hd
      simpa using fun hnil => (h w hw).1 (String.ext hnil)
  rw [fields, hsplit, hfilter, List.map_map]
  exact List.map_id ws

/-- The loop `for _, x := range xs { if err := f(x); err != nil { return err } }`
followed by `return nil`. A Go `error` is `some` message, and `nil` is `none`. -/
def firstError (f : α → Option String) : List α → Option String
  | [] => none
  | x :: xs => (f x).or (firstError f xs)

@[simp] theorem firstError_nil (f : α → Option String) : firstError f [] = none := rfl

@[simp] theorem firstError_cons (f : α → Option String) (x : α) (xs : List α) :
    firstError f (x :: xs) = (f x).or (firstError f xs) := rfl

@[simp] theorem firstError_eq_none {f : α → Option String} {xs : List α} :
    firstError f xs = none ↔ ∀ x ∈ xs, f x = none := by
  induction xs with
  | nil => simp
  | cons x xs ih => simp [Option.or_eq_none, ih]

/-- The indexed loop `for i, x := range xs { if err := f(i, x); err != nil { return err } }`,
where the index only enters the error's message. -/
def firstErrorIdx (f : Nat → α → Option String) (xs : List α) : Option String :=
  firstError (fun p => f p.1 p.2) xs.enum

theorem firstErrorIdx_eq_none {f : Nat → α → Option String} {P : α → Prop}
    (hf : ∀ i x, f i x = none ↔ P x) (xs : List α) :
    firstErrorIdx f xs = none ↔ ∀ x ∈ xs, P x := by
  rw [firstErrorIdx, firstError_eq_none, ← List.enum_map_snd xs, List.forall_mem_map]
  simp only [List.enum_map_snd, hf]

theorem firstErrorIdx_map_eq_none (g : α → Option String) (w : Nat → String → String)
    (xs : List α) : firstErrorIdx (fun i x => (g x).map (w i)) xs = none ↔ ∀ x ∈ xs, g x = none :=
  firstErrorIdx_eq_none (P := fun x => g x = none) (fun _ _ => Option.map_eq_none') xs

theorem isNone_eq_isNone_iff {a b : Option α} : a.isNone = b.isNone ↔ (a = none ↔ b = none) := by
  rw [Bool.eq_iff_iff, Option.isNone_iff_eq_none, Option.isNone_iff_eq_none]

@[simp] theorem ok_bind {ε β γ : Type} (a : β) (f : β → Except ε γ) :
    (Except.ok a >>= f) = f a := rfl

@[simp] theorem mapError_ok {ε ε' β : Type} (g : ε → ε') (a : β) :
    (Except.ok a : Except ε β).mapError g = .ok a := rfl

end NriPolicy.Go
