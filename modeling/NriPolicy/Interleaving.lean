import NriPolicy.Policy

namespace NriPolicy.Interleaving

open Go Api Policy

/-- Where one call of PolicyBasedValidator.ValidateContainerAdjustment stands. The call
touches the caller's context only in its plugin loop: it writes the plugin's name into the
context, then validatePluginAccess reads the context. -/
inductive Pc
  | start
  | write (plugins : List String)
  | check (pluginName : String) (plugins : List String)
  | done (err : Option String)
deriving DecidableEq

structure Call where
  req : ValidateContainerAdjustmentRequest
  ctx : Nat
  pc : Pc
deriving DecidableEq

structure World where
  ctxs : Nat → ValidationContext
  calls : List Call

variable (pv : PolicyBasedValidator)

def Call.step (ctxs : Nat → ValidationContext) (c : Call) : (Nat → ValidationContext) × Pc :=
  match c.pc with
  | .start =>
      match c.req.pod with
      | none => (ctxs, .done (some "pod information is required for policy validation"))
      | some _ =>
          let restrictionsErr := match pv.restrictionsValidator with
            | some rv => (rv.validateContainerAdjustment c.req).map
                (fun err => s!"restrictions validation failed: {err}")
            | none => none
          match restrictionsErr with
          | some err => (ctxs, .done (some err))
          | none => (ctxs, .write c.req.pluginMap)
  | .write [] => (ctxs, .done none)
  | .write (pluginName :: plugins) =>
      (Function.update ctxs c.ctx { ctxs c.ctx with pluginName }, .check pluginName plugins)
  | .check pluginName plugins =>
      match pv.validatePluginAccess (ctxs c.ctx) with
      | some err =>
          (ctxs, .done (some s!"policy validation failed for plugin {pluginName}: {err}"))
      | none => (ctxs, .write plugins)
  | .done err => (ctxs, .done err)

def World.step (w : World) (i : Nat) : World :=
  match w.calls[i]? with
  | some c =>
      { ctxs := (c.step pv w.ctxs).1, calls := w.calls.set i { c with pc := (c.step pv w.ctxs).2 } }
  | none => w

def World.run (w : World) : List Nat → World
  | [] => w
  | i :: sched => World.run (w.step pv i) sched

def Call.rank (c : Call) : Nat :=
  match c.pc with
  | .start => 2 * c.req.pluginMap.length + 2
  | .write plugins => 2 * plugins.length + 1
  | .check _ plugins => 2 * plugins.length + 2
  | .done _ => 0

def loopError (ctx0 : ValidationContext) (plugins : List String) : Option String :=
  firstError (fun pluginName => (pv.validatePluginAccess { ctx0 with pluginName }).map
    (fun err => s!"policy validation failed for plugin {pluginName}: {err}")) plugins

/-- What is left of a call gives the decision the call gives alone from ctx0, and its
context differs from ctx0 at most in the plugin name. -/
def Agrees (ctx0 : ValidationContext) (c : Call) (ctx : ValidationContext) : Prop :=
  (∃ n, ctx = { ctx0 with pluginName := n }) ∧
    match c.pc with
    | .start => True
    | .write plugins => loopError pv ctx0 plugins = pv.validateContainerAdjustment c.req (some ctx0)
    | .check pluginName plugins => ctx.pluginName = pluginName ∧
        loopError pv ctx0 (pluginName :: plugins) = pv.validateContainerAdjustment c.req (some ctx0)
    | .done err => err = pv.validateContainerAdjustment c.req (some ctx0)

theorem rank_eq_zero {c : Call} (h : c.rank = 0) : ∃ err, c.pc = .done err := by
  rcases c with ⟨req, ctx, _ | _ | _ | err⟩ <;> simp [Call.rank] at h ⊢

theorem step_start {c : Call} (hc : c.pc = .start) (ctxs : Nat → ValidationContext)
    (ctx0 : ValidationContext) :
    (c.step pv ctxs).1 = ctxs ∧
      ((c.step pv ctxs).2 = .done (pv.validateContainerAdjustment c.req (some ctx0)) ∨
        (c.step pv ctxs).2 = .write c.req.pluginMap ∧
          pv.validateContainerAdjustment c.req (some ctx0) = loopError pv ctx0 c.req.pluginMap) := by
  rcases c with ⟨req, k, pc⟩
  subst hc
  cases hpod : req.pod with
  | none => simp [Call.step, hpod, PolicyBasedValidator.validateContainerAdjustment]
  | some pod =>
      cases hrv : pv.restrictionsValidator with
      | none => simp [Call.step, hpod, hrv, PolicyBasedValidator.validateContainerAdjustment, loopError]
      | some rv =>
          cases hv : rv.validateContainerAdjustment req <;>
            simp [Call.step, hpod, hrv, hv, PolicyBasedValidator.validateContainerAdjustment, loopError]

theorem Call.step_ctxs_of_ne (ctxs : Nat → ValidationContext) (c : Call) {k : Nat} (hk : k ≠ c.ctx) :
    (c.step pv ctxs).1 k = ctxs k := by
  rcases c with ⟨req, l, pc⟩
  cases pc with
  | start => rw [(step_start pv (c := ⟨req, l, .start⟩) rfl ctxs {}).1]
  | write plugins =>
      cases plugins with
      | nil => rfl
      | cons p ps => exact Function.update_noteq hk _ _
  | check p ps =>
      simp only [Call.step]
      split <;> rfl
  | done err => rfl

theorem rank_step (ctxs : Nat → ValidationContext) (c : Call) :
    ({ c with pc := (c.step pv ctxs).2 } : Call).rank ≤ c.rank - 1 := by
  rcases c with ⟨req, l, pc⟩
  cases pc with
  | start =>
      rcases (step_start pv (c := ⟨req, l, .start⟩) rfl ctxs {}).2 with h | ⟨h, -⟩ <;>
        simp [Call.rank, h]
  | write plugins =>
      cases plugins with
      | nil => simp [Call.step, Call.rank]
      | cons p ps => simp [Call.step, Call.rank]; omega
  | check p ps =>
      simp only [Call.step]
      split <;> simp [Call.rank]
  | done err => simp [Call.step, Call.rank]

theorem agrees_step {ctx0 : ValidationContext} {c : Call} {ctxs : Nat → ValidationContext}
    (h : Agrees pv ctx0 c (ctxs c.ctx)) :
    Agrees pv ctx0 { c with pc := (c.step pv ctxs).2 } ((c.step pv ctxs).1 c.ctx) := by
  obtain ⟨⟨n, hn⟩, hpc⟩ := h
  rcases c with ⟨req, k, pc⟩
  cases pc with
  | start =>
      obtain ⟨hctxs, hdone | ⟨hwrite, hloop⟩⟩ := step_start pv (c := ⟨req, k, .start⟩) rfl ctxs ctx0
      · rw [hctxs, hdone]
        exact ⟨⟨n, hn⟩, rfl⟩
      · rw [hctxs, hwrite]
        exact ⟨⟨n, hn⟩, hloop.symm⟩
  | write plugins =>
      cases plugins with
      | nil => exact ⟨⟨n, hn⟩, hpc⟩
      | cons p ps =>
          refine ⟨⟨p, ?_⟩, ?_, hpc⟩
          · simp only [Call.step, Function.update_same, hn]
          · simp only [Call.step, Function.update_same]
  | check p ps =>
      obtain ⟨hp, hloop⟩ := hpc
      have hctx : ctxs k = { ctx0 with pluginName := p } := by rw [hn, ← hp, hn]
      simp only [Call.step, hctx]
      cases hacc : pv.validatePluginAccess { ctx0 with pluginName := p } <;>
        exact ⟨⟨p, hctx⟩, by simpa [loopError, hacc] using hloop⟩
  | done err => exact ⟨⟨n, hn⟩, hpc⟩

theorem step_getElem?_ne (w : World) {i j : Nat} (h : j ≠ i) :
    (w.step pv i).calls[j]? = w.calls[j]? := by
  unfold World.step
  split
  · exact List.getElem?_set_ne (Ne.symm h)
  · rfl

theorem step_getElem?_self {w : World} {i : Nat} {c : Call} (hc : w.calls[i]? = some c) :
    (w.step pv i).calls[i]? = some { c with pc := (c.step pv w.ctxs).2 } ∧
      (w.step pv i).ctxs = (c.step pv w.ctxs).1 := by
  simp only [World.step, hc, and_true]
  exact List.getElem?_set_self (List.getElem?_eq_some_iff.mp hc).1

theorem step_ctxs_of_ne {w : World} {i k : Nat} (hk : ∀ c ∈ w.calls[i]?, c.ctx ≠ k) :
    (w.step pv i).ctxs k = w.ctxs k := by
  unfold World.step
  split
  · rename_i c hc
    exact Call.step_ctxs_of_ne pv w.ctxs c (Ne.symm (hk c hc))
  · rfl

theorem step_ctx (w : World) (i j : Nat) :
    ((w.step pv i).calls[j]?).map Call.ctx = (w.calls[j]?).map Call.ctx := by
  by_cases hj : j = i
  · subst hj
    cases hc : w.calls[j]? with
    | none => simp [World.step, hc]
    | some c => rw [(step_getElem?_self pv hc).1]; rfl
  · rw [step_getElem?_ne pv w hj]

theorem step_exclusive {w : World} {i : Nat} {k : Nat}
    (hex : ∀ l ≠ i, ∀ d ∈ w.calls[l]?, d.ctx ≠ k) (j : Nat) :
    ∀ l ≠ i, ∀ d ∈ (w.step pv j).calls[l]?, d.ctx ≠ k := fun l hl d hd => by
  have hmap : (w.calls[l]?).map Call.ctx = some d.ctx := by
    rw [← step_ctx pv w j l, Option.mem_def.mp hd]
    rfl
  obtain ⟨e, he, hed⟩ := Option.map_eq_some'.mp hmap
  exact hed ▸ hex l hl e he

/-- Over any schedule, a call whose context no other call holds keeps agreeing with the
decision it gives alone, and each of its own steps brings it one step nearer its return. -/
theorem run_agrees {ctx0 : ValidationContext} (sched : List Nat) :
    ∀ {w : World} {i : Nat} {c : Call}, w.calls[i]? = some c →
      (∀ j ≠ i, ∀ d ∈ w.calls[j]?, d.ctx ≠ c.ctx) → Agrees pv ctx0 c (w.ctxs c.ctx) →
      ∃ d, (w.run pv sched).calls[i]? = some d ∧ d.req = c.req ∧ d.rank ≤ c.rank - sched.count i ∧
        Agrees pv ctx0 d ((w.run pv sched).ctxs c.ctx) := by
  induction sched with
  | nil => exact fun hc _ h => ⟨_, hc, rfl, by simp, h⟩
  | cons j sched ih =>
      intro w i c hc hex h
      by_cases hj : j = i
      · subst hj
        obtain ⟨hc', hctxs⟩ := step_getElem?_self pv hc
        obtain ⟨d, hd, hreq, hrank, hagree⟩ :=
          ih hc' (step_exclusive pv hex j) (by rw [hctxs]; exact agrees_step pv h)
        refine ⟨d, hd, hreq, ?_, hagree⟩
        have := rank_step pv w.ctxs c
        simp only [List.count_cons_self]
        omega
      · have hc' : (w.step pv j).calls[i]? = some c := by rw [step_getElem?_ne pv w (Ne.symm hj), hc]
        have hctx : (w.step pv j).ctxs c.ctx = w.ctxs c.ctx := step_ctxs_of_ne pv (hex j hj)
        obtain ⟨d, hd, hreq, hrank, hagree⟩ := ih hc' (step_exclusive pv hex j) (by rw [hctx]; exact h)
        exact ⟨d, hd, hreq, by simpa [List.count_cons, hj] using hrank, hagree⟩

/-- Calls that run side by side, each over a context that no other call was handed (as
ValidationManager does, building one context per call), each behave as if run alone: a call
returns after at most 2n + 2 of its own steps, n the plugins of its request, whatever the
other calls do in between, and it returns the decision, message included, that it returns
alone with the context as it was handed over. -/
theorem interleaved_calls_sequential {w : World} {i : Nat} {c : Call} (hc : w.calls[i]? = some c)
    (hstart : c.pc = .start) (hex : ∀ j ≠ i, ∀ d ∈ w.calls[j]?, d.ctx ≠ c.ctx) (sched : List Nat) :
    ∃ d, (w.run pv sched).calls[i]? = some d ∧
      (2 * c.req.pluginMap.length + 2 ≤ sched.count i → ∃ err, d.pc = .done err) ∧
      ∀ err, d.pc = .done err → err = pv.validateContainerAdjustment c.req (some (w.ctxs c.ctx)) := by
  have hinit : Agrees pv (w.ctxs c.ctx) c (w.ctxs c.ctx) := by
    refine ⟨⟨(w.ctxs c.ctx).pluginName, rfl⟩, ?_⟩
    rw [hstart]
    trivial
  obtain ⟨d, hd, hreq, hrank, -, hagree⟩ := run_agrees pv sched hc hex hinit
  refine ⟨d, hd, fun hcount => rank_eq_zero ?_, fun err herr => ?_⟩
  · have : c.rank = 2 * c.req.pluginMap.length + 2 := by simp [Call.rank, hstart]
    omega
  · rw [herr, hreq] at hagree
    exact hagree

/-- Two calls from alice's pods in namespace dev, about plugins untrusted and trusted, under
a policy that denies by default and lets alice use only trusted there. -/
def trustedOnly : PolicyBasedValidator :=
  newPolicyBasedValidator
    { defaultDeny := true,
      rules := [⟨["dev"], ["trusted"], [{ kind := "User", name := "alice" }]⟩] } none

def podCall (podName pluginName : String) (ctx : Nat) : Call :=
  { req := { pod := some { name := podName, «namespace» := "dev" }, pluginMap := [pluginName] },
    ctx := ctx, pc := .start }

def twoCalls (shared : Bool) : World :=
  { ctxs := fun _ => { subject := some { kind := "User", name := "alice" }, podNamespace := "dev" },
    calls := [podCall "a" "untrusted" 0, podCall "b" "trusted" (if shared then 0 else 1)] }

theorem interleaved_calls_sequential_two_pods :
    (twoCalls false).calls[0]? = some (podCall "a" "untrusted" 0) ∧
      (podCall "a" "untrusted" 0).pc = .start ∧
      (∀ j ≠ 0, ∀ d ∈ (twoCalls false).calls[j]?, d.ctx ≠ (podCall "a" "untrusted" 0).ctx) ∧
      ∃ d, ((twoCalls false).run trustedOnly [0, 1, 0, 1, 0, 0]).calls[0]? = some d ∧
        (2 * (podCall "a" "untrusted" 0).req.pluginMap.length + 2 ≤ [0, 1, 0, 1, 0, 0].count 0 →
          ∃ err, d.pc = .done err) ∧
        ∀ err, d.pc = .done err → err = trustedOnly.validateContainerAdjustment
          (podCall "a" "untrusted" 0).req (some ((twoCalls false).ctxs (podCall "a" "untrusted" 0).ctx)) :=
  have hex : ∀ j ≠ 0, ∀ d ∈ (twoCalls false).calls[j]?, d.ctx ≠ (podCall "a" "untrusted" 0).ctx := by
    intro j hj d hd
    rcases j with _ | _ | j
    · exact absurd rfl hj
    · cases Option.mem_def.mp hd
      decide
    · simp [twoCalls] at hd
  ⟨rfl, rfl, hex, interleaved_calls_sequential trustedOnly rfl rfl hex _⟩

/-- Calls that share one context do not: call 0 returns nil, admitting plugin untrusted,
where alone it returns the policy's denial, because call 1 wrote its own plugin's name into
the shared context between call 0's write and its check. -/
example :
    ((twoCalls true).run trustedOnly [0, 1, 0, 1, 0, 0]).calls[0]? =
      some { podCall "a" "untrusted" 0 with pc := .done none } ∧
    trustedOnly.validateContainerAdjustment (podCall "a" "untrusted" 0).req
      (some ((twoCalls true).ctxs 0)) ≠ none :=
  ⟨rfl, by decide⟩

end NriPolicy.Interleaving
