import NotifyMe.Reactive.Machine

/-!
# `Reactive.Simulation` — one machine as an implementation of another

A relation between the states of two machines is a forward simulation when every step of the first is matched by a
few steps of the second, or by none, with the same observations. Then every run of the first is a run of the second
to whoever sees the observations only (`Run.simulated`).
-/

namespace Reactive

variable {σ ε ω σ' ε' ω' β : Type*} {M : Machine σ ε ω} {M' : Machine σ' ε' ω'}

/-- What is seen of a trace. -/
def Trace.observed (obs : ω → Option β) (tr : Trace ε ω) : List β := tr.outputs.filterMap obs

@[simp] theorem Trace.observed_append (obs : ω → Option β) (tr tr' : Trace ε ω) :
    Trace.observed obs (tr ++ tr') = Trace.observed obs tr ++ Trace.observed obs tr' := by
  simp [Trace.observed]

@[simp] theorem Trace.observed_singleton (obs : ω → Option β) (e : ε) (o : List ω) :
    Trace.observed obs [(e, o)] = o.filterMap obs := by
  simp [Trace.observed]

/-- A step of the first machine is matched: by no step, or by one. -/
def Matched (M' : Machine σ' ε' ω') (R : σ → σ' → Prop) (obs : ω → Option β) (obs' : ω' → Option β)
    (s' : σ) (o : List ω) (t : σ') : Prop :=
  (R s' t ∧ o.filterMap obs = []) ∨
    ∃ e' t' o', M'.step t e' = some (t', o') ∧ R s' t' ∧ o.filterMap obs = o'.filterMap obs'

/-- **Forward simulation.** If every step of a run is matched, the run is a run of the second machine, with the same
    observations. -/
theorem Run.simulated {R : σ → σ' → Prop} {obs : ω → Option β} {obs' : ω' → Option β} {ok : Guard σ ε ω}
    {s₀ : σ} {t₀ : σ'} (h0 : R s₀ t₀)
    (hstep : ∀ {tr s e s' o t}, Run M ok s₀ tr s → R s t → ok tr s e → M.step s e = some (s', o) →
      Matched M' R obs obs' s' o t)
    {tr : Trace ε ω} {s : σ} (h : Run M ok s₀ tr s) :
    ∃ tr' t, Run M' Guard.free t₀ tr' t ∧ R s t ∧ Trace.observed obs' tr' = Trace.observed obs tr := by
  induction h with
  | nil => exact ⟨[], t₀, Run.nil, h0, rfl⟩
  | snoc hr hok hs ih =>
      obtain ⟨tr', t, hrun, hrel, hobs⟩ := ih
      rcases hstep hr hrel hok hs with ⟨hrel', hnone⟩ | ⟨e', t', o', hs', hrel', hsame⟩
      · exact ⟨tr', t, hrun, hrel', by rw [Trace.observed_append, Trace.observed_singleton, hnone, hobs,
          List.append_nil]⟩
      · refine ⟨tr' ++ [(e', o')], t', hrun.snoc trivial hs', hrel', ?_⟩
        rw [Trace.observed_append, Trace.observed_append, Trace.observed_singleton, Trace.observed_singleton,
          hobs, hsame]

end Reactive
