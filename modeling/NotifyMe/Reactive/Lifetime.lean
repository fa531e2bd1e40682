import NotifyMe.Reactive.Machine
import Mathlib.Algebra.Order.Monoid.Defs
import Mathlib.Algebra.BigOperators.Group.List.Basic

/-!
# `Reactive.Lifetime` — a component that is started again

A system can have a component that is a machine of its own: some steps of the system start it afresh, some
are steps of it, and the others do not concern it.

* `Run.lifetime`: whatever has happened in the system, what the component has done since it was last
  started is a run of its machine. So what is known of all runs of the component is known of it in the
  system.
* `Run.component`: a component that is never started again has done a run of its own.
* `Run.across`: what each step of the component and each new start keep holds over all its lifetimes.
* `Run.account`: what a system spends is covered by what has come in, if each of its steps spends only what
  is left or comes in with the step. Steps that spend nothing can give up what is left.
-/

namespace Reactive

variable {σ ε ω τ ε' ω' : Type*}

/-! ## Since the last start -/

namespace Trace

/-- The part of a trace after the last event of a kind. -/
def sinceLast (starts : ε → Bool) (tr : Trace ε ω) : Trace ε ω :=
  tr.foldl (fun l x => if starts x.1 then [] else l ++ [x]) []

variable {starts : ε → Bool} {tr : Trace ε ω} {e : ε}

theorem sinceLast_start (h : starts e = true) (o : List ω) : sinceLast starts (tr ++ [(e, o)]) = [] := by
  simp [sinceLast, List.foldl_append, h]

theorem sinceLast_snoc (h : starts e = false) (o : List ω) :
    sinceLast starts (tr ++ [(e, o)]) = sinceLast starts tr ++ [(e, o)] := by
  simp [sinceLast, List.foldl_append, h]

end Trace

/-! ## The component -/

/-- What a step of the system is to its component: nothing, or a step of its own. -/
inductive Concerns (M' : Machine τ ε' ω') (t t' : τ) : Option (ε' × List ω') → Prop where
  | nothing (h : t' = t) : Concerns M' t t' none
  | step {e' o'} (h : M'.step t e' = some (t', o')) : Concerns M' t t' (some (e', o'))

/-- **What the component has done since its last start is a run of it.** -/
theorem Run.lifetime {M : Machine σ ε ω} {M' : Machine τ ε' ω'} {ok : Guard σ ε ω} {s₀ : σ}
    {proj : σ → τ} {fresh : τ → Prop} {starts : ε → Bool}
    {part : ε × List ω → Option (ε' × List ω')} (h0 : fresh (proj s₀))
    (hstart : ∀ {s e s' o}, starts e = true → M.step s e = some (s', o) → fresh (proj s'))
    (hstep : ∀ {s e s' o}, starts e = false → M.step s e = some (s', o) →
      Concerns M' (proj s) (proj s') (part (e, o)))
    {tr : Trace ε ω} {s : σ} (h : Run M ok s₀ tr s) :
    ∃ t₀, fresh t₀ ∧ Run M' Guard.free t₀ ((tr.sinceLast starts).filterMap part) (proj s) := by
  induction h with
  | nil => exact ⟨proj s₀, h0, Run.nil⟩
  | @snoc tr s e s' o _ _ hs ih =>
      by_cases he : starts e = true
      · exact ⟨proj s', hstart he hs, by rw [Trace.sinceLast_start he]; exact Run.nil⟩
      · have he' : starts e = false := by simpa using he
        obtain ⟨t₀, hfresh, hrun⟩ := ih
        refine ⟨t₀, hfresh, ?_⟩
        rw [Trace.sinceLast_snoc he', List.filterMap_append]
        have hc := hstep he' hs
        generalize hpart : part (e, o) = x at hc
        cases hc with
        | nothing hsame =>
            rw [hsame, List.filterMap_cons_none hpart, List.filterMap_nil, List.append_nil]
            exact hrun
        | step hs' =>
            rw [List.filterMap_cons_some hpart, List.filterMap_nil]
            exact hrun.snoc trivial hs'

/-- **What a component has done is a run of it**, if it is not started again. -/
theorem Run.component {M : Machine σ ε ω} {M' : Machine τ ε' ω'} {ok : Guard σ ε ω} {s₀ : σ}
    {proj : σ → τ} {part : ε × List ω → Option (ε' × List ω')}
    (hstep : ∀ {s e s' o}, M.step s e = some (s', o) → Concerns M' (proj s) (proj s') (part (e, o)))
    {tr : Trace ε ω} {s : σ} (h : Run M ok s₀ tr s) :
    Run M' Guard.free (proj s₀) (tr.filterMap part) (proj s) := by
  induction h with
  | nil => exact Run.nil
  | @snoc tr s e s' o _ _ hs ih =>
      rw [List.filterMap_append]
      have hc := hstep hs
      generalize hpart : part (e, o) = x at hc
      cases hc with
      | nothing hsame =>
          rw [hsame, List.filterMap_cons_none hpart, List.filterMap_nil, List.append_nil]
          exact ih
      | step hs' =>
          rw [List.filterMap_cons_some hpart, List.filterMap_nil]
          exact ih.snoc trivial hs'

/-- **What steps and new starts keep holds over all lifetimes.** -/
theorem Run.across {M : Machine σ ε ω} {M' : Machine τ ε' ω'} {ok : Guard σ ε ω} {s₀ : σ}
    {proj : σ → τ} {starts : ε → Bool} {part : ε × List ω → Option (ε' × List ω')}
    {I : Trace ε' ω' → τ → Prop} (h0 : I [] (proj s₀))
    (hstart : ∀ {s e s' o}, starts e = true → M.step s e = some (s', o) →
      part (e, o) = none ∧ ∀ tr, I tr (proj s) → I tr (proj s'))
    (hstep : ∀ {s e s' o}, starts e = false → M.step s e = some (s', o) →
      Concerns M' (proj s) (proj s') (part (e, o)))
    (hone : ∀ {tr t e t' o}, I tr t → M'.step t e = some (t', o) → I (tr ++ [(e, o)]) t')
    {tr : Trace ε ω} {s : σ} (h : Run M ok s₀ tr s) : I (tr.filterMap part) (proj s) := by
  induction h with
  | nil => exact h0
  | @snoc tr s e s' o _ _ hs ih =>
      rw [List.filterMap_append]
      by_cases he : starts e = true
      · obtain ⟨hpart, hkeep⟩ := hstart he hs
        rw [List.filterMap_cons_none hpart, List.filterMap_nil, List.append_nil]
        exact hkeep _ ih
      · have hc := hstep (by simpa using he) hs
        generalize hpart : part (e, o) = x at hc
        cases hc with
        | nothing hsame =>
            rw [hsame, List.filterMap_cons_none hpart, List.filterMap_nil, List.append_nil]
            exact ih
        | step hs' =>
            rw [List.filterMap_cons_some hpart, List.filterMap_nil]
            exact hone ih hs'

/-! ## An account over a run -/

section Account

variable {A X : Type*} [AddCommMonoid A] [PartialOrder A] [IsOrderedAddMonoid A]

/-- **No more is spent than comes in.** -/
theorem Run.account {M : Machine σ ε ω} {ok : Guard σ ε ω} {s₀ : σ} {part : ε × List ω → Option X}
    (spent due : X → A) (left : σ → A) (h0 : left s₀ = 0)
    (hnone : ∀ {s e s' o}, M.step s e = some (s', o) → part (e, o) = none → left s' ≤ left s)
    (hone : ∀ {tr s e s' o x}, ok tr s e → M.step s e = some (s', o) → part (e, o) = some x →
      spent x + left s' ≤ left s + due x)
    {tr : Trace ε ω} {s : σ} (h : Run M ok s₀ tr s) :
    ((tr.filterMap part).map spent).sum + left s ≤ ((tr.filterMap part).map due).sum := by
  induction h with
  | nil =>
      rw [h0, add_zero]
      exact le_refl _
  | @snoc tr s e s' o _ hok hs ih =>
      rw [List.filterMap_append]
      cases hpart : part (e, o) with
      | none =>
          rw [List.filterMap_cons_none hpart, List.filterMap_nil, List.append_nil]
          exact (add_le_add_right (hnone hs hpart) _).trans ih
      | some x =>
          have hx := hone hok hs hpart
          rw [List.filterMap_cons_some hpart, List.filterMap_nil, List.map_append, List.map_append,
            List.sum_append, List.sum_append, List.map_singleton, List.map_singleton, List.sum_singleton,
            List.sum_singleton, add_assoc]
          calc _ ≤ ((tr.filterMap part).map spent).sum + (left s + due x) := by gcongr
            _ ≤ _ := by
              rw [← add_assoc]
              gcongr

end Account

end Reactive
