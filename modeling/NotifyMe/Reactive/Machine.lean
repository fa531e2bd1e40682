import Mathlib.Data.List.Induction

/-!
# `Reactive.Machine` — guarded runs of a machine with outputs

A reactive program is a partial step function: a state takes an event, and either the event is not
enabled (`none`) or it yields a new state and a list of outputs. This module develops runs of such
machines over arbitrary state, event and output types; nothing here knows any particular program.

* **Runs.** `Run M ok s₀ tr s`: from `s₀` the machine performs the trace `tr` and ends in `s`, and every
  step meets the guard `ok`. A guard sees the trace so far, the state before the step and the event, so
  it can restrict an environment by what has already happened.
* **The invariant rule.** `Run.invariant`, for properties of the trace and the state together.
* **When a run meets a guard.** `Run.guarded_iff`, for a property of traces that is settled step by step.
* **Temporal rules.** `Run.separated` (two `P`-steps have a `C`-step between them) and `Run.since` (a flag
  is up only since some `Q`-step with no `C`-step after it).
* **Every state.** `Always`: a property of every state of a run; `Run.always_iff`, which says exactly when it
  holds all along; and `Run.always_of_end`, which looks back from the last state.
* **Every step.** `EachStep` and `Run.eachStep_iff`: the same for a property of every step.
* **Execution.** `exec` runs a list of events under a decidable guard, so a run can be computed.
-/

namespace Reactive

variable {σ ε ω : Type*}

/-- A trace: the events that were handled, oldest first, each with what its step put out. -/
abbrev Trace (ε ω : Type*) := List (ε × List ω)

/-- A deterministic machine with outputs. An event that is not enabled has no step. -/
structure Machine (σ ε ω : Type*) where
  step : σ → ε → Option (σ × List ω)

/-- A condition on a step: the trace before it, the state before it, and its event. -/
abbrev Guard (σ ε ω : Type*) := Trace ε ω → σ → ε → Prop

/-- The guard every step meets. -/
def Guard.free : Guard σ ε ω := fun _ _ _ => True

/-- Both conditions. -/
def Guard.and (ok ok' : Guard σ ε ω) : Guard σ ε ω := fun tr s e => ok tr s e ∧ ok' tr s e

/-- All outputs of a trace, in order. -/
def Trace.outputs (tr : Trace ε ω) : List ω := tr.flatMap Prod.snd

@[simp] theorem Trace.outputs_nil : Trace.outputs ([] : Trace ε ω) = [] := rfl

@[simp] theorem Trace.outputs_append (tr tr' : Trace ε ω) :
    Trace.outputs (tr ++ tr') = Trace.outputs tr ++ Trace.outputs tr' :=
  List.flatMap_append

@[simp] theorem Trace.outputs_singleton (e : ε) (o : List ω) :
    Trace.outputs [(e, o)] = o := by
  simp [Trace.outputs]

/-- **A run under a guard.** Built back to front, so that an induction over it adds the last step. -/
inductive Run (M : Machine σ ε ω) (ok : Guard σ ε ω) (s₀ : σ) : Trace ε ω → σ → Prop where
  | nil : Run M ok s₀ [] s₀
  | snoc {tr s e s' o} : Run M ok s₀ tr s → ok tr s e → M.step s e = some (s', o) →
      Run M ok s₀ (tr ++ [(e, o)]) s'

variable {M : Machine σ ε ω} {ok ok' : Guard σ ε ω} {s₀ : σ}

namespace Run

/-! ## Taking a run apart -/

theorem nil_iff {s : σ} : Run M ok s₀ [] s ↔ s = s₀ := by
  constructor
  · intro h
    generalize htr : ([] : Trace ε ω) = tr at h
    cases h with
    | nil => rfl
    | snoc _ _ _ => exact absurd htr (by simp)
  · intro h
    subst h
    exact Run.nil

/-- The last step of a run, with the run that leads up to it. -/
theorem snoc_iff {tr : Trace ε ω} {e : ε} {o : List ω} {s' : σ} :
    Run M ok s₀ (tr ++ [(e, o)]) s' ↔
      ∃ s, Run M ok s₀ tr s ∧ ok tr s e ∧ M.step s e = some (s', o) := by
  constructor
  · intro h
    generalize htr : tr ++ [(e, o)] = tr' at h
    cases h with
    | nil => exact absurd htr (by simp)
    | snoc hr hok hs =>
        obtain ⟨h1, h2⟩ := List.append_inj' htr rfl
        simp only [List.cons.injEq, Prod.mk.injEq, and_true] at h2
        obtain ⟨he, ho⟩ := h2
        subst h1; subst he; subst ho
        exact ⟨_, hr, hok, hs⟩
  · rintro ⟨s, hr, hok, hs⟩
    exact Run.snoc hr hok hs

/-- The machine is deterministic: a trace leads to one state, whatever the guards. -/
theorem det {tr : Trace ε ω} {s s' : σ} (h : Run M ok s₀ tr s) (h' : Run M ok' s₀ tr s') :
    s = s' := by
  induction h generalizing s' with
  | nil => exact (nil_iff.mp h').symm
  | snoc _ _ hs ih =>
      obtain ⟨s₁, hr', _, hs'⟩ := snoc_iff.mp h'
      have hpre := ih hr'
      subst hpre
      rw [hs] at hs'
      exact congrArg Prod.fst (Option.some.inj hs')

/-- Whether a run also meets a guard is settled step by step. -/
theorem guarded_snoc {tr : Trace ε ω} {s s' : σ} {e : ε} {o : List ω} (h : Run M ok' s₀ tr s)
    (hs : M.step s e = some (s', o)) :
    Run M ok s₀ (tr ++ [(e, o)]) s' ↔ Run M ok s₀ tr s ∧ ok tr s e := by
  constructor
  · intro hr
    obtain ⟨s₁, hr₁, hok, _⟩ := snoc_iff.mp hr
    obtain rfl := h.det hr₁
    exact ⟨hr₁, hok⟩
  · rintro ⟨hr, hok⟩
    exact Run.snoc hr hok hs

/-- A run under a guard is a run under every weaker guard. -/
theorem weaken (hw : ∀ tr s e, ok tr s e → ok' tr s e) {tr : Trace ε ω} {s : σ}
    (h : Run M ok s₀ tr s) : Run M ok' s₀ tr s := by
  induction h with
  | nil => exact Run.nil
  | snoc _ hok hs ih => exact Run.snoc ih (hw _ _ _ hok) hs

/-- Every prefix of a run is a run. -/
theorem of_append {tr tr' : Trace ε ω} {s : σ} (h : Run M ok s₀ (tr ++ tr') s) :
    ∃ s₁, Run M ok s₀ tr s₁ := by
  induction tr' using List.reverseRecOn generalizing s with
  | nil => exact ⟨s, by simpa using h⟩
  | append_singleton l x ih =>
      rw [← List.append_assoc] at h
      obtain ⟨s₁, hr, _, _⟩ := snoc_iff.mp h
      exact ih hr

/-- A step in the middle of a run, with the run before it and the run through it. -/
theorem split {l r : Trace ε ω} {e : ε} {o : List ω} {s : σ}
    (h : Run M ok s₀ (l ++ (e, o) :: r) s) :
    ∃ s₁ s₂, Run M ok s₀ l s₁ ∧ ok l s₁ e ∧ M.step s₁ e = some (s₂, o) ∧
      Run M ok s₀ (l ++ [(e, o)]) s₂ := by
  have hl : l ++ (e, o) :: r = (l ++ [(e, o)]) ++ r := by simp
  rw [hl] at h
  obtain ⟨s₂, hr⟩ := h.of_append
  obtain ⟨s₁, h1, h2, h3⟩ := snoc_iff.mp hr
  exact ⟨s₁, s₂, h1, h2, h3, hr⟩

/-! ## The invariant rule -/

/-- **Invariants of a run.** What holds at the start and is kept by every step that meets the guard
    holds of every trace and the state it reaches. The run so far is at hand in each step, so one
    invariant can be proved on top of another. -/
theorem invariant {I : Trace ε ω → σ → Prop} (h0 : I [] s₀)
    (hstep : ∀ {tr s e s' o}, Run M ok s₀ tr s → I tr s → ok tr s e → M.step s e = some (s', o) →
      I (tr ++ [(e, o)]) s') {tr : Trace ε ω} {s : σ} (h : Run M ok s₀ tr s) : I tr s := by
  induction h with
  | nil => exact h0
  | snoc hr hok hs ih => exact hstep hr ih hok hs

/-- **Guarded all along.** If a property of traces is settled step by step by `R`, and the guard says of each
    step whether `R` holds of it, given an invariant that the guard keeps, then the trace of a run has the
    property iff the run meets the guard. -/
theorem guarded_iff {I : Trace ε ω → σ → Prop} {Q : Trace ε ω → Prop}
    {R : Trace ε ω → σ → ε → List ω → σ → Prop} (h0 : I [] s₀) (hnil : Q [])
    (hsnoc : ∀ {tr s e s' o}, Run M Guard.free s₀ tr s → M.step s e = some (s', o) →
      (Q (tr ++ [(e, o)]) ↔ Q tr ∧ R tr s e o s'))
    (hstep : ∀ {tr s e s' o}, Run M ok' s₀ tr s → I tr s → M.step s e = some (s', o) →
      (ok tr s e ↔ R tr s e o s') ∧ (ok tr s e → I (tr ++ [(e, o)]) s'))
    {tr : Trace ε ω} {s : σ} (h : Run M ok' s₀ tr s) : Q tr ↔ Run M ok s₀ tr s := by
  have hboth : (Q tr ↔ Run M ok s₀ tr s) ∧ (Run M ok s₀ tr s → I tr s) := by
    induction h with
    | nil => exact ⟨⟨fun _ => Run.nil, fun _ => hnil⟩, fun _ => h0⟩
    | @snoc tr s e s' o hr hok hs ih =>
        have hrun' : Run M ok s₀ (tr ++ [(e, o)]) s' ↔ Run M ok s₀ tr s ∧ ok tr s e :=
          hr.guarded_snoc hs
        rw [hsnoc (hr.weaken fun _ _ _ _ => trivial) hs, ih.1, hrun']
        refine ⟨and_congr_right fun hrun => ?_, fun ⟨hrun, hg⟩ => ?_⟩
        · exact (hstep hr (ih.2 hrun) hs).1.symm
        · exact (hstep hr (ih.2 hrun) hs).2 hg
  exact hboth.1

/-! ## Temporal rules -/

/-- A flag that every step outside `C` keeps is still up after any number of such steps. -/
theorem persist {C : ε × List ω → Prop} {F : σ → Prop}
    (hkeep : ∀ {tr s e s' o}, Run M ok s₀ tr s → ok tr s e → M.step s e = some (s', o) →
      F s → ¬ C (e, o) → F s')
    {l m : Trace ε ω} {s₁ s : σ} (h1 : Run M ok s₀ l s₁) (hF : F s₁)
    (hm : ∀ z ∈ m, ¬ C z) (h : Run M ok s₀ (l ++ m) s) : F s := by
  induction m using List.reverseRecOn generalizing s with
  | nil =>
      rw [List.append_nil] at h
      exact h1.det h ▸ hF
  | append_singleton m x ih =>
      rw [← List.append_assoc] at h
      obtain ⟨s₂, hr, hok, hs⟩ := snoc_iff (e := x.1) (o := x.2) |>.mp h
      have hF2 : F s₂ := ih (fun z hz => hm z (by simp [hz])) hr
      exact hkeep hr hok hs hF2 (hm x (by simp))

/-- **Separation.** If a `P`-step happens only while the flag `F` is down and raises it, and only a
    `C`-step lowers it, then between two `P`-steps there is a `C`-step. -/
theorem separated {P C : ε × List ω → Prop} {F : σ → Prop}
    (hdown : ∀ {tr s e s' o}, Run M ok s₀ tr s → ok tr s e → M.step s e = some (s', o) →
      P (e, o) → ¬ F s)
    (hraise : ∀ {tr s e s' o}, Run M ok s₀ tr s → ok tr s e → M.step s e = some (s', o) →
      P (e, o) → F s')
    (hkeep : ∀ {tr s e s' o}, Run M ok s₀ tr s → ok tr s e → M.step s e = some (s', o) →
      F s → ¬ C (e, o) → F s')
    {l₁ l₂ l₃ : Trace ε ω} {x y : ε × List ω} {s : σ}
    (h : Run M ok s₀ (l₁ ++ x :: (l₂ ++ y :: l₃)) s) (hx : P x) (hy : P y) : ∃ z ∈ l₂, C z := by
  apply Classical.byContradiction
  intro hcon
  have hm : ∀ z ∈ l₂, ¬ C z := fun z hz hc => hcon ⟨z, hz, hc⟩
  obtain ⟨s₁, s₂, hr1, hok1, hs1, hr2⟩ := split (e := x.1) (o := x.2) h
  have hF2 : F s₂ := hraise hr1 hok1 hs1 hx
  have hl : l₁ ++ x :: (l₂ ++ y :: l₃) = (l₁ ++ [x] ++ l₂) ++ y :: l₃ := by simp
  rw [hl] at h
  obtain ⟨s₃, s₄, hr3, hok3, hs3, _⟩ := split (e := y.1) (o := y.2) h
  exact hdown hr3 hok3 hs3 hy (persist hkeep hr2 hF2 hm hr3)

/-- **Since.** If the flag `F` starts down and is up after a step only when that step is a `Q`-step or
    the flag was up and the step is no `C`-step, then `F` is up only with a `Q`-step in the past and no
    `C`-step after it. -/
theorem since {Q C : ε × List ω → Prop} {F : σ → Prop} (h0 : ¬ F s₀)
    (hsrc : ∀ {tr s e s' o}, Run M ok s₀ tr s → ok tr s e → M.step s e = some (s', o) →
      F s' → Q (e, o) ∨ (F s ∧ ¬ C (e, o)))
    {tr : Trace ε ω} {s : σ} (h : Run M ok s₀ tr s) (hF : F s) :
    ∃ l₁ x l₂, tr = l₁ ++ x :: l₂ ∧ Q x ∧ ∀ z ∈ l₂, ¬ C z := by
  induction h with
  | nil => exact absurd hF h0
  | @snoc tr s e s' o hr hok hs ih =>
      rcases hsrc hr hok hs hF with hq | ⟨hFs, hnc⟩
      · exact ⟨tr, (e, o), [], rfl, hq, by simp⟩
      · obtain ⟨l₁, x, l₂, htr, hq, hl⟩ := ih hFs
        refine ⟨l₁, x, l₂ ++ [(e, o)], by simp [htr], hq, ?_⟩
        intro z hz
        rcases List.mem_append.mp hz with hz | hz
        · exact hl z hz
        · rw [List.mem_singleton.mp hz]
          exact hnc

end Run

/-! ## What holds in every state of a run -/

/-- `P` holds in every state of the run: of the trace up to there, and of the state. -/
def Always (M : Machine σ ε ω) (s₀ : σ) (P : Trace ε ω → σ → Prop) (tr : Trace ε ω) : Prop :=
  ∀ tr₁ s, tr₁ <+: tr → Run M Guard.free s₀ tr₁ s → P tr₁ s

namespace Run

variable {P : Trace ε ω → σ → Prop}

theorem always_nil : Always M s₀ P [] ↔ P [] s₀ := by
  constructor
  · exact fun h => h [] s₀ List.prefix_rfl Run.nil
  · intro h tr₁ s hpre hr
    obtain rfl := List.prefix_nil.mp hpre
    rw [nil_iff.mp hr]
    exact h

theorem always_snoc {tr : Trace ε ω} {s' : σ} {x : ε × List ω} (h : Run M ok s₀ (tr ++ [x]) s') :
    Always M s₀ P (tr ++ [x]) ↔ Always M s₀ P tr ∧ P (tr ++ [x]) s' := by
  constructor
  · intro hall
    refine ⟨fun tr₁ s hpre => hall tr₁ s (hpre.trans (List.prefix_append tr [x])), ?_⟩
    exact hall _ s' List.prefix_rfl (h.weaken fun _ _ _ _ => trivial)
  · rintro ⟨hall, hlast⟩ tr₁ s hpre hr
    rcases List.prefix_concat_iff.mp hpre with rfl | hpre
    · obtain rfl := h.det hr
      exact hlast
    · exact hall tr₁ s hpre hr

/-- **When a property holds all along a run.** If the guard says of every step whether the property holds
    after it, given an invariant that the guard keeps, then the property holds in every state of a run iff
    the run meets the guard. -/
theorem always_iff {I : Trace ε ω → σ → Prop} (h0 : I [] s₀) (hP : P [] s₀)
    (hstep : ∀ {tr s e s' o}, Run M ok' s₀ tr s → I tr s → M.step s e = some (s', o) →
      (ok tr s e ↔ P (tr ++ [(e, o)]) s') ∧ (ok tr s e → I (tr ++ [(e, o)]) s'))
    {tr : Trace ε ω} {s : σ} (h : Run M ok' s₀ tr s) : Always M s₀ P tr ↔ Run M ok s₀ tr s :=
  h.guarded_iff h0 (always_nil.mpr hP) (fun hr hs => always_snoc (hr.snoc trivial hs)) hstep

/-- **Looking back.** What holds at the end, and before a step whenever it holds after it, has held all along.
    What is known of every state of the run can be used on the way. -/
theorem always_of_end {Q : Trace ε ω → σ → Prop}
    (hback : ∀ {tr s e s' o}, Run M ok s₀ tr s → P tr s → M.step s e = some (s', o) →
      Q (tr ++ [(e, o)]) s' → Q tr s)
    {tr : Trace ε ω} {s : σ} (h : Run M ok s₀ tr s) (hP : Always M s₀ P tr) (hQ : Q tr s) :
    Always M s₀ Q tr := by
  induction h with
  | nil => exact always_nil.mpr hQ
  | @snoc tr s e s' o hr hok hs ih =>
      obtain ⟨hPtr, _⟩ := (always_snoc (hr.snoc hok hs)).mp hP
      have hPs : P tr s := hPtr tr s List.prefix_rfl (hr.weaken fun _ _ _ _ => trivial)
      exact (always_snoc (hr.snoc hok hs)).mpr ⟨ih hPtr (hback hr hPs hs hQ), hQ⟩

/-- A property that follows from another at every state of a run holds all along it if the other does. -/
theorem always_mono {Q : Trace ε ω → σ → Prop}
    (himp : ∀ {tr s}, Run M Guard.free s₀ tr s → P tr s → Q tr s) {tr : Trace ε ω}
    (h : Always M s₀ P tr) : Always M s₀ Q tr :=
  fun tr₁ s hpre hr => himp hr (h tr₁ s hpre hr)

end Run

/-! ## What holds of every step of a run -/

/-- `P` holds of every step of the run: of the trace and the state before it, its event, what it puts out, and
    the state after it. -/
def EachStep (M : Machine σ ε ω) (s₀ : σ) (P : Trace ε ω → σ → ε → List ω → σ → Prop)
    (tr : Trace ε ω) : Prop :=
  ∀ l e o r s s', tr = l ++ (e, o) :: r → Run M Guard.free s₀ l s → M.step s e = some (s', o) →
    P l s e o s'

namespace Run

variable {P : Trace ε ω → σ → ε → List ω → σ → Prop}

theorem eachStep_nil : EachStep M s₀ P [] := fun _ _ _ _ _ _ htr => absurd htr (by simp)

theorem eachStep_snoc {tr : Trace ε ω} {s s' : σ} {e : ε} {o : List ω} (h : Run M ok s₀ tr s)
    (hs : M.step s e = some (s', o)) :
    EachStep M s₀ P (tr ++ [(e, o)]) ↔ EachStep M s₀ P tr ∧ P tr s e o s' := by
  constructor
  · intro hall
    refine ⟨fun l e₁ o₁ r s₁ s₁' htr => hall l e₁ o₁ (r ++ [(e, o)]) s₁ s₁' (by simp [htr]), ?_⟩
    exact hall tr e o [] s s' rfl (h.weaken fun _ _ _ _ => trivial) hs
  · rintro ⟨hall, hlast⟩ l e₁ o₁ r s₁ s₁' htr hr₁ hs₁
    rcases List.eq_nil_or_concat r with rfl | ⟨r', y, rfl⟩
    · -- the last step: the machine is deterministic
      obtain ⟨rfl, hx⟩ := List.append_inj' htr rfl
      obtain ⟨rfl, rfl⟩ := Prod.mk.inj (List.head_eq_of_cons_eq hx)
      obtain rfl := hr₁.det h
      rw [hs₁] at hs
      obtain ⟨rfl, _⟩ := Prod.mk.inj (Option.some.inj hs)
      exact hlast
    · have hassoc : l ++ (e₁, o₁) :: (r' ++ [y]) = (l ++ (e₁, o₁) :: r') ++ [y] := by simp
      rw [List.concat_eq_append, hassoc] at htr
      exact hall l e₁ o₁ r' s₁ s₁' (List.append_inj' htr rfl).1 hr₁ hs₁

/-- **When a property holds of every step.** If the guard says of each step whether the property holds of it,
    given an invariant of all runs that meet it, then the property holds of every step iff the run meets the
    guard. -/
theorem eachStep_iff {I : Trace ε ω → σ → Prop} (h0 : I [] s₀)
    (hstep : ∀ {tr s e s' o}, Run M ok' s₀ tr s → I tr s → M.step s e = some (s', o) →
      (ok tr s e ↔ P tr s e o s') ∧ (ok tr s e → I (tr ++ [(e, o)]) s'))
    {tr : Trace ε ω} {s : σ} (h : Run M ok' s₀ tr s) : EachStep M s₀ P tr ↔ Run M ok s₀ tr s :=
  h.guarded_iff h0 eachStep_nil eachStep_snoc hstep

end Run

/-! ## Execution -/

section Exec

variable (M) (ok) [∀ tr s e, Decidable (ok tr s e)]

/-- Run a list of events from a state with a trace behind it: the state reached and the trace, or `none`
    if some event is not enabled, or not allowed by the guard, when its turn comes. -/
def Machine.execFrom : Trace ε ω → σ → List ε → Option (σ × Trace ε ω)
  | tr, s, []      => some (s, tr)
  | tr, s, e :: es =>
      if ok tr s e then (M.step s e).bind fun r => execFrom (tr ++ [(e, r.2)]) r.1 es else none

def Machine.exec (s : σ) (es : List ε) : Option (σ × Trace ε ω) := M.execFrom ok [] s es

end Exec

instance (tr : Trace ε ω) (s : σ) (e : ε) :
    Decidable ((Guard.free : Guard σ ε ω) tr s e) := isTrue trivial

instance [∀ tr s e, Decidable (ok tr s e)] [∀ tr s e, Decidable (ok' tr s e)] (tr : Trace ε ω) (s : σ)
    (e : ε) : Decidable (ok.and ok' tr s e) := inferInstanceAs (Decidable (_ ∧ _))

section Exec

variable [∀ tr s e, Decidable (ok tr s e)]

/-- **What `exec` computes is a run.** -/
theorem run_of_execFrom {es : List ε} {tr tr' : Trace ε ω} {s s' : σ} (h : Run M ok s₀ tr s)
    (hex : M.execFrom ok tr s es = some (s', tr')) : Run M ok s₀ tr' s' := by
  induction es generalizing tr s with
  | nil =>
      simp only [Machine.execFrom, Option.some.injEq, Prod.mk.injEq] at hex
      obtain ⟨rfl, rfl⟩ := hex
      exact h
  | cons e es ih =>
      simp only [Machine.execFrom] at hex
      split at hex
      · rename_i hok
        obtain ⟨⟨s₁, o⟩, hs, hex'⟩ := Option.bind_eq_some_iff.mp hex
        exact ih (Run.snoc h hok hs) hex'
      · exact absurd hex (by simp)

/-- The run of a list of events all of which are enabled and allowed in turn. -/
theorem run_exec_get {es : List ε} (h : (M.exec ok s₀ es).isSome) :
    Run M ok s₀ ((M.exec ok s₀ es).get h).2 ((M.exec ok s₀ es).get h).1 :=
  run_of_execFrom Run.nil (Option.some_get h).symm

/-- The result of a step that is enabled. -/
theorem step_get {r : Option (σ × List ω)} (hs : r.isSome) : r = some ((r.get hs).1, (r.get hs).2) :=
  (Option.some_get hs).symm

omit [∀ (tr : Trace ε ω) (s : σ) (e : ε), Decidable (ok tr s e)] in
/-- A run with one more step that is enabled. -/
theorem run_step_get {tr : Trace ε ω} {s : σ} {e : ε} (h : Run M ok s₀ tr s) (hok : ok tr s e)
    (hs : (M.step s e).isSome) :
    Run M ok s₀ (tr ++ [(e, ((M.step s e).get hs).2)]) ((M.step s e).get hs).1 :=
  h.snoc hok (step_get hs)

end Exec

end Reactive
