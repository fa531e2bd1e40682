import NotifyMe.Phone.Correctness.LoginNumber

/-!
# `LoginStuck` — when the login screen can be used

Each request hides the button, and the user can try again only when it is shown. A verification that fails shows
it, and so does a code that has been sent; a sign-in that fails does not.

`usable_iff` says exactly when the button is there whenever nothing is outstanding: no sign-in fails as the last
thing outstanding while the button is hidden. What is outstanding is counted over every order of the callbacks.
-/

namespace NotifyMe
namespace LoginStuck

open Reactive

/-- The request that a callback reports on: that it is completed, has failed, or that its code has been sent. -/
def answers : LoginEvent → Option Nat
  | .completed v => some v
  | .failed v    => some v
  | .codeSent v  => some v
  | _            => none

/-- Some request has been made, and nothing been reported on it. -/
def Outstanding (tr : Trace LoginEvent LoginEffect) (s : LoginScreen) : Prop :=
  ∃ v < s.verifications.length, ∀ x ∈ tr, answers x.1 ≠ some v

/-- **The screen can be used**: with no request and no sign-in outstanding, the button is shown and the progress
    bar is not, unless the activity has finished. -/
def Usable (tr : Trace LoginEvent LoginEffect) (s : LoginScreen) : Prop :=
  ¬ Outstanding tr s → s.signIns = [] → s.activity.finished = false →
    s.activity.loginButton = .visible ∧ s.activity.progressBar = .gone

/-- **The condition.** When a sign-in fails, the button is shown already, or something else is outstanding, or
    the activity has finished. -/
def NotLast : Guard LoginScreen LoginEvent LoginEffect := fun tr s e =>
  match e with
  | .signedIn j false => s.activity.loginButton = .visible ∨ Outstanding tr s ∨
      s.signIns.eraseIdx j ≠ [] ∨ s.activity.finished = true
  | _ => True

instance (tr : Trace LoginEvent LoginEffect) (s : LoginScreen) : Decidable (Outstanding tr s) := by
  unfold Outstanding; infer_instance

instance (tr : Trace LoginEvent LoginEffect) (s : LoginScreen) (e : LoginEvent) :
    Decidable (NotLast tr s e) :=
  match e with
  | .signedIn _ false => by dsimp only [NotLast]; infer_instance
  | .edit _ | .click | .start | .completed _ | .failed _ | .codeSent _ | .codeAutoRetrievalTimeOut _
  | .signedIn _ true => inferInstanceAs (Decidable True)

/-- One of the two views is shown, and a report is on a request that was made. -/
structure Shown (tr : Trace LoginEvent LoginEffect) (s : LoginScreen) : Prop where
  views    : (s.activity.loginButton = .visible ∧ s.activity.progressBar = .gone) ∨
    (s.activity.loginButton = .gone ∧ s.activity.progressBar = .visible)
  reported : ∀ x ∈ tr, ∀ v, answers x.1 = some v → v < s.verifications.length

theorem shown_init : Shown [] {} where
  views    := Or.inl ⟨rfl, rfl⟩
  reported := by simp

section Steps

variable {tr : Trace LoginEvent LoginEffect} {s s' : LoginScreen} {e : LoginEvent} {es : List LoginEffect}

/-- A new request is outstanding. -/
theorem outstanding_new (h : Shown tr s) (he : answers e = none)
    (hv : s.verifications.length < s'.verifications.length) : Outstanding (tr ++ [(e, es)]) s' := by
  refine ⟨s.verifications.length, hv, fun x hx => ?_⟩
  rcases List.mem_append.mp hx with hx | hx
  · intro hrep
    have hlt := h.reported x hx _ hrep
    omega
  · rw [List.mem_singleton.mp hx, he]
    simp

/-- An event that reports on nothing leaves outstanding what was. -/
theorem outstanding_keep (he : answers e = none) (hv : s'.verifications = s.verifications) :
    Outstanding (tr ++ [(e, es)]) s' ↔ Outstanding tr s := by
  unfold Outstanding
  rw [hv]
  refine exists_congr fun v => and_congr_right fun _ => ⟨fun h x hx => h x (by simp [hx]), fun h x hx => ?_⟩
  rcases List.mem_append.mp hx with hx | hx
  · exact h x hx
  · rw [List.mem_singleton.mp hx, he]
    simp

/-- So a step that changes neither the views nor the requests keeps the screen usable. -/
theorem Usable.keep (h : Usable tr s) (he : answers e = none) (hv : s'.verifications = s.verifications)
    (hsign : s'.signIns = s.signIns) (hfin : s'.activity.finished = s.activity.finished)
    (hbutton : s'.activity.loginButton = s.activity.loginButton)
    (hbar : s'.activity.progressBar = s.activity.progressBar) : Usable (tr ++ [(e, es)]) s' := by
  unfold Usable
  rw [outstanding_keep he hv, hsign, hfin, hbutton, hbar]
  exact h

/-- A sign-in that fails changes nothing but that it is no longer outstanding. -/
theorem failure_iff {j : Nat} (hi : Shown tr s) :
    NotLast tr s (.signedIn j false) ↔
      Usable (tr ++ [(.signedIn j false, [])]) { s with signIns := s.signIns.eraseIdx j } := by
  have hkeep : Outstanding (tr ++ [(.signedIn j false, [])]) { s with signIns := s.signIns.eraseIdx j } ↔
      Outstanding tr s := outstanding_keep rfl rfl
  rw [Usable, hkeep]
  constructor
  · rintro (hshown | hout | hsign | hfin) hidle hnone hrun
    · rcases hi.views with hviews | ⟨hgone, _⟩
      · exact hviews
      · exact absurd (hshown.symm.trans hgone) (by simp)
    · exact absurd hout hidle
    · exact absurd hnone hsign
    · exact absurd (hfin.symm.trans hrun) (by simp)
  · intro husable
    show s.activity.loginButton = .visible ∨ Outstanding tr s ∨ s.signIns.eraseIdx j ≠ [] ∨
      s.activity.finished = true
    by_contra hno
    simp only [not_or, not_not, Bool.not_eq_true] at hno
    obtain ⟨hhidden, hidle, hnone, hrun⟩ := hno
    exact hhidden (husable hidle hnone hrun).1

variable [PhonePattern]

/-- Every step shows one of the two views, and every report is on a request. -/
theorem shown_step (h : Shown tr s) (hs : s.step e = some (s', es)) : Shown (tr ++ [(e, es)]) s' := by
  obtain ⟨l, hh, hs', hl⟩ := LoginScreen.step_handled hs
  obtain ⟨numbers, hv⟩ := LoginScreen.foldl_apply_verifications es { s.consume e with activity := l }
  have hcv : (s.consume e).verifications = s.verifications := by cases e <;> rfl
  refine ⟨?_, fun x hx v hrep => ?_⟩
  · rw [hl]
    cases hh with
    | edit | refuse _ _ | idle _ | stay _ _ _ | timeOut _ | signedIn _ | notSignedIn _ => exact h.views
    | verify _ _ | resend _ | send _ _ | resume _ _ _ | completed _ => exact Or.inr ⟨rfl, rfl⟩
    | failed _ | codeSent _ => exact Or.inl ⟨rfl, rfl⟩
  · have hlt : v < s.verifications.length := by
      rcases List.mem_append.mp hx with hx | hx
      · exact h.reported x hx v hrep
      · rw [List.mem_singleton.mp hx] at hrep
        cases hh with
        | completed hmade | failed hmade | codeSent hmade => exact Option.some.inj hrep ▸ hmade
        | _ => exact absurd hrep (by simp [answers])
    rw [hs', hv, hcv, List.length_append]
    omega

/-- **One step keeps the screen usable iff it is not the last failure.** -/
theorem notLast_iff (hi : Shown tr s) (h : Usable tr s) (hs : s.step e = some (s', es)) :
    NotLast tr s e ↔ Usable (tr ++ [(e, es)]) s' := by
  obtain ⟨l, hh, hs', hl⟩ := LoginScreen.step_handled hs
  cases hh with
  | edit | refuse _ _ | idle _ | stay _ _ _ | timeOut _ =>
      subst hs'
      exact ⟨fun _ => h.keep rfl rfl rfl rfl rfl rfl, fun _ => trivial⟩
  | verify _ _ | completed _ =>
      -- a sign-in is under way
      subst hs'
      exact ⟨fun _ _ hnone => absurd hnone (by simp [LoginScreen.apply]), fun _ => trivial⟩
  | resend _ | send _ _ | resume _ _ _ =>
      have hnew : s.verifications.length < s'.verifications.length := by
        subst hs'
        simp [LoginScreen.apply, LoginScreen.consume]
      exact ⟨fun _ hidle => absurd (outstanding_new hi rfl hnew) hidle, fun _ => trivial⟩
  | failed _ | codeSent _ =>
      subst hs'
      exact ⟨fun _ _ _ _ => ⟨rfl, rfl⟩, fun _ => trivial⟩
  | signedIn _ =>
      subst hs'
      exact ⟨fun _ _ _ hfin => absurd hfin (by simp [LoginScreen.apply]), fun _ => trivial⟩
  | notSignedIn _ =>
      subst hs'
      exact failure_iff hi

/-- **The login screen never gets stuck iff no sign-in fails with the button hidden and nothing else
    outstanding.** -/
theorem usable_iff (h : Run loginMachine Guard.free {} tr s) :
    Always loginMachine {} Usable tr ↔ Run loginMachine NotLast {} tr s := by
  have husable : Usable [] {} := fun _ _ _ => ⟨rfl, rfl⟩
  refine h.always_iff (I := fun tr s => Shown tr s ∧ Usable tr s) ⟨shown_init, husable⟩ husable ?_
  intro tr s e s' es _ hI hs
  have hiff := notLast_iff hI.1 hI.2 hs
  exact ⟨hiff, fun hok => ⟨shown_step hI.1 hs, hiff.mp hok⟩⟩

end Steps

/-! ## A sign-in that succeeds, and one that fails -/

open LoginNumber (digits)

/-- The first code does not arrive; the second one is confirmed. -/
def secondTry : List LoginEvent :=
  [.edit "5551234567", .click, .failed 0, .click, .codeSent 1, .edit "123456", .click, .signedIn 0 true]

theorem secondTry_enabled :
    ((@loginMachine digits).exec Guard.free {} secondTry).isSome := by decide

theorem secondTry_usable :
    Always (@loginMachine digits) {} Usable
        (((@loginMachine digits).exec Guard.free {} secondTry).get secondTry_enabled).2 ↔
      Run (@loginMachine digits) NotLast {}
        (((@loginMachine digits).exec Guard.free {} secondTry).get secondTry_enabled).2
        (((@loginMachine digits).exec Guard.free {} secondTry).get secondTry_enabled).1 :=
  @usable_iff _ _ digits (run_exec_get secondTry_enabled)

/-- The code is mistyped. -/
def wrongCode : List LoginEvent :=
  [.edit "5551234567", .click, .codeSent 0, .edit "123457", .click, .signedIn 0 false]

theorem wrongCode_enabled :
    ((@loginMachine digits).exec Guard.free {} wrongCode).isSome := by decide

/-- The button stays hidden, and the progress bar goes on. -/
theorem usable_fails : ¬ ∀ (pattern : PhonePattern) (tr : Trace LoginEvent LoginEffect)
    (s : LoginScreen), Run (@loginMachine pattern) Guard.free {} tr s → Usable tr s := by
  intro h
  have husable := h digits _ _ (run_exec_get wrongCode_enabled) (by decide) (by decide) (by decide)
  exact absurd husable.1 (by decide)

end LoginStuck
end NotifyMe
