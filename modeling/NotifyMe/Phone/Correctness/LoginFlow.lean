import NotifyMe.Phone.Correctness.LoginNumber

/-!
# `LoginFlow` — for which number verification is requested

A flow begins when a number is entered and found valid, and all its requests should be for that number. Three
places request: the first click, the click that asks for another code, and a start that finds a request in
progress. Only the first of them looks at what it sends. The other two take the text that the last click has
seen, which may be a code by then.

`requested_iff` says exactly when every request is for the number of its flow: the text at a click after the time
is up is that number, and so is the text that a start takes for one. `flow` computes the number from the events.
-/

namespace NotifyMe
namespace LoginFlow

open Reactive

/-- What the events make of a flow: the text in the field, whether the screen is still in its initial state, and
    the number that was entered there and found valid. -/
structure Flow where
  text    : String        := ""
  initial : Bool          := true
  number  : Option String := none
  deriving DecidableEq, Repr

section Property

variable [PhonePattern]

def Flow.event (f : Flow) : LoginEvent → Flow
  | .edit text => { f with text := text }
  | .click =>
      if f.initial && PhonePattern.matchesPhone f.text then { f with number := some f.text } else f
  | .codeSent _ => { f with text := "", initial := false }
  | .codeAutoRetrievalTimeOut _ => { f with initial := false }
  | _ => f

def flow (tr : Trace LoginEvent LoginEffect) : Flow := tr.foldl (fun f x => f.event x.1) {}

/-- **Verification is requested for the number of the flow**, and for a valid one. -/
def Requested (tr : Trace LoginEvent LoginEffect) (e : LoginEvent) (es : List LoginEffect) : Prop :=
  ∀ number token, LoginEffect.verifyPhoneNumber number token ∈ es →
    PhonePattern.matchesPhone number = true ∧ ((flow tr).event e).number = some number

/-- **The condition.** A click that asks for another code finds the number of the flow in the field, and a start
    finds a request in progress only if the text of the last click is that number or no number at all. -/
def SameNumber : Guard LoginScreen LoginEvent LoginEffect := fun tr s e =>
  match e with
  | .click => s.activity.state = .timeOut → (flow tr).number = some s.activity.phone
  | .start => s.activity.mVerificationInProgress = true → ∀ number ∈ s.activity.phoneNumber,
      PhonePattern.matchesPhone number = true → (flow tr).number = some number
  | _ => True

instance (tr : Trace LoginEvent LoginEffect) (s : LoginScreen) (e : LoginEvent) :
    Decidable (SameNumber tr s e) :=
  match e with
  | .click | .start => by dsimp only [SameNumber]; infer_instance
  | .edit _ | .completed _ | .failed _ | .codeSent _ | .codeAutoRetrievalTimeOut _ | .signedIn _ _ =>
      inferInstanceAs (Decidable True)

/-! ## The fields follow the flow -/

structure InFlow (f : Flow) (l : LoginActivity) : Prop where
  text    : l.phone = f.text
  initial : l.state = .initial ↔ f.initial = true
  valid   : ∀ number, f.number = some number → PhonePattern.matchesPhone number = true

theorem inFlow_init : InFlow {} {} where
  text    := rfl
  initial := by simp
  valid   := by simp

section Steps

variable {tr : Trace LoginEvent LoginEffect} {s : LoginScreen} {e : LoginEvent} {l : LoginActivity}
  {es : List LoginEffect} {f : Flow}

/-- A click outside of the initial state begins no flow. -/
theorem Flow.click_eq (hi : InFlow f s.activity) (hstate : s.activity.state ≠ .initial) :
    f.event .click = f := by
  have hno : f.initial = false := by
    by_contra h
    exact hstate (hi.initial.mpr (by simpa using h))
  simp [Flow.event, hno]

theorem Flow.click_valid (hi : InFlow f s.activity) (hstate : s.activity.state = .initial)
    (hvalid : PhonePattern.matchesPhone s.activity.phone = true) :
    f.event .click = { f with number := some s.activity.phone } := by
  rw [hi.text] at hvalid ⊢
  simp [Flow.event, hi.initial.mp hstate, hvalid]

theorem Flow.click_invalid (hi : InFlow f s.activity)
    (hinvalid : PhonePattern.matchesPhone s.activity.phone = false) : f.event .click = f := by
  rw [hi.text] at hinvalid
  simp [Flow.event, hinvalid]

theorem inFlow_handled (hi : InFlow f s.activity) (hh : s.Handled e l es) : InFlow (f.event e) l := by
  cases hh with
  | edit => exact ⟨rfl, hi.initial, hi.valid⟩
  | verify hstate _ =>
      rw [Flow.click_eq hi (by simp [hstate])]
      exact ⟨hi.text, hi.initial, hi.valid⟩
  | resend hstate =>
      rw [Flow.click_eq hi (by simp [hstate])]
      exact ⟨hi.text, hi.initial, hi.valid⟩
  | send hstate hvalid =>
      rw [Flow.click_valid hi hstate hvalid]
      refine ⟨hi.text, hi.initial, fun number hn => ?_⟩
      rwa [← Option.some.inj hn]
  | refuse _ hinvalid =>
      rw [Flow.click_invalid hi hinvalid]
      exact ⟨hi.text, hi.initial, hi.valid⟩
  | idle _ | resume _ _ _ | stay _ _ _ | completed _ | failed _ | signedIn _ | notSignedIn _ =>
      exact ⟨hi.text, hi.initial, hi.valid⟩
  | codeSent _ => exact ⟨rfl, by simp [LoginActivity.onCodeSent, Flow.event], hi.valid⟩
  | timeOut _ => exact ⟨hi.text, by simp [LoginActivity.onCodeAutoRetrievalTimeOut, Flow.event], hi.valid⟩

/-- **The three places that request.** -/
theorem sameNumber_iff (hi : InFlow (flow tr) s.activity) (hh : s.Handled e l es) :
    SameNumber tr s e ↔ Requested tr e es := by
  cases hh with
  | send hstate hvalid =>
      -- the click that begins the flow
      refine ⟨fun _ number token hreq => ?_, fun _ ht => absurd ht (by simp [hstate])⟩
      obtain ⟨rfl, rfl⟩ := LoginEffect.verifyPhoneNumber.inj (List.mem_singleton.mp hreq)
      rw [Flow.click_valid hi hstate hvalid]
      exact ⟨hvalid, rfl⟩
  | resend hstate =>
      rw [Requested, Flow.click_eq hi (by simp [hstate])]
      constructor
      · intro hok number token hreq
        obtain ⟨rfl, rfl⟩ := LoginEffect.verifyPhoneNumber.inj (List.mem_singleton.mp hreq)
        exact ⟨hi.valid _ (hok hstate), hok hstate⟩
      · intro hreq _
        exact (hreq _ _ (List.mem_singleton_self _)).2
  | @resume number hprogress hnumber hvalid =>
      constructor
      · intro hok number' token hreq
        obtain ⟨rfl, rfl⟩ := LoginEffect.verifyPhoneNumber.inj (List.mem_singleton.mp hreq)
        exact ⟨hvalid, hok hprogress number' hnumber hvalid⟩
      · intro hreq _ number' hnumber' _
        obtain rfl := Option.some.inj (hnumber.symm.trans hnumber')
        exact (hreq number none (List.mem_singleton_self _)).2
  | verify hstate _ | refuse hstate _ =>
      exact ⟨by simp [Requested], fun _ ht => absurd ht (by simp [hstate])⟩
  | idle hidle => exact ⟨by simp [Requested], fun _ hp => absurd hp (by simp [hidle])⟩
  | stay _ hnumber hinvalid =>
      refine ⟨by simp [Requested], fun _ _ number hn hvalid => ?_⟩
      obtain rfl := Option.some.inj (hnumber.symm.trans hn)
      exact absurd hvalid (by simp [hinvalid])
  | edit | completed _ | failed _ | codeSent _ | timeOut _ | signedIn _ | notSignedIn _ =>
      exact ⟨by simp [Requested], fun _ => trivial⟩

/-- **Verification is only requested for the number of the flow iff the text that is taken for it is that
    number.** -/
theorem requested_iff (h : Run loginMachine Guard.free {} tr s) :
    EachStep loginMachine {} (fun tr _ e es _ => Requested tr e es) tr ↔
      Run loginMachine SameNumber {} tr s := by
  have hinit : InFlow (flow []) ({} : LoginScreen).activity := inFlow_init
  refine h.eachStep_iff (I := fun tr (s : LoginScreen) => InFlow (flow tr) s.activity) hinit ?_
  intro tr s e s' es _ hI hs
  obtain ⟨l, hh, _, hl⟩ := LoginScreen.step_handled hs
  refine ⟨sameNumber_iff hI hh, fun _ => ?_⟩
  have hf : flow (tr ++ [(e, es)]) = (flow tr).event e := by simp [flow]
  rw [hf, hl]
  exact inFlow_handled hI hh

end Steps

end Property

/-! ## A code asked for again, with the number and with the code in the field -/

open LoginNumber (digits)

/-- The number is typed in again when the time is up. -/
def numberAgain : List LoginEvent :=
  [.edit "5551234567", .click, .start, .codeSent 0, .codeAutoRetrievalTimeOut 0, .edit "5551234567", .click]

theorem numberAgain_enabled :
    ((@loginMachine digits).exec Guard.free {} numberAgain).isSome := by decide

theorem numberAgain_requested :
    EachStep (@loginMachine digits) {} (fun tr _ e es _ => @Requested digits tr e es)
        (((@loginMachine digits).exec Guard.free {} numberAgain).get numberAgain_enabled).2 ↔
      Run (@loginMachine digits) (@SameNumber digits) {}
        (((@loginMachine digits).exec Guard.free {} numberAgain).get numberAgain_enabled).2
        (((@loginMachine digits).exec Guard.free {} numberAgain).get numberAgain_enabled).1 :=
  @requested_iff digits _ _ (run_exec_get numberAgain_enabled)

/-- The code is in the field when the time is up. -/
def codeInField : List LoginEvent :=
  [.edit "5551234567", .click, .codeSent 0, .codeAutoRetrievalTimeOut 0, .edit "123456"]

theorem codeInField_enabled :
    ((@loginMachine digits).exec Guard.free {} codeInField).isSome := by decide

def codeInFieldState : LoginScreen :=
  (((@loginMachine digits).exec Guard.free {} codeInField).get codeInField_enabled).1

/-- The click requests verification for the code, which is not the number of the flow. -/
theorem requested_fails : ¬ ∀ (pattern : PhonePattern) (tr : Trace LoginEvent LoginEffect)
    (s : LoginScreen), Run (@loginMachine pattern) Guard.free {} tr s →
      EachStep (@loginMachine pattern) {} (fun tr _ e es _ => @Requested pattern tr e es) tr := by
  intro h
  have hrun : Run (@loginMachine digits) Guard.free {} _ codeInFieldState :=
    run_exec_get codeInField_enabled
  have hstep : ((@loginMachine digits).step codeInFieldState .click).map Prod.snd =
      some [.verifyPhoneNumber "123456" (some ⟨0⟩)] := by decide
  obtain ⟨⟨s', es⟩, hs, rfl⟩ := Option.map_eq_some_iff.mp hstep
  have hreq := h digits _ s' (hrun.snoc trivial hs) _ _ _ [] codeInFieldState s' rfl hrun hs
    "123456" (some ⟨0⟩) (List.mem_singleton_self _)
  exact absurd hreq.2 (by decide)

end LoginFlow
end NotifyMe
