import NotifyMe.Phone.LoginActivity

/-!
# `LoginNumber` — which number a login stores

The number stored at the end of a login becomes the database path of every message. It is whatever
`phoneNumber` holds when the sign-in succeeds, and every click overwrites `phoneNumber` with the text of the
field, which by then is usually the one-time code.

`stored_iff` says exactly when the stored number is the verified one: the text at the last click must have
been that number. `typing` computes this text from the events alone. `stored_fails` is the ordinary login with
a typed code.
-/

namespace NotifyMe
namespace LoginNumber

open Reactive

/-- What the user has typed: the text in the field, and the text at the last click. -/
structure Typing where
  text    : String        := ""
  clicked : Option String := none
  deriving DecidableEq, Repr

/-- Only the user changes the text, except that it is emptied for the code. -/
def Typing.event (t : Typing) : LoginEvent → Typing
  | .edit text  => { t with text := text }
  | .click      => { t with clicked := some t.text }
  | .codeSent _ => { t with text := "" }
  | _           => t

def typing (tr : Trace LoginEvent LoginEffect) : Typing := tr.foldl (fun t x => t.event x.1) {}

/-- The fields follow the typing, and every id and credential goes back to a call of `verifyPhoneNumber`. -/
structure Follows (t : Typing) (s : LoginScreen) : Prop where
  text    : s.activity.phone = t.text
  clicked : s.activity.phoneNumber = t.clicked
  issued  : ∀ id, s.activity.mVerificationId = some id → id.verification < s.verifications.length
  signIns : ∀ c ∈ s.signIns, c.verification < s.verifications.length

theorem follows_init : Follows {} {} where
  text    := rfl
  clicked := rfl
  issued  := by simp
  signIns := by simp

section Runs

variable [PhonePattern]

/-- The activity after an event, and the credentials it signs in with. -/
theorem follows_handled {t : Typing} {s : LoginScreen} {e : LoginEvent} {l : LoginActivity}
    {es : List LoginEffect} (h : Follows t s) (hh : s.Handled e l es) :
    l.phone = (t.event e).text ∧ l.phoneNumber = (t.event e).clicked ∧
      (∀ id, l.mVerificationId = some id → id.verification < s.verifications.length) ∧
      ∀ c, LoginEffect.signInWithCredential c ∈ es → c.verification < s.verifications.length := by
  have hclick : some s.activity.phone = some t.text := congrArg some h.text
  cases hh with
  | edit => exact ⟨rfl, h.clicked, h.issued, by simp⟩
  | verify _ hid =>
      refine ⟨h.text, hclick, h.issued, fun c hc => ?_⟩
      -- only a click that confirms a code signs in with the id that is kept
      obtain rfl := LoginEffect.signInWithCredential.inj (List.mem_singleton.mp hc)
      exact h.issued _ hid
  | resend _ | send _ _ | refuse _ _ => exact ⟨h.text, hclick, h.issued, by simp⟩
  | idle _ | resume _ _ _ | stay _ _ _ | failed _ | timeOut _ | signedIn _ | notSignedIn _ =>
      exact ⟨h.text, h.clicked, h.issued, by simp⟩
  | completed hv =>
      refine ⟨h.text, h.clicked, h.issued, fun c hc => ?_⟩
      obtain rfl := LoginEffect.signInWithCredential.inj (List.mem_singleton.mp hc)
      exact hv
  | codeSent hv =>
      refine ⟨rfl, h.clicked, fun id hid => ?_, by simp⟩
      obtain rfl := Option.some.inj hid
      exact hv

theorem follows_step {t : Typing} {s s' : LoginScreen} {e : LoginEvent} {es : List LoginEffect}
    (h : Follows t s) (hs : s.step e = some (s', es)) : Follows (t.event e) s' := by
  obtain ⟨l, ho, hs', hl⟩ := LoginScreen.step_eq_some hs
  obtain ⟨htext, hclicked, hissued, hnew⟩ := follows_handled h (LoginScreen.handled_of_outcome ho)
  obtain ⟨numbers, hv⟩ := LoginScreen.foldl_apply_verifications es
    { s.consume e with activity := l }
  have hcv : (s.consume e).verifications = s.verifications := by cases e <;> rfl
  -- the calls that were made are never taken back
  have hlen : s.verifications.length ≤ s'.verifications.length := by
    rw [hs', hv]
    simp [hcv]
  refine ⟨by rw [hl, htext], by rw [hl, hclicked], fun id hid => ?_, fun c hc => ?_⟩
  · rw [hl] at hid
    exact Nat.lt_of_lt_of_le (hissued id hid) hlen
  · refine Nat.lt_of_lt_of_le ?_ hlen
    rw [hs'] at hc
    rcases LoginScreen.mem_foldl_apply_signIns hc with hc | hc
    · refine h.signIns c ?_
      cases e with
      | signedIn j success => exact List.mem_of_mem_eraseIdx hc
      | _ => exact hc
    · exact hnew c hc

theorem follows_run {tr : Trace LoginEvent LoginEffect} {s : LoginScreen}
    (h : Run loginMachine Guard.free {} tr s) : Follows (typing tr) s := by
  refine h.invariant (I := fun tr s => Follows (typing tr) s) follows_init ?_
  intro tr s e s' es _ hI _ hs
  have ht : typing (tr ++ [(e, es)]) = (typing tr).event e := by simp [typing]
  rw [ht]
  exact follows_step hI hs

/-- **The number that a login stores is the verified one just when it was the text at the last click.** For
    every run and every sign-in under way at its end: the credential goes back to a call for some number, the
    sign-in can succeed, and it then stores that number iff the last click saw it in the field. -/
theorem stored_iff {tr : Trace LoginEvent LoginEffect} {s : LoginScreen} {j : Nat}
    {c : PhoneAuthCredential} (h : Run loginMachine Guard.free {} tr s) (hc : s.signIns[j]? = some c) :
    ∃ number s' es, s.verifications[c.verification]? = some number ∧
      s.step (.signedIn j true) = some (s', es) ∧
      (LoginEffect.login (some number) ∈ es ↔ (typing tr).clicked = some number) := by
  have hf := follows_run h
  have hlt := hf.signIns c (List.mem_of_getElem? hc)
  refine ⟨s.verifications[c.verification],
    (LoginScreen.perform { s with signIns := s.signIns.eraseIdx j }
      (s.activity.onComplete true)).1,
    [.login s.activity.phoneNumber], List.getElem?_eq_getElem hlt, ?_, ?_⟩
  · simp only [LoginScreen.step, LoginScreen.outcome, hc]
    rfl
  · rw [hf.clicked, List.mem_singleton, LoginEffect.login.injEq]
    exact eq_comm

end Runs

/-! ## A login without a typed code and one with it -/

/-- A pattern that decides texts of digits as the real one does, and takes no others. -/
@[reducible] def digits : PhonePattern :=
  ⟨fun s => 3 ≤ s.toList.length && s.toList.all Char.isDigit⟩

/-- The credential is retrieved without a second click. -/
def retrieved : List LoginEvent :=
  [.edit "5551234567", .click, .codeSent 0, .completed 0]

theorem retrieved_enabled :
    ((@loginMachine digits).exec Guard.free {} retrieved).isSome := by decide

def retrievedState : LoginScreen :=
  (((@loginMachine digits).exec Guard.free {} retrieved).get retrieved_enabled).1

/-- The number is stored, because it was the text at the only click. -/
theorem retrieved_stored : ∃ number s' es, retrievedState.verifications[0]? = some number ∧
    @LoginScreen.step digits retrievedState (.signedIn 0 true) = some (s', es) ∧
    (LoginEffect.login (some number) ∈ es ↔ some "5551234567" = some number) :=
  @stored_iff digits _ _ 0 (.retrieved 0) (run_exec_get retrieved_enabled) (by decide)

/-- The code is typed in, and confirmed with the same button. -/
def codeTyped : List LoginEvent :=
  [.edit "5551234567", .click, .codeSent 0, .edit "123456", .click]

theorem codeTyped_enabled :
    ((@loginMachine digits).exec Guard.free {} codeTyped).isSome := by decide

def codeTypedState : LoginScreen :=
  (((@loginMachine digits).exec Guard.free {} codeTyped).get codeTyped_enabled).1

/-- The code is stored as the number. -/
theorem stored_fails : ¬ ∀ (pattern : PhonePattern) (tr : Trace LoginEvent LoginEffect)
    (s s' : LoginScreen) (j : Nat) (c : PhoneAuthCredential) (number : String)
    (es : List LoginEffect), Run (@loginMachine pattern) Guard.free {} tr s →
      s.signIns[j]? = some c → s.verifications[c.verification]? = some number →
        @LoginScreen.step pattern s (.signedIn j true) = some (s', es) →
          LoginEffect.login (some number) ∈ es := by
  intro h
  have hstep : (@LoginScreen.step digits codeTypedState (.signedIn 0 true)).map Prod.snd =
      some [.login (some "123456")] := by decide
  obtain ⟨⟨s', es⟩, hs, rfl⟩ := Option.map_eq_some_iff.mp hstep
  have hin := h digits _ codeTypedState s' 0 (.entered ⟨0⟩ "123456") "5551234567" _
    (run_exec_get codeTyped_enabled) (by decide) (by decide) hs
  exact absurd hin (by decide)

end LoginNumber
end NotifyMe
