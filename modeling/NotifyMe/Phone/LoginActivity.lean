import NotifyMe.Reactive.Machine

/-!
# `Phone.LoginActivity` — the login screen

`LoginActivity.java` as a machine. One text field and one variable `phoneNumber` serve for the number and
for the one-time code; the button does one of three things, depending on `state`.

* The activity's methods are functions from its fields to the fields afterwards and what they ask of the
  authentication service.
* Around it, `LoginScreen` keeps what has been asked: the numbers of the `verifyPhoneNumber` calls, by which
  ids, tokens and credentials are told apart, and the sign-ins that have no result yet.
* An event is an input of the user, a call of `onStart`, a callback or a result, in any order. A handler from
  which an exception escapes has no step.
* `LoginScreen.Handled` says once, event by event, what the handlers do; no later proof unfolds one.
-/

namespace NotifyMe

/-- `Patterns.PHONE.matcher(..).matches()`. -/
class PhonePattern where
  matchesPhone : String → Bool

inductive Visibility where
  | visible
  | gone
  deriving DecidableEq, Repr

/-- Issued for a `verifyPhoneNumber` call, which is the only thing known about it. -/
structure VerificationId where
  verification : Nat
  deriving DecidableEq, Repr

structure ForceResendingToken where
  verification : Nat
  deriving DecidableEq, Repr

inductive PhoneAuthCredential where
  /-- Handed over by `onVerificationCompleted`. -/
  | retrieved (verification : Nat)
  /-- `PhoneAuthProvider.getCredential`. -/
  | entered (verificationId : VerificationId) (code : String)
  deriving DecidableEq, Repr

/-- The call of `verifyPhoneNumber` that a credential goes back to. -/
def PhoneAuthCredential.verification : PhoneAuthCredential → Nat
  | .retrieved v  => v
  | .entered id _ => id.verification

/-- `STATE_CODE_SENT`, `STAT_TIME_OUT`, and the initial value. -/
inductive LoginState where
  | initial
  | codeSent
  | timeOut
  deriving DecidableEq, Repr

/-- The fields of the activity and the properties of its views that it reads or sets. -/
structure LoginActivity where
  phone                   : String                     := ""
  loginButton             : Visibility                 := .visible
  progressBar             : Visibility                 := .gone
  mVerificationInProgress : Bool                       := false
  mResendToken            : Option ForceResendingToken := none
  mVerificationId         : Option VerificationId      := none
  phoneNumber             : Option String              := none
  state                   : LoginState                 := .initial
  finished                : Bool                       := false
  deriving DecidableEq, Repr

/-- What the activity asks of the authentication service, and the login it stores. -/
inductive LoginEffect where
  | verifyPhoneNumber (phoneNumber : String) (token : Option ForceResendingToken)
  | signInWithCredential (credential : PhoneAuthCredential)
  | login (phoneNumber : Option String)
  deriving DecidableEq, Repr

namespace LoginActivity

abbrev Result := Option (LoginActivity × List LoginEffect)

/-- The two views while a request is under way. -/
def waiting (l : LoginActivity) : LoginActivity :=
  { l with loginButton := .gone, progressBar := .visible }

def sendOtp (l : LoginActivity) (phoneNumber : String) : LoginActivity × List LoginEffect :=
  ({ l.waiting with mVerificationInProgress := true }, [.verifyPhoneNumber phoneNumber none])

def signInWithCredentials (l : LoginActivity) (credential : PhoneAuthCredential) :
    LoginActivity × List LoginEffect :=
  (l.waiting, [.signInWithCredential credential])

/-- `getCredential` does not take a null id. -/
def verifyOtp (l : LoginActivity) (mVerificationId : Option VerificationId) (code : String) : Result :=
  mVerificationId.map fun id => signInWithCredentials l.waiting (.entered id code)

def resendOtp (l : LoginActivity) (phoneNumber : String) (token : Option ForceResendingToken) :
    LoginActivity × List LoginEffect :=
  (l.waiting, [.verifyPhoneNumber phoneNumber token])

/-- A null `phoneNumber` is a `NullPointerException`. -/
def isPhoneNumberValid [PhonePattern] (l : LoginActivity) : Option Bool :=
  l.phoneNumber.map PhonePattern.matchesPhone

def onClick [PhonePattern] (l : LoginActivity) : Result :=
  let l₁ := { l with phoneNumber := some l.phone }
  match l.state with
  | .codeSent => l₁.verifyOtp l.mVerificationId l.phone
  | .timeOut  => some (l₁.resendOtp l.phone l.mResendToken)
  | .initial  =>
      l₁.isPhoneNumberValid.map fun valid => if valid then l₁.sendOtp l.phone else (l₁, [])

def onStart [PhonePattern] (l : LoginActivity) : Result :=
  if l.mVerificationInProgress then
    l.phoneNumber.map fun phoneNumber =>
      if PhonePattern.matchesPhone phoneNumber then l.sendOtp phoneNumber else (l, [])
  else some (l, [])

def onVerificationCompleted (l : LoginActivity) (credential : PhoneAuthCredential) :
    LoginActivity × List LoginEffect :=
  signInWithCredentials { l with mVerificationInProgress := false } credential

def onVerificationFailed (l : LoginActivity) : LoginActivity :=
  { l with mVerificationInProgress := false, loginButton := .visible, progressBar := .gone }

def onCodeSent (l : LoginActivity) (verificationId : VerificationId) (token : ForceResendingToken) :
    LoginActivity :=
  { l with
    mVerificationId := some verificationId
    mResendToken    := some token
    loginButton     := .visible
    progressBar     := .gone
    state           := .codeSent
    phone           := "" }

def onCodeAutoRetrievalTimeOut (l : LoginActivity) : LoginActivity := { l with state := .timeOut }

/-- The listener of a sign-in: a failed one changes nothing. -/
def onComplete (l : LoginActivity) (success : Bool) : LoginActivity × List LoginEffect :=
  if success then ({ l with finished := true }, [.login l.phoneNumber]) else (l, [])

/-- The Boolean put into the saved state. -/
def onSaveInstanceState (l : LoginActivity) : Bool := l.mVerificationInProgress

/-- A new instance, from a saved state if there is one. -/
def onCreate (savedInstanceState : Option Bool) : LoginActivity :=
  match savedInstanceState with
  | some inProgress => { mVerificationInProgress := inProgress }
  | none            => {}

end LoginActivity

/-! ## The screen as a machine -/

structure LoginScreen where
  activity      : LoginActivity            := {}
  verifications : List String              := []
  signIns       : List PhoneAuthCredential := []
  deriving DecidableEq

inductive LoginEvent where
  | edit (text : String)
  | click
  | start
  /-- The callbacks, each for one of the calls of `verifyPhoneNumber`. -/
  | completed (verification : Nat)
  | failed (verification : Nat)
  | codeSent (verification : Nat)
  | codeAutoRetrievalTimeOut (verification : Nat)
  /-- The `j`-th sign-in under way has a result. -/
  | signedIn (j : Nat) (success : Bool)
  deriving DecidableEq, Repr

namespace LoginScreen

def apply (s : LoginScreen) : LoginEffect → LoginScreen
  | .verifyPhoneNumber number _ => { s with verifications := s.verifications ++ [number] }
  | .signInWithCredential c     => { s with signIns := s.signIns ++ [c] }
  | .login _                    => s

def perform (s : LoginScreen) (r : LoginActivity × List LoginEffect) :
    LoginScreen × List LoginEffect :=
  (r.2.foldl apply { s with activity := r.1 }, r.2)

/-- The outcome of the handler that an event runs. The user reaches the screen until it is finished, and the
    button while it is visible; a callback is for a call that was made. -/
def outcome [PhonePattern] (s : LoginScreen) : LoginEvent → LoginActivity.Result
  | .edit text =>
      if s.activity.finished then none else some ({ s.activity with phone := text }, [])
  | .click =>
      if s.activity.finished ∨ s.activity.loginButton = .gone then none else s.activity.onClick
  | .start =>
      if s.activity.finished then none else s.activity.onStart
  | .completed v =>
      s.verifications[v]?.map fun _ => s.activity.onVerificationCompleted (.retrieved v)
  | .failed v =>
      s.verifications[v]?.map fun _ => (s.activity.onVerificationFailed, [])
  | .codeSent v =>
      s.verifications[v]?.map fun _ => (s.activity.onCodeSent ⟨v⟩ ⟨v⟩, [])
  | .codeAutoRetrievalTimeOut v =>
      s.verifications[v]?.map fun _ => (s.activity.onCodeAutoRetrievalTimeOut, [])
  | .signedIn j success =>
      s.signIns[j]?.map fun _ => s.activity.onComplete success

/-- A result ends its sign-in. -/
def consume (s : LoginScreen) : LoginEvent → LoginScreen
  | .signedIn j _ => { s with signIns := s.signIns.eraseIdx j }
  | _             => s

def step [PhonePattern] (s : LoginScreen) (e : LoginEvent) :
    Option (LoginScreen × List LoginEffect) :=
  (s.outcome e).map (s.consume e).perform

/-! ## What a step does -/

theorem foldl_apply_activity (es : List LoginEffect) (s : LoginScreen) :
    (es.foldl apply s).activity = s.activity := by
  induction es generalizing s with
  | nil => rfl
  | cons e es ih =>
      rw [List.foldl_cons, ih]
      cases e <;> rfl

/-- Calls are only added. -/
theorem foldl_apply_verifications (es : List LoginEffect) (s : LoginScreen) :
    ∃ numbers, (es.foldl apply s).verifications = s.verifications ++ numbers := by
  induction es generalizing s with
  | nil => exact ⟨[], by simp⟩
  | cons e es ih =>
      obtain ⟨numbers, h⟩ := ih (s.apply e)
      cases e with
      | verifyPhoneNumber number token =>
          exact ⟨number :: numbers, by rw [List.foldl_cons, h]; simp [apply]⟩
      | signInWithCredential c => exact ⟨numbers, h⟩
      | login number => exact ⟨numbers, h⟩

/-- A sign-in under way was so before, or is new. -/
theorem mem_foldl_apply_signIns {es : List LoginEffect} {s : LoginScreen} {c : PhoneAuthCredential}
    (h : c ∈ (es.foldl apply s).signIns) :
    c ∈ s.signIns ∨ LoginEffect.signInWithCredential c ∈ es := by
  induction es generalizing s with
  | nil => exact Or.inl h
  | cons e es ih =>
      rw [List.foldl_cons] at h
      rcases ih h with h | h
      · cases e with
        | signInWithCredential c' =>
            rcases List.mem_append.mp h with h | h
            · exact Or.inl h
            · exact Or.inr (by simp [List.mem_singleton.mp h])
        | verifyPhoneNumber number token => exact Or.inl h
        | login number => exact Or.inl h
      · exact Or.inr (List.mem_cons_of_mem e h)

/-- **What a step can do**: a handler's outcome is taken on around the activity. -/
theorem step_eq_some [PhonePattern] {s s' : LoginScreen} {e : LoginEvent} {es : List LoginEffect}
    (h : s.step e = some (s', es)) :
    ∃ l, s.outcome e = some (l, es) ∧ s' = es.foldl apply { s.consume e with activity := l } ∧
      s'.activity = l := by
  obtain ⟨⟨l, fx⟩, hr, hp⟩ := Option.map_eq_some_iff.mp h
  obtain ⟨rfl, rfl⟩ := Prod.mk.inj hp
  exact ⟨l, hr, rfl, foldl_apply_activity _ _⟩

/-- **What the handler of an event does.** -/
inductive Handled [PhonePattern] (s : LoginScreen) :
    LoginEvent → LoginActivity → List LoginEffect → Prop where
  | edit {text} : Handled s (.edit text) { s.activity with phone := text } []
  /-- A click after a code has been sent confirms the code in the field. -/
  | verify {id} (hstate : s.activity.state = .codeSent) (hid : s.activity.mVerificationId = some id) :
      Handled s .click { s.activity.waiting with phoneNumber := some s.activity.phone }
        [.signInWithCredential (.entered id s.activity.phone)]
  /-- A click after the time is up asks for another code, for the number in the field. -/
  | resend (hstate : s.activity.state = .timeOut) :
      Handled s .click { s.activity.waiting with phoneNumber := some s.activity.phone }
        [.verifyPhoneNumber s.activity.phone s.activity.mResendToken]
  | send (hstate : s.activity.state = .initial)
      (hvalid : PhonePattern.matchesPhone s.activity.phone = true) :
      Handled s .click
        { s.activity.waiting with
          phoneNumber             := some s.activity.phone
          mVerificationInProgress := true }
        [.verifyPhoneNumber s.activity.phone none]
  | refuse (hstate : s.activity.state = .initial)
      (hinvalid : PhonePattern.matchesPhone s.activity.phone = false) :
      Handled s .click { s.activity with phoneNumber := some s.activity.phone } []
  | idle (hidle : s.activity.mVerificationInProgress = false) : Handled s .start s.activity []
  /-- A start repeats a request that is in progress, for the number of the last click. -/
  | resume {number} (hprogress : s.activity.mVerificationInProgress = true)
      (hnumber : s.activity.phoneNumber = some number)
      (hvalid : PhonePattern.matchesPhone number = true) :
      Handled s .start { s.activity.waiting with mVerificationInProgress := true }
        [.verifyPhoneNumber number none]
  | stay {number} (hprogress : s.activity.mVerificationInProgress = true)
      (hnumber : s.activity.phoneNumber = some number)
      (hinvalid : PhonePattern.matchesPhone number = false) : Handled s .start s.activity []
  | completed {v} (hv : v < s.verifications.length) :
      Handled s (.completed v) { s.activity.waiting with mVerificationInProgress := false }
        [.signInWithCredential (.retrieved v)]
  | failed {v} (hv : v < s.verifications.length) : Handled s (.failed v) s.activity.onVerificationFailed []
  | codeSent {v} (hv : v < s.verifications.length) :
      Handled s (.codeSent v) (s.activity.onCodeSent ⟨v⟩ ⟨v⟩) []
  | timeOut {v} (hv : v < s.verifications.length) :
      Handled s (.codeAutoRetrievalTimeOut v) s.activity.onCodeAutoRetrievalTimeOut []
  | signedIn {j c} (hc : s.signIns[j]? = some c) :
      Handled s (.signedIn j true) { s.activity with finished := true } [.login s.activity.phoneNumber]
  | notSignedIn {j c} (hc : s.signIns[j]? = some c) : Handled s (.signedIn j false) s.activity []

section Handled

variable [PhonePattern] {s : LoginScreen} {l : LoginActivity} {es : List LoginEffect}

theorem handled_click (h : s.activity.onClick = some (l, es)) : Handled s .click l es := by
  unfold LoginActivity.onClick at h
  dsimp only at h
  split at h
  · rename_i hstate
    obtain ⟨id, hid, hr⟩ := Option.map_eq_some_iff.mp h
    obtain ⟨rfl, rfl⟩ := Prod.mk.inj hr
    exact Handled.verify hstate hid
  · rename_i hstate
    obtain ⟨rfl, rfl⟩ := Prod.mk.inj (Option.some.inj h)
    exact Handled.resend hstate
  · rename_i hstate
    simp only [LoginActivity.isPhoneNumberValid, Option.map_some, Option.some.injEq] at h
    split at h
    · rename_i hvalid
      obtain ⟨rfl, rfl⟩ := Prod.mk.inj h
      exact Handled.send hstate hvalid
    · rename_i hinvalid
      obtain ⟨rfl, rfl⟩ := Prod.mk.inj h
      exact Handled.refuse hstate (by simpa using hinvalid)

theorem handled_start (h : s.activity.onStart = some (l, es)) : Handled s .start l es := by
  unfold LoginActivity.onStart at h
  split at h
  · rename_i hprogress
    obtain ⟨number, hnumber, hr⟩ := Option.map_eq_some_iff.mp h
    split at hr
    · rename_i hvalid
      obtain ⟨rfl, rfl⟩ := Prod.mk.inj hr
      exact Handled.resume hprogress hnumber hvalid
    · rename_i hinvalid
      obtain ⟨rfl, rfl⟩ := Prod.mk.inj hr
      exact Handled.stay hprogress hnumber (by simpa using hinvalid)
  · rename_i hidle
    obtain ⟨rfl, rfl⟩ := Prod.mk.inj (Option.some.inj h)
    exact Handled.idle (by simpa using hidle)

theorem handled_of_outcome {e : LoginEvent} (h : s.outcome e = some (l, es)) : Handled s e l es := by
  cases e with
  | edit text =>
      simp only [outcome, Option.ite_none_left_eq_some] at h
      obtain ⟨rfl, rfl⟩ := Prod.mk.inj (Option.some.inj h.2)
      exact Handled.edit
  | click =>
      simp only [outcome, Option.ite_none_left_eq_some] at h
      exact handled_click h.2
  | start =>
      simp only [outcome, Option.ite_none_left_eq_some] at h
      exact handled_start h.2
  | completed v =>
      obtain ⟨_, hv, hr⟩ := Option.map_eq_some_iff.mp h
      obtain ⟨rfl, rfl⟩ := Prod.mk.inj hr
      exact Handled.completed (List.getElem?_eq_some_iff.mp hv).1
  | failed v =>
      obtain ⟨_, hv, hr⟩ := Option.map_eq_some_iff.mp h
      obtain ⟨rfl, rfl⟩ := Prod.mk.inj hr
      exact Handled.failed (List.getElem?_eq_some_iff.mp hv).1
  | codeSent v =>
      obtain ⟨_, hv, hr⟩ := Option.map_eq_some_iff.mp h
      obtain ⟨rfl, rfl⟩ := Prod.mk.inj hr
      exact Handled.codeSent (List.getElem?_eq_some_iff.mp hv).1
  | codeAutoRetrievalTimeOut v =>
      obtain ⟨_, hv, hr⟩ := Option.map_eq_some_iff.mp h
      obtain ⟨rfl, rfl⟩ := Prod.mk.inj hr
      exact Handled.timeOut (List.getElem?_eq_some_iff.mp hv).1
  | signedIn j success =>
      obtain ⟨c, hc, hr⟩ := Option.map_eq_some_iff.mp h
      cases success with
      | true =>
          obtain ⟨rfl, rfl⟩ := Prod.mk.inj hr
          exact Handled.signedIn hc
      | false =>
          obtain ⟨rfl, rfl⟩ := Prod.mk.inj hr
          exact Handled.notSignedIn hc

/-- **What a step does**: the handler's outcome, and around the activity the calls and the sign-ins it makes. -/
theorem step_handled {s' : LoginScreen} {e : LoginEvent} (h : s.step e = some (s', es)) :
    ∃ l, Handled s e l es ∧ s' = es.foldl apply { s.consume e with activity := l } ∧ s'.activity = l := by
  obtain ⟨l, ho, hs', hl⟩ := step_eq_some h
  exact ⟨l, handled_of_outcome ho, hs', hl⟩

end Handled

end LoginScreen

def loginMachine [PhonePattern] : Reactive.Machine LoginScreen LoginEvent LoginEffect :=
  ⟨LoginScreen.step⟩

end NotifyMe
