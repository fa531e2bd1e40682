import NotifyMe.Phone.Data
import Mathlib.Control.Basic

/-!
# `Phone.MainActivity` — the four switches

`MainActivity.java`: the switches, their listeners, and the broadcasts the listeners send to the service. A
listener sets other switches, whose listeners run nested inside it. `setChecked` is the library's: it calls
the listener only when the value changes, and not at all while this switch's own listener is running
(`mBroadcasting`).

The recursion is by fuel, and out of fuel is `none`. Each nested call that runs a listener has one more
switch with `mBroadcasting` set, so five levels are always enough.
-/

namespace NotifyMe

/-- The state of a `CompoundButton`. -/
structure Switch where
  checked       : Bool
  mBroadcasting : Bool := false
  deriving DecidableEq, Repr

/-- `broadcasts` are those sent so far, oldest first. -/
structure MainActivity where
  notifyModeSwitch  : Switch
  assistSwitch      : Switch
  whatsappSwitch    : Switch
  fbMessengerSwitch : Switch
  fromWhatsapp      : Bool           := true
  fromFbMsg         : Bool           := true
  broadcasts        : List Broadcast := []
  deriving DecidableEq, Repr

namespace MainActivity

def switch (m : MainActivity) : Toggle → Switch
  | .assist   => m.assistSwitch
  | .notify   => m.notifyModeSwitch
  | .whatsApp => m.whatsappSwitch
  | .fbMsg    => m.fbMessengerSwitch

def setSwitch (m : MainActivity) (t : Toggle) (s : Switch) : MainActivity :=
  match t with
  | .assist   => { m with assistSwitch := s }
  | .notify   => { m with notifyModeSwitch := s }
  | .whatsApp => { m with whatsappSwitch := s }
  | .fbMsg    => { m with fbMessengerSwitch := s }

abbrev Ui := StateT MainActivity Option

def isChecked (t : Toggle) : Ui Bool := return ((← get).switch t).checked

def sendBroadcast (t : Toggle) (extra : String) : Ui Unit :=
  modify fun m => { m with broadcasts := m.broadcasts ++ [⟨t, extra⟩] }

/-! ## The listeners

Each is given `setChecked`, which calls the listeners again. -/

section Listeners

variable (setChecked : Toggle → Bool → Ui Unit)

def notifyModeChanged (b : Bool) : Ui Unit := do
  if b then
    sendBroadcast .notify "1"
    setChecked .assist false
    setChecked .whatsApp false
    setChecked .fbMsg false
  else
    sendBroadcast .notify "0"

def assistChanged (b : Bool) : Ui Unit := do
  if b then
    sendBroadcast .assist "1"
    setChecked .notify false
    setChecked .whatsApp (← get).fromFbMsg
    setChecked .fbMsg (← get).fromWhatsapp
    modify fun m => { m with fromFbMsg := true, fromWhatsapp := true }
  else
    sendBroadcast .assist "0"
    setChecked .whatsApp false
    setChecked .fbMsg false

/-- The listener of an app's switch: `other` is the switch of the other app, and `latch` keeps the assist
    switch from turning that one on. -/
def appChanged (t other : Toggle) (latch : MainActivity → MainActivity) (b : Bool) : Ui Unit := do
  if b then
    sendBroadcast t "1"
    if !(← isChecked .assist) then
      modify latch
      setChecked .assist true
    setChecked .notify false
  else
    sendBroadcast t "0"
    if !(← isChecked other) then
      setChecked .assist false

def whatsappChanged : Bool → Ui Unit :=
  appChanged setChecked .whatsApp .fbMsg fun m => { m with fromWhatsapp := false }

def fbMessengerChanged : Bool → Ui Unit :=
  appChanged setChecked .fbMsg .whatsApp fun m => { m with fromFbMsg := false }

def onCheckedChanged : Toggle → Bool → Ui Unit
  | .assist   => assistChanged setChecked
  | .notify   => notifyModeChanged setChecked
  | .whatsApp => whatsappChanged setChecked
  | .fbMsg    => fbMessengerChanged setChecked

end Listeners

/-- `CompoundButton.setChecked`. -/
def setChecked : Nat → Toggle → Bool → Ui Unit
  | 0,     _, _ => failure
  | n + 1, t, b => do
      let s := (← get).switch t
      if s.checked ≠ b then
        modify fun m => m.setSwitch t { s with checked := b }
        if !s.mBroadcasting then
          modify fun m => m.setSwitch t { checked := b, mBroadcasting := true }
          onCheckedChanged (setChecked n) t b
          modify fun m => m.setSwitch t { (m.switch t) with mBroadcasting := false }

/-- The user taps a switch. -/
def toggle (t : Toggle) : Ui Unit := do setChecked 5 t (!(← isChecked t))

/-- A sequence of taps. -/
def toggles (ts : List Toggle) : Ui Unit := ts.forM toggle

/-- `onCreate`: the switches are set before they have listeners. -/
def created (prefs : Preferences) : MainActivity where
  notifyModeSwitch  := { checked := prefs.isNotifyOn }
  assistSwitch      := { checked := prefs.isAssistOn }
  whatsappSwitch    := { checked := prefs.isWhatsAppOn }
  fbMessengerSwitch := { checked := prefs.isFbMsgOn }

/-- The activity is created again, and the framework sets its switches to what those of `saved` showed, in
    the order of the layout. By then they have their listeners. -/
def restore (saved : MainActivity) : Ui Unit :=
  [Toggle.notify, .assist, .whatsApp, .fbMsg].forM fun t => setChecked 5 t (saved.switch t).checked

end MainActivity

end NotifyMe
