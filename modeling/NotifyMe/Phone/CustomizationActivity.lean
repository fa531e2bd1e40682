import NotifyMe.Phone.Data

/-!
# `Phone.CustomizationActivity` — the canned message of an app

`CustomizationActivity.java`: the message as it is stored, and a dialog in which it is edited. The intent that starts
the activity says for which app, by a name of its own. For any other name the activity shows and stores nothing.

The activity and the service read the same two entries of the preferences, but each puts in a text of its own for an
entry that is missing.
-/

namespace NotifyMe

/-- What `MainActivity` puts under `"package"`. -/
def App.extra : App → String
  | .whatsApp    => "WhatsApp"
  | .fbMessenger => "FBMessenger"

/-- The tests `packageName.equals("WhatsApp")` and `packageName.equals("FBMessenger")`. -/
def App.ofExtra (packageName : String) : Option App :=
  if packageName = "WhatsApp" then some .whatsApp
  else if packageName = "FBMessenger" then some .fbMessenger
  else none

/-- The entries `assist_wa_msg` and `assist_fb_msg`. -/
abbrev AssistMsgs := App → Option String

/-- `getString`, with the text for a missing entry. -/
def AssistMsgs.getString (msgs : AssistMsgs) (a : App) (defValue : String) : String := (msgs a).getD defValue

/-- `assistMsg` is the text in the dialog, while it is open. -/
structure CustomizationActivity where
  packageName   : String
  assistBotText : String        := ""
  assistMsg     : Option String := none
  deriving DecidableEq, Repr

namespace CustomizationActivity

/-- What is shown where nothing has been stored. -/
def placeholder : String := "Put your message here"

def onCreate (msgs : AssistMsgs) (packageName : String) : CustomizationActivity where
  packageName   := packageName
  assistBotText :=
    match App.ofExtra packageName with
    | some a => msgs.getString a placeholder
    | none   => ""

/-- The dialog opens with the text that is shown. -/
def showAlertDialog (c : CustomizationActivity) : CustomizationActivity :=
  { c with
    assistMsg := some (match App.ofExtra c.packageName with
      | some _ => c.assistBotText
      | none   => "") }

/-- The positive button: the text of the dialog is stored and shown. -/
def save (c : CustomizationActivity) : Option (CustomizationActivity × Option (App × String)) :=
  c.assistMsg.map fun text =>
    ({ c with assistBotText := text, assistMsg := none }, (App.ofExtra c.packageName).map (·, text))

end CustomizationActivity
end NotifyMe
