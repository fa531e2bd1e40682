import NotifyMe.Desktop.ViewController
import NotifyMe.Phone.HandlerSpec

/-!
# `Codec` — the record of the `app` node, written and read

The phone builds the record inside a `try` that catches the null title, but not the null text: that is put
into the map, which then has no such entry once stored. The desktop takes all four entries by forced
unwraps. `agrees_iff` says exactly which posted notifications survive the way; `agrees_fails` is one that
does not.
-/

namespace NotifyMe
namespace Codec

open Service ViewController

/-- **The two programs agree on a record**: the desktop finds all its arguments, and they are what the phone
    put in. -/
def Agrees [CaseMap] [CanonicalForm] (sbn : StatusBarNotification) (object : Record) : Prop :=
  ∃ c, showArgs object = some c ∧ sbn.extras.title = some c.subTitle ∧
    sbn.extras.text = some c.message ∧ c.id = conversationId c.subTitle ∧
    c.appName = sbn.packageName ∧
    c.title = if sbn.packageName = "com.whatsapp" then "WhatsApp" else "Messenger"

/-- The two packages are told apart by Swift's equality too. -/
theorem equivalent_whatsApp [CanonicalForm] (a : App) :
    Equivalent a.packageName "com.whatsapp" ↔ a.packageName = "com.whatsapp" := by
  cases a <;> exact equivalent_ascii (by decide) (by decide)

/-- What the desktop makes of a record depends on the text alone. -/
theorem showArgs_appObject [CanonicalForm] (title : String) (text : Option String) (id : String) (a : App) :
    showArgs (appObject title text id a.packageName) =
      text.map fun message =>
        { title    := if a.packageName = "com.whatsapp" then "WhatsApp" else "Messenger"
          subTitle := title
          message  := message
          id       := id
          appName  := a.packageName } := by
  obtain ⟨hname, hmessage, hid, happ⟩ := appObject_lookup title text id a.packageName
  cases text with
  | none => simp [showArgs, hname, hmessage]
  | some message =>
      refine showArgs_eq_some.mpr ⟨hname, hmessage, hid, happ, ?_⟩
      simp only [equivalent_whatsApp]

section Titles

variable [CaseMap]

/-- A record that is written has the title of the notification, whatever its text. -/
theorem setApp_mem {s : Service} {sbn : StatusBarNotification} {location : String} {object : Record}
    (h : Effect.setApp location object ∈ (handleNotifyNotifications s sbn).effects) :
    ∃ title, ∃ a : App, sbn.extras.title = some title ∧ sbn.packageName = a.packageName ∧
      object = appObject title sbn.extras.text (conversationId title) sbn.packageName := by
  rcases handleNotifyNotifications_spec s sbn with ⟨_, he⟩ | ⟨title, reference, hm⟩
  · rw [he] at h
    exact absurd h (by simp)
  · rw [hm.effects_eq, List.mem_singleton, Effect.setApp.injEq] at h
    obtain ⟨a, ha⟩ := hm.package_eq
    exact ⟨title, a, hm.title_eq, ha, h.2⟩

/-- **The two programs agree on a written record just when the notification had a text.** -/
theorem agrees_iff [CanonicalForm] {s : Service} {sbn : StatusBarNotification} {location : String}
    {object : Record}
    (h : Effect.setApp location object ∈ (handleNotifyNotifications s sbn).effects) :
    Agrees sbn object ↔ sbn.extras.text ≠ none := by
  obtain ⟨title, a, htitle, ha, rfl⟩ := setApp_mem h
  constructor
  · rintro ⟨c, _, _, htext, _⟩
    rw [htext]
    simp
  · intro htext
    obtain ⟨message, hmessage⟩ := Option.ne_none_iff_exists'.mp htext
    have hargs := showArgs_appObject title sbn.extras.text (conversationId title) a
    rw [← ha, hmessage] at hargs
    rw [hmessage]
    exact ⟨_, hargs, htitle, hmessage, rfl, rfl, rfl⟩

end Titles

/-! ## A notification with a text and one without -/

open scoped AsIs

def connected : Service := { reference := some "notifyme/123456789", isNotifyEnabled := true }

/-- A WhatsApp notification that can be answered, with any text or none. -/
def withText (text : Option String) : StatusBarNotification where
  packageName := "com.whatsapp"
  extras      := { title := some "Ann (2 messages)", text := text }
  actions     := [some ⟨some [⟨"reply"⟩], some ⟨1⟩⟩]

theorem hello_agrees :
    Agrees (withText (some "hello")) (appObject "Ann (2 messages)" (some "hello") "ann" "com.whatsapp") ↔
      some "hello" ≠ none :=
  agrees_iff (show Effect.setApp "notifyme/123456789" _ ∈
    (handleNotifyNotifications connected (withText (some "hello"))).effects by decide)

/-- A record is written for a notification without a text, and the desktop fails on it. -/
theorem agrees_fails : ¬ ∀ (s : Service) (sbn : StatusBarNotification) (location : String)
    (object : Record), Effect.setApp location object ∈ (handleNotifyNotifications s sbn).effects →
      Agrees sbn object := by
  intro h
  obtain ⟨c, hargs, _⟩ := h connected (withText none) "notifyme/123456789"
    (appObject "Ann (2 messages)" none "ann" "com.whatsapp") (by decide)
  have hnone := showArgs_appObject "Ann (2 messages)" none "ann" .whatsApp
  exact absurd (hnone.symm.trans hargs) (by simp)

end Codec
end NotifyMe
