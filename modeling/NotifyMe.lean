import NotifyMe.Reactive.Machine
import NotifyMe.Reactive.Register
import NotifyMe.Reactive.Updates
import NotifyMe.Reactive.Delivery
import NotifyMe.Reactive.Simulation
import NotifyMe.Reactive.Lifetime
import NotifyMe.Text.Canonical
import NotifyMe.Text.ConversationId
import NotifyMe.Text.Regex
import NotifyMe.Text.Split
import NotifyMe.Text.Correctness.Expression
import NotifyMe.Text.Correctness.NormalForm
import NotifyMe.Phone.Machine
import NotifyMe.Phone.Lifecycle
import NotifyMe.Phone.ReplyCall
import NotifyMe.Phone.MainActivity
import NotifyMe.Phone.Switches
import NotifyMe.Phone.Controls
import NotifyMe.Phone.LoginActivity
import NotifyMe.Phone.CustomizationActivity
import NotifyMe.Phone.NotificationAccess
import NotifyMe.Phone.Device
import NotifyMe.Phone.Correctness.BotTarget
import NotifyMe.Phone.Correctness.Toggles
import NotifyMe.Phone.Correctness.Agreement
import NotifyMe.Phone.Correctness.OneMode
import NotifyMe.Phone.Correctness.Greeting
import NotifyMe.Phone.Correctness.FirstContact
import NotifyMe.Phone.Correctness.Answerable
import NotifyMe.Phone.Correctness.Bookkeeping
import NotifyMe.Phone.Correctness.FreshSession
import NotifyMe.Phone.Correctness.Queries
import NotifyMe.Phone.Correctness.LoginNumber
import NotifyMe.Phone.Correctness.LoginFlow
import NotifyMe.Phone.Correctness.LoginStuck
import NotifyMe.Phone.Correctness.LoginRecreated
import NotifyMe.Phone.Correctness.LoggedIn
import NotifyMe.Phone.Correctness.Registered
import NotifyMe.Phone.Correctness.Crash
import NotifyMe.Phone.Correctness.Consent
import NotifyMe.Phone.Correctness.Lifetimes
import NotifyMe.Phone.Correctness.CannedMessage
import NotifyMe.Phone.Correctness.Embedded
import NotifyMe.Phone.Correctness.Unprompted
import NotifyMe.Phone.Correctness.Answered
import NotifyMe.Phone.Correctness.Rotation
import NotifyMe.Desktop.ViewController
import NotifyMe.Desktop.Machine
import NotifyMe.Desktop.Correctness.Accumulation
import NotifyMe.Desktop.Correctness.Unread
import NotifyMe.Pair.Machine
import NotifyMe.Pair.Fifo
import NotifyMe.Pair.Ordered
import NotifyMe.Pair.Correctness.Codec
import NotifyMe.Pair.Correctness.AppChannel
import NotifyMe.Pair.Correctness.ReplyChannel
import NotifyMe.Pair.Correctness.ReplyOnce
import NotifyMe.Pair.Correctness.Isolation
import NotifyMe.Pair.Correctness.TableCover
import NotifyMe.Pair.Correctness.Dismissal
import NotifyMe.Pair.Correctness.Provenance
import NotifyMe.Pair.Correctness.Rest
import NotifyMe.Pair.Correctness.RoundTrip
import NotifyMe.Pair.Correctness.Lossless
import NotifyMe.Pair.Correctness.Strangers
import NotifyMe.Pair.Correctness.EndToEnd
