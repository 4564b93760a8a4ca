/-
  Handfast

  Verification of the Handfast daemon: protocol, plugins, device manager and clients.
-/
import Handfast.Core.Backoff
import Handfast.Core.Teardown
import Handfast.Daemon.Agreement
import Handfast.Daemon.Binding
import Handfast.Daemon.Bookkeeping
import Handfast.Daemon.Cleanup
import Handfast.Daemon.Connections
import Handfast.Daemon.Consent
import Handfast.Daemon.Delivery
import Handfast.Daemon.Discovery
import Handfast.Daemon.Durable
import Handfast.Daemon.EndToEnd
import Handfast.Daemon.Expiry
import Handfast.Daemon.Isolation
import Handfast.Daemon.Names
import Handfast.Daemon.PairingMachine
import Handfast.Daemon.Restart
import Handfast.Daemon.Settling
import Handfast.Daemon.Sources
import Handfast.Daemon.Switches
import Handfast.Daemon.Traffic
import Handfast.Ipc.Hello
import Handfast.Ipc.Oversize
import Handfast.Plugins.Advertise
import Handfast.Plugins.CommandTable
import Handfast.Plugins.Exchange
import Handfast.Protocol.Scanner
import Handfast.Protocol.Tls
import Handfast.Ui.Acks
import Handfast.Ui.PluginRows
import Handfast.Ui.Progress
import Handfast.Ui.Readers
import Handfast.Ui.Thunar
import Handfast.Ui.ToggleKeys
import Handfast.Ui.TuiConverges
import Handfast.Ui.TuiCursor
