/-
  Handfast.Core.Bus

  The error type and the broadcast events shared by the daemon's subsystems
  (`crates/core/src/{error,bus}.rs`).
-/
import Handfast.Protocol.Packet

namespace Handfast.Core

inductive Error where
  | io (msg : String)
  | sqlite (msg : String)
  | json (msg : String)
  | other (msg : String)
  deriving DecidableEq, Repr

def Error.text : Error → String
  | io msg => "io: " ++ msg
  | sqlite msg => "sqlite: " ++ msg
  | json msg => "json: " ++ msg
  | other msg => msg

abbrev Result (α : Type) := Except Error α

inductive Event where
  | deviceFound (id name : String)
  | deviceLost (id : String)
  | deviceStateChanged (id state : String)
  | pairingRequest (id name : String)
  | transferProgress (id : String) (bytesDone bytesTotal : Nat)
  | transferAdded (id deviceId direction fileName : String) (total : Nat)
  | transferFinished (id : String)
  | transferFailed (id reason : String)
  | shareReceived (path deviceId : String)
  | notificationReceived (id app title body : String)
  | clipboardUpdated (text : String)
  | logRecord (level msg : String)
  | daemonShutdown
  deriving DecidableEq, Repr

end Handfast.Core
