/-!
# Connection status

Where a session stands between no connection and an accepted one.
-/

namespace Mqtt

inductive Status
  | disconnected
  | connecting
  | connected
  | disconnecting
  deriving DecidableEq, Repr, Inhabited

def Status.name : Status → String
  | .disconnected => "Disconnected"
  | .connecting => "Connecting"
  | .connected => "Connected"
  | .disconnecting => "Disconnecting"

end Mqtt
