import Mqtt.Packet.Text

/-!
# Options

What the application decides before the first connection: where to connect, and what each CONNECT
says. The spelled forms show that a user name or password is set, never what it is.
-/

namespace Mqtt

structure ConnectOptions where
  /-- The identifier sent in each CONNECT; empty if none was chosen. -/
  clientId : String := ""
  /-- Whether an empty identifier is replaced by a generated one at the first attempt. -/
  generateClientId : Bool := true
  cleanSession : Bool := true
  /-- The keep-alive interval in seconds; zero means none. -/
  keepAlive : UInt16 := 30
  /-- Whether the client pings on its own when nothing was written for an interval. -/
  autoKeepAlive : Bool := true
  username : Option String := none
  password : Option ByteArray := none
  will : Option Will := none
  deriving DecidableEq

namespace ConnectOptions

def connectPacket (o : ConnectOptions) (clientId : String) : Connect where
  cleanSession := o.cleanSession
  keepAlive := o.keepAlive
  clientId := clientId
  will := o.will
  username := o.username
  password := o.password

def spelled (o : ConnectOptions) : String :=
  let secret := Text.quoted Text.redacted
  Text.spellRecord "ConnectOptions"
    [("client_id", Text.quoted o.clientId),
      ("auto_generate_client_id", Text.spellBool o.generateClientId),
      ("clean_session", Text.spellBool o.cleanSession),
      ("keep_alive_interval_seconds", toString o.keepAlive),
      ("auto_keep_alive", Text.spellBool o.autoKeepAlive),
      ("username", Text.spellOption (o.username.map fun _ => secret)),
      ("password", Text.spellOption (o.password.map fun _ => secret)),
      ("will", Text.spellOption (o.will.map Will.spelled))]

end ConnectOptions

def defaultPort : UInt16 := 1883

structure ClientOptions where
  host : String
  port : UInt16 := defaultPort
  connect : ConnectOptions := {}
  deriving DecidableEq

def ClientOptions.spelled (o : ClientOptions) : String :=
  Text.spellRecord "ClientOptions"
    [("host", Text.quoted o.host), ("port", toString o.port),
      ("connect_options", o.connect.spelled)]

end Mqtt
