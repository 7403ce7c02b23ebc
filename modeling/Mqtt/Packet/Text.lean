import Mqtt.Packet.Basic
import Mqtt.Text.Spelling

/-!
# Packets as text

The line form of each packet, as logs show it. Payloads appear by length only, user names and
passwords by their presence only.
-/

namespace Mqtt

open Text

def Will.text (w : Will) : String :=
  lineRecord "" (lineField "topic" (lineText w.topic) ++ lineField "qos" w.qos.text ++
    lineField "retain" (spellBool w.retain) ++ lineField "payload" (lineBytes w.payload))

/-- The will in spelled form, its payload byte by byte. -/
def Will.spelled (w : Will) : String :=
  spellRecord "WillMessage" [("topic", quoted w.topic), ("payload", spellBytes w.payload),
    ("qos", w.qos.name), ("retain", spellBool w.retain)]

/-- A field that is named only when it holds something. -/
def optionalField {α : Type} (name : String) (value : Option α) (text : α → String) : String :=
  match value with
  | none => ""
  | some a => lineField name (text a)

def lineId (id : UInt16) : String := lineField "packet_id" (toString id)

/-- A list in line form, from the texts of its items. -/
def lineList (name : String) (items : List String) : String :=
  " " ++ name ++ ": [" ++ String.join (items.map (" " ++ ·)) ++ " ]"

def Connect.body (c : Connect) : String :=
  lineField "protocol_name" (lineText Connect.protocolName) ++
    lineField "protocol_level" (toString Connect.protocolLevel) ++
    lineField "keep_alive_interval_seconds" (toString c.keepAlive) ++
    lineField "clean_session" (spellBool c.cleanSession) ++
    lineField "client_id" (lineText c.clientId) ++
    optionalField "username" c.username (fun _ => redacted) ++
    optionalField "password" c.password (fun _ => redacted) ++
    optionalField "will" c.will Will.text

def Publish.body (p : Publish) : String :=
  lineId p.packetId ++ lineField "topic" (lineText p.topic) ++ lineField "qos" p.qos.text ++
    lineField "duplicate" (spellBool p.duplicate) ++ lineField "retain" (spellBool p.retain) ++
    lineField "payload" (lineBytes p.payload)

def Subscription.text (s : Subscription) : String :=
  "(" ++ lineText s.filter ++ ", " ++ s.qos.text ++ ")"

/-- What stands between the braces of a packet's line form. -/
def Packet.body : Packet → String
  | .connect c => c.body
  | .connack c =>
    lineField "session_present" (spellBool c.sessionPresent) ++
      lineField "return_code" c.returnCode.text
  | .publish p => p.body
  | .puback id | .pubrec id | .pubrel id | .pubcomp id | .unsuback id => lineId id
  | .subscribe s =>
    lineId s.packetId ++ lineList "subscriptions" (s.subscriptions.map Subscription.text)
  | .suback s => lineId s.packetId ++ lineList "return_codes" (s.returnCodes.map SubackCode.text)
  | .unsubscribe u => lineId u.packetId ++ lineList "topic_filters" (u.filters.map lineText)
  | .pingreq | .pingresp | .disconnect => ""

/-- A packet in line form; one without fields is its name and a closed pair of braces. -/
def Packet.text (p : Packet) : String :=
  match p with
  | .pingreq | .pingresp | .disconnect => p.kind.packetName ++ " \x7b\x7d"
  | _ => lineRecord (p.kind.packetName ++ " ") p.body

def Packet.summary (p : Packet) : String := p.kind.packetName ++ "\x7b...\x7d"

end Mqtt
