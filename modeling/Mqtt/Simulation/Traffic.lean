import Mqtt.Session.Basic

/-!
# Traffic

What each transport was asked to do in a stretch of time, gathered by transport: the packets that
were written to it, in order, and how often it was closed. Writes that failed leave no trace here.
-/

namespace Mqtt

def Io.transport : Io → TransportId
  | wrote transport _ | refused transport _ | closed transport => transport

def Io.packet? : Io → Option Packet
  | wrote _ packet => some packet
  | refused _ _ | closed _ => none

def Io.isClose : Io → Bool
  | closed _ => true
  | wrote _ _ | refused _ _ => false

structure Traffic where
  transport : TransportId
  written : List Packet
  closes : Nat
  deriving DecidableEq

namespace Traffic

def ofTransport (io : List Io) (transport : TransportId) : Traffic :=
  let own := io.filter (·.transport = transport)
  ⟨transport, own.filterMap Io.packet?, own.countP Io.isClose⟩

def isIdle (t : Traffic) : Bool := t.written.isEmpty && t.closes = 0

/-- The traffic of every transport below a bound that had any, by number. -/
def ofIo (io : List Io) (bound : Nat) : List Traffic :=
  ((List.range bound).map (ofTransport io)).filter (!·.isIdle)

end Traffic

end Mqtt
