import MediaGateway.Network
import MediaGateway.Rtp.Packet

/-!
# Received datagrams

A datagram that arrives is a packet of media, a control packet or nothing that is understood. What
arrives at a socket for control packets is not looked at; at a socket for media the second byte
tells control packets apart. A datagram that is longer than the largest one accepted is cut.
-/

namespace MediaGateway

/-- What a datagram turns out to be. -/
inductive Received where
  /-- Media. -/
  | rtp (packet : Packet)
  /-- A control packet, which is not interpreted. -/
  | rtcp (data : List UInt8)
  /-- Neither. -/
  | invalid
deriving DecidableEq, Repr

namespace Received

/-- The length of the longest datagram that is read whole. -/
def maxDatagram : Nat := 2048

/-- Reads a datagram that arrived on a channel. -/
def classify (channel : Channel) (datagram : List UInt8) : Received :=
  let data := datagram.take maxDatagram
  if channel = .rtcp ∨ Packet.isRtcp data then .rtcp data
  else match Packet.decode data with
    | .ok packet => .rtp packet
    | .error _ => .invalid

end Received

/-- What became of a datagram on its way from one socket to another. -/
structure Delivery where
  /-- Its length when it was sent. -/
  length : Nat
  /-- What it turned out to be, unless it was lost. -/
  received : Option Received
  /-- How many datagrams the sender has sent. -/
  datagrams : Nat
  /-- How many bytes the sender has sent. -/
  octets : Nat
deriving DecidableEq, Repr

/-- Sends datagrams from one socket of a channel to another one, after a number of datagrams and
bytes; the first one that the network refuses ends it. -/
def Network.transfer (n : Network) (channel : Channel) (source destination : SocketAddress) :
    List (List UInt8) → Nat → Nat → Except NetworkError (List Delivery)
  | [], _, _ => .ok []
  | data :: rest, datagrams, octets =>
    let sent (received : Option Received) : Except NetworkError (List Delivery) :=
      let d : Delivery := ⟨data.length, received, datagrams + 1, octets + data.length⟩
      (n.transfer channel source destination rest d.datagrams d.octets).map (d :: ·)
    match n.passage source destination data.length with
    | .refused e => .error e
    | .lost => sent none
    | .delivered => sent (some (.classify channel data))

/-- What a socket reports to the session it belongs to. -/
inductive Arrival where
  /-- Media came in. -/
  | rtp (packet : Packet) (source : SocketAddress)
  /-- A control packet came in. -/
  | rtcp (data : List UInt8) (source : SocketAddress)
  /-- The socket for media is broken. -/
  | rtpFailure (reason : String)
  /-- The socket for control packets is broken. -/
  | rtcpFailure (reason : String)
deriving DecidableEq, Repr

/-- What a session is told about a datagram; of one that is not understood, nothing. -/
def Arrival.ofDatagram? (channel : Channel) (datagram : List UInt8) (source : SocketAddress) :
    Option Arrival :=
  match Received.classify channel datagram with
  | .rtp packet => some (.rtp packet source)
  | .rtcp data => some (.rtcp data source)
  | .invalid => none

end MediaGateway
