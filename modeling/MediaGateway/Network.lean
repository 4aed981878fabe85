import MediaGateway.Format
import MediaGateway.Net.Address

/-!
# The network

What a host lets the gateway do: bind sockets and send datagrams. A network says which addresses it
refuses, which address a socket gets and what becomes of a datagram; who is sitting where is decided
by the caller. A socket belongs to a seat, one medium of one connection, and carries either media or
control packets.
-/

namespace MediaGateway

/-- Why the host refuses an operation on a socket. -/
inductive NetworkError where
  | invalidArgument
  | messageTooLong
  | addressFamily
  | addressInUse
  | addressNotAvailable
  | unreachable
deriving DecidableEq, Repr

namespace NetworkError

/-- The number of the error. -/
def code : NetworkError → Nat
  | invalidArgument => 22
  | messageTooLong => 90
  | addressFamily => 97
  | addressInUse => 98
  | addressNotAvailable => 99
  | unreachable => 101

/-- The text of the error. -/
def text : NetworkError → String
  | invalidArgument => "Invalid argument"
  | messageTooLong => "Message too long"
  | addressFamily => "Address family not supported by protocol"
  | addressInUse => "Address already in use"
  | addressNotAvailable => "Cannot assign requested address"
  | unreachable => "Network is unreachable"

/-- The class of the error in diagnostic texts. -/
def debugName : NetworkError → String
  | invalidArgument => "InvalidInput"
  | messageTooLong | addressFamily => "Uncategorized"
  | addressInUse => "AddrInUse"
  | addressNotAvailable => "AddrNotAvailable"
  | unreachable => "NetworkUnreachable"

/-- The wording of the error. -/
def message (e : NetworkError) : String :=
  e.text ++ " (os error " ++ toString e.code ++ ")"

/-- The error in a diagnostic text. -/
def debugText (e : NetworkError) : String :=
  "Os \x7b code: " ++ toString e.code ++ ", kind: " ++ e.debugName ++ ", message: \"" ++ e.text ++
    "\" \x7d"

end NetworkError

/-- What a socket carries. -/
inductive Channel where
  /-- Media, and control packets where they share the port. -/
  | rtp
  /-- Control packets. -/
  | rtcp
deriving DecidableEq, Repr

/-- The name of a channel in diagnostic texts. -/
def Channel.debugName : Channel → String
  | rtp => "Rtp"
  | rtcp => "Rtcp"

/-- One medium of one connection. -/
structure Seat where
  /-- The number of the connection. -/
  connection : UInt32
  /-- The medium. -/
  media : MediaType
deriving DecidableEq, Repr

/-- What becomes of a datagram. -/
inductive Passage where
  /-- The host refuses to send it. -/
  | refused (cause : NetworkError)
  /-- It is sent, but arrives nowhere. -/
  | lost
  /-- It arrives. -/
  | delivered
deriving DecidableEq, Repr

/-- What a host allows. -/
structure Network where
  /-- Why a socket cannot be bound to an address. -/
  refusesBinding : SocketAddress → Option NetworkError
  /-- The address that a socket has after it was bound to an address. -/
  assigned : Seat → Channel → SocketAddress → SocketAddress
  /-- What becomes of a datagram of a length on its way from one address to another. -/
  passage : SocketAddress → SocketAddress → Nat → Passage

namespace Network

/-- The port of a socket in the numbering by seats: ten ports for every connection, and of these two
for each medium. -/
def seatPort (seat : Seat) (channel : Channel) : UInt16 :=
  let media : Nat := if seat.media = .video then 4 else 0
  let control : Nat := if channel = .rtcp then 1 else 0
  UInt16.ofNat (20000 + 10 * seat.connection.toNat + media + control)

/-! ## A host without any link

No interface of the host is up, so it has no address that it knows to be its own, and nothing can be
reached. It does not look at addresses of version 4, whatever they are, before they are bound. Of
version 6 it binds the unspecified address and those of groups.

What is sent to the unspecified address of version 4 means the host itself; it needs no route, is
accepted and gets lost. That works from every socket of version 4, whose address is not used as the
source of a datagram, and from the unspecified addresses of version 6.
-/

/-- Why the host without any link does not bind an address. -/
def isolatedBinding (ip : IpAddress) : Option NetworkError :=
  if !ip.isV6 || ip.embedded?.isSome || ip = .unspecifiedV6 then none
  else if ip.needsInterface then some .invalidArgument
  else if ip.isGroupV6 then none
  else some .addressNotAvailable

/-- What becomes of a datagram to an address of version 4. -/
def isolatedPassageV4 (sourceUnspecified : Bool) (ip : IpAddress) (port : UInt16) (length : Nat) :
    Passage :=
  if 65535 < length then .refused .messageTooLong
  else if port = 0 then .refused .invalidArgument
  else if !sourceUnspecified || ip ≠ .unspecifiedV4 then .refused .unreachable
  else if 65507 < length then .refused .messageTooLong
  else .lost

/-- What becomes of a datagram from a socket of version 6 to an address that is not one of
version 4 in either form. -/
def isolatedPassageV6 (source : IpAddress) (port : UInt16) : Passage :=
  if port = 0 then .refused .invalidArgument
  else if source.embedded?.isSome then .refused .unreachable
  else .refused .addressNotAvailable

/-- The host without any link; ports are numbered by seats. -/
def isolated : Network where
  refusesBinding := fun requested => isolatedBinding requested.ip
  assigned := fun seat channel requested => ⟨requested.ip, seatPort seat channel⟩
  passage := fun source destination length =>
    if !source.ip.isV6 then
      if destination.ip.isV6 && length ≤ 65535 then .refused .addressFamily
      else isolatedPassageV4 true destination.ip destination.port length
    else
      let plain? := if destination.ip.isV6 then destination.ip.embedded? else some destination.ip
      match plain? with
      | none => isolatedPassageV6 source.ip destination.port
      | some ip =>
        if source.ip.isGroupV6 then .refused .unreachable
        else
          let unspecified := source.ip = .unspecifiedV6 ||
            source.ip.embedded? = some .unspecifiedV4
          isolatedPassageV4 unspecified ip destination.port length

end Network

/-- A bound socket. -/
structure BoundSocket where
  /-- The address that was asked for; port zero leaves the choice to the host. -/
  requested : SocketAddress
  /-- The address that the socket has. -/
  address : SocketAddress
deriving DecidableEq, Repr

/-- One interface of a host. -/
structure Host where
  /-- What the host allows. -/
  network : Network
  /-- The address of the interface. -/
  ip : IpAddress
  /-- The addresses that are in use. -/
  taken : List SocketAddress

namespace Host

/-- Binds a socket to a port; an address is bound once at a time, but for port zero. -/
def bind (h : Host) (seat : Seat) (channel : Channel) (port : UInt16) :
    Except NetworkError BoundSocket :=
  let requested : SocketAddress := ⟨h.ip, port⟩
  if port ≠ 0 ∧ requested ∈ h.taken then .error .addressInUse
  else match h.network.refusesBinding requested with
    | some e => .error e
    | none => .ok ⟨requested, h.network.assigned seat channel requested⟩

end Host

end MediaGateway
