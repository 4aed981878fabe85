import MediaGateway.Negotiation
import MediaGateway.Network

/-!
# Failures of a media session
-/

namespace MediaGateway

/-- What the payload of a packet is. -/
inductive PayloadKind where
  /-- Audio or video. -/
  | media
  /-- A telephone event. -/
  | telephoneEvent
deriving DecidableEq, Repr

/-- The name of a kind of payload in messages. -/
def PayloadKind.display : PayloadKind → String
  | media => "media"
  | telephoneEvent => "DTMF"

/-- Why an operation of a session failed. -/
inductive SessionError where
  /-- No socket could be bound; the address is the last one tried. -/
  | bind (address : SocketAddress) (cause : NetworkError)
  /-- A datagram could not be sent. -/
  | transport (cause : NetworkError)
  /-- No agreement was reached. -/
  | negotiation (error : NegotiationError)
  /-- The session has no sockets. -/
  | notOpen (media : MediaType)
  /-- It is not known where the other side is. -/
  | noRemotePeer (media : MediaType)
  /-- No format was agreed on for a kind of payload. -/
  | noFormat (media : MediaType) (kind : PayloadKind)
  /-- The socket for media is broken. -/
  | rtpFailure (reason : String)
deriving DecidableEq, Repr

namespace SessionError

/-- The wording of the failure. -/
def message : SessionError → String
  | bind address cause => "failed to bind " ++ address.text ++ ": " ++ cause.message
  | transport cause => "transport error: " ++ cause.message
  | negotiation e => e.message
  | notOpen media => media.display ++ " session is not open"
  | noRemotePeer media => media.display ++ " session has no remote peer yet"
  | noFormat media kind =>
    media.display ++ " session has no negotiated " ++ kind.display ++ " format"
  | rtpFailure reason => "RTP failure: " ++ reason

/-- Whether the two sides came to no agreement. -/
def isNegotiation : SessionError → Bool
  | negotiation _ => true
  | _ => false

end SessionError

end MediaGateway
