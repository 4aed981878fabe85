import MediaGateway.Format.Profile
import MediaGateway.Sdp.Description

/-!
# Agreeing on formats

Each side of an exchange lists formats. The gateway takes the first offered one that it can both
receive and send, and the first offered one of telephone events, with the payload numbers and
parameters of the offer. Without a common format other than telephone events there is no agreement.
-/

namespace MediaGateway

/-- Why an exchange of descriptions comes to no agreement. -/
inductive NegotiationError where
  /-- No common format. -/
  | codecsNotNegotiated (media : MediaType)
  /-- The other side has no section about a medium that has to be there. -/
  | missingMedia (media : MediaType)
  /-- The other side does not say where it expects media. -/
  | noRemoteAddress (media : MediaType)
  /-- The other side wants the media protected and there is no certificate. -/
  | dtlsUnavailable
  /-- The other side's description is refused. -/
  | description (error : SdpError)
deriving DecidableEq, Repr

/-- The wording of the failure. -/
def NegotiationError.message : NegotiationError → String
  | codecsNotNegotiated media => media.display ++ " codecs are not negotiated"
  | missingMedia media => "remote description has no " ++ media.display ++ " media"
  | noRemoteAddress media =>
    "remote " ++ media.display ++ " media has no usable connection address"
  | dtlsUnavailable =>
    "remote requested DTLS-SRTP but no local certificate fingerprint is configured"
  | description e => e.message

/-- What a payload number of a section means: what the section says, or else the profile. -/
def Sdp.MediaSection.resolve? (m : Sdp.MediaSection) (payloadType : UInt8) : Option Format :=
  (m.format? payloadType).or
    (Profile.staticFormat? (m.mediaType.getD .application) payloadType)

/-- The formats that a section offers; payload numbers without a meaning are left out. -/
def Sdp.MediaSection.offered (m : Sdp.MediaSection) : FormatTable :=
  .ofList (m.payloadTypes.filterMap m.resolve?)

/-- What the gateway can receive and send of one medium. -/
structure Negotiator where
  /-- The medium. -/
  media : MediaType
  /-- What it can receive, in order of preference. -/
  receivable : FormatTable
  /-- What it can send. -/
  sendable : FormatTable
deriving DecidableEq, Repr

namespace Negotiator

/-- The table with telephone events at the usual rate, which audio always supports. -/
def withTelephoneEvents (media : MediaType) (t : FormatTable) : FormatTable :=
  if media = .audio ∧ !t.supports Profile.telephoneEvent then t.add Profile.telephoneEvent else t

/-- The negotiator for two capability tables. -/
def make (media : MediaType) (receivable sendable : FormatTable) : Negotiator :=
  { media
    receivable := withTelephoneEvents media receivable
    sendable := withTelephoneEvents media sendable }

/-- The negotiator of a side that can send what it can receive. -/
def symmetric (media : MediaType) (formats : FormatTable) : Negotiator :=
  make media formats formats

/-- What works in both directions. -/
def supported (n : Negotiator) : FormatTable :=
  n.receivable.intersection n.sendable

/-- The scan of an offer: the first acceptable media format and the first acceptable telephone
event format, until both are found. -/
def scan (acceptable : Format → Bool) :
    (media event : Option Format) → List Format → Option Format × Option Format
  | media, event, [] => (media, event)
  | media, event, f :: rest =>
    if !acceptable f then scan acceptable media event rest
    else
      let media' := if f.isTelephoneEvent then media else media.or (some f)
      let event' := if f.isTelephoneEvent then event.or (some f) else event
      if media'.isSome && event'.isSome then (media', event')
      else scan acceptable media' event' rest

/-- Agrees on formats of an offered table. -/
def select (n : Negotiator) (offered : FormatTable) : Except NegotiationError FormatTable :=
  match scan n.supported.supports none none offered.toList with
  | (some media, event) => .ok (.ofList (media :: event.toList))
  | (none, _) => .error (.codecsNotNegotiated n.media)

/-- Agrees on formats of an offered section. -/
def negotiate (n : Negotiator) (m : Sdp.MediaSection) : Except NegotiationError FormatTable :=
  n.select m.offered

end Negotiator

end MediaGateway
