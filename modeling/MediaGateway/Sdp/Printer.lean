import MediaGateway.Sdp.Description

/-!
# Writing session descriptions

A description is written as lines, each ended by a carriage return and a line feed. The order of
the lines is fixed, whatever order they were read in, so the written form is a normal form.
-/

namespace MediaGateway.Sdp

/-- The line of connection data. -/
def ConnectionData.line (c : ConnectionData) : String :=
  "c=IN " ++ c.addressType ++ " " ++ c.address

/-- The lines of the credentials. -/
def IceCredentials.lines (i : IceCredentials) : List String :=
  ["a=ice-ufrag:" ++ i.ufrag, "a=ice-pwd:" ++ i.pwd]

/-- The line that says where control packets are expected. -/
def RtcpAttribute.line (r : RtcpAttribute) : String :=
  match r.address with
  | some address =>
    "a=rtcp:" ++ toString r.port.toNat ++ " IN " ++ addressType address ++ " " ++ address
  | none => "a=rtcp:" ++ toString r.port.toNat

/-- The line of the announced source. -/
def SourceAttribute.line (s : SourceAttribute) : String :=
  match s.cname with
  | some cname => "a=ssrc:" ++ toString s.ssrc.toNat ++ " cname:" ++ cname
  | none => "a=ssrc:" ++ toString s.ssrc.toNat

namespace MediaSection

/-- The line that opens a section. -/
def headLine (m : MediaSection) : String :=
  "m=" ++ m.media ++ " " ++ toString m.port.toNat ++ " " ++ m.protocol ++
    String.join (m.formats.map (" " ++ ·))

/-- The lines about one payload number. -/
def formatLines (m : MediaSection) (payloadType : UInt8) : List String :=
  (m.mapping? payloadType).toList.map (fun f => "a=rtpmap:" ++ f.text) ++
    (m.fmtps.get? payloadType).toList.map fun text =>
      "a=fmtp:" ++ toString payloadType.toNat ++ " " ++ text

/-- The lines of a section. Payload numbers that the opening line does not list are left out. -/
def lines (m : MediaSection) : List String :=
  [m.headLine] ++
  m.connection.toList.map ConnectionData.line ++
  m.rtcp.toList.map RtcpAttribute.line ++
  (if m.rtcpMux then ["a=rtcp-mux"] else []) ++
  m.ice.toList.flatMap IceCredentials.lines ++
  m.candidates.map (fun c => "a=candidate:" ++ c.text) ++
  m.fingerprint.toList.map (fun f => "a=fingerprint:" ++ f.text) ++
  m.setup.toList.map (fun r => "a=setup:" ++ r.token) ++
  m.payloadTypes.flatMap m.formatLines ++
  m.ptime.toList.map (fun n => "a=ptime:" ++ toString n.toNat) ++
  m.direction.toList.map (fun d => "a=" ++ d.token) ++
  m.source.toList.map SourceAttribute.line ++
  m.attributes.map Attribute.line

end MediaSection

/-- The line of the origin. -/
def Origin.line (o : Origin) : String :=
  "o=" ++ o.username ++ " " ++ o.sessionId ++ " " ++ o.sessionVersion ++ " IN " ++
    o.addressType ++ " " ++ o.address

namespace Description

/-- The lines of the session part. -/
def sessionLines (d : Description) : List String :=
  ["v=" ++ toString d.version.toNat, d.origin.line, "s=" ++ d.sessionName] ++
  d.connection.toList.map ConnectionData.line ++
  ["t=" ++ toString d.timing.1.toNat ++ " " ++ toString d.timing.2.toNat] ++
  (if d.iceLite then ["a=ice-lite"] else []) ++
  d.ice.toList.flatMap IceCredentials.lines ++
  d.fingerprint.toList.map (fun f => "a=fingerprint:" ++ f.text) ++
  d.setup.toList.map (fun r => "a=setup:" ++ r.token) ++
  d.direction.toList.map (fun m => "a=" ++ m.token) ++
  d.attributes.map Attribute.line

/-- All lines, without their ends. -/
def lines (d : Description) : List String :=
  d.sessionLines ++ d.media.flatMap MediaSection.lines

/-- The written form. -/
def text (d : Description) : String :=
  String.join (d.lines.map (· ++ "\r\n"))

end Description

end MediaGateway.Sdp
