import MediaGateway.Sdp.Description

/-!
# Reading session descriptions

A text is read line by line. A line is a letter, an equals sign and a value; lines may end in any
number of carriage returns before the line feed, and empty lines are passed over. Connection and
attribute lines belong to the section opened last, or to the session part before the first section.
The other interpreted lines belong to the session part wherever they stand, the last one of a type
counts, and lines of types without a meaning here are passed over.

The first line that does not have its form decides the error. Only if all lines are in order are
the required ones looked for.
-/

namespace MediaGateway.Sdp

/-- What has been read so far. -/
structure Draft where
  /-- The protocol version. -/
  version : Option UInt8 := none
  /-- Who made the description. -/
  origin : Option Origin := none
  /-- The name of the session. -/
  sessionName : Option String := none
  /-- Start and end of the session. -/
  timing : Option (UInt64 × UInt64) := none
  /-- Connection data of the session part. -/
  connection : Option ConnectionData := none
  /-- Whether the side answers connectivity checks without starting any. -/
  iceLite : Bool := false
  /-- Credentials of the session part. -/
  ice : Option IceCredentials := none
  /-- Fingerprint of the session part. -/
  fingerprint : Option Fingerprint := none
  /-- Role given in the session part. -/
  setup : Option SetupRole := none
  /-- Direction given in the session part. -/
  direction : Option Mode := none
  /-- Other attributes of the session part. -/
  attributes : List Attribute := []
  /-- The sections opened so far, the last one first. -/
  sections : List MediaSection := []
deriving DecidableEq, Repr, Inhabited

namespace Parser

/-- The error that a line does not have the form of its type. -/
def malformed {α : Type} (field : Char) (line : List Char) : Except SdpError α :=
  .error (.malformed field (String.ofList line))

/-- The value, or the error that the line does not have the form of its type. -/
def orMalformed {α : Type} (field : Char) (line : List Char) : Option α → Except SdpError α
  | some a => .ok a
  | none => malformed field line

/-- Reads the value of the line that names the origin. Its network type may be any word. -/
def origin? (value : List Char) : Option Origin :=
  match Text.words value with
  | [username, sessionId, sessionVersion, _, addressType, address] =>
    some {
      username := String.ofList username
      sessionId := String.ofList sessionId
      sessionVersion := String.ofList sessionVersion
      addressType := String.ofList addressType
      address := String.ofList address }
  | _ => none

/-- Reads the value of the line with start and end of the session. -/
def timing? (value : List Char) : Option (UInt64 × UInt64) :=
  match Text.words value with
  | start :: stop :: _ => do return (← Text.readUInt64? start, ← Text.readUInt64? stop)
  | _ => none

/-- Reads the value of a line of connection data. A slash and what follows it, which multicast
addresses may have, are left out. -/
def connection? (value : List Char) : Option ConnectionData :=
  match Text.words value with
  | [['I', 'N'], addressType, address] =>
    some {
      addressType := String.ofList addressType
      address := String.ofList (Text.upTo '/' address) }
  | _ => none

/-- Reads the value of the line that opens a section. A slash behind the port and the count that
follows it are left out. -/
def section? (value : List Char) : Option MediaSection :=
  match Text.words value with
  | media :: port :: protocol :: formats => do
    return {
      media := String.ofList media
      port := ← Text.readUInt16? (Text.upTo '/' port)
      protocol := String.ofList protocol
      formats := formats.map String.ofList }
  | _ => none

/-- Reads what a payload number means: the number, a space, and encoding name, clock rate and
perhaps channel count divided by slashes. -/
def rtpmap? (value : List Char) : Option Format := do
  let (number, encoding) ← Text.cut ' ' value
  match Text.split '/' (Text.trim encoding) with
  | name :: rate :: more =>
    if name.isEmpty then none
    else do
      let clockRate ← Text.readUInt32? (Text.trim rate)
      let channels ← match more with
        | [] => some 1
        | count :: _ => Text.readUInt8? (Text.trim count)
      let payloadType ← Text.readUInt8? (Text.trim number)
      return (Format.make payloadType (String.ofList name) clockRate).withChannels channels
  | _ => none

/-- Reads parameters of a payload number. -/
def fmtp? (value : List Char) : Option (UInt8 × String) := do
  let (number, text) ← Text.cut ' ' value
  return (← Text.readUInt8? (Text.trim number), String.ofList (Text.trim text))

/-- Reads a candidate; what follows its kind is left out. -/
def candidate? (value : List Char) : Option Candidate :=
  match Text.words value with
  | foundation :: component :: transport :: priority :: address :: port :: typ :: kind :: _ =>
    if typ = ['t', 'y', 'p'] then do
      return {
        foundation := String.ofList foundation
        component := ← Text.readUInt8? component
        transport := String.ofList (transport.map Char.toLower)
        priority := ← Text.readUInt32? priority
        address := String.ofList address
        port := ← Text.readUInt16? port
        kind := String.ofList kind }
    else none
  | _ => none

/-- Reads where control packets are expected: the port and, as the fourth word, the address. -/
def rtcp? (value : List Char) : Option RtcpAttribute :=
  match Text.words value with
  | port :: more => do
    return { port := ← Text.readUInt16? port, address := more[2]?.map String.ofList }
  | [] => none

/-- Reads an announced source, with its canonical name if the line gives it. -/
def source? (value : List Char) : Option SourceAttribute :=
  let (id, rest) := match Text.cut ' ' value with
    | some (id, rest) => (id, Text.trim rest)
    | none => (value, [])
  do
    return {
      ssrc := ← Text.readUInt32? (Text.trim id)
      cname := (Text.afterStart "cname:".toList rest).map String.ofList }

/-- Reads the direction that an attribute without a value names in its own spelling. -/
def direction? (name : List Char) (value : Option (List Char)) : Option Mode :=
  if value.isNone && !name.contains '_' then Mode.ofChars? name else none

/-- The credentials read so far, empty ones if there are none. -/
def credentials (ice : Option IceCredentials) : IceCredentials :=
  ice.getD ⟨"", ""⟩

/-- The credentials with another user name fragment. -/
def withUfrag (ice : Option IceCredentials) (value : List Char) : Option IceCredentials :=
  some { credentials ice with ufrag := String.ofList (Text.trim value) }

/-- The credentials with another password. -/
def withPwd (ice : Option IceCredentials) (value : List Char) : Option IceCredentials :=
  some { credentials ice with pwd := String.ofList (Text.trim value) }

/-- Adds what a payload number means, in the place of what it meant before. -/
def addMapping (maps : List Format) (f : Format) : List Format :=
  maps.filter (fun g => g.payloadType ≠ f.payloadType) ++ [f]

/-- The announced source after a further line about one. The first source counts; later lines
about it may only add its canonical name. -/
def mergeSource (known : Option SourceAttribute) (read : SourceAttribute) : SourceAttribute :=
  match known with
  | none => read
  | some s => if s.ssrc = read.ssrc then { s with cname := s.cname.or read.cname } else s

/-- An attribute that is kept as it is. -/
def plain (name : List Char) (value : Option (List Char)) : Attribute :=
  { name := String.ofList name, value := value.map String.ofList }

/-- An attribute line of the session part. -/
def sessionAttribute (d : Draft) (name : List Char) (value : Option (List Char)) :
    Except SdpError Draft :=
  match direction? name value with
  | some mode => .ok { d with direction := some mode }
  | none =>
    match String.ofList name, value with
    | "ice-lite", none => .ok { d with iceLite := true }
    | "ice-ufrag", some v => .ok { d with ice := withUfrag d.ice v }
    | "ice-pwd", some v => .ok { d with ice := withPwd d.ice v }
    | "fingerprint", some v => do return { d with fingerprint := some (← Fingerprint.ofChars v) }
    | "setup", some v => do return { d with setup := some (← SetupRole.ofChars v) }
    | _, _ => .ok { d with attributes := d.attributes ++ [plain name value] }

/-- An attribute line of a section. -/
def sectionAttribute (m : MediaSection) (name : List Char) (value : Option (List Char))
    (line : List Char) : Except SdpError MediaSection :=
  match direction? name value with
  | some mode => .ok { m with direction := some mode }
  | none =>
    match String.ofList name, value with
    | "rtpmap", some v => do
      return { m with rtpmaps := addMapping m.rtpmaps (← orMalformed 'a' line (rtpmap? v)) }
    | "fmtp", some v => do
      let (payloadType, text) ← orMalformed 'a' line (fmtp? v)
      return { m with fmtps := m.fmtps.insert payloadType text }
    | "ptime", some v => do
      return { m with
        ptime := some (← orMalformed 'a' line (Text.readUInt32? (Text.trim v))) }
    | "rtcp", some v => do return { m with rtcp := some (← orMalformed 'a' line (rtcp? v)) }
    | "rtcp-mux", none => .ok { m with rtcpMux := true }
    | "ice-ufrag", some v => .ok { m with ice := withUfrag m.ice v }
    | "ice-pwd", some v => .ok { m with ice := withPwd m.ice v }
    | "candidate", some v => do
      return { m with candidates := m.candidates ++ [← orMalformed 'a' line (candidate? v)] }
    | "fingerprint", some v => do return { m with fingerprint := some (← Fingerprint.ofChars v) }
    | "setup", some v => do return { m with setup := some (← SetupRole.ofChars v) }
    | "ssrc", some v => do
      return { m with source := some (mergeSource m.source (← orMalformed 'a' line (source? v))) }
    | _, _ => .ok { m with attributes := m.attributes ++ [plain name value] }

/-- An attribute line. -/
def attributeLine (d : Draft) (value line : List Char) : Except SdpError Draft :=
  let (name, arg) := match Text.cut ':' value with
    | some (name, arg) => (name, some arg)
    | none => (value, none)
  match d.sections with
  | [] => sessionAttribute d name arg
  | m :: earlier => do
    return { d with sections := (← sectionAttribute m name arg line) :: earlier }

/-- A line of connection data. -/
def connectionLine (d : Draft) (value line : List Char) : Except SdpError Draft := do
  let c ← orMalformed 'c' line (connection? value)
  match d.sections with
  | [] => return { d with connection := some c }
  | m :: earlier => return { d with sections := { m with connection := some c } :: earlier }

/-- A line of type `kind`. -/
def typedLine (d : Draft) (kind : Char) (value line : List Char) : Except SdpError Draft :=
  match kind with
  | 'v' => do
    return { d with version := some (← orMalformed 'v' line (Text.readUInt8? (Text.trim value))) }
  | 'o' => do return { d with origin := some (← orMalformed 'o' line (origin? value)) }
  | 's' => .ok { d with sessionName := some (String.ofList value) }
  | 't' => do return { d with timing := some (← orMalformed 't' line (timing? value)) }
  | 'm' => do return { d with sections := (← orMalformed 'm' line (section? value)) :: d.sections }
  | 'c' => connectionLine d value line
  | 'a' => attributeLine d value line
  | _ => .ok d

/-- Reads one line that is not empty. Its type is an ASCII character. -/
def line (d : Draft) : List Char → Except SdpError Draft
  | kind :: '=' :: value =>
    let whole := kind :: '=' :: value
    if kind.toNat < 128 then typedLine d kind value whole else malformed kind whole
  | kind :: rest => malformed kind (kind :: rest)
  | [] => .ok d

/-- The lines of a text without their ends and without the empty ones. -/
def linesOf (text : List Char) : List (List Char) :=
  ((Text.split '\n' text).map (Text.dropTrailing (· == '\r'))).filter (!·.isEmpty)

/-- The description, if no required line is missing. -/
def finish (d : Draft) : Except SdpError Description :=
  match d.version, d.origin, d.sessionName, d.timing with
  | some version, some origin, some sessionName, some timing =>
    .ok {
      version, origin, sessionName, timing
      connection := d.connection
      iceLite := d.iceLite
      ice := d.ice
      fingerprint := d.fingerprint
      setup := d.setup
      direction := d.direction
      attributes := d.attributes
      media := d.sections.reverse }
  | none, _, _, _ => .error (.missingField 'v')
  | _, none, _, _ => .error (.missingField 'o')
  | _, _, none, _ => .error (.missingField 's')
  | _, _, _, none => .error (.missingField 't')

end Parser

/-- Reads a session description. -/
def Description.ofText (s : String) : Except SdpError Description := do
  Parser.finish (← (Parser.linesOf s.toList).foldlM Parser.line {})

end MediaGateway.Sdp
