import MediaGateway.Metrics

/-!
# The text form of the metrics

Monitoring reads the metrics as a text: for each metric family a line with its description, one with
its kind, and a line for each sample. The families come in the alphabetical order of their names,
and every sample carries the name of the process as a label.
-/

namespace MediaGateway.Exposition

/-- What a metric measures. -/
inductive Kind where
  | counter
  | gauge
  | histogram
deriving DecidableEq, Repr

/-- The word for a kind. -/
def Kind.token : Kind → String
  | counter => "counter"
  | gauge => "gauge"
  | histogram => "histogram"

/-- One line with a value. -/
structure Line where
  /-- What is added to the name of the family. -/
  part : String
  /-- The bound of a histogram line. -/
  bound : Option String
  /-- The value. -/
  value : Int
deriving DecidableEq, Repr

/-- A metric with its values. -/
structure Family where
  /-- The name, without what all names of the gateway begin with. -/
  name : String
  /-- What the metric shows. -/
  help : String
  /-- What it measures. -/
  kind : Kind
  /-- The values. -/
  lines : List Line
deriving DecidableEq, Repr

/-- The full name of a family. -/
def Family.fullName (f : Family) : String :=
  "media_gateway_" ++ f.name

/-- A counter. -/
def counter (name help : String) (value : UInt64) : Family :=
  { name, help, kind := .counter, lines := [⟨"", none, value.toNat⟩] }

/-- A gauge. -/
def gauge (name help : String) (value : Int) : Family :=
  { name, help, kind := .gauge, lines := [⟨"", none, value⟩] }

/-- A histogram: a line for each bound, one without a bound, and the sum and number of the
values. -/
def histogram (name help : String) (h : Histogram) : Family :=
  { name, help, kind := .histogram
    lines :=
      (Histogram.bounds.zip h.counts).map (fun e => ⟨"_bucket", some (toString e.1), e.2⟩) ++
        [⟨"_bucket", some "+Inf", h.count⟩, ⟨"_sum", none, h.sum⟩, ⟨"_count", none, h.count⟩] }

/-- All metrics, in the order of their names. -/
def families (m : Metrics) : List Family :=
  [counter "connection_failures_total" "Connections that left the open path through failure"
      m.failures,
    counter "connections_created_total" "Connections handed out by the factory" m.created,
    gauge "connections_open" "Connections currently OPEN" m.openConnections,
    counter "jitter_buffer_dropped_total"
      "Packets dropped by the jitter buffer (late, stale or overflow)" m.dropped,
    gauge "jitter_buffer_occupancy_packets" "Current jitter buffer occupancy in packets"
      m.occupancy,
    counter "negotiation_failures_total"
      "Offer/answer exchanges that found no common codec or bad SDP" m.negotiationFailures,
    counter "rtp_bytes_received_total" "Total RTP payload bytes received" m.bytesReceived,
    counter "rtp_bytes_sent_total" "Total RTP payload bytes sent" m.bytesSent,
    histogram "rtp_interarrival_jitter_units"
      "RFC 3550 interarrival jitter estimate in timestamp units" m.jitter,
    counter "rtp_packets_received_total" "Total RTP packets received" m.packetsReceived,
    counter "rtp_packets_sent_total" "Total RTP packets sent" m.packetsSent]

/-- A character of a label value; backslash, quotation mark and line break are escaped. -/
def escape : Char → List Char
  | '\\' => ['\\', '\\']
  | '"' => ['\\', '"']
  | '\n' => ['\\', 'n']
  | c => [c]

/-- A label. -/
def label (name value : String) : String :=
  name ++ "=\"" ++ String.ofList (value.toList.flatMap escape) ++ "\""

/-- The line of a value. -/
def lineText (process name : String) (l : Line) : String :=
  let bound := match l.bound with
    | some b => "," ++ label "le" b
    | none => ""
  name ++ l.part ++ "\x7b" ++ label "process" process ++ bound ++ "\x7d " ++ Sample.text l.value ++
    "\n"

/-- The lines of a family. -/
def familyText (process : String) (f : Family) : String :=
  "# HELP " ++ f.fullName ++ " " ++ f.help ++ "\n# TYPE " ++ f.fullName ++ " " ++ f.kind.token ++
    "\n" ++ String.join (f.lines.map (lineText process f.fullName))

/-- The metrics of a process as text. -/
def text (process : String) (m : Metrics) : String :=
  String.join ((families m).map (familyText process))

end MediaGateway.Exposition
