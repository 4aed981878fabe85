import MediaGateway.Proofs.Session.Bookkeeping
import MediaGateway.Proofs.Session.DecodeMap

/-!
# What a session hears

Of all that a session knows, little matters for what it makes of the packets it receives: whether it
is open and listens, what it agrees on, the source whose packets it plays, its jitter buffer, and what
it has counted of the packets received. This is its reception. Where it sends, how it numbers what it
sends and how much it has sent is not part of it.

`Reception.after` says what every call makes of a reception, and `reception_perform` that a session
does as its reception says. So sessions with the same reception cannot be told apart by what arrives.
-/

namespace MediaGateway

/-! ## What is counted of received packets -/

namespace Statistics

/-- The counters without what was sent. -/
def receiving (st : Statistics) : Statistics :=
  { st with sent := 0, bytesSent := 0 }

variable (st : Statistics)

theorem receiving_recordReceived (sequence : UInt16) (length : Nat) :
    (st.recordReceived sequence length).receiving =
      st.receiving.recordReceived sequence length := by
  obtain ⟨_, _, _, _, _, _, _, _, _ | last⟩ := st
  · rfl
  · simp only [recordReceived, place, receiving]
    repeat' split
    all_goals rfl

end Statistics

/-! ## Receptions -/

/-- What matters for the packets that a session receives. -/
structure Reception where
  /-- What the session is set up with. -/
  setup : SessionSetup
  /-- Whether it has sockets. -/
  isOpen : Bool
  /-- In which directions media flows. -/
  mode : Mode
  /-- Whether it takes part in connectivity checks. -/
  checks : Bool
  /-- The formats that were agreed on. -/
  negotiated : FormatTable
  /-- The source whose packets are played. -/
  source : Option UInt32
  /-- The packets that wait to be played. -/
  jitter : JitterBuffer
  /-- What was received. -/
  statistics : Statistics

namespace Reception

/-- Without anything of the packets that were received. -/
def cleared (r : Reception) : Reception :=
  { r with source := none, jitter := r.jitter.reset, statistics := {} }

/-- About to play packets of a source. -/
def follow (r : Reception) (ssrc : UInt32) : Reception :=
  if r.source = some ssrc then r
  else if r.source.isNone then { r with source := some ssrc }
  else { r.cleared with source := some ssrc }

/-- With one more packet of the source that is played. -/
def record (r : Reception) (now : Nat) (p : Packet) : Reception :=
  let (outcome, jitter) := r.jitter.writeMapped now p
  let dropped := jitter.dropped - r.jitter.dropped
  let counted := r.statistics.recordReceived p.sequence p.payload.length
  { r with
    jitter
    statistics := if outcome = .late then counted.recordLate.recordDiscarded (dropped - 1)
      else counted.recordDiscarded dropped }

/-- With one more packet. -/
def take (r : Reception) (now : Nat) (p : Packet) : Reception :=
  if r.mode.receives then (r.follow p.ssrc).record now p else r

/-- With all that has arrived, up to where the socket for media broke. -/
def takeAll (now : Nat) : List Arrival → Reception → Reception
  | [], r => r
  | .rtp p _ :: rest, r => takeAll now rest (r.take now p)
  | .rtpFailure _ :: _, r => r
  | .rtcp _ _ :: rest, r | .rtcpFailure _ :: rest, r => takeAll now rest r

/-- What is left of some arrivals when the socket for media broke. -/
def leftBehind : List Arrival → List Arrival
  | [] => []
  | .rtpFailure _ :: rest => rest
  | .rtp _ _ :: rest | .rtcp _ _ :: rest | .rtcpFailure _ :: rest => leftBehind rest

/-- With formats that were agreed on. -/
def adopt (r : Reception) (formats : FormatTable) : Reception :=
  let clock := match formats.media? with
    | some f => r.jitter.clock.setRate f.clockRate
    | none => r.jitter.clock
  { r with negotiated := formats, jitter := { r.jitter with clock, formats } }

/-- After a call of a session that comes to an agreement by it, if it does, and at whose sockets an
inbox has arrived. -/
def after (r : Reception) (agreed : Option FormatTable) (inbox : List Arrival) :
    SessionCall → Reception
  | .openOn host ports =>
    { r with
      isOpen := r.isOpen ||
        (MediaSession.bindRtp host r.setup.seat MediaSession.bindRetries ports).1.isOk }
  | .enableIce _ => { r with checks := true }
  | .negotiate _ _ => (agreed.map r.adopt).getD r
  | .updateMode mode =>
    { r with
      mode
      jitter := if r.mode.receives && !mode.receives then r.jitter.reset else r.jitter }
  | .poll _ now => r.takeAll now inbox
  | .readFrame now => if r.mode.receives then { r with jitter := (r.jitter.read now).2 } else r
  | .drain now => if r.mode.receives then { r with jitter := (r.jitter.drain now).2 } else r
  | .close | .reset _ =>
    { r.cleared with isOpen := false, mode := .inactive, checks := false, negotiated := .empty }
  | .configureRtcp _ _ | .deliver _ | .enableDtls | .transmit _ _ _ _ _ => r

/-- What has arrived and was not looked at after a call. -/
def inboxAfter (r : Reception) (inbox : List Arrival) : SessionCall → List Arrival
  | .deliver a => if r.isOpen then inbox ++ [a] else inbox
  | .poll _ _ => leftBehind inbox
  | .close | .reset _ => []
  | .openOn _ _ | .configureRtcp _ _ | .enableIce _ | .enableDtls | .negotiate _ _ | .updateMode _
  | .readFrame _ | .drain _ | .transmit _ _ _ _ _ => inbox

theorem isOpen_take (r : Reception) (now : Nat) (p : Packet) : (r.take now p).isOpen = r.isOpen := by
  unfold take follow record
  repeat' split
  all_goals rfl

end Reception

namespace MediaSession

variable {s t : MediaSession} {c : SessionCall}

/-- What matters for the packets that the session receives. -/
def reception (s : MediaSession) : Reception where
  setup := s.setup
  isOpen := s.isOpen
  mode := s.mode
  checks := s.ice.isSome
  negotiated := s.negotiated
  source := s.streamSsrc
  jitter := s.jitter
  statistics := s.statistics.receiving

/-- What has arrived at the sockets and was not looked at yet. -/
def inbox (s : MediaSession) : List Arrival :=
  (s.transport.map Transport.inbox).getD []

/-! ## A session does as its reception says -/

theorem reception_latch (s : MediaSession) (source : SocketAddress) :
    (s.latch source).reception = s.reception := by
  unfold latch
  split <;> rfl

theorem reception_follow (s : MediaSession) (ssrc : UInt32) :
    (s.follow ssrc).reception = s.reception.follow ssrc := by
  show _ = if s.streamSsrc = some ssrc then s.reception
    else if s.streamSsrc.isNone then { s.reception with source := some ssrc }
    else { s.reception.cleared with source := some ssrc }
  unfold follow
  repeat' split
  all_goals rfl

theorem reception_record (s : MediaSession) (m : Metrics) (now : Nat) (p : Packet) :
    (s.record m now p).1.reception = s.reception.record now p := by
  have hjitter : s.reception.jitter = s.jitter := rfl
  have hcounted : s.reception.statistics.recordReceived p.sequence p.payload.length =
      (s.statistics.recordReceived p.sequence p.payload.length).receiving :=
    (s.statistics.receiving_recordReceived p.sequence p.payload.length).symm
  simp only [record, Reception.record, hjitter, hcounted]
  split <;> rfl

theorem reception_receivePacket (s : MediaSession) (m : Metrics) (now : Nat) (p : Packet)
    (source : SocketAddress) :
    (s.receivePacket m now p source).1.reception = s.reception.take now p := by
  have hmode : (s.latch source).mode = s.reception.mode := (s.latch_keeps source).1
  simp only [receivePacket, Reception.take, hmode]
  split
  · rw [reception_record, reception_follow, reception_latch]
  · exact s.reception_latch source

theorem reception_map_transport (s : MediaSession) (f : Transport → Transport) :
    reception { s with transport := s.transport.map f } = s.reception := by
  simp only [reception, isOpen, Option.isSome_map]
  rfl

/-- By induction on what arrived. -/
theorem reception_processInbox (now : Nat) (arrivals : List Arrival) (s : MediaSession)
    (m : Metrics) :
    (processInbox now arrivals s m).2.1.reception = s.reception.takeAll now arrivals := by
  induction arrivals generalizing s m with
  | nil => exact s.reception_map_transport _
  | cons a rest ih =>
    cases a with
    | rtp p source =>
      rw [processInbox_rtp, ih, reception_receivePacket]
      rfl
    | rtcp _ _ => exact ih _ m
    | rtpFailure _ => exact s.reception_map_transport _
    | rtcpFailure _ => exact (ih _ m).trans (congrArg _ (s.reception_map_transport _))

theorem reception_poll (s : MediaSession) (m : Metrics) (now : Nat) :
    (s.poll m now).2.1.reception = s.reception.takeAll now s.inbox := by
  rw [poll_session]
  exact reception_processInbox now s.inbox s m

theorem reception_openOn (s : MediaSession) (host : Host) (ports : PortRange) :
    (s.openOn host ports).2.1.reception =
      { s.reception with
        isOpen := s.isOpen || (bindRtp host s.seat bindRetries ports).1.isOk } := by
  unfold openOn
  cases ht : s.transport with
  | some t => simp [reception, isOpen, ht]
  | none =>
    rcases bindRtp host s.seat bindRetries ports with ⟨e | socket, rest⟩
    · simp [reception, isOpen, ht, Except.isOk, Except.toBool]
    · simp [reception, isOpen, ht, Except.isOk, Except.toBool, setup]

theorem reception_negotiate (s : MediaSession) (d : Sdp.Description) (m : Sdp.MediaSection) :
    (s.negotiate d m).2.reception =
      ((s.agreement? (.negotiate d m)).map s.reception.adopt).getD s.reception := by
  cases ha : s.agreement? (.negotiate d m) with
  | some formats =>
    obtain ⟨-, rtp, rtcp, hadopt⟩ := negotiate_of_agreement? ha
    rw [hadopt]
    rfl
  | none =>
    simp only [agreement?, negotiate] at ha ⊢
    cases ht : s.terms d m with
    | ok terms => simp [ht, Except.toOption] at ha
    | error e => rfl

/-- What a call makes of a session's reception depends on nothing else, apart from what has arrived
and what is agreed on. -/
theorem reception_perform (s : MediaSession) (c : SessionCall) :
    (s.perform c).reception = s.reception.after (s.agreement? c) s.inbox c := by
  cases c with
  | openOn host ports => exact s.reception_openOn host ports
  | configureRtcp host mux =>
    simp only [perform, configureRtcp, Reception.after]
    repeat' split
    all_goals simp_all [reception, isOpen, setup]
  | deliver a => exact s.reception_map_transport _
  | enableIce fresh => rfl
  | enableDtls =>
    simp only [perform, enableDtls, Reception.after]
    split <;> rfl
  | negotiate d m => exact s.reception_negotiate d m
  | updateMode mode => rfl
  | poll m now => exact s.reception_poll m now
  | readFrame now =>
    show (s.readFrame now).2.reception = if s.mode.receives then _ else _
    unfold readFrame
    split <;> rfl
  | drain now =>
    show (s.drain now).2.reception = if s.mode.receives then _ else _
    unfold drain
    split <;> rfl
  | transmit m network now p overflow =>
    simp only [perform, transmit, Reception.after]
    repeat' split
    all_goals rfl
  | close | reset _ => rfl

/-- Whether a session comes to an agreement depends on its reception. -/
theorem agreement?_congr (hsetup : t.setup = s.setup) (hchecks : t.ice.isSome = s.ice.isSome)
    (c : SessionCall) : t.agreement? c = s.agreement? c := by
  cases c with
  | negotiate d m =>
    have hnone : t.ice.isNone = s.ice.isNone := by
      rw [← Option.not_isSome, ← Option.not_isSome, hchecks]
    have hnegotiator : t.negotiator = s.negotiator := congrArg SessionSetup.negotiator hsetup
    have hterms : t.terms d m = s.terms d m := by
      simp only [terms, hnegotiator, media_eq_of_setup hsetup, hnone]
    simp only [agreement?, negotiate, hterms]
    cases s.terms d m <;> rfl
  | _ => rfl

/-! ## What has arrived -/

/-- By induction on what arrived. -/
theorem inbox_processInbox (now : Nat) (arrivals : List Arrival) (s : MediaSession) (m : Metrics) :
    (processInbox now arrivals s m).2.1.inbox =
      if s.isOpen then Reception.leftBehind arrivals else [] := by
  induction arrivals generalizing s m with
  | nil => cases ht : s.transport <;> simp [processInbox, inbox, isOpen, ht, Reception.leftBehind]
  | cons a rest ih =>
    cases a with
    | rtp p source =>
      have hopen : (s.receivePacket m now p source).1.isOpen = s.isOpen :=
        (congrArg Reception.isOpen (s.reception_receivePacket m now p source)).trans
          (s.reception.isOpen_take now p)
      rw [processInbox_rtp, ih, hopen]
      rfl
    | rtcp _ _ => exact ih _ m
    | rtpFailure _ =>
      cases ht : s.transport <;> simp [processInbox, inbox, isOpen, ht, Reception.leftBehind]
    | rtcpFailure _ =>
      have hrest := ih { s with transport := s.transport.map fun t => { t with rtcp := none } } m
      rw [isOpen, Option.isSome_map] at hrest
      exact hrest

theorem inbox_poll (s : MediaSession) (m : Metrics) (now : Nat) :
    (s.poll m now).2.1.inbox = Reception.leftBehind s.inbox := by
  rw [poll_session, inbox_processInbox]
  cases ht : s.transport <;> simp [inbox, isOpen, ht, Reception.leftBehind]

/-- What has arrived depends on nothing but what had arrived and whether the session has sockets. -/
theorem inbox_perform (s : MediaSession) (c : SessionCall) :
    (s.perform c).inbox = s.reception.inboxAfter s.inbox c := by
  cases c with
  | openOn host ports =>
    simp only [perform, openOn, Reception.inboxAfter]
    repeat' split
    all_goals simp_all [inbox]
  | configureRtcp host mux =>
    simp only [perform, configureRtcp, Reception.inboxAfter]
    repeat' split
    all_goals simp_all [inbox]
  | deliver a =>
    cases ht : s.transport <;>
      simp [perform, deliver, inbox, Reception.inboxAfter, reception, isOpen, ht]
  | enableDtls =>
    simp only [perform, enableDtls, Reception.inboxAfter]
    split <;> rfl
  | negotiate d m =>
    simp only [perform, negotiate, Reception.inboxAfter]
    split <;> rfl
  | poll m now => exact s.inbox_poll m now
  | readFrame now =>
    simp only [perform, readFrame, Reception.inboxAfter]
    split <;> rfl
  | drain now =>
    simp only [perform, drain, Reception.inboxAfter]
    split <;> rfl
  | transmit m network now p overflow =>
    simp only [perform, transmit, Reception.inboxAfter]
    repeat' split
    all_goals rfl
  | enableIce _ | updateMode _ | close | reset _ => rfl

end MediaSession

end MediaGateway
