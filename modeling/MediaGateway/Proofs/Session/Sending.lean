import MediaGateway.Proofs.Clock
import MediaGateway.Proofs.Rtp.Carriage
import MediaGateway.Proofs.Session.Reception
import Mathlib.Algebra.Group.Nat.Defs

/-!
# What a session sends

A session has one numbering for all packets that it hands to its socket, whether they carry media or
telephone events, and the number of a packet is used up when it is handed over. It counts the packets
that the socket takes, in the same statistics as the packets that it receives.

`Emission` is what a session has of this. Only handing over a packet, a new numbering, the end of the
session and packets that are received from another source than before are of consequence for it.
-/

namespace MediaGateway

/-- What a session has sent, and the numbers that it goes on with. -/
structure Emission where
  /-- The numbering of the packets. -/
  numbering : Numbering
  /-- The packets that are counted as sent. -/
  packets : Nat
  /-- The payload bytes that are counted as sent. -/
  octets : Nat
deriving DecidableEq

namespace Emission

/-- With the next number used up. -/
def handOver (e : Emission) : Emission :=
  { e with numbering := { e.numbering with sequence := e.numbering.sequence + 1 } }

/-- With one more packet counted. -/
def count (e : Emission) (length : Nat) : Emission :=
  { e with packets := e.packets + 1, octets := e.octets + length }

/-- With nothing counted. -/
def forget (e : Emission) : Emission :=
  { e with packets := 0, octets := 0 }

end Emission

namespace Numbering

/-- The numbering after `n` packets. -/
def ahead (start : Numbering) (n : Nat) : Numbering :=
  { start with sequence := start.sequence + UInt16.ofNat n }

end Numbering

theorem Statistics.sent_recordReceived (st : Statistics) (sequence : UInt16) (length : Nat) :
    (st.recordReceived sequence length).sent = st.sent ∧
      (st.recordReceived sequence length).bytesSent = st.bytesSent := by
  unfold recordReceived place
  simp only
  repeat' split
  all_goals exact ⟨rfl, rfl⟩

/-- A packet that a session hands to its socket. -/
structure Handover where
  /-- The session. -/
  sender : MediaSession
  /-- The wall time. -/
  now : Nat
  /-- What it is to carry. -/
  payload : MediaSession.Payload
  /-- What becomes of a product that is too large for a word. -/
  overflow : Overflow
  /-- The packet and where it goes. -/
  outgoing : MediaSession.Outgoing

/-- Whether a call is to send a payload. -/
def SessionCall.transmits : SessionCall → Bool
  | transmit _ _ _ _ _ => true
  | _ => false

namespace MediaSession

variable {s : MediaSession} {m : Metrics} {network : Network} {now : Nat} {p : Payload}
  {overflow : Overflow} {o : Outgoing} {c : SessionCall}

/-- What the session has sent. -/
def emission (s : MediaSession) : Emission where
  numbering := s.numbering
  packets := s.statistics.sent
  octets := s.statistics.bytesSent

/-- What a call hands to the socket. -/
def handover? (s : MediaSession) : SessionCall → Option Handover
  | .transmit _ _ now p overflow =>
    match s.outgoing overflow now p with
    | .ok (.ok (some o)) => some ⟨s, now, p, overflow, o⟩
    | _ => none
  | _ => none

/-- Why a session hands nothing to its socket though it is to send. -/
inductive Withholds (s : MediaSession) (p : Payload) : SessionError → Prop
  | notOpen : Withholds s p (.notOpen s.media)
  | noRemotePeer : Withholds s p (.noRemotePeer s.media)
  | noFormat : Withholds s p (.noFormat s.media p.kind)

/-- A session comes to the timestamp of a packet, and the product for it is too large for a word. -/
def BreaksOff (s : MediaSession) (overflow : Overflow) (now : Nat) (p : Payload) : Prop :=
  ∃ f, s.formatFor? p.kind = some f ∧ overflow = .stops ∧ 2 ^ 64 ≤ now * f.clockRate.toNat

/-- Why a session has no packet to hand over: it is not to send, it withholds the payload, or the call
breaks off. -/
inductive Silences (s : MediaSession) (overflow : Overflow) (now : Nat) (p : Payload) :
    Attempt (Except SessionError (Option Outgoing)) → Prop
  | unsent : Silences s overflow now p (.ok (.ok none))
  | withheld {e} (h : s.Withholds p e) : Silences s overflow now p (.ok (.error e))
  | brokenOff (h : s.BreaksOff overflow now p) : Silences s overflow now p (.error Overflow.reason)

theorem outgoing_cases (s : MediaSession) (overflow : Overflow) (now : Nat) (p : Payload) :
    s.Silences overflow now p (s.outgoing overflow now p) ∨
      ∃ o, s.outgoing overflow now p = .ok (.ok (some o)) := by
  unfold outgoing
  split
  · exact .inl .unsent
  · split
    · exact .inl (.withheld .notOpen)
    · split
      · exact .inl (.withheld .noRemotePeer)
      · split
        · exact .inl (.withheld .noFormat)
        · rename_i f hf
          split
          · rename_i hbreaks
            exact .inl (.brokenOff ⟨f, hf, Overflow.breaksOff_iff.1 hbreaks⟩)
          · exact .inr ⟨_, rfl⟩

/-- Without a packet to hand over a session does nothing, whatever the network is like. -/
theorem transmit_of_none (h : s.handover? (.transmit m network now p overflow) = none) :
    ∃ result, s.Silences overflow now p result ∧
      ∀ network', s.transmit m network' now p overflow = (result, s, m) := by
  rcases s.outgoing_cases overflow now p with hsilent | ⟨o, hout⟩
  · refine ⟨_, hsilent, fun network' => ?_⟩
    unfold transmit
    generalize s.outgoing overflow now p = result at hsilent ⊢
    cases hsilent <;> rfl
  · simp only [handover?, hout] at h
    cases h

/-- A packet that is handed over uses up a number, and is counted unless the network refuses it. -/
theorem transmit_of_handover {handover : Handover}
    (h : s.handover? (.transmit m network now p overflow) = some handover) :
    let o := handover.outgoing
    let r := s.transmit m network now p overflow
    (∃ cause, network.passage o.source o.destination o.packet.encode.length = .refused cause ∧
      r.1 = .ok (.error (.transport cause)) ∧ r.2.1.emission = s.emission.handOver) ∨
    r.1 = .ok (.ok (some o)) ∧ r.2.1.emission = s.emission.handOver.count p.data.length := by
  unfold transmit
  simp only [handover?] at h
  split at h
  · rename_i o hout
    obtain rfl := Option.some.inj h
    simp only [hout]
    split
    · rename_i cause hrefused
      exact .inl ⟨cause, hrefused, rfl, rfl⟩
    · exact .inr ⟨rfl, rfl⟩
    · exact .inr ⟨rfl, rfl⟩
  · cases h

/-! ## What is received -/

/-- Whether a packet of another source than the one before is among some arrivals, up to where the
socket for media broke. -/
def changesWithin : Option UInt32 → List Arrival → Bool
  | _, [] => false
  | source, .rtp p _ :: rest => source.any (· != p.ssrc) || changesWithin (some p.ssrc) rest
  | _, .rtpFailure _ :: _ => false
  | source, .rtcp _ _ :: rest | source, .rtcpFailure _ :: rest => changesWithin source rest

/-- Whether a session that listens is about to look at a packet of another source. -/
def hearsAnother (s : MediaSession) : Bool :=
  s.mode.receives && changesWithin s.streamSsrc s.inbox

theorem emission_latch (s : MediaSession) (source : SocketAddress) :
    (s.latch source).emission = s.emission := by
  unfold latch
  split <;> rfl

theorem emission_follow (s : MediaSession) (ssrc : UInt32) :
    (s.follow ssrc).emission =
      if s.streamSsrc.any (· != ssrc) then s.emission.forget else s.emission := by
  unfold follow
  cases s.streamSsrc with
  | none => rfl
  | some source =>
    by_cases hsource : source = ssrc
    · simp [hsource]
    · simp only [Option.some.injEq, hsource, if_false, Option.isNone_some, Bool.false_eq_true,
        Option.any_some, bne_iff_ne, ne_eq, not_false_eq_true, if_true]
      rfl

/-- Receiving a packet is none of the business of what was sent. -/
theorem emission_record (s : MediaSession) (m : Metrics) (now : Nat) (p : Packet) :
    (s.record m now p).1.emission = s.emission := by
  obtain ⟨hsent, hoctets⟩ := s.statistics.sent_recordReceived p.sequence p.payload.length
  unfold record emission
  simp only [Meter.received]
  split
  · simp only [Meter.discarded, Meter.late, Statistics.recordDiscarded, Statistics.recordLate,
      hsent, hoctets]
  · simp only [Meter.discarded, Statistics.recordDiscarded, hsent, hoctets]

theorem emission_receivePacket (s : MediaSession) (m : Metrics) (now : Nat) (p : Packet)
    (source : SocketAddress) :
    (s.receivePacket m now p source).1.emission =
      if s.mode.receives && s.streamSsrc.any (· != p.ssrc) then s.emission.forget
      else s.emission := by
  obtain ⟨hmode, hsource, -, -⟩ := s.latch_keeps source
  unfold receivePacket
  simp only [hmode]
  cases s.mode.receives with
  | false => exact s.emission_latch source
  | true =>
    simp only [if_true, Bool.true_and]
    rw [emission_record, emission_follow, emission_latch, hsource]

theorem streamSsrc_receivePacket (s : MediaSession) (m : Metrics) (now : Nat) (p : Packet)
    (source : SocketAddress) :
    (s.receivePacket m now p source).1.mode = s.mode ∧
      (s.receivePacket m now p source).1.streamSsrc =
        if s.mode.receives then some p.ssrc else s.streamSsrc := by
  obtain ⟨hmode, hsource, -, -⟩ := s.latch_keeps source
  unfold receivePacket
  simp only [hmode]
  split
  · unfold record follow
    repeat' split
    all_goals simp_all
  · exact ⟨hmode, hsource⟩

/-- By induction on what arrived. What is forgotten once is not there to be forgotten again. -/
theorem emission_processInbox (now : Nat) (arrivals : List Arrival) (s : MediaSession)
    (m : Metrics) :
    (processInbox now arrivals s m).2.1.emission =
      if s.mode.receives && changesWithin s.streamSsrc arrivals then s.emission.forget
      else s.emission := by
  induction arrivals generalizing s m with
  | nil => simp [processInbox, changesWithin, emission]
  | cons a rest ih =>
    cases a with
    | rtp p source =>
      obtain ⟨hmode, hsource⟩ := s.streamSsrc_receivePacket m now p source
      rw [processInbox_rtp, ih, hmode, hsource, emission_receivePacket, changesWithin]
      cases s.mode.receives with
      | false => rfl
      | true =>
        simp only [Bool.true_and, if_true]
        cases s.streamSsrc.any (· != p.ssrc) <;>
          cases changesWithin (some p.ssrc) rest <;> rfl
    | rtcp _ _ => exact ih _ m
    | rtpFailure _ => simp [processInbox, changesWithin, emission]
    | rtcpFailure _ => exact ih _ m

/-! ## What the calls of a session do -/

/-- What a call leaves of what a session has sent, if it sends nothing itself. -/
def emissionAfter (s : MediaSession) : SessionCall → Emission
  | .poll _ _ => if s.hearsAnother then s.emission.forget else s.emission
  | .close => s.emission.forget
  | .reset numbering => { s.emission.forget with numbering }
  | _ => s.emission

theorem emission_perform (hc : c.transmits = false) :
    (s.perform c).emission = s.emissionAfter c := by
  cases c with
  | openOn host ports =>
    simp only [perform, openOn, emissionAfter]
    repeat' split
    all_goals rfl
  | configureRtcp host mux =>
    simp only [perform, configureRtcp, emissionAfter]
    repeat' split
    all_goals rfl
  | enableDtls =>
    simp only [perform, enableDtls, emissionAfter]
    split <;> rfl
  | negotiate d md =>
    simp only [perform, negotiate, emissionAfter]
    split <;> rfl
  | poll m now =>
    show (s.poll m now).2.1.emission = _
    rw [poll_session]
    exact emission_processInbox now s.inbox s m
  | readFrame now =>
    simp only [perform, readFrame, emissionAfter]
    split <;> rfl
  | drain now =>
    simp only [perform, drain, emissionAfter]
    split <;> rfl
  | transmit m network now p overflow => cases hc
  | deliver _ | enableIce _ | updateMode _ | close | reset _ => rfl

/-! ## The numbers of the packets -/

theorem handover?_eq_some {handover : Handover} (h : s.handover? c = some handover) :
    ∃ m network, c = .transmit m network handover.now handover.payload handover.overflow ∧
      handover.sender = s ∧
      s.outgoing handover.overflow handover.now handover.payload =
        .ok (.ok (some handover.outgoing)) := by
  cases c with
  | transmit m network now p overflow =>
    simp only [handover?] at h
    split at h
    · rename_i o hout
      cases h
      exact ⟨m, network, rfl, rfl, hout⟩
    · cases h
  | _ => cases h

/-- What a session does with a payload. -/
structure Transmits (s : MediaSession) (m : Metrics) (network : Network) (now : Nat)
    (p : Payload) (overflow : Overflow) : Prop where
  /-- Without a packet to hand over it says why, -/
  silent_iff : s.handover? (.transmit m network now p overflow) = none ↔
    s.Silences overflow now p (s.transmit m network now p overflow).1
  /-- is left as it was, and does not touch the network. -/
  silent : s.handover? (.transmit m network now p overflow) = none →
    (s.transmit m network now p overflow).2 = (s, m) ∧
      ∀ network', s.transmit m network' now p overflow = s.transmit m network now p overflow
  /-- A packet that is handed over is sent unless the network refuses it. -/
  handed : ∀ handover, s.handover? (.transmit m network now p overflow) = some handover →
    let o := handover.outgoing
    (s.transmit m network now p overflow).1 = .ok (.ok (some o)) ∨
      ∃ cause, network.passage o.source o.destination o.packet.encode.length = .refused cause ∧
        (s.transmit m network now p overflow).1 = .ok (.error (.transport cause))

theorem transmits (s : MediaSession) (m : Metrics) (network : Network) (now : Nat) (p : Payload)
    (overflow : Overflow) : s.Transmits m network now p overflow := by
  cases hover : s.handover? (.transmit m network now p overflow) with
  | none =>
    obtain ⟨result, hresult, hnothing⟩ := transmit_of_none hover
    refine ⟨⟨fun _ => ?_, fun _ => hover⟩, fun _ => ?_, fun _ h => ?_⟩
    · rw [hnothing network]
      exact hresult
    · rw [hnothing network]
      exact ⟨rfl, hnothing⟩
    · rw [hover] at h
      cases h
  | some handover =>
    have hcases := transmit_of_handover hover
    refine ⟨⟨fun h => ?_, fun h => ?_⟩, fun h => ?_, fun handover' h => ?_⟩
    · rw [hover] at h
      cases h
    · -- A packet that was handed over has another result.
      rcases hcases with ⟨_, -, hresult, -⟩ | ⟨hresult, -⟩
      · rw [hresult] at h
        cases h with
        | withheld hwithholds => cases hwithholds
      · rw [hresult] at h
        cases h
    · rw [hover] at h
      cases h
    · rw [hover] at h
      cases h
      rcases hcases with ⟨cause, hrefused, hresult, -⟩ | ⟨hresult, -⟩
      · exact .inr ⟨cause, hrefused, hresult⟩
      · exact .inl hresult

end MediaSession

end MediaGateway
