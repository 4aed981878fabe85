import MediaGateway.Connection.Call

/-!
# What media counts

Media is counted packet by packet. The metrics of the control plane, which are about connections and
exchanges, stay as they are.
-/

namespace MediaGateway

/-- The metrics of the control plane. -/
structure ControlMetrics where
  /-- Connections built. -/
  created : UInt64
  /-- Connections that ended by failure. -/
  failures : UInt64
  /-- Exchanges of descriptions that came to no agreement. -/
  negotiationFailures : UInt64
  /-- Connections that are open. -/
  openConnections : Int

/-- Those of the metrics that are about the control plane. -/
def Metrics.control (m : Metrics) : ControlMetrics :=
  ⟨m.created, m.failures, m.negotiationFailures, m.openConnections⟩

namespace MediaSession

theorem control_record (s : MediaSession) (m : Metrics) (now : Nat) (p : Packet) :
    (s.record m now p).2.control = m.control := by
  unfold record
  simp only
  split <;> rfl

theorem control_receivePacket (s : MediaSession) (m : Metrics) (now : Nat) (p : Packet)
    (source : SocketAddress) : (s.receivePacket m now p source).2.control = m.control := by
  unfold receivePacket
  simp only
  split
  · exact control_record _ m now p
  · rfl

/-- By induction on what arrived. -/
theorem control_processInbox (now : Nat) (inbox : List Arrival) (s : MediaSession) (m : Metrics) :
    (processInbox now inbox s m).2.2.control = m.control := by
  induction inbox generalizing s m with
  | nil => rfl
  | cons a rest ih =>
    cases a with
    | rtp p source =>
      rw [processInbox_rtp, ih]
      exact s.control_receivePacket m now p source
    | rtcp _ _ => exact ih _ m
    | rtpFailure _ => rfl
    | rtcpFailure _ => exact ih _ m

theorem control_poll (s : MediaSession) (m : Metrics) (now : Nat) :
    (s.poll m now).2.2.control = m.control := by
  have hinbox := control_processInbox now ((s.transport.map Transport.inbox).getD []) s m
  unfold poll
  split <;> rename_i he <;> rw [he] at hinbox
  · exact hinbox
  · exact hinbox

theorem control_transmit (s : MediaSession) (m : Metrics) (network : Network) (now : Nat)
    (p : Payload) (overflow : Overflow) :
    (s.transmit m network now p overflow).2.2.control = m.control := by
  unfold transmit
  repeat' split
  all_goals rfl

end MediaSession

namespace Call

/-- By induction on the sessions that are polled. -/
theorem control_pollSessions (now : Nat) (ss : List MediaSession) (c : Call) (m : Metrics) :
    (pollSessions now ss c m).2.2.control = m.control := by
  induction ss generalizing c m with
  | nil => rfl
  | cons s rest ih =>
    have hpoll := s.control_poll m now
    simp only [pollSessions]
    split
    · split <;> rename_i he <;> rw [he] at hpoll
      · exact hpoll
      · rename_i n s' m'
        have hrest := ih (c.withSession s') m'
        rw [hpoll] at hrest
        split <;> simp_all
    · exact ih c m

theorem control_poll (c : Call) (m : Metrics) (now : Nat) :
    (c.poll m now).2.2.control = m.control :=
  control_pollSessions now c.sessions c m

end Call

end MediaGateway
