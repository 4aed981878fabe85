import MediaGateway.Proofs.Session.Run

/-!
# The mode of a session

Nothing but setting the mode and ending the session changes the mode. As long as a session does not
receive, nothing waits to be played: what waits is given up when it stops receiving, and nothing gets
into the queue before it receives again.
-/

namespace MediaGateway

namespace MediaSession

variable {s s' s'' : MediaSession}

/-- The mode stays, and without receiving so does the queue. -/
structure KeepsMode (s s' : MediaSession) : Prop where
  mode : s'.mode = s.mode
  queue : s.mode.receives = false → s'.jitter.queue = s.jitter.queue

namespace KeepsMode

theorem of_jitter (hm : s'.mode = s.mode) (hj : s'.jitter = s.jitter) : KeepsMode s s' :=
  ⟨hm, fun _ => congrArg JitterBuffer.queue hj⟩

theorem refl (s : MediaSession) : KeepsMode s s := of_jitter rfl rfl

theorem trans (h : KeepsMode s s') (h' : KeepsMode s' s'') : KeepsMode s s'' where
  mode := h'.mode.trans h.mode
  queue := fun hr => (h'.queue (h.mode ▸ hr)).trans (h.queue hr)

theorem openOn (s : MediaSession) (host : Host) (ports : PortRange) :
    KeepsMode s (s.openOn host ports).2.1 := by
  unfold MediaSession.openOn
  repeat' split
  all_goals exact of_jitter rfl rfl

theorem configureRtcp (s : MediaSession) (host : Host) (mux : Bool) :
    KeepsMode s (s.configureRtcp host mux).2 := by
  simp only [MediaSession.configureRtcp]
  repeat' split
  all_goals exact of_jitter rfl rfl

/-- A packet for a session that does not receive is not queued. -/
theorem receivePacket (s : MediaSession) (m : Metrics) (now : Nat) (p : Packet)
    (source : SocketAddress) : KeepsMode s (s.receivePacket m now p source).1 := by
  have hlatch : KeepsMode s (s.latch source) := by
    unfold latch
    split <;> exact of_jitter rfl rfl
  have hfollow (s : MediaSession) : (s.follow p.ssrc).mode = s.mode := by
    unfold follow
    repeat' split
    all_goals rfl
  simp only [MediaSession.receivePacket]
  split
  · rename_i hreceives
    rw [hlatch.mode] at hreceives
    exact ⟨(hfollow _).trans hlatch.mode, fun h => by simp [h] at hreceives⟩
  · exact hlatch

/-- By induction on what arrived. -/
theorem processInbox (now : Nat) (inbox : List Arrival) (s : MediaSession) (m : Metrics) :
    KeepsMode s (MediaSession.processInbox now inbox s m).2.1 := by
  induction inbox generalizing s m with
  | nil => exact of_jitter rfl rfl
  | cons a rest ih =>
    cases a with
    | rtp p source =>
      rw [processInbox_rtp]
      exact (receivePacket s m now p source).trans (ih _ _)
    | rtcp _ _ =>
      have hcount : KeepsMode s { s with rtcpReceived := s.rtcpReceived + 1 } := of_jitter rfl rfl
      exact hcount.trans (ih _ m)
    | rtpFailure _ => exact of_jitter rfl rfl
    | rtcpFailure _ =>
      have hbroken : KeepsMode s
          { s with transport := s.transport.map fun t => { t with rtcp := none } } :=
        of_jitter rfl rfl
      exact hbroken.trans (ih _ m)

theorem poll (s : MediaSession) (m : Metrics) (now : Nat) : KeepsMode s (s.poll m now).2.1 := by
  rw [poll_session]
  exact processInbox now _ s m

theorem transmit (s : MediaSession) (m : Metrics) (network : Network) (now : Nat) (p : Payload)
    (overflow : Overflow) : KeepsMode s (s.transmit m network now p overflow).2.1 := by
  simp only [MediaSession.transmit]
  repeat' split
  all_goals exact of_jitter rfl rfl

/-- Neither what prepares a session nor media is about the mode. -/
theorem perform {c : SessionCall} (h : c.prepares = true ∨ c.streams = true) :
    KeepsMode s (s.perform c) := by
  cases c with
  | openOn host ports => exact openOn s host ports
  | configureRtcp host mux => exact configureRtcp s host mux
  | deliver a => exact of_jitter rfl rfl
  | enableIce fresh => exact of_jitter rfl rfl
  | enableDtls =>
    show KeepsMode s s.enableDtls.2
    unfold enableDtls
    split <;> exact of_jitter rfl rfl
  | negotiate d m =>
    show KeepsMode s (s.negotiate d m).2
    unfold negotiate
    split
    · exact ⟨rfl, fun _ => rfl⟩
    · exact .refl s
  | poll metrics now => exact poll s metrics now
  | readFrame now =>
    simp only [MediaSession.perform, readFrame]
    split
    · exact ⟨rfl, fun hr => by simp_all⟩
    · exact .refl s
  | drain now =>
    simp only [MediaSession.perform, drain]
    split
    · exact ⟨rfl, fun hr => by simp_all⟩
    · exact .refl s
  | transmit metrics network now p overflow => exact transmit s metrics network now p overflow
  | updateMode _ | close | reset _ => simp [SessionCall.prepares, SessionCall.streams] at h

end KeepsMode

/-! ## What lasts -/

/-- Nothing waits to be played unless the session receives. -/
def IsHushed (s : MediaSession) : Prop := s.mode.receives = false → s.jitter.queue = []

theorem IsHushed.keepsMode (h : s.IsHushed) (hk : KeepsMode s s') : s'.IsHushed := fun hr => by
  rw [hk.mode] at hr
  rw [hk.queue hr, h hr]

/-- A session that stops receiving gives up what waits. -/
theorem IsHushed.updateMode (h : s.IsHushed) (mode : Mode) : (s.updateMode mode).IsHushed := by
  intro hr
  have hr : mode.receives = false := hr
  show (if s.mode.receives && !mode.receives then s.jitter.reset else s.jitter).queue = []
  cases hs : s.mode.receives with
  | true => simp [hr, JitterBuffer.reset]
  | false => simpa using h hs

theorem lasting_isHushed : Lasting IsHushed := by
  intro s c h
  cases c with
  | updateMode mode => exact h.updateMode mode
  | close | reset _ => exact fun _ => rfl
  | _ => exact h.keepsMode (KeepsMode.perform (by simp [SessionCall.prepares, SessionCall.streams]))

theorem lastsThrough_mode (mode : Mode) : LastsThrough SessionCall.prepares fun s => s.mode = mode :=
  fun _ _ hc h => (KeepsMode.perform (.inl hc)).mode.trans h

/-- Media neither opens nor closes a session. -/
theorem isOpen_perform {c : SessionCall} (h : c.streams = true) : (s.perform c).isOpen = s.isOpen := by
  refine isOpen_of_localRtp ?_
  cases c with
  | deliver a => exact s.localRtp_deliver a
  | poll metrics now => exact s.localRtp_poll metrics now
  | readFrame now =>
    simp only [perform, readFrame]
    split <;> rfl
  | drain now => exact s.localRtp_drain now
  | transmit metrics network now p overflow =>
    exact s.localRtp_transmit metrics network now p overflow
  | _ => cases h

/-- What depends on the mode, and on whether the session is open, is not changed by media. -/
theorem lastsThrough_streams (Q : Bool → Mode → Prop) :
    LastsThrough SessionCall.streams fun s => Q s.isOpen s.mode := by
  intro s c hc h
  rwa [isOpen_perform hc, (KeepsMode.perform (.inr hc)).mode]

end MediaSession

end MediaGateway
