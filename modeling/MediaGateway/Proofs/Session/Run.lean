import MediaGateway.Proofs.JitterBuffer.Run
import MediaGateway.Proofs.Session.Setup

/-!
# Runs of a session

A run is a list of calls, in any order: what can be done with a session, and what can happen to it.
Apart from agreements and ends, no call is about what the session agreed on, and none at all is about
what it is set up with.
-/

namespace MediaGateway

/-! ## Runs of a session -/

/-- What can be done with a session, and what can happen to it. -/
inductive SessionCall where
  | openOn (host : Host) (ports : PortRange)
  | configureRtcp (host : Host) (mux : Bool)
  | deliver (arrival : Arrival)
  | enableIce (fresh : Sdp.IceCredentials)
  | enableDtls
  | negotiate (d : Sdp.Description) (m : Sdp.MediaSection)
  | updateMode (mode : Mode)
  | poll (metrics : Metrics) (now : Nat)
  | readFrame (now : Nat)
  | drain (now : Nat)
  | transmit (metrics : Metrics) (network : Network) (now : Nat) (payload : MediaSession.Payload)
      (overflow : Overflow := .stops)
  | close
  | reset (numbering : Numbering)

/-- Whether a call ends what was agreed on. -/
def SessionCall.releases : SessionCall → Bool
  | close | reset _ => true
  | _ => false

/-- Whether a call prepares a session for media. -/
def SessionCall.prepares : SessionCall → Bool
  | openOn _ _ | configureRtcp _ _ | enableIce _ | enableDtls | negotiate _ _ => true
  | _ => false

/-- Whether media flows by a call. -/
def SessionCall.streams : SessionCall → Bool
  | deliver _ | poll _ _ | readFrame _ | drain _ | transmit _ _ _ _ _ => true
  | _ => false

namespace MediaSession

/-- Does what a call says. -/
def perform (s : MediaSession) : SessionCall → MediaSession
  | .openOn host ports => (s.openOn host ports).2.1
  | .configureRtcp host mux => (s.configureRtcp host mux).2
  | .deliver a => s.deliver a
  | .enableIce fresh => s.enableIce fresh
  | .enableDtls => s.enableDtls.2
  | .negotiate d m => (s.negotiate d m).2
  | .updateMode mode => s.updateMode mode
  | .poll metrics now => (s.poll metrics now).2.1
  | .readFrame now => (s.readFrame now).2
  | .drain now => (s.drain now).2
  | .transmit metrics network now p overflow => (s.transmit metrics network now p overflow).2.1
  | .close => s.close
  | .reset numbering => s.reset numbering

/-- Does what the calls of a run say. -/
def run (s : MediaSession) (calls : List SessionCall) : MediaSession :=
  calls.foldl perform s

/-- What a call comes to an agreement on, if it does. -/
def agreement? (s : MediaSession) : SessionCall → Option FormatTable
  | .negotiate d m => (s.negotiate d m).1.toOption
  | _ => none

variable {s s' s'' : MediaSession}

/-- Both tables stay, and without formats nothing gets into the queue. -/
structure KeepsTables (s s' : MediaSession) : Prop where
  settings : s'.jitter.settings = s.jitter.settings
  negotiated : s'.negotiated = s.negotiated
  queue : s.jitter.formats = .empty → s.jitter.queue = [] → s'.jitter.queue = []

namespace KeepsTables

theorem formats (h : KeepsTables s s') : s'.jitter.formats = s.jitter.formats :=
  congrArg Prod.snd h.settings

theorem of_jitter (hj : s'.jitter = s.jitter) (hn : s'.negotiated = s.negotiated) :
    KeepsTables s s' :=
  ⟨by rw [hj], hn, fun _ hq => by rw [hj, hq]⟩

theorem trans (h : KeepsTables s s') (h' : KeepsTables s' s'') : KeepsTables s s'' where
  settings := h'.settings.trans h.settings
  negotiated := h'.negotiated.trans h.negotiated
  queue := fun hf hq => h'.queue (h.formats.trans hf) (h.queue hf hq)

theorem openOn (s : MediaSession) (host : Host) (ports : PortRange) :
    KeepsTables s (s.openOn host ports).2.1 := by
  unfold MediaSession.openOn
  repeat' split
  all_goals exact of_jitter rfl rfl

theorem configureRtcp (s : MediaSession) (host : Host) (mux : Bool) :
    KeepsTables s (s.configureRtcp host mux).2 := by
  simp only [MediaSession.configureRtcp]
  repeat' split
  all_goals exact of_jitter rfl rfl

theorem updateMode (s : MediaSession) (mode : Mode) : KeepsTables s (s.updateMode mode) := by
  unfold MediaSession.updateMode
  split
  · exact ⟨rfl, rfl, fun _ _ => rfl⟩
  · exact of_jitter rfl rfl

theorem receivePacket (s : MediaSession) (m : Metrics) (now : Nat) (p : Packet)
    (source : SocketAddress) : KeepsTables s (s.receivePacket m now p source).1 := by
  have hlatch : KeepsTables s (s.latch source) := by
    unfold latch
    split <;> exact of_jitter rfl rfl
  have hfollow (s : MediaSession) : KeepsTables s (s.follow p.ssrc) := by
    unfold follow
    repeat' split
    · exact of_jitter rfl rfl
    · exact of_jitter rfl rfl
    · exact ⟨rfl, rfl, fun _ _ => rfl⟩
  have hrecord (s : MediaSession) : KeepsTables s (s.record m now p).1 := by
    refine ⟨JitterBuffer.settings_writeMapped s.jitter now p, rfl, fun hf hq => ?_⟩
    show (s.jitter.writeMapped now p).2.queue = []
    rw [JitterBuffer.writeMapped_of_empty _ _ _ hf]
    exact hq
  simp only [MediaSession.receivePacket]
  split
  · exact (hlatch.trans (hfollow _)).trans (hrecord _)
  · exact hlatch

/-- By induction on what arrived. -/
theorem processInbox (now : Nat) (inbox : List Arrival) (s : MediaSession) (m : Metrics) :
    KeepsTables s (MediaSession.processInbox now inbox s m).2.1 := by
  induction inbox generalizing s m with
  | nil => exact of_jitter rfl rfl
  | cons a rest ih =>
    cases a with
    | rtp p source =>
      rw [processInbox_rtp]
      exact (receivePacket s m now p source).trans (ih _ _)
    | rtcp _ _ =>
      have hcount : KeepsTables s { s with rtcpReceived := s.rtcpReceived + 1 } := of_jitter rfl rfl
      exact hcount.trans (ih _ m)
    | rtpFailure _ => exact of_jitter rfl rfl
    | rtcpFailure _ =>
      have hbroken : KeepsTables s
          { s with transport := s.transport.map fun t => { t with rtcp := none } } :=
        of_jitter rfl rfl
      exact hbroken.trans (ih _ m)

theorem poll (s : MediaSession) (m : Metrics) (now : Nat) : KeepsTables s (s.poll m now).2.1 := by
  rw [poll_session]
  exact processInbox now _ s m

theorem readFrame (s : MediaSession) (now : Nat) : KeepsTables s (s.readFrame now).2 := by
  simp only [MediaSession.readFrame]
  split
  · refine ⟨JitterBuffer.settings_read s.jitter now, rfl, fun _ hq => ?_⟩
    show (s.jitter.read now).2.queue = []
    rw [JitterBuffer.read_of_nil _ _ hq]
    exact hq
  · exact of_jitter rfl rfl

theorem drain (s : MediaSession) (now : Nat) : KeepsTables s (s.drain now).2 := by
  simp only [MediaSession.drain]
  split
  · refine ⟨JitterBuffer.settings_readUpTo s.jitter now _, rfl, fun _ hq => ?_⟩
    show (s.jitter.drain now).2.queue = []
    rw [JitterBuffer.drain_of_nil _ _ hq]
    exact hq
  · exact of_jitter rfl rfl

theorem transmit (s : MediaSession) (m : Metrics) (network : Network) (now : Nat) (p : Payload)
    (overflow : Overflow) : KeepsTables s (s.transmit m network now p overflow).2.1 := by
  simp only [MediaSession.transmit]
  repeat' split
  all_goals exact of_jitter rfl rfl

/-- Only agreements and ends are about the tables. -/
theorem perform {c : SessionCall} (ha : s.agreement? c = none) (hr : c.releases = false) :
    KeepsTables s (s.perform c) := by
  cases c with
  | openOn host ports => exact openOn s host ports
  | configureRtcp host mux => exact configureRtcp s host mux
  | deliver a => exact of_jitter rfl rfl
  | enableIce fresh => exact of_jitter rfl rfl
  | enableDtls =>
    show KeepsTables s s.enableDtls.2
    unfold enableDtls
    split <;> exact of_jitter rfl rfl
  | negotiate d m =>
    simp only [agreement?, negotiate] at ha
    show KeepsTables s (s.negotiate d m).2
    unfold negotiate
    split
    · rename_i h
      simp [h, Except.toOption] at ha
    · exact of_jitter rfl rfl
  | updateMode mode => exact updateMode s mode
  | poll metrics now => exact poll s metrics now
  | readFrame now => exact readFrame s now
  | drain now => exact drain s now
  | transmit metrics network now p overflow => exact transmit s metrics network now p overflow
  | close => simp [SessionCall.releases] at hr
  | reset numbering => simp [SessionCall.releases] at hr

end KeepsTables

/-! ## What no call changes -/

/-- What holds of a session holds whatever is done with it. -/
def Lasting (P : MediaSession → Prop) : Prop := ∀ s c, P s → P (s.perform c)

/-- What holds of a session holds after calls of a kind. -/
def LastsThrough (kind : SessionCall → Bool) (P : MediaSession → Prop) : Prop :=
  ∀ s c, kind c = true → P s → P (s.perform c)

theorem Lasting.through {P : MediaSession → Prop} (h : Lasting P) (kind : SessionCall → Bool) :
    LastsThrough kind P :=
  fun s c _ => h s c

theorem setup_perform (s : MediaSession) (c : SessionCall) : (s.perform c).setup = s.setup := by
  cases c with
  | openOn host ports => exact setup_openOn s host ports
  | configureRtcp host mux => exact setup_configureRtcp s host mux
  | enableDtls =>
    show s.enableDtls.2.setup = s.setup
    unfold enableDtls
    split <;> rfl
  | negotiate d m => exact setup_negotiate s d m
  | poll metrics now => exact setup_poll s metrics now
  | readFrame now =>
    simp only [perform, readFrame]
    split <;> rfl
  | drain now => exact setup_drain s now
  | transmit metrics network now p overflow => exact setup_transmit s metrics network now p overflow
  | _ => rfl

theorem setup_run (s : MediaSession) (calls : List SessionCall) : (s.run calls).setup = s.setup := by
  induction calls generalizing s with
  | nil => rfl
  | cons c rest ih => exact (ih (s.perform c)).trans (setup_perform s c)

theorem config_perform (s : MediaSession) (c : SessionCall) :
    (s.perform c).jitter.config = s.jitter.config := by
  cases c with
  | negotiate d m =>
    show (s.negotiate d m).2.jitter.config = s.jitter.config
    unfold negotiate
    split <;> rfl
  | close | reset _ => rfl
  | _ => exact congrArg Prod.fst (KeepsTables.perform rfl rfl).settings

theorem lasting_seat (id : UInt32) (config : JitterConfig) :
    Lasting fun s => s.seat.connection = id ∧ s.jitter.config = config := by
  rintro s c ⟨hid, hconfig⟩
  have hseat : (s.perform c).seat = s.seat := congrArg SessionSetup.seat (setup_perform s c)
  exact ⟨hseat ▸ hid, (config_perform s c).trans hconfig⟩

end MediaSession

end MediaGateway
