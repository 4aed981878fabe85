import MediaGateway.Proofs.Connection.Call
import MediaGateway.Proofs.Session.Run

/-!
# What is done with the sessions of a call

Whatever is done with a call, what it does with its sessions are calls of these. So what lasts for a
session holds of all sessions of a call at any time, and its frames go where they went before.
-/

namespace MediaGateway

variable {P : MediaSession → Prop} {w : Surroundings}

namespace MediaSession

variable {s : MediaSession}

section Preparing

variable (hP : LastsThrough SessionCall.prepares P)
include hP

theorem LastsThrough.prepare (h : P s) (w : Surroundings) (ports : PortRange)
    (mux : Bool) : P (s.prepare w ports mux).2.1 := by
  have hopen : P (s.openOn w.host ports).2.1 := hP s (.openOn w.host ports) rfl h
  unfold MediaSession.prepare
  split
  · rename_i he
    rwa [he] at hopen
  · rename_i s' ports' he
    rw [he] at hopen
    exact hP s' (.configureRtcp w.host mux) rfl hopen

theorem LastsThrough.checkIf (h : P s) (w : Surroundings) (wanted : Bool) :
    P (s.checkIf w wanted) := by
  unfold MediaSession.checkIf
  split
  · exact hP s (.enableIce (w.credentials s.seat)) rfl h
  · exact h

theorem LastsThrough.protectIf (h : P s) (wanted : Bool) :
    P (s.protectIf wanted).2 := by
  unfold MediaSession.protectIf
  split
  · exact hP s .enableDtls rfl h
  · exact h

theorem LastsThrough.prepareOffer (h : P s) (w : Surroundings) (ports : PortRange)
    (browser : Bool) : P (s.prepareOffer w ports browser).2.1 := by
  have hprepare := hP.prepare h w ports browser
  unfold MediaSession.prepareOffer
  split
  · rename_i he
    rwa [he] at hprepare
  · rename_i s' ports' he
    rw [he] at hprepare
    have hprotect := hP.protectIf (hP.checkIf hprepare w browser) browser
    split <;> simp_all

theorem LastsThrough.prepareAnswer (h : P s) (w : Surroundings) (ports : PortRange)
    (d : Sdp.Description) (m : Sdp.MediaSection) : P (s.prepareAnswer w ports d m).2.1 := by
  have hprepare := hP.prepare h w ports m.rtcpMux
  unfold MediaSession.prepareAnswer
  split
  · rename_i he
    rwa [he] at hprepare
  · rename_i s' ports' he
    rw [he] at hprepare
    have hprotect := hP.protectIf (hP.checkIf hprepare w d.containsIce) d.containsDtls
    split
    · simp_all
    · rename_i s'' he'
      rw [he'] at hprotect
      have hnegotiate : P (s''.negotiate d m).2 := hP s'' (.negotiate d m) rfl hprotect
      split <;> simp_all

theorem LastsThrough.connect (h : P s) (w : Surroundings) (d : Sdp.Description)
    (m : Sdp.MediaSection) : P (s.connect w d m).2 := by
  have hconfigure : P (s.configureRtcp w.host m.rtcpMux).2 :=
    hP s (.configureRtcp w.host m.rtcpMux) rfl h
  unfold MediaSession.connect
  split
  · rename_i he
    rwa [he] at hconfigure
  · rename_i s' he
    rw [he] at hconfigure
    have hnegotiate : P (s'.negotiate d m).2 := hP s' (.negotiate d m) rfl hconfigure
    split <;> simp_all

end Preparing

end MediaSession

namespace Call

open MediaSession (Lasting LastsThrough)

/-- All sessions of the call are `P`, and its frames go to a sink. -/
structure Keeps (P : MediaSession → Prop) (sink : Option Nat) (c : Call) : Prop where
  sessions : ∀ s ∈ c.sessions, P s
  sink : c.sink = sink

namespace Keeps

variable {c : Call} {sink : Option Nat}

/-- Nothing is said of the sessions. -/
theorem any (c : Call) : c.Keeps (fun _ => True) c.sink := ⟨fun _ _ => trivial, rfl⟩

theorem withSession (h : c.Keeps P sink) {s : MediaSession} (hs : P s) :
    (c.withSession s).Keeps P sink where
  sessions := by
    intro t ht
    rcases mem_sessions_withSession ht with rfl | ht
    · exact hs
    · exact h.sessions t ht
  sink := by
    rw [← h.sink]
    unfold Call.withSession
    split <;> rfl

theorem mapSessions (h : c.Keeps P sink) {f : MediaSession → MediaSession}
    (hf : ∀ s, P s → P (f s)) : (c.mapSessions f).Keeps P sink where
  sessions := by
    intro t ht
    obtain ⟨s, hs, rfl⟩ := mem_sessions_mapSessions.1 ht
    exact hf s (h.sessions s hs)
  sink := h.sink

theorem withExchange (h : c.Keeps P sink) (exchange : Exchange) :
    ({ c with exchange } : Call).Keeps P sink :=
  ⟨h.sessions, h.sink⟩

theorem session? (h : c.Keeps P sink) {m : MediaType} {s : MediaSession}
    (hs : c.session? m = some s) : P s :=
  h.sessions s (mem_of_session? hs)

section Preparing

variable (hP : LastsThrough SessionCall.prepares P)
include hP

/-- By induction on the sessions that are got ready. -/
theorem offerSessions (browser : Bool) {ss : List MediaSession} (hss : ∀ s ∈ ss, P s)
    (h : c.Keeps P sink) (ports : PortRange) :
    (Call.offerSessions w browser ss c ports).2.1.Keeps P sink := by
  induction ss generalizing c ports with
  | nil => exact h
  | cons s rest ih =>
    obtain ⟨hs, hrest⟩ := List.forall_mem_cons.1 hss
    have hready := hP.prepareOffer hs (c.around w) ports browser
    simp only [Call.offerSessions]
    split
    · rename_i he
      rw [he] at hready
      exact h.withSession hready
    · rename_i l s' ports' he
      rw [he] at hready
      have hnext := ih hrest (h.withSession hready) ports'
      split <;> simp_all

theorem makeOffer (h : c.Keeps P sink) (w : Surroundings) (ports : PortRange) (browser : Bool) :
    (c.makeOffer w ports browser).2.1.Keeps P sink := by
  have hcalling : c.calling.Keeps P sink := h.withExchange _
  have hoffer := offerSessions (w := w) hP browser h.sessions hcalling ports
  rw [makeOffer_eq]
  split <;> rename_i he <;> rw [he] at hoffer
  · exact hoffer
  · exact hoffer.withExchange _

end Preparing

section Streaming

variable (hP : LastsThrough SessionCall.streams P)
include hP

theorem play (h : c.Keeps P sink) (now : Nat) : (c.play now).2.Keeps P sink :=
  h.mapSessions fun s => hP s (.drain now) rfl

/-- By induction on the sessions that are polled. -/
theorem pollSessions (now : Nat) {ss : List MediaSession} (hss : ∀ s ∈ ss, P s)
    (h : c.Keeps P sink) (m : Metrics) :
    (Call.pollSessions now ss c m).2.1.Keeps P sink := by
  induction ss generalizing c m with
  | nil => exact h
  | cons s rest ih =>
    obtain ⟨hs, hrest⟩ := List.forall_mem_cons.1 hss
    have hpoll : P (s.poll m now).2.1 := hP s (.poll m now) rfl hs
    simp only [Call.pollSessions]
    split
    · split
      · rename_i he
        rw [he] at hpoll
        exact h.withSession hpoll
      · rename_i n s' m' he
        rw [he] at hpoll
        have hnext := ih hrest (h.withSession hpoll) m'
        split <;> simp_all
    · exact ih hrest h m

theorem poll (h : c.Keeps P sink) (m : Metrics) (now : Nat) : (c.poll m now).2.1.Keeps P sink :=
  pollSessions hP now h.sessions h m

end Streaming

section Lasting

variable (hP : Lasting P)
include hP

theorem close (h : c.Keeps P sink) : c.close.Keeps P sink :=
  h.mapSessions fun s => hP s .close

theorem renew (h : c.Keeps P sink) (numbering : Seat → Numbering) (cname : String) :
    (c.renew numbering cname).Keeps P sink :=
  (h.mapSessions fun s => hP s (.reset (numbering s.seat))).withExchange _

theorem updateMode (h : c.Keeps P sink) (mode : Mode) : (c.updateMode mode).Keeps P sink :=
  h.mapSessions fun s => hP s (.updateMode mode)

/-- By induction on the sections of the offer. -/
theorem answerSections (h : c.Keeps P sink) (w : Surroundings) (d : Sdp.Description)
    (ms : List Sdp.MediaSection) (answered : List MediaType) (ports : PortRange) :
    (Call.answerSections w d ms answered c ports).2.1.Keeps P sink := by
  induction ms generalizing c answered ports with
  | nil => exact h
  | cons m rest ih =>
    rw [Call.answerSections]
    cases hs : (answeredMedium? answered m).bind c.session? with
    | none => exact ih h _ _
    | some s =>
      obtain ⟨medium, -, hmedium⟩ := Option.bind_eq_some_iff.1 hs
      have hready := (hP.through _).prepareAnswer (h.session? hmedium) (c.around w) ports d m
      rcases he : s.prepareAnswer (c.around w) ports d m with ⟨e | l, s', ports'⟩
      · rw [he] at hready
        simp only [he]
        split
        · exact ih (h.withSession (hP s' .close hready)) _ _
        · exact h.withSession hready
      · rw [he] at hready
        simp only [he]
        exact ih (h.withSession hready) _ _

theorem answerOffer (h : c.Keeps P sink) (w : Surroundings) (ports : PortRange) (text : String) :
    (c.answerOffer w ports text).2.1.Keeps P sink := by
  have hcalled : c.called.Keeps P sink := h.withExchange _
  rw [answerOffer_eq]
  split
  · exact h
  · rename_i d m _
    have hanswer := answerSections hP hcalled w d d.media [] ports
    split <;> rename_i he <;> rw [he] at hanswer
    · exact hanswer
    · exact hanswer.withExchange _

theorem connectVideo (h : c.Keeps P sink) (w : Surroundings) (d : Sdp.Description) :
    (c.connectVideo w d).2.Keeps P sink := by
  unfold Call.connectVideo
  cases hv : c.video with
  | none => exact h
  | some s =>
    have hs : P s := h.session? (m := .video) hv
    cases d.sectionFor? .video with
    | none => exact h.withSession (hP s .close hs)
    | some m =>
      have hconnect := (hP.through _).connect hs (c.around w) d m
      simp only
      split <;> rename_i s' he <;> rw [he] at hconnect
      · exact h.withSession hconnect
      · split
        · exact h.withSession (hP s' .close hconnect)
        · exact h.withSession hconnect

theorem applyAnswer (h : c.Keeps P sink) (w : Surroundings) (text : String) :
    (c.applyAnswer w text).2.Keeps P sink := by
  unfold Call.applyAnswer
  split
  · exact h
  · rename_i d m _
    have hconnect := (hP.through _).connect (h.session? (m := .audio) rfl) (c.around w) d m
    split <;> rename_i s he <;> rw [he] at hconnect
    · exact h.withSession hconnect
    · have hvideo := connectVideo hP (h.withSession hconnect) w d
      split <;> rename_i he' <;> rw [he'] at hvideo
      · exact hvideo
      · exact hvideo.withExchange _

end Lasting

end Keeps

/-! ## Where frames go -/

section Sink

variable (c : Call)

theorem sink_withSession (s : MediaSession) : (c.withSession s).sink = c.sink :=
  ((Keeps.any c).withSession trivial).sink

theorem sink_makeOffer (w : Surroundings) (ports : PortRange) (browser : Bool) :
    (c.makeOffer w ports browser).2.1.sink = c.sink :=
  (Keeps.makeOffer (fun _ _ _ => id) (.any c) w ports browser).sink

theorem sink_answerOffer (w : Surroundings) (ports : PortRange) (text : String) :
    (c.answerOffer w ports text).2.1.sink = c.sink :=
  (Keeps.answerOffer (fun _ _ => id) (.any c) w ports text).sink

theorem sink_applyAnswer (w : Surroundings) (text : String) :
    (c.applyAnswer w text).2.sink = c.sink :=
  (Keeps.applyAnswer (fun _ _ => id) (.any c) w text).sink

theorem sink_poll (m : Metrics) (now : Nat) : (c.poll m now).2.1.sink = c.sink :=
  (Keeps.poll (fun _ _ _ => id) (.any c) m now).sink

end Sink

end Call

end MediaGateway
