import MediaGateway.Proofs.Connection.Modes
import MediaGateway.Proofs.Gateway.Renewal

/-!
# One mode for a connection and its sessions

The mode of a connection is kept three times: with the connection, with each session of its call, and
in what waits in the jitter buffers to be played. `CallView.Coherent` says how they agree, and every
step of a call keeps it. Only a session that was closed because it came to no agreement may differ
from its connection, until the connection gets another mode or ends.
-/

namespace MediaGateway

namespace CallView

variable {n : Network} {v v' : CallView}

/-- How the mode of a connection agrees with its sessions. -/
structure Coherent (v : CallView) : Prop where
  /-- A session that is open is in the mode of the connection. -/
  opened : ∀ s ∈ v.call.sessions, s.HasMode v.mode
  /-- As long as the connection is not open, every session is. -/
  waiting : v.state ≠ .opened → v.call.InMode v.mode
  /-- An idle connection is inactive. -/
  idle : v.state = .null → v.mode = .inactive
  /-- Without receiving, nothing waits to be played. -/
  hushed : ∀ s ∈ v.call.sessions, s.IsHushed

/-- All sessions are in the mode of the connection. -/
theorem Coherent.of_inMode {state : ConnectionState} {mode : Mode} {call : Call}
    (hcall : call.InMode mode) (hidle : state = .null → mode = .inactive)
    (hhush : ∀ s ∈ call.sessions, s.IsHushed) : Coherent ⟨state, mode, call⟩ :=
  ⟨fun s hs _ => hcall s hs, fun _ => hcall, hidle, hhush⟩

theorem inMode_close (call : Call) : call.close.InMode .inactive := by
  intro s hs
  obtain ⟨t, -, rfl⟩ := Call.mem_sessions_mapSessions.1 hs
  rfl

/-- Media changes neither the mode of a session nor whether it is open. -/
theorem Coherent.of_streams {state : ConnectionState} {mode : Mode} {call call' : Call}
    (h : Coherent ⟨state, mode, call⟩)
    (hkeep : ∀ Q : Bool → Mode → Prop, (∀ s ∈ call.sessions, Q s.isOpen s.mode) →
      ∀ s ∈ call'.sessions, Q s.isOpen s.mode)
    (hhush : ∀ s ∈ call'.sessions, s.IsHushed) : Coherent ⟨state, mode, call'⟩ where
  opened := hkeep (fun isOpen m => isOpen = true → m = mode) h.opened
  waiting := fun hs => hkeep (fun _ m => m = mode) (h.waiting hs)
  idle := h.idle
  hushed := hhush

/-- Every step keeps the modes coherent. -/
theorem Coherent.step {config : GatewayConfig} (h : v.Coherent) (hsound : v.Sound config)
    (hs : Step n v v') : v'.Coherent := by
  have hhush := hs.sessions MediaSession.lasting_isHushed h.hushed
  have hkeeps (Q : Bool → Mode → Prop) (hq : ∀ s ∈ v.call.sessions, Q s.isOpen s.mode) :
      v.call.Keeps (fun s => Q s.isOpen s.mode) v.call.sink := ⟨hq, rfl⟩
  cases hs with
  | @bind mode call numbering cname =>
    have hinactive : mode = .inactive := h.idle rfl
    refine .of_inMode (fun s hs => ?_) (by simp) hhush
    obtain ⟨t, -, rfl⟩ := (Call.mem_sessions_mapSessions (c := call)
      (f := fun s => s.reset (numbering s.seat))).1 hs
    exact hinactive.symm
  | @«open» mode call => exact .of_inMode (h.waiting (by simp)) (by simp) hhush
  | finish => exact .of_inMode (inMode_close _) (fun _ => rfl) hhush
  | @setMode state old call mode hbound =>
    refine .of_inMode (fun s hs => ?_) (fun hnull => by simp [hnull, ConnectionState.isBound] at hbound)
      hhush
    obtain ⟨t, -, rfl⟩ := (Call.mem_sessions_mapSessions (c := call)).1 hs
    rfl
  | @offer mode call w ports browser description call' ports' hw hm =>
    have hmade := Call.InMode.makeOffer (h.waiting (by simp)) w ports browser
    rw [hm] at hmade
    exact .of_inMode hmade (by simp) hhush
  | @answer mode call w ports text description call' ports' hw hm =>
    have hopen := (Call.modes_of_answerOffer hsound.isSeated (h.waiting (by simp)) hm).1
    exact ⟨hopen, fun h => absurd rfl h, by simp, hhush⟩
  | @accept mode call w text call' hw hm =>
    have hopen := Call.InMode.applyAnswer (h.waiting (by simp)) w text
    rw [hm] at hopen
    exact ⟨hopen, fun h => absurd rfl h, by simp, hhush⟩
  | offerFailed hw hm | answerFailed hw hm | acceptFailed hw hm =>
    exact .of_inMode (inMode_close _) (fun _ => rfl) hhush
  | @poll state mode call metrics now r call' metrics' hbound hp =>
    refine h.of_streams (fun Q hq => ?_) hhush
    have hpoll := (hkeeps Q hq).poll (MediaSession.lastsThrough_streams Q) metrics now
    rw [hp] at hpoll
    exact hpoll.sessions
  | @play state mode call now =>
    exact h.of_streams (fun Q hq =>
      ((hkeeps Q hq).play (MediaSession.lastsThrough_streams Q) now).sessions) hhush
  | @transmit state mode call media s metrics network now p overflow r s' metrics' hs ht =>
    refine h.of_streams (fun Q hq => ?_) hhush
    have hsend := MediaSession.lastsThrough_streams Q s (.transmit metrics network now p overflow) rfl
      ((hkeeps Q hq).session? hs)
    simp only [MediaSession.perform, ht] at hsend
    exact ((hkeeps Q hq).withSession hsend).sessions
  | @arrive state mode call media s a hs =>
    refine h.of_streams (fun Q hq => ?_) hhush
    have hlost := MediaSession.lastsThrough_streams Q s (.deliver a) rfl ((hkeeps Q hq).session? hs)
    exact ((hkeeps Q hq).withSession hlost).sessions
  | installSink sink => exact ⟨h.opened, h.waiting, h.idle, h.hushed⟩

end CallView

namespace Gateway

variable {g g' : Gateway}

/-- All calls are sound, and their modes coherent. -/
structure ModesCohere (g : Gateway) : Prop where
  sound : g.CallsSound
  coherent : ∀ k v, g.view? k = some v → v.Coherent

theorem coherent_newCall (g : Gateway) (id : UInt32) :
    CallView.Coherent ⟨.null, .inactive, g.newCall id⟩ := by
  have hfresh : ∀ s ∈ (g.newCall id).sessions, s.mode = .inactive ∧ s.jitter.queue = [] := by
    intro s hs
    rcases Call.mem_sessions.1 hs with rfl | hs
    · exact ⟨rfl, rfl⟩
    · simp only [newCall, Option.mem_def, Option.map_eq_some_iff] at hs
      obtain ⟨config, -, rfl⟩ := hs
      exact ⟨rfl, rfl⟩
  exact .of_inMode (fun s hs => (hfresh s hs).1) (fun _ => rfl) fun s hs _ => (hfresh s hs).2

theorem ModesCohere.piece (h : g.ModesCohere) (hp : Piece g g') : g'.ModesCohere := by
  refine ⟨h.sound.piece hp, fun k v' hv => ?_⟩
  rcases hp.view hv with ⟨v, hold, rfl | hs⟩ | ⟨id, rfl⟩
  · exact h.coherent k v hold
  · exact (h.coherent k v hold).step (h.sound k v hold) hs
  · exact coherent_newCall g id

/-- After every run, the modes of all calls are coherent. -/
theorem modesCohere_run (config : GatewayConfig) (environment : Environment)
    (actions : List Action) : ((make config environment).run actions).ModesCohere := by
  refine run_induction (I := ModesCohere) ⟨fun k v hv => ?_, fun k v hv => ?_⟩
    (fun _ _ hp h => h.piece hp) fun _ _ _ h => ⟨h.sound, h.coherent⟩
  · simp [view?, get?, make] at hv
  · simp [view?, get?, make] at hv

end Gateway

end MediaGateway
