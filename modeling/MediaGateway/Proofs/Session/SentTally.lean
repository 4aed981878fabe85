import MediaGateway.Proofs.Session.Modes
import MediaGateway.Proofs.Session.Sending
import Mathlib.Algebra.GroupWithZero.Nat

/-!
# What a session counts as sent

A session keeps one set of statistics for what it sends and for what it receives. When what it
receives comes from another source than before, the statistics begin anew, and what was sent until
then is forgotten with what was received.

An onlooker who writes down what a session sends, and how much of it was sent before the source
changed last, knows what the session counts: that which was sent later. This is all that was sent
exactly as long as nothing was sent before.
-/

namespace MediaGateway

/-- Whether a call that was to send a payload has sent it. -/
def MediaSession.wentOut : Attempt (Except SessionError (Option Outgoing)) → Bool
  | .ok (.ok (some _)) => true
  | .ok (.ok none) | .ok (.error _) | .error _ => false

/-! ## The onlooker -/

/-- What an onlooker has seen a session send since it was opened. -/
structure SentTally where
  /-- The lengths of the payloads. -/
  lengths : List Nat := []
  /-- How many of them were sent before the session last heard another source. -/
  earlier : Nat := 0
deriving DecidableEq

namespace SentTally

/-- With one more payload. -/
def add (t : SentTally) (length : Nat) : SentTally :=
  { t with lengths := t.lengths ++ [length] }

/-- With all payloads sent before another source. -/
def turn (t : SentTally) : SentTally :=
  { t with earlier := t.lengths.length }

/-- The lengths of the payloads that were sent since the session last heard another source. -/
def later (t : SentTally) : List Nat :=
  t.lengths.drop t.earlier

/-- After a call of a session. -/
def after (t : SentTally) (s : MediaSession) : SessionCall → SentTally
  | .openOn _ _ => if s.isOpen then t else {}
  | .transmit m network now p overflow =>
    if MediaSession.wentOut (s.transmit m network now p overflow).1 then t.add p.data.length else t
  | .poll _ _ => if s.hearsAnother then t.turn else t
  | .close | .reset _ => {}
  | .configureRtcp _ _ | .deliver _ | .enableIce _ | .enableDtls | .negotiate _ _ | .updateMode _
  | .readFrame _ | .drain _ => t

/-- After the calls of a run. -/
def afterAll (t : SentTally) (s : MediaSession) : List SessionCall → SentTally
  | [] => t
  | c :: rest => (t.after s c).afterAll (s.perform c) rest

theorem later_add (t : SentTally) (h : t.earlier ≤ t.lengths.length) (length : Nat) :
    (t.add length).later = t.later ++ [length] := by
  unfold later add
  exact List.drop_append_of_le_length h

theorem later_turn (t : SentTally) : t.turn.later = [] := by
  unfold later turn
  exact List.drop_length

theorem later_length (t : SentTally) : t.later.length = t.lengths.length - t.earlier := by
  unfold later
  exact List.length_drop

end SentTally

namespace MediaSession

variable {s : MediaSession} {c : SessionCall}

/-! ## Sockets -/

theorem isOpen_of_handover {handover : Handover} (h : s.handover? c = some handover) :
    s.isOpen = true := by
  obtain ⟨_, _, -, -, hout⟩ := handover?_eq_some h
  obtain ⟨t, -, ht, -⟩ := exists_of_outgoing hout
  rw [isOpen, ht]
  rfl

/-- Only closing takes the sockets away. -/
theorem isOpen_perform_of_isOpen (hc : c.releases = false) (h : s.isOpen = true) :
    (s.perform c).isOpen = true := by
  have hreception : (s.perform c).isOpen = (s.reception.after (s.agreement? c) s.inbox c).isOpen :=
    congrArg Reception.isOpen (s.reception_perform c)
  cases c with
  | close | reset _ => cases hc
  | openOn host ports =>
    rw [hreception]
    show (s.isOpen || _) = true
    rw [h]
    rfl
  | negotiate d md =>
    rw [hreception]
    unfold Reception.after
    cases s.agreement? (.negotiate d md) with
    | none => exact h
    | some formats => exact h
  | deliver _ | poll _ _ | readFrame _ | drain _ | transmit _ _ _ _ _ =>
    rw [isOpen_perform rfl]
    exact h
  | configureRtcp _ _ | enableIce _ | enableDtls | updateMode _ => exact hreception.trans h

/-! ## One payload -/

/-- What is sent is counted when it is sent, and nothing else is. -/
theorem statistics_transmit (s : MediaSession) (m : Metrics) (network : Network) (now : Nat)
    (p : Payload) (overflow : Overflow) :
    let r := s.transmit m network now p overflow
    (wentOut r.1 = false ∧ r.2.1.statistics.sent = s.statistics.sent ∧
      r.2.1.statistics.bytesSent = s.statistics.bytesSent) ∨
    (wentOut r.1 = true ∧ s.isOpen = true ∧ r.2.1.statistics.sent = s.statistics.sent + 1 ∧
      r.2.1.statistics.bytesSent = s.statistics.bytesSent + p.data.length) := by
  intro r
  cases hover : s.handover? (.transmit m network now p overflow) with
  | none =>
    obtain ⟨result, hresult, hnothing⟩ := transmit_of_none hover
    have hr : r = (result, s, m) := hnothing network
    rw [hr]
    refine .inl ⟨?_, rfl, rfl⟩
    cases hresult <;> rfl
  | some handover =>
    have hopen : s.isOpen = true := isOpen_of_handover hover
    rcases transmit_of_handover hover with ⟨_, -, hresult, hemission⟩ | ⟨hresult, hemission⟩
    · refine .inl ⟨?_, congrArg Emission.packets hemission, congrArg Emission.octets hemission⟩
      exact congrArg wentOut hresult
    · refine .inr ⟨?_, hopen, congrArg Emission.packets hemission,
        congrArg Emission.octets hemission⟩
      exact congrArg wentOut hresult

end MediaSession

namespace SentTally

/-! ## Runs -/

/-- A session counts what an onlooker has seen it send since it last heard another source. -/
structure Explains (t : SentTally) (s : MediaSession) : Prop where
  earlier_le : t.earlier ≤ t.lengths.length
  sent : s.statistics.sent = t.later.length
  bytesSent : s.statistics.bytesSent = t.later.sum
  /-- A closed session has sent nothing. -/
  closed : s.isOpen = false → t = {}

namespace Explains

variable {t : SentTally} {s s' : MediaSession}

theorem nothing (h : s.emission.packets = 0 ∧ s.emission.octets = 0) : Explains {} s where
  earlier_le := Nat.le_refl 0
  sent := h.1
  bytesSent := h.2
  closed := fun _ => rfl

theorem of_emission (h : t.Explains s) (hemission : s'.emission = s.emission)
    (hopen : s.isOpen = true → s'.isOpen = true) : t.Explains s' where
  earlier_le := h.earlier_le
  sent := (congrArg Emission.packets hemission).trans h.sent
  bytesSent := (congrArg Emission.octets hemission).trans h.bytesSent
  closed := fun hclosed => by
    refine h.closed ?_
    cases hs : s.isOpen with
    | false => rfl
    | true =>
      rw [hopen hs] at hclosed
      cases hclosed

theorem openOn (h : t.Explains s) (host : Host) (ports : PortRange) :
    (t.after s (.openOn host ports)).Explains (s.perform (.openOn host ports)) := by
  have hopened : t.Explains (s.perform (.openOn host ports)) :=
    h.of_emission (MediaSession.emission_perform rfl) (MediaSession.isOpen_perform_of_isOpen rfl)
  show (if s.isOpen then t else {}).Explains _
  cases hs : s.isOpen with
  | true => exact hopened
  | false =>
    -- A tally that begins now has nothing to forget.
    obtain rfl := h.closed hs
    exact hopened

theorem transmit (h : t.Explains s) (m : Metrics) (network : Network) (now : Nat)
    (p : MediaSession.Payload) (overflow : Overflow) :
    (t.after s (.transmit m network now p overflow)).Explains
      (s.perform (.transmit m network now p overflow)) := by
  have hkept : (s.perform (.transmit m network now p overflow)).isOpen = s.isOpen :=
    MediaSession.isOpen_perform rfl
  show (if MediaSession.wentOut (s.transmit m network now p overflow).1 then t.add p.data.length
    else t).Explains _
  rcases s.statistics_transmit m network now p overflow with ⟨hresult, hsent, hoctets⟩ |
    ⟨hresult, hopen, hsent, hoctets⟩
  · rw [hresult]
    exact ⟨h.earlier_le, hsent.trans h.sent, hoctets.trans h.bytesSent,
      fun hclosed => h.closed (hkept ▸ hclosed)⟩
  · have hlater : (t.add p.data.length).later = t.later ++ [p.data.length] :=
      t.later_add h.earlier_le p.data.length
    rw [hresult]
    refine ⟨?_, ?_, ?_, fun hclosed => ?_⟩
    · show t.earlier ≤ (t.lengths ++ [p.data.length]).length
      rw [List.length_append]
      exact Nat.le_add_right_of_le h.earlier_le
    · rw [if_pos rfl, hlater, List.length_append, ← h.sent]
      exact hsent
    · rw [if_pos rfl, hlater, List.sum_append, ← h.bytesSent]
      exact hoctets
    · rw [hkept, hopen] at hclosed
      cases hclosed

theorem poll (h : t.Explains s) (m : Metrics) (now : Nat) :
    (t.after s (.poll m now)).Explains (s.perform (.poll m now)) := by
  have hkept : (s.perform (.poll m now)).isOpen = s.isOpen := MediaSession.isOpen_perform rfl
  have hemission : (s.perform (.poll m now)).emission =
      if s.hearsAnother then s.emission.forget else s.emission :=
    MediaSession.emission_perform rfl
  show (if s.hearsAnother then t.turn else t).Explains _
  cases hanother : s.hearsAnother with
  | false =>
    rw [hanother] at hemission
    exact h.of_emission hemission fun hopen => hkept.trans hopen
  | true =>
    rw [hanother] at hemission
    refine ⟨Nat.le_refl _, ?_, ?_, fun hclosed => ?_⟩
    · rw [if_pos rfl, t.later_turn]
      exact congrArg Emission.packets hemission
    · rw [if_pos rfl, t.later_turn]
      exact congrArg Emission.octets hemission
    · rw [if_pos rfl, h.closed (hkept ▸ hclosed)]
      rfl

theorem perform (h : t.Explains s) (c : SessionCall) : (t.after s c).Explains (s.perform c) := by
  cases c with
  | openOn host ports => exact h.openOn host ports
  | transmit m network now p overflow => exact h.transmit m network now p overflow
  | poll m now => exact h.poll m now
  | close | reset _ => exact nothing ⟨rfl, rfl⟩
  | configureRtcp _ _ | deliver _ | enableIce _ | enableDtls | negotiate _ _ | updateMode _
  | readFrame _ | drain _ =>
    exact h.of_emission (MediaSession.emission_perform rfl)
      (MediaSession.isOpen_perform_of_isOpen rfl)

/-- By induction on the calls. -/
theorem afterAll (h : t.Explains s) (calls : List SessionCall) :
    (t.afterAll s calls).Explains (s.run calls) := by
  induction calls generalizing s t with
  | nil => exact h
  | cons c rest ih => exact ih (h.perform c)

/-- What was sent before another source is missing. -/
theorem all_iff (h : t.Explains s) :
    (s.statistics.sent = t.lengths.length ∧ s.statistics.bytesSent = t.lengths.sum) ↔
      t.earlier = 0 := by
  have hearlier := h.earlier_le
  have hsent := h.sent
  rw [t.later_length] at hsent
  constructor
  · rintro ⟨hall, -⟩
    omega
  · intro hnone
    have hlater : t.later = t.lengths := by
      unfold later
      rw [hnone]
      exact List.drop_zero
    rw [h.sent, h.bytesSent, hlater]
    exact ⟨rfl, rfl⟩

end Explains

end SentTally

namespace MediaSession

/-- In any run, a session counts the packets that it has sent, and their payload bytes, since it was
opened or has last heard another source than before. These are all that it has sent since it was
opened exactly as long as it had sent nothing before. -/
theorem sent_since_another_source (seat : Seat) (config : SessionConfig) (numbering : Numbering)
    (calls : List SessionCall) :
    let fresh := make seat config numbering
    let s := fresh.run calls
    let t := SentTally.afterAll {} fresh calls
    t.earlier ≤ t.lengths.length ∧
    s.statistics.sent = (t.lengths.drop t.earlier).length ∧
    s.statistics.bytesSent = (t.lengths.drop t.earlier).sum ∧
    ((s.statistics.sent = t.lengths.length ∧ s.statistics.bytesSent = t.lengths.sum) ↔
      t.earlier = 0) := by
  intro fresh s t
  have hfresh : SentTally.Explains {} fresh := .nothing ⟨rfl, rfl⟩
  have hrun : t.Explains s := hfresh.afterAll calls
  exact ⟨hrun.earlier_le, hrun.sent, hrun.bytesSent, hrun.all_iff⟩

/-- A session that sends three bytes, then hears two sources, and sends two bytes more. -/
def divertedCalls : List SessionCall :=
  let offered : Sdp.MediaSection := { media := "audio", port := 4000, formats := ["0"] }
  let d : Sdp.Description :=
    { origin := .make "1" "127.0.0.1", sessionName := "-", connection := some (.make "127.0.0.1")
      media := [offered] }
  let wire : Network := { Network.isolated with passage := fun _ _ _ => .delivered }
  let packet (ssrc : UInt32) (n : UInt16) : SessionCall :=
    .deliver (.rtp (.make 0 n 160 ssrc [9] false) ⟨.loopback, 4000⟩)
  [.openOn ⟨.isolated, .loopback, []⟩ (.make 0 0), .negotiate d offered, .updateMode .sendRecv,
    .transmit {} wire 10 (.media [1, 2, 3] false), packet 5 20000, .poll {} 20, packet 6 100,
    .poll {} 30, .transmit {} wire 40 (.media [4, 5] false)]

/-- The session is open all the time and has sent two packets, but counts only the second. -/
theorem another_source_hides_sent_packet :
    let fresh := make ⟨1, .audio⟩ ⟨.default, Profile.audio, none⟩ default
    let s := fresh.run divertedCalls
    let t := SentTally.afterAll {} fresh divertedCalls
    s.isOpen = true ∧ t.lengths = [3, 2] ∧
    s.statistics.sent = 1 ∧ s.statistics.bytesSent = 2 ∧
    ¬ (s.statistics.sent = t.lengths.length ∧ s.statistics.bytesSent = t.lengths.sum) := by
  decide +kernel

end MediaSession

end MediaGateway
