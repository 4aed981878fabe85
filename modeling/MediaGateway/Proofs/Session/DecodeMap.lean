import MediaGateway.Proofs.Session.Run

/-!
# What payload numbers mean to a session

What a session agreed on is kept twice: the session sends by its own table, and its jitter buffer
takes received packets by another one. An agreement sets both. The end of a session empties the
first one only, so what the session agreed on before still says what received packets mean, until
there is another agreement.
-/

namespace MediaGateway

/-- What a session agreed on last, and whether it has ended since. -/
structure Accord where
  table : Option FormatTable := none
  ended : Bool := false
deriving DecidableEq

namespace Accord

/-- The formats that were agreed on last. -/
def formats (a : Accord) : FormatTable := a.table.getD .empty

/-- After a call of a session. -/
def after (a : Accord) (s : MediaSession) (c : SessionCall) : Accord :=
  match s.agreement? c with
  | some formats => ⟨some formats, false⟩
  | none => if c.releases then { a with ended := true } else a

/-- After the calls of a run. -/
def afterAll (a : Accord) (s : MediaSession) : List SessionCall → Accord
  | [] => a
  | c :: rest => (a.after s c).afterAll (s.perform c) rest

end Accord

namespace MediaSession

variable {s : MediaSession}

/-- What the tables of a session have to do with what it agreed on last. -/
structure KeepsTo (s : MediaSession) (a : Accord) : Prop where
  formats : s.jitter.formats = a.formats
  negotiated : s.negotiated = if a.ended then .empty else a.formats
  nonempty : ∀ table, a.table = some table → table ≠ .empty
  queue : a.table = none → s.jitter.queue = []

theorem KeepsTo.make (seat : Seat) (config : SessionConfig) (numbering : Numbering) :
    (make seat config numbering).KeepsTo {} where
  formats := rfl
  negotiated := rfl
  nonempty := fun _ h => by cases h
  queue := fun _ => rfl

theorem negotiate_of_agreement? {d : Sdp.Description} {m : Sdp.MediaSection} {table : FormatTable}
    (h : s.agreement? (.negotiate d m) = some table) :
    table ≠ .empty ∧ ∃ rtp rtcp, (s.negotiate d m).2 = s.adopt table rtp rtcp m := by
  simp only [agreement?, negotiate] at h ⊢
  cases ht : s.terms d m with
  | error e => simp [ht, Except.toOption] at h
  | ok t =>
    obtain ⟨formats, rtp, rtcp⟩ := t
    obtain rfl : formats = table := by simpa [ht, Except.toOption] using h
    refine ⟨?_, rtp, rtcp, rfl⟩
    obtain ⟨media, event, hagree⟩ :=
      Negotiator.select_ok (FormatTable.distinct_ofList _) (terms_ok ht).1
    rintro rfl
    have hmedia := hagree.hasMedia
    simp [FormatTable.hasMedia, FormatTable.empty] at hmedia

theorem KeepsTo.perform {a : Accord} (h : s.KeepsTo a) (c : SessionCall) :
    (s.perform c).KeepsTo (a.after s c) := by
  unfold Accord.after
  cases ha : s.agreement? c with
  | some table =>
    cases c with
    | negotiate d m =>
      obtain ⟨hne, rtp, rtcp, hadopt⟩ := negotiate_of_agreement? ha
      show (s.negotiate d m).2.KeepsTo _
      rw [hadopt]
      exact ⟨rfl, rfl, fun t ht => Option.some.inj ht ▸ hne, fun ht => by cases ht⟩
    | _ => simp [agreement?] at ha
  | none =>
    cases hr : c.releases with
    | true =>
      have hclose : s.close.KeepsTo { a with ended := true } :=
        ⟨h.formats, rfl, h.nonempty, fun _ => rfl⟩
      cases c with
      | close => exact hclose
      | reset numbering => exact ⟨hclose.formats, hclose.negotiated, hclose.nonempty, hclose.queue⟩
      | _ => simp [SessionCall.releases] at hr
    | false =>
      have hkeeps := KeepsTables.perform ha hr
      show (s.perform c).KeepsTo a
      refine ⟨hkeeps.formats.trans h.formats, hkeeps.negotiated.trans h.negotiated, h.nonempty,
        fun ht => hkeeps.queue ?_ (h.queue ht)⟩
      rw [h.formats, Accord.formats, ht]
      rfl

theorem KeepsTo.run {a : Accord} (h : s.KeepsTo a) (calls : List SessionCall) :
    (s.run calls).KeepsTo (a.afterAll s calls) := by
  induction calls generalizing s a with
  | nil => exact h
  | cons c rest ih => exact ih (h.perform c)

/-- A received packet means what the last agreement says, and nothing before the first one; whether
the session has ended since makes no difference. So the tables agree exactly if it has not ended
since it agreed last. -/
theorem decode_map_of_last_agreement (seat : Seat) (config : SessionConfig) (numbering : Numbering)
    (calls : List SessionCall) :
    let fresh := make seat config numbering
    let s := fresh.run calls
    let a := Accord.afterAll {} fresh calls
    s.jitter.formats = a.formats ∧
    s.negotiated = (if a.ended then .empty else a.formats) ∧
    (s.jitter.formats = s.negotiated ↔ a.table = none ∨ a.ended = false) ∧
    (∀ now p, (s.jitter.writeMapped now p).1 = .unknownPayload ↔
      a.formats.find? p.payloadType = none) ∧
    (a.table = none → s.jitter.queue = [] ∧
      (∀ now p, s.jitter.writeMapped now p = (.unknownPayload, s.jitter)) ∧
      ∀ now, (s.readFrame now).1 = none ∧ (s.drain now).1 = []) := by
  intro fresh s a
  have h : s.KeepsTo a := (KeepsTo.make seat config numbering).run calls
  refine ⟨h.formats, h.negotiated, ?_, fun now p => ?_, fun ht => ?_⟩
  · rw [h.formats, h.negotiated, Accord.formats]
    cases ht : a.table with
    | none => simp
    | some table =>
      have hne := h.nonempty table ht
      cases a.ended <;> simp [hne]
  · rw [JitterBuffer.writeMapped_eq_unknownPayload, h.formats]
  · have hformats : s.jitter.formats = .empty := by
      rw [h.formats, Accord.formats, ht]
      rfl
    have hqueue := h.queue ht
    refine ⟨hqueue, fun now p => JitterBuffer.writeMapped_of_empty _ now p hformats, fun now => ?_⟩
    constructor
    · unfold readFrame
      rw [JitterBuffer.read_of_nil _ now hqueue]
      split <;> rfl
    · unfold drain
      rw [JitterBuffer.drain_of_nil _ now hqueue]
      split <;> rfl

/-- Before it has agreed on anything, a session that listens takes nothing for media. -/
theorem decode_map_of_no_agreement :
    let fresh := make ⟨1, .audio⟩ ⟨.default, Profile.audio, none⟩ default
    let s := fresh.run [.openOn ⟨.isolated, .loopback, []⟩ (.make 0 0), .updateMode .recvOnly,
      .deliver (.rtp (.make 0 1 160 7 [1, 2, 3] false) ⟨.loopback, 4000⟩), .poll {} 20]
    s.statistics.received = 1 ∧ s.jitter.queue = [] ∧
    s.jitter.formats = s.negotiated ∧ ∀ now, (s.readFrame now).1 = none := by
  intro fresh s
  have hreceived : s.statistics.received = 1 := by decide +kernel
  obtain ⟨-, -, hagree, -, hnothing⟩ :=
    decode_map_of_last_agreement ⟨1, .audio⟩ ⟨.default, Profile.audio, none⟩ default
      [.openOn ⟨.isolated, .loopback, []⟩ (.make 0 0), .updateMode .recvOnly,
        .deliver (.rtp (.make 0 1 160 7 [1, 2, 3] false) ⟨.loopback, 4000⟩), .poll {} 20]
  obtain ⟨hqueue, -, hread⟩ := hnothing rfl
  exact ⟨hreceived, hqueue, hagree.2 (.inl rfl), fun now => (hread now).1⟩

/-- A session that was closed and opened again, and has not agreed on anything since, plays a packet
in the format that it agreed on before. -/
theorem reopened_session_plays_packet :
    let offered : Sdp.MediaSection := { media := "audio", port := 4000, formats := ["0"] }
    let d : Sdp.Description :=
      { origin := .make "1" "127.0.0.1", sessionName := "-", connection := some (.make "127.0.0.1")
        media := [offered] }
    let opening : SessionCall := .openOn ⟨.isolated, .loopback, []⟩ (.make 0 0)
    let s := (make ⟨1, .audio⟩ ⟨.default, Profile.audio, none⟩ default).run
      [opening, .negotiate d offered, .close, opening, .updateMode .recvOnly,
        .deliver (.rtp (.make 0 1 160 7 [1, 2, 3] false) ⟨.loopback, 4000⟩), .poll {} 20]
    s.negotiated = .empty ∧ s.jitter.formats ≠ s.negotiated ∧
    (s.readFrame 100).1.map Frame.format = some (.make 0 "PCMU" 8000) := by
  decide +kernel

end MediaSession

end MediaGateway
