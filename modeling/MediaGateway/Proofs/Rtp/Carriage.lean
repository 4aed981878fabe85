import MediaGateway.JitterBuffer
import MediaGateway.Rtp.Datagram
import MediaGateway.Sdp.Parser
import MediaGateway.Session.Media
import MediaGateway.Proofs.Negotiation
import MediaGateway.Proofs.Result
import MediaGateway.Proofs.Rtp.Layout

/-!
# Whether what was agreed on can be carried

Descriptions name payload numbers of eight bits, and an agreement keeps the numbers of the offer. A
packet has seven bits for the number, in one byte with the mark, and a socket for media tells control
packets by the same byte. So what becomes of a packet in an agreed format depends on the number: one
above 127 is not the number that arrives, and one from 64 to 95 makes a marked packet look like a
control packet.

All other packets arrive as packets of media and are taken in the format that they were sent in.
-/

namespace MediaGateway

/-- The datagram comes in at a socket for media as a packet of media, and the buffer takes what is
in it to be encoded as `f`. -/
def JitterBuffer.Understands (b : JitterBuffer) (f : Format) (datagram : List UInt8) : Prop :=
  ∃ p, Received.classify .rtp datagram = .rtp p ∧ b.formats.find? p.payloadType = some f

namespace Packet

/-! ## The demultiplexing byte -/

/-- A marked packet of one of these payload numbers cannot be told from a control packet. -/
def LooksLikeControl (payloadType : UInt8) (marker : Bool) : Prop :=
  marker = true ∧ 64 ≤ payloadType &&& 0x7F ∧ payloadType &&& 0x7F ≤ 95

instance (payloadType : UInt8) (marker : Bool) : Decidable (LooksLikeControl payloadType marker) :=
  inferInstanceAs (Decidable (_ ∧ _))

variable (payloadType : UInt8) (sequence : UInt16) (timestamp ssrc : UInt32) (payload : List UInt8)
  (marker : Bool)

theorem isRtcp_encode_make :
    isRtcp (make payloadType sequence timestamp ssrc payload marker).encode = true ↔
      LooksLikeControl payloadType marker := by
  refine forall_byte (P := fun b => (192 ≤ (make b 0 0 0 [] marker).markerByte &&
    (make b 0 0 0 [] marker).markerByte ≤ 223) = true ↔ LooksLikeControl b marker) ?_ payloadType
  cases marker <;> decide +kernel

/-- The payload type that arrives has seven bits. -/
theorem and_seven_bits (b : UInt8) : b &&& 0x7F < 0x80 ∧ (b ≤ 127 ↔ b &&& 0x7F = b) := by
  refine forall_byte (P := fun b => b &&& 0x7F < 0x80 ∧ (b ≤ 127 ↔ b &&& 0x7F = b)) ?_ b
  decide +kernel

/-- What is left of a packet that is cut behind its header is a packet with less payload. -/
theorem take_encode (p : Packet) (n : Nat) :
    p.encode.take (headerLength + n) = { p with payload := p.payload.take n }.encode := by
  rw [Nat.add_comm]
  rfl

/-- What a socket for media makes of a packet. -/
theorem classify_encode_make :
    let p := make payloadType sequence timestamp ssrc payload marker
    Received.classify .rtp p.encode =
      if LooksLikeControl payloadType marker then .rtcp (p.encode.take Received.maxDatagram)
      else .rtp { p with payload := payload.take (Received.maxDatagram - headerLength) } := by
  intro p
  let cut : Packet := { p with payload := payload.take (Received.maxDatagram - headerLength) }
  have htake : p.encode.take Received.maxDatagram = cut.encode :=
    p.take_encode (Received.maxDatagram - headerLength)
  have hcontrol : isRtcp cut.encode = true ↔ LooksLikeControl payloadType marker :=
    isRtcp_encode_make payloadType sequence timestamp ssrc _ marker
  have hdecode : decode cut.encode = .ok cut := decode_encode (and_seven_bits payloadType).1
  unfold Received.classify
  rw [htake]
  by_cases h : LooksLikeControl payloadType marker
  · rw [if_pos h, if_pos (.inr (hcontrol.2 h))]
  · have hmedia : ¬ (Channel.rtp = .rtcp ∨ isRtcp cut.encode = true) := by
      rintro (hchannel | hrtcp)
      · cases hchannel
      · exact h (hcontrol.1 hrtcp)
    rw [if_neg h, if_neg hmedia, hdecode]

end Packet

/-! ## What was agreed on -/

/-- What a session sends goes from its socket to the other side. It is a packet with the next number,
in the format agreed on for such a payload and with the timestamp of the present time. -/
theorem MediaSession.exists_of_outgoing {s : MediaSession} {overflow : Overflow} {now : Nat}
    {payload : Payload} {o : Outgoing} (h : s.outgoing overflow now payload = .ok (.ok (some o))) :
    ∃ t f, s.transport = some t ∧ s.remoteRtp = some o.destination ∧
      s.formatFor? payload.kind = some f ∧ overflow.breaksOff now f.clockRate.toNat = false ∧
      o.packet = .make f.payloadType s.numbering.sequence (s.timestampAt f now) s.numbering.ssrc
        payload.data payload.marker := by
  unfold outgoing at h
  split at h
  · cases h
  · split at h
    · cases h
    · rename_i t ht
      split at h
      · cases h
      · rename_i destination hremote
        split at h
        · cases h
        · rename_i f hf
          split at h
          · cases h
          · rename_i hfits
            cases h
            exact ⟨t, f, ht, hremote, hf, Bool.eq_false_iff.2 hfits, rfl⟩

namespace Negotiator

variable {n : Negotiator} {m : Sdp.MediaSection} {t : FormatTable} {f : Format} {b : JitterBuffer}

theorem distinct_of_negotiate (h : n.negotiate m = .ok t) : t.Distinct := by
  obtain ⟨media, event, hagree⟩ := select_ok (FormatTable.distinct_ofList _) h
  exact hagree.distinct

/-- Of the payload types that arrive, only its own one means an agreed format. -/
theorem find?_eq_some_iff (h : t.Distinct) (hf : f ∈ t.toList) :
    t.find? (f.payloadType &&& 0x7F) = some f ↔ f.payloadType ≤ 127 := by
  rw [(Packet.and_seven_bits f.payloadType).2]
  constructor
  · intro hfind
    have htype : f.payloadType = f.payloadType &&& 0x7F := by simpa using List.find?_some hfind
    exact htype.symm
  · intro htype
    rw [htype]
    exact h.find?_eq_some hf

/-- A packet in an agreed format is understood by the other side exactly if its payload number has
seven bits, and is none of those from 64 to 95 if the packet is marked. What looks like a control
packet is taken for one. Everything else is taken for media, with what is left of the payload number
in seven bits. -/
theorem carried_iff (hagreed : n.negotiate m = .ok t) (hf : f ∈ t.toList) (hb : b.formats = t)
    (sequence : UInt16) (timestamp ssrc : UInt32) (payload : List UInt8) (marker : Bool) :
    let p := Packet.make f.payloadType sequence timestamp ssrc payload marker
    (b.Understands f p.encode ↔
      f.payloadType ≤ 127 ∧ ¬ (marker = true ∧ 64 ≤ f.payloadType ∧ f.payloadType ≤ 95)) ∧
    Received.classify .rtp p.encode =
      if Packet.LooksLikeControl f.payloadType marker then
        .rtcp (p.encode.take Received.maxDatagram)
      else
        .rtp { p with payload := payload.take (Received.maxDatagram - Packet.headerLength) } := by
  intro p
  have hclassify : Received.classify .rtp p.encode = _ :=
    Packet.classify_encode_make f.payloadType sequence timestamp ssrc payload marker
  have hfind := find?_eq_some_iff (distinct_of_negotiate hagreed) hf
  have hseven := (Packet.and_seven_bits f.payloadType).2
  refine ⟨⟨?_, ?_⟩, hclassify⟩
  · rintro ⟨q, hq, hmeans⟩
    rw [hclassify] at hq
    split at hq
    · cases hq
    · rename_i hmedia
      obtain rfl := Received.rtp.inj hq
      rw [hb] at hmeans
      have htype : f.payloadType ≤ 127 := hfind.1 hmeans
      rw [Packet.LooksLikeControl, hseven.1 htype] at hmedia
      exact ⟨htype, hmedia⟩
  · rintro ⟨htype, hclear⟩
    have hmedia : ¬ Packet.LooksLikeControl f.payloadType marker := by
      rw [Packet.LooksLikeControl, hseven.1 htype]
      exact hclear
    refine ⟨_, hclassify.trans (if_neg hmedia), ?_⟩
    rw [hb]
    exact hfind.2 htype

/-- An agreement about dynamic numbers is carried, also by marked packets. -/
theorem carried_iff_dynamic :
    let m : Sdp.MediaSection :=
      { media := "audio", port := 50000, formats := ["100", "101"]
        rtpmaps := [.make 100 "PCMU" 8000, .make 101 "telephone-event" 8000] }
    let t : FormatTable := ⟨[.make 100 "PCMU" 8000, .make 101 "telephone-event" 8000]⟩
    let b : JitterBuffer := { JitterBuffer.make .default (.make 8000) with formats := t }
    (symmetric .audio Profile.audio).negotiate m = .ok t ∧ .make 100 "PCMU" 8000 ∈ t.toList ∧
      b.Understands (.make 100 "PCMU" 8000) (Packet.make 100 1 160 7 [1, 2] true).encode := by
  intro m t b
  have hagreed : (symmetric .audio Profile.audio).negotiate m = .ok t :=
    ok_of_toOption (by decide +kernel)
  have hf : .make 100 "PCMU" 8000 ∈ t.toList := List.mem_cons_self
  exact ⟨hagreed, hf, (carried_iff hagreed hf rfl 1 160 7 [1, 2] true).1.2 (by decide)⟩

/-- An audio offer with one number of each kind that cannot be carried. -/
def strangeOffer : String :=
  "v=0\r\no=- 1 1 IN IP4 127.0.0.1\r\ns=-\r\nc=IN IP4 127.0.0.1\r\nt=0 0\r\n" ++
    "m=audio 50000 RTP/AVP 200 72\r\na=rtpmap:200 PCMU/8000\r\na=rtpmap:72 telephone-event/8000\r\n"

/-- The offer is agreed to as it is. But audio comes in as telephone events, and the first report of
a telephone event as a control packet. -/
theorem strange_numbers_not_carried :
    let audio : Format := .make 200 "PCMU" 8000
    let event : Format := .make 72 "telephone-event" 8000
    ∃ d m t, Sdp.Description.ofText strangeOffer = .ok d ∧ m ∈ d.media ∧
      (symmetric .audio Profile.audio).negotiate m = .ok t ∧ t.toList = [audio, event] ∧
      ∀ b : JitterBuffer, b.formats = t →
        ¬ b.Understands audio (Packet.make audio.payloadType 1 160 7 [1, 2] false).encode ∧
        ¬ b.Understands event (Packet.make event.payloadType 1 160 7 [1, 2] true).encode := by
  intro audio event
  let m : Sdp.MediaSection :=
    { media := "audio", port := 50000, protocol := "RTP/AVP", formats := ["200", "72"]
      rtpmaps := [audio, event] }
  let d : Sdp.Description :=
    { origin := ⟨"-", "1", "1", "IP4", "127.0.0.1"⟩, sessionName := "-"
      connection := some ⟨"IP4", "127.0.0.1"⟩, media := [m] }
  have hread : Sdp.Description.ofText strangeOffer = .ok d := ok_of_toOption (by decide +kernel)
  have hagreed : (symmetric .audio Profile.audio).negotiate m = .ok ⟨[audio, event]⟩ :=
    ok_of_toOption (by decide +kernel)
  refine ⟨d, m, _, hread, List.mem_singleton_self m, hagreed, rfl, fun b hb => ⟨?_, ?_⟩⟩
  · rintro ⟨p, hp, hmeans⟩
    rw [Packet.classify_encode_make, if_neg (by decide)] at hp
    obtain rfl := Received.rtp.inj hp
    rw [hb] at hmeans
    have hother : (FormatTable.mk [audio, event]).find? (audio.payloadType &&& 0x7F) =
        some event := by decide +kernel
    have hne : event ≠ audio := by decide
    exact hne (Option.some.inj (hother.symm.trans hmeans))
  · rintro ⟨p, hp, -⟩
    rw [Packet.classify_encode_make, if_pos (by decide)] at hp
    cases hp

end Negotiator

end MediaGateway
