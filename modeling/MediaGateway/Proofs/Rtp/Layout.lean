import MediaGateway.Rtp.Packet
import MediaGateway.Proofs.Result

/-!
# The layout of a packet

A datagram is a packet if it consists, in this order, of a fixed header of version 2, the
contributing sources, perhaps an extension header, the payload and perhaps padding. `Layout` has one
field for each of these parts and `Layout.bytes` puts them together, so that it writes all that
reading has to understand, while `Packet.encode` writes only packets without the optional parts.

Reading is the inverse of that: a datagram is read as a packet exactly if it is the bytes of a layout
of that packet. Each of the readers of optional parts gets one lemma that says which bytes it
accepts, and the result puts them side by side.
-/

namespace MediaGateway

namespace Octets

/-- Words as their bytes. -/
def ofWords (ws : List UInt32) : List UInt8 := ws.flatMap ofUInt32

theorem length_ofWords (ws : List UInt32) : (ofWords ws).length = 4 * ws.length := by
  induction ws with
  | nil => rfl
  | cons w ws ih =>
    simp only [ofWords, List.flatMap_cons, List.length_append, List.length_cons] at ih ⊢
    rw [ih]
    simp only [ofUInt32, List.length_cons, List.length_nil]
    omega

/-- Any bytes are those of words, if there are enough of them for a number of words. -/
theorem exists_ofWords (n : Nat) {bs : List UInt8} (h : bs.length = 4 * n) :
    ∃ ws, ofWords ws = bs ∧ ws.length = n := by
  induction n generalizing bs with
  | zero =>
    obtain rfl : bs = [] := List.eq_nil_of_length_eq_zero h
    exact ⟨[], rfl, rfl⟩
  | succ n ih =>
    rcases bs with _ | ⟨a, _ | ⟨b, _ | ⟨c, _ | ⟨d, bs⟩⟩⟩⟩
    case cons.cons.cons.cons =>
      simp only [List.length_cons] at h
      have hrest : bs.length = 4 * n := by omega
      obtain ⟨ws, hws, hlength⟩ := ih hrest
      refine ⟨toUInt32 a b c d :: ws, ?_, by simp [hlength]⟩
      rw [ofWords, List.flatMap_cons, ofUInt32_toUInt32, ← hws]
      rfl
    all_goals
      simp only [List.length_cons, List.length_nil] at h
      omega

end Octets

namespace Packet

/-! ## The parts of a datagram -/

/-- An extension header. It counts its words in 16 bits. -/
structure Extension where
  /-- What the extension is about. -/
  profile : UInt16
  /-- The extension itself. -/
  words : List UInt32
  length_lt : words.length < 0x10000

/-- The extension header as bytes: its own header of four bytes, then the words. -/
def Extension.bytes (e : Extension) : List UInt8 :=
  Octets.ofUInt16 e.profile ++ Octets.ofUInt16 (UInt16.ofNat e.words.length) ++
    Octets.ofWords e.words

/-- Padding. Its last byte counts all of its bytes. -/
structure Padding where
  /-- The bytes before the last one. -/
  filler : List UInt8
  length_lt : filler.length < 0xFF

/-- How long the padding is. -/
def Padding.size (p : Padding) : Nat := p.filler.length + 1

/-- The padding as bytes. -/
def Padding.bytes (p : Padding) : List UInt8 := p.filler ++ [UInt8.ofNat p.size]

/-- What a datagram holds that is a packet. -/
structure Layout where
  /-- The marker bit. -/
  marker : Bool
  /-- The payload type. -/
  payloadType : UInt8
  payloadType_lt : payloadType < 0x80
  /-- The sequence number. -/
  sequence : UInt16
  /-- The timestamp. -/
  timestamp : UInt32
  /-- The source. -/
  ssrc : UInt32
  /-- The contributing sources, which are counted in four bits. -/
  sources : List UInt32
  sources_lt : sources.length < 0x10
  /-- The extension header, if there is one. -/
  extension : Option Extension
  /-- The media. -/
  payload : List UInt8
  /-- The padding, if there is any. -/
  padding : Option Padding

namespace Layout

/-- The first byte: version 2, whether there is padding and an extension header, and the number of
contributing sources. -/
def firstByte (padded extended : Bool) (sources : Nat) : UInt8 :=
  0x80 ||| (if padded then 0x20 else 0) ||| (if extended then 0x10 else 0) ||| UInt8.ofNat sources

/-- The second byte: the marker bit and the payload type. -/
def secondByte (marker : Bool) (payloadType : UInt8) : UInt8 :=
  (if marker then 0x80 else 0) ||| payloadType

/-- What follows the fixed header. -/
def body (l : Layout) : List UInt8 :=
  Octets.ofWords l.sources ++ (l.extension.elim [] Extension.bytes ++
    (l.payload ++ l.padding.elim [] Padding.bytes))

/-- The datagram. -/
def bytes (l : Layout) : List UInt8 :=
  firstByte l.padding.isSome l.extension.isSome l.sources.length ::
    secondByte l.marker l.payloadType :: (Octets.ofUInt16 l.sequence ++
      Octets.ofUInt32 l.timestamp ++ Octets.ofUInt32 l.ssrc ++ l.body)

/-- The packet in the datagram. -/
def packet (l : Layout) : Packet where
  marker := l.marker
  payloadType := l.payloadType
  sequence := l.sequence
  timestamp := l.timestamp
  ssrc := l.ssrc
  payload := l.payload

end Layout

/-! ## The two bytes of flags -/

section Flags

/-- What holds for every number that a byte can have holds for every byte. -/
theorem forall_byte {P : UInt8 → Prop} (h : ∀ i : Fin 256, P (UInt8.ofNat i)) (b : UInt8) : P b := by
  have hb := h ⟨b.toNat, b.toNat_lt⟩
  rwa [UInt8.ofNat_toNat] at hb

theorem flags_firstByte (padded extended : Bool) {n : Nat} (h : n < 0x10) :
    flags (Layout.firstByte padded extended n) = ⟨2, padded, extended, n⟩ := by
  have hall : ∀ i : Fin 16, ∀ p x : Bool,
      (flags (Layout.firstByte p x i)).version = 2 ∧ (flags (Layout.firstByte p x i)).padded = p ∧
      (flags (Layout.firstByte p x i)).extended = x ∧
      (flags (Layout.firstByte p x i)).sources = i := by
    decide +kernel
  obtain ⟨hv, hp, hx, hs⟩ := hall ⟨n, h⟩ padded extended
  cases hf : flags (Layout.firstByte padded extended n)
  simp_all

theorem firstByte_flags {b : UInt8} (h : (flags b).version = 2) :
    Layout.firstByte (flags b).padded (flags b).extended (flags b).sources = b := by
  revert h
  refine forall_byte (P := fun b => (flags b).version = 2 →
    Layout.firstByte (flags b).padded (flags b).extended (flags b).sources = b) ?_ b
  decide +kernel

theorem sources_flags_lt (b : UInt8) : (flags b).sources < 0x10 := by
  refine forall_byte (P := fun b => (flags b).sources < 0x10) ?_ b
  decide +kernel

theorem marker_secondByte (marker : Bool) {payloadType : UInt8} (h : payloadType < 0x80) :
    (Layout.secondByte marker payloadType &&& 0x80 != 0) = marker ∧
      Layout.secondByte marker payloadType &&& 0x7F = payloadType := by
  revert h marker
  refine forall_byte (P := fun n => ∀ m : Bool, n < 0x80 →
    (Layout.secondByte m n &&& 0x80 != 0) = m ∧ Layout.secondByte m n &&& 0x7F = n) ?_ payloadType
  decide +kernel

theorem secondByte_marker (b : UInt8) :
    Layout.secondByte (b &&& 0x80 != 0) (b &&& 0x7F) = b ∧ b &&& 0x7F < 0x80 := by
  refine forall_byte (P := fun b => Layout.secondByte (b &&& 0x80 != 0) (b &&& 0x7F) = b ∧
    b &&& 0x7F < 0x80) ?_ b
  decide +kernel

end Flags

/-! ## Which bytes the optional parts are read from -/

section Parts

variable {f : Flags} {n needed : Nat} {pad : UInt8} {bs rest payload : List UInt8}

theorem skip_eq_ok {count : Nat} :
    skip count needed n bs = .ok rest ↔ ∃ front, front.length = count ∧ front ++ rest = bs := by
  unfold skip
  split
  · rename_i hshort
    constructor
    · intro h
      simp at h
    · rintro ⟨front, rfl, rfl⟩
      rw [List.length_append] at hshort
      omega
  · rename_i hlong
    constructor
    · intro h
      obtain rfl := Except.ok.inj h
      exact ⟨bs.take count, by rw [List.length_take]; omega, List.take_append_drop count bs⟩
    · rintro ⟨front, rfl, rfl⟩
      rw [List.drop_left]

/-- The optional parts before the payload are words, as many as the header counts, and an extension
header if it announces one. -/
theorem skipOptional_eq_ok : skipOptional f n bs = .ok rest ↔
    ∃ (sources : List UInt32) (extension : Option Extension), sources.length = f.sources ∧
      extension.isSome = f.extended ∧
      Octets.ofWords sources ++ (extension.elim [] Extension.bytes ++ rest) = bs := by
  unfold skipOptional
  cases hx : f.extended with
  | false =>
    simp only [Bool.false_eq_true, if_false, skip_eq_ok]
    constructor
    · rintro ⟨front, hfront, rfl⟩
      obtain ⟨sources, rfl, hs⟩ := Octets.exists_ofWords f.sources hfront
      exact ⟨sources, none, hs, rfl, rfl⟩
    · rintro ⟨sources, extension, hs, he, rfl⟩
      obtain rfl : extension = none := by simpa using he
      exact ⟨Octets.ofWords sources, by rw [Octets.length_ofWords, hs], rfl⟩
  | true =>
    simp only [if_true]
    constructor
    · intro h
      split at h
      · rename_i a b high low tail htail
        obtain ⟨front, hfront, rfl⟩ := skip_eq_ok.1 h
        obtain ⟨words, rfl, hw⟩ := Octets.exists_ofWords _ hfront
        have hlong : 4 * f.sources ≤ bs.length := by
          refine Nat.le_of_not_lt fun hshort => ?_
          rw [List.drop_eq_nil_of_le (by omega)] at htail
          simp at htail
        have hfirst : (bs.take (4 * f.sources)).length = 4 * f.sources := by
          rw [List.length_take]
          omega
        obtain ⟨sources, hsources, hs⟩ := Octets.exists_ofWords _ hfirst
        have hlt : words.length < 0x10000 := hw ▸ (Octets.toUInt16 high low).toNat_lt
        refine ⟨sources, some ⟨Octets.toUInt16 a b, words, hlt⟩, hs, rfl, ?_⟩
        have hcount : UInt16.ofNat words.length = Octets.toUInt16 high low := by
          rw [hw, UInt16.ofNat_toNat]
        have hbytes : bs = bs.take (4 * f.sources) ++ bs.drop (4 * f.sources) :=
          (List.take_append_drop _ _).symm
        rw [hbytes, ← hsources, htail]
        simp [Extension.bytes, hcount, Octets.ofUInt16_toUInt16]
      · simp at h
    · rintro ⟨sources, extension, hs, he, rfl⟩
      obtain ⟨e, rfl⟩ := Option.isSome_iff_exists.1 he
      have hdrop (tail : List UInt8) : (Octets.ofWords sources ++ tail).drop (4 * f.sources) = tail := by
        rw [← hs, ← Octets.length_ofWords, List.drop_left]
      have hcount : (UInt16.ofNat e.words.length).toNat = e.words.length :=
        UInt16.toNat_ofNat_of_lt' e.length_lt
      rw [hdrop]
      simp only [Option.elim_some, Extension.bytes, Octets.ofUInt16, List.cons_append,
        List.nil_append, Octets.toUInt16_split]
      rw [hcount]
      exact skip_eq_ok.2 ⟨Octets.ofWords e.words, Octets.length_ofWords e.words, rfl⟩

/-- Padding is cut off where the payload ends, if there is any and it is not longer than what is
there. -/
theorem unpad_eq_ok : unpad pad rest = .ok payload ↔
    pad ≠ 0 ∧ ∃ tail, tail.length = pad.toNat ∧ payload ++ tail = rest := by
  unfold unpad
  split
  · rename_i hbad
    constructor
    · intro h
      simp at h
    · rintro ⟨hpad, tail, htail, rfl⟩
      rcases hbad with rfl | hshort
      · exact absurd rfl hpad
      · rw [List.length_append] at hshort
        omega
  · rename_i hgood
    obtain ⟨hpad, hlong⟩ := not_or.1 hgood
    constructor
    · intro h
      obtain rfl := Except.ok.inj h
      refine ⟨hpad, rest.drop (rest.length - pad.toNat), ?_, List.take_append_drop _ rest⟩
      rw [List.length_drop]
      omega
    · rintro ⟨-, tail, htail, rfl⟩
      have hlength : (payload ++ tail).length - pad.toNat = payload.length := by
        rw [List.length_append]
        omega
      rw [hlength, List.take_left]

/-- The last byte of padding says how long it is. -/
theorem Padding.getLastD_bytes (p : Padding) (front : List UInt8) :
    (front ++ p.bytes).getLastD 0 = UInt8.ofNat p.size := by
  rw [Padding.bytes, ← List.append_assoc, List.getLastD_concat]

theorem Padding.toNat_size (p : Padding) : (UInt8.ofNat p.size).toNat = p.size := by
  have hlt := p.length_lt
  refine UInt8.toNat_ofNat_of_lt' ?_
  simp only [Padding.size, UInt8.size]
  omega

/-- Bytes whose number is what the last one of them says are padding. -/
theorem exists_padding {tail : List UInt8} (hpad : pad ≠ 0) (hlength : tail.length = pad.toNat)
    (hlast : tail.getLastD 0 = pad) : ∃ p : Padding, p.bytes = tail := by
  have hne : tail ≠ [] := by
    rintro rfl
    exact hpad (UInt8.toNat_inj.1 hlength.symm)
  have hlt := pad.toNat_lt
  have hfront : tail.dropLast.length < 0xFF := by
    rw [List.length_dropLast]
    omega
  have hpos : 0 < tail.length := List.length_pos_iff.2 hne
  have hsize : tail.dropLast.length + 1 = pad.toNat := by
    rw [List.length_dropLast]
    omega
  have hend : tail.getLast hne = pad := by
    rwa [List.getLastD_eq_getLast?, List.getLast?_eq_some_getLast hne] at hlast
  refine ⟨⟨tail.dropLast, hfront⟩, ?_⟩
  simp only [Padding.bytes, Padding.size, hsize, UInt8.ofNat_toNat]
  rw [← hend, List.dropLast_concat_getLast]

end Parts

/-! ## Whole datagrams -/

/-- A payload that is read from what follows the fixed header, together with the last byte of the
datagram. -/
def readBody (f : Flags) (available : Nat) (last : UInt8) (body : List UInt8) :
    Except PacketError (List UInt8) :=
  (skipOptional f available body).bind fun rest =>
    if f.padded then unpad last rest else .ok rest

/-- What follows the fixed header is read as the payload that it holds between the optional parts
that the header announces. -/
theorem readBody_eq_ok (front : List UInt8) {f : Flags} {n : Nat} {body payload : List UInt8} :
    readBody f n ((front ++ body).getLastD 0) body = .ok payload ↔
      ∃ (sources : List UInt32) (extension : Option Extension) (padding : Option Padding),
        sources.length = f.sources ∧ extension.isSome = f.extended ∧ padding.isSome = f.padded ∧
        Octets.ofWords sources ++ (extension.elim [] Extension.bytes ++
          (payload ++ padding.elim [] Padding.bytes)) = body := by
  constructor
  · intro h
    unfold readBody at h
    cases hrest : skipOptional f n body with
    | error e => simp [hrest, Except.bind] at h
    | ok rest =>
      obtain ⟨sources, extension, hs, he, rfl⟩ := skipOptional_eq_ok.1 hrest
      simp only [hrest, Except.bind] at h
      cases hp : f.padded with
      | false =>
        simp only [hp, Bool.false_eq_true, if_false] at h
        obtain rfl := Except.ok.inj h
        exact ⟨sources, extension, none, hs, he, rfl, by simp⟩
      | true =>
        simp only [hp, if_true] at h
        obtain ⟨hpad, tail, htail, rfl⟩ := unpad_eq_ok.1 h
        -- The last byte of the datagram is the last one of the tail, which is not empty.
        have hne : tail ≠ [] := by
          rintro rfl
          exact hpad (UInt8.toNat_inj.1 htail.symm)
        have hlast (front : List UInt8) : (front ++ tail).getLastD 0 = tail.getLastD 0 := by
          rw [List.getLastD_eq_getLast?, List.getLastD_eq_getLast?, List.getLast?_append,
            List.getLast?_eq_some_getLast hne, Option.some_or]
        simp only [← List.append_assoc, hlast] at hpad htail
        obtain ⟨padding, rfl⟩ := exists_padding hpad htail rfl
        exact ⟨sources, extension, some padding, hs, he, rfl, rfl⟩
  · rintro ⟨sources, extension, padding, hs, he, hp, rfl⟩
    have hskip : skipOptional f n (Octets.ofWords sources ++ (extension.elim [] Extension.bytes ++
        (payload ++ padding.elim [] Padding.bytes))) =
          .ok (payload ++ padding.elim [] Padding.bytes) :=
      skipOptional_eq_ok.2 ⟨sources, extension, hs, he, rfl⟩
    simp only [readBody, hskip, Except.bind]
    cases padding with
    | none =>
      simp only [← hp, Option.isSome_none, Bool.false_eq_true, if_false, Option.elim_none,
        List.append_nil]
    | some p =>
      have hsize : UInt8.ofNat p.size ≠ 0 := by
        intro h
        have hzero := congrArg UInt8.toNat h
        rw [p.toNat_size] at hzero
        exact absurd hzero (Nat.succ_ne_zero _)
      simp only [← hp, Option.isSome_some, if_true, Option.elim_some, ← List.append_assoc,
        p.getLastD_bytes]
      refine unpad_eq_ok.2 ⟨hsize, p.bytes, ?_, rfl⟩
      rw [p.toNat_size, Padding.bytes, List.length_append]
      rfl

/-- A datagram that is as long as the fixed header at least is read in two parts. -/
theorem decode_header (b₀ b₁ : UInt8) (sequence : UInt16) (timestamp ssrc : UInt32)
    (body : List UInt8) :
    let d := b₀ :: b₁ :: (Octets.ofUInt16 sequence ++ Octets.ofUInt32 timestamp ++
      Octets.ofUInt32 ssrc ++ body)
    decode d =
      if (flags b₀).version ≠ 2 then .error (.invalidVersion (flags b₀).version)
      else (readBody (flags b₀) d.length (d.getLastD 0) body).map fun payload =>
        { marker := b₁ &&& 0x80 != 0
          payloadType := b₁ &&& 0x7F
          sequence
          timestamp
          ssrc
          payload } := by
  intro d
  simp only [d, decode, Octets.ofUInt16, Octets.ofUInt32, List.cons_append, List.nil_append,
    Octets.toUInt16_split, Octets.toUInt32_split, readBody]
  by_cases hv : (flags b₀).version = 2
  · simp only [hv, ne_eq, not_true_eq_false, if_false, bind, Except.bind, pure, Except.pure]
    cases skipOptional (flags b₀) _ body with
    | error e => rfl
    | ok rest =>
      cases (flags b₀).padded with
      | false => rfl
      | true =>
        simp only [if_true]
        cases unpad _ rest <;> rfl
  · simp only [ne_eq, hv, not_false_eq_true, if_true]
    rfl

/-- The shape of a datagram that is as long as the fixed header at least. -/
theorem exists_header {d : List UInt8} (h : headerLength ≤ d.length) :
    ∃ (b₀ b₁ : UInt8) (sequence : UInt16) (timestamp ssrc : UInt32) (body : List UInt8),
      d = b₀ :: b₁ :: (Octets.ofUInt16 sequence ++ Octets.ofUInt32 timestamp ++
        Octets.ofUInt32 ssrc ++ body) := by
  match d, h with
  | b₀ :: b₁ :: s₀ :: s₁ :: t₀ :: t₁ :: t₂ :: t₃ :: i₀ :: i₁ :: i₂ :: i₃ :: body, _ =>
    refine ⟨b₀, b₁, Octets.toUInt16 s₀ s₁, Octets.toUInt32 t₀ t₁ t₂ t₃, Octets.toUInt32 i₀ i₁ i₂ i₃,
      body, ?_⟩
    simp only [Octets.ofUInt16_toUInt16, Octets.ofUInt32_toUInt32, List.cons_append, List.nil_append]

theorem decode_of_length_lt {d : List UInt8} (h : d.length < headerLength) :
    decode d = .error (.tooShort d.length) := by
  unfold decode
  split
  · simp only [List.length_cons, headerLength] at h
    omega
  · rfl

/-- The bytes of a layout are read as its packet. -/
theorem decode_bytes (l : Layout) : decode l.bytes = .ok l.packet := by
  have hf := flags_firstByte l.padding.isSome l.extension.isSome l.sources_lt
  obtain ⟨hm, ht⟩ := marker_secondByte l.marker l.payloadType_lt
  have hbody : readBody ⟨2, l.padding.isSome, l.extension.isSome, l.sources.length⟩ l.bytes.length
      (l.bytes.getLastD 0) l.body = .ok l.payload :=
    (readBody_eq_ok (_ :: _ :: _)).2 ⟨l.sources, l.extension, l.padding, rfl, rfl, rfl, rfl⟩
  rw [Layout.bytes, decode_header, hf, hm, ht, if_neg (by simp)]
  exact congrArg (Except.map _) hbody

/-- What is read as a packet are the bytes of a layout of it. -/
theorem exists_layout {d : List UInt8} {p : Packet} (h : decode d = .ok p) :
    ∃ l : Layout, l.bytes = d ∧ l.packet = p := by
  by_cases hshort : d.length < headerLength
  · rw [decode_of_length_lt hshort] at h
    simp at h
  · obtain ⟨b₀, b₁, sequence, timestamp, ssrc, body, rfl⟩ := exists_header (Nat.le_of_not_lt hshort)
    rw [decode_header] at h
    split at h
    · simp at h
    · rename_i hv
      have hfirst := firstByte_flags (Decidable.not_not.1 hv)
      obtain ⟨hsecond, htype⟩ := secondByte_marker b₁
      obtain ⟨payload, hbody, rfl⟩ := exists_of_map_eq_ok h
      obtain ⟨sources, extension, padding, hs, he, hp, rfl⟩ :=
        (readBody_eq_ok (_ :: _ :: _)).1 hbody
      have hlt : sources.length < 0x10 := hs ▸ sources_flags_lt b₀
      refine ⟨⟨_, _, htype, sequence, timestamp, ssrc, sources, hlt, extension, payload, padding⟩, ?_,
        rfl⟩
      show Layout.firstByte padding.isSome extension.isSome sources.length ::
        Layout.secondByte (b₁ &&& 0x80 != 0) (b₁ &&& 0x7F) :: _ = _
      rw [hp, he, hs, hfirst, hsecond]
      rfl

/-- A datagram is read as a packet exactly if it is laid out as that packet. -/
theorem decode_eq_ok {d : List UInt8} {p : Packet} :
    decode d = .ok p ↔ ∃ l : Layout, l.bytes = d ∧ l.packet = p := by
  constructor
  · exact exists_layout
  · rintro ⟨l, rfl, rfl⟩
    exact decode_bytes l

/-! ## Written packets -/

/-- A packet as it is written: without any of the optional parts. -/
def plainLayout (p : Packet) (h : p.payloadType < 0x80) : Layout where
  marker := p.marker
  payloadType := p.payloadType
  payloadType_lt := h
  sequence := p.sequence
  timestamp := p.timestamp
  ssrc := p.ssrc
  sources := []
  sources_lt := by decide
  extension := none
  payload := p.payload
  padding := none

theorem bytes_plainLayout (p : Packet) (h : p.payloadType < 0x80) :
    (p.plainLayout h).bytes = p.encode := by
  have hcut : p.payloadType &&& 0x7F = p.payloadType := by
    have hall := marker_secondByte false h
    simpa [Layout.secondByte] using hall.2
  have hfirst : Layout.firstByte false false 0 = 0x80 := by decide
  have hbody : (p.plainLayout h).body = p.payload := List.append_nil _
  rw [Layout.bytes, hbody, encode, markerByte, hcut, ← hfirst]
  rfl

/-- A packet with a payload type of seven bits is read back from its wire form. -/
theorem decode_encode {p : Packet} (h : p.payloadType < 0x80) : decode p.encode = .ok p := by
  rw [← bytes_plainLayout p h]
  exact decode_bytes _

theorem payloadType_of_decode {d : List UInt8} {p : Packet} (h : decode d = .ok p) :
    p.payloadType < 0x80 := by
  obtain ⟨l, rfl, rfl⟩ := exists_layout h
  exact l.payloadType_lt

/-- A datagram without optional parts: none are announced in its first byte. -/
def IsPlain (d : List UInt8) : Prop :=
  ∃ b ∈ d.head?, (flags b).padded = false ∧ (flags b).extended = false ∧ (flags b).sources = 0

instance (d : List UInt8) : Decidable (IsPlain d) :=
  inferInstanceAs (Decidable (∃ b ∈ d.head?, _))

/-- Of all datagrams that are read as a packet, the packet is written as the one without optional
parts. -/
theorem encode_eq_iff {d : List UInt8} {p : Packet} (h : decode d = .ok p) :
    p.encode = d ↔ IsPlain d := by
  constructor
  · rintro rfl
    exact ⟨0x80, rfl, by decide⟩
  · rintro ⟨b, hb, hp, hx, hs⟩
    obtain ⟨l, rfl, rfl⟩ := exists_layout h
    obtain rfl : Layout.firstByte l.padding.isSome l.extension.isSome l.sources.length = b :=
      Option.some.inj hb
    rw [flags_firstByte _ _ l.sources_lt] at hp hx hs
    have hplain : l.packet.plainLayout l.payloadType_lt = l := by
      cases l
      simp_all [plainLayout, Layout.packet]
    rw [← bytes_plainLayout l.packet l.payloadType_lt, hplain]

end Packet

end MediaGateway
