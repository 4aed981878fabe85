import MediaGateway.Proofs.Rtp.Layout

/-!
# Reading by positions

A datagram can be read in place: every field is looked up at its position, and the payload is the
stretch between two positions that are computed from the header. The lengths that go into them come
from whoever sent the datagram. The reader of this module works in this way and gives up as soon as
a position lies outside the datagram or a difference of lengths would be negative.

It never gives up, and it reads what `Packet.decode` reads: every check stands before the access that
it guards.
-/

namespace MediaGateway.Packet

namespace Positions

/-! ## The reader -/

/-- The difference of two lengths, unless it is negative. -/
def minus? (a b : Nat) : Option Nat :=
  if b ≤ a then some (a - b) else none

/-- The bytes from one position up to another one, if both lie within the data in this order. -/
def slice? (d : List UInt8) (start stop : Nat) : Option (List UInt8) :=
  if start ≤ stop ∧ stop ≤ d.length then some ((d.take stop).drop start) else none

/-- The 16-bit word at a position. -/
def word16? (d : List UInt8) (i : Nat) : Option UInt16 := do
  return Octets.toUInt16 (← d[i]?) (← d[i + 1]?)

/-- The 32-bit word at a position. -/
def word32? (d : List UInt8) (i : Nat) : Option UInt32 := do
  return Octets.toUInt32 (← d[i]?) (← d[i + 1]?) (← d[i + 2]?) (← d[i + 3]?)

/-- A position up to which the data have to reach. -/
def within (d : List UInt8) (position : Nat) : Except PacketError Nat :=
  if d.length < position then .error (.truncated position d.length) else .ok position

/-- Where the payload begins. -/
def start? (f : Flags) (d : List UInt8) : Option (Except PacketError Nat) :=
  let offset := headerLength + 4 * f.sources
  if f.extended then
    if d.length < offset + 4 then some (.error (.truncated (offset + 4) d.length))
    else do
      let words ← word16? d (offset + 2)
      return within d (offset + 4 + 4 * words.toNat)
  else some (within d offset)

/-- Where a payload that begins at `start` ends. -/
def stop? (f : Flags) (d : List UInt8) (start : Nat) : Option (Except PacketError Nat) :=
  if f.padded then do
    let pad ← d[← minus? d.length 1]?
    let room ← minus? d.length start
    if pad = 0 ∨ room < pad.toNat then return .error (.invalidPadding pad)
    else return .ok (← minus? d.length pad.toNat)
  else some (.ok d.length)

/-- The payload. -/
def payload? (f : Flags) (d : List UInt8) : Option (Except PacketError (List UInt8)) := do
  match ← start? f d with
  | .error e => return .error e
  | .ok start =>
    match ← stop? f d start with
    | .error e => return .error e
    | .ok stop => return .ok (← slice? d start stop)

/-- Reads a datagram. -/
def decode? (d : List UInt8) : Option (Except PacketError Packet) :=
  if d.length < headerLength then some (.error (.tooShort d.length))
  else do
    let f := flags (← d[0]?)
    if f.version ≠ 2 then return .error (.invalidVersion f.version)
    else do
      let b ← d[1]?
      let sequence ← word16? d 2
      let timestamp ← word32? d 4
      let ssrc ← word32? d 8
      let payload ← payload? f d
      return payload.map fun payload =>
        { marker := b &&& 0x80 != 0, payloadType := b &&& 0x7F, sequence, timestamp, ssrc, payload }

/-! ## It never gives up -/

section Accesses

variable {d front body rest payload : List UInt8} {f : Flags}

theorem minus?_add (a b : Nat) : minus? (a + b) a = some b := by
  unfold minus?
  rw [if_pos (by omega), Nat.add_sub_cancel_left]

theorem word16?_append (front rest : List UInt8) (a b : UInt8) :
    word16? (front ++ a :: b :: rest) front.length = some (Octets.toUInt16 a b) := by
  unfold word16?
  rw [List.getElem?_append_right (by omega), List.getElem?_append_right (by omega), Nat.sub_self,
    Nat.add_sub_cancel_left]
  rfl

theorem slice?_append (front payload tail : List UInt8) :
    slice? (front ++ (payload ++ tail)) front.length (front.length + payload.length) =
      some payload := by
  unfold slice?
  rw [if_pos (by simp only [List.length_append]; omega), List.take_length_add_append,
    List.take_left, List.drop_left]

/-- The check of a position within what follows a part of the data is that what follows is long
enough. -/
theorem within_append (front body : List UInt8) (count : Nat) :
    within (front ++ body) (front.length + count) =
      (skip count (front.length + count) (front ++ body).length body).map fun rest =>
        (front ++ body).length - rest.length := by
  unfold within skip
  rw [List.length_append]
  split
  · rw [if_pos (by omega)]
    rfl
  · rw [if_neg (by omega)]
    simp only [Except.map, List.length_drop]
    congr 1
    omega

/-- The payload begins where what is left after the optional parts begins. -/
theorem start?_append (f : Flags) (h : front.length = headerLength) :
    start? f (front ++ body) =
      some ((skipOptional f (front ++ body).length body).map fun rest =>
        (front ++ body).length - rest.length) := by
  unfold start? skipOptional
  cases f.extended with
  | false =>
    simp only [Bool.false_eq_true, if_false]
    rw [← h, within_append]
  | true =>
    simp only [if_true]
    by_cases hshort : body.length < 4 * f.sources + 4
    · -- The header of the extension is not there as a whole, and is not looked at.
      rw [if_pos (by rw [List.length_append]; omega)]
      split
      · rename_i hdrop
        have hlength := congrArg List.length hdrop
        simp only [List.length_drop, List.length_cons] at hlength
        omega
      · rfl
    · rw [if_neg (by rw [List.length_append]; omega)]
      have hlong : 4 ≤ (body.drop (4 * f.sources)).length := by
        rw [List.length_drop]
        omega
      match hdrop : body.drop (4 * f.sources), hlong with
      | a :: b :: high :: low :: tail, _ =>
        have hbody : body = body.take (4 * f.sources) ++ a :: b :: high :: low :: tail := by
          rw [← hdrop, List.take_append_drop]
        have htake : (body.take (4 * f.sources)).length = 4 * f.sources := by
          rw [List.length_take]
          omega
        have hprofile : (front ++ (body.take (4 * f.sources) ++ [a, b])).length =
            headerLength + 4 * f.sources + 2 := by
          simp only [List.length_append, htake, h, List.length_cons, List.length_nil]
          omega
        have hcount : (front ++ (body.take (4 * f.sources) ++ [a, b, high, low])).length =
            headerLength + 4 * f.sources + 4 := by
          simp only [List.length_append, htake, h, List.length_cons, List.length_nil]
          omega
        have hword := word16?_append (front ++ (body.take (4 * f.sources) ++ [a, b])) tail high low
        have hwithin := within_append (front ++ (body.take (4 * f.sources) ++ [a, b, high, low])) tail
          (4 * (Octets.toUInt16 high low).toNat)
        rw [hprofile] at hword
        rw [hcount] at hwithin
        simp only [List.append_assoc, List.cons_append, List.nil_append, ← hbody] at hword hwithin
        simp only [hword]
        exact congrArg some hwithin

/-- The payload ends where what is left is cut. -/
theorem stop?_append (f : Flags) (h : front ≠ []) :
    stop? f (front ++ rest) front.length =
      some ((if f.padded then unpad ((front ++ rest).getLastD 0) rest else .ok rest).map
        fun payload => front.length + payload.length) := by
  unfold stop?
  cases f.padded with
  | false => simp [Except.map]
  | true =>
    have hne : front ++ rest ≠ [] := by simp [h]
    have hlength : (front ++ rest).length = 1 + ((front ++ rest).length - 1) := by
      have := List.length_pos_iff.2 hne
      omega
    have hlast : (front ++ rest)[(front ++ rest).length - 1]? = some ((front ++ rest).getLastD 0) := by
      rw [← List.getLast?_eq_getElem?, List.getLastD_eq_getLast?, List.getLast?_eq_some_getLast hne]
      rfl
    have hroom : minus? (front ++ rest).length front.length = some rest.length := by
      rw [List.length_append, minus?_add]
    simp only [if_true]
    rw [hlength, minus?_add, ← hlength]
    simp only [Option.bind_eq_bind, Option.bind_some, hlast, hroom]
    unfold unpad
    split
    · rfl
    · rename_i hgood
      have hlong : ((front ++ rest).getLastD 0).toNat ≤ rest.length :=
        Nat.le_of_not_lt (not_or.1 hgood).2
      unfold minus?
      rw [if_pos (by rw [List.length_append]; omega)]
      simp only [Option.bind_some, Except.map, List.length_take, List.length_append]
      refine congrArg (fun n => some (Except.ok n)) ?_
      omega

/-- The stretch between the two positions is the payload. -/
theorem payload?_append (f : Flags) (h : front.length = headerLength) :
    payload? f (front ++ body) =
      some (readBody f (front ++ body).length ((front ++ body).getLastD 0) body) := by
  unfold payload? readBody
  rw [start?_append f h]
  cases hrest : skipOptional f (front ++ body).length body with
  | error e => rfl
  | ok rest =>
    obtain ⟨sources, extension, -, -, rfl⟩ := skipOptional_eq_ok.1 hrest
    have hfront : front ++ (Octets.ofWords sources ++ (extension.elim [] Extension.bytes ++ rest)) =
        (front ++ (Octets.ofWords sources ++ extension.elim [] Extension.bytes)) ++ rest := by
      simp only [List.append_assoc]
    generalize front ++ (Octets.ofWords sources ++ extension.elim [] Extension.bytes) = before at hfront
    have hne : before ≠ [] := by
      rintro rfl
      have hlength := congrArg List.length hfront
      simp only [List.length_append, h, headerLength, List.length_nil] at hlength
      omega
    have hstart : (before ++ rest).length - rest.length = before.length := by
      rw [List.length_append, Nat.add_sub_cancel]
    have hstop : stop? f (before ++ rest) before.length = _ := stop?_append f hne
    rw [hfront]
    simp only [Except.map, Except.bind, hstart, hstop, Option.bind_eq_bind, Option.bind_some]
    cases hend : (if f.padded then unpad ((before ++ rest).getLastD 0) rest else .ok rest) with
    | error e => rfl
    | ok payload =>
      have htail : ∃ tail, payload ++ tail = rest := by
        split at hend
        · obtain ⟨-, tail, -, htail⟩ := unpad_eq_ok.1 hend
          exact ⟨tail, htail⟩
        · exact ⟨[], by rw [Except.ok.inj hend, List.append_nil]⟩
      obtain ⟨tail, rfl⟩ := htail
      simp only [slice?_append, Option.bind_some]
      rfl

end Accesses

/-- No position lies outside the datagram and no difference of lengths is negative, and what is read
by positions is what is read part by part. -/
theorem decode?_eq (d : List UInt8) : decode? d = some (decode d) := by
  unfold decode?
  by_cases hshort : d.length < headerLength
  · rw [if_pos hshort, decode_of_length_lt hshort]
  · obtain ⟨b₀, b₁, sequence, timestamp, ssrc, body, rfl⟩ := exists_header (Nat.le_of_not_lt hshort)
    have hpayload : payload? (flags b₀) (b₀ :: b₁ :: (Octets.ofUInt16 sequence ++
        Octets.ofUInt32 timestamp ++ Octets.ofUInt32 ssrc) ++ body) = _ :=
      payload?_append (flags b₀) rfl
    have hsequence : word16? (b₀ :: b₁ :: (Octets.ofUInt16 sequence ++
        Octets.ofUInt32 timestamp ++ Octets.ofUInt32 ssrc ++ body)) 2 = some sequence :=
      congrArg some (Octets.toUInt16_split sequence)
    have htimestamp : word32? (b₀ :: b₁ :: (Octets.ofUInt16 sequence ++
        Octets.ofUInt32 timestamp ++ Octets.ofUInt32 ssrc ++ body)) 4 = some timestamp :=
      congrArg some (Octets.toUInt32_split timestamp)
    have hssrc : word32? (b₀ :: b₁ :: (Octets.ofUInt16 sequence ++
        Octets.ofUInt32 timestamp ++ Octets.ofUInt32 ssrc ++ body)) 8 = some ssrc :=
      congrArg some (Octets.toUInt32_split ssrc)
    simp only [List.cons_append] at hpayload
    rw [if_neg hshort, decode_header]
    simp only [List.getElem?_cons_zero, List.getElem?_cons_succ, Option.bind_eq_bind,
      Option.bind_some, hsequence, htimestamp, hssrc, hpayload]
    split <;> rfl

end Positions

/-! ## The result -/

/-- A datagram is read as a packet exactly if it is laid out as that packet, and refused if it is not
laid out as any; no access on the way lies outside of it. A packet whose payload type has seven bits
is read back from its wire form. So is every packet that was read from a datagram, and the wire form
is the datagram again if that announces neither padding nor an extension header nor sources. -/
theorem reading_accepts_layouts (d : List UInt8) :
    (∀ p, decode d = .ok p ↔ ∃ l : Layout, l.bytes = d ∧ l.packet = p) ∧
      ((∃ e, decode d = .error e) ↔ ∀ l : Layout, l.bytes ≠ d) ∧
      Positions.decode? d = some (decode d) ∧
      (∀ p : Packet, p.payloadType ≤ 127 → decode p.encode = .ok p) ∧
      ∀ p, decode d = .ok p → decode p.encode = .ok p ∧ (p.encode = d ↔ IsPlain d) := by
  refine ⟨fun p => decode_eq_ok, ?_, Positions.decode?_eq d, ?_, ?_⟩
  · constructor
    · rintro ⟨e, he⟩ l rfl
      rw [decode_bytes] at he
      simp at he
    · intro hnone
      cases hd : decode d with
      | error e => exact ⟨e, rfl⟩
      | ok p =>
        obtain ⟨l, hl, -⟩ := exists_layout hd
        exact absurd hl (hnone l)
  · intro p hp
    exact decode_encode (UInt8.lt_of_le_of_lt hp (by decide))
  · intro p hp
    exact ⟨decode_encode (payloadType_of_decode hp), encode_eq_iff hp⟩

/-- A datagram with two contributing sources, an extension header of one word, a payload of two
bytes and padding of three. -/
def padded : List UInt8 :=
  [0xB2, 0xE0, 0, 7, 0, 0, 0, 160, 0, 0, 0, 1, 0xDE, 0xAD, 0xBE, 0xEF, 0xCA, 0xFE, 0xBA, 0xBE,
    0xBE, 0xDE, 0, 1, 1, 2, 3, 4, 9, 9, 0, 0, 3]

theorem reading_accepts_layouts_padded :
    let p : Packet := ⟨true, 0x60, 7, 160, 1, [9, 9]⟩
    p.payloadType ≤ 127 ∧ decode padded = .ok p ∧ decode p.encode = .ok p ∧ p.encode ≠ padded ∧
      ∃ l : Layout, l.bytes = padded ∧ l.packet = p := by
  intro p
  have htype : p.payloadType ≤ 127 := by decide
  have hread : decode padded = .ok p := rfl
  obtain ⟨hlayout, -, -, hencode, hagain⟩ := reading_accepts_layouts padded
  have hplain : ¬ IsPlain padded := by decide
  exact ⟨htype, hread, hencode p htype, mt (hagain p hread).2.1 hplain, (hlayout p).1 hread⟩

end MediaGateway.Packet
