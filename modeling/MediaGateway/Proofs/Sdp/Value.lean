import MediaGateway.Proofs.Text
import MediaGateway.Sdp.Parser
import MediaGateway.Sdp.Printer

/-!
# Values read back

The value of each line of a description is read as what it was written from, as long as the texts in
it do not run into what stands around them. `IsWritable` says what that takes for each of the small
parts of a description.
-/

namespace MediaGateway

open Text

/-- What a format needs to be written as the meaning of a payload number. -/
structure Format.IsWritable (f : Format) : Prop where
  encoding_ne : f.encoding ≠ ""
  encoding_head : ∀ c ∈ f.encoding.toList.head?, isBlank c = false
  encoding_slash : '/' ∉ f.encoding.toList
  encoding_line : '\n' ∉ f.encoding.toList
  channels : 1 ≤ f.channels

instance {f : Format} : Decidable f.IsWritable :=
  decidable_of_iff (f.encoding ≠ "" ∧ f.encoding.toList.head?.all (fun c => !isBlank c) = true ∧
      '/' ∉ f.encoding.toList ∧ '\n' ∉ f.encoding.toList ∧ 1 ≤ f.channels)
    ⟨fun ⟨h₁, h₂, h₃, h₄, h₅⟩ => ⟨h₁, by simpa [Option.all_eq_true] using h₂, h₃, h₄, h₅⟩,
      fun ⟨h₁, h₂, h₃, h₄, h₅⟩ => ⟨h₁, by simpa [Option.all_eq_true] using h₂, h₃, h₄, h₅⟩⟩

namespace Sdp

/-! ## What it takes -/

structure Origin.IsWritable (o : Origin) : Prop where
  username : IsWord o.username.toList
  sessionId : IsWord o.sessionId.toList
  sessionVersion : IsWord o.sessionVersion.toList
  addressType : IsWord o.addressType.toList
  address : IsWord o.address.toList

structure ConnectionData.IsWritable (c : ConnectionData) : Prop where
  addressType : IsWord c.addressType.toList
  address : IsWord c.address.toList
  slash : '/' ∉ c.address.toList

structure IceCredentials.IsWritable (i : IceCredentials) : Prop where
  ufrag : IsTrimmedLine i.ufrag.toList
  pwd : IsTrimmedLine i.pwd.toList

structure Candidate.IsWritable (c : Candidate) : Prop where
  foundation : IsWord c.foundation.toList
  transport : IsWord c.transport.toList
  lowerCase : c.transport.toList.map Char.toLower = c.transport.toList
  address : IsWord c.address.toList
  kind : IsWord c.kind.toList

structure Fingerprint.IsWritable (f : Fingerprint) : Prop where
  text : IsTrimmedLine f.text.toList
  hash : ' ' ∉ f.hash.toList
  value : IsTrimmed f.value.toList

/-- The canonical name may begin with blanks. -/
structure SourceAttribute.IsWritable (s : SourceAttribute) : Prop where
  line : ∀ cname ∈ s.cname, '\n' ∉ cname.toList
  last : ∀ cname ∈ s.cname, ∀ c ∈ cname.toList.getLast?, isBlank c = false

def RtcpAttribute.IsWritable (r : RtcpAttribute) : Prop := ∀ a ∈ r.address, IsWord a.toList

/-! ## Reading -/

@[simp] theorem toList_toString (n : Nat) : (toString n).toList = Nat.toDigits 10 n := by
  simp [toString]

theorem isLine_toString (n : Nat) : IsLine (toString n).toList := by
  rw [toList_toString]
  exact (isWord_toDigits n).isLine

namespace Parser

theorem origin?_line {o : Origin} (h : o.IsWritable) :
    origin? (o.username.toList ++ ' ' :: (o.sessionId.toList ++ ' ' :: (o.sessionVersion.toList ++
      ' ' :: 'I' :: 'N' :: ' ' :: (o.addressType.toList ++ ' ' :: o.address.toList)))) = some o := by
  have hin (a : List Char) : words ('I' :: 'N' :: ' ' :: a) = ['I', 'N'] :: words a :=
    words_append_space (w := ['I', 'N']) (by decide) a
  simp [origin?, words_append_space h.username, words_append_space h.sessionId,
    words_append_space h.sessionVersion, hin, words_append_space h.addressType,
    words_word h.address]

theorem connection?_line {c : ConnectionData} (h : c.IsWritable) :
    connection? ('I' :: 'N' :: ' ' :: (c.addressType.toList ++ ' ' :: c.address.toList)) =
      some c := by
  have hin (a : List Char) : words ('I' :: 'N' :: ' ' :: a) = ['I', 'N'] :: words a :=
    words_append_space (w := ['I', 'N']) (by decide) a
  simp [connection?, hin, words_append_space h.addressType, words_word h.address,
    upTo_of_notMem h.slash]

theorem timing?_line (t : UInt64 × UInt64) :
    timing? (Nat.toDigits 10 t.1.toNat ++ ' ' :: Nat.toDigits 10 t.2.toNat) = some t := by
  simp [timing?, words_append_space (isWord_toDigits _), words_word (isWord_toDigits _)]

theorem section?_line {media protocol : String} (port : UInt16) {formats : List String}
    (hm : IsWord media.toList) (hp : IsWord protocol.toList)
    (hf : ∀ f ∈ formats, IsWord f.toList) : section? (media.toList ++ ' ' ::
      (Nat.toDigits 10 port.toNat ++ ' ' :: (protocol.toList ++
        formats.flatMap fun f => ' ' :: f.toList))) = some { media, port, protocol, formats } := by
  have hformats : words (protocol.toList ++ formats.flatMap fun f => ' ' :: f.toList) =
      protocol.toList :: formats.map String.toList := by
    rw [← words_flatMap (by simpa using hf) hp, List.flatMap_map]
  have hslash : '/' ∉ Nat.toDigits 10 port.toNat := notMem_toDigits (by decide)
  simp [section?, words_append_space hm, words_append_space (isWord_toDigits _), hformats,
    upTo_of_notMem hslash, Function.comp_def]

theorem candidate?_line {c : Candidate} (h : c.IsWritable) :
    candidate? c.text.toList = some c := by
  have htyp (a : List Char) : words ('t' :: 'y' :: 'p' :: ' ' :: a) = ['t', 'y', 'p'] :: words a :=
    words_append_space (w := ['t', 'y', 'p']) (by decide) a
  simp [candidate?, Candidate.text, String.toList_append, words_append_space h.foundation,
    words_append_space (isWord_toDigits _), words_append_space h.transport,
    words_append_space h.address, htyp, words_word h.kind, h.lowerCase]

theorem isLine_candidate {c : Candidate} (h : c.IsWritable) : IsLine c.text.toList := by
  have hspace : IsLine " ".toList := by decide
  unfold Candidate.text
  repeat' with_reducible apply isLine_append
  · exact h.foundation.isLine
  · exact hspace
  · exact isLine_toString _
  · exact hspace
  · exact h.transport.isLine
  · exact hspace
  · exact isLine_toString _
  · exact hspace
  · exact h.address.isLine
  · exact hspace
  · exact isLine_toString _
  · decide
  · exact h.kind.isLine

theorem rtcp?_line {r : RtcpAttribute} (h : r.IsWritable) :
    ∃ v, r.line.toList = 'a' :: '=' :: ("rtcp".toList ++ ':' :: v) ∧ IsLine v ∧
      rtcp? v = some r := by
  obtain ⟨port, address⟩ := r
  cases address with
  | none =>
    refine ⟨Nat.toDigits 10 port.toNat, by simp [RtcpAttribute.line, String.toList_append],
      (isWord_toDigits _).isLine, ?_⟩
    simp [rtcp?, words_word (isWord_toDigits _)]
  | some a =>
    have hin (a : List Char) : words ('I' :: 'N' :: ' ' :: a) = ['I', 'N'] :: words a :=
      words_append_space (w := ['I', 'N']) (by decide) a
    have htype : IsWord (addressType a).toList := by
      simp only [addressType]
      split <;> decide
    have hline : IsLine (Nat.toDigits 10 port.toNat ++ (" IN ".toList ++
        ((addressType a).toList ++ (" ".toList ++ a.toList)))) :=
      (isWord_toDigits _).isLine.append (.append (by decide) (htype.isLine.append
        (.append (by decide) (h a rfl).isLine)))
    refine ⟨_, by simp [RtcpAttribute.line, String.toList_append], hline, ?_⟩
    simp [rtcp?, words_append_space (isWord_toDigits _), hin, words_append_space htype,
      words_word (h a rfl)]

theorem fingerprint_line {f : Fingerprint} (h : f.IsWritable) :
    Fingerprint.ofChars f.text.toList = .ok f := by
  have htrim : trim f.text.toList = f.text.toList := h.text.trimmed
  have hvalue : trim f.value.toList = f.value.toList := h.value
  have hlist : f.text.toList = f.hash.toList ++ ' ' :: f.value.toList := by
    simp [Fingerprint.text, String.toList_append]
  simp only [Fingerprint.ofChars, htrim]
  simp [hlist, cut_append h.hash, hvalue]

theorem setup_line (r : SetupRole) : SetupRole.ofChars r.token.toList = .ok r := by
  cases r <;> rfl

theorem fmtp?_line (n : UInt8) {text : String} (h : IsTrimmed text.toList) :
    fmtp? (Nat.toDigits 10 n.toNat ++ ' ' :: text.toList) = some (n, text) := by
  have hspace : ' ' ∉ Nat.toDigits 10 n.toNat := notMem_toDigits (by decide)
  have hn : trim (Nat.toDigits 10 n.toNat) = Nat.toDigits 10 n.toNat := (isWord_toDigits _).isTrimmed
  have ht : trim text.toList = text.toList := h
  simp [fmtp?, cut_append hspace, hn, ht]

/-- The part of a mapping behind the number. -/
theorem split_encoding {f : Format} (h : f.IsWritable) :
    split '/' (trim (f.encoding.toList ++ '/' :: (Nat.toDigits 10 f.clockRate.toNat ++
      if 1 < f.channels then '/' :: Nat.toDigits 10 f.channels.toNat else []))) =
        f.encoding.toList :: Nat.toDigits 10 f.clockRate.toNat ::
          if 1 < f.channels then [Nat.toDigits 10 f.channels.toNat] else [] := by
  have hne : f.encoding.toList ≠ [] := mt String.toList_eq_nil_iff.1 h.encoding_ne
  have hdigit (n : Nat) : '/' ∉ Nat.toDigits 10 n := notMem_toDigits (by decide)
  have hlast (n : Nat) : ∀ c ∈ (Nat.toDigits 10 n).getLast?, isBlank c = false := fun c hc =>
    (isWord_toDigits n).notBlank c (List.mem_of_mem_getLast? hc)
  have htrim {n : Nat} {a : List Char} :
      trim (f.encoding.toList ++ (a ++ Nat.toDigits 10 n)) =
        f.encoding.toList ++ (a ++ Nat.toDigits 10 n) := by
    refine isTrimmed_append hne (by simp [Nat.toDigits_ne_nil]) h.encoding_head fun c hc => ?_
    rw [List.getLast?_append] at hc
    exact hlast n c (by simpa [Nat.toDigits_ne_nil] using hc)
  split
  · have ht := htrim (n := f.channels.toNat)
      (a := '/' :: (Nat.toDigits 10 f.clockRate.toNat ++ ['/']))
    simp only [List.cons_append, List.append_assoc, List.nil_append] at ht
    rw [ht, split_append h.encoding_slash, split_append (hdigit _), split_of_notMem (hdigit _)]
  · have ht := htrim (n := f.clockRate.toNat) (a := ['/'])
    simp only [List.cons_append, List.nil_append] at ht
    rw [List.append_nil, ht, split_append h.encoding_slash, split_of_notMem (hdigit _)]

theorem rtpmap?_line {f : Format} (h : f.IsWritable) :
    rtpmap? f.text.toList = some { f with parameters := none } := by
  have hspace : ' ' ∉ Nat.toDigits 10 f.payloadType.toNat := notMem_toDigits (by decide)
  have hlist : f.text.toList = Nat.toDigits 10 f.payloadType.toNat ++ ' ' ::
      (f.encoding.toList ++ '/' :: (Nat.toDigits 10 f.clockRate.toNat ++
        if 1 < f.channels then '/' :: Nat.toDigits 10 f.channels.toNat else [])) := by
    simp only [Format.text]
    split <;> simp [String.toList_append]
  have hdigits (n : Nat) : trim (Nat.toDigits 10 n) = Nat.toDigits 10 n :=
    (isWord_toDigits n).isTrimmed
  have hchannels : max f.channels 1 = f.channels := by
    show (if f.channels ≤ 1 then 1 else f.channels) = f.channels
    split
    · rename_i hle
      exact UInt8.le_antisymm h.channels hle
    · rfl
  have hempty : f.encoding.toList.isEmpty = false := by simp [h.encoding_ne]
  simp only [rtpmap?, hlist, cut_append hspace, Option.bind_eq_bind, Option.bind_some,
    split_encoding h, hempty]
  by_cases hone : 1 < f.channels
  · simp [hone, hdigits, Format.make, Format.withChannels, hchannels]
  · have heq : f.channels = 1 := UInt8.le_antisymm (UInt8.not_lt.1 hone) h.channels
    rw [heq] at hchannels
    simp [heq, hdigits, Format.make, Format.withChannels, hchannels]

theorem isLine_mapping {f : Format} (h : f.IsWritable) : IsLine f.text.toList := by
  have hencoding : IsLine (f.encoding ++ "/" ++ toString f.clockRate.toNat).toList := by
    refine isLine_append ⟨?_, ?_⟩ (isLine_toString _)
    · simp [String.toList_append, h.encoding_line]
    · simp [String.toList_append]
  have hchannels : IsLine (if 1 < f.channels then "/" ++ toString f.channels.toNat else "").toList := by
    split
    · exact isLine_append (by decide) (isLine_toString _)
    · decide
  have hnumber : IsLine (toString f.payloadType.toNat ++ " ").toList :=
    isLine_append (isLine_toString _) (by decide)
  have he : f.text = toString f.payloadType.toNat ++ " " ++
      (f.encoding ++ "/" ++ toString f.clockRate.toNat) ++
        if 1 < f.channels then "/" ++ toString f.channels.toNat else "" := by
    simp only [Format.text, String.append_assoc]
  rw [he]
  exact isLine_append (isLine_append hnumber hencoding) hchannels

theorem source?_line {s : SourceAttribute} (h : s.IsWritable) :
    ∃ v, s.line.toList = 'a' :: '=' :: ("ssrc".toList ++ ':' :: v) ∧ IsLine v ∧
      source? v = some s := by
  obtain ⟨ssrc, cname⟩ := s
  have hspace : ' ' ∉ Nat.toDigits 10 ssrc.toNat := notMem_toDigits (by decide)
  have hdigits : trim (Nat.toDigits 10 ssrc.toNat) = Nat.toDigits 10 ssrc.toNat :=
    (isWord_toDigits _).isTrimmed
  cases cname with
  | none =>
    refine ⟨Nat.toDigits 10 ssrc.toNat, by simp [SourceAttribute.line, String.toList_append],
      (isWord_toDigits _).isLine, ?_⟩
    simp [source?, cut_of_notMem hspace, hdigits, afterStart]
  | some cname =>
    have htrim : IsTrimmed ("cname:".toList ++ cname.toList) := by
      rw [isTrimmed_iff]
      refine ⟨by simp [isBlank], fun c hc => ?_⟩
      rw [List.getLast?_append] at hc
      cases hl : cname.toList.getLast? with
      | none =>
        rw [hl] at hc
        obtain rfl : ':' = c := by simpa using hc
        decide
      | some d =>
        rw [hl] at hc
        exact h.last cname rfl c (by rw [hl]; exact hc)
    have ht : trim ("cname:".toList ++ cname.toList) = "cname:".toList ++ cname.toList := htrim
    have hline : IsLine (Nat.toDigits 10 ssrc.toNat ++ (" ".toList ++
        ("cname:".toList ++ cname.toList))) := by
      have hc : '\n' ∉ "cname:".toList ++ cname.toList := by simp [h.line cname rfl]
      exact (isWord_toDigits _).isLine.append (.append (by decide) (IsTrimmedLine.isLine ⟨htrim, hc⟩))
    refine ⟨Nat.toDigits 10 ssrc.toNat ++ ' ' :: ("cname:".toList ++ cname.toList), by
      simp [SourceAttribute.line, String.toList_append], hline, ?_⟩
    simp only [source?, cut_append hspace, ht, hdigits, afterStart_append]
    simp

end Parser

/-- Fingerprints are those that are read from a line. -/
theorem Fingerprint.isWritable_iff {f : Fingerprint} :
    f.IsWritable ↔ ∃ cs, '\n' ∉ cs ∧ Fingerprint.ofChars cs = .ok f := by
  constructor
  · exact fun h => ⟨_, h.text.notMem, Parser.fingerprint_line h⟩
  · rintro ⟨cs, hline, hf⟩
    simp only [Fingerprint.ofChars] at hf
    split at hf
    · rename_i hash value hcut
      obtain ⟨he, hspace⟩ := cut_eq_some hcut
      simp only [Except.ok.injEq] at hf
      subst hf
      have hmem {c : Char} (h : c ∈ hash ++ ' ' :: value) : c ∈ cs := mem_of_mem_trim (he ▸ h)
      have htrim := isTrimmed_iff.1 (isTrimmed_trim cs)
      rw [he] at htrim
      have hhash : hash ≠ [] := by
        rintro rfl
        have hb : isBlank ' ' = false := htrim.1 ' ' rfl
        simp [isBlank] at hb
      have hvalue : trim value ≠ [] := by
        cases hl : value.getLast? with
        | none =>
          obtain rfl : value = [] := List.getLast?_eq_none_iff.1 hl
          have hb : isBlank ' ' = false := htrim.2 ' ' (by simp)
          simp [isBlank] at hb
        | some c =>
          have hb : isBlank c = false := htrim.2 c (by
            simp [List.getLast?_append, List.getLast?_cons, hl])
          exact List.ne_nil_of_mem (mem_trim (List.mem_of_mem_getLast? hl) hb)
      have hlist : (Fingerprint.text ⟨String.ofList hash, String.ofList (trim value)⟩).toList =
          hash ++ ' ' :: trim value := by
        simp [Fingerprint.text, String.toList_append]
      refine ⟨⟨?_, ?_⟩, by simpa using hspace, by simpa using isTrimmed_trim value⟩
      · rw [hlist]
        refine isTrimmed_append hhash (by simp) (fun c hc => htrim.1 c ?_) fun c hc => ?_
        · rw [List.head?_append, Option.mem_def.1 hc]
          rfl
        · rw [List.getLast?_cons_of_ne_nil hvalue] at hc
          exact getLast?_trim hc
      · rw [hlist]
        intro hm
        refine hline (hmem ?_)
        rw [List.mem_append, List.mem_cons] at hm ⊢
        exact hm.imp_right fun h => h.imp_right mem_of_mem_trim
    · simp at hf

end Sdp

end MediaGateway
