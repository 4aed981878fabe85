import MediaGateway.Proofs.Sdp.Reading

/-!
# What is generated is read back

A generated description has one section for each media session, and one for each section of some
other description that is refused. The strings in it come from the configuration, from agreements
and from the other side. If those of the first two kinds can stand on a line and be told from what
stands around them, the text of the description is read as the description. Those of the other side
are only repeated where they have been words on a line already.
-/

namespace MediaGateway

open MediaGateway.Text

namespace Sdp

open MediaGateway.Sdp.Parser

/-! ## The words of sections that were read -/

/-- What the line that opens a section says, apart from the port. -/
def MediaSection.heading (m : MediaSection) : String × String × List String :=
  (m.media, m.protocol, m.formats)

theorem MediaSection.HasWords.of_heading {m m' : MediaSection} (h : m.HasWords)
    (he : m'.heading = m.heading) : m'.HasWords := by
  obtain ⟨hmedia, hprotocol, hformats⟩ := Prod.mk.inj he |>.imp_right Prod.mk.inj
  exact ⟨hmedia ▸ h.media, hprotocol ▸ h.protocol, hformats ▸ h.formats⟩

/-- A line of a section leaves its heading. -/
theorem heading_sectionAttribute {m m' : MediaSection} {name line : List Char}
    {value : Option (List Char)} (h : sectionAttribute m name value line = .ok m') :
    m'.heading = m.heading := by
  unfold sectionAttribute at h
  repeat' split at h
  all_goals
    first
    | obtain rfl := Except.ok.inj h
      rfl
    | obtain ⟨a, -, h⟩ := exists_of_bind_eq_ok h
      obtain rfl := Except.ok.inj h
      rfl

/-- A line of the session part leaves the sections. -/
theorem sections_sessionAttribute {d d' : Draft} {name : List Char} {value : Option (List Char)}
    (h : sessionAttribute d name value = .ok d') : d'.sections = d.sections := by
  unfold sessionAttribute at h
  repeat' split at h
  all_goals
    first
    | obtain rfl := Except.ok.inj h
      rfl
    | obtain ⟨a, -, h⟩ := exists_of_bind_eq_ok h
      obtain rfl := Except.ok.inj h
      rfl

theorem headings_connectionLine {d d' : Draft} {v l : List Char}
    (h : connectionLine d v l = .ok d') :
    d'.sections.map MediaSection.heading = d.sections.map MediaSection.heading := by
  obtain ⟨c, -, h⟩ := exists_of_bind_eq_ok h
  split at h
  · obtain rfl := Except.ok.inj h
    rfl
  · rename_i m earlier hs
    obtain rfl := Except.ok.inj h
    rw [hs]
    rfl

theorem headings_attributeLine {d d' : Draft} {v l : List Char}
    (h : attributeLine d v l = .ok d') :
    d'.sections.map MediaSection.heading = d.sections.map MediaSection.heading := by
  unfold attributeLine at h
  split at h
  rename_i name value _
  split at h
  · rw [sections_sessionAttribute h]
  · rename_i m earlier hs
    obtain ⟨m', hm', h⟩ := exists_of_bind_eq_ok h
    obtain rfl := Except.ok.inj h
    rw [hs, List.map_cons, List.map_cons, heading_sectionAttribute hm']

/-- What a line is to the sections: it opens one, has connection data or an attribute, or leaves
them. -/
theorem sections_line_cases {d d' : Draft} {l : List Char} (h : Parser.line d l = .ok d') :
    (∃ v m, l = 'm' :: '=' :: v ∧ section? v = some m ∧ d'.sections = m :: d.sections) ∨
    (∃ v, l = 'c' :: '=' :: v ∧ connectionLine d v l = .ok d') ∨
    (∃ v, l = 'a' :: '=' :: v ∧ attributeLine d v l = .ok d') ∨
    (∀ v, l ≠ 'm' :: '=' :: v ∧ l ≠ 'a' :: '=' :: v) ∧ d'.sections = d.sections := by
  unfold Parser.line at h
  split at h
  · rename_i kind v
    split at h
    · unfold typedLine at h
      split at h
      · obtain ⟨n, -, h⟩ := exists_of_bind_eq_ok h
        obtain rfl := Except.ok.inj h
        exact .inr (.inr (.inr ⟨by simp, rfl⟩))
      · obtain ⟨o, -, h⟩ := exists_of_bind_eq_ok h
        obtain rfl := Except.ok.inj h
        exact .inr (.inr (.inr ⟨by simp, rfl⟩))
      · obtain rfl := Except.ok.inj h
        exact .inr (.inr (.inr ⟨by simp, rfl⟩))
      · obtain ⟨t, -, h⟩ := exists_of_bind_eq_ok h
        obtain rfl := Except.ok.inj h
        exact .inr (.inr (.inr ⟨by simp, rfl⟩))
      · obtain ⟨m, hm, h⟩ := exists_of_orMalformed h
        obtain rfl := Except.ok.inj h
        exact .inl ⟨v, m, rfl, hm, rfl⟩
      · exact .inr (.inl ⟨v, rfl, h⟩)
      · exact .inr (.inr (.inl ⟨v, rfl, h⟩))
      · obtain rfl := Except.ok.inj h
        exact .inr (.inr (.inr ⟨by simp_all, rfl⟩))
    · simp [malformed] at h
  · simp [malformed] at h
  · obtain rfl := Except.ok.inj h
    exact .inr (.inr (.inr ⟨by simp, rfl⟩))

/-- A line opens a section, or it leaves the headings of all sections. -/
theorem sections_line {d d' : Draft} {l : List Char} (h : Parser.line d l = .ok d') :
    (∃ v m, section? v = some m ∧ d'.sections = m :: d.sections) ∨
      d'.sections.map MediaSection.heading = d.sections.map MediaSection.heading := by
  rcases sections_line_cases h with ⟨v, m, -, hm, hs⟩ | ⟨v, -, h⟩ | ⟨v, -, h⟩ | ⟨-, hs⟩
  · exact .inl ⟨v, m, hm, hs⟩
  · exact .inr (headings_connectionLine h)
  · exact .inr (headings_attributeLine h)
  · exact .inr (by rw [hs])

theorem hasWords_line {d d' : Draft} {l : List Char} (h : Parser.line d l = .ok d')
    (hd : ∀ m ∈ d.sections, m.HasWords) : ∀ m ∈ d'.sections, m.HasWords := by
  obtain ⟨v, m, hm, hs⟩ | hs := sections_line h
  · rw [hs]
    exact List.forall_mem_cons.2 ⟨(isWritable_of_section? hm).hasWords, hd⟩
  · intro m hm
    have hmem := List.mem_map_of_mem (f := MediaSection.heading) hm
    rw [hs] at hmem
    obtain ⟨m₀, hm₀, he⟩ := List.mem_map.1 hmem
    exact (hd m₀ hm₀).of_heading he.symm

theorem hasWords_lines {d d' : Draft} {ls : List (List Char)}
    (h : ls.foldlM Parser.line d = .ok d') (hd : ∀ m ∈ d.sections, m.HasWords) :
    ∀ m ∈ d'.sections, m.HasWords := by
  induction ls generalizing d with
  | nil =>
    obtain rfl := Except.ok.inj h
    exact hd
  | cons l ls ih =>
    rw [List.foldlM_cons] at h
    obtain ⟨d₁, h₁, h⟩ := exists_of_bind_eq_ok h
    exact ih h (hasWords_line h₁ hd)

/-- Whatever else stands in a text, the sections that are read from it begin with words. -/
theorem Description.hasWords_of_ofText {text : String} {d : Description}
    (h : Description.ofText text = .ok d) : ∀ m ∈ d.media, m.HasWords := by
  obtain ⟨draft, hlines, h⟩ := exists_of_bind_eq_ok h
  have hwords : ∀ m ∈ draft.sections, m.HasWords := hasWords_lines hlines (by simp)
  unfold finish at h
  split at h
  · obtain rfl := Except.ok.inj h
    exact fun m hm => hwords m (List.mem_reverse.1 hm)
  all_goals simp at h

end Sdp

/-! ## What can stand on a line -/

/-- A text that is not empty and fills a line from one end to the other. -/
structure Text.IsPhrase (a : List Char) : Prop extends IsTrimmedLine a where
  ne_nil : a ≠ []

instance (a : List Char) : Decidable (IsPhrase a) :=
  decidable_of_iff (IsTrimmedLine a ∧ a ≠ []) ⟨fun ⟨h, hne⟩ => ⟨h, hne⟩, fun h => ⟨h.1, h.ne_nil⟩⟩

namespace Text.IsPhrase

variable {a : List Char}

theorem head (h : IsPhrase a) : ∀ c ∈ a.head?, isBlank c = false :=
  (isTrimmed_iff.1 h.trimmed).1

theorem last (h : IsPhrase a) : ∀ c ∈ a.getLast?, isBlank c = false :=
  (isTrimmed_iff.1 h.trimmed).2

end Text.IsPhrase

/-- A format with an encoding name and parameters that stay where they are written. -/
structure Format.IsPlain (f : Format) : Prop where
  encoding : IsPhrase f.encoding.toList
  slash : '/' ∉ f.encoding.toList
  channels : 1 ≤ f.channels
  parameters : ∀ p ∈ f.parameters, IsTrimmedLine p.toList

instance (f : Format) : Decidable f.IsPlain :=
  decidable_of_iff (IsPhrase f.encoding.toList ∧ '/' ∉ f.encoding.toList ∧ 1 ≤ f.channels ∧
      ∀ p ∈ f.parameters, IsTrimmedLine p.toList)
    ⟨fun ⟨h₁, h₂, h₃, h₄⟩ => ⟨h₁, h₂, h₃, h₄⟩, fun ⟨h₁, h₂, h₃, h₄⟩ => ⟨h₁, h₂, h₃, h₄⟩⟩

theorem Format.IsPlain.isWritable {f : Format} (h : f.IsPlain) : f.IsWritable where
  encoding_ne := by
    rintro he
    exact h.encoding.ne_nil (String.toList_eq_nil_iff.2 he)
  encoding_head := h.encoding.head
  encoding_slash := h.slash
  encoding_line := h.encoding.notMem
  channels := h.channels

namespace Sdp

/-- A fingerprint of two phrases, the first of which ends where the first space is. -/
structure Fingerprint.IsPlain (f : Fingerprint) : Prop where
  hash : IsPhrase f.hash.toList
  space : ' ' ∉ f.hash.toList
  value : IsPhrase f.value.toList

instance (f : Fingerprint) : Decidable f.IsPlain :=
  decidable_of_iff (IsPhrase f.hash.toList ∧ ' ' ∉ f.hash.toList ∧ IsPhrase f.value.toList)
    ⟨fun ⟨h₁, h₂, h₃⟩ => ⟨h₁, h₂, h₃⟩, fun ⟨h₁, h₂, h₃⟩ => ⟨h₁, h₂, h₃⟩⟩

theorem Fingerprint.IsPlain.isWritable {f : Fingerprint} (h : f.IsPlain) : f.IsWritable := by
  have hlist : f.text.toList = f.hash.toList ++ ' ' :: f.value.toList := by
    simp [Fingerprint.text, String.toList_append]
  refine ⟨?_, h.space, h.value.trimmed⟩
  rw [hlist]
  refine ⟨isTrimmed_append h.hash.ne_nil (by simp) h.hash.head ?_, ?_⟩
  · rw [List.getLast?_cons_of_ne_nil h.value.ne_nil]
    exact h.value.last
  · simp [h.hash.notMem, h.value.notMem]

/-- What a session contributes, in strings that stay where they are written. -/
structure LocalMedia.IsPlain (l : LocalMedia) : Prop where
  distinct : l.formats.Distinct
  formats : ∀ f ∈ l.formats.toList, f.IsPlain
  ice : ∀ i ∈ l.ice, IsTrimmedLine i.ufrag.toList ∧ IsTrimmedLine i.pwd.toList
  dtls : ∀ f ∈ l.dtls, f.IsPlain

instance (l : LocalMedia) : Decidable l.IsPlain :=
  decidable_of_iff (l.formats.Distinct ∧ (∀ f ∈ l.formats.toList, f.IsPlain) ∧
      (∀ i ∈ l.ice, IsTrimmedLine i.ufrag.toList ∧ IsTrimmedLine i.pwd.toList) ∧
      ∀ f ∈ l.dtls, f.IsPlain)
    ⟨fun ⟨h₁, h₂, h₃, h₄⟩ => ⟨h₁, h₂, h₃, h₄⟩, fun ⟨h₁, h₂, h₃, h₄⟩ => ⟨h₁, h₂, h₃, h₄⟩⟩

theorem LocalMedia.IsPlain.isWritable {l : LocalMedia} (h : l.IsPlain) : l.IsWritable where
  formats := ⟨h.distinct, fun f hf => (h.formats f hf).isWritable,
    fun f hf => (h.formats f hf).parameters⟩
  ice := fun i hi => ⟨(h.ice i hi).1, (h.ice i hi).2⟩
  dtls := fun f hf => (h.dtls f hf).isWritable

/-! ## Generated descriptions -/

namespace Builder

theorem isWritable_make {localAddress : String} {externalAddress : Option String}
    (hlocal : IsAddress localAddress) (hexternal : ∀ a ∈ externalAddress, IsAddress a) :
    (make localAddress externalAddress).IsWritable where
  localAddress := hlocal
  externalAddress := fun a ha => hexternal a (Option.filter_eq_some_iff.1 ha).1

variable {localAddress cname : String} {externalAddress : Option String} {ls : List LocalMedia}
  {refused : List MediaSection}

/-- The sections of a generated description can be written and are in normal form. -/
theorem sections_generated {b : Builder} (hb : b.IsWritable) (hcname : IsTrimmedLine cname.toList)
    (hls : ∀ l ∈ ls, l.IsPlain) (hrefused : ∀ m ∈ refused, m.HasWords) (offer : Bool) :
    ∀ m ∈ ls.map (b.mediaSection offer cname) ++ refused.map rejection,
      m.IsWritable ∧ m.normal = m := by
  intro m hm
  rcases List.mem_append.1 hm with hm | hm
  · obtain ⟨l, hl, rfl⟩ := List.mem_map.1 hm
    have hsource : SourceAttribute.IsWritable ⟨l.ssrc, some cname⟩ := by
      constructor
      · rintro _ ⟨⟩
        exact hcname.notMem
      · rintro _ ⟨⟩
        exact (isTrimmed_iff.1 hcname.trimmed).2
    exact ⟨isWritable_mediaSection hb (hls l hl).isWritable hsource,
      normal_mediaSection (hls l hl).distinct⟩
  · obtain ⟨m₀, hm₀, rfl⟩ := List.mem_map.1 hm
    exact ⟨isWritable_rejection (hrefused m₀ hm₀), normal_rejection m₀⟩

/-- The text of a generated description is read as the description, and its sections offer what they
were made for: an answer all formats, an offer those that it lists. -/
theorem reading_of_generated (hlocal : IsAddress localAddress)
    (hexternal : ∀ a ∈ externalAddress, IsAddress a) (hcname : IsTrimmedLine cname.toList)
    (hls : ∀ l ∈ ls, l.IsPlain)
    (hrefused : ∀ m ∈ refused, ∃ text other, Description.ofText text = .ok other ∧
      m ∈ other.media)
    (millis : Nat) (offer : Bool) :
    let b := make localAddress externalAddress
    let d := refused.foldl reject (b.build (toString millis) offer cname ls)
    Description.ofText d.text = .ok d ∧
      ∀ (i : Nat) (l : LocalMedia), ls[i]? = some l → ∃ m, d.media[i]? = some m ∧
        m.offered = listed offer l ∧ (offer = false → m.offered = l.formats) := by
  intro b d
  have hb : b.IsWritable := isWritable_make hlocal hexternal
  have hwords : ∀ m ∈ refused, m.HasWords := by
    intro m hm
    obtain ⟨text, other, hread, hmem⟩ := hrefused m hm
    exact Description.hasWords_of_ofText hread m hmem
  have hd : d = { b.build (toString millis) offer cname ls with
      media := ls.map (b.mediaSection offer cname) ++ refused.map rejection } :=
    foldl_reject _ _
  have hsections := sections_generated hb hcname hls hwords offer
  have hid : IsWord (toString millis).toList := by
    rw [toList_toString]
    exact isWord_toDigits millis
  constructor
  · rw [hd]
    exact Description.ofText_text_of_normal
      (isWritable_build hb hid offer cname ls fun m hm => (hsections m hm).1)
      fun m hm => (hsections m hm).2
  · intro i l hl
    have hdistinct : l.formats.Distinct := (hls l (List.mem_of_getElem? hl)).distinct
    have hm : d.media[i]? = some (b.mediaSection offer cname l) := by
      have hin : i < (ls.map (b.mediaSection offer cname)).length := by
        rw [List.length_map]
        exact (List.getElem?_eq_some_iff.1 hl).1
      rw [hd, List.getElem?_append_left hin, List.getElem?_map, hl]
      rfl
    refine ⟨_, hm, offered_mediaSection hdistinct, ?_⟩
    rintro rfl
    rw [offered_mediaSection hdistinct, listed_answer]

/-- A protected session at an address of version 6, and a plain one with a place of its own for
control packets. -/
def twoSessions : List LocalMedia := [
  { media := .audio, rtpAddress := ⟨.v6 0x2001 0xDB8 0 0 0 0 0 1, 4000⟩, rtcpAddress := none
    formats := ⟨[⟨111, "opus", 48000, 2, some "minptime=10; useinbandfec=1"⟩,
      .make 100 "telephone-event" 48000, .make 101 "telephone-event" 8000]⟩
    mode := .sendRecv, ssrc := 7, ice := some ⟨"u u", "p"⟩, dtls := some ⟨"sha-256", "AB:CD"⟩ },
  { media := .video, rtpAddress := ⟨.v4 192 0 2 1, 4002⟩
    rtcpAddress := some ⟨.v4 192 0 2 1, 4003⟩, formats := ⟨[.make 96 "H264" 90000]⟩
    mode := .recvOnly, ssrc := 8, ice := none, dtls := none }]

/-- A text with a section that could not be read again as a whole: there is nothing before the slash
of its address. -/
def unreadableSection : String :=
  "v=0\r\no=- 1 1 IN IP4 h\r\ns=-\r\nt=0 0\r\nm=application 9 DTLS/SCTP 5000\r\nc=IN IP4 /24\r\n"

theorem reading_of_generated_twoSessions :
    let refused : MediaSection :=
      { media := "application", port := 9, protocol := "DTLS/SCTP", formats := ["5000"]
        connection := some ⟨"IP4", ""⟩ }
    let b := make "192.0.2.1" (some "gw.example")
    let d := reject (b.build "0" false "c c" twoSessions) refused
    (∃ text other, Description.ofText text = .ok other ∧ refused ∈ other.media) ∧
      Description.ofText d.text = .ok d ∧
      ∃ m, d.media[0]? = some m ∧ m.offered = (twoSessions[0]).formats := by
  intro refused b d
  let other : Description :=
    { origin := ⟨"-", "1", "1", "IP4", "h"⟩, sessionName := "-", media := [refused] }
  have hother : Description.ofText unreadableSection = .ok other :=
    ok_of_toOption (by decide +kernel)
  have hlocal : IsAddress "192.0.2.1" := ⟨by decide, by decide⟩
  have hexternal : ∀ a ∈ some "gw.example", IsAddress a := by
    rintro _ ⟨⟩
    exact ⟨by decide, by decide⟩
  have hcname : IsTrimmedLine "c c".toList := by decide
  have hls : ∀ l ∈ twoSessions, l.IsPlain := by decide +kernel
  have hrefused : ∀ m ∈ [refused], ∃ text other, Description.ofText text = .ok other ∧
      m ∈ other.media := by
    intro m hm
    obtain rfl := List.mem_singleton.1 hm
    exact ⟨_, other, hother, hm⟩
  obtain ⟨hread, hoffered⟩ := reading_of_generated hlocal hexternal hcname hls hrefused 0 false
  obtain ⟨m, hm, -, hformats⟩ := hoffered 0 _ rfl
  exact ⟨hrefused refused (List.mem_singleton_self refused), hread, m, hm, hformats rfl⟩

end Builder

end Sdp

end MediaGateway
