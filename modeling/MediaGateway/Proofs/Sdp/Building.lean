import MediaGateway.Negotiation
import MediaGateway.Proofs.Format.Table
import MediaGateway.Proofs.Net.Address
import MediaGateway.Proofs.Sdp.RoundTrip
import MediaGateway.Sdp.Builder

/-!
# Built descriptions

A section that was built from a table of formats says of each payload number what the table says of
it. So the table is what the section offers, and the section is in normal form already: a built
description is read back as it is.
-/

namespace MediaGateway

open MediaGateway.Text

/-- What a table needs for a section that lists it to be read back. -/
structure FormatTable.IsWritable (t : FormatTable) : Prop where
  distinct : t.Distinct
  formats : ∀ f ∈ t.toList, f.IsWritable
  parameters : ∀ f ∈ t.toList, ∀ p ∈ f.parameters, IsTrimmedLine p.toList

instance {t : FormatTable} : Decidable t.IsWritable :=
  decidable_of_iff (t.Distinct ∧ (∀ f ∈ t.toList, f.IsWritable) ∧
      ∀ f ∈ t.toList, ∀ p ∈ f.parameters, IsTrimmedLine p.toList)
    ⟨fun ⟨h₁, h₂, h₃⟩ => ⟨h₁, h₂, h₃⟩, fun ⟨h₁, h₂, h₃⟩ => ⟨h₁, h₂, h₃⟩⟩

namespace Sdp

open MediaGateway.Sdp.Parser

/-! ## Parameters by payload number -/

namespace ParameterMap

theorem lookup_cons (k : UInt8) (e : UInt8 × String) (rest : List (UInt8 × String)) :
    (e :: rest).lookup k = if k = e.1 then some e.2 else rest.lookup k := by
  obtain ⟨n, text⟩ := e
  by_cases h : k = n
  · subst h
    simp
  · have hb : (k == n) = false := by simpa using h
    simp [List.lookup_cons, hb, h]

theorem get?_insert (fmtps : ParameterMap) (n k : UInt8) (text : String) :
    (fmtps.insert n text).get? k = if k = n then some text else fmtps.get? k := by
  obtain ⟨entries⟩ := fmtps
  simp only [insert, get?]
  induction entries with
  | nil => rw [insertInto, lookup_cons]
  | cons e rest ih =>
    simp only [insertInto]
    split
    · rw [lookup_cons]
    · split
      · rename_i hn
        rw [lookup_cons, lookup_cons, ← hn]
        split <;> rfl
      · rename_i hn
        rw [lookup_cons, lookup_cons, ih]
        by_cases he : k = e.1
        · have h : k ≠ n := fun h => hn (h ▸ he)
          rw [if_pos he, if_neg h, if_pos he]
        · rw [if_neg he, if_neg he]

/-- The parameters with those of a format, if it has any. -/
def withFormat (fmtps : ParameterMap) (f : Format) : ParameterMap :=
  f.parameters.elim fmtps (fmtps.insert f.payloadType)

theorem get?_withFormat (fmtps : ParameterMap) (f : Format) (k : UInt8) :
    (fmtps.withFormat f).get? k =
      if k = f.payloadType then f.parameters.or (fmtps.get? k) else fmtps.get? k := by
  cases hp : f.parameters with
  | none => simp [withFormat, hp]
  | some text =>
    simp only [withFormat, hp, Option.elim_some, get?_insert, Option.some_or]

theorem get?_foldl_of_notMem {fmtps : ParameterMap} {fs : List Format} {k : UInt8}
    (h : k ∉ fs.map Format.payloadType) : (fs.foldl withFormat fmtps).get? k = fmtps.get? k := by
  induction fs generalizing fmtps with
  | nil => rfl
  | cons f fs ih =>
    obtain ⟨hf, hfs⟩ := not_or.1 (mt List.mem_cons.2 h)
    rw [List.foldl_cons, ih hfs, get?_withFormat, if_neg hf]

/-- Each of the formats has its own parameters. -/
theorem get?_foldl {fmtps : ParameterMap} {fs : List Format} {f : Format}
    (hd : (fs.map Format.payloadType).Nodup) (hf : f ∈ fs) (hn : fmtps.get? f.payloadType = none) :
    (fs.foldl withFormat fmtps).get? f.payloadType = f.parameters := by
  induction fs generalizing fmtps with
  | nil => simp at hf
  | cons g fs ih =>
    obtain ⟨hg, hfs⟩ := List.nodup_cons.1 hd
    rw [List.foldl_cons]
    rcases List.mem_cons.1 hf with rfl | hmem
    · rw [get?_foldl_of_notMem hg, get?_withFormat, if_pos rfl, hn, Option.or_none]
    · have hne : f.payloadType ≠ g.payloadType := fun he =>
        hg (he ▸ List.mem_map_of_mem hmem)
      refine ih hfs hmem ?_
      rw [get?_withFormat, if_neg hne, hn]

end ParameterMap

/-! ## The section of a table -/

/-- A format as the meaning of its payload number. -/
def mapping (f : Format) : Format := { f with parameters := none }

theorem foldl_addFormat (m : MediaSection) (fs : List Format) :
    fs.foldl MediaSection.addFormat m = { m with
      formats := m.formats ++ fs.map fun f => toString f.payloadType.toNat
      fmtps := fs.foldl ParameterMap.withFormat m.fmtps
      rtpmaps := m.rtpmaps ++ fs.map mapping } := by
  induction fs generalizing m with
  | nil => simp
  | cons f fs ih =>
    have hf : (m.addFormat f).fmtps = m.fmtps.withFormat f := by
      simp only [MediaSection.addFormat, ParameterMap.withFormat]
      cases f.parameters <;> rfl
    rw [List.foldl_cons, ih, hf]
    simp [MediaSection.addFormat, mapping]

/-- What a section says about payload numbers is what a table says. -/
structure MediaSection.Lists (m : MediaSection) (t : FormatTable) : Prop where
  formats : m.formats = t.toList.map fun f => toString f.payloadType.toNat
  rtpmaps : m.rtpmaps = t.toList.map mapping
  fmtps : m.fmtps = t.toList.foldl ParameterMap.withFormat ⟨[]⟩

namespace MediaSection.Lists

variable {m : MediaSection} {t : FormatTable}

theorem payloadTypes (h : m.Lists t) : m.payloadTypes = t.payloadTypes := by
  simp [MediaSection.payloadTypes, h.formats, FormatTable.payloadTypes, List.filterMap_map]

theorem mapping? (h : m.Lists t) (hd : t.Distinct) {f : Format} (hf : f ∈ t.toList) :
    m.mapping? f.payloadType = some (mapping f) := by
  have hfind := hd.find?_eq_some hf
  rw [FormatTable.find?] at hfind
  simp only [MediaSection.mapping?, h.rtpmaps, List.find?_map, Function.comp_def]
  have hsame : (fun g => decide ((mapping g).payloadType = f.payloadType)) =
      fun g : Format => decide (g.payloadType = f.payloadType) := rfl
  rw [hsame, hfind]
  rfl

theorem get? (h : m.Lists t) (hd : t.Distinct) {f : Format} (hf : f ∈ t.toList) :
    m.fmtps.get? f.payloadType = f.parameters := by
  rw [h.fmtps]
  exact ParameterMap.get?_foldl hd hf rfl

theorem format? (h : m.Lists t) (hd : t.Distinct) {f : Format} (hf : f ∈ t.toList) :
    m.format? f.payloadType = some f := by
  simp only [MediaSection.format?, h.mapping? hd hf, h.get? hd hf, Option.map_some, mapping]

theorem resolve? (h : m.Lists t) (hd : t.Distinct) {f : Format} (hf : f ∈ t.toList) :
    m.resolve? f.payloadType = some f := by
  rw [MediaSection.resolve?, h.format? hd hf, Option.some_or]

/-- The table is what the section offers. -/
theorem offered (h : m.Lists t) (hd : t.Distinct) : m.offered = t := by
  have hall : t.payloadTypes.filterMap m.resolve? = t.toList := by
    rw [FormatTable.payloadTypes, List.filterMap_map]
    calc t.toList.filterMap (m.resolve? ∘ Format.payloadType)
        = t.toList.filterMap some := List.filterMap_congr fun f hf => h.resolve? hd hf
      _ = t.toList := List.filterMap_some
  rw [MediaSection.offered, h.payloadTypes, hall, FormatTable.ofList_of_nodup hd]

theorem foldl_keepMapping (h : m.Lists t) (hd : t.Distinct) (before : List Format)
    {fs : List Format} (hfs : ∀ f ∈ fs, f ∈ t.toList) (hn : ((before ++ fs).map Format.payloadType).Nodup) :
    (fs.map Format.payloadType).foldl m.keepMapping (before.map mapping) =
      (before ++ fs).map mapping := by
  induction fs generalizing before with
  | nil => simp
  | cons f fs ih =>
    obtain ⟨hf, hrest⟩ := List.forall_mem_cons.1 hfs
    have hnew : ∀ g ∈ before, g.payloadType ≠ f.payloadType := by
      intro g hg he
      simp only [List.map_append, List.map_cons] at hn
      exact (List.nodup_append.1 hn).2.2 _ (List.mem_map_of_mem hg) _ List.mem_cons_self he
    have hfilter : (before.map mapping).filter
        (fun g => decide (g.payloadType ≠ (mapping f).payloadType)) = before.map mapping := by
      refine List.filter_eq_self.2 fun g hg => ?_
      obtain ⟨g', hg', rfl⟩ := List.mem_map.1 hg
      exact decide_eq_true (hnew g' hg')
    have hstep : m.keepMapping (before.map mapping) f.payloadType = (before ++ [f]).map mapping := by
      simp only [MediaSection.keepMapping, h.mapping? hd hf, Option.elim_some, addMapping, hfilter,
        List.map_append, List.map_cons, List.map_nil]
    rw [List.map_cons, List.foldl_cons, hstep, ih _ hrest (by simpa using hn)]
    simp

theorem foldl_keepParameters (h : m.Lists t) (hd : t.Distinct) {fs : List Format}
    (hfs : ∀ f ∈ fs, f ∈ t.toList) (fmtps : ParameterMap) :
    (fs.map Format.payloadType).foldl m.keepParameters fmtps =
      fs.foldl ParameterMap.withFormat fmtps := by
  induction fs generalizing fmtps with
  | nil => rfl
  | cons f fs ih =>
    obtain ⟨hf, hrest⟩ := List.forall_mem_cons.1 hfs
    have hstep : m.keepParameters fmtps f.payloadType = fmtps.withFormat f := by
      rw [MediaSection.keepParameters, h.get? hd hf, ParameterMap.withFormat]
    rw [List.map_cons, List.foldl_cons, hstep, ih hrest, List.foldl_cons]

/-- The section is in normal form. -/
theorem normal (h : m.Lists t) (hd : t.Distinct) : m.normal = m := by
  have hmaps := h.foldl_keepMapping hd [] (fun _ hf => hf) hd
  have hparams := h.foldl_keepParameters hd (fun _ hf => hf) ⟨[]⟩
  simp only [List.map_nil, List.nil_append] at hmaps
  simp only [MediaSection.normal, h.payloadTypes, FormatTable.payloadTypes, hmaps, hparams,
    ← h.rtpmaps, ← h.fmtps]

end MediaSection.Lists

/-! ## Sections of sessions -/

namespace Builder

variable {b : Builder} {offer : Bool} {cname : String} {l : LocalMedia}

/-- What a section of a session lists. -/
def listed (offer : Bool) (l : LocalMedia) : FormatTable := ⟨l.formats.toList.filter (lists offer)⟩

/-- An answer lists all formats. -/
theorem listed_answer (l : LocalMedia) : listed false l = l.formats := by
  have hall : l.formats.toList.filter (lists false) = l.formats.toList :=
    List.filter_eq_self.2 fun f _ => rfl
  rw [listed, hall]

theorem mediaSection_eq (b : Builder) (offer : Bool) (cname : String) (l : LocalMedia) :
    b.mediaSection offer cname l = { b.frameSection offer cname l with
      formats := (listed offer l).toList.map fun f => toString f.payloadType.toNat
      fmtps := (listed offer l).toList.foldl ParameterMap.withFormat ⟨[]⟩
      rtpmaps := (listed offer l).toList.map mapping } :=
  foldl_addFormat _ _

theorem lists_mediaSection (b : Builder) (offer : Bool) (cname : String) (l : LocalMedia) :
    (b.mediaSection offer cname l).Lists (listed offer l) := by
  rw [mediaSection_eq]
  exact ⟨rfl, rfl, rfl⟩

theorem distinct_listed (h : l.formats.Distinct) : (listed offer l).Distinct :=
  h.filter (lists offer)

theorem offered_mediaSection (h : l.formats.Distinct) :
    (b.mediaSection offer cname l).offered = listed offer l :=
  (lists_mediaSection b offer cname l).offered (distinct_listed h)

end Builder

/-! ## What it takes to be read back -/

/-- An address that can stand in a line of connection data. -/
structure IsAddress (address : String) : Prop where
  word : IsWord address.toList
  slash : '/' ∉ address.toList

theorem isAddress_text (ip : IpAddress) : IsAddress ip.text :=
  ⟨ip.isWord_text, ip.slash_notMem_text⟩

theorem isWord_addressType (address : String) : IsWord (addressType address).toList := by
  simp only [addressType]
  split <;> decide

theorem isWritable_connection {address : String} (h : IsAddress address) :
    (ConnectionData.make address).IsWritable :=
  ⟨isWord_addressType address, h.word, h.slash⟩

theorem isWritable_origin {id address : String} (hid : IsWord id.toList) (h : IsAddress address) :
    (Origin.make id address).IsWritable where
  username := by
    show IsWord "-".toList
    decide
  sessionId := hid
  sessionVersion := by
    show IsWord "1".toList
    decide
  addressType := isWord_addressType address
  address := h.word

theorem isWritable_host (component : UInt8) (s : SocketAddress) :
    (Candidate.host component s).IsWritable where
  foundation := by
    show IsWord "1".toList
    decide
  transport := by
    show IsWord "udp".toList
    decide
  lowerCase := by
    show "udp".toList.map Char.toLower = "udp".toList
    decide
  address := s.ip.isWord_text
  kind := by
    show IsWord "host".toList
    decide

namespace Builder

/-- What a builder needs for its descriptions to be read back. -/
structure IsWritable (b : Builder) : Prop where
  localAddress : IsAddress b.localAddress
  externalAddress : ∀ a ∈ b.externalAddress, IsAddress a

theorem IsWritable.advertised {b : Builder} (h : b.IsWritable) {address : String}
    (ha : IsAddress address) : IsAddress (b.advertised address) := by
  cases he : b.externalAddress with
  | none => simpa [Builder.advertised, he] using ha
  | some external => simpa [Builder.advertised, he] using h.externalAddress external he

end Builder

/-- What the contribution of a session needs for its section to be read back. -/
structure LocalMedia.IsWritable (l : LocalMedia) : Prop where
  formats : l.formats.IsWritable
  ice : ∀ i ∈ l.ice, i.IsWritable
  dtls : ∀ f ∈ l.dtls, f.IsWritable

/-- The words of the line that opens a section. -/
structure MediaSection.HasWords (m : MediaSection) : Prop where
  media : IsWord m.media.toList
  protocol : IsWord m.protocol.toList
  formats : ∀ f ∈ m.formats, IsWord f.toList

theorem MediaSection.IsWritable.hasWords {m : MediaSection} (h : m.IsWritable) : m.HasWords :=
  ⟨h.media, h.protocol, h.formats⟩

theorem ParameterMap.mem_insertInto {e : UInt8 × String} {n : UInt8} {text : String}
    {entries : List (UInt8 × String)} (h : e ∈ insertInto n text entries) :
    e = (n, text) ∨ e ∈ entries := by
  induction entries with
  | nil => exact .inl (by simpa [insertInto] using h)
  | cons e' rest ih =>
    simp only [insertInto] at h
    split at h
    · exact List.mem_cons.1 h
    · split at h
      · exact (List.mem_cons.1 h).imp_right (List.mem_cons_of_mem _)
      · rcases List.mem_cons.1 h with rfl | h
        · exact .inr List.mem_cons_self
        · exact (ih h).imp_right (List.mem_cons_of_mem _)

/-- Parameters that were entered for formats are parameters of formats. -/
theorem ParameterMap.mem_foldl {e : UInt8 × String} {fs : List Format} {fmtps : ParameterMap}
    (h : e ∈ (fs.foldl ParameterMap.withFormat fmtps).entries) :
    (∃ f ∈ fs, f.parameters = some e.2) ∨ e ∈ fmtps.entries := by
  induction fs generalizing fmtps with
  | nil => exact .inr h
  | cons f fs ih =>
    rcases ih h with ⟨g, hg, hp⟩ | h
    · exact .inl ⟨g, List.mem_cons_of_mem _ hg, hp⟩
    · cases hp : f.parameters with
      | none => exact .inr (by simpa [ParameterMap.withFormat, hp] using h)
      | some text =>
        simp only [ParameterMap.withFormat, hp, Option.elim_some] at h
        rcases ParameterMap.mem_insertInto h with rfl | h
        · exact .inl ⟨f, List.mem_cons_self, hp⟩
        · exact .inr h

namespace Builder

variable {b : Builder} {offer : Bool} {cname : String} {l : LocalMedia}

theorem isWritable_mediaSection (hb : b.IsWritable) (hl : l.IsWritable)
    (hc : SourceAttribute.IsWritable ⟨l.ssrc, some cname⟩) :
    (b.mediaSection offer cname l).IsWritable := by
  have hlisted : ∀ f ∈ (listed offer l).toList, f ∈ l.formats.toList := fun f hf =>
    List.mem_of_mem_filter hf
  rw [mediaSection_eq]
  constructor
  · show IsWord l.media.token.toList
    cases l.media <;> decide
  · show IsWord (if l.dtls.isSome then rtpSavpf else rtpAvp).toList
    split <;> decide
  · intro f hf
    obtain ⟨g, -, rfl⟩ := List.mem_map.1 hf
    rw [toList_toString]
    exact isWord_toDigits _
  · rintro c hc
    obtain rfl : ConnectionData.make (b.advertised l.rtpAddress.ip.text) = c := Option.some.inj hc
    exact isWritable_connection (hb.advertised (isAddress_text _))
  · intro f hf
    obtain ⟨g, hg, rfl⟩ := List.mem_map.1 hf
    obtain ⟨h₁, h₂, h₃, h₄, h₅⟩ := hl.formats.formats g (hlisted g hg)
    exact ⟨⟨h₁, h₂, h₃, h₄, h₅⟩, rfl⟩
  · intro e he
    rcases ParameterMap.mem_foldl he with ⟨f, hf, hp⟩ | he
    · exact hl.formats.parameters f (hlisted f hf) e.2 hp
    · simp at he
  · intro r hr
    obtain ⟨s, -, rfl⟩ := Option.map_eq_some_iff.1 hr
    simp [RtcpAttribute.IsWritable]
  · exact hl.ice
  · show ∀ c ∈ (if l.ice.isSome then candidates l else []), c.IsWritable
    intro c hc
    split at hc
    · simp only [candidates, List.mem_cons, List.mem_map] at hc
      rcases hc with rfl | ⟨s, -, rfl⟩
      · exact isWritable_host _ _
      · exact isWritable_host _ _
    · simp at hc
  · exact hl.dtls
  · rintro s hs
    obtain rfl : ⟨l.ssrc, some cname⟩ = s := Option.some.inj hs
    exact hc
  · intro a ha
    have hnone : (b.frameSection offer cname l).attributes = [] := rfl
    simp [hnone] at ha

/-- A section can be refused if the line that opens it consists of words; what else it says plays no
part. -/
theorem isWritable_rejection {m : MediaSection} (h : m.HasWords) : (rejection m).IsWritable where
  media := h.media
  protocol := h.protocol
  formats := h.formats
  connection := by simp [rejection]
  rtpmaps := by simp [rejection]
  fmtps := by simp [rejection]
  rtcp := by simp [rejection]
  ice := by simp [rejection]
  candidates := by simp [rejection]
  fingerprint := by simp [rejection]
  source := by simp [rejection]
  attributes := by simp [rejection]

theorem normal_mediaSection (h : l.formats.Distinct) :
    (b.mediaSection offer cname l).normal = b.mediaSection offer cname l :=
  (lists_mediaSection b offer cname l).normal (distinct_listed h)

/-- A refusal does not explain its payload numbers. -/
theorem normal_rejection (m : MediaSection) : (rejection m).normal = rejection m := by
  have hmaps (ns : List UInt8) : ns.foldl (rejection m).keepMapping [] = [] := by
    induction ns with
    | nil => rfl
    | cons n ns ih => exact ih
  have hparams (ns : List UInt8) : ns.foldl (rejection m).keepParameters ⟨[]⟩ = ⟨[]⟩ := by
    induction ns with
    | nil => rfl
    | cons n ns ih => exact ih
  rw [MediaSection.normal, hmaps, hparams]
  rfl

/-- A description that a builder made, with any sections. -/
theorem isWritable_build (hb : b.IsWritable) {id : String} (hid : IsWord id.toList) (offer : Bool)
    (cname : String) (ls : List LocalMedia) {ms : List MediaSection}
    (hm : ∀ m ∈ ms, m.IsWritable) :
    ({ b.build id offer cname ls with media := ms }).IsWritable where
  origin := isWritable_origin hid (hb.advertised hb.localAddress)
  sessionName := by
    show IsLine sessionName.toList
    decide
  connection := by
    rintro c hc
    obtain rfl : ConnectionData.make (b.advertised b.localAddress) = c := Option.some.inj hc
    exact isWritable_connection (hb.advertised hb.localAddress)
  ice := by simp [build]
  fingerprint := by simp [build]
  attributes := by simp [build]
  media := hm

end Builder

/-- A description with sections in normal form is read back as it is. -/
theorem Description.ofText_text_of_normal {d : Description} (h : d.IsWritable)
    (hn : ∀ m ∈ d.media, m.normal = m) : Description.ofText d.text = .ok d := by
  have hmedia : d.media.map MediaSection.normal = d.media :=
    (List.map_congr_left hn).trans (List.map_id d.media)
  rw [ofText_text h, normal, hmedia]

/-! ## What a section says -/

namespace Builder

variable {b : Builder} {offer : Bool} {cname : String} {l : LocalMedia}

@[simp] theorem mediaType_mediaSection (b : Builder) (offer : Bool) (cname : String)
    (l : LocalMedia) : (b.mediaSection offer cname l).mediaType = some l.media := by
  rw [mediaSection_eq]
  show MediaType.ofToken? l.media.token = some l.media
  cases l.media <;> decide +kernel

@[simp] theorem isRejected_mediaSection (b : Builder) (offer : Bool) (cname : String)
    (l : LocalMedia) :
    (b.mediaSection offer cname l).isRejected = (l.rtpAddress.port == 0) := by
  rw [mediaSection_eq]
  rfl

@[simp] theorem rtcpMux_mediaSection (b : Builder) (offer : Bool) (cname : String)
    (l : LocalMedia) : (b.mediaSection offer cname l).rtcpMux = l.rtcpAddress.isNone := by
  rw [mediaSection_eq]
  rfl

@[simp] theorem containsIce_mediaSection (b : Builder) (offer : Bool) (cname : String)
    (l : LocalMedia) : (b.mediaSection offer cname l).containsIce = l.ice.isSome := by
  rw [mediaSection_eq]
  show (l.ice.isSome || !(if l.ice.isSome then candidates l else []).isEmpty) = l.ice.isSome
  cases l.ice <;> rfl

@[simp] theorem fingerprint_mediaSection (b : Builder) (offer : Bool) (cname : String)
    (l : LocalMedia) : (b.mediaSection offer cname l).fingerprint = l.dtls := by
  rw [mediaSection_eq]
  rfl

@[simp] theorem isRejected_rejection (m : MediaSection) : (rejection m).isRejected = true := rfl

/-- The refusals follow the sections that are there. -/
theorem foldl_reject (d : Description) (ms : List MediaSection) :
    ms.foldl reject d = { d with media := d.media ++ ms.map rejection } := by
  induction ms generalizing d with
  | nil => simp
  | cons m ms ih =>
    rw [List.foldl_cons, ih]
    simp [reject]

/-- The section of a session stands where the session stands. -/
theorem getElem?_build (b : Builder) (id : String) (offer : Bool) (cname : String)
    (before after : List LocalMedia) (l : LocalMedia) :
    (b.build id offer cname (before ++ l :: after)).media[before.length]? =
      some (b.mediaSection offer cname l) := by
  show ((before ++ l :: after).map (b.mediaSection offer cname))[before.length]? = _
  rw [List.getElem?_map, List.getElem?_append_right (Nat.le_refl _), Nat.sub_self]
  rfl

theorem containsIce_build (b : Builder) (id : String) (offer : Bool) (cname : String)
    (ls : List LocalMedia) :
    (b.build id offer cname ls).containsIce = ls.any fun l => l.ice.isSome := by
  have hsections : (ls.map (b.mediaSection offer cname)).any MediaSection.containsIce =
      ls.any fun l => l.ice.isSome := by
    simp [List.any_map, Function.comp_def]
  show (ls.any (fun l => l.ice.isSome) || (none : Option IceCredentials).isSome ||
    (ls.map (b.mediaSection offer cname)).any MediaSection.containsIce) = _
  rw [hsections]
  simp

theorem containsDtls_build (b : Builder) (id : String) (offer : Bool) (cname : String)
    (ls : List LocalMedia) :
    (b.build id offer cname ls).containsDtls = ls.any fun l => l.dtls.isSome := by
  show ((none : Option Fingerprint).isSome ||
    (ls.map (b.mediaSection offer cname)).any fun m => m.fingerprint.isSome) = _
  simp [List.any_map, Function.comp_def]

/-- Media is expected where the session receives it. -/
theorem rtpAddress_mediaSection (hb : b.externalAddress = none) (d : Description) :
    d.rtpAddress (b.mediaSection offer cname l) = .ok (some l.rtpAddress) := by
  have hc : (b.mediaSection offer cname l).connection =
      some (.make l.rtpAddress.ip.text) := by
    rw [mediaSection_eq]
    simp [frameSection, advertised, hb]
  have hp : (b.mediaSection offer cname l).port = l.rtpAddress.port := by
    rw [mediaSection_eq]
    rfl
  simp only [Description.rtpAddress, Description.effectiveConnection, hc, Option.some_or,
    ConnectionData.ip, ConnectionData.make, IpAddress.ofText?_text, Except.map, hp]

/-- Control packets are expected where the session receives them, beside the media or with it. -/
theorem rtcpAddress_mediaSection (hb : b.externalAddress = none) (d : Description)
    (hip : ∀ a ∈ l.rtcpAddress, a.ip = l.rtpAddress.ip) :
    d.rtcpAddress (b.mediaSection offer cname l) =
      .ok (some (l.rtcpAddress.getD l.rtpAddress)) := by
  have hrtcp : (b.mediaSection offer cname l).rtcp = l.rtcpAddress.map fun s => ⟨s.port, none⟩ := by
    rw [mediaSection_eq]
    rfl
  have hbeside : Description.rtcpAddressBeside (b.mediaSection offer cname l) l.rtpAddress =
      .ok (l.rtcpAddress.getD l.rtpAddress) := by
    simp only [Description.rtcpAddressBeside, rtcpMux_mediaSection, hrtcp]
    cases ha : l.rtcpAddress with
    | none => simp
    | some a =>
      obtain ⟨ip, port⟩ := a
      have hsame : ip = l.rtpAddress.ip := hip ⟨ip, port⟩ ha
      simp [hsame]
  simp only [Description.rtcpAddress, rtpAddress_mediaSection hb, bind, Except.bind, hbeside]
  rfl

end Builder

end Sdp

end MediaGateway
