import MediaGateway.Proofs.Sdp.Lines
import MediaGateway.Proofs.Sdp.Value

/-!
# Descriptions read back

A description is read back from its written form, except that a section keeps what it says about
payload numbers only if it lists them. Lines are read one after the other, so each group of lines
that is written for a field is shown to set that field of the draft, and the groups are put together
in the order in which they are written.
-/

namespace MediaGateway.Sdp

open MediaGateway.Sdp.Parser MediaGateway.Text

variable {d d' d'' : Draft} {m : MediaSection} {ls ls' : List String} {l : String}

/-! ## Reading lines -/

/-- Reading a text that is one line takes a draft to another one. -/
structure ReadsLine (d : Draft) (l : String) (d' : Draft) : Prop where
  isLine : IsLine l.toList
  line : Parser.line d l.toList = .ok d'

/-- The same for texts one after the other. -/
structure Reads (d : Draft) (ls : List String) (d' : Draft) : Prop where
  isLine : ∀ l ∈ ls, IsLine l.toList
  lines : (ls.map String.toList).foldlM Parser.line d = .ok d'

namespace Reads

theorem nil (d : Draft) : Reads d [] d := ⟨by simp, rfl⟩

theorem append (h : Reads d ls d') (h' : Reads d' ls' d'') : Reads d (ls ++ ls') d'' := by
  refine ⟨fun l hl => ?_, ?_⟩
  · exact (List.mem_append.1 hl).elim (h.isLine l) (h'.isLine l)
  · rw [List.map_append, List.foldlM_append, h.lines]
    exact h'.lines

theorem single (h : ReadsLine d l d') : Reads d [l] d' :=
  ⟨by simpa using h.isLine, by simp [h.line]⟩

theorem cons (h : ReadsLine d l d') (h' : Reads d' ls d'') : Reads d (l :: ls) d'' :=
  (single h).append h'

/-- A line that is there if a field has a value sets the field. -/
theorem option {α : Type} (f : Option α → Draft) {l : α → String} {o : Option α}
    (h : ∀ a ∈ o, ReadsLine (f none) (l a) (f (some a))) :
    Reads (f none) (o.toList.map l) (f o) := by
  cases o with
  | none => exact nil _
  | some a => exact single (h a rfl)

/-- A line that is there for each element of a list adds the element. -/
theorem list {α : Type} (f : List α → Draft) {l : α → String} {as : List α}
    (h : ∀ a ∈ as, ∀ before, ReadsLine (f before) (l a) (f (before ++ [a])))
    (before : List α) : Reads (f before) (as.map l) (f (before ++ as)) := by
  induction as generalizing before with
  | nil =>
    rw [List.append_nil]
    exact nil _
  | cons a as ih =>
    obtain ⟨ha, has⟩ := List.forall_mem_cons.1 h
    have hrest := ih has (before ++ [a])
    rw [List.append_assoc] at hrest
    exact cons (ha before) hrest

end Reads

/-! ## Attributes -/

/-- What an attribute line does: it belongs to the section opened last, or else to the session
part. -/
def readAttribute (d : Draft) (name : List Char) (value : Option (List Char)) (line : List Char) :
    Except SdpError Draft :=
  match d.sections with
  | [] => sessionAttribute d name value
  | m :: earlier => do
    return { d with sections := (← sectionAttribute m name value line) :: earlier }

theorem ReadsLine.withValue (name v : List Char) (hn : ':' ∉ name) (hline : IsLine l.toList)
    (hl : l.toList = 'a' :: '=' :: (name ++ ':' :: v))
    (h : readAttribute d name (some v) l.toList = .ok d') : ReadsLine d l d' := by
  have ha : attributeLine d (name ++ ':' :: v) l.toList = .ok d' := by
    simp only [attributeLine, cut_append hn]
    exact h
  refine ⟨hline, ?_⟩
  rw [hl] at ha ⊢
  exact ha

theorem ReadsLine.attribute (name v : List Char) (hn : ':' ∉ name) (hname : IsLine name)
    (hv : IsLine v) (hl : l.toList = 'a' :: '=' :: (name ++ ':' :: v))
    (h : readAttribute d name (some v) l.toList = .ok d') : ReadsLine d l d' := by
  have hline : IsLine ("a=".toList ++ (name ++ (":".toList ++ v))) :=
    .append (by decide) (hname.append (.append (by decide) hv))
  exact .withValue name v hn (hl ▸ hline) hl h

theorem ReadsLine.withoutValue (name : List Char) (hn : ':' ∉ name) (hline : IsLine l.toList)
    (hl : l.toList = 'a' :: '=' :: name) (h : readAttribute d name none l.toList = .ok d') :
    ReadsLine d l d' := by
  have ha : attributeLine d name l.toList = .ok d' := by
    simp only [attributeLine, cut_of_notMem hn]
    exact h
  refine ⟨hline, ?_⟩
  rw [hl] at ha ⊢
  exact ha

theorem ReadsLine.flag (name : List Char) (hn : ':' ∉ name) (hname : IsLine name)
    (hl : l.toList = 'a' :: '=' :: name) (h : readAttribute d name none l.toList = .ok d') :
    ReadsLine d l d' := by
  have hline : IsLine ("a=".toList ++ name) := .append (by decide) hname
  exact .withoutValue name hn (hl ▸ hline) hl h

/-! ## Fields of both levels

`f` is a draft with a hole for a field, of the session part or of a section. -/

theorem reads_connection (f : Option ConnectionData → Draft)
    (hf : ∀ v l c, connection? v = some c → connectionLine (f none) v l = .ok (f (some c)))
    {o : Option ConnectionData} (h : ∀ c ∈ o, c.IsWritable) :
    Reads (f none) (o.toList.map ConnectionData.line) (f o) := by
  refine Reads.option f fun c hc => ?_
  obtain ⟨htype, haddress, -⟩ := h c hc
  have hline : IsLine c.line.toList :=
    isLine_append (isLine_append (isLine_append (by decide) htype.isLine) (by decide))
      haddress.isLine
  have hl : c.line.toList =
      'c' :: '=' :: 'I' :: 'N' :: ' ' :: (c.addressType.toList ++ ' ' :: c.address.toList) := by
    simp [ConnectionData.line, String.toList_append]
  refine ⟨hline, ?_⟩
  rw [hl]
  exact hf _ _ c (connection?_line (h c hc))

theorem reads_ice (f : Option IceCredentials → Draft)
    (hufrag : ∀ o v l, readAttribute (f o) "ice-ufrag".toList (some v) l = .ok (f (withUfrag o v)))
    (hpwd : ∀ o v l, readAttribute (f o) "ice-pwd".toList (some v) l = .ok (f (withPwd o v)))
    {o : Option IceCredentials} (h : ∀ i ∈ o, i.IsWritable) :
    Reads (f none) (o.toList.flatMap IceCredentials.lines) (f o) := by
  cases o with
  | none => exact Reads.nil _
  | some i =>
    obtain ⟨hu, hp⟩ := h i rfl
    have hi : withPwd (withUfrag none i.ufrag.toList) i.pwd.toList = some i := by
      have htu : trim i.ufrag.toList = i.ufrag.toList := hu.trimmed
      have htp : trim i.pwd.toList = i.pwd.toList := hp.trimmed
      simp [withPwd, withUfrag, credentials, htu, htp]
    have hfirst : ReadsLine (f none) ("a=ice-ufrag:" ++ i.ufrag)
        (f (withUfrag none i.ufrag.toList)) :=
      .attribute "ice-ufrag".toList i.ufrag.toList (by decide) (by decide) hu.isLine
        (by simp [String.toList_append]) (hufrag _ _ _)
    have hsecond : ReadsLine (f (withUfrag none i.ufrag.toList)) ("a=ice-pwd:" ++ i.pwd)
        (f (some i)) := by
      rw [← hi]
      exact .attribute "ice-pwd".toList i.pwd.toList (by decide) (by decide) hp.isLine
        (by simp [String.toList_append]) (hpwd _ _ _)
    exact Reads.cons hfirst (Reads.single hsecond)

theorem reads_fingerprint (f : Option Fingerprint → Draft)
    (hf : ∀ v l p, Fingerprint.ofChars v = .ok p →
      readAttribute (f none) "fingerprint".toList (some v) l = .ok (f (some p)))
    {o : Option Fingerprint} (h : ∀ p ∈ o, p.IsWritable) :
    Reads (f none) (o.toList.map fun p => "a=fingerprint:" ++ p.text) (f o) := by
  refine Reads.option f fun p hp => ?_
  exact .attribute _ p.text.toList (by decide) (by decide) (h p hp).text.isLine
    (by simp [String.toList_append]) (hf _ _ p (fingerprint_line (h p hp)))

theorem reads_setup (f : Option SetupRole → Draft)
    (hf : ∀ v l r, SetupRole.ofChars v = .ok r →
      readAttribute (f none) "setup".toList (some v) l = .ok (f (some r))) (o : Option SetupRole) :
    Reads (f none) (o.toList.map fun r => "a=setup:" ++ r.token) (f o) := by
  refine Reads.option f fun r _ => ?_
  have hline : IsLine r.token.toList := by cases r <;> decide
  exact .attribute _ r.token.toList (by decide) (by decide) hline (by simp [String.toList_append])
    (hf _ _ r (setup_line r))

theorem direction?_token (r : Mode) : direction? r.token.toList none = some r := by
  cases r <;> rfl

theorem reads_direction (f : Option Mode → Draft)
    (hf : ∀ name l r, direction? name none = some r →
      readAttribute (f none) name none l = .ok (f (some r))) (o : Option Mode) :
    Reads (f none) (o.toList.map fun r => "a=" ++ r.token) (f o) := by
  refine Reads.option f fun r _ => ?_
  have hname : ':' ∉ r.token.toList := by cases r <;> decide
  have hline : IsLine r.token.toList := by cases r <;> decide
  exact .flag _ hname hline (by simp [String.toList_append]) (hf _ _ r (direction?_token r))

/-- An attribute that is not interpreted at a level, where `keys` are the names of the interpreted
ones, with whether they take a value. -/
structure Attribute.IsOther (keys : List (String × Bool)) (a : Attribute) : Prop where
  line : IsLine a.line.toList
  colon : ':' ∉ a.name.toList
  direction : direction? a.name.toList (a.value.map String.toList) = none
  key : (a.name, a.value.isSome) ∉ keys

theorem reads_attributes (f : List Attribute → Draft) {keys : List (String × Bool)}
    (hf : ∀ before a l, Attribute.IsOther keys a →
      readAttribute (f before) a.name.toList (a.value.map String.toList) l = .ok (f (before ++ [a])))
    {as : List Attribute} (h : ∀ a ∈ as, a.IsOther keys) :
    Reads (f []) (as.map Attribute.line) (f as) := by
  refine Reads.list f (fun a ha before => ?_) []
  obtain ⟨hline, hcolon, -, -⟩ := h a ha
  have hread := fun l => hf before a l (h a ha)
  cases hv : a.value with
  | none =>
    rw [hv] at hread
    exact .withoutValue _ hcolon hline (by simp [Attribute.line, hv, String.toList_append]) (hread _)
  | some v =>
    rw [hv] at hread
    exact .withValue _ _ hcolon hline (by simp [Attribute.line, hv, String.toList_append]) (hread _)

/-! ## Attributes of a section -/

/-- The draft with one more section. -/
def Draft.onto (d : Draft) (m : MediaSection) : Draft := { d with sections := m :: d.sections }

theorem readAttribute_onto {name l : List Char} {v : Option (List Char)} {m' : MediaSection}
    (h : sectionAttribute m name v l = .ok m') :
    readAttribute (d.onto m) name v l = .ok (d.onto m') := by
  simp only [readAttribute, Draft.onto, h]
  rfl

theorem reads_ptime (d : Draft) (m : MediaSection) (o : Option UInt32) :
    Reads (d.onto { m with ptime := none }) (o.toList.map fun n => "a=ptime:" ++ toString n.toNat)
      (d.onto { m with ptime := o }) := by
  refine Reads.option (fun o => d.onto { m with ptime := o }) fun n _ => ?_
  have hword := isWord_toDigits n.toNat
  have htrim : trim (Nat.toDigits 10 n.toNat) = Nat.toDigits 10 n.toNat := hword.isTrimmed
  refine .attribute "ptime".toList (Nat.toDigits 10 n.toNat) (by decide) (by decide) hword.isLine
    (by simp [String.toList_append]) (readAttribute_onto ?_)
  simp [sectionAttribute, direction?, htrim, orMalformed]

theorem reads_rtcp (d : Draft) (m : MediaSection) {o : Option RtcpAttribute}
    (h : ∀ r ∈ o, r.IsWritable) :
    Reads (d.onto { m with rtcp := none }) (o.toList.map RtcpAttribute.line)
      (d.onto { m with rtcp := o }) := by
  refine Reads.option (fun o => d.onto { m with rtcp := o }) fun r hr => ?_
  obtain ⟨v, hl, hline, hread⟩ := rtcp?_line (h r hr)
  refine .attribute _ v (by decide) (by decide) hline hl (readAttribute_onto ?_)
  simp [sectionAttribute, direction?, hread, orMalformed]

theorem reads_source (d : Draft) (m : MediaSection) {o : Option SourceAttribute}
    (h : ∀ s ∈ o, s.IsWritable) :
    Reads (d.onto { m with source := none }) (o.toList.map SourceAttribute.line)
      (d.onto { m with source := o }) := by
  refine Reads.option (fun o => d.onto { m with source := o }) fun s hs => ?_
  obtain ⟨v, hl, hline, hread⟩ := source?_line (h s hs)
  refine .attribute _ v (by decide) (by decide) hline hl (readAttribute_onto ?_)
  simp [sectionAttribute, direction?, hread, orMalformed, mergeSource]

theorem reads_rtcpMux (d : Draft) (m : MediaSection) (b : Bool) :
    Reads (d.onto { m with rtcpMux := false }) (if b then ["a=rtcp-mux"] else [])
      (d.onto { m with rtcpMux := b }) := by
  cases b with
  | false => exact Reads.nil _
  | true =>
    exact Reads.single (.flag "rtcp-mux".toList (by decide) (by decide) (by decide)
      (readAttribute_onto rfl))

theorem reads_candidates (d : Draft) (m : MediaSection) {cs : List Candidate}
    (h : ∀ c ∈ cs, c.IsWritable) :
    Reads (d.onto { m with candidates := [] }) (cs.map fun c => "a=candidate:" ++ c.text)
      (d.onto { m with candidates := cs }) := by
  refine Reads.list (fun cs => d.onto { m with candidates := cs }) (fun c hc before => ?_) []
  refine .attribute "candidate".toList c.text.toList (by decide) (by decide)
    (isLine_candidate (h c hc)) (by simp [String.toList_append]) (readAttribute_onto ?_)
  simp [sectionAttribute, direction?, candidate?_line (h c hc), orMalformed]

/-! ## Payload numbers -/

/-- The meanings read so far and the one of a payload number. -/
def MediaSection.keepMapping (m : MediaSection) (maps : List Format) (payloadType : UInt8) :
    List Format :=
  (m.mapping? payloadType).elim maps (addMapping maps)

/-- The parameters read so far and those of a payload number. -/
def MediaSection.keepParameters (m : MediaSection) (fmtps : ParameterMap) (payloadType : UInt8) :
    ParameterMap :=
  (m.fmtps.get? payloadType).elim fmtps (fmtps.insert payloadType)

/-- The section with what it says about the payload numbers that it lists, in their order. -/
def MediaSection.normal (m : MediaSection) : MediaSection :=
  { m with
    rtpmaps := m.payloadTypes.foldl m.keepMapping []
    fmtps := m.payloadTypes.foldl m.keepParameters ⟨[]⟩ }

theorem ParameterMap.mem_of_get? {fmtps : ParameterMap} {n : UInt8} {text : String}
    (h : fmtps.get? n = some text) : (n, text) ∈ fmtps.entries := by
  obtain ⟨before, after, he, -⟩ := List.lookup_eq_some_iff.1 h
  simp [he]

section Formats

variable (src : MediaSection) (hmaps : ∀ f ∈ src.rtpmaps, f.IsWritable ∧ f.parameters = none)
  (hfmtps : ∀ e ∈ src.fmtps.entries, IsTrimmedLine e.2.toList)

include hmaps hfmtps

theorem reads_formatLines (d : Draft) (m : MediaSection) (maps : List Format) (fmtps : ParameterMap)
    (n : UInt8) :
    Reads (d.onto { m with rtpmaps := maps, fmtps }) (src.formatLines n)
      (d.onto { m with
        rtpmaps := src.keepMapping maps n
        fmtps := src.keepParameters fmtps n }) := by
  have hmap : Reads (d.onto { m with rtpmaps := maps, fmtps })
      ((src.mapping? n).toList.map fun f => "a=rtpmap:" ++ f.text)
      (d.onto { m with rtpmaps := src.keepMapping maps n, fmtps }) := by
    refine Reads.option
      (fun o : Option Format => d.onto { m with rtpmaps := o.elim maps (addMapping maps), fmtps })
      fun f hf => ?_
    obtain ⟨hw, hp⟩ := hmaps f (List.mem_of_find?_eq_some hf)
    have hread : rtpmap? f.text.toList = some f := by
      rw [rtpmap?_line hw, ← hp]
    refine .attribute "rtpmap".toList f.text.toList (by decide) (by decide) (isLine_mapping hw)
      (by simp [String.toList_append]) (readAttribute_onto ?_)
    simp [sectionAttribute, direction?, hread, orMalformed]
  have hfmtp : Reads (d.onto { m with rtpmaps := src.keepMapping maps n, fmtps })
      ((src.fmtps.get? n).toList.map fun text => "a=fmtp:" ++ toString n.toNat ++ " " ++ text)
      (d.onto { m with
        rtpmaps := src.keepMapping maps n
        fmtps := src.keepParameters fmtps n }) := by
    refine Reads.option (fun o : Option String => d.onto { m with
      rtpmaps := src.keepMapping maps n
      fmtps := o.elim fmtps (fmtps.insert n) }) fun text ht => ?_
    have hw := hfmtps _ (ParameterMap.mem_of_get? ht)
    have hline : IsLine (Nat.toDigits 10 n.toNat ++ (" ".toList ++ text.toList)) :=
      (isWord_toDigits _).isLine.append (.append (by decide) hw.isLine)
    refine .attribute "fmtp".toList (Nat.toDigits 10 n.toNat ++ ' ' :: text.toList) (by decide)
      (by decide) hline (by simp [String.toList_append]) (readAttribute_onto ?_)
    simp [sectionAttribute, direction?, fmtp?_line n hw.trimmed, orMalformed]
  exact hmap.append hfmtp

theorem reads_formats (d : Draft) (m : MediaSection) (ns : List UInt8) (maps : List Format)
    (fmtps : ParameterMap) :
    Reads (d.onto { m with rtpmaps := maps, fmtps }) (ns.flatMap src.formatLines)
      (d.onto { m with
        rtpmaps := ns.foldl src.keepMapping maps
        fmtps := ns.foldl src.keepParameters fmtps }) := by
  induction ns generalizing maps fmtps with
  | nil => exact Reads.nil _
  | cons n ns ih =>
    exact (reads_formatLines src hmaps hfmtps d m maps fmtps n).append (ih _ _)

end Formats

/-! ## Sections -/

/-- The attributes that are interpreted in a section. -/
def sectionKeys : List (String × Bool) :=
  [("rtpmap", true), ("fmtp", true), ("ptime", true), ("rtcp", true), ("rtcp-mux", false),
    ("ice-ufrag", true), ("ice-pwd", true), ("candidate", true), ("fingerprint", true),
    ("setup", true), ("ssrc", true)]

/-- What a section needs to be read back. -/
structure MediaSection.IsWritable (m : MediaSection) : Prop where
  media : IsWord m.media.toList
  protocol : IsWord m.protocol.toList
  formats : ∀ f ∈ m.formats, IsWord f.toList
  connection : ∀ c ∈ m.connection, c.IsWritable
  rtpmaps : ∀ f ∈ m.rtpmaps, f.IsWritable ∧ f.parameters = none
  fmtps : ∀ e ∈ m.fmtps.entries, IsTrimmedLine e.2.toList
  rtcp : ∀ r ∈ m.rtcp, r.IsWritable
  ice : ∀ i ∈ m.ice, i.IsWritable
  candidates : ∀ c ∈ m.candidates, c.IsWritable
  fingerprint : ∀ f ∈ m.fingerprint, f.IsWritable
  source : ∀ s ∈ m.source, s.IsWritable
  attributes : ∀ a ∈ m.attributes, a.IsOther sectionKeys

theorem sectionAttribute_other {a : Attribute} (h : a.IsOther sectionKeys) (l : List Char) :
    sectionAttribute m a.name.toList (a.value.map String.toList) l =
      .ok { m with attributes := m.attributes ++ [a] } := by
  obtain ⟨name, value⟩ := a
  have hkey := h.key
  have hplain : plain name.toList (value.map String.toList) = ⟨name, value⟩ := by
    cases value <;> simp [plain]
  simp only [sectionAttribute, h.direction, String.ofList_toList, hplain]
  split <;> simp_all [sectionKeys]

theorem readsLine_headLine (d : Draft) (h : m.IsWritable) :
    ReadsLine d m.headLine (d.onto
      { media := m.media, port := m.port, protocol := m.protocol, formats := m.formats }) := by
  have hl : m.headLine.toList = 'm' :: '=' :: (m.media.toList ++ ' ' ::
      (Nat.toDigits 10 m.port.toNat ++ ' ' :: (m.protocol.toList ++
        m.formats.flatMap fun f => ' ' :: f.toList))) := by
    simp [MediaSection.headLine, String.toList_append, String.toList_join, List.flatMap_map]
  have hformats : IsLine (m.formats.flatMap fun f => " ".toList ++ f.toList) :=
    .flatMap fun f hf => .append (by decide) (h.formats f hf).isLine
  have hline : IsLine ("m=".toList ++ (m.media.toList ++ (" ".toList ++
      (Nat.toDigits 10 m.port.toNat ++ (" ".toList ++ (m.protocol.toList ++
        m.formats.flatMap fun f => " ".toList ++ f.toList)))))) :=
    .append (by decide) (h.media.isLine.append (.append (by decide) ((isWord_toDigits _).isLine.append
      (.append (by decide) (h.protocol.isLine.append hformats)))))
  refine ⟨hl ▸ hline, ?_⟩
  have hread := section?_line m.port h.media h.protocol h.formats
  rw [hl]
  simp only [Parser.line, typedLine, hread, orMalformed]
  rfl

/-- The lines of a section add its normal form. -/
theorem reads_section (d : Draft) (h : m.IsWritable) : Reads d m.lines (d.onto m.normal) := by
  -- The sections on the way, by the field that was set last.
  let head : MediaSection :=
    { media := m.media, port := m.port, protocol := m.protocol, formats := m.formats }
  let connection := { head with connection := m.connection }
  let rtcp := { connection with rtcp := m.rtcp }
  let mux := { rtcp with rtcpMux := m.rtcpMux }
  let ice := { mux with ice := m.ice }
  let candidates := { ice with candidates := m.candidates }
  let fingerprint := { candidates with fingerprint := m.fingerprint }
  let setup := { fingerprint with setup := m.setup }
  let formats := { setup with rtpmaps := m.normal.rtpmaps, fmtps := m.normal.fmtps }
  let ptime := { formats with ptime := m.ptime }
  let direction := { ptime with direction := m.direction }
  let source := { direction with source := m.source }
  have hhead : Reads d [m.headLine] (d.onto head) := Reads.single (readsLine_headLine d h)
  have hconnection := reads_connection (fun o => d.onto { head with connection := o })
    (fun v l c hc => by simp only [connectionLine, hc, orMalformed]; rfl) h.connection
  have hrtcp := reads_rtcp d connection h.rtcp
  have hmux := reads_rtcpMux d rtcp m.rtcpMux
  have hice := reads_ice (fun o => d.onto { mux with ice := o }) (fun _ _ _ => rfl)
    (fun _ _ _ => rfl) h.ice
  have hcandidates := reads_candidates d ice h.candidates
  have hfingerprint := reads_fingerprint (fun o => d.onto { candidates with fingerprint := o })
    (fun v l p hp => readAttribute_onto (by simp [sectionAttribute, direction?, hp])) h.fingerprint
  have hsetup := reads_setup (fun o => d.onto { fingerprint with setup := o })
    (fun v l r hr => readAttribute_onto (by simp [sectionAttribute, direction?, hr])) m.setup
  have hformats := reads_formats m h.rtpmaps h.fmtps d setup m.payloadTypes [] ⟨[]⟩
  have hptime := reads_ptime d formats m.ptime
  have hdirection := reads_direction (fun o => d.onto { ptime with direction := o })
    (fun name l r hr => readAttribute_onto (by simp [sectionAttribute, hr])) m.direction
  have hsource := reads_source d direction h.source
  have hattributes := reads_attributes (fun as => d.onto { source with attributes := as })
    (fun before a l ha => readAttribute_onto (sectionAttribute_other ha l)) h.attributes
  exact (((((((((((hhead.append hconnection).append hrtcp).append hmux).append hice).append
    hcandidates).append hfingerprint).append hsetup).append hformats).append hptime).append
      hdirection).append hsource).append hattributes

theorem reads_sections (d : Draft) {ms : List MediaSection} (h : ∀ m ∈ ms, m.IsWritable) :
    Reads d (ms.flatMap MediaSection.lines)
      { d with sections := (ms.map MediaSection.normal).reverse ++ d.sections } := by
  induction ms generalizing d with
  | nil => exact Reads.nil _
  | cons m ms ih =>
    obtain ⟨hm, hms⟩ := List.forall_mem_cons.1 h
    have hrest := ih (d.onto m.normal) hms
    simp only [Draft.onto] at hrest
    rw [List.flatMap_cons, List.map_cons, List.reverse_cons, List.append_assoc]
    exact (reads_section d hm).append hrest

/-! ## The session part -/

/-- The attributes that are interpreted in the session part. -/
def sessionKeys : List (String × Bool) :=
  [("ice-lite", false), ("ice-ufrag", true), ("ice-pwd", true), ("fingerprint", true),
    ("setup", true)]

/-- What a description needs to be read back. -/
structure Description.IsWritable (d : Description) : Prop where
  origin : d.origin.IsWritable
  sessionName : IsLine d.sessionName.toList
  connection : ∀ c ∈ d.connection, c.IsWritable
  ice : ∀ i ∈ d.ice, i.IsWritable
  fingerprint : ∀ f ∈ d.fingerprint, f.IsWritable
  attributes : ∀ a ∈ d.attributes, a.IsOther sessionKeys
  media : ∀ m ∈ d.media, m.IsWritable

/-- The description with all sections in normal form. -/
def Description.normal (d : Description) : Description :=
  { d with media := d.media.map MediaSection.normal }

theorem readAttribute_session {name l : List Char} {v : Option (List Char)} {d' : Draft}
    (hd : d.sections = []) (h : sessionAttribute d name v = .ok d') :
    readAttribute d name v l = .ok d' := by
  simp only [readAttribute, hd, h]

theorem sessionAttribute_other {a : Attribute} (h : a.IsOther sessionKeys) :
    sessionAttribute d a.name.toList (a.value.map String.toList) =
      .ok { d with attributes := d.attributes ++ [a] } := by
  obtain ⟨name, value⟩ := a
  have hkey := h.key
  have hplain : plain name.toList (value.map String.toList) = ⟨name, value⟩ := by
    cases value <;> simp [plain]
  simp only [sessionAttribute, h.direction, String.ofList_toList, hplain]
  split <;> simp_all [sessionKeys]

theorem readsLine_version (d : Draft) (n : UInt8) :
    ReadsLine d ("v=" ++ toString n.toNat) { d with version := some n } := by
  have hword := isWord_toDigits n.toNat
  have htrim : trim (Nat.toDigits 10 n.toNat) = Nat.toDigits 10 n.toNat := hword.isTrimmed
  refine ⟨isLine_append (by decide) (isLine_toString _), ?_⟩
  have hl : ("v=" ++ toString n.toNat).toList = 'v' :: '=' :: Nat.toDigits 10 n.toNat := by
    simp [String.toList_append]
  rw [hl]
  simp only [Parser.line, typedLine, htrim, readUInt8?_toDigits, orMalformed]
  rfl

theorem readsLine_origin (d : Draft) {o : Origin} (h : o.IsWritable) :
    ReadsLine d o.line { d with origin := some o } := by
  have hl : o.line.toList = 'o' :: '=' :: (o.username.toList ++ ' ' :: (o.sessionId.toList ++ ' ' ::
      (o.sessionVersion.toList ++ ' ' :: 'I' :: 'N' :: ' ' ::
        (o.addressType.toList ++ ' ' :: o.address.toList)))) := by
    simp [Origin.line, String.toList_append]
  have hline : IsLine o.line.toList := by
    have hspace : IsLine " ".toList := by decide
    unfold Origin.line
    repeat' with_reducible apply isLine_append
    · decide
    · exact h.username.isLine
    · exact hspace
    · exact h.sessionId.isLine
    · exact hspace
    · exact h.sessionVersion.isLine
    · decide
    · exact h.addressType.isLine
    · exact hspace
    · exact h.address.isLine
  refine ⟨hline, ?_⟩
  have hread := origin?_line h
  rw [hl]
  simp only [Parser.line, typedLine, hread, orMalformed]
  rfl

theorem readsLine_sessionName (d : Draft) {name : String} (h : IsLine name.toList) :
    ReadsLine d ("s=" ++ name) { d with sessionName := some name } := by
  refine ⟨isLine_append (by decide) h, ?_⟩
  have hl : ("s=" ++ name).toList = 's' :: '=' :: name.toList := by
    simp [String.toList_append]
  rw [hl]
  simp only [Parser.line, typedLine, String.ofList_toList]
  rfl

theorem readsLine_timing (d : Draft) (t : UInt64 × UInt64) :
    ReadsLine d ("t=" ++ toString t.1.toNat ++ " " ++ toString t.2.toNat)
      { d with timing := some t } := by
  refine ⟨isLine_append (isLine_append (isLine_append (by decide) (isLine_toString _)) (by decide))
    (isLine_toString _), ?_⟩
  have hl : ("t=" ++ toString t.1.toNat ++ " " ++ toString t.2.toNat).toList =
      't' :: '=' :: (Nat.toDigits 10 t.1.toNat ++ ' ' :: Nat.toDigits 10 t.2.toNat) := by
    simp [String.toList_append]
  rw [hl]
  simp only [Parser.line, typedLine, timing?_line, orMalformed]
  rfl

theorem reads_iceLite (d : Draft) (hd : d.sections = []) (b : Bool) :
    Reads { d with iceLite := false } (if b then ["a=ice-lite"] else []) { d with iceLite := b } := by
  cases b with
  | false => exact Reads.nil _
  | true =>
    exact Reads.single (.flag "ice-lite".toList (by decide) (by decide) (by decide)
      (readAttribute_session hd rfl))

/-- What has been read when all lines of a session part have been. -/
def Description.sessionDraft (d : Description) : Draft where
  version := d.version
  origin := d.origin
  sessionName := d.sessionName
  connection := d.connection
  timing := d.timing
  iceLite := d.iceLite
  ice := d.ice
  fingerprint := d.fingerprint
  setup := d.setup
  direction := d.direction
  attributes := d.attributes

theorem reads_session {d : Description} (h : d.IsWritable) :
    Reads {} d.sessionLines d.sessionDraft := by
  let version : Draft := { version := d.version }
  let origin := { version with origin := d.origin }
  let sessionName := { origin with sessionName := d.sessionName }
  let connection := { sessionName with connection := d.connection }
  let timing := { connection with timing := d.timing }
  let iceLite := { timing with iceLite := d.iceLite }
  let ice := { iceLite with ice := d.ice }
  let fingerprint := { ice with fingerprint := d.fingerprint }
  let setup := { fingerprint with setup := d.setup }
  let direction := { setup with direction := d.direction }
  have hhead : Reads {} ["v=" ++ toString d.version.toNat, d.origin.line, "s=" ++ d.sessionName]
      sessionName :=
    .cons (readsLine_version {} d.version) (.cons (readsLine_origin version h.origin)
      (.single (readsLine_sessionName origin h.sessionName)))
  have hconnection := reads_connection (fun o => { sessionName with connection := o })
    (fun v l c hc => by simp only [connectionLine, hc, orMalformed]; rfl) h.connection
  have htiming := Reads.single (readsLine_timing connection d.timing)
  have hlite := reads_iceLite timing rfl d.iceLite
  have hice := reads_ice (fun o => { iceLite with ice := o }) (fun _ _ _ => rfl) (fun _ _ _ => rfl)
    h.ice
  have hfingerprint := reads_fingerprint (fun o => { ice with fingerprint := o })
    (fun v l p hp => readAttribute_session rfl (by simp [sessionAttribute, direction?, hp]))
    h.fingerprint
  have hsetup := reads_setup (fun o => { fingerprint with setup := o })
    (fun v l r hr => readAttribute_session rfl (by simp [sessionAttribute, direction?, hr])) d.setup
  have hdirection := reads_direction (fun o => { setup with direction := o })
    (fun name l r hr => readAttribute_session rfl (by simp [sessionAttribute, hr])) d.direction
  have hattributes := reads_attributes (fun as => { direction with attributes := as })
    (fun before a l ha => readAttribute_session rfl (sessionAttribute_other ha)) h.attributes
  exact (((((((hhead.append hconnection).append htiming).append hlite).append hice).append
    hfingerprint).append hsetup).append hdirection).append hattributes

/-! ## Texts -/

theorem dropTrailing_concat {a : List Char} (h : IsLine a) :
    dropTrailing (· == '\r') (a ++ ['\r']) = a := by
  have hlast : ∀ c ∈ a.getLast?, (c == '\r') = false := fun c hc => by simpa using h.last c hc
  rw [dropTrailing_return, dropTrailing_eq_self hlast]

/-- The lines of a text that was joined are those of its parts. -/
theorem linesOf_join (ls : List String) :
    linesOf (String.join (ls.map (· ++ "\r\n"))).toList =
      ls.flatMap fun l => linesOf (l.toList ++ ['\r']) := by
  induction ls with
  | nil => rfl
  | cons l ls ih =>
    have hcons : (String.join ((l :: ls).map (· ++ "\r\n"))).toList =
        (l.toList ++ ['\r']) ++ '\n' :: (String.join (ls.map (· ++ "\r\n"))).toList := by
      simp [String.toList_append]
    rw [hcons, List.flatMap_cons, ← ih, linesOf_append]

/-- Parts that are lines are the lines, without the empty ones. -/
theorem linesOf_join_of_isLine {ls : List String} (h : ∀ l ∈ ls, IsLine l.toList) :
    linesOf (String.join (ls.map (· ++ "\r\n"))).toList =
      (ls.map String.toList).filter (!·.isEmpty) := by
  rw [linesOf_join]
  induction ls with
  | nil => rfl
  | cons l ls ih =>
    obtain ⟨hl, hls⟩ := List.forall_mem_cons.1 h
    have hnot : '\n' ∉ l.toList ++ ['\r'] := by simp [hl.notMem]
    have hline : linesOf (l.toList ++ ['\r']) = [l.toList].filter (!·.isEmpty) := by
      rw [linesOf, split_of_notMem hnot, List.map_singleton, dropTrailing_concat hl]
    rw [List.flatMap_cons, hline, ih hls, ← List.filter_append]
    rfl

/-- A text that was joined is read part by part, though a part need not be one line. -/
theorem Description.ofText_join (ls : List String) :
    Description.ofText (String.join (ls.map (· ++ "\r\n"))) =
      (ls.flatMap fun l => linesOf (l.toList ++ ['\r'])).foldlM line {} >>= finish := by
  rw [ofText, linesOf_join]

theorem Description.ofText_text_eq (d : Description) :
    Description.ofText d.text =
      (d.lines.flatMap fun l => linesOf (l.toList ++ ['\r'])).foldlM line {} >>= finish :=
  ofText_join d.lines

/-- A description is read back from its written form as its normal form. -/
theorem Description.ofText_text {d : Description} (h : d.IsWritable) :
    Description.ofText d.text = .ok d.normal := by
  have hreads := (reads_session h).append (reads_sections d.sessionDraft h.media)
  have hlines : linesOf d.text.toList = (d.lines.map String.toList).filter (!·.isEmpty) :=
    linesOf_join_of_isLine hreads.isLine
  have hempty : ∀ l : List Char, (!l.isEmpty) = false → ∀ d, line d l = .ok d := by
    intro l hl d
    obtain rfl : l = [] := by simpa using hl
    rfl
  have hfold := hreads.lines
  rw [← foldlM_filter hempty, ← Description.lines, ← hlines] at hfold
  simp only [Description.ofText, hfold, bind, Except.bind]
  simp [finish, sessionDraft, normal]

end MediaGateway.Sdp
