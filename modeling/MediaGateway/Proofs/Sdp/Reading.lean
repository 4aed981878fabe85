import MediaGateway.Proofs.Result
import MediaGateway.Proofs.Sdp.Building

/-!
# What is read can be written

The readers of lines give only values that are read back from their written form. So every line
takes a draft that can be written to another one, and a description that was read from a text can be
written, whatever the order of the lines and whatever stands in them. The one exception is an
address of connection data that is empty because its word begins with a slash.
-/

namespace MediaGateway.Sdp

open MediaGateway.Sdp.Parser MediaGateway.Text

/-! ## Values -/

namespace Parser

variable {v name : List Char}

theorem isWritable_of_origin? {o : Origin} (h : origin? v = some o) : o.IsWritable := by
  have hwords : ∀ w ∈ words v, IsWord w := fun _ => isWord_of_mem_words
  unfold origin? at h
  split at h
  · rename_i hv
    rw [hv] at hwords
    simp only [List.forall_mem_cons] at hwords
    obtain ⟨hu, hi, hn, -, ht, ha, -⟩ := hwords
    obtain rfl := Option.some.inj h
    constructor <;> simpa
  · simp at h

theorem isWritable_of_connection? {c : ConnectionData} (h : connection? v = some c)
    (hne : c.address ≠ "") : c.IsWritable := by
  have hwords : ∀ w ∈ words v, IsWord w := fun _ => isWord_of_mem_words
  unfold connection? at h
  split at h
  · rename_i _ type address hv
    rw [hv] at hwords
    simp only [List.forall_mem_cons] at hwords
    obtain ⟨-, ht, ha, -⟩ := hwords
    obtain rfl := Option.some.inj h
    refine ⟨by simpa using ht, ⟨by simpa using hne, fun c hc => ?_⟩, ?_⟩
    · exact ha.notBlank c (mem_of_mem_upTo (by simpa using hc))
    · simpa using notMem_upTo '/' address
  · simp at h

theorem isWritable_of_section? {m : MediaSection} (h : section? v = some m) : m.IsWritable := by
  have hwords : ∀ w ∈ words v, IsWord w := fun _ => isWord_of_mem_words
  unfold section? at h
  split at h
  · rename_i hv
    rw [hv] at hwords
    simp only [List.forall_mem_cons] at hwords
    obtain ⟨hm, -, hp, hformats⟩ := hwords
    simp only [Option.bind_eq_bind, Option.bind_eq_some_iff] at h
    obtain ⟨port, -, h⟩ := h
    obtain rfl := Option.some.inj h
    constructor
    case media => simpa using hm
    case protocol => simpa using hp
    case formats => simpa using hformats
    all_goals simp
  · simp at h

theorem isWritable_of_rtpmap? {f : Format} (h : rtpmap? v = some f) (hv : '\n' ∉ v) :
    f.IsWritable ∧ f.parameters = none := by
  unfold rtpmap? at h
  simp only [Option.bind_eq_bind, Option.bind_eq_some_iff] at h
  obtain ⟨⟨number, encoding⟩, hcut, h⟩ := h
  obtain ⟨rfl, -⟩ := cut_eq_some hcut
  have hline : '\n' ∉ encoding := fun hm => hv (by simp [hm])
  dsimp only at h
  split at h
  · rename_i encodingName rate more hsplit
    obtain rfl := eq_upTo_of_split hsplit
    split at h
    · simp at h
    · rename_i hne
      simp only [Option.bind_eq_some_iff] at h
      obtain ⟨clockRate, -, h⟩ := h
      have hf : ∃ payloadType channels, f =
          (Format.make payloadType (String.ofList (upTo '/' (trim encoding)))
            clockRate).withChannels channels := by
        split at h <;>
        · simp only [Option.bind_eq_some_iff] at h
          obtain ⟨channels, -, payloadType, -, h⟩ := h
          exact ⟨payloadType, channels, (Option.some.inj h).symm⟩
      obtain ⟨payloadType, channels, rfl⟩ := hf
      refine ⟨⟨?_, fun c hc => ?_, ?_, fun hm => ?_, ?_⟩, rfl⟩
      · simpa [Format.withChannels, Format.make] using hne
      · exact head?_trim (head?_upTo (by simpa [Format.withChannels, Format.make] using hc))
      · simpa [Format.withChannels, Format.make] using notMem_upTo '/' (trim encoding)
      · have hname : '\n' ∈ upTo '/' (trim encoding) := by
          simpa [Format.withChannels, Format.make] using hm
        exact hline (mem_of_mem_trim (mem_of_mem_upTo hname))
      · show 1 ≤ if channels ≤ 1 then 1 else channels
        split
        · decide
        · rename_i hle
          exact UInt8.le_of_lt (UInt8.not_le.1 hle)
  · simp at h

theorem isTrimmedLine_of_fmtp? {n : UInt8} {text : String} (h : fmtp? v = some (n, text))
    (hv : '\n' ∉ v) : IsTrimmedLine text.toList := by
  unfold fmtp? at h
  simp only [Option.bind_eq_bind, Option.bind_eq_some_iff] at h
  obtain ⟨⟨number, parameters⟩, hcut, payloadType, -, h⟩ := h
  obtain ⟨rfl, -⟩ := cut_eq_some hcut
  have hline : '\n' ∉ parameters := fun hm => hv (by simp [hm])
  obtain ⟨rfl, rfl⟩ := Prod.mk.inj (Option.some.inj h)
  simpa using isTrimmedLine_trim hline

theorem isWritable_of_candidate? {c : Candidate} (h : candidate? v = some c) : c.IsWritable := by
  have hwords : ∀ w ∈ words v, IsWord w := fun _ => isWord_of_mem_words
  unfold candidate? at h
  split at h
  · rename_i hv
    rw [hv] at hwords
    simp only [List.forall_mem_cons] at hwords
    obtain ⟨hf, -, ht, -, ha, -, -, hk, -⟩ := hwords
    split at h
    · simp only [Option.bind_eq_bind, Option.bind_eq_some_iff] at h
      obtain ⟨component, -, priority, -, port, -, h⟩ := h
      obtain rfl := Option.some.inj h
      constructor
      case foundation => simpa using hf
      case transport => simpa using ht.toLower
      case lowerCase =>
        simp only [String.toList_ofList, List.map_map, List.map_inj_left, Function.comp_apply,
          toLower_toLower, implies_true]
      case address => simpa using ha
      case kind => simpa using hk
    · simp at h
  · simp at h

theorem isWritable_of_rtcp? {r : RtcpAttribute} (h : rtcp? v = some r) : r.IsWritable := by
  have hwords : ∀ w ∈ words v, IsWord w := fun _ => isWord_of_mem_words
  unfold rtcp? at h
  split at h
  · rename_i hv
    rw [hv] at hwords
    simp only [Option.bind_eq_bind, Option.bind_eq_some_iff] at h
    obtain ⟨port, -, h⟩ := h
    obtain rfl := Option.some.inj h
    intro a ha
    obtain ⟨w, hw, rfl⟩ := Option.map_eq_some_iff.1 ha
    simpa using hwords w (List.mem_cons_of_mem _ (List.mem_of_getElem? hw))
  · simp at h

theorem isWritable_of_source? {s : SourceAttribute} (h : source? v = some s) (hv : '\n' ∉ v) :
    s.IsWritable := by
  -- What stands behind the number is trimmed, so the canonical name does not end in a blank.
  have hrest : ∃ id rest, IsTrimmedLine rest ∧ (readUInt32? (trim id)).bind (fun ssrc =>
      some ⟨ssrc, (afterStart "cname:".toList rest).map String.ofList⟩) = some s := by
    unfold source? at h
    cases hcut : cut ' ' v with
    | none =>
      rw [hcut] at h
      exact ⟨v, [], ⟨by decide, by simp⟩, h⟩
    | some p =>
      obtain ⟨id, rest⟩ := p
      obtain ⟨rfl, -⟩ := cut_eq_some hcut
      rw [hcut] at h
      exact ⟨id, trim rest, isTrimmedLine_trim fun hm => hv (by simp [hm]), h⟩
  obtain ⟨id, rest, htrim, hs⟩ := hrest
  obtain ⟨ssrc, -, hs⟩ := Option.bind_eq_some_iff.1 hs
  obtain rfl := Option.some.inj hs
  have hname : ∀ cname ∈ (afterStart "cname:".toList rest).map String.ofList,
      rest = "cname:".toList ++ cname.toList := by
    intro cname hc
    obtain ⟨cs, hcs, rfl⟩ := Option.map_eq_some_iff.1 hc
    have he := afterStart_eq_some hcs
    rwa [← String.toList_ofList (l := cs)] at he
  constructor
  · intro cname hc hm
    exact htrim.notMem (hname cname hc ▸ List.mem_append_right _ hm)
  · intro cname hc c hl
    refine (isTrimmed_iff.1 htrim.trimmed).2 c ?_
    rw [hname cname hc, List.getLast?_append, Option.mem_def.1 hl]
    rfl

theorem isWritable_credentials {ice : Option IceCredentials} (h : ∀ i ∈ ice, i.IsWritable) :
    (credentials ice).IsWritable := by
  cases ice with
  | none => exact ⟨by decide, by decide⟩
  | some i => exact h i rfl

theorem isWritable_withUfrag {ice : Option IceCredentials} (h : ∀ i ∈ ice, i.IsWritable)
    (hv : '\n' ∉ v) : ∀ i ∈ withUfrag ice v, i.IsWritable := by
  intro i hi
  obtain rfl := Option.some.inj hi
  exact ⟨by simpa using isTrimmedLine_trim hv, (isWritable_credentials h).pwd⟩

theorem isWritable_withPwd {ice : Option IceCredentials} (h : ∀ i ∈ ice, i.IsWritable)
    (hv : '\n' ∉ v) : ∀ i ∈ withPwd ice v, i.IsWritable := by
  intro i hi
  obtain rfl := Option.some.inj hi
  exact ⟨(isWritable_credentials h).ufrag, by simpa using isTrimmedLine_trim hv⟩

theorem isWritable_mergeSource {known : Option SourceAttribute} {read : SourceAttribute}
    (h : ∀ s ∈ known, s.IsWritable) (hr : read.IsWritable) :
    (mergeSource known read).IsWritable := by
  cases known with
  | none => exact hr
  | some s =>
    have hs : s.IsWritable := h s rfl
    simp only [mergeSource]
    split
    · -- The canonical name is that of one of the two.
      constructor <;> intro cname hc
      · rcases Option.or_eq_some_iff.1 hc with hc | ⟨-, hc⟩
        · exact hs.line cname hc
        · exact hr.line cname hc
      · rcases Option.or_eq_some_iff.1 hc with hc | ⟨-, hc⟩
        · exact hs.last cname hc
        · exact hr.last cname hc
    · exact hs

theorem isOther_plain {keys : List (String × Bool)} {value : Option (List Char)}
    (hcolon : ':' ∉ name) (hline : IsLine (plain name value).line.toList)
    (hdirection : direction? name value = none) (hkey : (String.ofList name, value.isSome) ∉ keys) :
    (plain name value).IsOther keys := by
  refine ⟨hline, by simpa [plain] using hcolon, ?_, by simpa [plain] using hkey⟩
  cases value <;> simpa [plain] using hdirection

end Parser

/-! ## Attributes -/

section Attributes

variable {name line : List Char} {value : Option (List Char)}

theorem orMalformed_eq_ok {α : Type} {field : Char} {o : Option α} {a : α}
    (h : orMalformed field line o = .ok a) : o = some a := by
  cases o with
  | none => simp [orMalformed, malformed] at h
  | some b => exact congrArg some (Except.ok.inj h)

/-- A value that stands on a line is read from that line. -/
theorem exists_of_orMalformed {α β : Type} {field : Char} {o : Option α}
    {f : α → Except SdpError β} {b : β} (h : (orMalformed field line o >>= f) = .ok b) :
    ∃ a, o = some a ∧ f a = .ok b := by
  obtain ⟨a, ha, hf⟩ := exists_of_bind_eq_ok h
  exact ⟨a, orMalformed_eq_ok ha, hf⟩

/-- The value of an attribute on one line is on that line. -/
theorem notMem_of_isLine_plain {v : List Char} (h : IsLine (plain name (some v)).line.toList) :
    '\n' ∉ v := fun hm =>
  h.notMem (by simp [plain, Attribute.line, String.toList_append, hm])

theorem isWritable_sectionAttribute {m m' : MediaSection}
    (h : sectionAttribute m name value line = .ok m') (hm : m.IsWritable) (hcolon : ':' ∉ name)
    (hline : IsLine (plain name value).line.toList) : m'.IsWritable := by
  unfold sectionAttribute at h
  split at h
  · obtain rfl := Except.ok.inj h
    exact { hm with }
  · rename_i hdirection
    split at h
    · rename_i v hname
      have hv := notMem_of_isLine_plain hline
      obtain ⟨f, hf, h⟩ := exists_of_orMalformed h
      obtain rfl := Except.ok.inj h
      refine { hm with rtpmaps := fun g hg => ?_ }
      rcases List.mem_append.1 hg with hg | hg
      · exact hm.rtpmaps g (List.mem_of_mem_filter hg)
      · obtain rfl := List.mem_singleton.1 hg
        exact isWritable_of_rtpmap? hf hv
    · rename_i v hname
      have hv := notMem_of_isLine_plain hline
      obtain ⟨⟨n, text⟩, hf, h⟩ := exists_of_orMalformed h
      obtain rfl := Except.ok.inj h
      refine { hm with fmtps := fun e he => ?_ }
      rcases ParameterMap.mem_insertInto he with rfl | he
      · exact isTrimmedLine_of_fmtp? hf hv
      · exact hm.fmtps e he
    · obtain ⟨n, -, h⟩ := exists_of_orMalformed h
      obtain rfl := Except.ok.inj h
      exact { hm with }
    · obtain ⟨r, hr, h⟩ := exists_of_orMalformed h
      obtain rfl := Except.ok.inj h
      refine { hm with rtcp := ?_ }
      rintro _ ⟨⟩
      exact isWritable_of_rtcp? hr
    · obtain rfl := Except.ok.inj h
      exact { hm with }
    · obtain rfl := Except.ok.inj h
      exact { hm with ice := isWritable_withUfrag hm.ice (notMem_of_isLine_plain hline) }
    · obtain rfl := Except.ok.inj h
      exact { hm with ice := isWritable_withPwd hm.ice (notMem_of_isLine_plain hline) }
    · obtain ⟨c, hc, h⟩ := exists_of_orMalformed h
      obtain rfl := Except.ok.inj h
      refine { hm with candidates := fun g hg => ?_ }
      rcases List.mem_append.1 hg with hg | hg
      · exact hm.candidates g hg
      · obtain rfl := List.mem_singleton.1 hg
        exact isWritable_of_candidate? hc
    · obtain ⟨f, hf, h⟩ := exists_of_bind_eq_ok h
      obtain rfl := Except.ok.inj h
      refine { hm with fingerprint := ?_ }
      rintro _ ⟨⟩
      exact Fingerprint.isWritable_iff.2 ⟨_, notMem_of_isLine_plain hline, hf⟩
    · obtain ⟨r, -, h⟩ := exists_of_bind_eq_ok h
      obtain rfl := Except.ok.inj h
      exact { hm with }
    · obtain ⟨s, hs, h⟩ := exists_of_orMalformed h
      obtain rfl := Except.ok.inj h
      refine { hm with source := ?_ }
      rintro _ ⟨⟩
      exact isWritable_mergeSource hm.source
        (isWritable_of_source? hs (notMem_of_isLine_plain hline))
    · obtain rfl := Except.ok.inj h
      refine { hm with attributes := fun a ha => ?_ }
      rcases List.mem_append.1 ha with ha | ha
      · exact hm.attributes a ha
      · obtain rfl := List.mem_singleton.1 ha
        refine isOther_plain hcolon hline hdirection ?_
        simp_all [sectionKeys, Option.isSome_iff_exists]

/-- What has been read so far can be written. -/
structure Draft.IsWritable (d : Draft) : Prop where
  origin : ∀ o ∈ d.origin, o.IsWritable
  sessionName : ∀ s ∈ d.sessionName, IsLine s.toList
  connection : ∀ c ∈ d.connection, c.IsWritable
  ice : ∀ i ∈ d.ice, i.IsWritable
  fingerprint : ∀ f ∈ d.fingerprint, f.IsWritable
  attributes : ∀ a ∈ d.attributes, a.IsOther sessionKeys
  sections : ∀ m ∈ d.sections, m.IsWritable

theorem isWritable_sessionAttribute {d d' : Draft} (h : sessionAttribute d name value = .ok d')
    (hd : d.IsWritable) (hcolon : ':' ∉ name) (hline : IsLine (plain name value).line.toList) :
    d'.IsWritable := by
  unfold sessionAttribute at h
  split at h
  · obtain rfl := Except.ok.inj h
    exact { hd with }
  · rename_i hdirection
    split at h
    · obtain rfl := Except.ok.inj h
      exact { hd with }
    · obtain rfl := Except.ok.inj h
      exact { hd with ice := isWritable_withUfrag hd.ice (notMem_of_isLine_plain hline) }
    · obtain rfl := Except.ok.inj h
      exact { hd with ice := isWritable_withPwd hd.ice (notMem_of_isLine_plain hline) }
    · obtain ⟨f, hf, h⟩ := exists_of_bind_eq_ok h
      obtain rfl := Except.ok.inj h
      refine { hd with fingerprint := ?_ }
      rintro _ ⟨⟩
      exact Fingerprint.isWritable_iff.2 ⟨_, notMem_of_isLine_plain hline, hf⟩
    · obtain ⟨r, -, h⟩ := exists_of_bind_eq_ok h
      obtain rfl := Except.ok.inj h
      exact { hd with }
    · obtain rfl := Except.ok.inj h
      refine { hd with attributes := fun a ha => ?_ }
      rcases List.mem_append.1 ha with ha | ha
      · exact hd.attributes a ha
      · obtain rfl := List.mem_singleton.1 ha
        refine isOther_plain hcolon hline hdirection ?_
        simp_all [sessionKeys, Option.isSome_iff_exists]

theorem isWritable_attributeLine {d d' : Draft} {v : List Char}
    (h : attributeLine d v line = .ok d') (hd : d.IsWritable) (hline : IsLine ('a' :: '=' :: v)) :
    d'.IsWritable := by
  -- The name and the value that the line is cut into make up the line again.
  have hparts : ∃ name value, ':' ∉ name ∧ (plain name value).line.toList = 'a' :: '=' :: v ∧
      readAttribute d name value line = .ok d' := by
    unfold attributeLine at h
    cases hcut : cut ':' v with
    | none =>
      rw [hcut] at h
      exact ⟨v, none, notMem_of_cut_eq_none hcut,
        by simp [plain, Attribute.line, String.toList_append], h⟩
    | some p =>
      obtain ⟨name, value⟩ := p
      obtain ⟨rfl, hname⟩ := cut_eq_some hcut
      rw [hcut] at h
      exact ⟨name, some value, hname, by simp [plain, Attribute.line, String.toList_append], h⟩
  obtain ⟨name, value, hname, hl, h⟩ := hparts
  rw [← hl] at hline
  unfold readAttribute at h
  split at h
  · exact isWritable_sessionAttribute h hd hname hline
  · rename_i m earlier hs
    obtain ⟨hm, hearlier⟩ := List.forall_mem_cons.1 (hs ▸ hd.sections)
    obtain ⟨m', hm', h⟩ := exists_of_bind_eq_ok h
    obtain rfl := Except.ok.inj h
    have hw : m'.IsWritable := isWritable_sectionAttribute hm' hm hname hline
    exact { hd with sections := List.forall_mem_cons.2 ⟨hw, hearlier⟩ }

end Attributes

/-! ## Lines -/

/-- The line has an address that is not empty, if it is one of connection data. -/
def HasAddress (l : List Char) : Prop :=
  ∀ v ∈ afterStart "c=".toList l, ∀ c ∈ connection? v, c.address ≠ ""

instance (l : List Char) : Decidable (HasAddress l) :=
  inferInstanceAs (Decidable (∀ v ∈ afterStart _ l, ∀ c ∈ connection? v, c.address ≠ ""))

variable {d d' : Draft} {l : List Char}

theorem isWritable_connectionLine {v : List Char} (h : connectionLine d v l = .ok d')
    (hd : d.IsWritable) (ha : ∀ c ∈ connection? v, c.address ≠ "") : d'.IsWritable := by
  obtain ⟨c, hc, h⟩ := exists_of_orMalformed h
  have hw : c.IsWritable := isWritable_of_connection? hc (ha c hc)
  have hall : ∀ c' ∈ some c, c'.IsWritable := by
    rintro _ ⟨⟩
    exact hw
  split at h
  · obtain rfl := Except.ok.inj h
    exact { hd with connection := hall }
  · rename_i m earlier hs
    obtain ⟨hm, hearlier⟩ := List.forall_mem_cons.1 (hs ▸ hd.sections)
    obtain rfl := Except.ok.inj h
    exact { hd with sections := List.forall_mem_cons.2 ⟨{ hm with connection := hall }, hearlier⟩ }

theorem isWritable_line (h : Parser.line d l = .ok d') (hd : d.IsWritable) (hline : IsLine l)
    (ha : HasAddress l) : d'.IsWritable := by
  unfold Parser.line at h
  split at h
  · rename_i kind v
    split at h
    · unfold typedLine at h
      split at h
      · obtain ⟨n, -, h⟩ := exists_of_orMalformed h
        obtain rfl := Except.ok.inj h
        exact { hd with }
      · obtain ⟨o, ho, h⟩ := exists_of_orMalformed h
        obtain rfl := Except.ok.inj h
        refine { hd with origin := ?_ }
        rintro _ ⟨⟩
        exact isWritable_of_origin? ho
      · obtain rfl := Except.ok.inj h
        refine { hd with sessionName := ?_ }
        rintro _ ⟨⟩
        rw [String.toList_ofList]
        exact IsLine.suffix (a := ['s', '=']) hline
      · obtain ⟨t, -, h⟩ := exists_of_orMalformed h
        obtain rfl := Except.ok.inj h
        exact { hd with }
      · obtain ⟨m, hm, h⟩ := exists_of_orMalformed h
        obtain rfl := Except.ok.inj h
        exact { hd with
          sections := List.forall_mem_cons.2 ⟨isWritable_of_section? hm, hd.sections⟩ }
      · exact isWritable_connectionLine h hd (ha v (afterStart_append "c=".toList v))
      · exact isWritable_attributeLine h hd hline
      · obtain rfl := Except.ok.inj h
        exact hd
    · simp [malformed] at h
  · simp [malformed] at h
  · obtain rfl := Except.ok.inj h
    exact hd

theorem isWritable_lines {ls : List (List Char)} (h : ls.foldlM Parser.line d = .ok d')
    (hd : d.IsWritable) (hls : ∀ l ∈ ls, IsLine l ∧ HasAddress l) : d'.IsWritable := by
  induction ls generalizing d with
  | nil =>
    obtain rfl := Except.ok.inj h
    exact hd
  | cons l ls ih =>
    obtain ⟨⟨hline, ha⟩, hls⟩ := List.forall_mem_cons.1 hls
    rw [List.foldlM_cons] at h
    obtain ⟨d₁, h₁, h⟩ := exists_of_bind_eq_ok h
    exact ih h (isWritable_line h₁ hd hline ha) hls

/-! ## Texts -/

theorem isLine_of_mem_linesOf {text : List Char} (h : l ∈ linesOf text) : IsLine l := by
  obtain ⟨hl, -⟩ := List.mem_filter.1 h
  obtain ⟨p, hp, rfl⟩ := List.mem_map.1 hl
  constructor
  · exact fun hm => notMem_of_mem_split hp (mem_of_mem_dropTrailing hm)
  · intro c hc
    simpa using getLast?_dropTrailing (· == '\r') p c hc

/-- No line of connection data of the text has an empty address. -/
def HasAddresses (text : String) : Prop := ∀ l ∈ linesOf text.toList, HasAddress l

instance (text : String) : Decidable (HasAddresses text) :=
  inferInstanceAs (Decidable (∀ l ∈ linesOf text.toList, HasAddress l))

theorem Description.isWritable_of_ofText {text : String} {d : Description}
    (h : Description.ofText text = .ok d) (ha : HasAddresses text) : d.IsWritable := by
  obtain ⟨draft, hlines, h⟩ := exists_of_bind_eq_ok h
  have hempty : Draft.IsWritable {} := by constructor <;> simp
  have hw : draft.IsWritable :=
    isWritable_lines hlines hempty fun l hl => ⟨isLine_of_mem_linesOf hl, ha l hl⟩
  unfold finish at h
  split at h
  · rename_i version origin sessionName timing hv ho hs ht
    obtain rfl := Except.ok.inj h
    exact {
      origin := hw.origin _ ho
      sessionName := hw.sessionName _ hs
      connection := hw.connection
      ice := hw.ice
      fingerprint := hw.fingerprint
      attributes := hw.attributes
      media := fun m hm => hw.sections m (List.mem_reverse.1 hm) }
  all_goals simp at h

end MediaGateway.Sdp
