import MediaGateway.Proofs.Sdp.Generated
import MediaGateway.Proofs.Sdp.NormalForm

/-!
# What the lines of a section say of payload numbers

Behind its session part a text consists of paragraphs, which begin with a line of type `m`. A section
that is read from a text says of payload numbers what its paragraph says: they are listed in the first
line, and of the lines that explain a number or give it parameters the last one counts, wherever these
lines stand among the others.
-/

namespace MediaGateway.Sdp

open MediaGateway.Sdp.Parser

/-! ## Paragraphs -/

/-- The lines of a text that belong to a section. -/
structure Paragraph where
  /-- The value of the line that opens the section. -/
  heading : List Char
  /-- The other lines. -/
  lines : List (List Char)
deriving DecidableEq, Repr

namespace Paragraph

/-- The paragraph with a further line. -/
def followedBy (p : Paragraph) (l : List Char) : Paragraph := { p with lines := p.lines ++ [l] }

/-- The paragraphs with a further line, the last one first. A line before all of them belongs to the
session part. -/
def extend (ps : List Paragraph) (l : List Char) : List Paragraph :=
  match l, ps with
  | 'm' :: '=' :: heading, ps => ⟨heading, []⟩ :: ps
  | _, [] => []
  | l, p :: earlier => p.followedBy l :: earlier

/-- The paragraphs of a text. -/
def ofText (text : String) : List Paragraph := ((linesOf text.toList).foldl extend []).reverse

/-- The value that a line gives to an attribute. -/
def value? (name : String) : List Char → Option (List Char)
  | 'a' :: '=' :: rest => (Text.cut ':' rest).bind fun (key, value) =>
    if String.ofList key = name then some value else none
  | _ => none

/-- What a line explains. -/
def mappingIn? (l : List Char) : Option Format := (value? "rtpmap" l).bind rtpmap?

/-- What a line gives parameters to. -/
def parametersIn? (l : List Char) : Option (UInt8 × String) := (value? "fmtp" l).bind fmtp?

/-- The medium. -/
def medium? (p : Paragraph) : Option MediaType :=
  (Text.words p.heading).head?.bind fun w => MediaType.ofToken? (String.ofList w)

/-- The listed words, behind the medium, the port and the protocol. -/
def formats (p : Paragraph) : List String := ((Text.words p.heading).drop 3).map String.ofList

/-- The listed words that are payload numbers. -/
def payloadTypes (p : Paragraph) : List UInt8 :=
  p.formats.filterMap fun f => Text.readUInt8? f.toList

/-- What the last line that explains a payload number says. -/
def mapping? (p : Paragraph) (payloadType : UInt8) : Option Format :=
  (p.lines.filterMap mappingIn?).reverse.find? fun f => f.payloadType = payloadType

/-- What the last line that gives parameters to a payload number says. -/
def parameters? (p : Paragraph) (payloadType : UInt8) : Option String :=
  (p.lines.filterMap parametersIn?).reverse.lookup payloadType

variable {p : Paragraph} {l : List Char}

theorem mapping?_followedBy (p : Paragraph) (l : List Char) (n : UInt8) :
    (p.followedBy l).mapping? n =
      match mappingIn? l with
      | some f => if n = f.payloadType then some f else p.mapping? n
      | none => p.mapping? n := by
  unfold mapping? followedBy
  rw [List.filterMap_append]
  cases hl : mappingIn? l with
  | none => simp [hl]
  | some f =>
    by_cases hn : n = f.payloadType
    · simp [hl, hn]
    · simp [hl, hn, Ne.symm hn]

theorem parameters?_followedBy (p : Paragraph) (l : List Char) (n : UInt8) :
    (p.followedBy l).parameters? n =
      match parametersIn? l with
      | some (k, text) => if n = k then some text else p.parameters? n
      | none => p.parameters? n := by
  unfold parameters? followedBy
  rw [List.filterMap_append]
  cases hl : parametersIn? l with
  | none => simp [hl]
  | some e =>
    obtain ⟨k, text⟩ := e
    simp [hl, ParameterMap.lookup_cons]

theorem extend_of_not_heading {ps : List Paragraph} (hl : ∀ v, l ≠ 'm' :: '=' :: v) :
    extend ps l = match ps with
      | [] => []
      | p :: earlier => p.followedBy l :: earlier := by
  unfold extend
  split
  · rename_i v
    exact absurd rfl (hl v)
  · rfl
  · rfl

theorem value?_of_not_attribute (hl : ∀ v, l ≠ 'a' :: '=' :: v) (name : String) :
    value? name l = none := by
  unfold value?
  split
  · rename_i v
    exact absurd rfl (hl v)
  · rfl

end Paragraph

/-! ## Sections -/

namespace MediaSection

/-- A section says of payload numbers what a paragraph says. -/
structure Says (m : MediaSection) (p : Paragraph) : Prop where
  /-- It is about the same medium, -/
  medium : m.mediaType = p.medium?
  /-- lists the same words, -/
  formats : m.formats = p.formats
  /-- explains the same numbers in the same way -/
  mappings : ∀ n, m.mapping? n = p.mapping? n
  /-- and gives the same parameters. -/
  parameters : ∀ n, m.fmtps.get? n = p.parameters? n

/-- One line makes a section out of another one, as it makes a paragraph out of one. -/
def Hears (m : MediaSection) (l : List Char) (m' : MediaSection) : Prop :=
  ∀ p, m.Says p → m'.Says (p.followedBy l)

variable {m m' : MediaSection} {l name : List Char} {value : Option (List Char)}

theorem says_of_section? {v : List Char} (h : section? v = some m) : m.Says ⟨v, []⟩ := by
  unfold section? at h
  split at h
  · rename_i medium port protocol formats hwords
    simp only [Option.bind_eq_bind, Option.bind_eq_some_iff] at h
    obtain ⟨port', -, h⟩ := h
    obtain rfl := Option.some.inj h
    constructor
    · simp [Paragraph.medium?, hwords, mediaType]
    · simp [Paragraph.formats, hwords]
    · exact fun _ => rfl
    · exact fun _ => rfl
  · cases h

/-- What is not about payload numbers leaves what is said of them. -/
theorem hears_of_same (hheading : m'.heading = m.heading) (hmaps : m'.rtpmaps = m.rtpmaps)
    (hfmtps : m'.fmtps = m.fmtps) (hmapping : Paragraph.mappingIn? l = none)
    (hparameters : Paragraph.parametersIn? l = none) : m.Hears l m' := by
  intro p hp
  obtain ⟨hmedia, -, hformats⟩ : m'.media = m.media ∧ m'.protocol = m.protocol ∧
      m'.formats = m.formats := by
    simpa [heading] using hheading
  constructor
  · rw [mediaType, hmedia]
    exact hp.medium
  · rw [hformats]
    exact hp.formats
  · intro n
    rw [Paragraph.mapping?_followedBy, hmapping, mapping?, hmaps]
    exact hp.mappings n
  · intro n
    rw [Paragraph.parameters?_followedBy, hparameters, hfmtps]
    exact hp.parameters n

theorem hears_mapping {f : Format} (hl : Paragraph.mappingIn? l = some f)
    (hparameters : Paragraph.parametersIn? l = none) :
    m.Hears l { m with rtpmaps := addMapping m.rtpmaps f } := by
  intro p hp
  refine ⟨hp.medium, hp.formats, fun n => ?_, fun n => ?_⟩
  · rw [Paragraph.mapping?_followedBy, hl, mapping?, find?_addMapping, ← hp.mappings n]
    rfl
  · rw [Paragraph.parameters?_followedBy, hparameters]
    exact hp.parameters n

theorem hears_parameters {k : UInt8} {text : String}
    (hl : Paragraph.parametersIn? l = some (k, text))
    (hmapping : Paragraph.mappingIn? l = none) :
    m.Hears l { m with fmtps := m.fmtps.insert k text } := by
  intro p hp
  refine ⟨hp.medium, hp.formats, fun n => ?_, fun n => ?_⟩
  · rw [Paragraph.mapping?_followedBy, hmapping]
    exact hp.mappings n
  · rw [Paragraph.parameters?_followedBy, hl, ParameterMap.get?_insert, hp.parameters n]

/-- All but two attributes leave what is said of payload numbers. -/
theorem payloads_sectionAttribute {whole : List Char}
    (h : sectionAttribute m name value whole = .ok m')
    (hkeys : ∀ v, value = some v → String.ofList name ≠ "rtpmap" ∧ String.ofList name ≠ "fmtp") :
    m'.rtpmaps = m.rtpmaps ∧ m'.fmtps = m.fmtps := by
  unfold sectionAttribute at h
  split at h
  · obtain rfl := Except.ok.inj h
    exact ⟨rfl, rfl⟩
  · rename_i hdirection
    split at h
    case h_1 v hname => exact absurd hname (hkeys v rfl).1
    case h_2 v hname => exact absurd hname (hkeys v rfl).2
    all_goals
      first
      | obtain rfl := Except.ok.inj h
        exact ⟨rfl, rfl⟩
      | obtain ⟨a, -, h⟩ := exists_of_bind_eq_ok h
        obtain rfl := Except.ok.inj h
        exact ⟨rfl, rfl⟩

theorem sectionAttribute_rtpmap {v whole : List Char} (hname : String.ofList name = "rtpmap")
    (h : sectionAttribute m name (some v) whole = .ok m') :
    ∃ f, rtpmap? v = some f ∧ m' = { m with rtpmaps := addMapping m.rtpmaps f } := by
  simp only [sectionAttribute, direction?, hname, Option.isNone_some, Bool.false_and,
    Bool.false_eq_true, if_false] at h
  obtain ⟨f, hf, h⟩ := exists_of_orMalformed h
  exact ⟨f, hf, (Except.ok.inj h).symm⟩

theorem sectionAttribute_fmtp {v whole : List Char} (hname : String.ofList name = "fmtp")
    (h : sectionAttribute m name (some v) whole = .ok m') :
    ∃ k text, fmtp? v = some (k, text) ∧ m' = { m with fmtps := m.fmtps.insert k text } := by
  simp only [sectionAttribute, direction?, hname, Option.isNone_some, Bool.false_and,
    Bool.false_eq_true, if_false] at h
  obtain ⟨⟨k, text⟩, hk, h⟩ := exists_of_orMalformed h
  exact ⟨k, text, hk, (Except.ok.inj h).symm⟩

/-- A line with an attribute is heard. -/
theorem hears_sectionAttribute {whole : List Char}
    (h : sectionAttribute m name value whole = .ok m')
    (hl : ∀ key, Paragraph.value? key l =
      value.bind fun v => if String.ofList name = key then some v else none) : m.Hears l m' := by
  have hmapping : Paragraph.mappingIn? l = (value.bind fun v =>
      if String.ofList name = "rtpmap" then some v else none).bind rtpmap? := by
    rw [Paragraph.mappingIn?, hl]
  have hparameters : Paragraph.parametersIn? l = (value.bind fun v =>
      if String.ofList name = "fmtp" then some v else none).bind fmtp? := by
    rw [Paragraph.parametersIn?, hl]
  cases value with
  | none =>
    obtain ⟨hmaps, hfmtps⟩ := payloads_sectionAttribute h (by simp)
    exact hears_of_same (heading_sectionAttribute h) hmaps hfmtps hmapping hparameters
  | some v =>
    by_cases hrtpmap : String.ofList name = "rtpmap"
    · obtain ⟨f, hf, rfl⟩ := sectionAttribute_rtpmap hrtpmap h
      refine hears_mapping ?_ ?_
      · simpa [hrtpmap, hf] using hmapping
      · simpa [hrtpmap] using hparameters
    · by_cases hfmtp : String.ofList name = "fmtp"
      · obtain ⟨k, text, hk, rfl⟩ := sectionAttribute_fmtp hfmtp h
        refine hears_parameters ?_ ?_
        · simpa [hfmtp, hk] using hparameters
        · simpa [hfmtp] using hmapping
      · obtain ⟨hmaps, hfmtps⟩ := payloads_sectionAttribute h fun _ _ => ⟨hrtpmap, hfmtp⟩
        refine hears_of_same (heading_sectionAttribute h) hmaps hfmtps ?_ ?_
        · simpa [hrtpmap] using hmapping
        · simpa [hfmtp] using hparameters

end MediaSection

/-! ## Lines -/

/-- The section opened last hears a line, if there is one. -/
inductive LastHears (l : List Char) : List MediaSection → List MediaSection → Prop
  /-- A line of the session part. -/
  | unheard : LastHears l [] []
  | heard {m m' : MediaSection} {earlier : List MediaSection} (h : m.Hears l m') :
    LastHears l (m :: earlier) (m' :: earlier)

variable {d d' : Draft} {l : List Char}

/-- Lines of other types than `a` say nothing of payload numbers. -/
theorem hears_of_not_attribute (hl : ∀ v, l ≠ 'a' :: '=' :: v) {m m' : MediaSection}
    (hheading : m'.heading = m.heading) (hmaps : m'.rtpmaps = m.rtpmaps)
    (hfmtps : m'.fmtps = m.fmtps) : m.Hears l m' := by
  refine MediaSection.hears_of_same hheading hmaps hfmtps ?_ ?_
  · rw [Paragraph.mappingIn?, Paragraph.value?_of_not_attribute hl]
    rfl
  · rw [Paragraph.parametersIn?, Paragraph.value?_of_not_attribute hl]
    rfl

theorem LastHears.of_not_attribute (hl : ∀ v, l ≠ 'a' :: '=' :: v) (ms : List MediaSection) :
    LastHears l ms ms := by
  cases ms with
  | nil => exact .unheard
  | cons m earlier => exact .heard (hears_of_not_attribute hl rfl rfl rfl)

theorem lastHears_connectionLine {v whole : List Char} (h : connectionLine d v whole = .ok d') :
    LastHears ('c' :: '=' :: v) d.sections d'.sections := by
  obtain ⟨c, -, h⟩ := exists_of_bind_eq_ok h
  split at h
  · rename_i hs
    obtain rfl := Except.ok.inj h
    rw [hs]
    exact .unheard
  · rename_i m earlier hs
    obtain rfl := Except.ok.inj h
    rw [hs]
    exact .heard (hears_of_not_attribute (by simp) rfl rfl rfl)

theorem lastHears_attributeLine {v whole : List Char} (h : attributeLine d v whole = .ok d') :
    LastHears ('a' :: '=' :: v) d.sections d'.sections := by
  unfold attributeLine at h
  cases hs : d.sections with
  | nil =>
    simp only [hs] at h
    rw [sections_sessionAttribute h, hs]
    exact .unheard
  | cons m earlier =>
    simp only [hs] at h
    obtain ⟨m', hm', h⟩ := exists_of_bind_eq_ok h
    obtain rfl := Except.ok.inj h
    refine .heard (MediaSection.hears_sectionAttribute hm' fun key => ?_)
    cases hcut : Text.cut ':' v with
    | none => simp [Paragraph.value?, hcut]
    | some arg => simp [Paragraph.value?, hcut]

/-- A line opens a section, or it is heard by the section opened last. -/
theorem lastHears_line (h : Parser.line d l = .ok d') :
    (∃ v m, l = 'm' :: '=' :: v ∧ section? v = some m ∧ d'.sections = m :: d.sections) ∨
      (∀ v, l ≠ 'm' :: '=' :: v) ∧ LastHears l d.sections d'.sections := by
  rcases sections_line_cases h with ⟨v, m, hl, hm, hs⟩ | ⟨v, rfl, h⟩ | ⟨v, rfl, h⟩ | ⟨hl, hs⟩
  · exact .inl ⟨v, m, hl, hm, hs⟩
  · exact .inr ⟨by simp, lastHears_connectionLine h⟩
  · exact .inr ⟨by simp, lastHears_attributeLine h⟩
  · rw [hs]
    exact .inr ⟨fun v => (hl v).1, .of_not_attribute (fun v => (hl v).2) _⟩

/-- What holds of the sections read so far holds with a further line. -/
theorem says_line {ps : List Paragraph} (h : Parser.line d l = .ok d')
    (hd : List.Forall₂ MediaSection.Says d.sections ps) :
    List.Forall₂ MediaSection.Says d'.sections (Paragraph.extend ps l) := by
  rcases lastHears_line h with ⟨v, m, rfl, hm, hs⟩ | ⟨hl, hears⟩
  · rw [hs]
    exact .cons (MediaSection.says_of_section? hm) hd
  · rw [Paragraph.extend_of_not_heading hl]
    generalize d.sections = ms, d'.sections = ms' at hears hd
    cases hears with
    | unheard =>
      cases hd
      exact .nil
    | heard hheard =>
      cases hd with
      | cons hm hearlier => exact .cons (hheard _ hm) hearlier

theorem says_lines {ls : List (List Char)} {ps : List Paragraph}
    (h : ls.foldlM Parser.line d = .ok d')
    (hd : List.Forall₂ MediaSection.Says d.sections ps) :
    List.Forall₂ MediaSection.Says d'.sections (ls.foldl Paragraph.extend ps) := by
  induction ls generalizing d ps with
  | nil =>
    obtain rfl := Except.ok.inj h
    exact hd
  | cons l ls ih =>
    rw [List.foldlM_cons] at h
    obtain ⟨d₁, h₁, h⟩ := exists_of_bind_eq_ok h
    exact ih h (says_line h₁ hd)

/-- The sections of a description say of payload numbers what the paragraphs of its text say. -/
theorem says_of_ofText {text : String} {d : Description} (h : Description.ofText text = .ok d) :
    List.Forall₂ MediaSection.Says d.media (Paragraph.ofText text) := by
  obtain ⟨draft, hlines, h⟩ := exists_of_bind_eq_ok h
  have hempty : List.Forall₂ MediaSection.Says [] [] := .nil
  have hsays := says_lines hlines hempty
  unfold finish at h
  split at h
  · obtain rfl := Except.ok.inj h
    exact List.rel_reverse hsays
  all_goals simp at h

end MediaGateway.Sdp
