import MediaGateway.Proofs.Sdp.Reading

/-!
# The normal form of a text

Any text that can be read is read and written once more without losing anything but what sections
say about payload numbers that they do not list. So the written form of a description stands for all
texts that say the same, however their lines are ordered and spaced.
-/

namespace MediaGateway.Sdp

open MediaGateway.Sdp.Parser MediaGateway.Text

/-! ## Payload numbers -/

section PayloadNumbers

variable (m : MediaSection) (n k : UInt8)

theorem payloadType_of_mapping? {f : Format} (h : m.mapping? n = some f) : f.payloadType = n := by
  simpa using List.find?_some h

/-- The latest meaning of a payload number replaces earlier ones. -/
theorem find?_addMapping (maps : List Format) (f : Format) :
    (addMapping maps f).find? (fun g => g.payloadType = k) =
      if k = f.payloadType then some f else maps.find? fun g => g.payloadType = k := by
  rw [addMapping, List.find?_append, List.find?_filter]
  by_cases hk : k = f.payloadType
  · subst hk
    have hnone : maps.find? (fun g => decide (decide (g.payloadType ≠ f.payloadType) = true ∧
        decide (g.payloadType = f.payloadType) = true)) = none := by simp
    rw [if_pos rfl, hnone]
    simp
  · have hsame : (fun g : Format => decide (decide (g.payloadType ≠ f.payloadType) = true ∧
        decide (g.payloadType = k) = true)) = fun g => decide (g.payloadType = k) := by
      funext g
      by_cases hg : g.payloadType = k <;> simp [hg, hk]
    rw [if_neg hk, hsame]
    simp [Ne.symm hk]

theorem find?_keepMapping (maps : List Format) :
    (m.keepMapping maps n).find? (fun f => f.payloadType = k) =
      if k = n then (m.mapping? n).or (maps.find? fun f => f.payloadType = k)
      else maps.find? fun f => f.payloadType = k := by
  cases h : m.mapping? n with
  | none => simp [MediaSection.keepMapping, h]
  | some f =>
    have hf : f.payloadType = n := payloadType_of_mapping? m n h
    rw [MediaSection.keepMapping, h, Option.elim_some, find?_addMapping, hf]
    rfl

theorem get?_keepParameters (fmtps : ParameterMap) :
    (m.keepParameters fmtps n).get? k =
      if k = n then (m.fmtps.get? n).or (fmtps.get? k) else fmtps.get? k := by
  cases h : m.fmtps.get? n with
  | none => simp [MediaSection.keepParameters, h]
  | some text =>
    rw [MediaSection.keepParameters, h, Option.elim_some, ParameterMap.get?_insert]
    rfl

/-- An update of the numbers of a list, one after the other, reaches those in the list. -/
theorem lookup_foldl {α β : Type} {f : α → Option β} {g : α → UInt8 → α}
    {known : UInt8 → Option β}
    (hg : ∀ a n, f (g a n) = if k = n then (known n).or (f a) else f a)
    (ns : List UInt8) (a : α) :
    f (ns.foldl g a) = if k ∈ ns then (known k).or (f a) else f a := by
  induction ns generalizing a with
  | nil => simp
  | cons n ns ih =>
    rw [List.foldl_cons, ih, hg]
    by_cases hn : k = n
    · subst hn
      cases known k <;> simp
    · simp [hn]

end PayloadNumbers

/-! ## Sections -/

namespace MediaSection

variable (m : MediaSection) (n : UInt8)

theorem mapping?_normal :
    m.normal.mapping? n = if n ∈ m.payloadTypes then m.mapping? n else none := by
  have h := lookup_foldl n (f := fun maps : List Format => maps.find? fun g => g.payloadType = n)
    (fun maps k => find?_keepMapping m k n maps) m.payloadTypes []
  simpa [mapping?, normal] using h

theorem get?_normal :
    m.normal.fmtps.get? n = if n ∈ m.payloadTypes then m.fmtps.get? n else none := by
  have h := lookup_foldl n (f := fun fmtps : ParameterMap => fmtps.get? n)
    (fun fmtps k => get?_keepParameters m k n fmtps) m.payloadTypes ⟨[]⟩
  have hempty : (⟨[]⟩ : ParameterMap).get? n = none := rfl
  simpa [normal, hempty] using h

/-- A section says the same as another one about all that the other one lists, and nothing about
payload numbers that it does not list. All other fields are the same. -/
structure Normalizes (m m' : MediaSection) : Prop where
  fields : m' = { m with rtpmaps := m'.rtpmaps, fmtps := m'.fmtps }
  mapping : ∀ n ∈ m.payloadTypes, m'.mapping? n = m.mapping? n
  parameters : ∀ n ∈ m.payloadTypes, m'.fmtps.get? n = m.fmtps.get? n
  format : ∀ n ∈ m.payloadTypes, m'.format? n = m.format? n
  rtpmaps_listed : ∀ f ∈ m'.rtpmaps, f.payloadType ∈ m.payloadTypes
  fmtps_listed : ∀ e ∈ m'.fmtps.entries, e.1 ∈ m.payloadTypes

theorem normalizes_normal : m.Normalizes m.normal where
  fields := rfl
  mapping := by
    intro n hn
    rw [mapping?_normal, if_pos hn]
  parameters := by
    intro n hn
    rw [get?_normal, if_pos hn]
  format := by
    intro n hn
    rw [format?, format?, mapping?_normal, get?_normal, if_pos hn, if_pos hn]
  rtpmaps_listed := by
    -- What stands in the list is found in it.
    intro f hf
    by_contra hn
    have hnone : m.normal.mapping? f.payloadType = none := by rw [mapping?_normal, if_neg hn]
    simpa using List.find?_eq_none.1 hnone f hf
  fmtps_listed := by
    intro e he
    by_contra hn
    have hnone : m.normal.fmtps.get? e.1 = none := by rw [get?_normal, if_neg hn]
    simpa using List.lookup_eq_none_iff.1 hnone e he

/-- Normal forms are written like the sections that they are normal forms of. -/
theorem Normalizes.lines {m m' : MediaSection} (h : m.Normalizes m') : m'.lines = m.lines := by
  have hformats : m'.formats = m.formats := by rw [h.fields]
  have hnumbers : m'.payloadTypes = m.payloadTypes := by rw [payloadTypes, hformats, payloadTypes]
  have hlines : m'.payloadTypes.flatMap m'.formatLines = m.payloadTypes.flatMap m.formatLines := by
    rw [hnumbers]
    refine List.flatMap_congr fun n hn => ?_
    rw [formatLines, formatLines, h.mapping n hn, h.parameters n hn]
  simp only [MediaSection.lines, hlines]
  rw [h.fields]
  rfl

end MediaSection

/-! ## Descriptions -/

namespace Description

theorem text_normal (d : Description) : d.normal.text = d.text := by
  have hmedia : d.normal.media.flatMap MediaSection.lines = d.media.flatMap MediaSection.lines := by
    simp only [normal, List.flatMap_map]
    exact List.flatMap_congr fun m _ => m.normalizes_normal.lines
  rw [text, text, lines, lines, hmedia]
  rfl

/-- What was read from a text is written, and read again, in normal form. -/
theorem reading_of_writing {text : String} {d : Description} (h : ofText text = .ok d)
    (ha : HasAddresses text) :
    ∃ d', ofText d.text = .ok d' ∧ d'.text = d.text ∧ d' = { d with media := d'.media } ∧
      List.Forall₂ MediaSection.Normalizes d.media d'.media := by
  have hw : d.IsWritable := isWritable_of_ofText h ha
  refine ⟨d.normal, ofText_text hw, d.text_normal, rfl, ?_⟩
  rw [normal, List.forall₂_map_right_iff]
  exact List.forall₂_same.2 fun m _ => m.normalizes_normal

/-- Parts of a text in an odd order: fields of the session behind attributes, a section with
mappings that it does not list and with two for one payload number, and line ends of three kinds. -/
def shuffled : List String :=
  ["t=0 0 later\n", "s= ", "a=tool:x: y", "v= 0\r", "o=-  7 1 NET\tIP4 192.0.2.1",
    "m=audio 4000/2 RTP/AVP 97 +0 x", "a=fmtp:97  useinbandfec=1 ", "b=AS:64",
    "a=rtpmap:9 G722/8000", "a=rtpmap:97 opus/48000", "a=SENDONLY", "c=IN IP4 192.0.2.7/127",
    "a=rtpmap:97  opus/48000/2", "a=ice-pwd: p", "a=send_only"]

theorem reading_of_writing_shuffled :
    let text := String.join (shuffled.map (· ++ "\r\n"))
    ∃ d, ofText text = .ok d ∧ HasAddresses text ∧ d.media.length = 1 ∧
      ∃ d', ofText d.text = .ok d' ∧ d'.text = d.text ∧ d' = { d with media := d'.media } ∧
        List.Forall₂ MediaSection.Normalizes d.media d'.media := by
  intro text
  have hread : ∃ d, ofText text = .ok d ∧ d.media.length = 1 := by
    rw [ofText_join]
    have hone : (((shuffled.flatMap fun l => linesOf (l.toList ++ ['\r'])).foldlM line {} >>=
        finish).toOption.map fun d => d.media.length) = some 1 := by decide +kernel
    cases hr : (shuffled.flatMap fun l => linesOf (l.toList ++ ['\r'])).foldlM line {} >>= finish with
    | error e => simp [hr, Except.toOption] at hone
    | ok d => exact ⟨d, rfl, by simpa [hr, Except.toOption] using hone⟩
  have ha : HasAddresses text := by
    rw [HasAddresses, linesOf_join]
    decide +kernel
  obtain ⟨d, hd, hone⟩ := hread
  exact ⟨d, hd, ha, hone, reading_of_writing hd ha⟩

/-- An address that is nothing but a slash and a count is read as an empty one, and then there is no
word for it in the written form. -/
example : (ofText "v=0\no=- 1 1 IN IP4 h\ns=-\nt=0 0\nc=IN IP4 /24").bind (fun d => ofText d.text) =
    .error (.malformed 'c' "c=IN IP4 ") := by
  decide +kernel

end Description

end MediaGateway.Sdp
