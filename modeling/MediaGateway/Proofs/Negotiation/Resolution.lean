import MediaGateway.Proofs.Sdp.Paragraphs
import MediaGateway.Proofs.Session.Run

/-!
# What the payload numbers of a section are resolved to

A section offers a format for each number that it lists and that has a meaning, which is the one that
the section explains it with or, if it does not, the one that the profile fixes. Parameters come with
explanations only: if a number is left to the profile, its parameters are not looked at. From there on
nothing is lost, since agreements and answers take formats as they are offered.
-/

namespace MediaGateway

namespace FormatTable

/-- Formats that are added come behind those that are there, each number where it comes first. -/
theorem payloadTypes_addAll (t : FormatTable) (fs : List Format) :
    (t.addAll fs).payloadTypes = t.payloadTypes ++
      ((fs.map Format.payloadType).filter fun n => n ∉ t.payloadTypes).eraseDups := by
  induction fs generalizing t with
  | nil => simp [addAll]
  | cons f rest ih =>
    have hstep : t.addAll (f :: rest) = (t.add f).addAll rest := rfl
    rw [hstep, ih, payloadTypes_add]
    by_cases hf : f.payloadType ∈ t.payloadTypes
    · simp [hf]
    · rw [if_neg hf, List.map_cons, List.filter_cons_of_pos (by simpa using hf),
        List.eraseDups_cons, List.filter_filter, List.append_assoc]
      have hboth : (fun n => decide (n ∉ t.payloadTypes ++ [f.payloadType])) =
          fun n => (!n == f.payloadType) && decide (n ∉ t.payloadTypes) := by
        funext n
        by_cases hn : n = f.payloadType <;> simp [hn]
      rw [hboth]
      rfl

theorem payloadTypes_ofList (fs : List Format) :
    (ofList fs).payloadTypes = (fs.map Format.payloadType).eraseDups := by
  rw [ofList, payloadTypes_addAll]
  simp [empty, payloadTypes]

end FormatTable

/-- The profile knows no parameters. -/
theorem Profile.parameters_of_staticFormat? {media : MediaType} {n : UInt8} {f : Format}
    (h : staticFormat? media n = some f) : f.parameters = none := by
  unfold staticFormat? at h
  split at h
  · have hmem : f ∈ (formats media).toList := List.mem_of_find?_eq_some h
    have hnone : ∀ g ∈ (formats media).toList, g.parameters = none := by
      cases media <;> decide +kernel
    exact hnone f hmem
  · cases h

namespace Sdp

/-- What the profile fixes for a payload number of a paragraph. -/
def Paragraph.static? (p : Paragraph) (payloadType : UInt8) : Option Format :=
  Profile.staticFormat? (p.medium?.getD .application) payloadType

/-- What a section offers is what a paragraph says, apart from parameters. -/
structure MediaSection.OffersAs (m : MediaSection) (p : Paragraph) : Prop where
  /-- The numbers are those that are listed and have a meaning, each where it is listed first. -/
  numbers : m.offered.payloadTypes = (p.payloadTypes.filter fun n =>
    (p.mapping? n).isSome || (p.static? n).isSome).eraseDups
  /-- What is explained is offered as it is explained, with its parameters. -/
  explained : ∀ f ∈ m.offered.toList, ∀ g, p.mapping? f.payloadType = some g →
    f = { g with parameters := p.parameters? f.payloadType }
  /-- What is not is offered as in the profile, which gives it no parameters. -/
  unexplained : ∀ f ∈ m.offered.toList, p.mapping? f.payloadType = none →
    p.static? f.payloadType = some f ∧ f.parameters = none
  /-- So the parameters that are given come along exactly where there is an explanation as well. -/
  parameters : ∀ f ∈ m.offered.toList, (f.parameters = p.parameters? f.payloadType ↔
    (p.mapping? f.payloadType).isSome = true ∨ p.parameters? f.payloadType = none)

namespace MediaSection

variable {m : MediaSection} {p : Paragraph}

theorem payloadTypes_offered (m : MediaSection) : m.offered.payloadTypes =
    (m.payloadTypes.filter fun n => (m.resolve? n).isSome).eraseDups := by
  have hnumbers : (m.payloadTypes.filterMap m.resolve?).map Format.payloadType =
      m.payloadTypes.filter fun n => (m.resolve? n).isSome := by
    induction m.payloadTypes with
    | nil => rfl
    | cons n ns ih =>
      cases hn : m.resolve? n with
      | none => simp [hn, ih]
      | some f => simp [hn, ih, payloadType_of_resolve? hn]
  rw [offered, FormatTable.payloadTypes_ofList, hnumbers]

theorem Says.payloadTypes (h : m.Says p) : m.payloadTypes = p.payloadTypes := by
  rw [MediaSection.payloadTypes, h.formats]
  rfl

/-- A number is resolved by its explanation, with its parameters, or else by the profile. -/
theorem Says.resolve? (h : m.Says p) (n : UInt8) :
    m.resolve? n = ((p.mapping? n).map fun g => { g with parameters := p.parameters? n }).or
      (p.static? n) := by
  rw [MediaSection.resolve?, format?, h.mappings, h.parameters, h.medium]
  rfl

theorem Says.offersAs (h : m.Says p) : m.OffersAs p := by
  have hresolved : ∀ f ∈ m.offered.toList, m.resolve? f.payloadType = some f := fun f hf =>
    (mem_offered hf).2
  have hexplained : ∀ f ∈ m.offered.toList, ∀ g, p.mapping? f.payloadType = some g →
      f = { g with parameters := p.parameters? f.payloadType } := by
    intro f hf g hg
    have hf := hresolved f hf
    rw [h.resolve?, hg] at hf
    exact (Option.some.inj hf).symm
  have hunexplained : ∀ f ∈ m.offered.toList, p.mapping? f.payloadType = none →
      p.static? f.payloadType = some f ∧ f.parameters = none := by
    intro f hf hnone
    have hf := hresolved f hf
    rw [h.resolve?, hnone] at hf
    exact ⟨hf, Profile.parameters_of_staticFormat? hf⟩
  refine ⟨?_, hexplained, hunexplained, ?_⟩
  · rw [payloadTypes_offered, h.payloadTypes]
    congr 1
    refine List.filter_congr fun n _ => ?_
    rw [h.resolve?, Option.isSome_or, Option.isSome_map]
  · intro f hf
    cases hmapping : p.mapping? f.payloadType with
    | some g =>
      have hg := congrArg Format.parameters (hexplained f hf g hmapping)
      simpa using hg
    | none =>
      rw [(hunexplained f hf hmapping).2]
      simp [eq_comm]

end MediaSection

end Sdp

namespace MediaSession

variable {s : MediaSession} {formats : FormatTable}

/-- A session that has agreed on formats says so in its answers, with their parameters. -/
structure AnswersWith (s : MediaSession) (formats : FormatTable) : Prop where
  /-- It holds the formats, -/
  negotiated : s.negotiated = formats
  /-- and its section in an answer offers them, each with its own parameters. -/
  answers : ∀ l, s.localMedia false = .ok l → ∀ (b : Sdp.Builder) id cname before after, ∃ a,
    (b.build id false cname (before ++ l :: after)).media[before.length]? = some a ∧
    a.offered = formats ∧ ∀ f ∈ formats.toList, a.fmtps.get? f.payloadType = f.parameters

theorem answersWith_of_distinct (hd : formats.Distinct) (h : s.negotiated = formats) :
    s.AnswersWith formats := by
  refine ⟨h, fun l hl b id cname before after => ?_⟩
  have hformats : l.formats = formats := (contribution_of_localMedia hl).2.2.trans h
  have hlisted : Sdp.Builder.listed false l = formats := by
    rw [Sdp.Builder.listed_answer, hformats]
  have hlists : (b.mediaSection false cname l).Lists formats :=
    hlisted ▸ Sdp.Builder.lists_mediaSection b false cname l
  exact ⟨_, Sdp.Builder.getElem?_build b id false cname before after l, hlists.offered hd,
    fun f hf => hlists.get? hd hf⟩

end MediaSession

namespace Sdp

/-- The sections of a description offer what the paragraphs of its text say, but numbers that are left
to the profile have no parameters. What is agreed on with a section is offered by it, and answers say
it as it is, with its parameters. -/
theorem resolution_of_payload_numbers {text : String} {d : Description}
    (h : Description.ofText text = .ok d) :
    List.Forall₂ MediaSection.OffersAs d.media (Paragraph.ofText text) ∧
    ∀ m ∈ d.media,
      (∀ (n : Negotiator) formats, n.negotiate m = .ok formats →
        ∀ f ∈ formats.toList, f ∈ m.offered.toList) ∧
      ∀ (s : MediaSession) formats s', s.negotiate d m = (.ok formats, s') →
        s.negotiator.negotiate m = .ok formats ∧ s'.AnswersWith formats := by
  refine ⟨(says_of_ofText h).imp fun _ _ => MediaSection.Says.offersAs, fun m _ => ⟨?_, ?_⟩⟩
  · intro n formats hn
    obtain ⟨media, event, hagree⟩ := Negotiator.select_ok (FormatTable.distinct_ofList _) hn
    exact hagree.offered
  · intro s formats s' hs
    obtain ⟨rtp, rtcp, hterms, rfl⟩ := MediaSession.adopt_of_negotiate hs
    have hn := (MediaSession.terms_ok hterms).1
    obtain ⟨media, event, hagree⟩ := Negotiator.select_ok (FormatTable.distinct_ofList _) hn
    exact ⟨hn, MediaSession.answersWith_of_distinct hagree.distinct rfl⟩

/-- Parameters are given before the number is explained, a number of the profile is explained in another
way, one is listed twice, and one has no meaning. -/
theorem resolution_of_payload_numbers_shuffled :
    let text := "v=0\no=- 1 1 IN IP4 127.0.0.1\ns=-\nc=IN IP4 127.0.0.1\nt=0 0\n" ++
      "m=audio 4000 RTP/AVP 97 x 0 97 18 96\n" ++
      "a=fmtp:97 mode=20\na=rtpmap:0 L16/8000\na=rtpmap:97 iLBC/8000"
    let speech : Format := { Format.make 97 "iLBC" 8000 with parameters := some "mode=20" }
    let s := MediaSession.make ⟨1, .audio⟩ ⟨.default, .ofList [.make 0 "iLBC" 8000], none⟩ default
    ∃ d m p, Description.ofText text = .ok d ∧ d.media = [m] ∧ Paragraph.ofText text = [p] ∧
      m.OffersAs p ∧ p.parameters? 97 = some "mode=20" ∧
      m.offered.toList = [speech, .make 0 "L16" 8000, .make 18 "G729" 8000] ∧
      ∃ s', s.negotiate d m = (.ok ⟨[speech]⟩, s') ∧ s'.AnswersWith ⟨[speech]⟩ := by
  intro text speech s
  let m : MediaSection :=
    { media := "audio", port := 4000, protocol := "RTP/AVP"
      formats := ["97", "x", "0", "97", "18", "96"]
      rtpmaps := [.make 0 "L16" 8000, .make 97 "iLBC" 8000], fmtps := ⟨[(97, "mode=20")]⟩ }
  let d : Description :=
    { origin := .make "1" "127.0.0.1", sessionName := "-", connection := some (.make "127.0.0.1")
      media := [m] }
  have hd : Description.ofText text = .ok d := by decide +kernel
  have hparameters : (Paragraph.ofText text).map (fun p => p.parameters? 97) =
      [some "mode=20"] := by
    decide +kernel
  obtain ⟨p, hp⟩ : ∃ p, Paragraph.ofText text = [p] :=
    List.length_eq_one_iff.1 (by simpa using congrArg List.length hparameters)
  obtain ⟨hoffers, hsections⟩ := resolution_of_payload_numbers hd
  rw [hp] at hoffers
  have hm : m.OffersAs p := by
    cases hoffers with
    | cons hm _ => exact hm
  have hn : s.negotiate d m = (.ok ⟨[speech]⟩, (s.negotiate d m).2) := by
    refine Prod.ext (ok_of_toOption ?_) rfl
    decide +kernel
  have hanswers := (hsections m List.mem_cons_self).2 s _ _ hn
  refine ⟨d, m, p, hd, rfl, hp, hm, ?_, ?_, _, hn, hanswers.2⟩
  · simpa [hp] using hparameters
  · decide +kernel

/-- The parameters of a number that is left to the profile are read, and are neither offered nor agreed
on nor answered. -/
theorem parameters_of_profile_are_lost :
    let text := "v=0\no=- 1 1 IN IP4 127.0.0.1\ns=-\nc=IN IP4 127.0.0.1\nt=0 0\n" ++
      "m=audio 4000 RTP/AVP 18\na=fmtp:18 annexb=no"
    let m : MediaSection :=
      { media := "audio", port := 4000, protocol := "RTP/AVP", formats := ["18"]
        fmtps := ⟨[(18, "annexb=no")]⟩ }
    let d : Description :=
      { origin := .make "1" "127.0.0.1", sessionName := "-", connection := some (.make "127.0.0.1")
        media := [m] }
    let config : SessionConfig := ⟨.default, .ofList [.make 18 "G729" 8000], none⟩
    let s := (MediaSession.make ⟨1, .audio⟩ config default).run
      [.openOn ⟨.isolated, .loopback, []⟩ (.make 0 0), .negotiate d m]
    Description.ofText text = .ok d ∧ m.fmtps.get? 18 = some "annexb=no" ∧
    m.offered.toList.map Format.parameters = [none] ∧
    s.negotiated.toList.map Format.parameters = [none] ∧
    (s.localMedia false).toOption.map (fun l =>
      ((Builder.make "127.0.0.1" none).build "0" false "1" [l]).media.map
        fun a => a.fmtps.get? 18) = some [none] := by
  decide +kernel

end Sdp

end MediaGateway
