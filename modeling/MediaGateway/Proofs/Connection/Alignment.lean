import MediaGateway.Connection.Call
import MediaGateway.Proofs.Sdp.Building
import Mathlib.Data.List.Sort

/-!
# Answers in the order of the offer

While the sections of an offer are gone through, the accepted ones and the refused ones are gathered
apart, each with its place. The answer is first made of all accepted sections with the refusals behind
them, and only then put in the order of the offer.

What comes of this is the answer that has for each section of the offer, in its place, what was
contributed to it. Every section that is gone through adds its place to one of the two lists, so that
together the lists have all places once; and there is one order in which the places go up.
-/

namespace MediaGateway.Call

/-! ## Contributions in their places -/

/-- Goes through the sections of an offer. The result has for each section what the session that
answers it contributes, or nothing if the section is refused. Going on with the next section only adds
to it. -/
def answerSections (w : Surroundings) (d : Sdp.Description) :
    List Sdp.MediaSection → List MediaType → Call → PortRange →
      Except SessionError (List (Option Sdp.LocalMedia)) × Call × PortRange
  | [], _, c, ports => (.ok [], c, ports)
  | m :: rest, answered, c, ports =>
    let goOn (l : Option Sdp.LocalMedia) (c : Call) (ports : PortRange) :=
      let r := answerSections w d rest ((answeredMedium? answered m).toList ++ answered) c ports
      (r.1.map (l :: ·), r.2)
    match (answeredMedium? answered m).bind c.session? with
    | none => goOn none c ports
    | some s =>
      match s.prepareAnswer (c.around w) ports d m with
      | (.ok l, s, ports) => goOn (some l) (c.withSession s) ports
      | (.error e, s, ports) =>
        if s.media ≠ .audio ∧ e.isNegotiation then goOn none (c.withSession s.close) ports
        else (.error e, c.withSession s, ports)

/-- The section of an answer for an offered one. -/
def answerSection (b : Sdp.Builder) (cname : String) (m : Sdp.MediaSection) :
    Option Sdp.LocalMedia → Sdp.MediaSection
  | some l => b.mediaSection false cname l
  | none => Sdp.Builder.rejection m

/-- The answer that has in each place what was contributed to the section there. -/
def alignedAnswer (c : Call) (w : Surroundings) (d : Sdp.Description)
    (locals : List (Option Sdp.LocalMedia)) : Sdp.Description :=
  { c.builder.build w.descriptionId false c.exchange.cname (locals.filterMap id) with
    media := d.media.zipWith (answerSection c.builder c.exchange.cname) locals }

/-! ## Sorting -/

section Sorting

variable {α : Type} {xs ys : List (Nat × α)}

theorem sortPlaced_eq_insertionSort (xs : List (Nat × α)) :
    sortPlaced xs = xs.insertionSort fun x y => x.1 ≤ y.1 := by
  have hinsert (x : Nat × α) (ys : List (Nat × α)) :
      insertPlaced x ys = ys.orderedInsert (fun x y => x.1 ≤ y.1) x := by
    induction ys with
    | nil => rfl
    | cons y ys ih => rw [insertPlaced, List.orderedInsert_cons, ih]
  induction xs with
  | nil => rfl
  | cons x xs ih =>
    rw [List.insertionSort_cons, ← ih, ← hinsert]
    rfl

/-- Sorting what comes in any order gives the order in which the places go up. -/
theorem sortPlaced_of_perm (h : xs.Perm ys) (hys : (ys.map Prod.fst).Pairwise (· < ·)) :
    sortPlaced xs = ys := by
  let before : Nat × α → Nat × α → Prop := fun x y => x.1 ≤ y.1
  have : Std.Total before := ⟨fun x y => Nat.le_total x.1 y.1⟩
  have : IsTrans (Nat × α) before := ⟨fun _ _ _ => Nat.le_trans⟩
  have hsorted : (xs.insertionSort before).Pairwise before := List.pairwise_insertionSort before xs
  have hperm : (xs.insertionSort before).Perm ys := (List.perm_insertionSort before xs).trans h
  have hup : ys.Pairwise before := (List.pairwise_map.1 hys).imp Nat.le_of_lt
  have hplaces : (ys.map Prod.fst).Nodup := hys.imp Nat.ne_of_lt
  rw [sortPlaced_eq_insertionSort]
  refine hperm.eq_of_pairwise (fun x y hx hy hxy hyx => ?_) hsorted hup
  exact List.inj_on_of_nodup_map hplaces (hperm.mem_iff.1 hx) hy (Nat.le_antisymm hxy hyx)

end Sorting

/-! ## What was gathered -/

namespace Answering

/-- The sections of the answer with their places, as they come before they are put in order. -/
def sections (a : Answering) (b : Sdp.Builder) (cname : String) (offered : List Sdp.MediaSection) :
    List (Nat × Sdp.MediaSection) :=
  a.accepted.map (fun x => (x.1, b.mediaSection false cname x.2)) ++
    a.refused.filterMap fun place => offered[place]?.map fun m => (place, Sdp.Builder.rejection m)

/-- After the first sections of an offer were gone through, the sections of the answer so far are, in
some order, those that are made of the contributions. -/
structure Gathers (a : Answering) (offered : List Sdp.MediaSection)
    (locals : List (Option Sdp.LocalMedia)) : Prop where
  within : locals.length ≤ offered.length
  contributions : a.accepted.map Prod.snd = locals.filterMap id
  refused : ∀ place ∈ a.refused, place < offered.length
  sections : ∀ b cname, (a.sections b cname offered).Perm
    ((List.range locals.length).zip (offered.zipWith (answerSection b cname) locals))

variable {a : Answering} {offered : List Sdp.MediaSection} {m : Sdp.MediaSection}
  {locals : List (Option Sdp.LocalMedia)} {l : Sdp.LocalMedia} {b : Sdp.Builder} {cname : String}

theorem Gathers.nothing (offered : List Sdp.MediaSection) : Gathers {} offered [] where
  within := Nat.zero_le _
  contributions := rfl
  refused := fun _ h => absurd h List.not_mem_nil
  sections := fun _ _ => by simp [Answering.sections]

theorem zipWith_concat {α β γ : Type} (f : α → β → γ) {xs : List α} {ys : List β} {x : α}
    (h : xs[ys.length]? = some x) (y : β) :
    xs.zipWith f (ys ++ [y]) = xs.zipWith f ys ++ [f x y] := by
  induction ys generalizing xs with
  | nil =>
    cases xs with
    | nil => cases h
    | cons first rest =>
      obtain rfl : first = x := Option.some.inj h
      simp
  | cons y' ys ih =>
    cases xs with
    | nil => cases h
    | cons first rest => exact congrArg (f first y' :: ·) (ih h)

/-- One more contribution makes one more section, which stands last. -/
theorem zip_range_concat (hwithin : locals.length ≤ offered.length)
    (hm : offered[locals.length]? = some m) (l? : Option Sdp.LocalMedia) :
    (List.range (locals ++ [l?]).length).zip
        (offered.zipWith (answerSection b cname) (locals ++ [l?])) =
      (List.range locals.length).zip (offered.zipWith (answerSection b cname) locals) ++
        [(locals.length, answerSection b cname m l?)] := by
  have hlength : (List.range locals.length).length =
      (offered.zipWith (answerSection b cname) locals).length := by
    rw [List.length_range, List.length_zipWith, Nat.min_eq_right hwithin]
  rw [zipWith_concat _ hm, List.length_append, List.length_singleton, List.range_succ,
    List.zip_append hlength]
  rfl

/-- A section that is accepted comes before the refusals. -/
theorem Gathers.accept (h : a.Gathers offered locals) (hm : offered[locals.length]? = some m)
    (l : Sdp.LocalMedia) :
    (a.accept locals.length l).Gathers offered (locals ++ [some l]) where
  within := by
    obtain ⟨hlt, -⟩ := List.getElem?_eq_some_iff.1 hm
    rw [List.length_append]
    exact hlt
  contributions := by
    simp [Answering.accept, h.contributions]
  refused := h.refused
  sections := fun b cname => by
    rw [zip_range_concat h.within hm]
    have hlast : ((a.accept locals.length l).sections b cname offered).Perm
        (a.sections b cname offered ++ [(locals.length, b.mediaSection false cname l)]) := by
      simp only [Answering.sections, Answering.accept, List.map_append, List.append_assoc]
      exact List.perm_append_comm.append_left _
    exact hlast.trans ((h.sections b cname).append_right _)

theorem Gathers.refuse (h : a.Gathers offered locals) (hm : offered[locals.length]? = some m) :
    (a.refuse locals.length).Gathers offered (locals ++ [none]) where
  within := by
    obtain ⟨hlt, -⟩ := List.getElem?_eq_some_iff.1 hm
    rw [List.length_append]
    exact hlt
  contributions := by
    simp [Answering.refuse, h.contributions]
  refused := fun place hplace => by
    obtain ⟨hlt, -⟩ := List.getElem?_eq_some_iff.1 hm
    rcases List.mem_append.1 hplace with hbefore | hlast
    · exact h.refused place hbefore
    · exact List.mem_singleton.1 hlast ▸ hlt
  sections := fun b cname => by
    rw [zip_range_concat h.within hm]
    have hlast : (a.refuse locals.length).sections b cname offered =
        a.sections b cname offered ++ [(locals.length, Sdp.Builder.rejection m)] := by
      simp [Answering.sections, Answering.refuse, hm]
    rw [hlast]
    exact (h.sections b cname).append_right _

/-- Places of sections go with the refusals of these sections. -/
theorem zip_rejections {places : List Nat} (h : ∀ place ∈ places, place < offered.length) :
    places.zip ((places.filterMap (offered[·]?)).map Sdp.Builder.rejection) =
      places.filterMap fun place =>
        offered[place]?.map fun m => (place, Sdp.Builder.rejection m) := by
  induction places with
  | nil => rfl
  | cons place places ih =>
    have hplace := List.getElem?_eq_getElem (h place List.mem_cons_self)
    have hrest := ih fun p hp => h p (List.mem_cons_of_mem place hp)
    simp [hplace, hrest]

end Answering

/-! ## Going through the sections -/

open Answering

variable {a : Answering} {c : Call} {w : Surroundings} {d : Sdp.Description}
  {before : List (Option Sdp.LocalMedia)} {l? : Option Sdp.LocalMedia}

/-- Going on after the first sections comes to the same end, whether contributions are listed or
sections are gathered. -/
inductive SameEnd (d : Sdp.Description) (before : List (Option Sdp.LocalMedia)) :
    Except SessionError (List (Option Sdp.LocalMedia)) × Call × PortRange →
      Except SessionError Answering × Call × PortRange → Prop
  | ok {locals a r} (h : Gathers a d.media (before ++ locals)) :
      SameEnd d before (.ok locals, r) (.ok a, r)
  | error {e r} : SameEnd d before (.error e, r) (.error e, r)

/-- Going on one section later is going on with one more contribution. -/
theorem SameEnd.goOn {x : Except SessionError (List (Option Sdp.LocalMedia)) × Call × PortRange}
    {y : Except SessionError Answering × Call × PortRange} (h : SameEnd d (before ++ [l?]) x y) :
    SameEnd d before (x.1.map (l? :: ·), x.2) y := by
  cases h with
  | ok h =>
    rw [List.append_assoc] at h
    exact .ok h
  | error => exact .error

/-- By induction on the sections that are left. -/
theorem sameEnd_answerFrom {ms : List Sdp.MediaSection} (answered : List MediaType)
    (ports : PortRange) (h : Gathers a d.media before)
    (hms : d.media.drop before.length = ms) :
    SameEnd d before (answerSections w d ms answered c ports)
      (answerFrom w d ms before.length answered a c ports) := by
  induction ms generalizing before answered a c ports with
  | nil => exact .ok (by rwa [List.append_nil])
  | cons m rest ih =>
    have hm : d.media[before.length]? = some m := by
      rw [← Nat.add_zero before.length, ← List.getElem?_drop, hms]
      rfl
    have hrest (l? : Option Sdp.LocalMedia) : d.media.drop (before ++ [l?]).length = rest := by
      rw [List.length_append, List.length_singleton, ← List.drop_drop, hms]
      rfl
    have hlength (l? : Option Sdp.LocalMedia) : before.length + 1 = (before ++ [l?]).length := by
      rw [List.length_append, List.length_singleton]
    rw [answerSections]
    simp only [answerFrom]
    cases (answeredMedium? answered m).bind c.session? with
    | none =>
      simp only
      rw [hlength none]
      exact (ih _ _ (h.refuse hm) (hrest none)).goOn
    | some s =>
      simp only
      rcases s.prepareAnswer (c.around w) ports d m with ⟨e | l, s', ports'⟩
      · by_cases hrefuse : s'.media ≠ .audio ∧ e.isNegotiation
        · simp only [if_pos hrefuse]
          rw [hlength none]
          exact (ih _ _ (h.refuse hm) (hrest none)).goOn
        · simp only [if_neg hrefuse]
          exact .error
      · simp only
        rw [hlength (some l)]
        exact (ih _ _ (h.accept hm l) (hrest (some l))).goOn

/-! ## The answer -/

variable {locals : List (Option Sdp.LocalMedia)}

/-- What is built of the accepted sections and of the refusals are the sections that were gathered, in
the same order as their places. -/
theorem order_zip_media (h : a.Gathers d.media locals) (b : Sdp.Builder) (id cname : String) :
    a.order.zip (((a.refused.filterMap (d.media[·]?)).foldl Sdp.Builder.reject
        (b.build id false cname (a.accepted.map Prod.snd))).media) =
      a.sections b cname d.media := by
  have haccepted : (a.accepted.map Prod.fst).length =
      ((a.accepted.map Prod.snd).map (b.mediaSection false cname)).length := by
    simp only [List.length_map]
  rw [Sdp.Builder.foldl_reject]
  show (a.accepted.map Prod.fst ++ a.refused).zip
    ((a.accepted.map Prod.snd).map (b.mediaSection false cname) ++ _) = _
  rw [List.zip_append haccepted, zip_rejections h.refused, List.map_map, List.zip_map']
  rfl

/-- The answer that is put in order has what was contributed to each section of the offer in its
place. -/
theorem assembleAnswer_eq (h : a.Gathers d.media locals) :
    c.assembleAnswer w d a = c.alignedAnswer w d locals := by
  let made := d.media.zipWith (answerSection c.builder c.exchange.cname) locals
  have hmade : made.length = locals.length := by
    rw [List.length_zipWith, Nat.min_eq_right h.within]
  have hplaces : (((List.range locals.length).zip made).map Prod.fst).Pairwise (· < ·) := by
    rw [List.map_fst_zip (by rw [List.length_range, hmade])]
    exact List.pairwise_lt_range
  have hsections : (sortPlaced (a.sections c.builder c.exchange.cname d.media)).map Prod.snd =
      made := by
    rw [sortPlaced_of_perm (h.sections c.builder c.exchange.cname) hplaces]
    exact List.map_snd_zip (by rw [List.length_range, hmade])
  simp only [assembleAnswer, order_zip_media h, hsections]
  rw [Sdp.Builder.foldl_reject, h.contributions]
  rfl

/-- The call when it has begun to answer an offer. -/
def called (c : Call) : Call := { c with exchange := { c.exchange with outbound := false } }

/-- An offer that can be read is answered section by section. -/
theorem answerOffer_eq (c : Call) (w : Surroundings) (ports : PortRange) (text : String) :
    c.answerOffer w ports text =
      match readRemote text with
      | .error e => (.error e, c, ports)
      | .ok (d, _) =>
        match answerSections w d d.media [] c.called ports with
        | (.error e, c, ports) => (.error e, c, ports)
        | (.ok locals, c, ports) =>
          let answer := c.alignedAnswer w d locals
          (.ok answer,
            { c with exchange := { c.exchange with
                localDescription := some answer, remoteDescription := some d } }, ports) := by
  unfold answerOffer
  cases readRemote text with
  | error e => rfl
  | ok r =>
    obtain ⟨d, m⟩ := r
    have hend : SameEnd d [] (answerSections w d d.media [] c.called ports)
        (answerFrom w d d.media 0 [] {} c.called ports) :=
      sameEnd_answerFrom [] ports (Gathers.nothing d.media) rfl
    unfold called at hend ⊢
    simp only
    generalize answerSections w d d.media [] _ ports = x at hend ⊢
    generalize answerFrom w d d.media 0 [] {} _ ports = y at hend ⊢
    cases hend with
    | error => rfl
    | ok h =>
      simp only
      rw [assembleAnswer_eq h]
      rfl

end MediaGateway.Call
