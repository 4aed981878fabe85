import MediaGateway.Format.Table
import Mathlib.Data.List.Nodup

/-!
# Format tables as ordered maps

Payload numbers in a table are distinct however it was made from formats, so formats with distinct
numbers make up a table in which they all are, in their order.
-/

namespace MediaGateway

/-! ## The same encoding -/

namespace Format

variable {f g h : Format}

theorem sameEncoding_iff : f.sameEncoding g = true ↔ f.encoding.toLower = g.encoding.toLower ∧
    f.clockRate = g.clockRate ∧ f.channels = g.channels := by
  simp [sameEncoding, and_assoc]

theorem sameEncoding_refl (f : Format) : f.sameEncoding f = true :=
  sameEncoding_iff.2 ⟨rfl, rfl, rfl⟩

theorem sameEncoding_symm (hfg : f.sameEncoding g = true) : g.sameEncoding f = true := by
  obtain ⟨hname, hrate, hchannels⟩ := sameEncoding_iff.1 hfg
  exact sameEncoding_iff.2 ⟨hname.symm, hrate.symm, hchannels.symm⟩

theorem sameEncoding_trans (hfg : f.sameEncoding g = true) (hgh : g.sameEncoding h = true) :
    f.sameEncoding h = true := by
  obtain ⟨hname, hrate, hchannels⟩ := sameEncoding_iff.1 hfg
  obtain ⟨hname', hrate', hchannels'⟩ := sameEncoding_iff.1 hgh
  exact sameEncoding_iff.2
    ⟨hname.trans hname', hrate.trans hrate', hchannels.trans hchannels'⟩

/-- Whether payloads are telephone events is a matter of their encoding. -/
theorem isTelephoneEvent_congr (hfg : f.sameEncoding g = true) :
    f.isTelephoneEvent = g.isTelephoneEvent := by
  simp only [isTelephoneEvent, Text.sameUpToCase, (sameEncoding_iff.1 hfg).1]

end Format

/-! ## Tables -/

namespace FormatTable

variable {t : FormatTable} {f : Format}

/-- No payload number is there twice. -/
def Distinct (t : FormatTable) : Prop := t.payloadTypes.Nodup

instance : Decidable t.Distinct := inferInstanceAs (Decidable (List.Nodup _))

theorem distinct_empty : empty.Distinct := .nil

/-! ## Adding formats -/

/-- A format gets the place of the one with its payload number, or the last place. -/
theorem payloadTypes_add (t : FormatTable) (f : Format) :
    (t.add f).payloadTypes =
      if f.payloadType ∈ t.payloadTypes then t.payloadTypes
      else t.payloadTypes ++ [f.payloadType] := by
  obtain ⟨formats⟩ := t
  simp only [payloadTypes, add]
  induction formats with
  | nil => rfl
  | cons g rest ih =>
    simp only [insertInto, List.map_cons, List.mem_cons]
    by_cases h : g.payloadType = f.payloadType
    · simp [h]
    · have h' : f.payloadType ≠ g.payloadType := Ne.symm h
      rw [if_neg h, List.map_cons, ih]
      simp only [h', false_or]
      split <;> simp_all

theorem mem_add {g : Format} (h : g ∈ (t.add f).toList) : g = f ∨ g ∈ t.toList := by
  obtain ⟨formats⟩ := t
  simp only [add] at h
  induction formats with
  | nil => exact .inl (by simpa [insertInto] using h)
  | cons e rest ih =>
    simp only [insertInto] at h
    split at h
    · exact (List.mem_cons.1 h).imp_right (List.mem_cons_of_mem _)
    · rcases List.mem_cons.1 h with rfl | h
      · exact .inr List.mem_cons_self
      · exact (ih h).imp_right (List.mem_cons_of_mem _)

/-- Formats with other payload numbers do not notice that a format is added. -/
theorem filter_add (t : FormatTable) (f : Format) :
    (t.add f).toList.filter (fun g => g.payloadType ≠ f.payloadType) =
      t.toList.filter fun g => g.payloadType ≠ f.payloadType := by
  obtain ⟨formats⟩ := t
  show (insertInto f formats).filter _ = formats.filter _
  induction formats with
  | nil => simp [insertInto]
  | cons g rest ih =>
    unfold insertInto
    by_cases hg : g.payloadType = f.payloadType
    · simp [hg]
    · simp only [if_neg hg, List.filter_cons, ih]

theorem mem_add_self (t : FormatTable) (f : Format) : f ∈ (t.add f).toList := by
  obtain ⟨formats⟩ := t
  show f ∈ insertInto f formats
  induction formats with
  | nil => exact List.mem_cons_self
  | cons g rest ih =>
    unfold insertInto
    split
    · exact List.mem_cons_self
    · exact List.mem_cons_of_mem g ih

theorem mem_addAll {g : Format} {fs : List Format} (h : g ∈ (t.addAll fs).toList) :
    g ∈ fs ∨ g ∈ t.toList := by
  induction fs generalizing t with
  | nil => exact .inr h
  | cons f rest ih =>
    rcases ih h with hrest | hadd
    · exact .inl (List.mem_cons_of_mem f hrest)
    · rcases mem_add hadd with rfl | ht
      · exact .inl List.mem_cons_self
      · exact .inr ht

theorem mem_ofList {fs : List Format} (h : f ∈ (ofList fs).toList) : f ∈ fs :=
  (mem_addAll h).resolve_right List.not_mem_nil

theorem Distinct.add (h : t.Distinct) (f : Format) : (t.add f).Distinct := by
  simp only [Distinct, payloadTypes_add]
  split
  · exact h
  · rename_i hf
    exact List.nodup_append.2 ⟨h, by simp, by rintro _ ha _ hb rfl; simp_all⟩

theorem Distinct.addAll (h : t.Distinct) (fs : List Format) : (t.addAll fs).Distinct := by
  induction fs generalizing t with
  | nil => exact h
  | cons f rest ih => exact ih (h.add f)

theorem distinct_ofList (fs : List Format) : (ofList fs).Distinct :=
  distinct_empty.addAll fs

/-- A format whose payload number is not there gets the last place. -/
theorem add_of_notMem (h : f.payloadType ∉ t.payloadTypes) : t.add f = ⟨t.toList ++ [f]⟩ := by
  obtain ⟨formats⟩ := t
  simp only [payloadTypes] at h
  simp only [add, mk.injEq]
  induction formats with
  | nil => rfl
  | cons g rest ih =>
    simp only [List.map_cons, List.mem_cons, not_or] at h
    simp only [insertInto, if_neg (Ne.symm h.1), ih h.2, List.cons_append]

theorem addAll_of_nodup {fs : List Format}
    (h : ((t.toList ++ fs).map Format.payloadType).Nodup) : t.addAll fs = ⟨t.toList ++ fs⟩ := by
  induction fs generalizing t with
  | nil => simp [addAll]
  | cons f rest ih =>
    have hf : f.payloadType ∉ t.payloadTypes := by
      simp only [List.map_append, List.map_cons, List.nodup_append] at h
      exact fun hf => h.2.2 _ hf _ (by simp) rfl
    have ha : t.addAll (f :: rest) = (t.add f).addAll rest := rfl
    rw [ha, add_of_notMem hf, ih (by simpa using h)]
    simp

/-- Formats with distinct payload numbers are a table as they are. -/
theorem ofList_of_nodup {fs : List Format} (h : (fs.map Format.payloadType).Nodup) :
    ofList fs = ⟨fs⟩ := by
  have ha : empty.addAll fs = ⟨empty.toList ++ fs⟩ := addAll_of_nodup (by simpa [empty] using h)
  simpa [ofList, empty] using ha

/-- Telling the payload number of a format in a table with distinct ones tells the format. -/
theorem Distinct.eq_of_payloadType (h : t.Distinct) {g : Format} (hf : f ∈ t.toList)
    (hg : g ∈ t.toList) (e : f.payloadType = g.payloadType) : f = g :=
  List.inj_on_of_nodup_map h hf hg e

/-- Of a table with distinct payload numbers, adding a format displaces the one with its number. -/
theorem Distinct.mem_add_iff (h : t.Distinct) {g : Format} :
    g ∈ (t.add f).toList ↔ g = f ∨ g ∈ t.toList ∧ g.payloadType ≠ f.payloadType := by
  by_cases hg : g.payloadType = f.payloadType
  · constructor
    · intro hmem
      exact .inl ((h.add f).eq_of_payloadType hmem (mem_add_self t f) hg)
    · rintro (rfl | ⟨-, hne⟩)
      · exact mem_add_self t g
      · exact absurd hg hne
  · have hother : g ∈ (t.add f).toList ↔ g ∈ t.toList := by
      have hfilter : g ∈ (t.add f).toList.filter (fun g => g.payloadType ≠ f.payloadType) ↔
          g ∈ t.toList.filter fun g => g.payloadType ≠ f.payloadType := by rw [filter_add]
      simpa [List.mem_filter, hg] using hfilter
    have hne : g ≠ f := fun he => hg (he ▸ rfl)
    rw [hother]
    simp [hne, hg]

theorem Distinct.find?_eq_some (h : t.Distinct) (hf : f ∈ t.toList) :
    t.find? f.payloadType = some f := by
  cases hs : t.find? f.payloadType with
  | none => simpa using List.find?_eq_none.1 hs f hf
  | some g =>
    have hg : g ∈ t.toList := List.mem_of_find?_eq_some hs
    have he : g.payloadType = f.payloadType := by simpa using List.find?_some hs
    rw [h.eq_of_payloadType hg hf he]

/-! ## What two tables have in common -/

theorem supports_iff : t.supports f = true ↔ ∃ g ∈ t.toList, g.sameEncoding f = true := by
  simp [supports, findMatching?]

theorem supports_of_mem (h : f ∈ t.toList) : t.supports f = true :=
  supports_iff.2 ⟨f, h, f.sameEncoding_refl⟩

theorem Distinct.filter (h : t.Distinct) (p : Format → Bool) :
    ((t.toList.filter p).map Format.payloadType).Nodup :=
  (List.Sublist.map _ List.filter_sublist).nodup h

/-- Of a table with distinct payload numbers, an intersection keeps exactly the formats that the other
table supports. -/
theorem Distinct.toList_intersection (h : t.Distinct) (u : FormatTable) :
    (t.intersection u).toList = t.toList.filter u.supports := by
  rw [intersection, ofList_of_nodup (h.filter u.supports)]

/-- An intersection has the encodings that both tables have. -/
theorem Distinct.supports_intersection (h : t.Distinct) (u : FormatTable) (f : Format) :
    (t.intersection u).supports f = true ↔ t.supports f = true ∧ u.supports f = true := by
  rw [supports_iff, h.toList_intersection]
  simp only [List.mem_filter, supports_iff]
  constructor
  · rintro ⟨g, ⟨hg, k, hk, hkg⟩, hgf⟩
    exact ⟨⟨g, hg, hgf⟩, k, hk, Format.sameEncoding_trans hkg hgf⟩
  · rintro ⟨⟨g, hg, hgf⟩, k, hk, hkf⟩
    exact ⟨g, ⟨hg, k, hk, Format.sameEncoding_trans hkf (Format.sameEncoding_symm hgf)⟩, hgf⟩

end FormatTable

end MediaGateway
