import MediaGateway.Proofs.Format.Table

/-!
# What a table owes to its history

Tables are made by adding and removing formats one at a time, by taking them from a list, by clearing
and by intersecting. For what is in a table afterwards two things count: that a format was added, and
that only some of the formats were kept. A format is in a table if it was added and since then neither
replaced under its number nor left out, and the numbers stand in the order in which they came in, each
counted from when it was last missing.

Both are read off the history alone, so tables with one history are equal.
-/

namespace MediaGateway

/-- What can happen to a table. -/
inductive TableEvent where
  /-- A format is added under its payload number. -/
  | added (f : Format)
  /-- Only the formats that satisfy the condition are kept. -/
  | kept (condition : Format → Bool)

namespace TableEvent

/-- The format does not stay: another one is added under its number, or it is not kept. -/
def Ends (f : Format) : TableEvent → Prop
  | added g => g.payloadType = f.payloadType
  | kept condition => condition f = false

end TableEvent

/-! ## Histories -/

/-- What happened to a table, the first event first. -/
abbrev TableHistory := List TableEvent

namespace TableHistory

/-- The format is the one added last for its payload number, and was not removed since. -/
def Stands (events : TableHistory) (f : Format) : Prop :=
  ∃ before after, events = before ++ .added f :: after ∧ ∀ e ∈ after, ¬e.Ends f

/-- Some format stands under the payload number. -/
def Has (events : TableHistory) (payloadType : UInt8) : Prop :=
  ∃ f, events.Stands f ∧ f.payloadType = payloadType

/-- The event with this place added the payload number when it was missing, and it has been there
since. -/
structure EntersAt (events : TableHistory) (payloadType : UInt8) (place : Nat) : Prop where
  /-- The event adds a format under the number. -/
  adds : ∃ f, events[place]? = some (.added f) ∧ f.payloadType = payloadType
  /-- Before it the number is missing. -/
  missing : ¬Has (events.take place) payloadType
  /-- After it the number is never missing. -/
  stays : ∀ n, place < n → n ≤ events.length → Has (events.take n) payloadType

/-- The first payload number came in before the second one. -/
def Precedes (events : TableHistory) (m n : UInt8) : Prop :=
  ∃ i j, i < j ∧ events.EntersAt m i ∧ events.EntersAt n j

variable {events : TableHistory} {e : TableEvent} {f : Format} {n : UInt8} {i j : Nat}

theorem not_stands_nil : ¬Stands [] f := by
  rintro ⟨before, after, hevents, -⟩
  simp at hevents

/-- With one more event a format stands that is added by it, or that stood and stays. -/
theorem stands_concat : Stands (events ++ [e]) f ↔ e = .added f ∨ events.Stands f ∧ ¬e.Ends f := by
  constructor
  · rintro ⟨before, after, hevents, hafter⟩
    rcases List.eq_nil_or_concat' after with rfl | ⟨rest, last, rfl⟩
    · exact .inl (List.singleton_inj.1 (List.append_inj' hevents rfl).2)
    · rw [← List.cons_append, ← List.append_assoc] at hevents
      obtain ⟨rfl, hlast⟩ := List.append_inj' hevents rfl
      obtain rfl := List.singleton_inj.1 hlast
      refine .inr ⟨⟨before, rest, rfl, ?_⟩, hafter e (by simp)⟩
      intro e' he'
      exact hafter e' (List.mem_append_left _ he')
  · rintro (rfl | ⟨⟨before, after, rfl, hafter⟩, hstays⟩)
    · exact ⟨events, [], rfl, by simp⟩
    · refine ⟨before, after ++ [e], by simp, ?_⟩
      intro e' he'
      rcases List.mem_append.1 he' with hold | hnew
      · exact hafter e' hold
      · rwa [List.mem_singleton.1 hnew]

theorem EntersAt.lt (h : events.EntersAt n i) : i < events.length := by
  obtain ⟨f, hf, -⟩ := h.adds
  exact (List.getElem?_eq_some_iff.1 hf).1

/-- A payload number came in at one place only. -/
theorem EntersAt.unique (hi : events.EntersAt n i) (hj : events.EntersAt n j) : i = j := by
  rcases Nat.lt_trichotomy i j with hlt | heq | hgt
  · exact absurd (hi.stays j hlt (Nat.le_of_lt hj.lt)) hj.missing
  · exact heq
  · exact absurd (hj.stays i hgt (Nat.le_of_lt hi.lt)) hi.missing

theorem EntersAt.has (h : events.EntersAt n i) : events.Has n := by
  have hnow := h.stays events.length h.lt (Nat.le_refl _)
  rwa [List.take_length] at hnow

/-- A payload number that has been there up to an event and is there after it has not been missing. -/
theorem has_take_concat (hhas : Has (events ++ [e]) n)
    (hbefore : ∀ k, i < k → k ≤ events.length → Has (events.take k) n) :
    ∀ k, i < k → k ≤ (events ++ [e]).length → Has ((events ++ [e]).take k) n := by
  intro k hk hlength
  by_cases hold : k ≤ events.length
  · rw [List.take_append_of_le_length hold]
    exact hbefore k hk hold
  · have hall : (events ++ [e]).length ≤ k := by
      rw [List.length_append, List.length_singleton]
      omega
    rwa [List.take_of_length_le hall]

/-- The place of a payload number lasts as long as the number is there. -/
theorem EntersAt.concat (h : events.EntersAt n i) (hhas : Has (events ++ [e]) n) :
    EntersAt (events ++ [e]) n i where
  adds := by
    rw [List.getElem?_append_left h.lt]
    exact h.adds
  missing := by
    rw [List.take_append_of_le_length (Nat.le_of_lt h.lt)]
    exact h.missing
  stays := has_take_concat hhas h.stays

/-- A payload number that is missing comes in when a format is added under it. -/
theorem entersAt_last (h : ¬events.Has f.payloadType) :
    EntersAt (events ++ [.added f]) f.payloadType events.length where
  adds := ⟨f, by simp, rfl⟩
  missing := by rwa [List.take_left]
  stays := by
    have hhas : Has (events ++ [.added f]) f.payloadType := ⟨f, stands_concat.2 (.inl rfl), rfl⟩
    exact has_take_concat hhas fun k hk hlength => absurd hlength (Nat.not_le_of_lt hk)

theorem Precedes.concat {m n : UInt8} (h : events.Precedes m n) (hm : Has (events ++ [e]) m)
    (hn : Has (events ++ [e]) n) : Precedes (events ++ [e]) m n := by
  obtain ⟨i, j, hlt, hi, hj⟩ := h
  exact ⟨i, j, hlt, hi.concat hm, hj.concat hn⟩

theorem Precedes.asymm {m n : UInt8} (h : events.Precedes m n) : ¬events.Precedes n m := by
  rintro ⟨i, j, hlt, hi, hj⟩
  obtain ⟨i', j', hlt', hi', hj'⟩ := h
  have hm := hi'.unique hj
  have hn := hj'.unique hi
  omega

end TableHistory

/-! ## Tables and their histories -/

namespace FormatTable

open TableHistory

variable {t t' u : FormatTable} {events : TableHistory} {e : TableEvent}

/-- The table holds what stands after its history, in the order in which the payload numbers came
in. -/
structure Records (t : FormatTable) (events : TableHistory) : Prop where
  /-- No payload number is there twice. -/
  distinct : t.Distinct
  /-- The formats are those that stand. -/
  mem_iff : ∀ f, f ∈ t.toList ↔ events.Stands f
  /-- Each payload number came in at some place. -/
  entered : ∀ n ∈ t.payloadTypes, ∃ i, events.EntersAt n i
  /-- The payload numbers are in order. -/
  ordered : t.payloadTypes.Pairwise events.Precedes

theorem has_iff (h : ∀ f, f ∈ t.toList ↔ events.Stands f) {n : UInt8} :
    events.Has n ↔ n ∈ t.payloadTypes := by
  unfold Has payloadTypes
  simp only [List.mem_map, h]

theorem Records.nil : empty.Records [] where
  distinct := distinct_empty
  mem_iff _ := ⟨fun hf => absurd hf List.not_mem_nil, fun hf => absurd hf not_stands_nil⟩
  entered _ hn := absurd hn List.not_mem_nil
  ordered := .nil

/-- An event by which no payload number comes in leaves the others in their order. -/
theorem Records.of_sublist (h : t.Records events)
    (hmem : ∀ f, f ∈ t'.toList ↔ Stands (events ++ [e]) f)
    (hsub : t'.payloadTypes.Sublist t.payloadTypes) : t'.Records (events ++ [e]) where
  distinct := hsub.nodup h.distinct
  mem_iff := hmem
  entered n hn := by
    obtain ⟨i, hi⟩ := h.entered n (hsub.subset hn)
    exact ⟨i, hi.concat ((has_iff hmem).2 hn)⟩
  ordered := by
    refine (h.ordered.sublist hsub).imp_of_mem fun hm hn hprecedes => ?_
    exact hprecedes.concat ((has_iff hmem).2 hm) ((has_iff hmem).2 hn)

theorem Records.add (h : t.Records events) (f : Format) :
    (t.add f).Records (events ++ [.added f]) := by
  have hmem : ∀ g, g ∈ (t.add f).toList ↔ Stands (events ++ [.added f]) g := by
    intro g
    rw [h.distinct.mem_add_iff, stands_concat, h.mem_iff, TableEvent.added.injEq, eq_comm]
    exact or_congr_right (and_congr_right fun _ => not_congr eq_comm)
  have hnumbers := payloadTypes_add t f
  by_cases hf : f.payloadType ∈ t.payloadTypes
  · rw [if_pos hf] at hnumbers
    refine h.of_sublist hmem ?_
    rw [hnumbers]
  · rw [if_neg hf] at hnumbers
    have hlast : EntersAt (events ++ [.added f]) f.payloadType events.length :=
      entersAt_last fun hhas => hf ((has_iff h.mem_iff).1 hhas)
    have hstays : ∀ n ∈ t.payloadTypes, Has (events ++ [.added f]) n := by
      intro n hn
      rw [has_iff hmem, hnumbers]
      exact List.mem_append_left _ hn
    constructor
    · exact h.distinct.add f
    · exact hmem
    · intro n hn
      rw [hnumbers, List.mem_append, List.mem_singleton] at hn
      rcases hn with hold | rfl
      · obtain ⟨i, hi⟩ := h.entered n hold
        exact ⟨i, hi.concat (hstays n hold)⟩
      · exact ⟨_, hlast⟩
    · rw [hnumbers, List.pairwise_append]
      refine ⟨h.ordered.imp_of_mem fun hm hn hp => hp.concat (hstays _ hm) (hstays _ hn),
        List.pairwise_singleton _ _, ?_⟩
      intro m hm n hn
      obtain rfl := List.mem_singleton.1 hn
      obtain ⟨i, hi⟩ := h.entered m hm
      exact ⟨i, events.length, hi.lt, hi.concat (hstays m hm), hlast⟩

theorem Records.addAll (h : t.Records events) (fs : List Format) :
    (t.addAll fs).Records (events ++ fs.map .added) := by
  induction fs generalizing t events with
  | nil =>
    rw [List.map_nil, List.append_nil]
    exact h
  | cons f rest ih =>
    have hrest := ih (h.add f)
    rw [List.append_assoc, List.singleton_append] at hrest
    exact hrest

theorem Records.keep (h : t.Records events) (condition : Format → Bool) :
    Records ⟨t.toList.filter condition⟩ (events ++ [.kept condition]) := by
  refine h.of_sublist (fun f => ?_) (List.filter_sublist.map Format.payloadType)
  rw [List.mem_filter, stands_concat, h.mem_iff]
  simp [TableEvent.Ends]

/-- The history tells the whole table. -/
theorem Records.unique (ht : t.Records events) (hu : u.Records events) : t = u := by
  have hperm : t.toList.Perm u.toList := by
    refine (List.perm_ext_iff_of_nodup (List.Nodup.of_map _ ht.distinct)
      (List.Nodup.of_map _ hu.distinct)).2 fun f => ?_
    rw [ht.mem_iff, hu.mem_iff]
  have hlists : t.toList = u.toList := by
    refine hperm.eq_of_pairwise (fun f g _ _ hfg hgf => ?_) (List.pairwise_map.1 ht.ordered)
      (List.pairwise_map.1 hu.ordered)
    exact absurd hgf hfg.asymm
  cases t
  cases u
  exact congrArg FormatTable.mk hlists

/-- Of a table with distinct payload numbers, the format with the number is what is removed. -/
theorem Distinct.toList_remove (h : t.Distinct) (n : UInt8) :
    (t.remove n).toList = t.toList.filter fun f => f.payloadType ≠ n := by
  obtain ⟨formats⟩ := t
  show formats.eraseP _ = formats.filter _
  replace h : (formats.map Format.payloadType).Nodup := h
  induction formats with
  | nil => rfl
  | cons f rest ih =>
    rw [List.map_cons, List.nodup_cons] at h
    by_cases hf : f.payloadType = n
    · have hrest : ∀ g ∈ rest, g.payloadType ≠ n := by
        rintro g hg rfl
        exact h.1 (hf ▸ List.mem_map_of_mem hg)
      have hall : rest.filter (fun g => g.payloadType ≠ n) = rest :=
        List.filter_eq_self.2 fun g hg => decide_eq_true (hrest g hg)
      rw [List.eraseP_cons_of_pos (by simpa using hf), List.filter_cons_of_neg (by simpa using hf), hall]
    · rw [List.eraseP_cons_of_neg (by simpa using hf), List.filter_cons_of_pos (by simpa using hf),
        ih h.2]

theorem supports_eq_any (u : FormatTable) (f : Format) :
    u.supports f = u.toList.any fun g => f.sameEncoding g := by
  rw [Bool.eq_iff_iff, supports_iff, List.any_eq_true]
  constructor
  · rintro ⟨g, hg, hsame⟩
    exact ⟨g, hg, Format.sameEncoding_symm hsame⟩
  · rintro ⟨g, hg, hsame⟩
    exact ⟨g, hg, Format.sameEncoding_symm hsame⟩

end FormatTable

/-! ## The making of a table -/

/-- A way to make a table. -/
inductive TableMaking where
  /-- The table without formats. -/
  | empty
  /-- A table made from formats. -/
  | ofList (formats : List Format)
  /-- A format is added to a table. -/
  | add (m : TableMaking) (f : Format)
  /-- The format of a payload number is removed from a table. -/
  | remove (m : TableMaking) (payloadType : UInt8)
  /-- All formats are removed from a table. -/
  | clear (m : TableMaking)
  /-- The formats of a table whose encoding another table has too. -/
  | intersection (m other : TableMaking)

namespace TableMaking

open TableHistory

/-- The table that is made. -/
def table : TableMaking → FormatTable
  | empty => FormatTable.empty
  | ofList formats => FormatTable.ofList formats
  | add m f => m.table.add f
  | remove m payloadType => m.table.remove payloadType
  | clear _ => FormatTable.empty
  | intersection m other => m.table.intersection other.table

/-- What happens to the table on the way. -/
def history : TableMaking → TableHistory
  | empty => []
  | ofList formats => formats.map .added
  | add m f => m.history ++ [.added f]
  | remove m payloadType => m.history ++ [.kept fun f => f.payloadType ≠ payloadType]
  | clear m => m.history ++ [.kept fun _ => false]
  | intersection m other =>
    m.history ++ [.kept fun f => other.table.toList.any fun g => f.sameEncoding g]

/-- Of a table that was made, an intersection keeps the formats with an encoding of the other one. -/
theorem toList_intersection {t u : FormatTable} (h : t.Distinct) :
    (t.intersection u).toList = t.toList.filter fun f => u.toList.any fun g => f.sameEncoding g := by
  rw [h.toList_intersection, funext u.supports_eq_any]

/-- However a table is made, it holds what stands after its history. -/
theorem records (m : TableMaking) : m.table.Records m.history := by
  induction m with
  | empty => exact .nil
  | ofList formats => exact FormatTable.Records.nil.addAll formats
  | add m f ih => exact ih.add f
  | remove m payloadType ih =>
    have hkeep := ih.keep fun f => f.payloadType ≠ payloadType
    rw [← ih.distinct.toList_remove] at hkeep
    exact hkeep
  | clear m ih =>
    have hkeep := ih.keep fun _ => false
    rw [List.filter_false] at hkeep
    exact hkeep
  | intersection m other ih _ =>
    have hkeep := ih.keep fun f => other.table.toList.any fun g => f.sameEncoding g
    rw [← toList_intersection ih.distinct] at hkeep
    exact hkeep

/-- However two tables are made: the payload numbers of the first one are distinct and stand in the order
in which they came in, a number finds the format that was added for it last and not removed since, and
the intersection with the second one consists of the formats with an encoding that it has, in their
order. To have the same encoding is an equivalence, so the intersection has the same encodings the
other way round. -/
theorem table_is_ordered_map (m other : TableMaking) :
    let t := m.table
    let u := other.table
    t.payloadTypes.Nodup ∧
    (∀ n f, t.find? n = some f ↔ m.history.Stands f ∧ f.payloadType = n) ∧
    (∀ n, n ∈ t.payloadTypes ↔ ∃! i, m.history.EntersAt n i) ∧
    t.payloadTypes.Pairwise m.history.Precedes ∧
    (t.intersection u).toList =
      t.toList.filter (fun f => u.toList.any fun g => f.sameEncoding g) ∧
    Equivalence (fun f g : Format => f.sameEncoding g = true) ∧
    ∀ e, (t.intersection u).supports e = (u.intersection t).supports e := by
  intro t u
  have ht := m.records
  have hu := other.records
  refine ⟨ht.distinct, ?_, ?_, ht.ordered, toList_intersection ht.distinct,
    ⟨Format.sameEncoding_refl, Format.sameEncoding_symm, Format.sameEncoding_trans⟩, ?_⟩
  · intro n f
    rw [← ht.mem_iff]
    constructor
    · intro hfind
      exact ⟨List.mem_of_find?_eq_some hfind, by simpa using List.find?_some hfind⟩
    · rintro ⟨hmem, rfl⟩
      exact ht.distinct.find?_eq_some hmem
  · intro n
    constructor
    · intro hn
      obtain ⟨i, hi⟩ := ht.entered n hn
      exact ⟨i, hi, fun j hj => hj.unique hi⟩
    · rintro ⟨i, hi, -⟩
      exact (FormatTable.has_iff ht.mem_iff).1 hi.has
  · intro e
    rw [Bool.eq_iff_iff, ht.distinct.supports_intersection, hu.distinct.supports_intersection]
    exact and_comm

end TableMaking

end MediaGateway
