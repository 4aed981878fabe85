import MediaGateway.Proofs.Gateway.Listening
import Mathlib.Data.List.Nodup
import Mathlib.Data.List.Perm.Subperm

/-!
# Failures are told once

A failure listener is taken off a connection when it is told of its end. So it is told once, however
often the connection is bound again, and only if the connection failed.
-/

namespace MediaGateway

/-- Whether an action installs a failure listener with a name. -/
def Action.installs (name : String) : Action → Bool
  | .setFailureListener _ l => l.name = name
  | _ => false

namespace Gateway

variable {g g' : Gateway} {k : Nat} {a : Action} {name : String}

/-- The name of the failure listener of a connection. -/
def failureListener? (g : Gateway) (handle : Nat) : Option String :=
  (g.watch? handle).bind fun w => w.failureListener.map FailureListener.name

/-- The binding of a connection has come to its end. -/
def Ends (g g' : Gateway) (handle : Nat) : Prop :=
  (∃ s, g.state? handle = some s ∧ s ≠ .null) ∧ g'.state? handle = some .null

theorem not_ends_of_same (h : g'.state? k = g.state? k) : ¬Ends g g' k := by
  rintro ⟨⟨s, hs, hbound⟩, hnull⟩
  rw [h, hs] at hnull
  exact hbound (Option.some.inj hnull)

/-! ## One action -/

/-- The connections that an action fails: each ends, and not because it is closed. Their failure
listeners are told, and nobody else's. -/
structure Failed (g : Gateway) (a : Action) (g' : Gateway) (places : List Nat) : Prop where
  nodup : places.Nodup
  mem : ∀ k, k ∈ places ↔ a ≠ .close k ∧ Ends g g' k
  canFail : ∀ k ∈ places, a.canFail k
  /-- They are taken off. -/
  gone : ∀ k ∈ places, g'.failureListener? k = none
  told : (g'.log.drop g.log.length).filterMap Event.blamed? = places.filterMap g.failureListener?
  counted : g'.metrics.failures = g.metrics.failures + .ofNat places.length

theorem Unfolds.failed {events : List (Nat × StateEvent)} (hu : Unfolds g events g')
    (honce : (events.map Prod.fst).Nodup) (hfailing : ∀ n, (n, .failing) ∈ events → a.canFail n)
    (hclosing : ∀ n, (n, .closing) ∈ events → a = .close n) :
    Failed g a g' ((events.filter fun e => e.2 = .failing).map Prod.fst) := by
  have hmem (k : Nat) : k ∈ (events.filter fun e => e.2 = .failing).map Prod.fst ↔
      (k, .failing) ∈ events := by
    simp
  have hafter (k : Nat) (hk : (k, .failing) ∈ events) :
      ∃ w, g.watch? k = some w ∧ w.state.on .failing = .next .null ∧
        g'.watch? k = some (w.after .failing) := by
    rcases hu.watch? honce k with ⟨hnot, -⟩ | ⟨event, w, hevent, hw, hallowed, hafter⟩
    · exact absurd (List.mem_map_of_mem (f := Prod.fst) hk) hnot
    · have hsame := List.inj_on_of_nodup_map honce hk hevent rfl
      obtain rfl := (Prod.mk.inj hsame).2
      exact ⟨w, hw, hallowed, hafter⟩
  refine ⟨?_, fun k => ?_, fun k hk => hfailing k ((hmem k).1 hk), fun k hk => ?_, ?_, ?_⟩
  · exact honce.sublist (List.filter_sublist.map Prod.fst)
  · rw [hmem]
    constructor
    · intro hk
      obtain ⟨w, hw, hallowed, hw'⟩ := hafter k hk
      refine ⟨?_, ⟨w.state, ?_, ConnectionState.target_ne hallowed⟩, ?_⟩
      · rintro rfl
        exact hfailing k hk
      · rw [state?_eq_watch?, hw]
        rfl
      · rw [state?_eq_watch?, hw']
        rfl
    · rintro ⟨hclose, hends⟩
      rcases hu.watch? honce k with ⟨-, hsame⟩ | ⟨event, w, hevent, -, -, hw'⟩
      · exact absurd hends (not_ends_of_same (state?_of_watch? hsame))
      · have hnull := hends.2
        rw [state?_eq_watch?, hw'] at hnull
        cases event with
        | failing => exact hevent
        | closing => exact absurd (hclosing k hevent) hclose
        | binding | opening => cases hnull
  · obtain ⟨w, -, -, hw'⟩ := hafter k ((hmem k).1 hk)
    rw [failureListener?, hw']
    rfl
  · obtain ⟨noticed, hlog, -, hblamed⟩ := hu.log honce
    rw [hlog, List.drop_left, hblamed, List.filterMap_map, List.filterMap_filter]
    refine List.filterMap_congr fun e _ => ?_
    cases hw : g.watch? e.1 <;> simp [failureListener?, hw, Watch.blamed]
  · rw [List.length_map]
    exact hu.failures

theorem Plot.failed (hp : Plot g a g') : ∃ places, Failed g a g' places := by
  rcases hp.unfolds_or_still with ⟨events, hu, honce, hfailing, hclosing⟩ | ⟨hsame, hlog, hfailures⟩
  · exact ⟨_, hu.failed honce hfailing hclosing⟩
  · have hnone (k : Nat) : ¬Ends g g' k := by
      rintro ⟨⟨s, hs, hbound⟩, hnull⟩
      have hchange := hsame k
      simp [Gateway.changeOf, hs, hnull, hbound] at hchange
    exact ⟨[], List.nodup_nil, by simp [hnone], by simp, by simp, by rw [hlog]; rfl,
      hfailures.trans (UInt64.add_zero _).symm⟩

/-- A failure listener was there before, or is installed now. -/
theorem Plot.failureListener? (hp : Plot g a g') (hk : g'.failureListener? k = some name) :
    g.failureListener? k = some name ∨ ∃ l, a = .setFailureListener k l ∧ l.name = name := by
  have hsame (h : g'.watch? k = g.watch? k) : g.failureListener? k = some name := by
    rwa [Gateway.failureListener?, ← h]
  cases hp with
  | unfolds hu honce _ _ =>
    rcases hu.watch? honce k with ⟨-, h⟩ | ⟨event, w, -, hw, -, hw'⟩
    · exact .inl (hsame h)
    · rw [Gateway.failureListener?, hw', Option.bind_some, Watch.after] at hk
      split at hk
      · cases hk
      · exact .inl (by rw [Gateway.failureListener?, hw]; exact hk)
  | restock hr _ =>
    by_cases hplace : k < g.connections.length
    · rcases hr.watch? hplace with h | hgone | ⟨-, hdetached⟩
      · exact .inl (hsame h)
      · rw [Gateway.failureListener?, hgone] at hk
        cases hk
      · rw [Gateway.failureListener?, hdetached] at hk
        cases hw : g.watch? k <;> simp [hw] at hk
    · obtain ⟨w, hw, hname⟩ := Option.bind_eq_some_iff.1 hk
      rw [(hr.watch?_new (by omega) hw).2] at hname
      cases hname
  | setting hkind h =>
    rw [h, Gateway.failureListener?, watch?_setting hkind] at hk
    cases a with
    | addListener x l | removeListener x l =>
      refine .inl ?_
      simp only at hk
      split at hk
      · cases hw : g.watch? k with
        | none => simp [hw] at hk
        | some w =>
          rw [hw] at hk
          rw [Gateway.failureListener?, hw]
          exact hk
      · exact hk
    | setFailureListener x l =>
      simp only at hk
      split at hk
      · rename_i hkx
        cases hw : g.watch? k with
        | none => simp [hw] at hk
        | some w =>
          rw [hw] at hk
          exact .inr ⟨l, by rw [hkx], Option.some.inj hk⟩
      · exact .inl hk
    | _ => exact .inl hk
  | forget _ h => exact .inl (hsame (by rw [h]; rfl))

/-! ## All runs -/

/-- Where a failure listener with a name is installed. -/
def installed (g : Gateway) (name : String) : List Nat :=
  (List.range g.connections.length).filter fun k => g.failureListener? k = some name

theorem mem_installed : k ∈ g.installed name ↔ g.failureListener? k = some name := by
  rw [installed, List.mem_filter, decide_eq_true_eq, List.mem_range, and_iff_right_iff_imp]
  intro hk
  obtain ⟨w, hw, -⟩ := Option.bind_eq_some_iff.1 hk
  exact lt_of_watch? hw

theorem nodup_installed (g : Gateway) (name : String) : (g.installed name).Nodup :=
  List.nodup_range.filter _

theorem count_filterMap (f : Nat → Option String) (places : List Nat) (name : String) :
    (places.filterMap f).count name = (places.filter fun k => f k = some name).length := by
  induction places with
  | nil => rfl
  | cons k rest ih =>
    cases hk : f k with
    | none => simp [hk, ih]
    | some other => by_cases hname : other = name <;> simp [hk, hname, ih]

/-- Whenever a failure listener is told it is taken off, and only installing it puts it on. -/
theorem Failed.count_le {places : List Nat} (h : Failed g a g' places)
    (hnew : ∀ k, g'.failureListener? k = some name →
      g.failureListener? k = some name ∨ ∃ l, a = .setFailureListener k l ∧ l.name = name) :
    ((g'.log.drop g.log.length).filterMap Event.blamed?).count name + (g'.installed name).length ≤
      (g.installed name).length + (if a.installs name then 1 else 0) := by
  rw [h.told, count_filterMap, ← List.length_append]
  let told := places.filter fun k => g.failureListener? k = some name
  have hold (k : Nat) (hk : k ∈ told) : k ∈ g.installed name ∧ k ∉ g'.installed name := by
    obtain ⟨hplace, hname⟩ := List.mem_filter.1 hk
    refine ⟨mem_installed.2 (of_decide_eq_true hname), fun hstill => ?_⟩
    rw [mem_installed, h.gone k hplace] at hstill
    cases hstill
  have hnodup : (told ++ g'.installed name).Nodup := by
    rw [List.nodup_append]
    refine ⟨h.nodup.filter _, nodup_installed g' name, fun k hk x hx => ?_⟩
    rintro rfl
    exact (hold k hk).2 hx
  by_cases ha : ∃ x l, a = .setFailureListener x l ∧ l.name = name
  · obtain ⟨x, l, rfl, hname⟩ := ha
    have hsubset : told ++ g'.installed name ⊆ x :: g.installed name := by
      intro k hk
      rcases List.mem_append.1 hk with hk | hk
      · exact List.mem_cons_of_mem x (hold k hk).1
      · rcases hnew k (mem_installed.1 hk) with hbefore | ⟨_, hx, -⟩
        · exact List.mem_cons_of_mem x (mem_installed.2 hbefore)
        · rw [(Action.setFailureListener.inj hx).1]
          exact List.mem_cons_self
    have hlength := (hnodup.subperm hsubset).length_le
    simpa [Action.installs, hname] using hlength
  · have hsubset : told ++ g'.installed name ⊆ g.installed name := by
      intro k hk
      rcases List.mem_append.1 hk with hk | hk
      · exact (hold k hk).1
      · rcases hnew k (mem_installed.1 hk) with hbefore | hx
        · exact mem_installed.2 hbefore
        · exact absurd ⟨k, hx⟩ ha
    exact Nat.le_add_right_of_le (hnodup.subperm hsubset).length_le

/-- A failure listener is told at most as often as it is installed, by induction on the actions. -/
theorem count_blamed_le (hs : g.Steady) {actions : List Action}
    (hp : g.Throughout Proper actions) (name : String) :
    ((g.noticed actions).filterMap Event.blamed?).count name ≤
      (g.installed name).length + actions.countP (·.installs name) := by
  induction actions generalizing g with
  | nil => exact Nat.zero_le _
  | cons a rest ih =>
    have hplot : Plot g a (g.perform a) := (hs.effect hp.1).plot
    obtain ⟨places, hfailed⟩ := hplot.failed
    have hstep := hfailed.count_le fun k (hk : _ = some name) => hplot.failureListener? hk
    have hrest := ih (hs.perform hp.1) hp.2
    rw [noticed, List.filterMap_append, List.count_append, List.countP_cons, noticedOf]
    omega

end Gateway

end MediaGateway
