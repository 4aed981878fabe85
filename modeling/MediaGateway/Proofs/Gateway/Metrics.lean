import MediaGateway.Proofs.Gateway.Failures
import Mathlib.Data.Finset.Card

/-!
# The metrics of the control plane

As long as no connection goes while it is bound, the gauge of open connections equals their number,
and the counters equal what the history says: how many different connections were handed out, how
many exchanges came to no agreement, and, with listeners that do not call back, how many bindings
ended by failure.
-/

namespace MediaGateway

/-- Whether an action closes the connection at a place. -/
def Action.closes (a : Action) (handle : Nat) : Bool :=
  match a with
  | .close k => k == handle
  | _ => false

theorem Action.closes_iff {a : Action} {handle : Nat} :
    a.closes handle = true ↔ a = .close handle := by
  cases a <;> simp [closes]

namespace Gateway

variable {g g' : Gateway} {handle k : Nat} {c : Connection} {type : ConnectionType} {a : Action}

/-! ## Connections come, wait and go -/

/-- No connection goes while it is bound. -/
def KeepsBound (g : Gateway) (a : Action) : Prop :=
  ∀ k < g.connections.length, ((g.get? k).any fun c => c.life.state.isBound) = true →
    ((g.perform a).get? k).isSome = true

instance (g : Gateway) (a : Action) : Decidable (g.KeepsBound a) :=
  inferInstanceAs (Decidable (∀ k < g.connections.length, _ → _))

/-- How many connections are built by an action. -/
def builds (g : Gateway) : Action → Nat
  | .create type => if g.pool type = [] then 1 else 0
  | _ => 0

/-- Whether an action is a step of an exchange that comes to no agreement. -/
def disagrees (g : Gateway) : Action → Bool
  | .generateOffer handle browser => isDisagreement (g.generateOffer handle browser).1
  | .processOffer handle text => isDisagreement (g.processOffer handle text).1
  | .processAnswer handle text => isDisagreement (g.processAnswer handle text).1
  | _ => false

theorem counts_addConnection (g : Gateway) (hlife : c.life = {}) :
    Counts g (g.addConnection c).2 {} := by
  have hcount : (g.addConnection c).2.openCount = g.openCount := by
    simp [addConnection, openCount, Connection.isOpened, hlife]
  refine ⟨?_, (UInt64.add_zero _).symm, (UInt64.add_zero _).symm, (UInt64.add_zero _).symm⟩
  rw [hcount]
  rfl

theorem counts_build (g : Gateway) (type : ConnectionType) :
    Counts g (g.build type).2 { built := 1 } := by
  let drawn : Gateway := { g with
    ids := g.ids.draw.2
    metrics := { g.metrics with created := g.metrics.created + 1 } }
  have hdrawn : Counts g drawn { built := 1 } :=
    ⟨rfl, rfl, (UInt64.add_zero _).symm, (UInt64.add_zero _).symm⟩
  cases type with
  | rtp =>
    have hadded : Counts drawn
        (drawn.addConnection { id := g.ids.draw.1, leg := .call (g.newCall g.ids.draw.1) }).2 {} :=
      counts_addConnection drawn rfl
    have hsubmitted : Counts
        (drawn.addConnection { id := g.ids.draw.1, leg := .call (g.newCall g.ids.draw.1) }).2
        (g.build .rtp).2 {} := .of_connections rfl rfl
    exact hdrawn.trans (hadded.trans hsubmitted)
  | internal =>
    have hadded : Counts drawn (g.build .internal).2 {} := counts_addConnection drawn rfl
    exact hdrawn.trans hadded

theorem counts_create (g : Gateway) (type : ConnectionType) :
    Counts g (g.create type).2 { built := g.builds (.create type) } := by
  have hrefer (g : Gateway) (handle : Nat) : Counts g (g.refer handle).2 {} :=
    .of_connections rfl rfl
  simp only [create, obtain, builds]
  cases hp : g.pool type with
  | cons handle rest =>
    have htake : Counts g (g.withPool type rest) {} := by cases type <;> exact .of_connections rfl rfl
    rw [if_neg (List.cons_ne_nil _ _)]
    exact htake.trans (hrefer _ _)
  | nil =>
    rw [if_pos rfl]
    exact (counts_build g type).trans (hrefer _ _)

theorem counts_recycle (g : Gateway) (handle : Nat) : Counts g (g.recycle handle).2 {} := by
  have hpool (g : Gateway) (type : ConnectionType) (handles : List Nat) :
      Counts g (g.withPool type handles) {} := by cases type <;> exact .of_connections rfl rfl
  have hdetach : Counts g (g.modify handle Connection.detach) {} := .modify fun _ _ => rfl
  simp only [recycle]
  repeat' split
  any_goals exact .refl g
  · exact hdetach.trans (hpool _ _ _)
  · exact hdetach

theorem connections_giveUp (g : Gateway) (reference : Nat) :
    (g.giveUp reference).connections = g.connections ∨
      ∃ handle, (g.giveUp reference).connections = g.connections.set handle none := by
  simp only [giveUp, reap]
  split
  · exact .inl rfl
  · rename_i handle _
    split
    · exact .inl rfl
    · exact .inr ⟨handle, rfl⟩

theorem counts_giveUp (g : Gateway) (reference : Nat) (hk : g.KeepsBound (.giveUp reference)) :
    Counts g (g.giveUp reference) {} := by
  have hmetrics : (g.giveUp reference).metrics = g.metrics := by
    simp only [giveUp, reap]
    repeat' split
    all_goals rfl
  rcases connections_giveUp g reference with hsame | ⟨handle, hset⟩
  · exact .of_connections hsame (by rw [hmetrics])
  · refine .of_states (fun k => ?_) (by rw [hset, List.length_set]) (by rw [hmetrics])
    by_cases hkh : k = handle
    · subst hkh
      have hgone : (g.giveUp reference).get? k = none := by
        rw [get?, hset, List.getElem?_set_self']
        cases g.connections[k]? <;> rfl
      cases hc : g.get? k with
      | none => rw [hgone]
      | some c =>
        have hidle : c.life.state.isBound = false := by
          by_contra hbound
          have hstays := hk k (lt_of_get? hc) (by simpa [hc] using hbound)
          have hsome : ((g.giveUp reference).get? k).isSome = true := hstays
          rw [hgone] at hsome
          cases hsome
        rw [hgone]
        cases hs : c.life.state <;> simp_all [Connection.isOpened, ConnectionState.isBound]
    · rw [get?, hset, List.getElem?_set_ne (Ne.symm hkh), get?]

/-- What an action counts. -/
theorem counts_perform (g : Gateway) {a : Action} (hk : g.KeepsBound a) :
    ∃ failed, Counts g (g.perform a)
      { built := g.builds a, failed, disagreed := (g.disagrees a).toNat } := by
  have hset (hkind : a.kind = .setting) : Counts g (g.perform a) {} := by
    have hset := setting_perform g hkind
    exact .of_lives hset.sameLives (by rw [hset.metrics])
  cases a with
  | create type => exact ⟨0, counts_create g type⟩
  | adopt id hooks =>
    have hadded : Counts g (g.addConnection { id, leg := .foreign hooks }).2 {} :=
      counts_addConnection g rfl
    have hreferred : Counts (g.addConnection { id, leg := .foreign hooks }).2
        (g.perform (.adopt id hooks)) {} := .of_connections rfl rfl
    exact ⟨0, hadded.trans hreferred⟩
  | recycle handle => exact ⟨0, counts_recycle g handle⟩
  | giveUp reference => exact ⟨0, counts_giveUp g reference hk⟩
  | setHook _ _ _ | addListener _ _ | removeListener _ _ | setFailureListener _ _
  | attachEndpoint _ _ | dropEndpoint _ | installSink _ | fetchFrames _ | dropSink _ =>
    exact ⟨0, hset rfl⟩
  | generateOffer handle browser => exact counts_generateOffer g handle browser
  | processOffer handle text => exact counts_processOffer g handle text
  | processAnswer handle text => exact counts_processAnswer g handle text
  | redraw environment => exact ⟨0, .of_connections rfl rfl⟩
  | _ => exact (plainTurns_perform g rfl rfl).counts

/-! ## Connections that were handed out -/

/-- The place of the connection that an action hands out. -/
def handsOut? (g : Gateway) : Action → Option Nat
  | .create type => some (g.obtain type).1
  | _ => none

/-- The places of the connections that a run hands out, in order. -/
def handedOut (g : Gateway) : List Action → List Nat
  | [] => []
  | a :: rest => (g.handsOut? a).toList ++ (g.perform a).handedOut rest

/-- All connections that were built here were handed out. -/
structure Handed (g : Gateway) (places : Finset Nat) : Prop where
  placed : ∀ k ∈ places, k < g.connections.length
  handed : ∀ k type, g.builtType? k = some type → k ∈ places

theorem Handed.of_types {places : Finset Nat} (h : Handed g places)
    (hplaces : g.connections.length ≤ g'.connections.length)
    (htypes : ∀ k type, g'.builtType? k = some type → g.builtType? k = some type) :
    Handed g' places where
  placed := fun k hk => Nat.lt_of_lt_of_le (h.placed k hk) hplaces
  handed := fun k type ht => h.handed k type (htypes k type ht)

/-- A connection that comes out of a pool was handed out before, one that is built was not. -/
theorem Handed.create {places : Finset Nat} (h : Handed g places) (hs : Stocked g)
    (type : ConnectionType) : Handed (g.create type).2 (insert (g.obtain type).1 places) ∧
      (insert (g.obtain type).1 places).card = places.card + g.builds (.create type) := by
  simp only [Gateway.create, obtain, builds]
  cases hp : g.pool type with
  | cons handle rest =>
    have hmem : handle ∈ g.pool type := by
      rw [hp]
      exact List.mem_cons_self
    have hold := h.handed handle type (hs.typed type handle hmem)
    rw [if_neg (List.cons_ne_nil _ _), Finset.insert_eq_of_mem hold]
    refine ⟨h.of_types ?_ fun k type' ht => ?_, rfl⟩
    · cases type <;> exact Nat.le_refl _
    · cases type <;> exact ht
  | nil =>
    have hplace : (g.build type).1 = g.connections.length := by cases type <;> rfl
    have hlength : ((g.build type).2.refer (g.build type).1).2.connections.length =
        g.connections.length + 1 := by
      cases type <;> simp [build, refer, addConnection]
    have hget : ∃ c, ∀ k, ((g.build type).2.refer (g.build type).1).2.get? k =
        if k = g.connections.length then some c else g.get? k := by
      cases type with
      | rtp => exact ⟨_, fun k => get?_addConnection _ _ k⟩
      | internal => exact ⟨_, fun k => get?_addConnection _ _ k⟩
    obtain ⟨c, hget⟩ := hget
    have hnew : g.connections.length ∉ places := fun hn => Nat.lt_irrefl _ (h.placed _ hn)
    rw [if_pos rfl, hplace, Finset.card_insert_of_notMem hnew]
    refine ⟨⟨fun k hk => ?_, fun k type' ht => ?_⟩, rfl⟩
    · rw [hplace] at hlength
      rw [hlength]
      rcases Finset.mem_insert.1 hk with rfl | hk
      · exact Nat.lt_succ_self _
      · exact Nat.lt_succ_of_lt (h.placed k hk)
    · rw [hplace] at hget
      rw [builtType?, hget] at ht
      by_cases hk : k = g.connections.length
      · rw [hk]
        exact Finset.mem_insert_self _ _
      · rw [if_neg hk] at ht
        exact Finset.mem_insert_of_mem (h.handed k type' ht)

theorem Handed.perform {places : Finset Nat} (h : Handed g places) (hs : Stocked g) (a : Action) :
    Handed (g.perform a) ((g.handsOut? a).toList.toFinset ∪ places) ∧
      ((g.handsOut? a).toList.toFinset ∪ places).card = places.card + g.builds a := by
  have hnobody (h : Handed (g.perform a) places) (hout : g.handsOut? a = none)
      (hbuilds : g.builds a = 0) :
      Handed (g.perform a) ((g.handsOut? a).toList.toFinset ∪ places) ∧
        ((g.handsOut? a).toList.toFinset ∪ places).card = places.card + g.builds a := by
    rw [hout, hbuilds, Option.toList_none, List.toFinset_nil, Finset.empty_union]
    exact ⟨h, rfl⟩
  have hstock (hsame : SameStock g (g.perform a)) : Handed (g.perform a) places :=
    h.of_types (Nat.le_of_eq hsame.places.symm) fun k type ht => hsame.types k ▸ ht
  have hset (hkind : a.kind = .setting) := hstock (setting_perform g hkind).sameStock
  have hwork (hkind : a.kind = .work) := hstock (turns_perform g hkind).sameStock
  have hplaces := (KeepsPlaces.perform g a).connections
  cases a with
  | create type =>
    have hone : (g.handsOut? (.create type)).toList.toFinset ∪ places =
        insert (g.obtain type).1 places := rfl
    rw [hone]
    exact h.create hs type
  | adopt id hooks =>
    refine hnobody (h.of_types hplaces fun k type ht => ?_) rfl rfl
    have hget : (g.perform (.adopt id hooks)).get? k =
        if k = g.connections.length then some { id, leg := .foreign hooks } else g.get? k :=
      get?_addConnection g _ k
    rw [builtType?, hget] at ht
    by_cases hk : k = g.connections.length
    · rw [if_pos hk] at ht
      cases ht
    · rwa [if_neg hk] at ht
  | recycle handle =>
    refine hnobody (h.of_types hplaces fun k type ht => ?_) rfl rfl
    exact (builtType?_congr (map_get?_recycle g (fun _ => rfl) handle k)).symm.trans ht
  | giveUp reference =>
    refine hnobody (h.of_types hplaces fun k type ht => ?_) rfl rfl
    obtain ⟨c', hc', ht⟩ := Option.bind_eq_some_iff.1 ht
    have hold : g.get? k = some c' := by
      rcases connections_giveUp g reference with hsame | ⟨handle, hset⟩
      · rwa [get?, ← hsame]
      · rw [get?, show (g.perform (.giveUp reference)).connections = _ from hset] at hc'
        by_cases hk : k = handle
        · subst hk
          rw [List.getElem?_set_self'] at hc'
          cases hplace : g.connections[k]? <;> simp [hplace] at hc'
        · rwa [List.getElem?_set_ne (Ne.symm hk)] at hc'
    rw [builtType?, hold]
    exact ht
  | redraw environment => exact hnobody (h.of_types (Nat.le_refl _) fun _ _ ht => ht) rfl rfl
  | setHook _ _ _ | addListener _ _ | removeListener _ _ | setFailureListener _ _
  | attachEndpoint _ _ | dropEndpoint _ | installSink _ | fetchFrames _ | dropSink _ =>
    exact hnobody (hset rfl) rfl rfl
  | _ => exact hnobody (hwork rfl) rfl rfl

/-! ## All runs -/

instance (g g' : Gateway) (k : Nat) : Decidable (Ends g g' k) :=
  decidable_of_iff ((g.state? k).any (· ≠ .null) = true ∧ g'.state? k = some .null) (by
    simp [Ends, Option.any_eq_true])

/-- The bindings that an action ends by failure. -/
def failedBy (g : Gateway) (a : Action) : List Nat :=
  (List.range g.connections.length).filter fun k => a.closes k = false ∧ Ends g (g.perform a) k

/-- What the actions of a run come to, each where it is done. -/
def total (f : Gateway → Action → Nat) (g : Gateway) : List Action → Nat
  | [] => 0
  | a :: rest => f g a + total f (g.perform a) rest

theorem Failed.length_eq {places : List Nat} (h : Failed g a (g.perform a) places) :
    places.length = (g.failedBy a).length := by
  refine ((List.perm_ext_iff_of_nodup h.nodup (List.nodup_range.filter _)).2 fun k => ?_).length_eq
  have hplaced (hends : Ends g (g.perform a) k) : k < g.connections.length := by
    obtain ⟨⟨s, hs, -⟩, -⟩ := hends
    obtain ⟨t, ht, -⟩ := exists_stand? hs
    exact lt_of_stand? ht
  rw [h.mem, List.mem_filter, decide_eq_true_eq, List.mem_range]
  constructor
  · rintro ⟨hclose, hends⟩
    exact ⟨hplaced hends, Bool.eq_false_iff.2 (hclose ∘ Action.closes_iff.1), hends⟩
  · rintro ⟨-, hcloses, hends⟩
    exact ⟨fun ha => by simp [Action.closes_iff.2 ha] at hcloses, hends⟩

/-- What a run counts is the sum of what its actions count, by induction on the actions. -/
theorem counts_run {actions : List Action} (hk : g.Throughout KeepsBound actions) :
    ∃ failed, Counts g (g.run actions)
      { built := g.total builds actions
        failed
        disagreed := g.total (fun g a => (g.disagrees a).toNat) actions } := by
  induction actions generalizing g with
  | nil => exact ⟨0, .refl g⟩
  | cons a rest ih =>
    obtain ⟨failed, hstep⟩ := counts_perform g hk.1
    obtain ⟨more, hrest⟩ := ih hk.2
    exact ⟨failed + more, hstep.trans hrest⟩

/-- As many connections are built as are handed out that were not handed out before, by induction on
the actions. -/
theorem card_handedOut {places : Finset Nat} (h : Handed g places) (hs : Stocked g)
    (actions : List Action) :
    ((g.handedOut actions).toFinset ∪ places).card = places.card + g.total builds actions := by
  induction actions generalizing g places with
  | nil => simp [handedOut, total]
  | cons a rest ih =>
    obtain ⟨hstep, hcard⟩ := h.perform hs a
    have hrest := ih hstep (hs.perform a)
    rw [handedOut, List.toFinset_append, Finset.union_comm (g.handsOut? a).toList.toFinset,
      Finset.union_assoc, hrest, hcard, total, Nat.add_assoc]

/-- With listeners that do not call back, every binding that ends by failure is counted, by induction
on the actions. -/
theorem failures_run (hs : g.Steady) {actions : List Action} (hp : g.Throughout Proper actions) :
    (g.run actions).metrics.failures =
      g.metrics.failures + .ofNat (g.total (fun g a => (g.failedBy a).length) actions) := by
  induction actions generalizing g with
  | nil => exact (UInt64.add_zero _).symm
  | cons a rest ih =>
    obtain ⟨places, hfailed⟩ := (hs.effect hp.1).plot.failed
    have hrest := ih (hs.perform hp.1) hp.2
    have hrun : g.run (a :: rest) = (g.perform a).run rest := rfl
    rw [hrun, hrest, hfailed.counted, hfailed.length_eq, total, UInt64.ofNat_add, UInt64.add_assoc]

/-- After every run in which no connection goes while it is bound, the gauge equals the number of
open connections, and the counters equal the numbers of different connections that were handed out,
of exchanges that came to no agreement and, with listeners that do not call back, of bindings that
ended by failure. -/
theorem metrics_equal_history (config : GatewayConfig) (environment : Environment)
    {actions : List Action} (hk : (make config environment).Throughout KeepsBound actions) :
    let g₀ := make config environment
    let g := g₀.run actions
    0 ≤ g.metrics.openConnections ∧ g.metrics.openConnections = g.openCount ∧
    g.metrics.created = .ofNat (g₀.handedOut actions).toFinset.card ∧
    g.metrics.negotiationFailures =
      .ofNat (g₀.total (fun g a => (g.disagrees a).toNat) actions) ∧
    (g₀.Throughout Proper actions → g.metrics.failures =
      .ofNat (g₀.total (fun g a => (g.failedBy a).length) actions)) := by
  intro g₀ g
  obtain ⟨failed, hcounts⟩ := counts_run hk
  have hgauge : g.metrics.openConnections = g.openCount := by
    have hbalance := hcounts.gauge
    have hzero : (make config environment).metrics.openConnections -
        (make config environment).openCount = 0 := rfl
    rw [hzero] at hbalance
    exact Int.eq_of_sub_eq_zero hbalance
  have hnone : Handed (make config environment) ∅ :=
    ⟨fun k hk => absurd hk (Finset.notMem_empty k), fun k type ht => by
      simp [builtType?, get?, make] at ht⟩
  have hcard := card_handedOut hnone (.make config environment) actions
  rw [Finset.union_empty, Finset.card_empty, Nat.zero_add] at hcard
  refine ⟨?_, hgauge, ?_, ?_, fun hp => ?_⟩
  · rw [hgauge]
    exact Int.natCast_nonneg _
  · rw [hcard]
    exact hcounts.created.trans (UInt64.zero_add _)
  · exact hcounts.negotiationFailures.trans (UInt64.zero_add _)
  · exact (failures_run (.make config environment) hp).trans (UInt64.zero_add _)

/-- Two links are joined, one of them fails, is recycled and is handed out again. A call gets an offer
that is no description, and fails. -/
theorem metrics_equal_history_joined :
    let actions : List Action := [.create .internal, .create .internal, .bind 0, .bind 1, .join 0 1,
      .fail 0, .recycle 0, .create .internal, .create .rtp, .bind 2, .processOffer 2 "offer"]
    let g₀ := make {} .isolated
    let g := g₀.run actions
    g₀.handedOut actions = [0, 1, 0, 2] ∧ g.openCount = 1 ∧ g.metrics.openConnections = 1 ∧
      g.metrics.created = 3 ∧ g.metrics.negotiationFailures = 1 ∧ g.metrics.failures = 2 := by
  intro actions g₀ g
  have hk : g₀.Throughout KeepsBound actions := by decide +kernel
  have hp : g₀.Throughout Proper actions := by decide +kernel
  obtain ⟨-, hgauge, hcreated, hnegotiation, hfailures⟩ := metrics_equal_history {} .isolated hk
  have hhanded : g₀.handedOut actions = [0, 1, 0, 2] := by decide +kernel
  have hopen : g.openCount = 1 := by decide +kernel
  have hdisagreed : g₀.total (fun g a => (g.disagrees a).toNat) actions = 1 := by decide +kernel
  have hfailed : g₀.total (fun g a => (g.failedBy a).length) actions = 2 := by decide +kernel
  have hplaces : [0, 1, 0, 2].toFinset.card = 3 := by decide
  have hrun : (make {} .isolated).run actions = g := rfl
  have hfailures := hfailures hp
  rw [hrun, hopen] at hgauge
  rw [hrun, hhanded, hplaces] at hcreated
  rw [hrun, hdisagreed] at hnegotiation
  rw [hrun, hfailed] at hfailures
  exact ⟨hhanded, hopen, hgauge, hcreated, hnegotiation, hfailures⟩

end Gateway

end MediaGateway
