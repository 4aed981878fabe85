import MediaGateway.Proofs.Gateway.Timeout

/-!
# One owner for a connection

Whoever creates a connection owns it until it is recycled. A handle outlives recycling, though, and
nothing keeps its holder from using it: the connection may be recycled again while it waits, and it
may be bound while it waits. As long as neither happens, no connection has two owners and every
connection that is handed out is idle; and if a connection is recycled while it waits, two owners
get it. The pools keep to their size in any case.
-/

namespace MediaGateway.Gateway

variable {g g' : Gateway} {k handle : Nat} {type : ConnectionType}

/-! ## Connections that wait -/

theorem get?_giveUp (g : Gateway) (reference : Nat) (hk : k ∈ g.pool type) :
    (g.giveUp reference).get? k = g.get? k := by
  simp only [giveUp]
  split
  · rfl
  · rename_i handle _
    simp only [reap]
    split
    · rfl
    · rename_i hfree
      have hne : handle ≠ k := by
        rintro rfl
        cases type <;> simp_all [isHeld, pool]
      simp only [get?, List.getElem?_set_ne hne]

theorem pool_adopt (g : Gateway) (id : UInt32) (hooks : Hooks) :
    (g.adopt id hooks).2.pool = g.pool := by
  funext type
  cases type <;> rfl

theorem pool_giveUp (g : Gateway) (reference : Nat) : (g.giveUp reference).pool = g.pool := by
  funext type
  simp only [giveUp, reap]
  split
  · rfl
  · split <;> cases type <;> rfl

/-- Whoever comes, waits or goes: who waits already stays, and no more happens to it than that those
who watch it are taken off. -/
theorem Restock.map_get? (h : Restock g g') {α : Type} {u : Connection → α}
    (hu : ∀ c, u c.detach = u c) (hk : k ∈ g.pool type) (hlt : k < g.connections.length) :
    (g'.get? k).map u = (g.get? k).map u := by
  cases h with
  | create type => rw [get?_create g type hlt]
  | adopt id hooks =>
    exact congrArg (Option.map u) ((get?_addConnection g _ k).trans (if_neg (Nat.ne_of_lt hlt)))
  | recycle handle => exact map_get?_recycle g hu handle k
  | giveUp reference => rw [get?_giveUp g reference hk]

/-- The pools keep to their size, and what waits in one of them is a connection of its type. -/
structure Stocked (g : Gateway) : Prop where
  bounded : ∀ type, (g.pool type).length ≤ g.config.poolSize
  typed : ∀ type, ∀ handle ∈ g.pool type, g.builtType? handle = some type

theorem Stocked.exists_get? (h : Stocked g) (hk : k ∈ g.pool type) :
    ∃ c, g.get? k = some c ∧ c.builtType? = some type :=
  Option.bind_eq_some_iff.1 (h.typed type k hk)

theorem Stocked.lt (h : Stocked g) (hk : k ∈ g.pool type) : k < g.connections.length := by
  obtain ⟨c, hc, -⟩ := h.exists_get? hk
  exact lt_of_get? hc

theorem Stocked.make (config : GatewayConfig) (environment : Environment) :
    Stocked (make config environment) where
  bounded := fun type => by cases type <;> exact Nat.zero_le _
  typed := fun type k hk => by cases type <;> exact absurd hk List.not_mem_nil

theorem builtType?_congr (h : (g'.get? k).map Connection.builtType? =
    (g.get? k).map Connection.builtType?) : g'.builtType? k = g.builtType? k := by
  simp only [builtType?]
  cases hc : g.get? k <;> cases hc' : g'.get? k <;> simp_all

/-- What waits afterwards: what waited before, or what was given back. -/
theorem Restock.mem_pool (h : Restock g g') (hk : k ∈ g'.pool type) :
    k ∈ g.pool type ∨ (g' = (g.recycle k).2 ∧ g.poolFor? k = some type) := by
  cases h with
  | create type' =>
    rw [pool_create] at hk
    by_cases ht : type = type'
    · rw [if_pos ht, ← ht] at hk
      exact .inl (List.mem_of_mem_tail hk)
    · rw [if_neg ht] at hk
      exact .inl hk
  | adopt id hooks => exact .inl (pool_adopt g id hooks ▸ hk)
  | recycle handle =>
    rw [pool_recycle] at hk
    by_cases hfor : g.poolFor? handle = some type
    · rw [if_pos hfor] at hk
      rcases List.mem_cons.1 hk with rfl | hk
      · exact .inr ⟨rfl, hfor⟩
      · exact .inl hk
    · rw [if_neg hfor] at hk
      exact .inl hk
  | giveUp reference => exact .inl (pool_giveUp g reference ▸ hk)

theorem Stocked.sameStock (h : Stocked g) (hs : SameStock g g') : Stocked g' where
  bounded := fun type => by
    rw [hs.pool, hs.config]
    exact h.bounded type
  typed := fun type k hk => by
    rw [hs.pool] at hk
    rw [hs.types]
    exact h.typed type k hk

theorem Stocked.restock (h : Stocked g) (hr : Restock g g') : Stocked g' where
  bounded := by
    intro type
    rw [hr.ground.1]
    have hbounded := h.bounded type
    cases hr with
    | create type' =>
      rw [pool_create]
      split
      · rename_i ht
        rw [List.length_tail, ← ht]
        omega
      · exact hbounded
    | adopt id hooks => rwa [pool_adopt]
    | recycle handle =>
      rw [pool_recycle]
      split
      · rename_i hfor
        obtain ⟨-, -, -, -, hroom⟩ := poolFor?_eq_some.1 hfor
        exact hroom
      · exact hbounded
    | giveUp reference => rwa [pool_giveUp]
  typed := by
    intro type k hk
    rcases hr.mem_pool hk with hk | ⟨rfl, hfor⟩
    · rw [builtType?_congr (hr.map_get? (fun _ => rfl) hk (h.lt hk))]
      exact h.typed type k hk
    · obtain ⟨c, hc, ht, -⟩ := poolFor?_eq_some.1 hfor
      rw [builtType?_congr (map_get?_recycle g (fun _ => rfl) k k), builtType?, hc]
      exact ht

theorem Stocked.perform (h : Stocked g) (a : Action) : Stocked (g.perform a) := by
  cases hk : a.kind with
  | restock => exact h.restock (restock_perform g hk)
  | setting => exact h.sameStock (setting_perform g hk).sameStock
  | redraw =>
    obtain ⟨e, rfl⟩ := Action.eq_redraw hk
    exact ⟨h.bounded, h.typed⟩
  | work => exact h.sameStock (turns_perform g hk).sameStock

/-! ## Owners -/

/-- The connections that have an owner after an action. -/
def ownedAfter (g : Gateway) (owned : List Nat) : Action → List Nat
  | .create type => (g.obtain type).1 :: owned
  | .recycle handle =>
    match (g.recycle handle).1 with
    | .ok _ => owned.filter (· ≠ handle)
    | .error _ => owned
  | _ => owned

/-- The connections that have an owner after a run. -/
def ownedBy (g : Gateway) (owned : List Nat) : List Action → List Nat
  | [] => owned
  | a :: rest => (g.perform a).ownedBy (g.ownedAfter owned a) rest

/-- Whether an action puts a connection into a pool in which it waits already. -/
def doubles (g : Gateway) : Action → Bool
  | .recycle handle => (g.poolFor? handle).any fun type => (g.pool type).contains handle
  | _ => false

/-- Whether an action puts no connection into a pool a second time. -/
def RecyclesOnce (g : Gateway) (a : Action) : Prop := g.doubles a = false

/-- No connection waits twice, and none that has an owner waits. -/
structure Apart (g : Gateway) (owned : List Nat) : Prop where
  known : ∀ handle ∈ owned, handle < g.connections.length
  nodup : ∀ type, (g.pool type).Nodup
  apart : ∀ type, ∀ handle ∈ g.pool type, handle ∉ owned

theorem Stocked.type_eq (h : Stocked g) {type' : ConnectionType} (hk : k ∈ g.pool type)
    (hk' : k ∈ g.pool type') : type = type' :=
  Option.some.inj ((h.typed type k hk).symm.trans (h.typed type' k hk'))

/-- What is handed out is the connection that was given back last, as it is, or a new one. -/
theorem obtain_cases (h : Stocked g) (type : ConnectionType) :
    ∃ c, (g.create type).2.get? (g.obtain type).1 = some c ∧ c.builtType? = some type ∧
      ((g.get? (g.obtain type).1 = some c ∧
          g.pool type = (g.obtain type).1 :: (g.pool type).tail) ∨
        ((g.obtain type).1 = g.connections.length ∧ c.life = {})) := by
  cases hp : g.pool type with
  | cons handle rest =>
    have hobtain : (g.obtain type).1 = handle := by simp only [obtain, hp]
    have hmem : handle ∈ g.pool type := by
      rw [hp]
      exact List.mem_cons_self
    obtain ⟨c, hc, ht⟩ := h.exists_get? hmem
    rw [hobtain, get?_create g type (lt_of_get? hc)]
    exact ⟨c, hc, ht, .inl ⟨hc, by simp⟩⟩
  | nil =>
    have hobtain : (g.obtain type).1 = g.connections.length := by
      simp only [obtain, hp]
      cases type <;> rfl
    rw [hobtain]
    simp only [create, get?_refer, obtain, hp]
    cases type with
    | rtp => exact ⟨_, (get?_addConnection _ _ _).trans (if_pos rfl), rfl, .inr ⟨trivial, rfl⟩⟩
    | internal => exact ⟨_, (get?_addConnection _ _ _).trans (if_pos rfl), rfl, .inr ⟨trivial, rfl⟩⟩

namespace Apart

variable {owned : List Nat}

theorem make (config : GatewayConfig) (environment : Environment) :
    Apart (make config environment) [] where
  known := fun handle h => absurd h List.not_mem_nil
  nodup := fun type => by cases type <;> exact List.nodup_nil
  apart := fun type k hk => List.not_mem_nil

theorem of_pools (h : Apart g owned) (hp : g'.pool = g.pool)
    (hplaces : g.connections.length ≤ g'.connections.length) : Apart g' owned where
  known := fun k hk => Nat.lt_of_lt_of_le (h.known k hk) hplaces
  nodup := hp ▸ h.nodup
  apart := hp ▸ h.apart

theorem sameStock (h : Apart g owned) (hs : SameStock g g') : Apart g' owned :=
  h.of_pools (funext hs.pool) (Nat.le_of_eq hs.places.symm)

theorem obtained_notMem (h : Apart g owned) (hs : Stocked g) (type : ConnectionType) :
    (g.obtain type).1 ∉ owned := by
  obtain ⟨c, -, -, ⟨-, hp⟩ | ⟨hnew, -⟩⟩ := obtain_cases hs type
  · refine h.apart type _ ?_
    rw [hp]
    exact List.mem_cons_self
  · intro hk
    have hlt := h.known _ hk
    omega

theorem create (h : Apart g owned) (hs : Stocked g) (type : ConnectionType) :
    Apart (g.create type).2 ((g.obtain type).1 :: owned) := by
  have hrestock : Restock g (g.create type).2 := .create type
  have hplaces := (hrestock.lives.aged hrestock.ground.1).places
  obtain ⟨c, hc, -, hcases⟩ := obtain_cases hs type
  refine ⟨fun k hk => ?_, fun type' => ?_, fun type' k hk => ?_⟩
  · rcases List.mem_cons.1 hk with rfl | hk
    · exact lt_of_get? hc
    · exact Nat.lt_of_lt_of_le (h.known k hk) hplaces
  · rw [pool_create]
    split
    · exact (h.nodup type).tail
    · exact h.nodup type'
  · rw [pool_create] at hk
    have hold : k ∈ g.pool type' := by
      split at hk
      · rename_i ht
        exact ht ▸ List.mem_of_mem_tail hk
      · exact hk
    -- The one handed out is in no pool any longer: it was in one only, and there once.
    have hne : k ≠ (g.obtain type).1 := by
      rintro rfl
      rcases hcases with ⟨-, hp⟩ | ⟨hnew, -⟩
      · have hnodup := h.nodup type
        rw [hp] at hnodup
        have ht : type' = type := hs.type_eq hold (by rw [hp]; exact List.mem_cons_self)
        rw [if_pos ht] at hk
        exact (List.nodup_cons.1 hnodup).1 hk
      · have hlt := hs.lt hold
        omega
    intro hmem
    rcases List.mem_cons.1 hmem with rfl | hmem
    · exact hne rfl
    · exact h.apart type' k hold hmem

theorem recycle (h : Apart g owned) {handle : Nat}
    (hd : g.RecyclesOnce (.recycle handle)) :
    Apart (g.recycle handle).2 (g.ownedAfter owned (.recycle handle)) := by
  have hrestock : Restock g (g.recycle handle).2 := .recycle handle
  have hplaces := (hrestock.lives.aged hrestock.ground.1).places
  have hsub {k : Nat} (hk : k ∈ g.ownedAfter owned (.recycle handle)) : k ∈ owned := by
    simp only [ownedAfter] at hk
    split at hk
    · exact List.mem_of_mem_filter hk
    · exact hk
  refine ⟨fun k hk => Nat.lt_of_lt_of_le (h.known k (hsub hk)) hplaces, fun type => ?_,
    fun type k hk => ?_⟩
  · rw [pool_recycle]
    split
    · rename_i hfor
      refine List.nodup_cons.2 ⟨fun hmem => ?_, h.nodup type⟩
      simp [RecyclesOnce, doubles, hfor, hmem] at hd
    · exact h.nodup type
  · rw [pool_recycle] at hk
    split at hk
    · rename_i hfor
      rcases List.mem_cons.1 hk with rfl | hk
      · obtain ⟨c, hc, ht, hs, -⟩ := poolFor?_eq_some.1 hfor
        simp [ownedAfter, recycle_of_idle hc (Connection.builtType?_eq_some.1 ht).1 hs]
      · exact fun hmem => h.apart type k hk (hsub hmem)
    · exact fun hmem => h.apart type k hk (hsub hmem)

/-- Actions keep owned and waiting connections apart, unless they make one wait twice. -/
theorem perform (h : Apart g owned) (hs : Stocked g) {a : Action} (hd : g.RecyclesOnce a) :
    Apart (g.perform a) (g.ownedAfter owned a) := by
  have howned (hk : a.kind ≠ .restock) : g.ownedAfter owned a = owned := by
    cases a with
    | create _ | recycle _ => exact absurd rfl hk
    | _ => rfl
  cases hk : a.kind with
  | restock =>
    have hrestock := restock_perform g hk
    have hplaces := (hrestock.lives.aged hrestock.ground.1).places
    cases a with
    | create type => exact h.create hs type
    | adopt id hooks => exact h.of_pools (pool_adopt g id hooks) hplaces
    | recycle handle => exact h.recycle hd
    | giveUp reference => exact h.of_pools (pool_giveUp g reference) hplaces
    | _ => cases hk
  | setting =>
    rw [howned (by simp [hk])]
    exact h.sameStock (setting_perform g hk).sameStock
  | redraw =>
    obtain ⟨e, rfl⟩ := Action.eq_redraw hk
    exact h.of_pools rfl (Nat.le_refl _)
  | work =>
    rw [howned (by simp [hk])]
    exact h.sameStock (turns_perform g hk).sameStock

end Apart

/-! ## Connections that wait stay idle -/

/-- No connection has come, and none has gone back to where it was before. -/
def Onward (g g' : Gateway) : Prop :=
  ∀ k l', g'.life? k = some l' → ∃ l, g.life? k = some l ∧ l.progress ≤ l'.progress

namespace Onward

theorem of_connections (h : g'.connections = g.connections) : Onward g g' := by
  intro k l hl
  simp only [life?, front?, get?, h] at hl
  exact ⟨l, hl, Nat.le_refl _⟩

theorem of_same (h : SameLives g g') : Onward g g' := by
  intro k l hl
  exact ⟨l, h.lives k ▸ hl, Nat.le_refl _⟩

theorem trans {g'' : Gateway} (h : Onward g g') (h' : Onward g' g'') : Onward g g'' := by
  intro k l'' hl''
  obtain ⟨l', hl', hp'⟩ := h' k l'' hl''
  obtain ⟨l, hl, hp⟩ := h k l' hl'
  exact ⟨l, hl, Nat.le_trans hp hp'⟩

theorem of_life {m m' : Lifecycle} (hm : g.life? handle = some m)
    (hlives : ∀ k, g'.life? k = if k = handle then some m' else g.life? k)
    (hp : m.progress ≤ m'.progress) : Onward g g' := by
  intro k l' hl'
  rcases life_cases hlives hl' with ⟨rfl, rfl⟩ | ⟨-, hl⟩
  · exact ⟨m, hm, hp⟩
  · exact ⟨l', hl, Nat.le_refl _⟩

theorem change (h : Change g g') : Onward g g' := by
  intro k l' hl'
  have hlt := lt_of_life? hl'
  rw [h.sameStock.places] at hlt
  rcases (h.lives.aged h.sameStock.config).lives k l' hl' with ⟨l, hl, ha⟩ | ⟨hk, -⟩
  · exact ⟨l, hl, ha.progress_le⟩
  · omega

theorem refresh (g : Gateway) (handle : Nat) : Onward g (g.refresh handle) := by
  intro k l' hl'
  rw [life?_refresh] at hl'
  by_cases hk : k = handle
  · rw [if_pos hk] at hl'
    obtain ⟨l, hl, rfl⟩ := Option.map_eq_some_iff.1 hl'
    refine ⟨l, hk ▸ hl, Nat.le_of_eq (Lifecycle.progress_congr ?_ ?_).symm⟩
    · exact Lifecycle.refresh_state _ _ _
    · simp only [Lifecycle.refresh]
      split <;> rfl
  · rw [if_neg hk] at hl'
    exact ⟨l', hl', Nat.le_refl _⟩

theorem put {c : Connection} {l : Lifecycle} (hc : g.get? handle = some c)
    (hp : c.life.progress ≤ l.progress) : Onward g (g.put handle { c with life := l }) := by
  refine of_life (life?_of_get? hc) (fun k => ?_) hp
  simp only [life?, front?, get?_put]
  by_cases hk : k = handle
  · subst hk
    simp [hc]
  · rw [if_neg hk, if_neg hk]

theorem teardown {c : Connection} (hc : g.get? handle = some c) (failed : Bool) :
    Onward g (g.teardown handle c failed).2 := by
  have hfronts := (teardown_front hc failed).2.1.fronts
  have hlives (k : Nat) : (g.teardown handle c failed).2.life? k =
      if k = handle then some (g.endedLife c.life) else g.life? k := by
    simp only [life?, hfronts]
    by_cases hk : k = handle
    · simp only [if_pos hk, Option.map_some]
      rfl
    · simp only [if_neg hk]
      rfl
  refine of_life (life?_of_get? hc) hlives ?_
  simp only [Lifecycle.progress, endedLife, Lifecycle.enter_state, Lifecycle.enter_generation]
  split <;> omega

/-- Nothing that concerns what is there takes a connection back to where it was before. -/
theorem turn (h : Turn g g') : Onward g g' := by
  have hbeat {c : Connection} {beat : Lifecycle.Beat} {epoch : Nat} {life : Lifecycle}
      (hb : c.life.beat epoch = (beat, life)) : life.progress = c.life.progress := by
    simp only [Lifecycle.beat] at hb
    split at hb <;> obtain ⟨-, rfl⟩ := Prod.mk.inj hb <;> rfl
  cases h with
  | move h =>
    cases h with
    | change h => exact .change h
    | refresh handle => exact .refresh g handle
    | send handle frame =>
      simp only [Gateway.send]
      repeat' split
      · exact .of_connections rfl
      · exact .of_connections rfl
      · exact (of_same (.of_behind (.modifyLink _))).trans (.refresh _ _)
      · exact .of_connections rfl
  | beat hc hb => exact put hc (Nat.le_of_eq (hbeat hb).symm)
  | @expire handle c epoch life hc hb =>
    refine (put hc (Nat.le_of_eq (hbeat hb).symm)).trans (teardown ?_ true)
    rw [get?_put, if_pos rfl, hc]
    rfl
  | takeTasks q => exact .of_connections rfl
  | keepTasks q tasks => exact .of_connections rfl

theorem turns (h : Turns g g') : Onward g g' := by
  induction h with
  | refl => exact .of_connections rfl
  | tail _ ht ih => exact ih.trans (.turn ht)

end Onward

/-- Whether an action binds none of the connections that wait. -/
def LeavesWaiting (g : Gateway) (a : Action) : Prop :=
  ∀ handle ∈ g.rtpPool ++ g.internalPool,
    ((g.perform a).life? handle).map Lifecycle.generation =
      (g.life? handle).map Lifecycle.generation

instance (g : Gateway) (a : Action) : Decidable (g.LeavesWaiting a) :=
  inferInstanceAs (Decidable (∀ handle ∈ g.rtpPool ++ g.internalPool, _))

/-- Connections that wait are idle. -/
def Rests (g : Gateway) : Prop :=
  ∀ type, ∀ handle ∈ g.pool type, ∃ l, g.life? handle = some l ∧ l.state = .null

theorem LeavesWaiting.generation_eq {a : Action} (h : g.LeavesWaiting a) (hk : k ∈ g.pool type)
    {l l' : Lifecycle} (hl : g.life? k = some l) (hl' : (g.perform a).life? k = some l') :
    l'.generation = l.generation := by
  have hmem : k ∈ g.rtpPool ++ g.internalPool := by
    rw [List.mem_append]
    cases type with
    | rtp => exact .inl hk
    | internal => exact .inr hk
  have hgeneration := h k hmem
  rw [hl, hl'] at hgeneration
  exact Option.some.inj hgeneration

theorem life?_congr (h : (g'.get? k).map Connection.life = (g.get? k).map Connection.life) :
    g'.life? k = g.life? k := by
  simp only [life?, front?, Option.map_map]
  exact h

theorem Rests.restock (h : Rests g) (hs : Stocked g) (hr : Restock g g') : Rests g' := by
  intro type k hk
  rcases hr.mem_pool hk with hk | ⟨rfl, hfor⟩
  · rw [life?_congr (hr.map_get? (fun _ => rfl) hk (hs.lt hk))]
    exact h type k hk
  · obtain ⟨c, hc, -, hnull, -⟩ := poolFor?_eq_some.1 hfor
    rw [life?_congr (map_get?_recycle g (fun _ => rfl) k k)]
    exact ⟨c.life, life?_of_get? hc, hnull⟩

theorem Rests.perform (h : Rests g) (hs : Stocked g) {a : Action} (ha : g.LeavesWaiting a) :
    Rests (g.perform a) := by
  have hkept (hs' : SameStock g (g.perform a)) (ho : Onward g (g.perform a)) :
      Rests (g.perform a) := by
    intro type k hk
    obtain ⟨c, hc, -⟩ := (hs.perform a).exists_get? hk
    have hl' := life?_of_get? hc
    rw [hs'.pool] at hk
    obtain ⟨l, hl, hnull⟩ := h type k hk
    obtain ⟨l₁, hl₁, hp⟩ := ho k _ hl'
    obtain rfl : l = l₁ := Option.some.inj (hl.symm.trans hl₁)
    exact ⟨c.life, hl', Lifecycle.state_of_progress_le hnull (ha.generation_eq hk hl hl') hp⟩
  cases hk : a.kind with
  | restock => exact h.restock hs (restock_perform g hk)
  | setting =>
    have hset := setting_perform g hk
    exact hkept hset.sameStock (.of_same hset.sameLives)
  | redraw =>
    obtain ⟨e, rfl⟩ := Action.eq_redraw hk
    exact h
  | work =>
    have ht := turns_perform g hk
    exact hkept ht.sameStock (.turns ht)

/-! ## Runs -/

/-- Whether something holds of every action of a run, where it is done. -/
def Throughout (p : Gateway → Action → Prop) (g : Gateway) : List Action → Prop
  | [] => True
  | a :: rest => p g a ∧ Throughout p (g.perform a) rest

instance Throughout.decidable {p : Gateway → Action → Prop} [∀ g a, Decidable (p g a)] (g : Gateway)
    (actions : List Action) : Decidable (g.Throughout p actions) :=
  match actions with
  | [] => .isTrue trivial
  | a :: rest =>
    have := Throughout.decidable (p := p) (g.perform a) rest
    inferInstanceAs (Decidable (p g a ∧ (g.perform a).Throughout p rest))

theorem Stocked.run (h : Stocked g) (actions : List Action) : Stocked (g.run actions) := by
  induction actions generalizing g with
  | nil => exact h
  | cons a rest ih => exact ih (h.perform a)

theorem Apart.run {owned : List Nat} {actions : List Action} (h : Apart g owned) (hs : Stocked g)
    (hd : g.Throughout RecyclesOnce actions) :
    Apart (g.run actions) (g.ownedBy owned actions) := by
  induction actions generalizing g owned with
  | nil => exact h
  | cons a rest ih => exact ih (h.perform hs hd.1) (hs.perform a) hd.2

theorem Rests.run {actions : List Action} (h : Rests g) (hs : Stocked g)
    (hl : g.Throughout LeavesWaiting actions) : Rests (g.run actions) := by
  induction actions generalizing g with
  | nil => exact h
  | cons a rest ih => exact ih (h.perform hs hl.1) (hs.perform a) hl.2

theorem Throughout.take {p : Gateway → Action → Prop} {actions : List Action}
    (h : g.Throughout p actions) (n : Nat) : g.Throughout p (actions.take n) := by
  induction actions generalizing g n with
  | nil => simpa using h
  | cons a rest ih =>
    cases n with
    | zero => trivial
    | succ n => exact ⟨h.1, ih h.2 n⟩

theorem doubles_eq_true : g.doubles (.recycle handle) = true ↔
    ∃ type, g.poolFor? handle = some type ∧ handle ∈ g.pool type := by
  simp [doubles, Option.any_eq_true]

theorem not_nodup_of_doubles {a : Action} (h : g.doubles a = true) :
    ∃ type, ¬((g.perform a).pool type).Nodup := by
  cases a with
  | recycle handle =>
    obtain ⟨type, hfor, hmem⟩ := doubles_eq_true.1 h
    refine ⟨type, fun hnodup => ?_⟩
    rw [perform, pool_recycle, if_pos hfor] at hnodup
    exact (List.nodup_cons.1 hnodup).1 hmem
  | _ => simp [doubles] at h

/-- The pools of a run hold no connection twice exactly if no connection is recycled while it
waits. -/
theorem throughout_recyclesOnce_iff {owned : List Nat} (h : Apart g owned) (hs : Stocked g)
    (actions : List Action) :
    g.Throughout RecyclesOnce actions ↔
      ∀ n type, ((g.run (actions.take n)).pool type).Nodup := by
  constructor
  · intro hd n type
    exact (h.run hs (hd.take n)).nodup type
  · intro hnodup
    induction actions generalizing g owned with
    | nil => trivial
    | cons a rest ih =>
      have hd : g.RecyclesOnce a := by
        cases hd : g.doubles a with
        | false => exact hd
        | true =>
          obtain ⟨type, hnot⟩ := not_nodup_of_doubles hd
          exact absurd (hnodup 1 type) hnot
      exact ⟨hd, ih (h.perform hs hd) (hs.perform a) fun n => hnodup (n + 1)⟩

/-! ## What creating hands out -/

theorem resolve?_create (g : Gateway) (type : ConnectionType) :
    (g.create type).2.resolve? (g.create type).1 = some (g.obtain type).1 := by
  simp [create, refer, resolve?]

/-- Creating as many connections as wait in the front of a pool hands these out. -/
theorem run_creates {front rest : List Nat} (owned : List Nat) (hp : g.pool type = front ++ rest) :
    (g.run (List.replicate front.length (.create type))).pool type = rest ∧
      ∀ k, k ∈ front ∨ k ∈ owned →
        k ∈ g.ownedBy owned (List.replicate front.length (.create type)) := by
  induction front generalizing g owned with
  | nil => exact ⟨hp, fun k hk => hk.resolve_left List.not_mem_nil⟩
  | cons handle front ih =>
    have hobtain : (g.obtain type).1 = handle := by simp only [obtain, hp, List.cons_append]
    have hpool : (g.create type).2.pool type = front ++ rest := by
      rw [pool_create, if_pos rfl, hp, List.cons_append, List.tail_cons]
    obtain ⟨hrest, howned⟩ := ih (handle :: owned) hpool
    refine ⟨hrest, fun k hk => ?_⟩
    have hk : k ∈ front ∨ k ∈ handle :: owned := by
      simp only [List.mem_cons] at hk ⊢
      rcases hk with (rfl | hk) | hk
      · exact .inr (.inl rfl)
      · exact .inl hk
      · exact .inr (.inr hk)
    have hmem := howned k hk
    rwa [← hobtain] at hmem

/-- A connection that is recycled while it waits is handed out to a second owner. -/
theorem handed_out_twice (h : g.doubles (.recycle handle) = true) (owned : List Nat) :
    ∃ type n, ((g.run (.recycle handle :: List.replicate n (.create type))).obtain type).1 = handle ∧
      handle ∈ g.ownedBy owned (.recycle handle :: List.replicate n (.create type)) := by
  obtain ⟨type, hfor, hmem⟩ := doubles_eq_true.1 h
  obtain ⟨front, rest, hsplit⟩ := List.append_of_mem hmem
  have hpool : (g.perform (.recycle handle)).pool type = (handle :: front) ++ (handle :: rest) := by
    rw [perform, pool_recycle, if_pos hfor, hsplit]
    rfl
  obtain ⟨hrest, howned⟩ := run_creates (g.ownedAfter owned (.recycle handle)) hpool
  refine ⟨type, (handle :: front).length, ?_, howned handle (.inl List.mem_cons_self)⟩
  have hrun : (g.run (.recycle handle ::
      List.replicate (handle :: front).length (.create type))).pool type = handle :: rest := hrest
  simp only [obtain, hrun]

/-- What may be handed out: the pools keep to their size, and what is handed out is of the type that
was asked for. If no connection was recycled while it waited, it has no other owner, and if none was
bound while it waited, it is idle. The pools hold no connection twice exactly if none was recycled
while it waited, and otherwise one gets two owners. -/
theorem connections_have_one_owner (config : GatewayConfig) (environment : Environment)
    (actions : List Action) :
    let fresh := make config environment
    let g := fresh.run actions
    let owned := fresh.ownedBy [] actions
    (∀ type, (g.pool type).length ≤ config.poolSize) ∧
    (∀ type, ∃ c,
      (g.create type).2.resolve? (g.create type).1 = some (g.obtain type).1 ∧
      (g.create type).2.get? (g.obtain type).1 = some c ∧ c.builtType? = some type ∧
      (fresh.Throughout RecyclesOnce actions → (g.obtain type).1 ∉ owned) ∧
      (fresh.Throughout LeavesWaiting actions → c.life.state = .null)) ∧
    (fresh.Throughout RecyclesOnce actions ↔
      ∀ n type, ((fresh.run (actions.take n)).pool type).Nodup) ∧
    (∀ handle, g.doubles (.recycle handle) = true → ∃ type n,
      let again : List Action := .recycle handle :: List.replicate n (.create type)
      ((g.run again).obtain type).1 = handle ∧ handle ∈ g.ownedBy owned again) := by
  intro fresh g owned
  have hmake : Stocked fresh := .make config environment
  have hapart : Apart fresh [] := .make config environment
  have hs : Stocked g := hmake.run actions
  refine ⟨fun type => ?_, fun type => ?_, throughout_recyclesOnce_iff hapart hmake actions,
    fun handle h => handed_out_twice h owned⟩
  · have hbounded := hs.bounded type
    rwa [config_run] at hbounded
  · obtain ⟨c, hc, ht, hcases⟩ := obtain_cases hs type
    refine ⟨c, resolve?_create g type, hc, ht, fun hd => ?_, fun hl => ?_⟩
    · exact (hapart.run hmake hd).obtained_notMem hs type
    · have hrests : Rests fresh := fun type k hk => by cases type <;> exact absurd hk List.not_mem_nil
      rcases hcases with ⟨hold, hp⟩ | ⟨-, hnew⟩
      · obtain ⟨l, hlife, hnull⟩ := hrests.run hmake hl type (g.obtain type).1
          (by rw [hp]; exact List.mem_cons_self)
        obtain rfl : c.life = l := Option.some.inj ((life?_of_get? hold).symm.trans hlife)
        exact hnull
      · rw [hnew]

/-- Of two links one is closed and given back. It is handed out again, idle, while the other one
keeps its owner. -/
theorem connections_have_one_owner_after_close :
    let actions : List Action :=
      [.create .internal, .create .internal, .bind 0, .bind 1, .close 0, .recycle 0]
    let g := (make {} .isolated).run actions
    g.pool .internal = [0] ∧ (make {} .isolated).ownedBy [] actions = [1] ∧
    ∃ c, (g.create .internal).2.get? 0 = some c ∧ c.life.state = .null := by
  intro actions g
  have hpool : g.pool .internal = [0] := by decide +kernel
  have howned : (make {} .isolated).ownedBy [] actions = [1] := by decide +kernel
  have hobtain : (g.obtain .internal).1 = 0 := by decide +kernel
  have hwaiting : (make {} .isolated).Throughout LeavesWaiting actions := by decide +kernel
  obtain ⟨-, hcreate, -⟩ := connections_have_one_owner {} .isolated actions
  obtain ⟨c, -, hc, -, -, hidle⟩ := hcreate .internal
  exact ⟨hpool, howned, c, hobtain ▸ hc, hidle hwaiting⟩

/-- A link that is recycled twice is handed out to a second owner while the first one uses it. -/
theorem recycled_twice_has_two_owners :
    let actions : List Action :=
      [.create .internal, .recycle 0, .recycle 0, .create .internal, .bind 0]
    let g := (make {} .isolated).run actions
    (g.create .internal).2.resolve? (g.create .internal).1 = some 0 ∧
    (make {} .isolated).ownedBy [] actions = [0] ∧
    ((g.create .internal).2.life? 0).map Lifecycle.state = some .halfOpen := by
  decide +kernel

end MediaGateway.Gateway
