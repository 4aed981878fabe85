import MediaGateway.Proofs.Gateway.Work

/-!
# The stock of connections

Connections come by being created or adopted, wait by being given back, and go when nobody refers to
them any longer. Nothing else that a gateway does concerns which connections there are, of which
type they are, who refers to them and which of them wait, and nothing at all concerns the
configuration and the environment.
-/

namespace MediaGateway.Gateway

open Connection (SameKind)

variable {g g' g'' : Gateway} {k handle : Nat} {type : ConnectionType}

/-- The type of the connection at a place, if there is one that was built here. -/
def builtType? (g : Gateway) (handle : Nat) : Option ConnectionType :=
  (g.get? handle).bind Connection.builtType?

/-- Nothing has happened but within connections and to their surroundings. -/
structure SameStock (g g' : Gateway) : Prop where
  config : g'.config = g.config
  environment : g'.environment = g.environment
  references : g'.references = g.references
  rtpPool : g'.rtpPool = g.rtpPool
  internalPool : g'.internalPool = g.internalPool
  places : g'.connections.length = g.connections.length
  types : ∀ k, g'.builtType? k = g.builtType? k
  ids : ∀ k, (g'.get? k).map Connection.id = (g.get? k).map Connection.id

theorem Within.sameStock (h : Within SameKind g g') : SameStock g g' where
  config := congrArg Ground.config h.ground
  environment := congrArg Ground.environment h.ground
  references := congrArg Ground.references h.ground
  rtpPool := congrArg Ground.rtpPool h.ground
  internalPool := congrArg Ground.internalPool h.ground
  places := h.places
  types := by
    intro k
    have hrel := h.connections k
    unfold builtType?
    generalize g.get? k = c? at hrel
    generalize g'.get? k = c'? at hrel
    cases hrel with
    | none => rfl
    | some hkind => exact hkind.type
  ids := by
    intro k
    have hrel := h.connections k
    generalize g.get? k = c? at hrel
    generalize g'.get? k = c'? at hrel
    cases hrel with
    | none => rfl
    | some hkind => exact congrArg some hkind.id

namespace SameStock

theorem of_connections (h : g'.connections = g.connections)
    (hrest : (g'.config, g'.environment, g'.references, g'.rtpPool, g'.internalPool) =
      (g.config, g.environment, g.references, g.rtpPool, g.internalPool)) : SameStock g g' := by
  simp only [Prod.mk.injEq] at hrest
  obtain ⟨hconfig, henvironment, hreferences, hrtp, hinternal⟩ := hrest
  exact ⟨hconfig, henvironment, hreferences, hrtp, hinternal, by rw [h],
    fun k => by rw [builtType?, get?, h]; rfl, fun k => by rw [get?, h]; rfl⟩

theorem trans (h : SameStock g g') (h' : SameStock g' g'') : SameStock g g'' where
  config := h'.config.trans h.config
  environment := h'.environment.trans h.environment
  references := h'.references.trans h.references
  rtpPool := h'.rtpPool.trans h.rtpPool
  internalPool := h'.internalPool.trans h.internalPool
  places := h'.places.trans h.places
  types := fun k => (h'.types k).trans (h.types k)
  ids := fun k => (h'.ids k).trans (h.ids k)

theorem modify {u : Connection → Connection} {handle : Nat} (hid : ∀ c, (u c).id = c.id)
    (hleg : ∀ c, (u c).leg = c.leg) : SameStock g (g.modify handle u) :=
  Within.sameStock (.modify fun c _ => .of_leg (hid c) (hleg c))

end SameStock

theorem Works.sameStock (h : Works g g') : SameStock g g' := by
  have hsinks : SameStock g { g with sinks := g'.sinks } := .of_connections rfl rfl
  have htypes : Within SameKind { g with sinks := g'.sinks } g' :=
    h.within.mono fun _ _ hworked => hworked.toSameKind
  exact hsinks.trans htypes.sameStock

theorem Setting.sameStock (h : Setting g g') : SameStock g g' := by
  cases h with
  | setHook handle hook outcome =>
    refine Within.sameStock (.modify fun c _ => ?_)
    cases hl : c.leg <;> constructor <;> simp [Connection.builtType?, Leg.builtType?, hl]
  | addListener handle l => exact .modify (fun _ => rfl) fun _ => rfl
  | removeListener handle key => exact .modify (fun _ => rfl) fun _ => rfl
  | setFailureListener handle l => exact .modify (fun _ => rfl) fun _ => rfl
  | attachEndpoint handle e =>
    have hdrop : SameStock g (g.dropEndpoint e.name) := .of_connections rfl rfl
    have hown (g : Gateway) (n : Nat) :
        SameStock g (g.modify handle fun c => { c with endpoint := some n }) :=
      .modify (fun _ => rfl) fun _ => rfl
    exact (hdrop.trans (hown _ _)).trans (.of_connections rfl rfl)
  | installSink handle =>
    have hcall : Within SameKind g (g.modifyCall handle fun c =>
        { c with sink := some g.sinks.length }) := by
      refine .modify fun c _ => ?_
      cases hl : c.leg <;> constructor <;> simp [Connection.builtType?, Leg.builtType?, hl]
    exact hcall.sameStock.trans (.of_connections rfl rfl)
  | _ => exact .of_connections rfl rfl

theorem Change.sameStock (h : Change g g') : SameStock g g' := h.works.sameStock

theorem Turn.sameStock (h : Turn g g') : SameStock g g' := h.works.sameStock

theorem Turns.sameStock (h : Turns g g') : SameStock g g' := h.works.sameStock

/-! ## Pools -/

theorem pool_withPool (g : Gateway) (type type' : ConnectionType) (handles : List Nat) :
    (g.withPool type handles).pool type' = if type' = type then handles else g.pool type' := by
  cases type <;> cases type' <;> rfl

theorem withPool_pool (g : Gateway) (type : ConnectionType) : g.withPool type (g.pool type) = g := by
  cases type <;> rfl

theorem pool_modify (g : Gateway) (handle : Nat) (u : Connection → Connection) :
    (g.modify handle u).pool = g.pool := by
  funext type
  cases type <;> rfl

theorem SameStock.pool (h : SameStock g g') (type : ConnectionType) : g'.pool type = g.pool type := by
  cases type with
  | rtp => exact h.rtpPool
  | internal => exact h.internalPool

theorem pool_create (g : Gateway) (type type' : ConnectionType) :
    (g.create type).2.pool type' = if type' = type then (g.pool type).tail else g.pool type' := by
  have hrefer (g : Gateway) (handle : Nat) : (g.refer handle).2.pool type' = g.pool type' := by
    cases type' <;> rfl
  simp only [create, hrefer, obtain]
  cases hp : g.pool type with
  | cons handle rest => rw [pool_withPool, List.tail_cons]
  | nil =>
    have hbuild : (g.build type).2.pool type' = g.pool type' := by
      cases type <;> cases type' <;> rfl
    by_cases ht : type' = type
    · rw [hbuild, if_pos ht, ht, hp, List.tail_nil]
    · rw [hbuild, if_neg ht]

section Recycle

variable {c : Connection} (hc : g.get? handle = some c)
include hc

theorem recycle_of_foreign (hf : c.isForeign = true) : g.recycle handle = (.ok (), g) := by
  simp only [recycle, hc, hf, if_true]

theorem recycle_of_bound (hf : c.isForeign = false) (hs : c.life.state ≠ .null) :
    g.recycle handle = (.error (.inUse c.id c.life.state), g) := by
  simp only [recycle, hc, hf, if_pos hs, Bool.false_eq_true, if_false]

theorem recycle_of_idle (hf : c.isForeign = false) (hs : c.life.state = .null) :
    g.recycle handle = (.ok (), (g.modify handle Connection.detach).withPool c.type
      (if (g.pool c.type).length < g.config.poolSize then handle :: g.pool c.type
        else g.pool c.type)) := by
  simp only [recycle, hc, hf, hs, pool_modify, ne_eq, not_true, Bool.false_eq_true, if_false]
  by_cases hroom : (g.pool c.type).length < g.config.poolSize
  · rw [if_pos hroom]
    exact if_pos hroom
  · have hpool := withPool_pool (g.modify handle Connection.detach) c.type
    rw [pool_modify] at hpool
    rw [if_neg hroom, hpool]
    exact if_neg hroom

end Recycle

/-- The pool that a connection gets into by being recycled, if it gets into one. -/
def poolFor? (g : Gateway) (handle : Nat) : Option ConnectionType :=
  (g.get? handle).bind fun c =>
    if c.life.state = .null then
      c.builtType?.filter fun type => (g.pool type).length < g.config.poolSize
    else none

theorem poolFor?_eq_some : g.poolFor? handle = some type ↔ ∃ c, g.get? handle = some c ∧
    c.builtType? = some type ∧ c.life.state = .null ∧
      (g.pool type).length < g.config.poolSize := by
  simp only [poolFor?, Option.bind_eq_some_iff, Option.ite_none_right_eq_some,
    Option.filter_eq_some_iff, decide_eq_true_eq]
  constructor
  · rintro ⟨c, hc, hs, ht, hroom⟩
    exact ⟨c, hc, ht, hs, hroom⟩
  · rintro ⟨c, hc, ht, hs, hroom⟩
    exact ⟨c, hc, hs, ht, hroom⟩

theorem pool_recycle (g : Gateway) (handle : Nat) (type : ConnectionType) :
    (g.recycle handle).2.pool type =
      if g.poolFor? handle = some type then handle :: g.pool type else g.pool type := by
  have hstays (h : (g.recycle handle).2 = g)
      (hnot : ∀ c, g.get? handle = some c → c.builtType? = some type → c.life.state ≠ .null) :
      (g.recycle handle).2.pool type =
        if g.poolFor? handle = some type then handle :: g.pool type else g.pool type := by
    rw [h, if_neg]
    intro hfor
    obtain ⟨c, hc, ht, hs, -⟩ := poolFor?_eq_some.1 hfor
    exact hnot c hc ht hs
  cases hc : g.get? handle with
  | none => exact hstays (by simp only [recycle, hc]) fun c hc' => by simp [hc] at hc'
  | some c =>
    cases hf : c.isForeign with
    | true =>
      refine hstays (by rw [recycle_of_foreign hc hf]) fun c' hc' ht => ?_
      obtain rfl : c = c' := Option.some.inj (hc.symm.trans hc')
      exact absurd hf (by rw [(Connection.builtType?_eq_some.1 ht).1]; exact Bool.noConfusion)
    | false =>
      by_cases hs : c.life.state = .null
      · have hfor : g.poolFor? handle = some type ↔
            type = c.type ∧ (g.pool c.type).length < g.config.poolSize := by
          simp only [poolFor?_eq_some, hc, Option.some.injEq, exists_eq_left',
            Connection.builtType?_eq_some, hf, hs, true_and]
          constructor
          · rintro ⟨rfl, hroom⟩
            exact ⟨rfl, hroom⟩
          · rintro ⟨rfl, hroom⟩
            exact ⟨rfl, hroom⟩
        rw [recycle_of_idle hc hf hs, pool_withPool, pool_modify]
        by_cases ht : type = c.type
        · subst ht
          simp only [if_true, hfor, true_and]
        · rw [if_neg ht, if_neg fun h => ht (hfor.1 h).1]
      · refine hstays (by rw [recycle_of_bound hc hf hs]) fun c' hc' _ => ?_
        obtain rfl : c = c' := Option.some.inj (hc.symm.trans hc')
        exact hs

/-! ## Connections come and go -/

theorem lt_of_get? {c : Connection} (hc : g.get? k = some c) : k < g.connections.length := by
  by_contra hk
  rw [get?, List.getElem?_eq_none (Nat.le_of_not_lt hk)] at hc
  cases hc

theorem get?_create (g : Gateway) (type : ConnectionType) (hk : k < g.connections.length) :
    (g.create type).2.get? k = g.get? k := by
  simp only [create, get?_refer, obtain]
  split
  · exact get?_withPool g _ _ k
  · cases type with
    | rtp => exact (get?_addConnection _ _ k).trans (if_neg (Nat.ne_of_lt hk))
    | internal => exact (get?_addConnection _ _ k).trans (if_neg (Nat.ne_of_lt hk))

/-- Being recycled concerns only those who watch a connection. -/
theorem get?_recycle (g : Gateway) (handle k : Nat) :
    (g.recycle handle).2.get? k = g.get? k ∨
      (k = handle ∧ (g.recycle handle).2.get? k = (g.get? k).map Connection.detach) := by
  cases hc : g.get? handle with
  | none => exact .inl (by simp only [recycle, hc])
  | some c =>
    cases hf : c.isForeign with
    | true => exact .inl (by rw [recycle_of_foreign hc hf])
    | false =>
      by_cases hs : c.life.state = .null
      · rw [recycle_of_idle hc hf hs, get?_withPool, get?_modify]
        by_cases hk : k = handle
        · subst hk
          rw [if_pos rfl]
          exact .inr ⟨rfl, rfl⟩
        · rw [if_neg hk]
          exact .inl rfl
      · exact .inl (by rw [recycle_of_bound hc hf hs])

theorem map_get?_recycle (g : Gateway) {α : Type} {u : Connection → α} (hu : ∀ c, u c.detach = u c)
    (handle k : Nat) : ((g.recycle handle).2.get? k).map u = (g.get? k).map u := by
  rcases get?_recycle g handle k with h | ⟨-, h⟩
  · rw [h]
  · rw [h, Option.map_map]
    exact congrArg (fun v => Option.map v (g.get? k)) (funext hu)

/-- A connection is there already, and at most those who watch it are taken off, or it is new. -/
theorem Restock.get?_cases (h : Restock g g') {c' : Connection} (hc' : g'.get? k = some c') :
    (∃ c, g.get? k = some c ∧ (c' = c ∨ c' = c.detach)) ∨
      (k = g.connections.length ∧ ∀ call, c'.call? = some call → call = g.newCall c'.id) := by
  have hadded {c : Connection} (hc : ∀ call, c.call? = some call → call = g.newCall c.id)
      (hc' : (if k = g.connections.length then some c else g.get? k) = some c') :
      (∃ c, g.get? k = some c ∧ (c' = c ∨ c' = c.detach)) ∨
        (k = g.connections.length ∧ ∀ call, c'.call? = some call → call = g.newCall c'.id) := by
    by_cases hk : k = g.connections.length
    · rw [if_pos hk] at hc'
      obtain rfl := Option.some.inj hc'
      exact .inr ⟨hk, hc⟩
    · rw [if_neg hk] at hc'
      exact .inl ⟨c', hc', .inl rfl⟩
  cases h with
  | create type =>
    simp only [Gateway.create, get?_refer, obtain] at hc'
    cases hp : g.pool type with
    | cons handle rest =>
      simp only [hp, get?_withPool] at hc'
      exact .inl ⟨c', hc', .inl rfl⟩
    | nil =>
      simp only [hp] at hc'
      cases type with
      | rtp =>
        refine hadded (c := { id := g.ids.draw.1, leg := .call (g.newCall g.ids.draw.1) })
          (fun call hcall => (Option.some.inj hcall).symm) ?_
        exact (get?_addConnection _ _ k).symm.trans hc'
      | internal =>
        refine hadded (c := { id := g.ids.draw.1, leg := .link {} }) (fun call hcall => by cases hcall) ?_
        exact (get?_addConnection _ _ k).symm.trans hc'
  | adopt id hooks =>
    refine hadded (c := { id, leg := .foreign hooks }) (fun call hcall => by cases hcall) ?_
    exact (get?_addConnection g _ k).symm.trans hc'
  | recycle handle =>
    rcases get?_recycle g handle k with hsame | ⟨-, hdetach⟩
    · rw [hsame] at hc'
      exact .inl ⟨c', hc', .inl rfl⟩
    · rw [hdetach] at hc'
      obtain ⟨c, hc, rfl⟩ := Option.map_eq_some_iff.1 hc'
      exact .inl ⟨c, hc, .inr rfl⟩
  | giveUp reference =>
    refine .inl ⟨c', ?_, .inl rfl⟩
    simp only [Gateway.giveUp, reap] at hc'
    split at hc'
    · exact hc'
    · split at hc'
      · exact hc'
      · simp only [get?, List.getElem?_set] at hc' ⊢
        split at hc'
        · split at hc' <;> simp at hc'
        · exact hc'

/-! ## The ground stays -/

theorem Restock.ground (h : Restock g g') :
    g'.config = g.config ∧ g'.environment = g.environment := by
  cases h with
  | create type =>
    simp only [Gateway.create, obtain, refer]
    cases type <;> split <;> exact ⟨rfl, rfl⟩
  | adopt id hooks => exact ⟨rfl, rfl⟩
  | recycle handle =>
    simp only [Gateway.recycle]
    repeat' split
    any_goals exact ⟨rfl, rfl⟩
    simp only [withPool]
    split <;> exact ⟨rfl, rfl⟩
  | giveUp reference =>
    simp only [Gateway.giveUp, reap]
    repeat' split
    all_goals exact ⟨rfl, rfl⟩

theorem Piece.config (h : Piece g g') : g'.config = g.config := by
  cases h with
  | restock h => exact h.ground.1
  | setting h => exact h.sameStock.config
  | turn h => exact h.sameStock.config

theorem Piece.environment (h : Piece g g') : g'.environment = g.environment := by
  cases h with
  | restock h => exact h.ground.2
  | setting h => exact h.sameStock.environment
  | turn h => exact h.sameStock.environment

theorem config_run (config : GatewayConfig) (environment : Environment) (actions : List Action) :
    ((make config environment).run actions).config = config :=
  run_induction (I := fun g => g.config = config) rfl (fun _ _ hp h => hp.config.trans h)
    fun _ _ _ h => h

end MediaGateway.Gateway
