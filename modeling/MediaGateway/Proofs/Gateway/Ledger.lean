import MediaGateway.Proofs.Gateway.Ownership
import Mathlib.Algebra.BigOperators.Group.Finset.Basic
import Mathlib.Algebra.Order.BigOperators.Group.Multiset

/-!
# The ledger of an endpoint

An endpoint that owns connections from before they are bound can rely on what it hears: what it mixes
are the modes of its connections (`replay`), and of every connection it hears one mode after another,
and then that it owns it no longer (`Account`).
-/

namespace MediaGateway

/-! ## Modes that are mixed -/

/-- What of a mode is mixed. -/
def Mode.mixed (m : Mode) : Multiset Mode := if m = .inactive then 0 else {m}

/-- What becomes of the modes that are mixed, where an old one has to be there. -/
def EndpointCall.mix (modes : Multiset Mode) : EndpointCall → Option (Multiset Mode)
  | .modeUpdated old new =>
    if old.mixed ≤ modes then some (modes - old.mixed + new.mixed) else none
  | .released _ _ => some modes

/-- The modes that are mixed after calls. -/
def replay (modes : Multiset Mode) (calls : List EndpointCall) : Option (Multiset Mode) :=
  calls.foldlM EndpointCall.mix modes

/-- Calls about one connection: every mode follows the one before, and differs from it. -/
def ModeCourse : Mode → List EndpointCall → Mode → Prop
  | m, [], last => m = last
  | m, .modeUpdated old new :: rest, last => m = old ∧ old ≠ new ∧ ModeCourse new rest last
  | m, .released _ _ :: rest, last => ModeCourse m rest last

theorem ModeCourse.append {m m' m'' : Mode} {calls calls' : List EndpointCall}
    (h : ModeCourse m calls m') (h' : ModeCourse m' calls' m'') :
    ModeCourse m (calls ++ calls') m'' := by
  induction calls generalizing m with
  | nil =>
    obtain rfl : m = m' := h
    exact h'
  | cons call rest ih =>
    cases call with
    | modeUpdated old new => exact ⟨h.1, h.2.1, ih h.2.2⟩
    | released id type => exact ih h

theorem ModeCourse.ne_of_mem {m last old new : Mode} {calls : List EndpointCall}
    (h : ModeCourse m calls last) (hmem : .modeUpdated old new ∈ calls) : old ≠ new := by
  induction calls generalizing m with
  | nil => cases hmem
  | cons call rest ih =>
    rcases List.mem_cons.1 hmem with rfl | hlater
    · exact h.2.1
    · cases call with
      | modeUpdated _ _ => exact ih h.2.2 hlater
      | released _ _ => exact ih h hlater

/-- A mode that is mixed gives way to another one. -/
theorem mix_sum {modes : Nat → Mode} {handle n : Nat} (hplaced : handle < n) (new : Mode) :
    (EndpointCall.modeUpdated (modes handle) new).mix (∑ k ∈ Finset.range n, (modes k).mixed) =
      some (∑ k ∈ Finset.range n, (Function.update modes handle new k).mixed) := by
  have hmem : handle ∈ Finset.range n := Finset.mem_range.2 hplaced
  rw [← Finset.add_sum_erase _ _ hmem, ← Finset.add_sum_erase _ _ hmem, Function.update_self]
  have hothers : ∑ k ∈ (Finset.range n).erase handle, (Function.update modes handle new k).mixed =
      ∑ k ∈ (Finset.range n).erase handle, (modes k).mixed := by
    refine Finset.sum_congr rfl fun k hk => ?_
    rw [Function.update_of_ne (Finset.ne_of_mem_erase hk)]
  rw [hothers, EndpointCall.mix, if_pos (Multiset.le_add_right _ _), add_tsub_cancel_left, add_comm]

/-- Whatever the order of calls about different connections, what is mixed in the end are the last
modes, by induction on the calls: before each of them one mode of every connection is mixed. -/
theorem replay_of_courses {told : List (Nat × EndpointCall)} {before after : Nat → Mode} {n : Nat}
    (hcourses : ∀ k, ModeCourse (before k) (callsOf told k) (after k))
    (hplaced : ∀ e ∈ told, e.1 < n) :
    replay (∑ k ∈ Finset.range n, (before k).mixed) (told.map Prod.snd) =
      some (∑ k ∈ Finset.range n, (after k).mixed) := by
  induction told generalizing before with
  | nil =>
    obtain rfl : before = after := funext hcourses
    rfl
  | cons e rest ih =>
    obtain ⟨handle, call⟩ := e
    have hrest : ∀ e ∈ rest, e.1 < n := fun e he => hplaced e (List.mem_cons_of_mem _ he)
    have hself : ModeCourse (before handle) (call :: callsOf rest handle) (after handle) := by
      have hcourse := hcourses handle
      rwa [callsOf, List.filter_cons_of_pos (by simp)] at hcourse
    have hothers (k : Nat) (hk : k ≠ handle) : ModeCourse (before k) (callsOf rest k) (after k) := by
      have hcourse := hcourses k
      rwa [callsOf, List.filter_cons_of_neg (by simpa using Ne.symm hk)] at hcourse
    cases call with
    | released id type =>
      refine ih (fun k => ?_) hrest
      by_cases hk : k = handle
      · rw [hk]
        exact hself
      · exact hothers k hk
    | modeUpdated old new =>
      obtain ⟨rfl, -, hlater⟩ := hself
      have hnext (k : Nat) :
          ModeCourse (Function.update before handle new k) (callsOf rest k) (after k) := by
        by_cases hk : k = handle
        · rw [hk, Function.update_self]
          exact hlater
        · rw [Function.update_of_ne hk]
          exact hothers k hk
      rw [List.map_cons, replay, List.foldlM_cons, mix_sum (hplaced _ List.mem_cons_self)]
      exact ih hnext hrest

/-! ## One connection -/

/-- The mode of a connection that may be owned. -/
def modeOf (h? : Option Holding) : Mode := (h?.map Holding.mode).getD .inactive

/-- A connection that is not bound is inactive. -/
def Settled (h? : Option Holding) : Prop := ∀ h ∈ h?, h.bound = false → h.mode = .inactive

/-- A connection that comes to be owned is not bound yet. -/
theorem course_callsAbout {before after : Option Holding} (hbefore : Settled before)
    (hafter : Settled after) (hnew : before = none → ∀ h ∈ after, h.bound = false) :
    ModeCourse (modeOf before) (callsAbout before after) (modeOf after) := by
  cases before with
  | none =>
    cases after with
    | none => rfl
    | some h => exact (hafter h rfl (hnew rfl h rfl)).symm
  | some h =>
    cases after with
    | none =>
      by_cases hb : h.bound = true
      · by_cases hm : h.mode = .inactive <;>
          simp [callsAbout, Holding.ending, hb, hm, ModeCourse, modeOf]
      · have hidle : h.mode = .inactive := hbefore h rfl (Bool.eq_false_iff.2 hb)
        simp [callsAbout, hb, hidle, ModeCourse, modeOf]
    | some h' =>
      by_cases hm : h'.mode = h.mode
      · simp [callsAbout, hm, ModeCourse, modeOf]
      · simp [callsAbout, hm, Ne.symm hm, ModeCourse, modeOf]

/-- Whether a call is about a mode. -/
def EndpointCall.isUpdate : EndpointCall → Bool
  | .modeUpdated _ _ => true
  | .released _ _ => false

/-- What the endpoint hears of a connection, from a moment on, as long as it is not given the
connection again. `served` says whether it owns the connection while it is bound. -/
inductive Account : Option Holding → Bool → List EndpointCall → Option Holding → Prop
  /-- It does not own the connection. -/
  | never : Account none false [] none
  /-- It owns it still. -/
  | lasts {h h' calls} (id : h'.id = h.id) (type : h'.type = h.type)
      (bound : h.bound = true → h'.bound = true) (course : ModeCourse h.mode calls h'.mode)
      (updates : ∀ call ∈ calls, call.isUpdate = true) : Account (some h) h'.bound calls (some h')
  /-- The connection was bound, and is not any more. -/
  | ends {h calls} (course : ModeCourse h.mode calls .inactive)
      (updates : ∀ call ∈ calls, call.isUpdate = true) :
      Account (some h) true (calls ++ [.released h.id h.type]) none
  /-- The connection was taken from it before it was bound. -/
  | leaves {h} (idle : h.bound = false) : Account (some h) false [] none

/-- Nothing happens. -/
theorem Account.refl (h? : Option Holding) : Account h? (h?.any Holding.bound) [] h? := by
  cases h? with
  | none => exact .never
  | some h => exact .lasts rfl rfl id rfl fun _ hcall => absurd hcall List.not_mem_nil

/-- What is heard of a connection while it lasts. -/
theorem callsAbout_lasts (h h' : Holding) :
    ModeCourse h.mode (callsAbout (some h) (some h')) h'.mode ∧
      ∀ call ∈ callsAbout (some h) (some h'), call.isUpdate = true := by
  by_cases hm : h'.mode = h.mode
  · simp [callsAbout, hm, ModeCourse]
  · simp [callsAbout, hm, Ne.symm hm, ModeCourse, EndpointCall.isUpdate]

/-- One step more, at the beginning. -/
theorem Account.step {before after last : Option Holding} {served : Bool}
    {calls : List EndpointCall} (hbefore : Settled before) (hafter : Settled after)
    (hpasses : Passes before after) (h : Account after served calls last) :
    Account before (before.any Holding.bound || served) (callsAbout before after ++ calls) last := by
  cases hpasses with
  | never => exact h
  | @ends held =>
    cases h
    rw [List.append_nil, Bool.or_false]
    by_cases hb : held.bound = true
    · have hending : callsAbout (some held) none =
          (if held.mode = .inactive then [] else [.modeUpdated held.mode .inactive]) ++
            [.released held.id held.type] := by simp [callsAbout, Holding.ending, hb]
      rw [Option.any_some, hb, hending]
      refine .ends ?_ ?_ <;>
        by_cases hm : held.mode = .inactive <;> simp [hm, ModeCourse, EndpointCall.isUpdate]
    · have hidle := Bool.eq_false_iff.2 hb
      rw [Option.any_some, callsAbout, if_neg hb, hidle]
      exact .leaves hidle
  | @lasts held held' id type bound =>
    obtain ⟨hcourse, hupdates⟩ := callsAbout_lasts held held'
    have hall {calls : List EndpointCall} (h : ∀ call ∈ calls, call.isUpdate = true) :
        ∀ call ∈ callsAbout (some held) (some held') ++ calls, call.isUpdate = true := by
      intro call hcall
      rcases List.mem_append.1 hcall with hcall | hcall
      · exact hupdates call hcall
      · exact h call hcall
    cases h with
    | @lasts _ held'' _ id' type' bound' course updates =>
      have hserved : (Option.any Holding.bound (some held) || held''.bound) = held''.bound := by
        rw [Option.any_some, Bool.or_eq_right_iff_imp]
        exact bound' ∘ bound
      rw [hserved]
      exact .lasts (id'.trans id) (type'.trans type) (bound' ∘ bound) (hcourse.append course)
        (hall updates)
    | ends course updates =>
      rw [Bool.or_true, ← List.append_assoc, id, type]
      exact .ends (hcourse.append course) (hall updates)
    | leaves idle =>
      have hidle : held.bound = false := Bool.eq_false_iff.2 fun hb => by simp [bound hb] at idle
      have hquiet : callsAbout (some held) (some held') = [] := by
        simp [callsAbout, hbefore held rfl hidle, hafter held' rfl idle]
      rw [hquiet, Option.any_some, hidle]
      exact .leaves hidle

/-! ## All that is done -/

/-- What is done while an endpoint lives: it gets to own a connection, or an action. -/
inductive Dealing where
  | own (handle : Nat)
  | act (a : Action)

namespace Gateway

variable {g g' g'' : Gateway} {handle k owner : Nat} {name : String} {c : Connection} {a : Action}

/-- The modes of the connections that the endpoint at a place owns, but for `INACTIVE`. -/
def ownedModes (g : Gateway) (owner : Nat) : Multiset Mode :=
  (((g.connections.filterMap id).filter (·.endpoint = some owner)).map (·.life.mode)).filter
    (· ≠ .inactive)

/-- The modes that are owned, connection by connection. -/
theorem ownedModes_eq_sum (g : Gateway) (owner : Nat) :
    g.ownedModes owner =
      ∑ k ∈ Finset.range g.connections.length, (modeOf (g.held? owner k)).mixed := by
  simp only [ownedModes, held?, front?, get?]
  induction g.connections with
  | nil => rfl
  | cons c? rest ih =>
    rw [List.length_cons, Finset.sum_range_succ']
    simp only [List.getElem?_cons_succ, List.getElem?_cons_zero, ← ih]
    cases c? with
    | none => simp [modeOf, Mode.mixed]
    | some c =>
      by_cases howner : c.endpoint = some owner
      · by_cases hm : c.life.mode = .inactive <;>
          simp [modeOf, Mode.mixed, Front.heldBy, Connection.front, howner, hm,
            Multiset.singleton_add, add_comm]
      · simp [modeOf, Mode.mixed, Front.heldBy, Connection.front, howner]

theorem held?_of_le (hk : g.connections.length ≤ k) : g.held? owner k = none :=
  held?_of_none (by rw [get?, List.getElem?_eq_none hk]; rfl)

/-- Places where no connection is yet do not count. -/
theorem ownedModes_eq {n : Nat} (hn : g.connections.length ≤ n) :
    g.ownedModes owner = ∑ k ∈ Finset.range n, (modeOf (g.held? owner k)).mixed := by
  rw [ownedModes_eq_sum]
  refine Finset.sum_subset (Finset.range_mono hn) fun k _ hk => ?_
  rw [held?_of_le (Nat.le_of_not_lt (Finset.mem_range.not.1 hk))]
  rfl

/-- Does what is to be done. The endpoint at a place gets to own what is to be owned. -/
def deal (g : Gateway) (owner : Nat) : Dealing → Gateway
  | .own handle => g.setEndpoint handle owner
  | .act a => g.perform a

/-- Does one thing after another. -/
def dealAll (g : Gateway) (owner : Nat) (dealings : List Dealing) : Gateway :=
  dealings.foldl (fun g d => g.deal owner d) g

/-- Whether connections come to an endpoint, and go to others, only before they are bound, and nothing
ends its life. No connection goes while it is bound, and listeners do not call back. -/
def Fair (g : Gateway) (name : String) : Dealing → Prop
  | .own handle => g.isIdle handle = true
  | .act a => g.Proper a ∧ g.KeepsBound a ∧ g.spares name a = true

instance (g : Gateway) (name : String) (d : Dealing) : Decidable (g.Fair name d) :=
  match d with
  | .own _ => inferInstanceAs (Decidable (_ = true))
  | .act _ => inferInstanceAs (Decidable (_ ∧ _))

/-- Whether all that is done is fair, where it is done. -/
def FairAll (g : Gateway) (owner : Nat) (name : String) : List Dealing → Prop
  | [] => True
  | d :: rest => g.Fair name d ∧ (g.deal owner d).FairAll owner name rest

instance FairAll.decidable (g : Gateway) (owner : Nat) (name : String) (dealings : List Dealing) :
    Decidable (g.FairAll owner name dealings) :=
  match dealings with
  | [] => .isTrue trivial
  | d :: rest =>
    have := FairAll.decidable (g.deal owner d) owner name rest
    inferInstanceAs (Decidable (g.Fair name d ∧ (g.deal owner d).FairAll owner name rest))

/-- What there is to say of all that is done, one after another. -/
def along {α : Type} (f : Gateway → Gateway → List α) (g : Gateway) (owner : Nat) :
    List Dealing → List α
  | [] => []
  | d :: rest => f g (g.deal owner d) ++ along f (g.deal owner d) owner rest

/-- What the endpoint hears. -/
def hearsAlong (g : Gateway) (owner : Nat) (name : String) : List Dealing → List EndpointCall :=
  along (heard name) g owner

/-- What there is to hear of a connection. -/
def story (g : Gateway) (owner handle : Nat) : List Dealing → List EndpointCall :=
  along (fun g g' => callsAbout (g.held? owner handle) (g'.held? owner handle)) g owner

/-- Whether the endpoint owns a connection while it is bound. -/
def serves (g : Gateway) (owner handle : Nat) : List Dealing → Bool
  | [] => (g.held? owner handle).any Holding.bound
  | d :: rest => (g.held? owner handle).any Holding.bound || (g.deal owner d).serves owner handle rest

/-! ## The endpoint lives on -/

theorem alive_dropEndpoint {j : Nat} {e : Endpoint} :
    (g.dropEndpoint name).endpoints[j]? = some e ∧ e.alive = true ↔
      g.endpoints[j]? = some e ∧ e.alive = true ∧ e.name ≠ name := by
  have hget : (g.dropEndpoint name).endpoints[j]? = (g.endpoints[j]?).map fun e =>
      if e.name = name then { e with alive := false } else e := List.getElem?_map
  rw [hget, Option.map_eq_some_iff]
  constructor
  · rintro ⟨⟨old, hold, rfl⟩, halive⟩
    by_cases hname : old.name = name
    · simp [hname] at halive
    · rw [if_neg hname] at halive ⊢
      exact ⟨hold, halive, hname⟩
  · rintro ⟨he, halive, hname⟩
    exact ⟨⟨e, he, if_neg hname⟩, halive⟩

/-- Who lives with a new endpoint: those from before with another name, and itself. -/
theorem alive_attachEndpoint {j : Nat} {e new : Endpoint} :
    (g.attachEndpoint handle new).endpoints[j]? = some e ∧ e.alive = true ↔
      (g.endpoints[j]? = some e ∧ e.alive = true ∧ e.name ≠ new.name) ∨
        (j = g.endpoints.length ∧ e = new ∧ e.alive = true) := by
  have hlength : (g.dropEndpoint new.name).endpoints.length = g.endpoints.length :=
    List.length_map ..
  have hendpoints : (g.attachEndpoint handle new).endpoints =
      (g.dropEndpoint new.name).endpoints ++ [new] := rfl
  rw [← alive_dropEndpoint, hendpoints, List.getElem?_append, hlength]
  by_cases hj : j < g.endpoints.length
  · rw [if_pos hj]
    exact ⟨.inl, fun h => h.resolve_right fun hnew => Nat.ne_of_lt hj hnew.1⟩
  · have hgone : (g.dropEndpoint new.name).endpoints[j]? = none :=
      List.getElem?_eq_none (hlength ▸ Nat.le_of_not_lt hj)
    rw [if_neg hj, hgone, List.getElem?_singleton]
    by_cases hlast : j = g.endpoints.length
    · rw [if_pos (by omega)]
      constructor
      · rintro ⟨hnew, halive⟩
        exact .inr ⟨hlast, (Option.some.inj hnew).symm, halive⟩
      · rintro (⟨hold, -⟩ | ⟨-, rfl, halive⟩)
        · cases hold
        · exact ⟨rfl, halive⟩
    · have hbeyond : j - g.endpoints.length ≠ 0 := by omega
      simp [hlast, hbeyond]

theorem Owns.dropEndpoint {other : String} (h : g.Owns owner name) (hother : other ≠ name) :
    (g.dropEndpoint other).Owns owner name where
  alive := by
    obtain ⟨e, he, halive, hname⟩ := h.alive
    exact ⟨e, (alive_dropEndpoint.2 ⟨he, halive, hname.trans_ne hother.symm⟩).1, halive, hname⟩
  only := fun j e he halive => h.only j e (alive_dropEndpoint.1 ⟨he, halive⟩).1 halive

theorem Owns.attachEndpoint {new : Endpoint} (h : g.Owns owner name) (hother : new.name ≠ name)
    (handle : Nat) : (g.attachEndpoint handle new).Owns owner name where
  alive := by
    obtain ⟨e, he, halive, hname⟩ := h.alive
    have hsame : e.name ≠ new.name := hname.trans_ne hother.symm
    exact ⟨e, (alive_attachEndpoint.2 (.inl ⟨he, halive, hsame⟩)).1, halive, hname⟩
  only := by
    intro j e he halive hname
    rcases alive_attachEndpoint.1 ⟨he, halive⟩ with ⟨hold, -⟩ | ⟨-, rfl, -⟩
    · exact h.only j e hold halive hname
    · exact absurd hname hother

/-- An endpoint that comes is the only one with its name. -/
theorem owns_attachEndpoint (g : Gateway) (handle : Nat) {new : Endpoint}
    (halive : new.alive = true) :
    (g.attachEndpoint handle new).Owns g.endpoints.length new.name where
  alive := ⟨new, (alive_attachEndpoint.2 (.inr ⟨rfl, rfl, halive⟩)).1, halive, rfl⟩
  only := by
    intro j e he halive hname
    rcases alive_attachEndpoint.1 ⟨he, halive⟩ with ⟨-, -, hother⟩ | ⟨hlast, -⟩
    · exact absurd hname hother
    · exact hlast

theorem Owns.perform (h : g.Owns owner name) (hspares : g.spares name a = true) :
    (g.perform a).Owns owner name := by
  cases hk : a.kind with
  | restock => exact h.congr (restock_perform g hk).unnoticed.2.1
  | redraw =>
    obtain ⟨environment, rfl⟩ := Action.eq_redraw hk
    exact h.congr rfl
  | work => exact h.congr (congrArg Ground.endpoints (turns_perform g hk).works.within.ground)
  | setting =>
    cases a with
    | attachEndpoint handle e =>
      exact h.attachEndpoint (of_decide_eq_true (Bool.and_eq_true_iff.1 hspares).1) handle
    | dropEndpoint other => exact h.dropEndpoint (of_decide_eq_true hspares)
    | setHook _ _ _ | addListener _ _ | removeListener _ _ | setFailureListener _ _ | installSink _
    | fetchFrames _ | dropSink _ => exact h.congr rfl
    | _ => cases hk

/-- The endpoint at a place lives, in a gateway between actions. -/
structure Serving (g : Gateway) (owner : Nat) (name : String) : Prop where
  steady : g.Steady
  owns : g.Owns owner name

theorem Steady.setEndpoint (h : g.Steady) (handle place : Nat) :
    (g.setEndpoint handle place).Steady := by
  refine ⟨fun k f hf => ?_, h.timed.same (.modify fun _ => rfl)⟩
  obtain ⟨c', hc', rfl⟩ := get?_of_front? hf
  rw [get?_setEndpoint] at hc'
  by_cases hk : k = handle
  · rw [if_pos hk, Option.map_eq_some_iff] at hc'
    obtain ⟨c, hc, rfl⟩ := hc'
    exact h.quiet.of_get? hc
  · rw [if_neg hk] at hc'
    exact h.quiet.of_get? hc'

/-- A connection that is not bound is inactive. -/
theorem Steady.settled (h : g.Steady) (owner handle : Nat) : Settled (g.held? owner handle) := by
  intro held hheld hidle
  obtain ⟨f, hf, hheld⟩ := Option.bind_eq_some_iff.1 hheld
  obtain ⟨c, hc, rfl⟩ := get?_of_front? hf
  unfold Front.heldBy at hheld
  split at hheld
  · rw [← Option.some.inj hheld] at hidle ⊢
    exact (h.timed.sound handle c.life (life?_of_get? hc)).idle
      (by simpa [ConnectionState.isBound] using hidle)
  · cases hheld

/-- What is owned already stays as it is, and so do other connections. -/
theorem held?_own (h : g.held? owner k ≠ none ∨ k ≠ handle) :
    (g.deal owner (.own handle)).held? owner k = g.held? owner k := by
  have hget := get?_setEndpoint g handle owner k
  by_cases hk : k = handle
  · subst hk
    have howned := h.resolve_right (not_not.2 rfl)
    cases hc : g.get? k with
    | none => exact absurd (held?_of_none hc) howned
    | some c =>
      have howner : c.endpoint = some owner := by
        by_contra hother
        exact howned ((held?_of_get? hc).trans (if_neg hother))
      have hsame : { c with endpoint := some owner } = c := by rw [← howner]
      rw [if_pos rfl, hc, Option.map_some, hsame] at hget
      exact held?_of_get?_eq (hget.trans hc.symm)
  · exact held?_of_get?_eq (hget.trans (if_neg hk))

/-- What is owned from now on is not bound. -/
theorem idle_of_own (hd : g.Fair name (.own handle)) {h : Holding}
    (hh : (g.deal owner (.own handle)).held? owner handle = some h) : h.bound = false := by
  refine held?_idle (isIdle_iff.2 fun c' hc' => ?_) hh
  rw [Gateway.deal, get?_setEndpoint, if_pos rfl, Option.map_eq_some_iff] at hc'
  obtain ⟨c, hc, rfl⟩ := hc'
  exact isIdle_iff.1 hd c hc

theorem length_deal (g : Gateway) (owner : Nat) (d : Dealing) :
    g.connections.length ≤ (g.deal owner d).connections.length := by
  cases d with
  | own handle => exact Nat.le_of_eq (length_modify g handle _).symm
  | act a => exact (KeepsPlaces.perform g a).connections

theorem length_dealAll (g : Gateway) (owner : Nat) (dealings : List Dealing) :
    g.connections.length ≤ (g.dealAll owner dealings).connections.length := by
  induction dealings generalizing g with
  | nil => exact Nat.le_refl _
  | cons d rest ih => exact Nat.le_trans (length_deal g owner d) (ih (g.deal owner d))

/-- Nothing is heard of connections to come. -/
theorem story_of_le {dealings : List Dealing}
    (hk : (g.dealAll owner dealings).connections.length ≤ k) :
    g.story owner k dealings = [] := by
  induction dealings generalizing g with
  | nil => rfl
  | cons d rest ih =>
    have hplace := Nat.le_trans (length_dealAll g owner (d :: rest)) hk
    have hfirst : callsAbout (g.held? owner k) ((g.deal owner d).held? owner k) = [] := by
      rw [held?_of_le hplace]
      rfl
    rw [story, along, hfirst]
    exact ih hk

namespace Serving

variable {d : Dealing} {dealings : List Dealing}

theorem deal (h : g.Serving owner name) (hd : g.Fair name d) :
    (g.deal owner d).Serving owner name := by
  cases d with
  | own handle => exact ⟨h.steady.setEndpoint handle owner, h.owns.congr rfl⟩
  | act a => exact ⟨h.steady.perform hd.1, h.owns.perform hd.2.2⟩

/-- Only being given a connection is not heard of. -/
theorem passes (h : g.Serving owner name) (hd : g.Fair name d) (hk : d ≠ .own k) :
    Passes (g.held? owner k) ((g.deal owner d).held? owner k) := by
  cases d with
  | own handle =>
    have hkh : k ≠ handle := fun hk' => hk (by rw [hk'])
    rw [held?_own (.inr hkh)]
    exact .refl _
  | act a => exact (tells_perform h.steady hd.1 hd.2.1 hd.2.2 h.owns).passes k

theorem course (h : g.Serving owner name) (hd : g.Fair name d) (k : Nat) :
    ModeCourse (modeOf (g.held? owner k))
      (callsAbout (g.held? owner k) ((g.deal owner d).held? owner k))
      (modeOf ((g.deal owner d).held? owner k)) := by
  refine course_callsAbout (h.steady.settled owner k) ((h.deal hd).steady.settled owner k)
    fun hnone held hheld => ?_
  by_cases hk : d = .own k
  · subst hk
    exact idle_of_own hd hheld
  · have hpasses := h.passes hd hk
    rw [hnone] at hpasses
    generalize (g.deal owner d).held? owner k = after at hpasses hheld
    cases hpasses
    cases hheld

theorem interleaves (h : g.Serving owner name) (hd : g.Fair name d) :
    Interleaves (heard name g (g.deal owner d)) fun k =>
      callsAbout (g.held? owner k) ((g.deal owner d).held? owner k) := by
  cases d with
  | own handle =>
    have hnothing : heard name g (g.deal owner (.own handle)) = [] := heard_of_log_eq rfl
    rw [hnothing]
    refine .nil fun k => ?_
    cases hheld : g.held? owner k with
    | none => rfl
    | some held =>
      have howned : g.held? owner k ≠ none := by simp [hheld]
      rw [held?_own (.inl howned), hheld, callsAbout_self]
  | act a => exact (tells_perform h.steady hd.1 hd.2.1 hd.2.2 h.owns).calls

/-! ## All that is heard -/

theorem dealAll (h : g.Serving owner name) (hd : g.FairAll owner name dealings) :
    (g.dealAll owner dealings).Serving owner name := by
  induction dealings generalizing g with
  | nil => exact h
  | cons d rest ih => exact ih (h.deal hd.1) hd.2

theorem interleaves_along (h : g.Serving owner name) (hd : g.FairAll owner name dealings) :
    Interleaves (g.hearsAlong owner name dealings) fun k => g.story owner k dealings := by
  induction dealings generalizing g with
  | nil => exact .nil fun _ => rfl
  | cons d rest ih => exact (h.interleaves hd.1).append (ih (h.deal hd.1) hd.2)

theorem course_along (h : g.Serving owner name) (hd : g.FairAll owner name dealings) (k : Nat) :
    ModeCourse (modeOf (g.held? owner k)) (g.story owner k dealings)
      (modeOf ((g.dealAll owner dealings).held? owner k)) := by
  induction dealings generalizing g with
  | nil => rfl
  | cons d rest ih => exact (h.course hd.1 k).append (ih (h.deal hd.1) hd.2)

/-- What is heard of a connection until it is owned again, by induction on what is done. -/
theorem account_along (h : g.Serving owner name) (hd : g.FairAll owner name dealings)
    (hk : .own k ∉ dealings) :
    Account (g.held? owner k) (g.serves owner k dealings) (g.story owner k dealings)
      ((g.dealAll owner dealings).held? owner k) := by
  induction dealings generalizing g with
  | nil => exact .refl _
  | cons d rest ih =>
    obtain ⟨hne, hrest⟩ := not_or.1 (List.mem_cons.not.1 hk)
    exact .step (h.steady.settled owner k) ((h.deal hd.1).steady.settled owner k)
      (h.passes hd.1 (Ne.symm hne)) (ih (h.deal hd.1) hd.2 hrest)

/-- What the endpoint mixes are the modes of what it owns. -/
theorem replay_along (h : g.Serving owner name) (hd : g.FairAll owner name dealings) :
    replay (g.ownedModes owner) (g.hearsAlong owner name dealings) =
      some ((g.dealAll owner dealings).ownedModes owner) := by
  obtain ⟨told, htold, hstories⟩ := h.interleaves_along hd
  rw [← htold, ownedModes_eq (length_dealAll g owner dealings), ownedModes_eq (Nat.le_refl _)]
  refine replay_of_courses (fun k => ?_) fun e he => ?_
  · rw [hstories]
    exact h.course_along hd k
  · by_contra hplace
    have hnothing := (hstories e.1).trans (story_of_le (Nat.le_of_not_lt hplace))
    have hmem : e.2 ∈ callsOf told e.1 := mem_callsOf.2 he
    rw [hnothing] at hmem
    cases hmem

/-- No mode is heard of that is not a new one. -/
theorem changes_along (h : g.Serving owner name) (hd : g.FairAll owner name dealings) {old new : Mode}
    (hmem : .modeUpdated old new ∈ g.hearsAlong owner name dealings) : old ≠ new := by
  obtain ⟨k, hk⟩ := (h.interleaves_along hd).exists_mem hmem
  exact (h.course_along hd k).ne_of_mem hk

end Serving

/-! ## From the beginning -/

/-- Endpoints that own connections have come before. -/
def EndpointsCame (g : Gateway) : Prop :=
  ∀ k c, g.get? k = some c → ∀ e ∈ c.endpoint, e < g.endpoints.length

theorem Restocked.nobody (h : Restocked g a g') (hk : g.connections.length ≤ k)
    (hc : g'.get? k = some c) : c.endpoint = none := by
  have hnone : g.get? k = none := by simp [get?, hk]
  cases h with
  | same h _ => simp [h, hnone] at hc
  | arrive _ _ watched _ h _ =>
    by_cases hkn : k = g.connections.length
    · rw [h, if_pos hkn] at hc
      rw [← Option.some.inj hc, ← watched]
      rfl
    · simp [h, hkn, hnone] at hc
  | detach h _ | leave _ h _ =>
    rw [h, hnone] at hc
    split at hc <;> cases hc

theorem EndpointsCame.perform (h : g.EndpointsCame) (a : Action) : (g.perform a).EndpointsCame := by
  intro k c' hc' e he
  by_cases hk : k < g.connections.length
  · obtain ⟨c, hc, hsucceeds⟩ := succeeds_perform hk a hc'
    rcases hsucceeds.endpoint e he with hold | ⟨rfl, new, rfl⟩
    · exact Nat.lt_of_lt_of_le (h k c hc e hold) (KeepsPlaces.perform g a).endpoints
    · simp [Gateway.perform, Gateway.attachEndpoint, dropEndpoint]
  · have hplaces (hsame : (g.perform a).connections.length = g.connections.length) : False :=
      hk (hsame ▸ lt_of_get? hc')
    cases hkind : a.kind with
    | restock =>
      rw [(restocked_perform g hkind).nobody (Nat.le_of_not_lt hk) hc'] at he
      cases he
    | setting => exact (hplaces (setting_perform g hkind).sameStock.places).elim
    | work => exact (hplaces (turns_perform g hkind).works.within.places).elim
    | redraw =>
      obtain ⟨environment, rfl⟩ := Action.eq_redraw hkind
      exact (hplaces rfl).elim

theorem EndpointsCame.run (h : g.EndpointsCame) (actions : List Action) :
    (g.run actions).EndpointsCame := by
  induction actions generalizing g with
  | nil => exact h
  | cons a rest ih => exact ih (h.perform a)

theorem FairAll.of_append {before after : List Dealing}
    (h : g.FairAll owner name (before ++ after)) :
    g.FairAll owner name before ∧ (g.dealAll owner before).FairAll owner name after := by
  induction before generalizing g with
  | nil => exact ⟨trivial, h⟩
  | cons d rest ih =>
    obtain ⟨hbefore, hafter⟩ := ih h.2
    exact ⟨⟨h.1, hbefore⟩, hafter⟩

/-- An endpoint that comes to an idle connection owns nothing that is bound. -/
theorem idle_of_attach {e : Endpoint} {h : Holding} (hcame : g.EndpointsCame)
    (hidle : g.isIdle handle = true)
    (hh : (g.attachEndpoint handle e).held? g.endpoints.length k = some h) : h.bound = false := by
  have hget := get?_attachEndpoint g handle k e
  by_cases hk : k = handle
  · refine held?_idle (isIdle_iff.2 fun c' hc' => ?_) hh
    rw [hc', if_pos hk, eq_comm, Option.map_eq_some_iff] at hget
    obtain ⟨c, hc, rfl⟩ := hget
    exact isIdle_iff.1 hidle c hc
  · rw [if_neg hk] at hget
    cases hc : g.get? k with
    | none =>
      rw [held?_of_none (hget.trans hc)] at hh
      cases hh
    | some c =>
      have hother : c.front.endpoint ≠ some g.endpoints.length := fun howner =>
        Nat.lt_irrefl _ (hcame k c hc _ howner)
      rw [held?_of_get? (hget.trans hc), Front.heldBy, if_neg hother] at hh
      cases hh

theorem ownedModes_of_idle (hs : g.Steady)
    (hidle : ∀ k h, g.held? owner k = some h → h.bound = false) : g.ownedModes owner = 0 := by
  rw [ownedModes_eq_sum]
  refine Finset.sum_eq_zero fun k _ => ?_
  cases hheld : g.held? owner k with
  | none => rfl
  | some h =>
    have hinactive := hs.settled owner k h hheld (hidle k h hheld)
    simp [modeOf, Mode.mixed, hinactive]

/-- The ledger of an endpoint that comes to an idle connection, and gets to own any others while they
are idle. What it mixes are always the modes of what it owns, and no mode that it hears of is the one
before. From any moment on what it hears are the stories of the connections, and each of them, until
the connection is owned again, is an account: one mode after another, and its release in the end if
it was bound. -/
theorem ledger_of_endpoint (config : GatewayConfig) (environment : Environment)
    {past : List Action} {handle : Nat} {e : Endpoint} {dealings : List Dealing}
    (hpast : (make config environment).Throughout Proper past) (halive : e.alive = true)
    (hidle : ((make config environment).run past).isIdle handle = true)
    (hfair : (((make config environment).run past).attachEndpoint handle e).FairAll
      ((make config environment).run past).endpoints.length e.name dealings) :
    let g₀ := (make config environment).run past
    let owner := g₀.endpoints.length
    let g₁ := g₀.attachEndpoint handle e
    let calls := g₁.hearsAlong owner e.name dealings
    replay 0 calls = some ((g₁.dealAll owner dealings).ownedModes owner) ∧
    (∀ old new, .modeUpdated old new ∈ calls → old ≠ new) ∧
    ∀ before after, dealings = before ++ after →
      let g := g₁.dealAll owner before
      Interleaves (g.hearsAlong owner e.name after) (fun k => g.story owner k after) ∧
      ∀ k, .own k ∉ after → Account (g.held? owner k) (g.serves owner k after)
        (g.story owner k after) ((g.dealAll owner after).held? owner k) := by
  intro g₀ owner g₁ calls
  have hsteady : g₀.Steady := (Steady.make config environment).run hpast
  have hcame : g₀.EndpointsCame := EndpointsCame.run (fun k c hc => by simp [get?, make] at hc) past
  have hserving : g₁.Serving owner e.name :=
    ⟨hsteady.perform (a := .attachEndpoint handle e) ⟨rfl, rfl⟩, owns_attachEndpoint g₀ handle halive⟩
  have hnothing : g₁.ownedModes owner = 0 :=
    ownedModes_of_idle hserving.steady fun k h => idle_of_attach hcame hidle
  refine ⟨?_, fun old new => hserving.changes_along hfair, fun before after hsplit => ?_⟩
  · rw [← hnothing]
    exact hserving.replay_along hfair
  · subst hsplit
    obtain ⟨hbefore, hafter⟩ := hfair.of_append
    have hthen := hserving.dealAll hbefore
    exact ⟨hthen.interleaves_along hafter, fun k => hthen.account_along hafter⟩

/-- A link and a call belong to one endpoint. The link is closed, the call expires, and the link is
owned again and bound again. -/
theorem ledger_of_shared_endpoint :
    let config : GatewayConfig := { timeouts := ⟨1, 1⟩, resolution := 1 }
    let past : List Action := [.create .internal, .create .rtp]
    let after : List Dealing := [.act (.bind 0), .act (.bind 1), .act (.setMode 0 .sendRecv),
      .act (.setMode 1 .recvOnly), .act (.setMode 1 .recvOnly), .act (.close 0),
      .act (.setMode 0 .sendOnly), .act (.tick .heartbeat), .act (.tick .heartbeat), .own 0,
      .act (.bind 0), .act (.setMode 0 .sendOnly)]
    let g₁ := ((make config .isolated).run past).attachEndpoint 0 ⟨"mixer", .done, true⟩
    let g := g₁.dealAll 0 [.own 1]
    replay 0 (g₁.hearsAlong 0 "mixer" (.own 1 :: after)) = some {.sendOnly} ∧
    g.held? 0 1 = some ⟨2, .rtp, false, .inactive⟩ ∧
    g.story 0 1 after =
      [.modeUpdated .inactive .recvOnly, .modeUpdated .recvOnly .inactive, .released 2 .rtp] ∧
    Account (g.held? 0 1) true (g.story 0 1 after) none := by
  intro config past after g₁ g
  have hpast : (make config .isolated).Throughout Proper past := by decide +kernel
  have hidle : ((make config .isolated).run past).isIdle 0 = true := by decide +kernel
  have hplace : ((make config .isolated).run past).endpoints.length = 0 := by decide +kernel
  have hfair : g₁.FairAll 0 "mixer" (.own 1 :: after) := by decide +kernel
  have howned : (g₁.dealAll 0 (.own 1 :: after)).ownedModes 0 = {.sendOnly} := by decide +kernel
  have hheld : g.held? 0 1 = some ⟨2, .rtp, false, .inactive⟩ := by decide +kernel
  have hstory : g.story 0 1 after =
      [.modeUpdated .inactive .recvOnly, .modeUpdated .recvOnly .inactive, .released 2 .rtp] := by
    decide +kernel
  have hserves : g.serves 0 1 after = true := by decide +kernel
  have hlast : (g.dealAll 0 after).held? 0 1 = none := by decide +kernel
  obtain ⟨hreplay, -, hstories⟩ := ledger_of_endpoint config .isolated
    (e := ⟨"mixer", .done, true⟩) hpast rfl hidle hfair
  obtain ⟨-, haccounts⟩ := hstories [.own 1] after rfl
  have haccount := haccounts 1 (by simp [after])
  have hg₁ : ((make config .isolated).run past).attachEndpoint 0 ⟨"mixer", .done, true⟩ = g₁ := rfl
  have hg : g₁.dealAll 0 [.own 1] = g := rfl
  rw [hplace, hg₁, howned] at hreplay
  rw [hplace, hg₁, hg, hserves, hlast] at haccount
  exact ⟨hreplay, hheld, hstory, haccount⟩

end Gateway

end MediaGateway
