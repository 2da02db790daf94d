import MeshRouting.Proofs.ControlSteps

/-!
# Installed chains

Between two events a listener either has no configuration and does not serve, or it has chains and
a gate for them. The gate waits for names of the chains whose routes are missing, and has opened
if there are none. A listener that serves misses no other routes than those its gate waits for,
and one that misses no route serves.
-/
namespace MeshRouting
namespace Listener

variable {l next : Listener} {gate : ReadinessGate} {set : ChainSet} {name : String}

structure Withdrawn (l : Listener) : Prop where
  chains : l.chains = none
  gate : l.gate = none
  mode : l.mode ≠ .serving

/-- Chains and their gate, before it is looked at. -/
structure Prepared (l : Listener) (set : ChainSet) (gate : ReadinessGate) : Prop where
  chains : l.chains = some set
  waits : l.gate = some gate
  generation : gate.generation = l.generation
  missing : ∀ name ∈ gate.outstanding, name ∈ set.routeNames ∧ l.routes.find? name = none
  spent : gate.fired = true → gate.outstanding.isEmpty = true
  held : l.mode = .serving →
    ∀ name ∈ set.routeNames, name ∈ gate.outstanding ∨ l.routes.find? name ≠ none

structure Installed (l : Listener) (set : ChainSet) (gate : ReadinessGate) : Prop
    extends Prepared l set gate where
  opened : gate.outstanding.isEmpty = true → gate.fired = true
  serves : l.Covers set → l.mode = .serving

/-- Routes are watched for the chains only, and nothing is watched once the listener is closed. -/
structure Watching (l : Listener) : Prop where
  required : ∀ name, l.routeWatches.find? name ≠ none →
    ∃ set, l.chains = some set ∧ name ∈ set.routeNames
  stored : l.closed = false → l.Stored
  ended : l.closed = true → ∀ name, l.routeWatches.find? name = none

structure Orderly (l : Listener) : Prop where
  state : l.Withdrawn ∨ ∃ set gate, l.Installed set gate
  watching : l.Watching

lemma Installed.eq_of_installed {other : ChainSet} {later : ReadinessGate}
    (h : l.Installed set gate) (g : l.Installed other later) : set = other ∧ gate = later :=
  ⟨Option.some.inj (h.chains.symm.trans g.chains), Option.some.inj (h.waits.symm.trans g.waits)⟩

lemma Prepared.outstanding_of_covers (h : l.Prepared set gate) (hc : l.Covers set) :
    gate.outstanding.isEmpty = true :=
  NameSet.isEmpty_eq_true_iff.mpr fun name hm => hc name (h.missing name hm).1 (h.missing name hm).2

lemma Installed.fired_of_covers (h : l.Installed set gate) (hc : l.Covers set) :
    gate.fired = true :=
  h.opened (h.outstanding_of_covers hc)

/-- A listener that serves has all its routes just when the gate has opened. -/
theorem Installed.covers_iff (h : l.Installed set gate) (hm : l.mode = .serving) :
    l.Covers set ↔ gate.fired = true := by
  constructor
  · exact h.fired_of_covers
  · intro hf name hn
    have hempty := NameSet.isEmpty_eq_true_iff.mp (h.spent hf)
    exact (h.held hm name hn).resolve_left (hempty name)

/-! ### Looking at the gate -/

/-- With an open gate, serving where all is there makes the state whole. -/
lemma Prepared.serveIfComplete (h : l.Prepared set gate) (hf : gate.fired = true) :
    l.serveIfComplete.1.Installed set gate := by
  have hcomplete := isComplete_eq_true_iff h.chains
  rw [serveIfComplete_listener]
  refine ⟨⟨h.chains, h.waits, h.generation, h.missing, h.spent, ?_⟩, fun _ => hf, ?_⟩
  · intro hm name hn
    by_cases hc : l.isComplete = true
    · exact .inr (hcomplete.mp hc name hn)
    · rw [if_neg hc] at hm
      exact h.held hm name hn
  · intro hc
    exact if_pos (hcomplete.mpr hc)

/-- The gate opens if it waits for nothing, and is heard of if it was not open before. -/
theorem Prepared.checkReady (h : l.Prepared set gate) :
    l.checkReady.1.Installed set { gate with fired := gate.outstanding.isEmpty } ∧
    firingsOf l.checkReady.2 =
      if gate.outstanding.isEmpty ∧ gate.fired = false then [gate.generation] else [] := by
  obtain ⟨hf, he, heq⟩ | ⟨hf, heq⟩ | ⟨hf, he, heq⟩ := checkReady_cases h.waits
  · have hsame : { gate with fired := gate.outstanding.isEmpty } = gate := by rw [he, ← hf]
    rw [heq, hsame]
    refine ⟨⟨h, fun hempty => ?_, fun hc => ?_⟩, by simp [he, firingsOf]⟩
    · rw [he] at hempty
      cases hempty
    · rw [h.outstanding_of_covers hc] at he
      cases he
  · have hsame : { gate with fired := gate.outstanding.isEmpty } = gate := by
      rw [h.spent hf, ← hf]
    rw [heq, hsame]
    exact ⟨h.serveIfComplete hf, by simp [hf, firingsOf_serveIfComplete]⟩
  · let opened : ReadinessGate := { gate with fired := true }
    have hprepared : Prepared { l with gate := some opened } set opened :=
      ⟨h.chains, rfl, h.generation, h.missing, fun _ => he, h.held⟩
    have hserves := hprepared.serveIfComplete rfl
    rw [heq, he]
    refine ⟨⟨⟨hserves.chains, hserves.waits, hserves.generation, hserves.missing, hserves.spent,
      hserves.held⟩, hserves.opened, hserves.serves⟩, ?_⟩
    show firingsOf (_ ++ [.notice _, .fired gate.generation]) = _
    rw [firingsOf_append, firingsOf_serveIfComplete]
    simp [hf, firingsOf, ListenerEffect.firing?]

lemma Watching.checkReady (h : l.Watching) : l.checkReady.1.Watching := by
  rw [checkReady_rest]
  exact ⟨h.required, h.stored, h.ended⟩

/-! ### Events -/

lemma prepared_prepare (l : Listener) (set : ChainSet) :
    ∃ gate, (l.prepare set).Prepared set gate ∧ gate.generation = l.generation + 1 ∧
      gate.fired = false ∧ ∀ name, name ∈ gate.outstanding ↔
        name ∈ set.routeNames ∧ (l.prepare set).routes.find? name = none := by
  have hmissing : ∀ {kept : Listener} {name : String},
      name ∈ NameSet.ofList (kept.missingRoutes set.routeNames) ↔
        name ∈ set.routeNames ∧ kept.routes.find? name = none := by
    intro kept name
    rw [NameSet.mem_ofList, missingRoutes, List.mem_filter]
    simp only [NameMap.contains, Bool.not_eq_true', Option.isSome_eq_false_iff,
      Option.isNone_iff_eq_none]
    rfl
  refine ⟨_, ⟨rfl, rfl, ?_, fun name hm => hmissing.mp hm, ?_, ?_⟩, rfl, rfl,
    fun name => hmissing⟩
  · show l.generation + 1 = _
    rw [prepare_rest]
  · intro hf
    cases hf
  · intro _ name hn
    by_cases hr : (l.prepare set).routes.find? name = none
    · exact .inl (hmissing.mpr ⟨hn, hr⟩)
    · exact .inr hr

lemma Watching.prepare (h : l.Watching) (set : ChainSet) : (l.prepare set).Watching := by
  have hclosed : (l.prepare set).closed = l.closed := (advances_prepare l set).closed
  cases hl : l.closed with
  | true =>
    have hnone : ∀ name, (l.prepare set).routeWatches.find? name = none := by
      rw [(prepare_of_closed hl set).1]
      exact h.ended hl
    refine ⟨fun name hw => absurd (hnone name) hw, ?_, fun _ => hnone⟩
    rw [hclosed, hl]
    exact nofun
  | false =>
    have hwatched := find?_prepare_eq_none_iff hl set
    refine ⟨?_, ?_, ?_⟩
    · intro name hw
      exact ⟨set, rfl, not_not.mp (mt (hwatched name).mpr hw)⟩
    · intro _ name hw
      exact ((h.stored hl).routes_prepare hl set name).trans (if_neg ((hwatched name).mp hw))
    · rw [hclosed, hl]
      exact nofun

lemma Watching.forget (h : l.Watching) : l.forget.Watching := by
  have hclosed : l.forget.closed = l.closed := (advances_forget l).closed
  have hnone : ∀ name, l.forget.routeWatches.find? name = none := by
    intro name
    cases hl : l.closed with
    | true =>
      rw [forget_of_closed hl]
      exact h.ended hl name
    | false => exact find?_forget hl name
  refine ⟨fun name hw => absurd (hnone name) hw, ?_, fun _ => hnone⟩
  intro hl name _
  rw [hclosed] at hl
  exact (h.stored hl).routes_forget hl name

lemma forget_withdrawn (l : Listener) : Withdrawn { l.forget with mode := .notServing } := by
  refine ⟨?_, ?_, by simp⟩
  · rw [forget_rest]
  · rw [forget_rest]

/-- A watch is in force only while chains are installed. -/
lemma Orderly.installed_of_watch (h : l.Orderly) (hw : l.routeWatches.find? name ≠ none) :
    ∃ set gate, l.Installed set gate ∧ name ∈ set.routeNames := by
  obtain ⟨set, hchains, hm⟩ := h.watching.required name hw
  rcases h.state with hwithdrawn | ⟨other, gate, hi⟩
  · rw [hwithdrawn.chains] at hchains
    cases hchains
  · have hsame : other = set := Option.some.inj (hi.chains.symm.trans hchains)
    exact ⟨set, gate, hsame ▸ hi, hm⟩

lemma Installed.receive (h : l.Installed set gate) (name : String) (config : RouteConfig) :
    (l.receive name config).Prepared set (gate.resolve name).1 := by
  have hfind : ∀ other, (l.receive name config).routes.find? other =
      if name = other then some config else l.routes.find? other := fun other =>
    NameMap.find?_insert _ _ _ _
  refine ⟨h.chains, ?_, h.generation, ?_, ?_, ?_⟩
  · show l.gate.map _ = _
    rw [h.waits]
    rfl
  · intro other hm
    obtain ⟨hout, hne⟩ := NameSet.mem_erase.mp hm
    rw [hfind, if_neg (Ne.symm hne)]
    exact h.missing other hout
  · intro hf
    have hempty := NameSet.isEmpty_eq_true_iff.mp (h.spent hf)
    exact NameSet.isEmpty_eq_true_iff.mpr fun other hm => hempty other (NameSet.mem_erase.mp hm).1
  · intro hm other hn
    rw [hfind]
    by_cases he : name = other
    · exact .inr (by simp [he])
    · rw [if_neg he]
      refine (h.held hm other hn).imp_left fun hout => ?_
      exact NameSet.mem_erase.mpr ⟨hout, Ne.symm he⟩

lemma Watching.receive (h : l.Watching) (hw : l.routeWatches.find? name ≠ none)
    (config : RouteConfig) : (l.receive name config).Watching := by
  refine ⟨h.required, ?_, h.ended⟩
  intro hl other hnone
  show (l.routes.insert name config).find? other = none
  rw [NameMap.find?_insert, if_neg]
  · exact h.stored hl other hnone
  · intro he
    exact hw (he ▸ hnone)

/-- A route that is lost leaves the chains incomplete, and the listener does not serve. -/
lemma Installed.lose (h : l.Installed set gate) (hn : name ∈ set.routeNames) :
    Installed { l with routes := l.routes.erase name, mode := .notServing } set gate := by
  have hfind : ∀ other, (l.routes.erase name).find? other =
      if name = other then none else l.routes.find? other := fun other =>
    NameMap.find?_erase _ _ _
  refine ⟨⟨h.chains, h.waits, h.generation, ?_, h.spent, nofun⟩, h.opened, ?_⟩
  · intro other hm
    obtain ⟨hr, hnone⟩ := h.missing other hm
    refine ⟨hr, ?_⟩
    show (l.routes.erase name).find? other = none
    rw [hfind, hnone, ite_self]
  · intro hc
    exact absurd ((hfind name).trans (if_pos rfl)) (hc name hn)

lemma Watching.lose (h : l.Watching) (name : String) :
    Watching { l with routes := l.routes.erase name, mode := .notServing } := by
  refine ⟨h.required, ?_, h.ended⟩
  intro hl other hnone
  show (l.routes.erase name).find? other = none
  rw [NameMap.find?_erase, h.stored hl other hnone, ite_self]

theorem Watching.onEvent (h : l.Watching) (event : ControlEvent) :
    (l.onEvent event).1.Watching := by
  have htakes := takes_onEvent l event
  generalize l.onEvent event = o at htakes ⊢
  cases htakes with
  | @install _ set ha =>
    obtain ⟨effects, -, heq⟩ := install_eq l set
    rw [heq]
    exact (h.prepare set).checkReady
  | @withdraw _ error ha n =>
    obtain ⟨effects, -, heq⟩ := withdraw_eq l error
    have hf := h.forget
    show (l.withdraw error).1.Watching
    rw [heq]
    exact ⟨hf.required, hf.stored, hf.ended⟩
  | @store name watch hw config =>
    obtain ⟨effects, -, heq⟩ := storeRoute_eq l name config
    rw [heq]
    exact (h.receive (by simp [hw]) config).checkReady
  | @lose name watch hw e he =>
    obtain ⟨effects, -, heq⟩ := loseRoute_eq l name e
    rw [heq]
    exact h.lose name
  | ignore ha n => exact h

/-- Once the listener is closed nothing is received or lost any more. -/
lemma Watching.routes_of_closed (h : l.Watching) (hc : l.closed = true) (event : ControlEvent) :
    (l.onEvent event).1.routes = l.routes := by
  have htakes := takes_onEvent l event
  generalize l.onEvent event = o at htakes ⊢
  cases htakes with
  | @install _ set ha =>
    obtain ⟨effects, -, heq⟩ := install_eq l set
    rw [heq, checkReady_rest]
    exact (prepare_of_closed hc set).2
  | @withdraw _ error ha n =>
    obtain ⟨effects, -, heq⟩ := withdraw_eq l error
    show (l.withdraw error).1.routes = l.routes
    rw [heq]
    show l.forget.routes = l.routes
    rw [forget_of_closed hc]
  | @store name watch hw config =>
    rw [h.ended hc name] at hw
    cases hw
  | @lose name watch hw e he =>
    rw [h.ended hc name] at hw
    cases hw
  | ignore ha n => rfl

/-- The event brings a route from the watch in force. -/
def Receives (l : Listener) (event : ControlEvent) (name : String) : Prop :=
  ∃ watch config, l.routeWatches.find? name = some watch ∧
    event = .route name watch.number (.ok config)

/-- What an event does to the generations: it begins one, ends one, lets one go on, or finds none.
A gate stops waiting for the routes that arrive, and is heard of when it opens. -/
inductive Turns (l : Listener) (event : ControlEvent) (next : Listener)
    (effects : List ListenerEffect) : Prop where
  | begins {set : ChainSet} {gate : ReadinessGate} (accepts : l.accepts? event = some set)
    (installed : next.Installed set gate) (generation : next.generation = l.generation + 1)
    (outstanding : ∀ name, name ∈ gate.outstanding ↔
      name ∈ set.routeNames ∧ next.routes.find? name = none)
    (firings : firingsOf effects = if gate.fired then [next.generation] else [])
  | ends {error : String} (accepts : l.accepts? event = none)
    (withdraws : l.withdraws? event = some error) (withdrawn : next.Withdrawn)
    (generation : next.generation = l.generation) (firings : firingsOf effects = [])
  | goesOn {set : ChainSet} {gate later : ReadinessGate} (accepts : l.accepts? event = none)
    (withdraws : l.withdraws? event = none) (before : l.Installed set gate)
    (after : next.Installed set later) (generation : next.generation = l.generation)
    (watches : next.routeWatches = l.routeWatches)
    (outstanding : ∀ name, name ∈ later.outstanding ↔
      name ∈ gate.outstanding ∧ ¬ l.Receives event name)
    (firings : firingsOf effects =
      if later.fired = true ∧ gate.fired = false then [next.generation] else [])
  | idles (accepts : l.accepts? event = none) (withdraws : l.withdraws? event = none)
    (before : l.Withdrawn) (same : next = l) (firings : firingsOf effects = [])

lemma not_receives_of_error {event : ControlEvent} {number : Nat} {e : WatchError}
    (h : event = .route name number (.error e)) (other : String) : ¬ l.Receives event other := by
  rintro ⟨watch, config, -, heq⟩
  rw [h] at heq
  cases (ControlEvent.route.inj heq).2.2

lemma turns_install {event : ControlEvent} (ha : l.accepts? event = some set) :
    Turns l event (l.install set).1 (l.install set).2 := by
  obtain ⟨effects, hquiet, heq⟩ := install_eq l set
  obtain ⟨gate, hprepared, hgeneration, hshut, houtstanding⟩ := prepared_prepare l set
  obtain ⟨hinstalled, hfirings⟩ := hprepared.checkReady
  have hgen : (l.prepare set).checkReady.1.generation = l.generation + 1 := by
    rw [← hinstalled.generation, ← hgeneration]
  have hroutes : (l.prepare set).checkReady.1.routes = (l.prepare set).routes := by
    rw [checkReady_rest]
  rw [heq]
  refine .begins ha hinstalled hgen ?_ ?_
  · intro name
    rw [hroutes]
    exact houtstanding name
  · rw [firingsOf_append, hquiet.firingsOf_eq, List.nil_append, hfirings, hgen, hgeneration]
    simp [hshut]

lemma turns_withdraw {event : ControlEvent} {error : String}
    (hw : l.withdraws? event = some error) (n : Notice) :
    Turns l event (l.withdraw error).1 ([.notice n] ++ (l.withdraw error).2) := by
  obtain ⟨effects, hquiet, heq⟩ := withdraw_eq l error
  rw [heq]
  refine .ends (accepts?_eq_none hw) hw (forget_withdrawn l) ?_ ?_
  · show l.forget.generation = l.generation
    rw [forget_rest]
  · rw [firingsOf_append, firingsOf_append, (quiet_notice n).firingsOf_eq, hquiet.firingsOf_eq,
      firingsOf_switchMode]
    rfl

lemma Orderly.turns_store (h : l.Orderly) {watch : RouteWatch}
    (hw : l.routeWatches.find? name = some watch) (config : RouteConfig) :
    Turns l (.route name watch.number (.ok config)) (l.storeRoute name config).1
      (l.storeRoute name config).2 := by
  obtain ⟨effects, hquiet, heq⟩ := storeRoute_eq l name config
  have hsome : l.routeWatches.find? name ≠ none := by simp [hw]
  obtain ⟨set, gate, hi, -⟩ := h.installed_of_watch hsome
  obtain ⟨hinstalled, hfirings⟩ := (hi.receive name config).checkReady
  have hgen : (l.receive name config).checkReady.1.generation = l.generation := by
    rw [checkReady_rest]
    rfl
  have hwatches : (l.receive name config).checkReady.1.routeWatches = l.routeWatches := by
    rw [checkReady_rest]
    rfl
  rw [heq]
  refine .goesOn rfl rfl hi hinstalled hgen hwatches (fun other => ?_) ?_
  · refine NameSet.mem_erase.trans (and_congr_right' (not_congr ?_))
    constructor
    · intro he
      exact ⟨watch, config, he ▸ hw, he ▸ rfl⟩
    · rintro ⟨_, _, -, he⟩
      exact (ControlEvent.route.inj he).1.symm
  · rw [firingsOf_append, hquiet.firingsOf_eq, List.nil_append, hfirings, hgen, ← hi.generation]
    rfl

lemma Orderly.turns_lose (h : l.Orderly) {watch : RouteWatch}
    (hw : l.routeWatches.find? name = some watch) (e : WatchError) :
    Turns l (.route name watch.number (.error e)) (l.loseRoute name e).1
      (l.loseRoute name e).2 := by
  obtain ⟨effects, hquiet, heq⟩ := loseRoute_eq l name e
  have hsome : l.routeWatches.find? name ≠ none := by simp [hw]
  obtain ⟨set, gate, hi, hn⟩ := h.installed_of_watch hsome
  rw [heq]
  refine .goesOn rfl rfl hi (hi.lose hn) rfl rfl (fun other => ?_) ?_
  · exact (and_iff_left (not_receives_of_error rfl other)).symm
  · rw [firingsOf_append, hquiet.firingsOf_eq, firingsOf_switchMode]
    cases gate.fired <;> rfl

lemma Orderly.turns_ignore (h : l.Orderly) {event : ControlEvent} (hi : l.Ignores event)
    (n : Notice) : Turns l event l [.notice n] := by
  rcases h.state with hwithdrawn | ⟨set, gate, hinstalled⟩
  · exact .idles hi.accepts hi.withdraws hwithdrawn rfl rfl
  · refine .goesOn hi.accepts hi.withdraws hinstalled hinstalled rfl rfl (fun name => ?_) ?_
    · refine (and_iff_left ?_).symm
      rintro ⟨watch, config, hw, heq⟩
      obtain ⟨e, he, -⟩ := hi.trouble name watch _ heq hw
      cases he
    · cases gate.fired <;> simp [firingsOf, ListenerEffect.firing?]

/-- An event goes with the generations in one of these ways. -/
theorem Orderly.turns (h : l.Orderly) (event : ControlEvent) :
    Turns l event (l.onEvent event).1 (l.onEvent event).2 := by
  have htakes := takes_onEvent l event
  generalize l.onEvent event = o at htakes ⊢
  cases htakes with
  | install ha => exact turns_install ha
  | withdraw hw n => exact turns_withdraw hw n
  | store hw config => exact h.turns_store hw config
  | lose hw he => exact h.turns_lose hw _
  | ignore hi n => exact h.turns_ignore hi n

/-- The chains of an accepted update are installed. -/
lemma Orderly.installed_of_accepts {event : ControlEvent} (h : l.Orderly)
    (ha : l.accepts? event = some set) : ∃ gate, (l.onEvent event).1.Installed set gate := by
  cases h.turns event with
  | begins accepts installed =>
    obtain rfl := Option.some.inj (accepts.symm.trans ha)
    exact ⟨_, installed⟩
  | ends accepts => cases accepts.symm.trans ha
  | goesOn accepts => cases accepts.symm.trans ha
  | idles accepts => cases accepts.symm.trans ha

/-- Every event leaves the state in order. -/
theorem Orderly.onEvent (h : l.Orderly) (event : ControlEvent) :
    (l.onEvent event).1.Orderly := by
  refine ⟨?_, h.watching.onEvent event⟩
  cases h.turns event with
  | begins accepts installed => exact .inr ⟨_, _, installed⟩
  | ends accepts withdraws withdrawn => exact .inl withdrawn
  | goesOn accepts withdraws before after => exact .inr ⟨_, _, after⟩
  | idles accepts withdraws before same => exact .inl (by rwa [same])

end Listener
end MeshRouting
