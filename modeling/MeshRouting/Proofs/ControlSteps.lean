import MeshRouting.Proofs.RouteWatches

/-!
# Steps of the control loop

An event that is taken comes to one of five things: a new generation is installed, the
configuration is withdrawn, a route is received or lost, or nothing changes. Whatever it comes to,
the address, the queue and the two ends of the listener stay as they are.
-/
namespace MeshRouting

def ListenerEffect.firing? : ListenerEffect → Option Nat
  | fired generation => some generation
  | _ => none

def ListenerEffect.report? : ListenerEffect → Option (ServingMode × Option String)
  | modeReported mode error => some (mode, error)
  | _ => none

/-- The generations that become ready, in order. -/
def firingsOf (effects : List ListenerEffect) : List Nat := effects.filterMap (·.firing?)

/-- The changes of mode that are reported, in order. -/
def reportsOf (effects : List ListenerEffect) : List (ServingMode × Option String) :=
  effects.filterMap (·.report?)

@[simp] lemma firingsOf_append (effects more : List ListenerEffect) :
    firingsOf (effects ++ more) = firingsOf effects ++ firingsOf more := List.filterMap_append

@[simp] lemma reportsOf_append (effects more : List ListenerEffect) :
    reportsOf (effects ++ more) = reportsOf effects ++ reportsOf more := List.filterMap_append

lemma Quiet.firingsOf_eq {effects : List ListenerEffect} (h : Quiet effects) :
    firingsOf effects = [] := by
  refine List.filterMap_eq_nil_iff.mpr fun e he => ?_
  obtain ⟨n, rfl⟩ := h e he
  rfl

lemma Quiet.reportsOf_eq {effects : List ListenerEffect} (h : Quiet effects) :
    reportsOf effects = [] := by
  refine List.filterMap_eq_nil_iff.mpr fun e he => ?_
  obtain ⟨n, rfl⟩ := h e he
  rfl

lemma mem_firingsOf_iff {effects : List ListenerEffect} {generation : Nat} :
    generation ∈ firingsOf effects ↔ .fired generation ∈ effects := by
  rw [firingsOf, List.mem_filterMap]
  constructor
  · rintro ⟨e, he, hg⟩
    cases e with
    | fired other =>
      cases hg
      exact he
    | notice n => cases hg
    | metric m => cases hg
    | modeReported mode error => cases hg
  · intro he
    exact ⟨_, he, rfl⟩

namespace ChainSet

lemma mem_routeNames_iff {set : ChainSet} {name : String} :
    name ∈ set.routeNames ↔ ∃ chain ∈ set.all, chain.route = .dynamic name := by
  have hroute : ∀ chain : FilterChain,
      chain.dynamicRoute? = some name ↔ chain.route = .dynamic name := by
    intro chain
    unfold FilterChain.dynamicRoute?
    split
    · rename_i hr
      simp [hr]
    · rename_i hr
      simp [hr]
  rw [routeNames, NameSet.mem_ofList, List.mem_filterMap]
  simp only [hroute]

end ChainSet

namespace Listener

variable {l next later : Listener} {gate : ReadinessGate} {set : ChainSet} {name : String}

/-! ### The serving mode -/

lemma switchMode_listener (l : Listener) (mode : ServingMode) (error : Option String) :
    (l.switchMode mode error).1 = { l with mode } := by
  unfold switchMode
  split
  · rename_i h
    rw [h.2, ← h.1]
  · rfl

lemma firingsOf_switchMode (l : Listener) (mode : ServingMode) (error : Option String) :
    firingsOf (l.switchMode mode error).2 = [] := by
  unfold switchMode
  split
  · rfl
  · cases l.reportsMode <;> rfl

/-- All but staying in the serving mode is reported. -/
lemma reportsOf_switchMode (hr : l.reportsMode = true) (mode : ServingMode)
    (error : Option String) :
    reportsOf (l.switchMode mode error).2 =
      if l.mode = .serving ∧ mode = .serving then [] else [(mode, error)] := by
  unfold switchMode
  split
  · rfl
  · rw [hr]
    rfl

/-! ### Readiness -/

/-- All routes of the chains have been received. -/
def Covers (l : Listener) (set : ChainSet) : Prop :=
  ∀ name ∈ set.routeNames, l.routes.find? name ≠ none

lemma isComplete_eq_true_iff (hc : l.chains = some set) : l.isComplete = true ↔ l.Covers set := by
  rw [isComplete, hc, Option.any_some, List.all_eq_true]
  refine forall₂_congr fun name _ => ?_
  rw [NameMap.contains, Option.isSome_iff_ne_none]

lemma serveIfComplete_listener (l : Listener) :
    l.serveIfComplete.1 = { l with mode := if l.isComplete then .serving else l.mode } := by
  unfold serveIfComplete
  split
  · exact switchMode_listener l _ _
  · rfl

lemma firingsOf_serveIfComplete (l : Listener) : firingsOf l.serveIfComplete.2 = [] := by
  unfold serveIfComplete
  split
  · exact firingsOf_switchMode l _ _
  · rfl

/-- The gate stays shut, or is open already, or opens and is heard of. -/
lemma checkReady_cases (hg : l.gate = some gate) :
    (gate.fired = false ∧ gate.outstanding.isEmpty = false ∧ l.checkReady = (l, [])) ∨
    (gate.fired = true ∧ l.checkReady = l.serveIfComplete) ∨
    gate.fired = false ∧ gate.outstanding.isEmpty = true ∧
      l.checkReady = andThen { l with gate := some { gate with fired := true } }.serveIfComplete
        (·.fire gate.generation) := by
  have hsame : { l with gate := some gate } = l := by rw [← hg]
  obtain ⟨generation, outstanding, fired⟩ := gate
  unfold checkReady
  rw [hg]
  cases fired with
  | true =>
    refine .inr (.inl ⟨rfl, ?_⟩)
    simp only [ReadinessGate.takeReady, Bool.true_or, if_true, hsame]
    simp [andThen]
  | false =>
    cases he : outstanding.isEmpty with
    | false =>
      refine .inl ⟨rfl, rfl, ?_⟩
      simp [ReadinessGate.takeReady, he, hsame]
    | true =>
      refine .inr (.inr ⟨rfl, rfl, ?_⟩)
      simp [ReadinessGate.takeReady, he]

/-- Readiness concerns the gate, the mode and the ready signal only. -/
lemma checkReady_rest (l : Listener) :
    l.checkReady.1 = { l with
      gate := l.checkReady.1.gate
      mode := l.checkReady.1.mode
      ready := l.checkReady.1.ready } := by
  cases hg : l.gate with
  | none =>
    have hnone : l.checkReady = (l, []) := by simp [checkReady, hg]
    rw [hnone]
  | some gate =>
    obtain ⟨-, -, heq⟩ | ⟨-, heq⟩ | ⟨-, -, heq⟩ := checkReady_cases hg
    · rw [heq]
    · rw [heq, serveIfComplete_listener]
    · rw [heq]
      simp only [andThen, fire, serveIfComplete_listener]

/-! ### The things an event can come to -/

/-- A new generation with its chains, not looked at yet. -/
def prepare (l : Listener) (set : ChainSet) : Listener :=
  let kept := ({ l with generation := l.generation + 1 }.updateRouteWatches set.routeNames).1
  { kept with
    chains := some set
    gate := some (.make (l.generation + 1) (kept.missingRoutes set.routeNames)) }

/-- A route that has arrived, not looked at yet. -/
def receive (l : Listener) (name : String) (config : RouteConfig) : Listener :=
  { l with
    routes := l.routes.insert name config
    gate := l.gate.map fun gate => (gate.resolve name).1 }

/-- Without chains and watches. -/
def forget (l : Listener) : Listener :=
  ({ l with chains := none, gate := none }.updateRouteWatches .empty).1

/-- Only what belongs to the generation, and the watches with their routes, is new. -/
lemma prepare_rest (l : Listener) (set : ChainSet) :
    l.prepare set = { l with
      generation := l.generation + 1
      client := (l.prepare set).client
      routeWatches := (l.prepare set).routeWatches
      lastWatch := (l.prepare set).lastWatch
      routes := (l.prepare set).routes
      chains := some set
      gate := (l.prepare set).gate } := by
  have hkept := (rewatched_updateRouteWatches { l with generation := l.generation + 1 }
    set.routeNames).rest
  simp only [prepare]
  rw [hkept]

lemma forget_rest (l : Listener) :
    l.forget = { l with
      client := l.forget.client
      routeWatches := l.forget.routeWatches
      lastWatch := l.forget.lastWatch
      routes := l.forget.routes
      chains := none
      gate := none } :=
  (rewatched_updateRouteWatches { l with chains := none, gate := none } .empty).rest

section Watches

variable {watch : RouteWatch}

lemma find?_prepare_eq_none_iff (h : l.closed = false) (set : ChainSet) (name : String) :
    (l.prepare set).routeWatches.find? name = none ↔ name ∉ set.routeNames :=
  find?_updateRouteWatches_eq_none_iff (l := { l with generation := l.generation + 1 }) h

lemma find?_prepare_of_mem (h : l.closed = false) (hm : name ∈ set.routeNames)
    (hw : l.routeWatches.find? name = some watch) :
    (l.prepare set).routeWatches.find? name = some watch :=
  find?_updateRouteWatches_of_mem (l := { l with generation := l.generation + 1 }) h hm hw

lemma Stored.routes_prepare (hs : l.Stored) (h : l.closed = false) (set : ChainSet)
    (name : String) : (l.prepare set).routes.find? name =
      if name ∈ set.routeNames then l.routes.find? name else none := by
  have hcounted : Stored { l with generation := l.generation + 1 } := hs
  exact hcounted.find?_updateRouteWatches h set.routeNames name

lemma prepare_of_closed (h : l.closed = true) (set : ChainSet) :
    (l.prepare set).routeWatches = l.routeWatches ∧ (l.prepare set).routes = l.routes := by
  have hsame := updateRouteWatches_of_closed (l := { l with generation := l.generation + 1 }) h
    set.routeNames
  simp only [prepare, hsame, and_self]

lemma find?_forget (h : l.closed = false) (name : String) :
    l.forget.routeWatches.find? name = none :=
  (find?_updateRouteWatches_eq_none_iff (l := { l with chains := none, gate := none }) h).mpr
    NameSet.not_mem_empty

lemma Stored.routes_forget (hs : l.Stored) (h : l.closed = false) (name : String) :
    l.forget.routes.find? name = none := by
  have hnone : Stored { l with chains := none, gate := none } := hs
  exact (hnone.find?_updateRouteWatches h .empty name).trans (if_neg NameSet.not_mem_empty)

lemma forget_of_closed (h : l.closed = true) :
    l.forget = { l with chains := none, gate := none } := by
  rw [forget, updateRouteWatches_of_closed (l := { l with chains := none, gate := none }) h]

end Watches

lemma install_eq (l : Listener) (set : ChainSet) :
    ∃ effects, Quiet effects ∧
      l.install set = ((l.prepare set).checkReady.1, effects ++ (l.prepare set).checkReady.2) := by
  let o := { l with generation := l.generation + 1 }.updateRouteWatches set.routeNames
  have hgeneration : o.1.generation = l.generation + 1 := by
    rw [(rewatched_updateRouteWatches { l with generation := l.generation + 1 } _).rest]
  let gate := ReadinessGate.make (l.generation + 1) (o.1.missingRoutes set.routeNames)
  refine ⟨o.2 ++ [.notice (.listenerUpdated o.1.address (l.generation + 1) set.routeNames.size
    gate.outstanding.size)], (updateRouteWatches_quiet _ _).append (quiet_notice _), ?_⟩
  unfold install prepare andThen say
  simp only [o, gate, hgeneration, List.append_assoc]

lemma storeRoute_eq (l : Listener) (name : String) (config : RouteConfig) :
    ∃ effects, Quiet effects ∧
      l.storeRoute name config =
        ((l.receive name config).checkReady.1, effects ++ (l.receive name config).checkReady.2) :=
  ⟨_, quiet_notice (.routeReceived name l.generation), rfl⟩

lemma withdraw_eq (l : Listener) (error : String) :
    ∃ effects, Quiet effects ∧
      l.withdraw error = ({ l.forget with mode := .notServing },
        effects ++ (l.forget.switchMode .notServing (some error)).2) := by
  refine ⟨_, updateRouteWatches_quiet { l with chains := none, gate := none } .empty, ?_⟩
  have hmode := switchMode_listener l.forget .notServing (some error)
  show ((l.forget.switchMode .notServing (some error)).1, _) = _
  rw [hmode]
  rfl

lemma loseRoute_eq (l : Listener) (name : String) (e : WatchError) :
    ∃ effects, Quiet effects ∧
      l.loseRoute name e = ({ l with routes := l.routes.erase name, mode := .notServing },
        effects ++
          (switchMode { l with routes := l.routes.erase name } .notServing (some e.text)).2) := by
  refine ⟨_, quiet_notice (.routeRemoved name e.text), ?_⟩
  have hmode := switchMode_listener { l with routes := l.routes.erase name } .notServing
    (some e.text)
  show ((switchMode { l with routes := l.routes.erase name } .notServing (some e.text)).1, _) = _
  rw [hmode]
  rfl

/-- The chains of an update that is accepted. -/
def accepts? (l : Listener) : ControlEvent → Option ChainSet
  | .listener (.ok update) =>
    if l.isBoundTo update then (ChainSet.make? update.chains update.fallback).toOption else none
  | .listener (.error _) | .route .. => none

/-- Why the configuration is withdrawn, if it is. -/
def withdraws? (l : Listener) : ControlEvent → Option String
  | .listener (.ok update) => if l.isBoundTo update then none else some (l.mismatchMessage update)
  | .listener (.error e) => if e.isNotFound then some e.text else none
  | .route .. => none

lemma accepts?_eq_none {event : ControlEvent} {error : String}
    (h : l.withdraws? event = some error) : l.accepts? event = none := by
  match event with
  | .listener (.ok update) =>
    cases hb : l.isBoundTo update with
    | true => simp [withdraws?, hb] at h
    | false => simp [accepts?, hb]
  | .listener (.error e) => rfl
  | .route name watch result => rfl

/-- The event is a refused update, or some trouble, or comes from a watch that is not in force. -/
structure Ignores (l : Listener) (event : ControlEvent) : Prop where
  accepts : l.accepts? event = none
  withdraws : l.withdraws? event = none
  trouble : ∀ name watch result, event = .route name watch.number result →
    l.routeWatches.find? name = some watch → ∃ e, result = .error e ∧ e.isNotFound = false

/-- What an event comes to. -/
inductive Takes (l : Listener) : ControlEvent → Outcome → Prop where
  | install {event : ControlEvent} {set : ChainSet} (h : l.accepts? event = some set) :
    Takes l event (l.install set)
  | withdraw {event : ControlEvent} {error : String} (h : l.withdraws? event = some error)
    (n : Notice) : Takes l event (andThen (l.say n) (·.withdraw error))
  | store {name : String} {watch : RouteWatch} (h : l.routeWatches.find? name = some watch)
    (config : RouteConfig) :
    Takes l (.route name watch.number (.ok config)) (l.storeRoute name config)
  | lose {name : String} {watch : RouteWatch} (h : l.routeWatches.find? name = some watch)
    {e : WatchError} (he : e.isNotFound = true) :
    Takes l (.route name watch.number (.error e)) (l.loseRoute name e)
  | ignore {event : ControlEvent} (h : l.Ignores event) (n : Notice) : Takes l event (l.say n)

lemma takes_onListener (l : Listener) (result : Except WatchError ListenerUpdate) :
    l.Takes (.listener result) (l.onListener result) := by
  cases result with
  | ok update =>
    unfold onListener onUpdate
    dsimp only
    split
    · rename_i hbound
      split
      · rename_i hset
        refine .ignore ⟨?_, ?_, by simp⟩ _
        · simp [accepts?, hset, Except.toOption]
        · simp [withdraws?, hbound]
      · rename_i set hset
        exact .install (by simp [accepts?, hbound, hset, Except.toOption])
    · rename_i hbound
      exact .withdraw (by simp [withdraws?, hbound]) _
  | error e =>
    unfold onListener
    dsimp only
    split
    · rename_i he
      exact .withdraw (by simp [withdraws?, he]) _
    · rename_i he
      exact .ignore ⟨rfl, by simp [withdraws?, he], by simp⟩ _

lemma takes_onRoute (l : Listener) (name : String) (number : Nat)
    (result : Except WatchError RouteConfig) :
    l.Takes (.route name number result) (l.onRoute name number result) := by
  unfold onRoute
  split
  · rename_i hstale
    refine .ignore ⟨rfl, rfl, ?_⟩ _
    intro other watch _ heq hw
    obtain ⟨rfl, rfl, rfl⟩ := ControlEvent.route.inj heq
    exact absurd (by simp [hw]) hstale
  · rename_i hforce
    obtain ⟨watch, hw, rfl⟩ := Option.map_eq_some_iff.mp (not_not.mp hforce)
    cases result with
    | ok config => exact .store hw config
    | error e =>
      dsimp only
      split
      · rename_i he
        exact .lose hw he
      · rename_i he
        refine .ignore ⟨rfl, rfl, ?_⟩ _
        intro _ _ _ heq _
        obtain ⟨-, -, rfl⟩ := ControlEvent.route.inj heq
        exact ⟨e, rfl, by simpa using he⟩

/-- Taking an event comes to one of the five things. -/
theorem takes_onEvent (l : Listener) (event : ControlEvent) : l.Takes event (l.onEvent event) := by
  cases event with
  | listener result => exact takes_onListener l result
  | route name watch result => exact takes_onRoute l name watch result

lemma onEvent_of_accepts {event : ControlEvent} (ha : l.accepts? event = some set) :
    l.onEvent event = l.install set := by
  have htakes := takes_onEvent l event
  generalize l.onEvent event = o at htakes ⊢
  cases htakes with
  | install h => rw [Option.some.inj (ha.symm.trans h)]
  | withdraw h _ =>
    rw [accepts?_eq_none h] at ha
    cases ha
  | store _ _ => cases ha
  | lose _ _ => cases ha
  | ignore hi _ =>
    rw [hi.accepts] at ha
    cases ha

lemma onEvent_of_withdraws {event : ControlEvent} {error : String}
    (hw : l.withdraws? event = some error) :
    ∃ n, l.onEvent event = andThen (l.say n) (·.withdraw error) := by
  have htakes := takes_onEvent l event
  generalize l.onEvent event = o at htakes ⊢
  cases htakes with
  | install h =>
    rw [accepts?_eq_none hw] at h
    cases h
  | withdraw h n =>
    rw [Option.some.inj (hw.symm.trans h)]
    exact ⟨n, rfl⟩
  | store _ _ => cases hw
  | lose _ _ => cases hw
  | ignore hi _ =>
    rw [hi.withdraws] at hw
    cases hw

/-! ### What stays -/

/-- The place of the listener, its queue and its ends are the same, and a watch that was not
there has a number that was not given before. -/
structure Advances (l next : Listener) : Prop where
  address : next.address = l.address
  reportsMode : next.reportsMode = l.reportsMode
  events : next.events = l.events
  closed : next.closed = l.closed
  exited : next.exited = l.exited
  upward : l.lastWatch ≤ next.lastWatch
  fresh : ∀ name watch, next.routeWatches.find? name = some watch →
    l.routeWatches.find? name = some watch ∨
      l.lastWatch < watch.number ∧ watch.number ≤ next.lastWatch

lemma Rewatched.advances (h : l.Rewatched next) : l.Advances next where
  address := by rw [h.rest]
  reportsMode := by rw [h.rest]
  events := by rw [h.rest]
  closed := by rw [h.rest]
  exited := by rw [h.rest]
  upward := h.upward
  fresh := h.fresh

lemma advances_prepare (l : Listener) (set : ChainSet) : l.Advances (l.prepare set) := by
  have h := (rewatched_updateRouteWatches { l with generation := l.generation + 1 }
    set.routeNames).advances
  exact ⟨h.address, h.reportsMode, h.events, h.closed, h.exited, h.upward, h.fresh⟩

lemma advances_forget (l : Listener) : l.Advances l.forget := by
  have h := (rewatched_updateRouteWatches { l with chains := none, gate := none } .empty).advances
  exact ⟨h.address, h.reportsMode, h.events, h.closed, h.exited, h.upward, h.fresh⟩

lemma Advances.checkReady (h : l.Advances next) : l.Advances next.checkReady.1 := by
  rw [checkReady_rest]
  exact ⟨h.address, h.reportsMode, h.events, h.closed, h.exited, h.upward, h.fresh⟩

theorem advances_onEvent (l : Listener) (event : ControlEvent) :
    l.Advances (l.onEvent event).1 := by
  have htakes := takes_onEvent l event
  generalize l.onEvent event = o at htakes ⊢
  cases htakes with
  | @install _ set h =>
    obtain ⟨effects, -, heq⟩ := install_eq l set
    rw [heq]
    exact (advances_prepare l set).checkReady
  | @withdraw _ error h n =>
    obtain ⟨effects, -, heq⟩ := withdraw_eq l error
    show l.Advances (l.withdraw error).1
    have hf := advances_forget l
    rw [heq]
    exact ⟨hf.address, hf.reportsMode, hf.events, hf.closed, hf.exited, hf.upward, hf.fresh⟩
  | @store name watch h config =>
    obtain ⟨effects, -, heq⟩ := storeRoute_eq l name config
    have hr : l.Advances (l.receive name config) :=
      ⟨rfl, rfl, rfl, rfl, rfl, le_rfl, fun _ _ h => .inl h⟩
    rw [heq]
    exact hr.checkReady
  | @lose name watch h e he =>
    obtain ⟨effects, -, heq⟩ := loseRoute_eq l name e
    rw [heq]
    exact ⟨rfl, rfl, rfl, rfl, rfl, le_rfl, fun _ _ h => .inl h⟩
  | ignore h n => exact ⟨rfl, rfl, rfl, rfl, rfl, le_rfl, fun _ _ h => .inl h⟩

end Listener
end MeshRouting
