import MeshRouting.Proofs.ReadyGenerations
import MeshRouting.Proofs.RoutableConnections

/-!
# Callbacks of routes

Between two events of its own resource a listener hears of routes only. What it comes to is then
given by what each watch in force has delivered: the table, the names that the gate waits for, and
the mode, which falls when a required route is lost and rises when all of them are there. So
callbacks for different routes can be taken in either order.
-/
namespace MeshRouting

/-! ### Callbacks by route -/

deriving instance DecidableEq for ControlEvent

namespace ControlEvent

variable {event : ControlEvent} {name : String}

def isRoute : ControlEvent → Bool
  | .listener _ => false
  | .route .. => true

def isFor (name : String) : ControlEvent → Bool
  | .listener _ => false
  | .route other _ _ => other == name

lemma leaves_of_not_isFor (h : event.isFor name = false) (number : Nat)
    (found : Option RouteConfig) : event.leaves name number found = found := by
  cases event with
  | listener result => rfl
  | route other watch result =>
    have hne : other ≠ name := by simpa [isFor] using h
    simp [leaves, hne]

lemma foldl_leaves_filter (name : String) (number : Nat) (events : List ControlEvent)
    (found : Option RouteConfig) :
    (events.filter (·.isFor name)).foldl (leaves name number) found =
      events.foldl (leaves name number) found := by
  induction events generalizing found with
  | nil => rfl
  | cons event rest ih =>
    cases hf : event.isFor name with
    | true => rw [List.filter_cons_of_pos hf, List.foldl_cons, List.foldl_cons, ih]
    | false =>
      rw [List.filter_cons_of_neg (by simp [hf]), List.foldl_cons, leaves_of_not_isFor hf, ih]

end ControlEvent

/-- For each route the same callbacks in the same order. -/
def SameByRoute (events others : List ControlEvent) : Prop :=
  ∀ name, events.filter (·.isFor name) = others.filter (·.isFor name)

section SameByRoute

variable {events others : List ControlEvent} {name : String} {number : Nat}
  {result : Except WatchError RouteConfig}

lemma SameByRoute.symm (h : SameByRoute events others) : SameByRoute others events :=
  fun name => (h name).symm

lemma SameByRoute.mem (h : SameByRoute events others) (hm : .route name number result ∈ events) :
    .route name number result ∈ others := by
  have hfor : ControlEvent.isFor name (.route name number result) = true := by
    simp [ControlEvent.isFor]
  have hfilter := List.mem_filter.mpr ⟨hm, hfor⟩
  rw [h name] at hfilter
  exact (List.mem_filter.mp hfilter).1

lemma SameByRoute.delivered (h : SameByRoute events others) {watches : NameMap RouteWatch}
    (hd : Delivered watches events name) : Delivered watches others name := by
  obtain ⟨watch, config, hw, hm⟩ := hd
  exact ⟨watch, config, hw, h.mem hm⟩

lemma SameByRoute.foldl_leaves (h : SameByRoute events others) (name : String) (number : Nat)
    (found : Option RouteConfig) :
    events.foldl (ControlEvent.leaves name number) found =
      others.foldl (ControlEvent.leaves name number) found := by
  rw [← ControlEvent.foldl_leaves_filter, h name, ControlEvent.foldl_leaves_filter]

/-- A callback can be taken after callbacks for other routes instead of before them. -/
lemma sameByRoute_later {event : ControlEvent}
    (h : ∀ name, event.isFor name = true → ∀ other ∈ others, other.isFor name = false) :
    SameByRoute (event :: others) (others ++ [event]) := by
  intro name
  rw [List.filter_append]
  cases hf : event.isFor name with
  | true =>
    have hnil : others.filter (·.isFor name) = [] :=
      List.filter_eq_nil_iff.mpr fun other hm => by simp [h name hf other hm]
    simp [hf, hnil]
  | false => simp [hf]

end SameByRoute

namespace Listener

variable {l next : Listener} {event : ControlEvent} {set : ChainSet} {gate later : ReadinessGate}
  {name : String} {number : Nat} {result : Except WatchError RouteConfig}
  {callbacks others : List ControlEvent} {firings heard : List Nat}

/-! ### One callback -/

/-- The watch in force reports that there is no such route. -/
def Loses (l : Listener) (event : ControlEvent) : Prop :=
  ∃ name watch e, l.routeWatches.find? name = some watch ∧ e.isNotFound = true ∧
    event = .route name watch.number (.error e)

/-- Of a listener only these change with its routes. -/
lemma onRoute_rest (l : Listener) (name : String) (number : Nat)
    (result : Except WatchError RouteConfig) :
    (l.onRoute name number result).1 = { l with
      routes := (l.onRoute name number result).1.routes
      gate := (l.onRoute name number result).1.gate
      mode := (l.onRoute name number result).1.mode
      ready := (l.onRoute name number result).1.ready } := by
  have htakes := takes_onRoute l name number result
  generalize l.onRoute name number result = o at htakes ⊢
  cases htakes with
  | install ha => cases ha
  | withdraw hw n => cases hw
  | store hw config =>
    obtain ⟨effects, -, heq⟩ := storeRoute_eq l name config
    rw [heq, checkReady_rest]
    rfl
  | lose hw he =>
    obtain ⟨effects, -, heq⟩ := loseRoute_eq l name _
    rw [heq]
  | ignore hi n => rfl

lemma onRoute_routeWatches (l : Listener) (name : String) (number : Nat)
    (result : Except WatchError RouteConfig) :
    (l.onRoute name number result).1.routeWatches = l.routeWatches := by
  rw [onRoute_rest]

lemma isComplete_iff_covers :
    l.isComplete = true ↔ ∃ set, l.chains = some set ∧ l.Covers set := by
  cases hc : l.chains with
  | none => simp [isComplete, hc]
  | some set =>
    rw [isComplete_eq_true_iff hc]
    simp

lemma onRoute_events (l : Listener) (name : String) (number : Nat)
    (result : Except WatchError RouteConfig) :
    (l.onRoute name number result).1.events = l.events := by
  rw [onRoute_rest]

lemma Orderly.serving_of_isComplete (h : l.Orderly) (hc : l.isComplete = true) :
    l.mode = .serving := by
  obtain ⟨set, hset, hcovers⟩ := isComplete_iff_covers.mp hc
  obtain hw | ⟨other, gate, hi⟩ := h.state
  · rw [hw.chains] at hset
    cases hset
  · obtain rfl := Option.some.inj (hi.chains.symm.trans hset)
    exact hi.serves hcovers

lemma isComplete_receive (hc : l.isComplete = true) {config : RouteConfig} :
    (l.receive name config).isComplete = true := by
  obtain ⟨set, hset, hcovers⟩ := isComplete_iff_covers.mp hc
  refine isComplete_iff_covers.mpr ⟨set, hset, fun other hn => ?_⟩
  show (l.routes.insert name config).find? other ≠ none
  rw [NameMap.find?_insert]
  split
  · simp
  · exact hcovers other hn

/-- A route that is lost takes the listener out of service. With any other callback the listener
stays as incomplete as it was, and in its mode, unless it is complete now. -/
lemma mode_onRoute (l : Listener) (name : String) (number : Nat)
    (result : Except WatchError RouteConfig) :
    (l.Loses (.route name number result) ∧
      (l.onRoute name number result).1.mode = .notServing) ∨
    ¬ l.Loses (.route name number result) ∧
      ((l.onRoute name number result).1.isComplete = false →
        l.isComplete = false ∧ (l.onRoute name number result).1.mode = l.mode) := by
  have htakes := takes_onRoute l name number result
  generalize l.onRoute name number result = o at htakes ⊢
  cases htakes with
  | install ha => cases ha
  | withdraw hw n => cases hw
  | store hw config =>
    obtain ⟨effects, -, heq⟩ := storeRoute_eq l name config
    refine .inr ⟨?_, ?_⟩
    · rintro ⟨_, _, e, -, -, he⟩
      cases (ControlEvent.route.inj he).2.2
    · intro hincomplete
      rw [heq, isComplete_checkReady] at hincomplete
      constructor
      · by_contra hc
        rw [isComplete_receive (by simpa using hc)] at hincomplete
        cases hincomplete
      · rw [heq]
        refine (checkReady_mode (l.receive name config)).resolve_right ?_
        simp [hincomplete]
  | @lose _ watch hw e he =>
    obtain ⟨effects, -, heq⟩ := loseRoute_eq l name e
    refine .inl ⟨⟨name, watch, e, hw, he, rfl⟩, ?_⟩
    rw [heq]
  | ignore hi n =>
    refine .inr ⟨?_, fun hincomplete => ⟨hincomplete, rfl⟩⟩
    rintro ⟨other, watch, e, hw, he, heq⟩
    obtain ⟨e', he', htrouble⟩ := hi.trouble other watch _ heq hw
    cases he'
    rw [he] at htrouble
    cases htrouble

/-! ### Callbacks in a row -/

/-- A gate after callbacks: what the watches have delivered is not waited for any more, and the
generation is heard of if the gate has opened. -/
structure Awaits (watches : NameMap RouteWatch) (callbacks : List ControlEvent)
    (gate later : ReadinessGate) (firings : List Nat) : Prop where
  generation : later.generation = gate.generation
  outstanding : ∀ name, name ∈ later.outstanding ↔
    name ∈ gate.outstanding ∧ ¬ Delivered watches callbacks name
  fired : later.fired = later.outstanding.isEmpty
  stays : gate.fired = true → later.fired = true
  firings : firings = if later.fired = true ∧ gate.fired = false then [gate.generation] else []

/-- A listener after route callbacks alone, and the generations heard of meanwhile. -/
structure Hears (l : Listener) (callbacks : List ControlEvent) (next : Listener)
    (firings : List Nat) : Prop where
  orderly : next.Orderly
  rest : next = { l with
    routes := next.routes
    gate := next.gate
    mode := next.mode
    ready := next.ready
    events := next.events }
  table : ∀ name watch, l.routeWatches.find? name = some watch →
    next.routes.find? name =
      callbacks.foldl (ControlEvent.leaves name watch.number) (l.routes.find? name)
  shut : l.gate = none → next.gate = none ∧ firings = []
  awaits : ∀ gate, l.gate = some gate →
    ∃ later, next.gate = some later ∧ Awaits l.routeWatches callbacks gate later firings
  lost : next.isComplete = false → (∃ event ∈ callbacks, l.Loses event) → next.mode = .notServing
  stays : next.isComplete = false → (∀ event ∈ callbacks, ¬ l.Loses event) → next.mode = l.mode
  ready : next.ready = firings.foldl ReadySignal.fire l.ready

lemma loses_congr (h : next.routeWatches = l.routeWatches) :
    next.Loses event ↔ l.Loses event := by
  rw [Loses, Loses, h]

lemma Installed.fired_eq (h : l.Installed set gate) : gate.fired = gate.outstanding.isEmpty :=
  Bool.eq_iff_iff.mpr ⟨h.spent, h.opened⟩

lemma not_delivered_nil (watches : NameMap RouteWatch) (name : String) :
    ¬ Delivered watches [] name := by
  rintro ⟨watch, config, -, hm⟩
  cases hm

lemma Hears.refl (h : l.Orderly) : l.Hears [] l [] where
  orderly := h
  rest := rfl
  table := fun _ _ _ => rfl
  shut := fun hg => ⟨hg, rfl⟩
  awaits := by
    intro gate hg
    obtain hw | ⟨set, other, hi⟩ := h.state
    · rw [hw.gate] at hg
      cases hg
    · obtain rfl := Option.some.inj (hi.waits.symm.trans hg)
      refine ⟨other, hi.waits, rfl, fun name => ?_, hi.fired_eq, id, ?_⟩
      · exact (and_iff_left (not_delivered_nil _ name)).symm
      · cases other.fired <;> rfl
  lost := by
    rintro - ⟨event, hm, -⟩
    cases hm
  stays := fun _ _ => rfl
  ready := rfl

lemma Hears.routeWatches (h : l.Hears callbacks next firings) :
    next.routeWatches = l.routeWatches := by
  rw [h.rest]

lemma Hears.closed (h : l.Hears callbacks next firings) : next.closed = l.closed := by
  rw [h.rest]

/-- A gate that goes on after more callbacks. -/
lemma Awaits.goesOn {watches : NameMap RouteWatch} {middle : ReadinessGate}
    (h : Awaits watches callbacks gate middle firings) (hw : next.routeWatches = watches)
    (hb : next.Installed set middle) {after : Listener} (ha : after.Installed set later)
    (hgen : after.generation = next.generation)
    (hout : ∀ name, name ∈ later.outstanding ↔
      name ∈ middle.outstanding ∧ ¬ next.Receives event name)
    (hheard : heard =
      if later.fired = true ∧ middle.fired = false then [after.generation] else []) :
    Awaits watches (callbacks ++ [event]) gate later (firings ++ heard) where
  generation := by rw [ha.generation, hgen, ← hb.generation, h.generation]
  outstanding := by
    intro name
    rw [hout, h.outstanding, delivered_append_iff, ← hw, delivered_singleton_iff, not_or, and_assoc]
  fired := ha.fired_eq
  stays := fun hf => hb.stays_fired ha hout (h.stays hf)
  firings := by
    have hnumber : after.generation = gate.generation := by
      rw [hgen, ← hb.generation, h.generation]
    rw [hheard, h.firings, hnumber]
    cases hm : middle.fired with
    | true => simp [hb.stays_fired ha hout hm]
    | false =>
      have hshut : gate.fired = false := by
        by_contra hf
        rw [h.stays (by simpa using hf)] at hm
        cases hm
      simp [hshut]

/-- What one callback more does to the gate. -/
lemma Hears.gate_of_turns (h : l.Hears callbacks next firings) {after : Listener}
    {effects : List ListenerEffect}
    (ht : next.Turns (.route name number result) after effects) :
    (l.gate = none → after.gate = none ∧ firings ++ firingsOf effects = []) ∧
    ∀ gate, l.gate = some gate → ∃ later, after.gate = some later ∧
      Awaits l.routeWatches (callbacks ++ [.route name number result]) gate later
        (firings ++ firingsOf effects) := by
  constructor
  · intro hg
    obtain ⟨hnone, hnil⟩ := h.shut hg
    cases ht with
    | begins ha => cases ha
    | ends _ hw => cases hw
    | goesOn _ _ hb =>
      rw [hb.waits] at hnone
      cases hnone
    | idles _ _ _ hsame hf =>
      rw [hsame, hf, hnil]
      exact ⟨hnone, rfl⟩
  · intro gate hg
    obtain ⟨middle, hmiddle, hawaits⟩ := h.awaits gate hg
    cases ht with
    | begins ha => cases ha
    | ends _ hw => cases hw
    | goesOn _ _ hb hi hgen _ hout hf =>
      obtain rfl := Option.some.inj (hb.waits.symm.trans hmiddle)
      exact ⟨_, hi.waits, hawaits.goesOn h.routeWatches hb hi hgen hout hf⟩
    | idles _ _ hw =>
      rw [hw.gate] at hmiddle
      cases hmiddle

/-- What one callback more does to the mode. -/
lemma Hears.mode_onRoute (h : l.Hears callbacks next firings) (name : String) (number : Nat)
    (result : Except WatchError RouteConfig)
    (hincomplete : (next.onRoute name number result).1.isComplete = false) :
    ((∃ event ∈ callbacks ++ [.route name number result], l.Loses event) →
      (next.onRoute name number result).1.mode = .notServing) ∧
    ((∀ event ∈ callbacks ++ [.route name number result], ¬ l.Loses event) →
      (next.onRoute name number result).1.mode = l.mode) := by
  obtain ⟨hloss, hlost⟩ | ⟨hnot, hkept⟩ := Listener.mode_onRoute next name number result
  · refine ⟨fun _ => hlost, fun hall => ?_⟩
    exact absurd ((loses_congr h.routeWatches).mp hloss) (hall _ (by simp))
  · obtain ⟨hbefore, hsame⟩ := hkept hincomplete
    rw [loses_congr h.routeWatches] at hnot
    rw [hsame]
    constructor
    · rintro ⟨event, hm, hloss⟩
      rcases List.mem_append.mp hm with hm | hm
      · exact h.lost hbefore ⟨event, hm, hloss⟩
      · exact absurd (List.mem_singleton.mp hm ▸ hloss) hnot
    · intro hall
      exact h.stays hbefore fun event hm => hall event (List.mem_append_left _ hm)

/-- One callback more. -/
theorem Hears.onRoute (h : l.Hears callbacks next firings) (ho : l.closed = false) (name : String)
    (number : Nat) (result : Except WatchError RouteConfig) :
    l.Hears (callbacks ++ [.route name number result]) (next.onRoute name number result).1
      (firings ++ firingsOf (next.onRoute name number result).2) := by
  have hrest := onRoute_rest next name number result
  have hevents := onRoute_events next name number result
  have hwatches := onRoute_routeWatches next name number result
  have hgate := h.gate_of_turns (h.orderly.turns (.route name number result))
  have hmode := h.mode_onRoute name number result
  refine ⟨h.orderly.onEvent (.route name number result), ?_, ?_, hgate.1, hgate.2,
    fun hincomplete => (hmode hincomplete).1, fun hincomplete => (hmode hincomplete).2, ?_⟩
  · generalize next.onRoute name number result = o at hrest hevents ⊢
    rw [h.rest] at hrest
    rw [hevents]
    exact hrest
  · intro other watch hw
    have hbefore : next.routeWatches.find? other = some watch := h.routeWatches ▸ hw
    have hafter : (next.onRoute name number result).1.routeWatches.find? other = some watch :=
      hwatches ▸ hbefore
    have hleaves := h.orderly.watching.routes_onEvent (h.closed.trans ho)
      (.route name number result) hafter
    rw [if_pos hbefore, h.table other watch hw] at hleaves
    rw [List.foldl_append]
    exact hleaves
  · rw [List.foldl_append, ← h.ready]
    exact ready_onEvent next (.route name number result)

lemma hears_pair (h : l.Orderly) (ho : l.closed = false) (name other : String) (number watch : Nat)
    (result later : Except WatchError RouteConfig) :
    let o := andThen (l.onRoute name number result) (·.onRoute other watch later)
    l.Hears [.route name number result, .route other watch later] o.1 (firingsOf o.2) := by
  have hfirst := (Hears.refl h).onRoute ho name number result
  intro o
  have hfirings : firingsOf o.2 = firingsOf (l.onRoute name number result).2 ++
      firingsOf ((l.onRoute name number result).1.onRoute other watch later).2 :=
    firingsOf_append _ _
  rw [hfirings]
  exact hfirst.onRoute ho other watch later

/-! ### Two rows of callbacks -/

lemma Awaits.unique {watches : NameMap RouteWatch} {other : ReadinessGate}
    (h : Awaits watches callbacks gate later firings)
    (g : Awaits watches others gate other heard) (hs : SameByRoute callbacks others) :
    later = other ∧ firings = heard := by
  have hout : later.outstanding = other.outstanding := by
    refine NameSet.eq_of_mem_iff fun name => ?_
    rw [h.outstanding, g.outstanding]
    exact and_congr_right' (not_congr ⟨hs.delivered, hs.symm.delivered⟩)
  have hfired : later.fired = other.fired := by rw [h.fired, g.fired, hout]
  have hgeneration : later.generation = other.generation := h.generation.trans g.generation.symm
  refine ⟨?_, ?_⟩
  · cases later
    cases other
    simp_all
  · rw [h.firings, g.firings, hfired]

lemma loses_of_sameByRoute (h : SameByRoute callbacks others)
    (hl : ∃ event ∈ callbacks, l.Loses event) : ∃ event ∈ others, l.Loses event := by
  obtain ⟨event, hm, hloss⟩ := hl
  obtain ⟨name, watch, e, hw, he, rfl⟩ := hloss
  exact ⟨_, h.mem hm, name, watch, e, hw, he, rfl⟩

/-- With the same callbacks for each route a listener comes to the same. -/
theorem Hears.unique (h : l.Hears callbacks next firings) {after : Listener}
    (g : l.Hears others after heard) (ho : l.closed = false) (hs : SameByRoute callbacks others) :
    { next with events := [] } = { after with events := [] } ∧ firings = heard := by
  have hroutes : next.routes = after.routes := by
    refine NameMap.eq_of_find?_eq fun name => ?_
    cases hw : l.routeWatches.find? name with
    | none =>
      rw [h.orderly.watching.stored (h.closed.trans ho) name (h.routeWatches ▸ hw),
        g.orderly.watching.stored (g.closed.trans ho) name (g.routeWatches ▸ hw)]
    | some watch => rw [h.table name watch hw, g.table name watch hw, hs.foldl_leaves]
  have hgate : next.gate = after.gate ∧ firings = heard := by
    cases hl : l.gate with
    | none =>
      obtain ⟨hn, hf⟩ := h.shut hl
      obtain ⟨ha, hh⟩ := g.shut hl
      exact ⟨hn.trans ha.symm, hf.trans hh.symm⟩
    | some gate =>
      obtain ⟨later, hn, hawaits⟩ := h.awaits gate hl
      obtain ⟨other, ha, gawaits⟩ := g.awaits gate hl
      obtain ⟨rfl, hsame⟩ := hawaits.unique gawaits hs
      exact ⟨hn.trans ha.symm, hsame⟩
  have hcomplete : next.isComplete = after.isComplete := by
    have hn : next.chains = l.chains := by rw [h.rest]
    have ha : after.chains = l.chains := by rw [g.rest]
    rw [isComplete, isComplete, hn, ha, hroutes]
  have hmode : next.mode = after.mode := by
    cases hc : next.isComplete with
    | true =>
      rw [h.orderly.serving_of_isComplete hc,
        g.orderly.serving_of_isComplete (hcomplete.symm.trans hc)]
    | false =>
      by_cases hloss : ∃ event ∈ callbacks, l.Loses event
      · rw [h.lost hc hloss, g.lost (hcomplete.symm.trans hc) (loses_of_sameByRoute hs hloss)]
      · have hnone : ∀ event ∈ callbacks, ¬ l.Loses event := fun event hm hl =>
          hloss ⟨event, hm, hl⟩
        have hothers : ∀ event ∈ others, ¬ l.Loses event := fun event hm hl =>
          hloss (loses_of_sameByRoute hs.symm ⟨event, hm, hl⟩)
        rw [h.stays hc hnone, g.stays (hcomplete.symm.trans hc) hothers]
  have hready : next.ready = after.ready := by rw [h.ready, g.ready, hgate.2]
  refine ⟨?_, hgate.2⟩
  rw [h.rest, g.rest, hroutes, hgate.1, hmode, hready]

/-! ### Acts between two updates -/

/-- While a listener stays open, an act that takes no event at most adds to the queue. -/
lemma perform_open_cases {act : ListenerAct} (ho : (l.perform act).1.closed = false) :
    (∃ event rest, l.taken? act = some event ∧ l.events = event :: rest ∧
      l.perform act = { l with events := rest }.onEvent event) ∨
    (l.taken? act = none ∧ ∃ events, l.perform act = ({ l with events }, [])) := by
  obtain ⟨event, rest, ht, he, heq⟩ | ⟨ht, -, -⟩ := perform_cases l act
  · exact .inl ⟨event, rest, ht, he, heq⟩
  · have hbefore : l.closed = false := (follows_perform l act).closed ho
    have hc : act ≠ .close := by
      rintro rfl
      have hclosed : (l.perform .close).1.closed = true := by
        simp [perform, close, hbefore, say, cancelAll]
      rw [hclosed] at ho
      cases ho
    obtain hidle | ⟨hclosed, -⟩ := perform_idle hc ht
    · exact .inr ⟨ht, hidle⟩
    · rw [hbefore] at hclosed
      cases hclosed

lemma Hears.withEvents (h : l.Hears callbacks next firings) (events : List ControlEvent) :
    l.Hears callbacks { next with events } firings where
  orderly := h.orderly.withEvents events
  rest := by
    have hr := h.rest
    rw [hr]
  table := h.table
  shut := h.shut
  awaits := h.awaits
  lost := h.lost
  stays := h.stays
  ready := h.ready

lemma Hears.perform (h : l.Hears callbacks next firings) {act : ListenerAct}
    (ho : (next.perform act).1.closed = false)
    (hroute : ∀ event, next.taken? act = some event → event.isRoute = true) :
    l.Hears (callbacks ++ (next.taken? act).toList) (next.perform act).1
      (firings ++ firingsOf (next.perform act).2) := by
  have hopen : l.closed = false := h.closed.symm.trans ((follows_perform next act).closed ho)
  obtain ⟨event, rest, ht, -, heq⟩ | ⟨ht, events, heq⟩ := perform_open_cases ho
  · rw [ht, heq]
    cases event with
    | listener result => cases hroute _ ht
    | route name number result => exact (h.withEvents rest).onRoute hopen name number result
  · rw [ht, heq, Option.toList_none, List.append_nil]
    show l.Hears callbacks { next with events } (firings ++ [])
    rw [List.append_nil]
    exact h.withEvents events

end Listener

namespace ListenerRun

/-- Between two updates what a run comes to is given by the callbacks that it takes. -/
lemma hears_extend {run : ListenerRun} (h : run.listener.Orderly) (more : List ListenerAct)
    (ho : (run.extend more).listener.closed = false) :
    ∃ since, (run.extend more).taken = run.taken ++ since ∧
      ((∀ event ∈ since, event.isRoute = true) →
        ∃ firings, (run.extend more).firings = run.firings ++ firings ∧
          run.listener.Hears since (run.extend more).listener firings) := by
  induction more using List.reverseRecOn with
  | nil => exact ⟨[], (List.append_nil _).symm, fun _ => ⟨[], (List.append_nil _).symm, .refl h⟩⟩
  | append_singleton more act ih =>
    rw [extend_append] at ho ⊢
    generalize run.extend more = now at ih ho ⊢
    obtain ⟨since, htaken, hhears⟩ := ih ((now.listener.follows_perform act).closed ho)
    refine ⟨since ++ (now.listener.taken? act).toList, ?_, fun hroutes => ?_⟩
    · show now.taken ++ (now.listener.taken? act).toList = _
      rw [htaken, List.append_assoc]
    · obtain ⟨firings, hfirings, hbefore⟩ := hhears fun event hm =>
        hroutes event (List.mem_append_left _ hm)
      refine ⟨firings ++ firingsOf (now.listener.perform act).2, ?_, hbefore.perform ho ?_⟩
      · show (now.next act).firings = _
        rw [firings_next, hfirings, List.append_assoc]
      · intro event ht
        exact hroutes event (List.mem_append_right _ (by simp [ht]))

/-- In an open listener two callbacks for different routes, whatever they report and whether or not
their watches are in force, come to the same state in either order, and the same generations are
heard of. So between two updates the state, but for the queue, depends only on what was taken for
each route, not on how the callbacks of different routes were mixed. -/
theorem route_callbacks_commute (site : ListenerSite) (acts : List ListenerAct)
    (hopen : (of site acts).listener.closed = false) :
    let run := of site acts
    (∀ name other number watch result later, name ≠ other →
      let here := Listener.andThen (run.listener.onRoute name number result)
        (·.onRoute other watch later)
      let there := Listener.andThen (run.listener.onRoute other watch later)
        (·.onRoute name number result)
      here.1 = there.1 ∧ firingsOf here.2 = firingsOf there.2) ∧
    ∀ more others since callbacks,
      (run.extend more).listener.closed = false → (run.extend others).listener.closed = false →
      (run.extend more).taken = run.taken ++ since →
      (run.extend others).taken = run.taken ++ callbacks →
      (∀ event ∈ since, event.isRoute = true) → (∀ event ∈ callbacks, event.isRoute = true) →
      SameByRoute since callbacks →
      { (run.extend more).listener with events := [] } =
        { (run.extend others).listener with events := [] } ∧
      (run.extend more).firings = (run.extend others).firings := by
  intro run
  have horderly : run.listener.Orderly := orderly_extend (Listener.orderly_start _ _ _ _) acts
  constructor
  · intro name other number watch result later hne here there
    have hfirst := Listener.hears_pair horderly hopen name other number watch result later
    have hsecond := Listener.hears_pair horderly hopen other name watch number later result
    have hswap : SameByRoute [.route name number result, .route other watch later]
        [.route other watch later, .route name number result] :=
      sameByRoute_later (by simpa [ControlEvent.isFor] using hne.symm)
    obtain ⟨hstate, hfirings⟩ := hfirst.unique hsecond hopen hswap
    refine ⟨?_, hfirings⟩
    have hhere : here.1.events = run.listener.events := by
      show ((run.listener.onRoute name number result).1.onRoute other watch later).1.events = _
      rw [Listener.onRoute_events, Listener.onRoute_events]
    have hthere : there.1.events = run.listener.events := by
      show ((run.listener.onRoute other watch later).1.onRoute name number result).1.events = _
      rw [Listener.onRoute_events, Listener.onRoute_events]
    calc here.1 = { here.1 with events := run.listener.events } := by rw [← hhere]
      _ = { there.1 with events := run.listener.events } :=
        congrArg (fun l : Listener => { l with events := run.listener.events }) hstate
      _ = there.1 := by rw [← hthere]
  · intro more others since callbacks hmore hothers htaken hheard hroutes hroutes' hsame
    obtain ⟨_, hsince, hfirst⟩ := hears_extend horderly more hmore
    obtain ⟨_, hcallbacks, hsecond⟩ := hears_extend horderly others hothers
    obtain rfl := List.append_cancel_left (htaken.symm.trans hsince)
    obtain rfl := List.append_cancel_left (hheard.symm.trans hcallbacks)
    obtain ⟨firings, hfirings, hhears⟩ := hfirst hroutes
    obtain ⟨heard, hgenerations, hhears'⟩ := hsecond hroutes'
    obtain ⟨hstate, rfl⟩ := hhears.unique hhears' hopen hsame
    exact ⟨hstate, hfirings.trans hgenerations.symm⟩

/-- Routes `a` and `b` are required, and `a` has come. -/
def halfReceived : List ListenerAct :=
  [.callback (ListenerSite.loopback.requiring ["a", "b"]), .take,
    .callback (.route "a" 1 (.ok ⟨"a", []⟩)), .take]

def gone : Except WatchError RouteConfig := .error ⟨.resourceNotFound, "gone"⟩

/-- Route `b` comes, and `a` is lost and comes back. -/
def arrivalFirst : List ControlEvent :=
  [.route "b" 2 (.ok ⟨"b", []⟩), .route "a" 1 gone, .route "a" 1 (.ok ⟨"again", []⟩)]

def arrivalLast : List ControlEvent :=
  [.route "a" 1 gone, .route "a" 1 (.ok ⟨"again", []⟩), .route "b" 2 (.ok ⟨"b", []⟩)]

/-- All callbacks are queued before the first is taken. -/
def atOnce (callbacks : List ControlEvent) : List ListenerAct :=
  callbacks.map .callback ++ callbacks.map fun _ => .take

def oneByOne (callbacks : List ControlEvent) : List ListenerAct :=
  callbacks.flatMap fun event => [.callback event, .take]

/-- The last missing route comes while the other is lost: in either order the listener does not
serve. With the other back it serves, also in either order. -/
theorem halfReceived_commute :
    let here := Listener.andThen
      ((of .loopback halfReceived).listener.onRoute "b" 2 (.ok ⟨"b", []⟩)) (·.onRoute "a" 1 gone)
    let there := Listener.andThen
      ((of .loopback halfReceived).listener.onRoute "a" 1 gone) (·.onRoute "b" 2 (.ok ⟨"b", []⟩))
    here.1.mode = .notServing ∧ here.1 = there.1 ∧ firingsOf here.2 = firingsOf there.2 ∧
    { ((of .loopback halfReceived).extend (atOnce arrivalFirst)).listener with events := [] } =
      { ((of .loopback halfReceived).extend (oneByOne arrivalLast)).listener with events := [] } ∧
    ((of .loopback halfReceived).extend (atOnce arrivalFirst)).firings =
      ((of .loopback halfReceived).extend (oneByOne arrivalLast)).firings := by
  intro here there
  have hmode : here.1.mode = .notServing := by decide
  have hopen : (of .loopback halfReceived).listener.closed = false := by decide
  have hfirst : ((of .loopback halfReceived).extend (atOnce arrivalFirst)).listener.closed =
      false := by decide
  have hlast : ((of .loopback halfReceived).extend (oneByOne arrivalLast)).listener.closed =
      false := by decide
  have htaken : ((of .loopback halfReceived).extend (atOnce arrivalFirst)).taken =
      (of .loopback halfReceived).taken ++ arrivalFirst := by decide
  have hheard : ((of .loopback halfReceived).extend (oneByOne arrivalLast)).taken =
      (of .loopback halfReceived).taken ++ arrivalLast := by decide
  have hsame : SameByRoute arrivalFirst arrivalLast :=
    sameByRoute_later (by simp [ControlEvent.isFor])
  obtain ⟨hpair, hmixed⟩ := route_callbacks_commute .loopback halfReceived hopen
  obtain ⟨hstate, hfirings⟩ := hpair "b" "a" 2 1 (.ok ⟨"b", []⟩) gone (by decide)
  have hmix := hmixed (atOnce arrivalFirst) (oneByOne arrivalLast) arrivalFirst arrivalLast
    hfirst hlast htaken hheard (by decide) (by decide) hsame
  exact ⟨hmode, hstate, hfirings, hmix⟩

end ListenerRun
end MeshRouting
