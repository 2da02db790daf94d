import MeshRouting.Proofs.ListenerRuns

/-!
# Live routes

While a listener is open, its table of routes holds for each watch in force what the watch has
brought: the last route that was taken from it, unless a report that there is none was taken
since. Numbers of watches are not given twice, so what an ended watch still delivers is not
mistaken for a delivery of its successor.
-/
namespace MeshRouting

/-- What a watch has brought, once the event is taken too. -/
def ControlEvent.leaves (name : String) (number : Nat) (found : Option RouteConfig) :
    ControlEvent → Option RouteConfig
  | .listener _ => found
  | .route other watch result =>
    if other = name ∧ watch = number then
      match result with
      | .ok config => some config
      | .error e => if e.isNotFound then none else found
    else found

/-- What the watch of that number has brought. -/
def brought (name : String) (number : Nat) (events : List ControlEvent) : Option RouteConfig :=
  events.foldl (ControlEvent.leaves name number) none

/-- At most trouble comes from the watch, neither a route nor a report that there is none. -/
def OnlyTrouble (name : String) (number : Nat) (events : List ControlEvent) : Prop :=
  ∀ result, .route name number result ∈ events → ∃ e, result = .error e ∧ e.isNotFound = false

section Brought

variable {name : String} {number : Nat} {event : ControlEvent} {events : List ControlEvent}
  {found : Option RouteConfig} {config : RouteConfig}

lemma brought_append_singleton (name : String) (number : Nat) (events : List ControlEvent)
    (event : ControlEvent) :
    brought name number (events ++ [event]) =
      event.leaves name number (brought name number events) :=
  List.foldl_append

lemma onlyTrouble_cons_iff (event : ControlEvent) (events : List ControlEvent) :
    OnlyTrouble name number (event :: events) ↔
      OnlyTrouble name number [event] ∧ OnlyTrouble name number events := by
  constructor
  · intro h
    refine ⟨fun result hm => h result ?_, fun result hm => h result ?_⟩
    · exact List.mem_cons.mpr (.inl (List.mem_singleton.mp hm))
    · exact List.mem_cons_of_mem _ hm
  · rintro ⟨hfirst, hrest⟩ result hm
    rcases List.mem_cons.mp hm with he | hm
    · exact hfirst result (List.mem_singleton.mpr he)
    · exact hrest result hm

/-- Trouble leaves what was found. -/
lemma leaves_of_onlyTrouble (h : OnlyTrouble name number [event]) (found : Option RouteConfig) :
    event.leaves name number found = found := by
  cases event with
  | listener result => rfl
  | route other watch result =>
    simp only [ControlEvent.leaves]
    split
    · rename_i hsame
      obtain ⟨rfl, rfl⟩ := hsame
      obtain ⟨e, rfl, he⟩ := h result (List.mem_singleton.mpr rfl)
      simp [he]
    · rfl

lemma leaves_eq_some_iff :
    event.leaves name number found = some config ↔
      event = .route name number (.ok config) ∨
        (OnlyTrouble name number [event] ∧ found = some config) := by
  by_cases ht : OnlyTrouble name number [event]
  · have hne : event ≠ .route name number (.ok config) := by
      rintro rfl
      obtain ⟨e, he, -⟩ := ht _ (List.mem_singleton.mpr rfl)
      cases he
    rw [leaves_of_onlyTrouble ht]
    simp [ht, hne]
  · -- the event is of the watch, and a route or a report that there is none
    obtain ⟨result, he, hresult⟩ : ∃ result, event = .route name number result ∧
        ∀ e, result = .error e → e.isNotFound = true := by
      unfold OnlyTrouble at ht
      push Not at ht
      obtain ⟨result, hm, hr⟩ := ht
      exact ⟨result, (List.mem_singleton.mp hm).symm, fun e he => by simpa using hr e he⟩
    subst he
    cases result with
    | ok other => simp [ControlEvent.leaves, ht]
    | error e => simp [ControlEvent.leaves, ht, hresult e rfl]

lemma foldl_leaves_eq_some_iff :
    events.foldl (ControlEvent.leaves name number) found = some config ↔
      (OnlyTrouble name number events ∧ found = some config) ∨
        ∃ before after, events = before ++ .route name number (.ok config) :: after ∧
          OnlyTrouble name number after := by
  induction events generalizing found with
  | nil => simp [OnlyTrouble]
  | cons event rest ih =>
    rw [List.foldl_cons, ih, leaves_eq_some_iff, onlyTrouble_cons_iff event rest]
    constructor
    · rintro (⟨hrest, rfl | ⟨hfirst, hfound⟩⟩ | ⟨before, after, rfl, hafter⟩)
      · exact .inr ⟨[], rest, rfl, hrest⟩
      · exact .inl ⟨⟨hfirst, hrest⟩, hfound⟩
      · exact .inr ⟨event :: before, after, rfl, hafter⟩
    · rintro (⟨⟨hfirst, hrest⟩, hfound⟩ | ⟨before, after, heq, hafter⟩)
      · exact .inl ⟨hrest, .inr ⟨hfirst, hfound⟩⟩
      · rcases List.cons_eq_append_iff.mp heq with ⟨rfl, hcons⟩ | ⟨before, rfl, rfl⟩
        · obtain ⟨rfl, rfl⟩ := List.cons.inj hcons
          exact .inl ⟨hafter, .inl rfl⟩
        · exact .inr ⟨before, after, rfl, hafter⟩

/-- A watch has brought its last route, if nothing but trouble came since. -/
theorem brought_eq_some_iff :
    brought name number events = some config ↔
      ∃ before after, events = before ++ .route name number (.ok config) :: after ∧
        OnlyTrouble name number after := by
  rw [brought, foldl_leaves_eq_some_iff]
  simp

lemma brought_eq_none (h : ∀ result, .route name number result ∉ events) :
    brought name number events = none := by
  by_contra hsome
  obtain ⟨config, hc⟩ := Option.ne_none_iff_exists'.mp hsome
  obtain ⟨before, after, rfl, -⟩ := brought_eq_some_iff.mp hc
  exact h (.ok config) (by simp)

end Brought

namespace Listener

variable {l next : Listener} {event : ControlEvent} {name : String} {number : Nat}

/-! ### The table over one event -/

/-- A watch that stays in force keeps its route; a new one has none. -/
lemma Watching.routes_prepare (h : l.Watching) (ho : l.closed = false) {set : ChainSet}
    {watch : RouteWatch} (hw : (l.prepare set).routeWatches.find? name = some watch) :
    (l.prepare set).routes.find? name =
      if l.routeWatches.find? name = some watch then l.routes.find? name else none := by
  have hm : name ∈ set.routeNames := by
    by_contra hn
    exact absurd (hw.symm.trans ((find?_prepare_eq_none_iff ho set name).mpr hn)) (by simp)
  rw [(h.stored ho).routes_prepare ho, if_pos hm]
  split
  · rfl
  · rename_i hfresh
    refine h.stored ho name ?_
    by_contra hsome
    obtain ⟨old, hold⟩ := Option.ne_none_iff_exists'.mp hsome
    have hkept := find?_prepare_of_mem ho hm hold
    rw [Option.some.inj (hkept.symm.trans hw)] at hold
    exact hfresh hold

lemma leaves_of_accepts {set : ChainSet} (h : l.accepts? event = some set) (name : String)
    (number : Nat) (found : Option RouteConfig) : event.leaves name number found = found := by
  cases event with
  | listener result => rfl
  | route other watch result => cases h

/-- Of two watches in force, one cannot deliver in place of the other. -/
lemma leaves_of_inForce {other : String} {source watch : RouteWatch}
    (hs : l.routeWatches.find? other = some source) (hw : l.routeWatches.find? name = some watch)
    (result : Except WatchError RouteConfig) (found : Option RouteConfig) :
    (ControlEvent.route other source.number result).leaves name watch.number found =
      if other = name then
        match result with
        | .ok config => some config
        | .error e => if e.isNotFound then none else found
      else found := by
  by_cases hname : other = name
  · subst hname
    have hsame : source = watch := Option.some.inj (hs.symm.trans hw)
    simp [ControlEvent.leaves, hsame]
  · simp [ControlEvent.leaves, hname]

/-- An event counts for the watch that stays in force; a new watch has brought nothing. -/
theorem Watching.routes_onEvent (h : l.Watching) (ho : l.closed = false) (event : ControlEvent)
    {watch : RouteWatch} (hw : (l.onEvent event).1.routeWatches.find? name = some watch) :
    (l.onEvent event).1.routes.find? name =
      if l.routeWatches.find? name = some watch then
        event.leaves name watch.number (l.routes.find? name)
      else none := by
  have htakes := takes_onEvent l event
  generalize l.onEvent event = o at htakes hw ⊢
  cases htakes with
  | @install _ set ha =>
    obtain ⟨effects, -, heq⟩ := install_eq l set
    rw [heq, checkReady_rest] at hw ⊢
    rw [leaves_of_accepts ha]
    exact h.routes_prepare ho hw
  | @withdraw _ error hwithdraws n =>
    obtain ⟨effects, -, heq⟩ := withdraw_eq l error
    have hforget : l.forget.routeWatches.find? name = some watch := by
      have hsome : (l.withdraw error).1.routeWatches.find? name = some watch := hw
      rw [heq] at hsome
      exact hsome
    exact absurd (hforget.symm.trans (find?_forget ho name)) (by simp)
  | @store other source hsource config =>
    obtain ⟨effects, -, heq⟩ := storeRoute_eq l other config
    have hsame : l.routeWatches.find? name = some watch := by
      rw [heq, checkReady_rest] at hw
      exact hw
    rw [if_pos hsame, leaves_of_inForce hsource hsame, heq, checkReady_rest]
    exact NameMap.find?_insert _ _ _ _
  | @lose other source hsource e he =>
    obtain ⟨effects, -, heq⟩ := loseRoute_eq l other e
    have hsame : l.routeWatches.find? name = some watch := by
      rw [heq] at hw
      exact hw
    rw [if_pos hsame, leaves_of_inForce hsource hsame, heq]
    simp only [he, if_true]
    exact NameMap.find?_erase _ _ _
  | ignore ha n =>
    have hsame : l.routeWatches.find? name = some watch := hw
    have htrouble : OnlyTrouble name watch.number [event] := fun result hm =>
      ha.trouble name watch result (List.mem_singleton.mp hm).symm hsame
    rw [if_pos hsame, leaves_of_onlyTrouble htrouble]
    rfl

/-! ### Watches that are over -/

/-- The watch of that number is in force for the name. -/
def InForce (l : Listener) (name : String) (number : Nat) : Prop :=
  (l.routeWatches.find? name).map (·.number) = some number

instance (l : Listener) (name : String) (number : Nat) : Decidable (l.InForce name number) :=
  inferInstanceAs (Decidable (_ = _))

/-- The number has been given, and is not in force for the name. -/
structure Over (l : Listener) (name : String) (number : Nat) : Prop where
  given : number ≤ l.lastWatch
  ended : ¬ l.InForce name number

lemma Over.advances (h : l.Over name number) (ha : l.Advances next) : next.Over name number := by
  refine ⟨h.given.trans ha.upward, fun hin => ?_⟩
  obtain ⟨watch, hw, rfl⟩ := Option.map_eq_some_iff.mp hin
  rcases ha.fresh name watch hw with hold | ⟨hlow, -⟩
  · exact h.ended (Option.map_eq_some_iff.mpr ⟨watch, hold, rfl⟩)
  · exact absurd h.given (Nat.not_le_of_lt hlow)

lemma Over.rests (h : l.Over name number) (hr : l.Rests next) : next.Over name number := by
  have hlast : next.lastWatch = l.lastWatch := by rw [hr.rest]
  refine ⟨h.given.trans hlast.ge, fun hin => h.ended ?_⟩
  unfold InForce at hin ⊢
  rcases hr.watches with ⟨-, hsame⟩ | ⟨-, hnone⟩
  · rwa [hsame] at hin
  · rw [hnone] at hin
    cases hin

/-- A watch that is over is never in force again. -/
theorem Over.perform (h : l.Over name number) (act : ListenerAct) :
    (l.perform act).1.Over name number := by
  obtain ⟨event, rest, -, -, heq⟩ | ⟨-, hr, -⟩ := perform_cases l act
  · have hl : Over { l with events := rest } name number := ⟨h.given, h.ended⟩
    rw [heq]
    exact hl.advances (advances_onEvent _ event)
  · exact h.rests hr

/-- Whatever a watch that is over delivers, taking it leaves all as it is. -/
theorem Over.takeEvent (h : l.Over name number) {result : Except WatchError RouteConfig}
    {rest : List ControlEvent} (he : l.events = .route name number result :: rest) :
    l.takeEvent = ({ l with events := rest }, [.notice (.routeStale name number)]) := by
  have hstale : (l.routeWatches.find? name).map (·.number) ≠ some number := h.ended
  unfold Listener.takeEvent
  rw [he]
  show onRoute { l with events := rest } name number result = _
  unfold onRoute
  rw [if_pos hstale]
  rfl

/-! ### The table over a run -/

lemma HasStarted.mono (h : l.HasStarted event) (hle : l.lastWatch ≤ next.lastWatch) :
    next.HasStarted event := by
  cases event with
  | listener result => trivial
  | route name number result =>
    have hn : number ≤ l.lastWatch := h
    exact hn.trans hle

/-- After the given events the table holds what the watches in force have brought, and no watch
has delivered anything before it was started. -/
structure Live (l : Listener) (taken : List ControlEvent) : Prop where
  orderly : l.Orderly
  numbered : ∀ name watch, l.routeWatches.find? name = some watch → watch.number ≤ l.lastWatch
  queued : ∀ event ∈ l.events, l.HasStarted event
  started : ∀ event ∈ taken, l.HasStarted event
  table : l.closed = false → ∀ name watch, l.routeWatches.find? name = some watch →
    l.routes.find? name = brought name watch.number taken

variable {taken : List ControlEvent}

/-- Of a watch that is started by the event, nothing has been taken before or with it. -/
lemma Live.onEvent (h : l.Live taken) (hs : l.HasStarted event) :
    (l.onEvent event).1.Live (taken ++ [event]) := by
  have hadvances := advances_onEvent l event
  have hstarted : ∀ e ∈ taken ++ [event], l.HasStarted e := by
    intro e hm
    rcases List.mem_append.mp hm with hm | hm
    · exact h.started e hm
    · exact List.mem_singleton.mp hm ▸ hs
  refine ⟨h.orderly.onEvent event, ?_, ?_, ?_, ?_⟩
  · intro name watch hw
    rcases hadvances.fresh name watch hw with hold | ⟨-, hhigh⟩
    · exact (h.numbered name watch hold).trans hadvances.upward
    · exact hhigh
  · intro e hm
    rw [hadvances.events] at hm
    exact (h.queued e hm).mono hadvances.upward
  · intro e hm
    exact (hstarted e hm).mono hadvances.upward
  · intro hopen name watch hw
    have ho : l.closed = false := hadvances.closed.symm.trans hopen
    rw [h.orderly.watching.routes_onEvent ho event hw]
    split
    · rename_i hold
      rw [brought_append_singleton, h.table ho name watch hold]
    · rename_i hfresh
      have hnew := (hadvances.fresh name watch hw).resolve_left hfresh
      refine (brought_eq_none fun result hm => ?_).symm
      have hgiven : watch.number ≤ l.lastWatch := hstarted _ hm
      exact absurd hgiven (Nat.not_le_of_lt hnew.1)

lemma Live.withoutFirst (h : l.Live taken) {rest : List ControlEvent}
    (he : l.events = event :: rest) : Live { l with events := rest } taken where
  orderly := h.orderly.withEvents rest
  numbered := h.numbered
  queued := fun e hm => h.queued e (he ▸ List.mem_cons_of_mem _ hm)
  started := h.started
  table := h.table

lemma Live.rests (h : l.Live taken) (hr : l.Rests next) : next.Live taken := by
  have hlast : next.lastWatch = l.lastWatch := by rw [hr.rest]
  have hroutes : next.routes = l.routes := by rw [hr.rest]
  refine ⟨h.orderly.rests hr, ?_, ?_, ?_, ?_⟩
  · intro name watch hw
    rw [hlast]
    rcases hr.watches with ⟨-, hsame⟩ | ⟨-, hnone⟩
    · exact h.numbered name watch (hsame ▸ hw)
    · rw [hnone] at hw
      cases hw
  · intro e hm
    rcases hr.queued e hm with hold | hs
    · exact (h.queued e hold).mono hlast.ge
    · exact hs.mono hlast.ge
  · intro e hm
    exact (h.started e hm).mono hlast.ge
  · intro hopen name watch hw
    rcases hr.watches with ⟨hclosed, hsame⟩ | ⟨hclosed, -⟩
    · rw [hroutes]
      exact h.table (hclosed ▸ hopen) name watch (hsame ▸ hw)
    · rw [hclosed] at hopen
      cases hopen

theorem Live.perform (h : l.Live taken) (act : ListenerAct) :
    (l.perform act).1.Live (taken ++ (l.taken? act).toList) := by
  obtain ⟨event, rest, ht, he, heq⟩ | ⟨ht, hr, -⟩ := perform_cases l act
  · rw [ht, heq]
    have hs : l.HasStarted event := h.queued event (he ▸ List.mem_cons_self)
    exact (h.withoutFirst he).onEvent hs
  · rw [ht, Option.toList_none, List.append_nil]
    exact h.rests hr

/-- The watch that is in force for a name has brought its entry, and there are no other entries. -/
theorem Live.find?_routes_iff (h : l.Live taken) (ho : l.closed = false) {config : RouteConfig} :
    l.routes.find? name = some config ↔
      ∃ watch, l.routeWatches.find? name = some watch ∧
        ∃ before after, taken = before ++ .route name watch.number (.ok config) :: after ∧
          OnlyTrouble name watch.number after := by
  constructor
  · intro hfound
    have hsome : l.routeWatches.find? name ≠ none := by
      intro hnone
      rw [h.orderly.watching.stored ho name hnone] at hfound
      cases hfound
    obtain ⟨watch, hw⟩ := Option.ne_none_iff_exists'.mp hsome
    rw [h.table ho name watch hw] at hfound
    exact ⟨watch, hw, brought_eq_some_iff.mp hfound⟩
  · rintro ⟨watch, hw, hbrought⟩
    rw [h.table ho name watch hw]
    exact brought_eq_some_iff.mpr hbrought

end Listener

namespace ListenerRun

variable {run : ListenerRun} {name : String} {number : Nat}

lemma live_start (site : ListenerSite) : (start site).listener.Live (start site).taken := by
  have hnone : ∀ name, (start site).listener.routeWatches.find? name = none := fun _ => rfl
  refine ⟨Listener.orderly_start _ _ _ _, ?_, ?_, ?_, ?_⟩
  · intro name watch hw
    rw [hnone] at hw
    cases hw
  · intro e hm
    exact absurd hm List.not_mem_nil
  · intro e hm
    exact absurd hm List.not_mem_nil
  · intro _ name watch hw
    rw [hnone] at hw
    cases hw

theorem live_of (site : ListenerSite) (acts : List ListenerAct) :
    (of site acts).listener.Live (of site acts).taken :=
  of_induction (fun run => run.listener.Live run.taken) site (live_start site)
    (fun _ act h => h.perform act) acts

lemma upward_extend (run : ListenerRun) (acts : List ListenerAct) :
    run.listener.lastWatch ≤ (run.extend acts).listener.lastWatch := by
  induction acts generalizing run with
  | nil => exact le_rfl
  | cons act acts ih => exact (run.listener.follows_perform act).upward.trans (ih (run.next act))

lemma over_extend (h : run.listener.Over name number) (acts : List ListenerAct) :
    (run.extend acts).listener.Over name number := by
  induction acts generalizing run with
  | nil => exact h
  | cons act acts ih => exact ih (h.perform act)

/-- While a listener is open, the table has a route for a name just if the watch that is in force
for the name has brought it: it was the last one to be taken from this watch, and no report that
there is none was taken since. What is taken from a watch that has been ended, at whatever
time before, changes nothing but the queue, also if the name is watched again. -/
theorem routes_live (site : ListenerSite) (acts : List ListenerAct)
    (hopen : (of site acts).listener.closed = false) :
    let run := of site acts
    (∀ name config, run.listener.routes.find? name = some config ↔
      ∃ watch, run.listener.routeWatches.find? name = some watch ∧
        ∃ before after, run.taken = before ++ .route name watch.number (.ok config) :: after ∧
          OnlyTrouble name watch.number after) ∧
    ∀ earlier later more name number, acts = earlier ++ later ++ more →
      (of site earlier).listener.InForce name number →
      ¬ (of site (earlier ++ later)).listener.InForce name number →
      ∀ result rest, run.listener.events = .route name number result :: rest →
        run.listener.takeEvent =
          ({ run.listener with events := rest }, [.notice (.routeStale name number)]) := by
  intro run
  refine ⟨fun name config => (live_of site acts).find?_routes_iff hopen, ?_⟩
  rintro earlier later more name number rfl hin hout result rest he
  have hgiven : number ≤ (of site (earlier ++ later)).listener.lastWatch := by
    obtain ⟨watch, hw, rfl⟩ := Option.map_eq_some_iff.mp hin
    refine ((live_of site earlier).numbered name watch hw).trans ?_
    show _ ≤ ((start site).extend (earlier ++ later)).listener.lastWatch
    rw [extend_append]
    exact upward_extend _ later
  have hnow : run.listener.Over name number := by
    show ((start site).extend (earlier ++ later ++ more)).listener.Over name number
    rw [extend_append]
    exact over_extend ⟨hgiven, hout⟩ more
  exact hnow.takeEvent he

/-- Route `a` is required again after other chains that do without it, and what its first watch
brought is taken only then. -/
def watchedAgain : List ListenerAct :=
  [.callback (ListenerSite.loopback.requiring ["a"]), .take,
    .callback (ListenerSite.loopback.requiring ["b"]),
    .callback (ListenerSite.loopback.requiring ["a"]),
    .callback (.route "a" 1 (.ok ⟨"old", []⟩)), .take, .take]

theorem old_watch_unheard :
    (of .loopback watchedAgain).listener.closed = false ∧
      (of .loopback watchedAgain).listener.InForce "a" 3 ∧
      (of .loopback watchedAgain).listener.takeEvent =
        ({ (of .loopback watchedAgain).listener with events := [] },
          [.notice (.routeStale "a" 1)]) := by
  have hopen : (of .loopback watchedAgain).listener.closed = false := by decide
  have hin : (of .loopback (watchedAgain.take 2)).listener.InForce "a" 1 := by decide
  have hout : ¬ (of .loopback
      (watchedAgain.take 2 ++ (watchedAgain.drop 2).take 4)).listener.InForce "a" 1 := by
    decide
  have hqueue : (of .loopback watchedAgain).listener.events =
      [.route "a" 1 (.ok ⟨"old", []⟩)] := rfl
  obtain ⟨-, hstale⟩ := routes_live .loopback watchedAgain hopen
  have hlate := hstale (watchedAgain.take 2) ((watchedAgain.drop 2).take 4) [.take] "a" 1 rfl hin
    hout (.ok ⟨"old", []⟩) [] hqueue
  exact ⟨hopen, by decide, hlate⟩

end ListenerRun
end MeshRouting
