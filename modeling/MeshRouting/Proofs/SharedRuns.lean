import MeshRouting.Proofs.GenerationCounts
import MeshRouting.Proofs.RegisteredWatches

/-!
# Runs on a shared client

A listener takes its events while others use its client. It is closed in three steps, and other
acts may come between them: no watch is started from the first one on, then the watch of the
listener is ended, then those of the routes. While it is open it has one watch for each route that
is needed and no other, and a watch stays as long as its route is needed. When it has been closed it
has no watch, and gets none.
-/
namespace MeshRouting

/-- How far the closing of a listener has come; it is done when the call that has begun it
returns. -/
inductive Closing where
  | notBegun
  | shut
  | unheard
  | done
  deriving DecidableEq, Repr

/-- With each `close` the closing goes on by one step. -/
inductive SharedAct where
  | listener (act : ListenerAct)
  | other (act : ClientAct WatchOwner)

/-- `foreign` are the numbers of the watches that others have started. -/
structure SharedRun where
  listener : Listener
  foreign : List Nat
  taken : List ControlEvent
  closing : Closing

namespace Listener

variable {l next : Listener} {act : ListenerAct}

/-- An act of the loop takes the event in front, or does nothing about watches. -/
lemma perform_loop_cases (hc : act ≠ .close) :
    (∃ event rest, l.taken? act = some event ∧
      l.perform act = { l with events := rest }.onEvent event) ∨
    (l.taken? act = none ∧
      ∃ events exited ready, (l.perform act).1 = { l with events, exited, ready }) := by
  obtain ⟨event, rest, ht, -, heq⟩ | ⟨ht, -, -⟩ := perform_cases l act
  · exact .inl ⟨event, rest, ht, heq⟩
  · obtain ⟨events, heq⟩ | ⟨-, heq⟩ := perform_idle hc ht
    · exact .inr ⟨ht, events, l.exited, l.ready, congrArg (·.1) heq⟩
    · exact .inr ⟨ht, l.events, true, l.ready.finish, congrArg (·.1) heq⟩

lemma withdraws?_congr (h : next.address = l.address) : next.withdraws? = l.withdraws? := by
  funext event
  match event with
  | .listener (.ok update) =>
    have hbound : next.isBoundTo update = l.isBoundTo update := by
      rw [isBoundTo, isBoundTo, h]
    have hmessage : next.mismatchMessage update = l.mismatchMessage update := by
      unfold mismatchMessage
      rw [h]
    rw [withdraws?, withdraws?, hbound, hmessage]
  | .listener (.error e) => rfl
  | .route name watch result => rfl

lemma needs_congr (h : next.address = l.address) : next.needs = l.needs := by
  funext names event
  rw [needs, needs, accepts?_congr h, withdraws?_congr h]

end Listener

namespace SharedRun

def start (earlier : List (ClientAct WatchOwner)) (address : Endpoint) (resource : String)
    (reportsMode : Bool) : SharedRun :=
  let shared := SharedClient.after earlier
  { listener := (Listener.start shared.registry address resource reportsMode).1
    foreign := shared.foreign
    taken := []
    closing := .notBegun }

def close (run : SharedRun) : SharedRun :=
  match run.closing with
  | .notBegun => { run with listener := run.listener.shut, closing := .shut }
  | .shut => { run with listener := run.listener.endListenerWatch, closing := .unheard }
  | .unheard => { run with listener := run.listener.endRouteWatches, closing := .done }
  | .done => run

def next (run : SharedRun) : SharedAct → SharedRun
  | .listener .close => run.close
  | .listener act => { run with
      listener := (run.listener.perform act).1
      taken := run.taken ++ (run.listener.taken? act).toList }
  | .other act =>
    let shared := SharedClient.perform ⟨run.listener.client, run.foreign⟩ act
    { run with
      listener := { run.listener with client := shared.registry }
      foreign := shared.foreign }

def extend (run : SharedRun) (acts : List SharedAct) : SharedRun := acts.foldl next run

def of (earlier : List (ClientAct WatchOwner)) (address : Endpoint) (resource : String)
    (reportsMode : Bool) (acts : List SharedAct) : SharedRun :=
  (start earlier address resource reportsMode).extend acts

/-- The watches of the listener on the client. -/
def own (run : SharedRun) : ResourceKind → String → List (Watch WatchOwner) :=
  SharedClient.own ⟨run.listener.client, run.foreign⟩

/-- The routes that are needed by the last accepted update; none before the first, or after a
withdrawal. -/
def required (run : SharedRun) : NameSet := run.taken.foldl run.listener.needs .empty

variable {run : SharedRun} {act : ListenerAct} {name : String}

lemma extend_append (run : SharedRun) (acts more : List SharedAct) :
    run.extend (acts ++ more) = (run.extend acts).extend more := List.foldl_append

lemma next_listener (hc : act ≠ .close) : run.next (.listener act) = { run with
    listener := (run.listener.perform act).1
    taken := run.taken ++ (run.listener.taken? act).toList } := by
  cases act with
  | callback event => rfl
  | take => rfl
  | close => exact absurd rfl hc
  | exit => rfl

/-! ### Steps -/

lemma close_of_notBegun (hs : run.closing = .notBegun) :
    run.close = { run with listener := run.listener.shut, closing := .shut } := by
  rw [close, hs]

lemma close_of_shut (hs : run.closing = .shut) :
    run.close = { run with listener := run.listener.endListenerWatch, closing := .unheard } := by
  rw [close, hs]

lemma close_of_unheard (hs : run.closing = .unheard) :
    run.close = { run with listener := run.listener.endRouteWatches, closing := .done } := by
  rw [close, hs]

lemma close_of_done (hs : run.closing = .done) : run.close = run := by
  rw [close, hs]

/-- What an act comes to. -/
inductive Moves (run : SharedRun) : SharedRun → Prop where
  | closes : Moves run run.close
  | takes (event : ControlEvent) (rest : List ControlEvent) : Moves run { run with
      listener := (Listener.onEvent { run.listener with events := rest } event).1
      taken := run.taken ++ [event] }
  | idles (events : List ControlEvent) (exited : Bool) (ready : ReadySignal) : Moves run { run with
      listener := { run.listener with events, exited, ready } }
  | shares (act : ClientAct WatchOwner) : Moves run (run.next (.other act))

lemma moves_listener (hc : act ≠ .close) : run.Moves (run.next (.listener act)) := by
  rw [next_listener hc]
  obtain ⟨event, rest, ht, heq⟩ | ⟨ht, events, exited, ready, heq⟩ :=
    Listener.perform_loop_cases (l := run.listener) hc
  · rw [ht, heq]
    exact .takes event rest
  · rw [ht, heq, Option.toList_none, List.append_nil]
    exact .idles events exited ready

theorem moves_next (run : SharedRun) (act : SharedAct) : run.Moves (run.next act) := by
  match act with
  | .listener .close => exact .closes
  | .listener (.callback event) => exact moves_listener nofun
  | .listener .take => exact moves_listener nofun
  | .listener .exit => exact moves_listener nofun
  | .other act => exact .shares act

lemma Moves.address {after : SharedRun} (h : run.Moves after) :
    after.listener.address = run.listener.address := by
  cases h with
  | closes =>
    unfold close
    split <;> rfl
  | takes event rest => exact (Listener.advances_onEvent _ event).address
  | idles events exited ready => rfl
  | shares act => rfl

/-- What is kept between the acts of a run. -/
structure Tracked (run : SharedRun) : Prop where
  registered : run.listener.Registered run.foreign
  begun : run.listener.closed = true ↔ run.closing ≠ .notBegun
  watches : run.listener.closed = false → run.listener.Watches run.required
  unheard : run.closing = .unheard ∨ run.closing = .done → run.listener.listenerWatch = none
  ended : run.closing = .done → ∀ name, run.listener.routeWatches.find? name = none

lemma Tracked.close (h : run.Tracked) : run.close.Tracked := by
  cases hs : run.closing with
  | notBegun =>
    have hshut : run.listener.shut.Registered run.foreign :=
      h.registered.same ⟨rfl, rfl, rfl, rfl⟩
    rw [close_of_notBegun hs]
    exact ⟨hshut, ⟨nofun, fun _ => rfl⟩, nofun, by simp, nofun⟩
  | shut =>
    have hclosed : run.listener.closed = true := h.begun.mpr (by simp [hs])
    rw [close_of_shut hs]
    refine ⟨h.registered.endListenerWatch, ⟨nofun, fun _ => hclosed⟩, fun ho => ?_, fun _ => rfl,
      nofun⟩
    exact absurd (hclosed.symm.trans ho) (by decide)
  | unheard =>
    have hclosed : run.listener.closed = true := h.begun.mpr (by simp [hs])
    have hnone := h.unheard (.inl hs)
    rw [close_of_unheard hs]
    refine ⟨h.registered.endRouteWatches, ⟨nofun, fun _ => hclosed⟩, fun ho => ?_, fun _ => hnone,
      fun _ name => rfl⟩
    exact absurd (hclosed.symm.trans ho) (by decide)
  | done =>
    rw [close_of_done hs]
    exact h

lemma Tracked.takes (h : run.Tracked) (event : ControlEvent) (rest : List ControlEvent) :
    Tracked { run with
      listener := (Listener.onEvent { run.listener with events := rest } event).1
      taken := run.taken ++ [event] } := by
  let before : Listener := { run.listener with events := rest }
  have hregistered : before.Registered run.foreign := h.registered.same ⟨rfl, rfl, rfl, rfl⟩
  have hadvances := before.advances_onEvent event
  have hclosed : (before.onEvent event).1.closed = run.listener.closed := hadvances.closed
  refine ⟨hregistered.onEvent event, ?_, fun ho => ?_, fun hs => ?_, fun hs name => ?_⟩
  · exact hclosed ▸ h.begun
  · have hopen : run.listener.closed = false := hclosed.symm.trans ho
    have hbefore : before.Watches run.required := h.watches hopen
    have hneeds : (before.onEvent event).1.needs = run.listener.needs :=
      Listener.needs_congr hadvances.address
    have hrequired : (run.taken ++ [event]).foldl (before.onEvent event).1.needs .empty =
        before.needs run.required event := by
      rw [hneeds, List.foldl_append]
      rfl
    have hafter := hbefore.onEvent hopen event
    rw [← hrequired] at hafter
    exact hafter
  · have hends : run.listener.closed = true := h.begun.mpr (by rcases hs with hs | hs <;> simp_all)
    have hsame := before.sameWatches_onEvent event (.inl hends)
    exact hsame.listenerWatch.trans (h.unheard hs)
  · have hends : run.listener.closed = true := h.begun.mpr (by simp_all)
    have hsame := before.sameWatches_onEvent event (.inl hends)
    show (before.onEvent event).1.routeWatches.find? name = none
    rw [hsame.routeWatches]
    exact h.ended hs name

lemma Tracked.shares (h : run.Tracked) (act : ClientAct WatchOwner) :
    (run.next (.other act)).Tracked := by
  refine ⟨⟨h.registered.numbered.perform act, fun kind name => ?_, h.registered.handles,
    h.registered.heard⟩, h.begun, h.watches, h.unheard, h.ended⟩
  exact (SharedClient.own_perform h.registered.numbered act kind name).trans
    (h.registered.own kind name)

theorem Tracked.next (h : run.Tracked) (act : SharedAct) : (run.next act).Tracked := by
  have hmoves := moves_next run act
  generalize run.next act = after at hmoves
  cases hmoves with
  | closes => exact h.close
  | takes event rest => exact h.takes event rest
  | idles events exited ready =>
    exact ⟨h.registered.same ⟨rfl, rfl, rfl, rfl⟩, h.begun, h.watches, h.unheard, h.ended⟩
  | shares act => exact h.shares act

lemma tracked_start (earlier : List (ClientAct WatchOwner)) (address : Endpoint)
    (resource : String) (reportsMode : Bool) :
    (start earlier address resource reportsMode).Tracked := by
  have hnumbered := SharedClient.numbered_after earlier
  refine ⟨⟨hnumbered.watch _ _ _, fun kind name => ?_, nofun, fun handle hs => ?_⟩,
    by simp [start, Listener.start, Listener.say], fun _ name => ?_, by simp [start], nofun⟩
  · have hnone := SharedClient.own_after earlier kind name
    refine (SharedClient.own_watch hnumbered _ _ _ _ _).trans ?_
    show (SharedClient.after earlier).own kind name ++ _ = _
    rw [hnone, List.nil_append]
    cases kind with
    | service => rfl
    | listener =>
      by_cases he : resource = name
      · rw [if_pos ⟨rfl, he⟩]
        exact (if_pos he.symm).symm
      · rw [if_neg fun h => he h.2]
        exact (if_neg (Ne.symm he)).symm
    | route => rfl
  · cases hs
    rfl
  · exact ⟨fun _ => NameSet.not_mem_empty, fun _ => rfl⟩

theorem tracked_extend (h : run.Tracked) (acts : List SharedAct) : (run.extend acts).Tracked := by
  induction acts generalizing run with
  | nil => exact h
  | cons act acts ih => exact ih (h.next act)

/-! ### Along a run -/

/-- The watches of an open listener for a route. -/
lemma Tracked.length_own (h : run.Tracked) (ho : run.listener.closed = false) (name : String) :
    (run.own .route name).length = if name ∈ run.required then 1 else 0 := by
  have hwatches := h.watches ho name
  rw [own, h.registered.own]
  cases hw : run.listener.routeWatches.find? name with
  | none =>
    rw [Listener.held_route_of_none hw, if_neg (hwatches.mp hw)]
    rfl
  | some watch =>
    have hm : name ∈ run.required := by
      by_contra hout
      rw [hwatches.mpr hout] at hw
      cases hw
    rw [Listener.held_route_of_some hw, if_pos hm]
    rfl

lemma Tracked.own_of_done (h : run.Tracked) (hs : run.closing = .done) (kind : ResourceKind)
    (name : String) : run.own kind name = [] := by
  rw [own, h.registered.own]
  cases kind with
  | service => rfl
  | listener => simp [Listener.held, h.unheard (.inr hs)]
  | route => exact Listener.held_route_of_none (h.ended hs name)

lemma closing_next (hs : run.closing = .done) (act : SharedAct) :
    (run.next act).closing = .done := by
  have hmoves := moves_next run act
  generalize run.next act = after at hmoves
  cases hmoves with
  | closes => rw [close_of_done hs, hs]
  | takes event rest => exact hs
  | idles events exited ready => exact hs
  | shares act => exact hs

lemma closing_extend (hs : run.closing = .done) (acts : List SharedAct) :
    (run.extend acts).closing = .done := by
  induction acts generalizing run with
  | nil => exact hs
  | cons act acts ih => exact ih (closing_next hs act)

/-- An event that is neither accepted nor withdraws starts and ends no watch, and once the listener
has been closed no event does. -/
lemma client_next (hc : act ≠ .close) (h : run.listener.closed = true ∨
    (run.listener.taken? act).bind run.listener.accepts? = none ∧
      (run.listener.taken? act).bind run.listener.withdraws? = none) :
    (run.next (.listener act)).listener.client = run.listener.client := by
  rw [next_listener hc]
  obtain ⟨event, rest, ht, heq⟩ | ⟨ht, events, exited, ready, heq⟩ :=
    Listener.perform_loop_cases (l := run.listener) hc
  · rw [ht] at h
    have hsame := Listener.sameWatches_onEvent { run.listener with events := rest } event h
    exact (congrArg (·.1.client) heq).trans hsame.client
  · exact congrArg (·.client) heq

lemma Moves.open_of_open {after : SharedRun} (h : run.Moves after)
    (ho : after.listener.closed = false) : run.listener.closed = false := by
  cases h with
  | closes =>
    unfold close at ho
    split at ho
    · cases ho
    · exact ho
    · exact ho
    · exact ho
  | takes event rest =>
    let before : Listener := { run.listener with events := rest }
    exact (before.advances_onEvent event).closed.symm.trans ho
  | idles events exited ready => exact ho
  | shares act => exact ho

lemma Tracked.closed_close (h : run.Tracked) : run.close.listener.closed = true := by
  refine h.close.begun.mpr ?_
  cases hs : run.closing with
  | notBegun => simp [close_of_notBegun hs]
  | shut => simp [close_of_shut hs]
  | unheard => simp [close_of_unheard hs]
  | done => simp [close_of_done hs, hs]

/-- A watch stays while its route is needed. -/
lemma find?_extend_of_needed (ht : run.Tracked) {watch : RouteWatch}
    (hw : run.listener.routeWatches.find? name = some watch) (more : List SharedAct)
    (ho : (run.extend more).listener.closed = false) :
    (run.extend more).listener.address = run.listener.address ∧
    ∃ since, (run.extend more).taken = run.taken ++ since ∧
      ((∀ event ∈ since, run.listener.withdraws? event = none ∧
        ∀ set, run.listener.accepts? event = some set → name ∈ set.routeNames) →
        (run.extend more).listener.routeWatches.find? name = some watch) := by
  induction more using List.reverseRecOn with
  | nil => exact ⟨rfl, [], (List.append_nil _).symm, fun _ => hw⟩
  | append_singleton more act ih =>
    have htracked := tracked_extend ht more
    rw [extend_append] at ho ⊢
    generalize run.extend more = now at ih ho htracked ⊢
    have hmoves : now.Moves (now.next act) := moves_next now act
    have hopen : (now.next act).listener.closed = false := ho
    have hbefore := hmoves.open_of_open hopen
    obtain ⟨haddress, since, htaken, hkept⟩ := ih hbefore
    refine ⟨hmoves.address.trans haddress, ?_⟩
    show ∃ since, (now.next act).taken = _ ∧
      (_ → (now.next act).listener.routeWatches.find? name = _)
    generalize now.next act = after at hmoves hopen
    cases hmoves with
    | closes =>
      rw [htracked.closed_close] at hopen
      cases hopen
    | takes event rest =>
      refine ⟨since ++ [event], ?_, fun hall => ?_⟩
      · show now.taken ++ [event] = _
        rw [htaken, List.append_assoc]
      · have hold := hkept fun other hm => hall other (List.mem_append_left _ hm)
        obtain ⟨hwithdraws, haccepts⟩ := hall event (by simp)
        rw [← Listener.withdraws?_congr haddress] at hwithdraws
        rw [← Listener.accepts?_congr haddress] at haccepts
        exact Listener.find?_onEvent_of_needed (l := { now.listener with events := rest }) hbefore
          hwithdraws haccepts hold
    | idles events exited ready => exact ⟨since, htaken, hkept⟩
    | shares act => exact ⟨since, htaken, hkept⟩

lemma open_of_extend (more : List SharedAct) (ho : (run.extend more).listener.closed = false) :
    run.listener.closed = false := by
  induction more generalizing run with
  | nil => exact ho
  | cons act more ih => exact (moves_next run act).open_of_open (ih ho)

theorem Tracked.own_extend (h : run.Tracked) (hm : name ∈ run.required) (more : List SharedAct)
    (ho : (run.extend more).listener.closed = false)
    (hall : ∀ event ∈ (run.extend more).taken.drop run.taken.length,
      run.listener.withdraws? event = none ∧
        ∀ set, run.listener.accepts? event = some set → name ∈ set.routeNames) :
    (run.extend more).own .route name = run.own .route name := by
  have hopen := open_of_extend more ho
  have hafter := tracked_extend h more
  cases hw : run.listener.routeWatches.find? name with
  | none => exact absurd hm ((h.watches hopen name).mp hw)
  | some watch =>
    obtain ⟨-, since, htaken, hkept⟩ := find?_extend_of_needed h hw more ho
    rw [htaken, List.drop_left] at hall
    rw [own, own, hafter.registered.own, h.registered.own, Listener.held_route_of_some hw,
      Listener.held_route_of_some (hkept hall)]

/-- After a close has come to its end, nothing that the listener does is about the client. -/
lemma Tracked.client_of_done (h : run.Tracked) (hs : run.closing = .done) (act : ListenerAct) :
    (run.next (.listener act)).listener.client = run.listener.client := by
  by_cases hc : act = .close
  · have hsame : run.next (.listener .close) = run := close_of_done hs
    rw [hc, hsame]
  · exact client_next hc (.inl (h.begun.mpr (by simp [hs])))

lemma Tracked.close_close_close (h : run.Tracked) (hs : run.closing = .notBegun) :
    run.close.close.close = { run with listener := run.listener.close.1, closing := .done } := by
  have hopen : run.listener.closed = false := by
    have hbegun := h.begun
    simpa [hs] using hbegun
  rw [Listener.close_eq hopen, close_of_notBegun hs]
  rfl

/-- While a listener is open, its route watches on the client are one for each route that is
needed and no other. A watch is the same, with the same number, as long as its route is needed.
Only an accepted update or a withdrawal starts or ends watches. Once a close has come to its end the
listener has no watch on the client, whatever it still takes, and does nothing to the client any
more. Three steps in a row are the close. -/
theorem watches_follow_updates (earlier : List (ClientAct WatchOwner)) (address : Endpoint)
    (resource : String) (reportsMode : Bool) (acts : List SharedAct) :
    let run := of earlier address resource reportsMode acts
    (run.listener.closed = false → ∀ name,
      (run.own .route name).length = if name ∈ run.required then 1 else 0) ∧
    (∀ more name, name ∈ run.required →
      let now := run.extend more
      now.listener.closed = false →
      (∀ event ∈ now.taken.drop run.taken.length, run.listener.withdraws? event = none ∧
        ∀ set, run.listener.accepts? event = some set → name ∈ set.routeNames) →
      now.own .route name = run.own .route name) ∧
    (∀ act, act ≠ .close → (run.listener.taken? act).bind run.listener.accepts? = none →
      (run.listener.taken? act).bind run.listener.withdraws? = none →
      (run.next (.listener act)).listener.client = run.listener.client) ∧
    (run.closing = .done → ∀ more,
      let now := run.extend more
      (∀ kind name, now.own kind name = []) ∧
      ∀ act, (now.next (.listener act)).listener.client = now.listener.client) ∧
    (run.closing = .notBegun →
      run.close.close.close = { run with listener := run.listener.close.1, closing := .done }) := by
  intro run
  have htracked : run.Tracked := tracked_extend (tracked_start _ _ _ _) acts
  refine ⟨htracked.length_own, ?_, ?_, ?_, htracked.close_close_close⟩
  · intro more name hm now ho hall
    exact htracked.own_extend hm more ho hall
  · intro act hc ha hw
    exact client_next hc (.inr ⟨ha, hw⟩)
  · intro hs more now
    have hnow : now.Tracked := tracked_extend htracked more
    have hdone : now.closing = .done := closing_extend hs more
    exact ⟨hnow.own_of_done hdone, hnow.client_of_done hdone⟩

/-- Another user watches route `b` when the listener comes. -/
def neighbour : List (ClientAct WatchOwner) := [.watch .route "b" (.route "b" 1)]

/-- The listener needs routes `a` and `b`, and the other user has no handle of its watches. -/
def twoNeeded : List SharedAct :=
  [.listener (.callback (ListenerSite.loopback.requiring ["a", "b"])), .listener .take,
    .other (.cancel ⟨.route, "a", 3⟩)]

/-- Route `c` comes in place of `a`, and then some trouble. -/
def oneReplaced : List SharedAct :=
  [.listener (.callback (ListenerSite.loopback.requiring ["b", "c"])),
    .other (.watch .route "c" .listener), .listener .take,
    .listener (.callback (.listener (.error ⟨.other, "reset"⟩))), .listener .take]

/-- Updates are queued before the closing begins, and taken while it goes on and after it. -/
def closedWithQueue : List SharedAct :=
  [.listener (.callback (ListenerSite.loopback.requiring ["a"])),
    .listener (.callback (ListenerSite.loopback.requiring ["d"])), .listener .close,
    .listener .take, .listener .close, .listener .close]

theorem watches_followed :
    ((of neighbour ListenerSite.loopback.address "inbound" true twoNeeded).own .route "a").length =
      1 ∧
    ((of neighbour ListenerSite.loopback.address "inbound" true twoNeeded).extend oneReplaced).own
        .route "b" = [⟨4, .route "b" 2⟩] ∧
    ∀ kind name, ((of neighbour ListenerSite.loopback.address "inbound" true
      (twoNeeded ++ oneReplaced ++ closedWithQueue)).extend [.listener .take]).own kind name =
        [] := by
  obtain ⟨hlength, hkept, -, -, -⟩ :=
    watches_follow_updates neighbour ListenerSite.loopback.address "inbound" true twoNeeded
  obtain ⟨-, -, -, hdone, -⟩ := watches_follow_updates neighbour ListenerSite.loopback.address
    "inbound" true (twoNeeded ++ oneReplaced ++ closedWithQueue)
  have hopen : (of neighbour ListenerSite.loopback.address "inbound" true
      twoNeeded).listener.closed = false := by decide
  have hlater : ((of neighbour ListenerSite.loopback.address "inbound" true twoNeeded).extend
      oneReplaced).listener.closed = false := by decide
  have hclosed : (of neighbour ListenerSite.loopback.address "inbound" true
      (twoNeeded ++ oneReplaced ++ closedWithQueue)).closing = .done := by decide
  have htaken : ((of neighbour ListenerSite.loopback.address "inbound" true twoNeeded).extend
      oneReplaced).taken.drop
        (of neighbour ListenerSite.loopback.address "inbound" true twoNeeded).taken.length =
      [ListenerSite.loopback.requiring ["b", "c"], .listener (.error ⟨.other, "reset"⟩)] := by
    rfl
  have hsame := hkept oneReplaced "b" (by decide) hlater
  rw [htaken] at hsame
  have hneeded := hsame fun event hm => by
    rcases List.mem_cons.mp hm with rfl | hm
    · refine ⟨rfl, fun set hset => ?_⟩
      cases hset
      decide
    · rw [List.mem_singleton.mp hm]
      exact ⟨rfl, nofun⟩
  have hfirst : (of neighbour ListenerSite.loopback.address "inbound" true twoNeeded).own
      .route "b" = [⟨4, .route "b" 2⟩] := by decide
  exact ⟨(hlength hopen "a").trans (if_pos (by decide)), hneeded.trans hfirst,
    (hdone hclosed [.listener .take]).1⟩

end SharedRun
end MeshRouting
