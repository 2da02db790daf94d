import MeshRouting.Proofs.ControlSteps
import MeshRouting.Proofs.SharedClients

/-!
# Watches on the client

Of the watches on its client a listener has a handle for each of its own, and no other handles. It
keeps that in each step, and while it is open its route watches are for the routes that the last
accepted update needs.
-/
namespace MeshRouting
namespace Listener

variable {l next : Listener} {foreign : List Nat} {event : ControlEvent} {name : String}
  {names : NameSet}

/-! ### Handles -/

/-- The watches that the handles of a listener stand for. -/
def held (l : Listener) : ResourceKind → String → List (Watch WatchOwner)
  | .service, _ => []
  | .listener, name =>
    if name = l.resource then l.listenerWatch.toList.map fun handle => ⟨handle.id, .listener⟩
    else []
  | .route, name =>
    (l.routeWatches.find? name).toList.map fun watch => ⟨watch.handle.id, .route name watch.number⟩

/-- The listener's own watches are those that it has handles of. -/
structure Registered (l : Listener) (foreign : List Nat) : Prop where
  numbered : SharedClient.Numbered ⟨l.client, foreign⟩
  own : ∀ kind name, SharedClient.own ⟨l.client, foreign⟩ kind name = l.held kind name
  handles : ∀ name watch, l.routeWatches.find? name = some watch →
    watch.handle = ⟨.route, name, watch.handle.id⟩
  heard : ∀ handle, l.listenerWatch = some handle → handle = ⟨.listener, l.resource, handle.id⟩

lemma held_route_of_some {watch : RouteWatch} (h : l.routeWatches.find? name = some watch) :
    l.held .route name = [⟨watch.handle.id, .route name watch.number⟩] := by
  simp [held, h]

lemma held_route_of_none (h : l.routeWatches.find? name = none) : l.held .route name = [] := by
  simp [held, h]

/-- Nothing is started or ended. -/
structure SameWatches (l next : Listener) : Prop where
  resource : next.resource = l.resource
  client : next.client = l.client
  listenerWatch : next.listenerWatch = l.listenerWatch
  routeWatches : next.routeWatches = l.routeWatches

lemma SameWatches.checkReady (h : l.SameWatches next) : l.SameWatches next.checkReady.1 := by
  rw [checkReady_rest]
  exact ⟨h.resource, h.client, h.listenerWatch, h.routeWatches⟩

lemma Registered.same (h : l.Registered foreign) (hs : l.SameWatches next) :
    next.Registered foreign where
  numbered := by
    rw [hs.client]
    exact h.numbered
  own := by
    intro kind name
    rw [hs.client, h.own]
    cases kind with
    | service => rfl
    | listener => rw [held, held, hs.resource, hs.listenerWatch]
    | route => rw [held, held, hs.routeWatches]
  handles := by
    rw [hs.routeWatches]
    exact h.handles
  heard := by
    rw [hs.listenerWatch, hs.resource]
    exact h.heard

/-! ### Starting and ending a route watch -/

theorem Registered.unwatchRoute (h : l.Registered foreign) (name : String) :
    (l.unwatchRoute name).1.Registered foreign := by
  unfold Listener.unwatchRoute
  split
  · exact h
  · rename_i watch hw
    have hhandle := h.handles name watch hw
    refine ⟨h.numbered.cancel _, fun kind other => ?_, fun other source hs => ?_, h.heard⟩
    · show SharedClient.own ⟨l.client.cancel watch.handle, foreign⟩ kind other = _
      rw [SharedClient.own_cancel, h.own]
      cases kind with
      | service => rfl
      | listener =>
        refine List.filter_eq_self.mpr fun w _ => ?_
        rw [hhandle]
        simp
      | route =>
        by_cases he : name = other
        · subst he
          rw [held_route_of_some hw, held_route_of_none (by simp [say, NameMap.find?_erase])]
          simpa using hhandle
        · have hkept : (l.routeWatches.erase name).find? other = l.routeWatches.find? other := by
            rw [NameMap.find?_erase, if_neg he]
          show _ = ((l.routeWatches.erase name).find? other).toList.map _
          rw [hkept]
          refine List.filter_eq_self.mpr fun w _ => ?_
          rw [hhandle]
          simp [he]
    · have hfind : (l.routeWatches.erase name).find? other = some source := hs
      rw [NameMap.find?_erase] at hfind
      split at hfind
      · cases hfind
      · exact h.handles other source hfind

theorem Registered.watchRoute (h : l.Registered foreign) (name : String) :
    (l.watchRoute name).1.Registered foreign := by
  unfold Listener.watchRoute
  split
  · exact h
  · rename_i hc
    have hnone : l.routeWatches.find? name = none := by
      simpa [NameMap.contains] using hc
    let handle : WatchHandle := ⟨.route, name, l.client.lastId + 1⟩
    let watches := l.routeWatches.insert name ⟨l.lastWatch + 1, handle⟩
    have hfind : ∀ other, watches.find? other =
        if name = other then some ⟨l.lastWatch + 1, handle⟩ else l.routeWatches.find? other :=
      fun other => NameMap.find?_insert _ _ _ _
    refine ⟨h.numbered.watch _ _ _, fun kind other => ?_, fun other source hs => ?_, h.heard⟩
    · show SharedClient.own
        ⟨(l.client.watch .route name (.route name (l.lastWatch + 1))).1, foreign⟩ kind other = _
      rw [SharedClient.own_watch h.numbered, h.own]
      cases kind with
      | service => rfl
      | listener => exact List.append_nil _
      | route =>
        show _ = (watches.find? other).toList.map _
        rw [hfind]
        by_cases he : name = other
        · subst he
          rw [held_route_of_none hnone]
          simp [handle]
        · simp [held, he]
    · have hs : watches.find? other = some source := hs
      rw [hfind] at hs
      split at hs
      · rename_i he
        cases hs
        subst he
        rfl
      · exact h.handles other source hs

theorem Registered.updateRouteWatches (h : l.Registered foreign) (required : NameSet) :
    (l.updateRouteWatches required).1.Registered foreign := by
  unfold Listener.updateRouteWatches
  split
  · exact h
  · have hended := forEach_induction (·.Registered foreign)
      (fun _ name hr => hr.unwatchRoute name) (l.staleNames required) h
    exact forEach_induction (·.Registered foreign) (fun _ name hr => hr.watchRoute name)
      required.toList hended

/-! ### Closing -/

/-- The first step of closing: no watch is started from here on. -/
def shut (l : Listener) : Listener := { l with closed := true }

def endListenerWatch (l : Listener) : Listener :=
  { l with client := l.listenerWatch.elim l.client l.client.cancel, listenerWatch := none }

def endRouteWatches (l : Listener) : Listener :=
  { l with
    client := l.routeWatches.entries.foldl
      (fun client entry => client.cancel entry.2.handle) l.client
    routeWatches := .empty }

lemma close_eq (h : l.closed = false) :
    l.close.1 = l.shut.endListenerWatch.endRouteWatches := by
  simp [close, h, say, cancelAll, shut, endListenerWatch, endRouteWatches]

lemma Registered.endListenerWatch (h : l.Registered foreign) :
    l.endListenerWatch.Registered foreign := by
  cases hw : l.listenerWatch with
  | none =>
    have hsame : l.endListenerWatch = l := by
      obtain ⟨⟩ := l
      cases hw
      rfl
    rw [hsame]
    exact h
  | some handle =>
    have hhandle := h.heard handle hw
    have hclient : l.endListenerWatch.client = l.client.cancel handle := by
      simp [Listener.endListenerWatch, hw]
    refine ⟨?_, fun kind name => ?_, h.handles, fun handle hs => by cases hs⟩
    · rw [hclient]
      exact h.numbered.cancel handle
    · rw [hclient, SharedClient.own_cancel, h.own, hhandle]
      cases kind with
      | service => rfl
      | listener =>
        by_cases he : name = l.resource
        · subst he
          simp [held, hw, Listener.endListenerWatch]
        · simp [held, he, Listener.endListenerWatch]
      | route => exact List.filter_eq_self.mpr fun w _ => by simp

lemma Registered.endRouteWatches (h : l.Registered foreign) :
    l.endRouteWatches.Registered foreign := by
  let handles := l.routeWatches.entries.map (·.2.handle)
  have hclient : l.endRouteWatches.client = handles.foldl Registry.cancel l.client :=
    List.foldl_map.symm
  refine ⟨?_, fun kind name => ?_, fun name watch hs => ?_, h.heard⟩
  · rw [hclient]
    exact h.numbered.foldl_cancel handles
  · rw [hclient, SharedClient.own_foldl_cancel, h.own]
    have hroutes : ∀ handle ∈ handles, handle.kind = .route := by
      intro handle hm
      obtain ⟨⟨other, watch⟩, he, rfl⟩ := List.mem_map.mp hm
      rw [h.handles other watch (NameMap.find?_eq_some_iff.mpr he)]
    cases kind with
    | service => rfl
    | listener =>
      refine List.filter_eq_self.mpr fun w _ => ?_
      have hout : ⟨.listener, name, w.id⟩ ∉ handles := fun hm => by
        cases hroutes _ hm
      simpa using hout
    | route =>
      show _ = []
      cases hw : l.routeWatches.find? name with
      | none =>
        rw [held_route_of_none hw]
        rfl
      | some watch =>
        have hm : watch.handle ∈ handles :=
          List.mem_map.mpr ⟨(name, watch), NameMap.find?_eq_some_iff.mp hw, rfl⟩
        rw [h.handles name watch hw] at hm
        rw [held_route_of_some hw]
        simpa using hm
  · cases hs

/-! ### Events -/

lemma Registered.checkReady (h : l.Registered foreign) : l.checkReady.1.Registered foreign :=
  h.same (SameWatches.checkReady ⟨rfl, rfl, rfl, rfl⟩)

lemma Registered.prepare (h : l.Registered foreign) (set : ChainSet) :
    (l.prepare set).Registered foreign := by
  have hcounted : Registered { l with generation := l.generation + 1 } foreign :=
    h.same ⟨rfl, rfl, rfl, rfl⟩
  exact (hcounted.updateRouteWatches set.routeNames).same ⟨rfl, rfl, rfl, rfl⟩

lemma Registered.forget (h : l.Registered foreign) : l.forget.Registered foreign := by
  have hnone : Registered { l with chains := none, gate := none } foreign :=
    h.same ⟨rfl, rfl, rfl, rfl⟩
  exact hnone.updateRouteWatches .empty

theorem Registered.onEvent (h : l.Registered foreign) (event : ControlEvent) :
    (l.onEvent event).1.Registered foreign := by
  have htakes := takes_onEvent l event
  generalize l.onEvent event = o at htakes ⊢
  cases htakes with
  | @install _ set ha =>
    obtain ⟨effects, -, heq⟩ := install_eq l set
    rw [heq]
    exact (h.prepare set).checkReady
  | @withdraw _ error hw n =>
    obtain ⟨effects, -, heq⟩ := withdraw_eq l error
    show (l.withdraw error).1.Registered foreign
    rw [heq]
    exact h.forget.same ⟨rfl, rfl, rfl, rfl⟩
  | @store name watch hw config =>
    obtain ⟨effects, -, heq⟩ := storeRoute_eq l name config
    have hreceived : (l.receive name config).Registered foreign := h.same ⟨rfl, rfl, rfl, rfl⟩
    rw [heq]
    exact hreceived.checkReady
  | @lose name watch hw e he =>
    obtain ⟨effects, -, heq⟩ := loseRoute_eq l name e
    rw [heq]
    exact h.same ⟨rfl, rfl, rfl, rfl⟩
  | ignore hi n => exact h

/-! ### Watches that stay -/

lemma sameWatches_prepare (h : l.closed = true) (set : ChainSet) :
    l.SameWatches (l.prepare set) := by
  have hsame := updateRouteWatches_of_closed (l := { l with generation := l.generation + 1 }) h
    set.routeNames
  rw [Listener.prepare, hsame]
  exact ⟨rfl, rfl, rfl, rfl⟩

/-- Only an accepted update or a withdrawal changes watches, and nothing does once the listener is
closed. -/
theorem sameWatches_onEvent (l : Listener) (event : ControlEvent)
    (h : l.closed = true ∨ l.accepts? event = none ∧ l.withdraws? event = none) :
    l.SameWatches (l.onEvent event).1 := by
  have htakes := takes_onEvent l event
  generalize l.onEvent event = o at htakes ⊢
  cases htakes with
  | @install _ set ha =>
    obtain hclosed | ⟨hnone, -⟩ := h
    · obtain ⟨effects, -, heq⟩ := install_eq l set
      rw [heq]
      exact (sameWatches_prepare hclosed set).checkReady
    · rw [hnone] at ha
      cases ha
  | @withdraw _ error hw n =>
    obtain hclosed | ⟨-, hnone⟩ := h
    · obtain ⟨effects, -, heq⟩ := withdraw_eq l error
      show l.SameWatches (l.withdraw error).1
      rw [heq, forget_of_closed hclosed]
      exact ⟨rfl, rfl, rfl, rfl⟩
    · rw [hnone] at hw
      cases hw
  | @store name watch hw config =>
    obtain ⟨effects, -, heq⟩ := storeRoute_eq l name config
    have hreceived : l.SameWatches (l.receive name config) := ⟨rfl, rfl, rfl, rfl⟩
    rw [heq]
    exact hreceived.checkReady
  | @lose name watch hw e he =>
    obtain ⟨effects, -, heq⟩ := loseRoute_eq l name e
    rw [heq]
    exact ⟨rfl, rfl, rfl, rfl⟩
  | ignore hi n => exact ⟨rfl, rfl, rfl, rfl⟩

/-- The routes that are needed after an event: those of an accepted update, and none after a
withdrawal. -/
def needs (l : Listener) (names : NameSet) (event : ControlEvent) : NameSet :=
  match l.accepts? event with
  | some set => set.routeNames
  | none => if (l.withdraws? event).isSome then .empty else names

/-- Exactly these routes are watched. -/
def Watches (l : Listener) (names : NameSet) : Prop :=
  ∀ name, l.routeWatches.find? name = none ↔ name ∉ names

lemma routeWatches_of_accepts {set : ChainSet} (ha : l.accepts? event = some set) :
    (l.onEvent event).1.routeWatches = (l.prepare set).routeWatches := by
  obtain ⟨effects, -, heq⟩ := install_eq l set
  rw [onEvent_of_accepts ha, heq, checkReady_rest]

lemma routeWatches_of_withdraws {error : String} (hw : l.withdraws? event = some error) :
    (l.onEvent event).1.routeWatches = l.forget.routeWatches := by
  obtain ⟨n, hn⟩ := onEvent_of_withdraws hw
  obtain ⟨effects, -, heq⟩ := withdraw_eq l error
  rw [hn]
  show (l.withdraw error).1.routeWatches = _
  rw [heq]

/-- An open listener watches the routes that are needed. -/
theorem Watches.onEvent (h : l.Watches names) (ho : l.closed = false) (event : ControlEvent) :
    (l.onEvent event).1.Watches (l.needs names event) := by
  intro name
  cases ha : l.accepts? event with
  | some set =>
    have hneeds : l.needs names event = set.routeNames := by simp [needs, ha]
    rw [hneeds, routeWatches_of_accepts ha, find?_prepare_eq_none_iff ho]
  | none =>
    cases hw : l.withdraws? event with
    | some error =>
      have hneeds : l.needs names event = .empty := by simp [needs, ha, hw]
      rw [hneeds, routeWatches_of_withdraws hw, find?_forget ho]
      simp
    | none =>
      have hneeds : l.needs names event = names := by simp [needs, ha, hw]
      rw [hneeds, (sameWatches_onEvent l event (.inr ⟨ha, hw⟩)).routeWatches]
      exact h name

/-- The watch of a route stays while no event withdraws the configuration or drops the route. -/
theorem find?_onEvent_of_needed {watch : RouteWatch} (ho : l.closed = false)
    (hw : l.withdraws? event = none)
    (ha : ∀ set, l.accepts? event = some set → name ∈ set.routeNames)
    (hs : l.routeWatches.find? name = some watch) :
    (l.onEvent event).1.routeWatches.find? name = some watch := by
  cases hset : l.accepts? event with
  | some set =>
    rw [routeWatches_of_accepts hset]
    exact find?_prepare_of_mem ho (ha set hset) hs
  | none => rw [(sameWatches_onEvent l event (.inr ⟨hset, hw⟩)).routeWatches, hs]

end Listener
end MeshRouting
