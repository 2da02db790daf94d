import MeshRouting.Inbound.Listener
import MeshRouting.Proofs.Names

/-!
# Route watches of a listener

Bringing the watches in line with the required routes keeps each watch that is still required,
with the route it has received, ends the others, and gives new ones higher numbers than any
before. Nothing else about the listener changes.
-/
namespace MeshRouting

/-- Nothing happens that anyone but a reader of the log is told. -/
def Quiet (effects : List ListenerEffect) : Prop := ∀ e ∈ effects, ∃ n, e = .notice n

lemma quiet_nil : Quiet [] := by simp [Quiet]

lemma quiet_notice (n : Notice) : Quiet [.notice n] := by simp [Quiet]

lemma Quiet.append {effects more : List ListenerEffect} (h : Quiet effects) (g : Quiet more) :
    Quiet (effects ++ more) := by
  intro e he
  rcases List.mem_append.mp he with he | he
  · exact h e he
  · exact g e he

namespace Listener

variable {l next later : Listener} {name other : String} {required : NameSet}

/-- A received route belongs to a watch. -/
def Stored (l : Listener) : Prop :=
  ∀ name, l.routeWatches.find? name = none → l.routes.find? name = none

/-- Only watches have changed, with their routes and the client, and a watch that was not there
has a number that was not given before. -/
structure Rewatched (l next : Listener) : Prop where
  rest : next = { l with
    client := next.client
    routeWatches := next.routeWatches
    lastWatch := next.lastWatch
    routes := next.routes }
  upward : l.lastWatch ≤ next.lastWatch
  fresh : ∀ name watch, next.routeWatches.find? name = some watch →
    l.routeWatches.find? name = some watch ∨
      l.lastWatch < watch.number ∧ watch.number ≤ next.lastWatch

lemma Rewatched.refl (l : Listener) : l.Rewatched l := ⟨rfl, le_rfl, fun _ _ h => .inl h⟩

lemma Rewatched.trans (h : l.Rewatched next) (g : next.Rewatched later) : l.Rewatched later where
  rest := by
    have hl := g.rest
    rw [h.rest] at hl
    exact hl
  upward := h.upward.trans g.upward
  fresh := by
    intro name watch hw
    rcases g.fresh name watch hw with hold | ⟨hlow, hhigh⟩
    · rcases h.fresh name watch hold with hold | ⟨hlow, hhigh⟩
      · exact .inl hold
      · exact .inr ⟨hlow, hhigh.trans g.upward⟩
    · exact .inr ⟨h.upward.trans_lt hlow, hhigh⟩

/-! ### One watch -/

lemma unwatchRoute_quiet (l : Listener) (name : String) : Quiet (l.unwatchRoute name).2 := by
  unfold unwatchRoute
  split
  · exact quiet_nil
  · exact quiet_notice _

lemma find?_unwatchRoute (l : Listener) (name other : String) :
    (l.unwatchRoute name).1.routeWatches.find? other =
      if name = other then none else l.routeWatches.find? other := by
  unfold unwatchRoute
  split
  · rename_i hnone
    split
    · rename_i he
      exact he ▸ hnone
    · rfl
  · exact NameMap.find?_erase _ _ _

lemma rewatched_unwatchRoute (l : Listener) (name : String) :
    l.Rewatched (l.unwatchRoute name).1 := by
  have hfind := find?_unwatchRoute l name
  refine ⟨?_, ?_, ?_⟩
  · unfold unwatchRoute
    split <;> rfl
  · unfold unwatchRoute
    split <;> exact le_rfl
  · intro other watch hw
    rw [hfind] at hw
    split at hw
    · cases hw
    · exact .inl hw

lemma Stored.find?_unwatchRoute (h : l.Stored) (name other : String) :
    (l.unwatchRoute name).1.routes.find? other =
      if name = other then none else l.routes.find? other := by
  unfold unwatchRoute
  split
  · rename_i hnone
    split
    · rename_i he
      exact h other (he ▸ hnone)
    · rfl
  · exact NameMap.find?_erase _ _ _

lemma Stored.unwatchRoute (h : l.Stored) (name : String) : (l.unwatchRoute name).1.Stored := by
  intro other hnone
  rw [h.find?_unwatchRoute]
  rw [Listener.find?_unwatchRoute] at hnone
  split
  · rfl
  · rename_i hne
    rw [if_neg hne] at hnone
    exact h other hnone

lemma watchRoute_quiet (l : Listener) (name : String) : Quiet (l.watchRoute name).2 := by
  unfold watchRoute
  split
  · exact quiet_nil
  · exact quiet_notice _

lemma watchRoute_routes (l : Listener) (name : String) :
    (l.watchRoute name).1.routes = l.routes := by
  unfold watchRoute
  split <;> rfl

/-- A watch that is there stays; otherwise a new one has the next number. -/
lemma watchRoute_cases (l : Listener) (name : String) :
    (l.routeWatches.find? name ≠ none ∧ (l.watchRoute name).1 = l) ∨
    l.routeWatches.find? name = none ∧ (l.watchRoute name).1.lastWatch = l.lastWatch + 1 ∧
      ∃ handle, ∀ other, (l.watchRoute name).1.routeWatches.find? other =
        if name = other then some ⟨l.lastWatch + 1, handle⟩ else l.routeWatches.find? other := by
  unfold watchRoute
  split
  · rename_i hc
    have hsome : (l.routeWatches.find? name).isSome := hc
    exact .inl ⟨Option.isSome_iff_ne_none.mp hsome, rfl⟩
  · rename_i hc
    have hnone : ¬ (l.routeWatches.find? name).isSome := hc
    refine .inr ⟨by simpa using hnone, rfl,
      (l.client.watch .route name (.route name (l.lastWatch + 1))).2, fun other => ?_⟩
    exact NameMap.find?_insert _ _ _ _

lemma rewatched_watchRoute (l : Listener) (name : String) :
    l.Rewatched (l.watchRoute name).1 := by
  have hrest : (l.watchRoute name).1 = { l with
      client := (l.watchRoute name).1.client
      routeWatches := (l.watchRoute name).1.routeWatches
      lastWatch := (l.watchRoute name).1.lastWatch
      routes := (l.watchRoute name).1.routes } := by
    unfold watchRoute
    split <;> rfl
  obtain ⟨-, hsame⟩ | ⟨-, hnumber, handle, hfind⟩ := watchRoute_cases l name
  · rw [hsame]
    exact .refl l
  · refine ⟨hrest, by omega, fun other watch hw => ?_⟩
    rw [hfind] at hw
    split at hw
    · cases hw
      exact .inr ⟨Nat.lt_succ_self _, hnumber.ge⟩
    · exact .inl hw

lemma find?_watchRoute_of_some {watch : RouteWatch} (name : String)
    (h : l.routeWatches.find? other = some watch) :
    (l.watchRoute name).1.routeWatches.find? other = some watch := by
  obtain ⟨-, hsame⟩ | ⟨hnone, -, handle, hfind⟩ := watchRoute_cases l name
  · rw [hsame, h]
  · rw [hfind]
    split
    · rename_i he
      rw [he, h] at hnone
      cases hnone
    · exact h

lemma find?_watchRoute_eq_none_iff (l : Listener) (name other : String) :
    (l.watchRoute name).1.routeWatches.find? other = none ↔
      name ≠ other ∧ l.routeWatches.find? other = none := by
  obtain ⟨hsome, hsame⟩ | ⟨-, -, handle, hfind⟩ := watchRoute_cases l name
  · rw [hsame]
    constructor
    · intro hnone
      exact ⟨fun he => hsome (he ▸ hnone), hnone⟩
    · exact And.right
  · rw [hfind]
    split <;> simp_all

/-! ### Watches in a row -/

/-- What each step in a row keeps, the row keeps. -/
lemma forEach_induction {step : Listener → String → Outcome} (kept : Listener → Prop)
    (hstep : ∀ l name, kept l → kept (step l name).1) (names : List String) (h : kept l) :
    kept (forEach step names l).1 := by
  induction names generalizing l with
  | nil => exact h
  | cons name rest ih => exact ih (hstep l name h)

lemma forEach_quiet {step : Listener → String → Outcome}
    (hstep : ∀ l name, Quiet (step l name).2) (names : List String) (l : Listener) :
    Quiet (forEach step names l).2 := by
  induction names generalizing l with
  | nil => exact quiet_nil
  | cons name rest ih => exact (hstep l name).append (ih _)

lemma rewatched_forEach {step : Listener → String → Outcome}
    (hstep : ∀ (l : Listener) name, l.Rewatched (step l name).1) (names : List String)
    (l : Listener) : l.Rewatched (forEach step names l).1 :=
  forEach_induction l.Rewatched (fun _ name h => h.trans (hstep _ name)) names (.refl l)

lemma find?_forEach_unwatchRoute (names : List String) (l : Listener) (other : String) :
    (forEach unwatchRoute names l).1.routeWatches.find? other =
      if other ∈ names then none else l.routeWatches.find? other := by
  induction names generalizing l with
  | nil => simp [forEach]
  | cons name rest ih =>
    show (forEach unwatchRoute rest (l.unwatchRoute name).1).1.routeWatches.find? other = _
    rw [ih, find?_unwatchRoute]
    by_cases he : name = other
    · simp [he]
    · simp [he, Ne.symm he]

lemma Stored.find?_forEach_unwatchRoute (h : l.Stored) (names : List String) (other : String) :
    (forEach Listener.unwatchRoute names l).1.routes.find? other =
      if other ∈ names then none else l.routes.find? other := by
  induction names generalizing l with
  | nil => simp [forEach]
  | cons name rest ih =>
    show (forEach Listener.unwatchRoute rest (l.unwatchRoute name).1).1.routes.find? other = _
    rw [ih (h.unwatchRoute name), h.find?_unwatchRoute]
    by_cases he : name = other
    · simp [he]
    · simp [he, Ne.symm he]

lemma forEach_watchRoute_routes (names : List String) (l : Listener) :
    (forEach watchRoute names l).1.routes = l.routes :=
  forEach_induction (·.routes = l.routes)
    (fun _ name h => (watchRoute_routes _ name).trans h) names rfl

lemma find?_forEach_watchRoute_of_some {watch : RouteWatch} (names : List String)
    (h : l.routeWatches.find? other = some watch) :
    (forEach watchRoute names l).1.routeWatches.find? other = some watch :=
  forEach_induction (·.routeWatches.find? other = some watch)
    (fun _ name h => find?_watchRoute_of_some name h) names h

lemma find?_forEach_watchRoute_eq_none_iff (names : List String) (l : Listener)
    (other : String) :
    (forEach watchRoute names l).1.routeWatches.find? other = none ↔
      other ∉ names ∧ l.routeWatches.find? other = none := by
  induction names generalizing l with
  | nil => simp [forEach]
  | cons name rest ih =>
    show (forEach watchRoute rest (l.watchRoute name).1).1.routeWatches.find? other = none ↔ _
    rw [ih, find?_watchRoute_eq_none_iff, List.mem_cons, not_or, and_left_comm, and_assoc]
    exact and_congr_left' ne_comm

/-! ### All watches -/

lemma updateRouteWatches_quiet (l : Listener) (required : NameSet) :
    Quiet (l.updateRouteWatches required).2 := by
  unfold updateRouteWatches
  split
  · exact quiet_nil
  · exact (forEach_quiet unwatchRoute_quiet _ _).append (forEach_quiet watchRoute_quiet _ _)

lemma rewatched_updateRouteWatches (l : Listener) (required : NameSet) :
    l.Rewatched (l.updateRouteWatches required).1 := by
  unfold updateRouteWatches
  split
  · exact .refl l
  · exact (rewatched_forEach rewatched_unwatchRoute _ _).trans
      (rewatched_forEach rewatched_watchRoute _ _)

lemma updateRouteWatches_of_closed (h : l.closed = true) (required : NameSet) :
    l.updateRouteWatches required = (l, []) := by
  simp [updateRouteWatches, h]

/-- The names whose watch is no longer required. -/
def staleNames (l : Listener) (required : NameSet) : List String :=
  l.routeWatches.keys.filter fun name => name ∉ required

lemma mem_staleNames_iff :
    name ∈ l.staleNames required ↔ l.routeWatches.find? name ≠ none ∧ name ∉ required := by
  rw [staleNames, List.mem_filter, NameMap.mem_keys_iff, Option.isSome_iff_ne_none]
  simp

lemma updateRouteWatches_of_open (h : l.closed = false) (required : NameSet) :
    (l.updateRouteWatches required).1 =
      (forEach watchRoute required.toList
        (forEach unwatchRoute (l.staleNames required) l).1).1 := by
  simp [updateRouteWatches, h, andThen, staleNames]

/-- An open listener watches exactly the required routes. -/
theorem find?_updateRouteWatches_eq_none_iff (h : l.closed = false) :
    (l.updateRouteWatches required).1.routeWatches.find? name = none ↔ name ∉ required := by
  rw [updateRouteWatches_of_open h, find?_forEach_watchRoute_eq_none_iff,
    find?_forEach_unwatchRoute]
  show name ∉ required ∧ _ ↔ _
  constructor
  · exact And.left
  · intro hout
    refine ⟨hout, ?_⟩
    split
    · rfl
    · rename_i hkept
      by_contra hw
      exact hkept (mem_staleNames_iff.mpr ⟨hw, hout⟩)

/-- A watch that is still required stays in force. -/
theorem find?_updateRouteWatches_of_mem {watch : RouteWatch} (h : l.closed = false)
    (hm : name ∈ required) (hw : l.routeWatches.find? name = some watch) :
    (l.updateRouteWatches required).1.routeWatches.find? name = some watch := by
  rw [updateRouteWatches_of_open h]
  refine find?_forEach_watchRoute_of_some _ ?_
  rw [find?_forEach_unwatchRoute, if_neg, hw]
  intro hs
  exact (mem_staleNames_iff.mp hs).2 hm

/-- A received route is kept just as long as it is required. -/
theorem Stored.find?_updateRouteWatches (hs : l.Stored) (h : l.closed = false)
    (required : NameSet) (name : String) :
    (l.updateRouteWatches required).1.routes.find? name =
      if name ∈ required then l.routes.find? name else none := by
  rw [updateRouteWatches_of_open h, forEach_watchRoute_routes, hs.find?_forEach_unwatchRoute]
  by_cases hm : name ∈ required
  · simp [mem_staleNames_iff, hm]
  · by_cases hw : l.routeWatches.find? name = none
    · simp [mem_staleNames_iff, hm, hw, hs name hw]
    · simp [mem_staleNames_iff, hm, hw]

end Listener
end MeshRouting
