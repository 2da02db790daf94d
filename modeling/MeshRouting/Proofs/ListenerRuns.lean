import MeshRouting.Proofs.InstalledChains
import Mathlib.Data.List.Induction

/-!
# Runs of a listener

A watch that has been started may call back at any time, also late, after it has ended. What it
delivers is queued, and the control loop takes it in order, until it finds the listener closed at
some time after the closing. A run keeps the events that were taken and all effects.
-/
namespace MeshRouting

inductive ListenerAct where
  | callback (event : ControlEvent)
  | take
  | close
  | exit
  deriving Repr

namespace Listener

variable {l next : Listener} {act : ListenerAct} {event : ControlEvent}

/-- Route watches are numbered as they start. -/
def HasStarted (l : Listener) : ControlEvent → Prop
  | .listener _ => True
  | .route _ watch _ => watch ≤ l.lastWatch

instance (l : Listener) (event : ControlEvent) : Decidable (l.HasStarted event) :=
  match event with
  | .listener _ => inferInstanceAs (Decidable True)
  | .route _ watch _ => inferInstanceAs (Decidable (watch ≤ l.lastWatch))

/-- One act with its effects. Nobody calls back who was not started, and a loop that has ended
takes nothing. -/
def perform (l : Listener) : ListenerAct → Outcome
  | .callback event => (if l.HasStarted event then l.enqueue event else l, [])
  | .take => if l.exited then (l, []) else l.takeEvent
  | .close => l.close
  | .exit => l.exit

/-- The event that an act takes from the queue. -/
def taken? (l : Listener) : ListenerAct → Option ControlEvent
  | .take => if l.exited then none else l.events.head?
  | .callback _ | .close | .exit => none

/-- Only the queue, the ends and the watches have changed: these are kept or all ended. The
ready signal may have come to its end. -/
structure Rests (l next : Listener) : Prop where
  rest : next = { l with
    client := next.client
    listenerWatch := next.listenerWatch
    routeWatches := next.routeWatches
    ready := next.ready
    events := next.events
    closed := next.closed
    exited := next.exited }
  watches : (next.closed = l.closed ∧ next.routeWatches = l.routeWatches) ∨
    (next.closed = true ∧ next.routeWatches = .empty)
  queued : ∀ event ∈ next.events, event ∈ l.events ∨ l.HasStarted event
  latest : next.ready.latest = l.ready.latest

lemma rests_enqueue (hs : l.HasStarted event) : l.Rests (l.enqueue event) := by
  unfold enqueue
  split
  · exact ⟨rfl, .inl ⟨rfl, rfl⟩, fun _ => .inl, rfl⟩
  · refine ⟨rfl, .inl ⟨rfl, rfl⟩, fun other hm => ?_, rfl⟩
    rcases List.mem_append.mp hm with hm | hm
    · exact .inl hm
    · exact .inr (List.mem_singleton.mp hm ▸ hs)

lemma rests_close (l : Listener) : l.Rests l.close.1 := by
  unfold Listener.close
  split
  · exact ⟨rfl, .inl ⟨rfl, rfl⟩, fun _ => .inl, rfl⟩
  · exact ⟨rfl, .inr ⟨rfl, rfl⟩, fun _ => .inl, rfl⟩

lemma closed_close (l : Listener) : l.close.1.closed = true := by
  unfold Listener.close
  split
  · rename_i hclosed
    exact hclosed
  · rfl

lemma quiet_close (l : Listener) : Quiet l.close.2 := by
  unfold Listener.close
  split
  · exact quiet_nil
  · exact quiet_notice _

lemma rests_exit (l : Listener) : l.Rests l.exit.1 := by
  unfold Listener.exit
  split
  · exact ⟨rfl, .inl ⟨rfl, rfl⟩, fun _ => .inl, rfl⟩
  · exact ⟨rfl, .inl ⟨rfl, rfl⟩, fun _ => .inl, rfl⟩

lemma quiet_exit (l : Listener) : Quiet l.exit.2 := by
  unfold Listener.exit
  split
  · exact quiet_notice _
  · exact quiet_nil

/-- An act takes the event in front, or takes none and does not touch the configuration. -/
theorem perform_cases (l : Listener) (act : ListenerAct) :
    (∃ event rest, l.taken? act = some event ∧ l.events = event :: rest ∧
      l.perform act = { l with events := rest }.onEvent event) ∨
    (l.taken? act = none ∧ l.Rests (l.perform act).1 ∧ Quiet (l.perform act).2) := by
  have hself : l.Rests l := ⟨rfl, .inl ⟨rfl, rfl⟩, fun _ => .inl, rfl⟩
  cases act with
  | callback event =>
    refine .inr ⟨rfl, ?_, quiet_nil⟩
    show l.Rests (if l.HasStarted event then l.enqueue event else l)
    split
    · rename_i hs
      exact rests_enqueue hs
    · exact hself
  | take =>
    cases hx : l.exited with
    | true =>
      refine .inr ⟨by simp [taken?, hx], ?_, ?_⟩
      · simpa [perform, hx] using hself
      · simpa [perform, hx] using quiet_nil
    | false =>
      cases he : l.events with
      | nil =>
        refine .inr ⟨by simp [taken?, he], ?_, ?_⟩
        · simpa [perform, takeEvent, hx, he] using hself
        · simpa [perform, takeEvent, hx, he] using quiet_nil
      | cons event rest =>
        refine .inl ⟨event, rest, by simp [taken?, hx, he], rfl, ?_⟩
        simp [perform, takeEvent, hx, he]
  | close => exact .inr ⟨rfl, rests_close l, quiet_close l⟩
  | exit => exact .inr ⟨rfl, rests_exit l, quiet_exit l⟩

/-- An act of the loop that takes nothing at most adds to the queue, or ends the loop of a closed
listener. -/
lemma perform_idle (hc : act ≠ .close) (ht : l.taken? act = none) :
    (∃ events, l.perform act = ({ l with events }, [])) ∨
    (l.closed = true ∧ l.perform act = ({ l with exited := true, ready := l.ready.finish },
      [.notice (.controlExited l.address)])) := by
  cases act with
  | callback event =>
    refine .inl ?_
    show ∃ events, ((if l.HasStarted event then l.enqueue event else l), []) = _
    unfold enqueue
    split
    · split
      · exact ⟨l.events, rfl⟩
      · exact ⟨_, rfl⟩
    · exact ⟨l.events, rfl⟩
  | take =>
    refine .inl ⟨l.events, ?_⟩
    show (if l.exited then (l, []) else l.takeEvent) = (l, [])
    split
    · rfl
    · rename_i hx
      have hnil : l.events = [] := by simpa [taken?, hx] using ht
      rw [takeEvent, hnil]
  | close => exact absurd rfl hc
  | exit =>
    show (∃ events, l.exit = _) ∨ (_ ∧ l.exit = _)
    unfold Listener.exit
    split
    · rename_i hx
      exact .inr ⟨(Bool.and_eq_true_iff.mp hx).1, rfl⟩
    · exact .inl ⟨l.events, rfl⟩

/-- The route watches in force, and the given ones once the listener is closed. -/
def heldWatches (l : Listener) (watches : NameMap RouteWatch) : NameMap RouteWatch :=
  if l.closed then watches else l.routeWatches

lemma heldWatches_of_open (h : l.closed = false) (watches : NameMap RouteWatch) :
    l.heldWatches watches = l.routeWatches := by
  rw [heldWatches, h]
  rfl

lemma heldWatches_of_closed (h : l.closed = true) (watches : NameMap RouteWatch) :
    l.heldWatches watches = watches :=
  if_pos h

/-- The place of the listener is the same, watches have been given on, and what is closed has not
been opened. -/
structure Follows (l next : Listener) : Prop where
  address : next.address = l.address
  reportsMode : next.reportsMode = l.reportsMode
  upward : l.lastWatch ≤ next.lastWatch
  closed : next.closed = false → l.closed = false

theorem follows_perform (l : Listener) (act : ListenerAct) : l.Follows (l.perform act).1 := by
  obtain ⟨event, rest, -, -, heq⟩ | ⟨-, hr, -⟩ := perform_cases l act
  · have hadvances := advances_onEvent { l with events := rest } event
    rw [heq]
    exact ⟨hadvances.address, hadvances.reportsMode, hadvances.upward, hadvances.closed.symm.trans⟩
  · refine ⟨by rw [hr.rest], by rw [hr.rest], by rw [hr.rest], fun hopen => ?_⟩
    rcases hr.watches with ⟨hsame, -⟩ | ⟨hclosed, -⟩
    · exact hsame.symm.trans hopen
    · rw [hclosed] at hopen
      cases hopen

lemma Installed.rests {set : ChainSet} {gate : ReadinessGate} (h : l.Installed set gate)
    (hr : l.Rests next) : next.Installed set gate := by
  rw [hr.rest]
  exact ⟨⟨h.chains, h.waits, h.generation, h.missing, h.spent, h.held⟩, h.opened, h.serves⟩

lemma Orderly.rests (h : l.Orderly) (hr : l.Rests next) : next.Orderly := by
  have hchains : next.chains = l.chains := by rw [hr.rest]
  have hroutes : next.routes = l.routes := by rw [hr.rest]
  refine ⟨?_, ?_, ?_, ?_⟩
  · rcases h.state with hw | ⟨set, gate, hi⟩
    · refine .inl ?_
      rw [hr.rest]
      exact ⟨hw.chains, hw.gate, hw.mode⟩
    · exact .inr ⟨set, gate, hi.rests hr⟩
  · intro name hw
    rw [hchains]
    rcases hr.watches with ⟨-, hsame⟩ | ⟨-, hnone⟩
    · exact h.watching.required name (hsame ▸ hw)
    · rw [hnone] at hw
      exact absurd rfl hw
  · intro hopen
    rcases hr.watches with ⟨hclosed, hsame⟩ | ⟨hclosed, -⟩
    · intro name
      rw [hsame, hroutes]
      exact h.watching.stored (hclosed ▸ hopen) name
    · rw [hclosed] at hopen
      cases hopen
  · intro hclosed name
    rcases hr.watches with ⟨hends, hsame⟩ | ⟨-, hnone⟩
    · rw [hsame]
      exact h.watching.ended (hends ▸ hclosed) name
    · rw [hnone]
      rfl

lemma Installed.withEvents {set : ChainSet} {gate : ReadinessGate} (h : l.Installed set gate)
    (rest : List ControlEvent) : Installed { l with events := rest } set gate :=
  ⟨⟨h.chains, h.waits, h.generation, h.missing, h.spent, h.held⟩, h.opened, h.serves⟩

/-- Without the event in front the state is in the same order. -/
lemma Orderly.withEvents (h : l.Orderly) (rest : List ControlEvent) :
    Orderly { l with events := rest } := by
  obtain ⟨hstate, hwatching⟩ := h
  refine ⟨?_, ⟨hwatching.required, hwatching.stored, hwatching.ended⟩⟩
  rcases hstate with hw | ⟨set, gate, hi⟩
  · exact .inl ⟨hw.chains, hw.gate, hw.mode⟩
  · exact .inr ⟨set, gate, hi.withEvents rest⟩

theorem Orderly.perform (h : l.Orderly) (act : ListenerAct) : (l.perform act).1.Orderly := by
  obtain ⟨event, rest, -, -, heq⟩ | ⟨-, hr, -⟩ := perform_cases l act
  · rw [heq]
    exact (h.withEvents rest).onEvent event
  · exact h.rests hr

lemma orderly_start (client : Registry WatchOwner) (address : Endpoint) (resource : String)
    (reportsMode : Bool) : (start client address resource reportsMode).1.Orderly where
  state := .inl ⟨rfl, rfl, nofun⟩
  watching := ⟨fun _ hw => absurd rfl hw, fun _ _ _ => rfl, nofun⟩

end Listener

/-- What a listener is started with. -/
structure ListenerSite where
  client : Registry WatchOwner
  address : Endpoint
  resource : String
  reportsMode : Bool

namespace ListenerSite

/-- A new client at port 8080 of the local host. -/
def loopback : ListenerSite := ⟨.empty, ⟨.v4 0x7F000001, 8080, 0⟩, "inbound", true⟩

/-- The delivery of an update that needs the given routes, with one chain for each. -/
def requiring (site : ListenerSite) (names : List String) : ControlEvent :=
  .listener (.ok
    { ip := site.address.ip
      port := site.address.port
      chains := names.map fun name => ⟨name, {}, .dynamic name, none⟩
      fallback := none })

end ListenerSite

/-- `watches` are the route watches in force; once the listener is closed, those that were in force
when it was. -/
structure ListenerRun where
  listener : Listener
  taken : List ControlEvent
  effects : List ListenerEffect
  watches : NameMap RouteWatch

namespace ListenerRun

def start (site : ListenerSite) : ListenerRun :=
  let (listener, effects) :=
    Listener.start site.client site.address site.resource site.reportsMode
  ⟨listener, [], effects, listener.routeWatches⟩

def next (run : ListenerRun) (act : ListenerAct) : ListenerRun :=
  let (listener, effects) := run.listener.perform act
  { listener
    taken := run.taken ++ (run.listener.taken? act).toList
    effects := run.effects ++ effects
    watches := listener.heldWatches run.watches }

def extend (run : ListenerRun) (acts : List ListenerAct) : ListenerRun := acts.foldl next run

def of (site : ListenerSite) (acts : List ListenerAct) : ListenerRun := (start site).extend acts

def firings (run : ListenerRun) : List Nat := firingsOf run.effects

def reports (run : ListenerRun) : List (ServingMode × Option String) := reportsOf run.effects

lemma extend_append (run : ListenerRun) (acts more : List ListenerAct) :
    run.extend (acts ++ more) = (run.extend acts).extend more := List.foldl_append

/-- What holds at the start and is kept by every act holds after every run. -/
theorem of_induction (kept : ListenerRun → Prop) (site : ListenerSite) (hstart : kept (start site))
    (hnext : ∀ run act, kept run → kept (run.next act)) (acts : List ListenerAct) :
    kept (of site acts) := by
  induction acts using List.reverseRecOn with
  | nil => exact hstart
  | append_singleton acts act ih =>
    rw [of, extend_append]
    exact hnext _ act ih

lemma next_of (site : ListenerSite) (acts : List ListenerAct) (act : ListenerAct) :
    (of site acts).next act = of site (acts ++ [act]) :=
  (extend_append (start site) acts [act]).symm

lemma orderly_extend {run : ListenerRun} (h : run.listener.Orderly) (more : List ListenerAct) :
    (run.extend more).listener.Orderly := by
  induction more generalizing run with
  | nil => exact h
  | cons act more ih =>
    have hnext : (run.next act).listener.Orderly := h.perform act
    exact ih hnext

/-- What a closed listener does later does not matter to what was in force when it was closed. -/
lemma watches_extend_of_closed {run : ListenerRun} (h : run.listener.closed = true)
    (more : List ListenerAct) : (run.extend more).watches = run.watches := by
  induction more generalizing run with
  | nil => rfl
  | cons act more ih =>
    have hclosed : (run.next act).listener.closed = true := by
      cases hc : (run.next act).listener.closed with
      | true => rfl
      | false => exact absurd ((run.listener.follows_perform act).closed hc) (by simp [h])
    exact (ih hclosed).trans (Listener.heldWatches_of_closed hclosed run.watches)

end ListenerRun
end MeshRouting
