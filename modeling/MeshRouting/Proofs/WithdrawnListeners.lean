import MeshRouting.Inbound.AcceptQueue
import MeshRouting.Proofs.GenerationCounts
import MeshRouting.Proofs.RoutableConnections

/-!
# Withdrawn listeners

A listener whose resource is removed, or meant for another address, has neither chains nor a gate.
Without a gate no route can let it serve, so it stays as it is until an update is accepted: no
generation becomes ready, and each connection that arrives is closed.
-/
namespace MeshRouting

/-! ### Connections handed out by accept calls -/

def QueueEffect.served? : QueueEffect → Option ServedConnection
  | finished _ (.ok served) => some served
  | _ => none

/-- The connections that are handed out, in order. -/
def servedOf (effects : List QueueEffect) : List ServedConnection :=
  effects.filterMap (·.served?)

@[simp] lemma servedOf_nil : servedOf [] = [] := rfl

@[simp] lemma servedOf_append (effects more : List QueueEffect) :
    servedOf (effects ++ more) = servedOf effects ++ servedOf more := List.filterMap_append

@[simp] lemma servedOf_cons (e : QueueEffect) (effects : List QueueEffect) :
    servedOf (e :: effects) = e.served?.toList ++ servedOf effects :=
  servedOf_append [e] effects

namespace AcceptQueue

variable {l : Listener} {delays : DelayRule} {served : ServedConnection}

lemma servedOf_handOver (q : AcceptQueue) : servedOf q.handOver.2 = [] := by
  unfold handOver
  split <;> rfl

lemma servedOf_effect (effects : List AcceptEffect) : servedOf (effects.map .effect) = [] := by
  induction effects with
  | nil => rfl
  | cons e effects ih => exact ih

lemma exists_handOut_of_take {id attempt : Nat} {arrival : Arrival}
    (h : (l.take delays id attempt arrival).1 = .finished (.ok served)) :
    ∃ c, (l.handOut id c).1 = some served := by
  cases arrival with
  | connection c =>
    refine ⟨c, ?_⟩
    unfold Listener.take at h
    dsimp only at h
    cases hout : (l.handOut id c).1 with
    | none =>
      rw [hout] at h
      cases h
    | some other =>
      rw [hout] at h
      cases h
      rfl
  | failure e =>
    unfold Listener.take at h
    dsimp only at h
    split at h <;> cases h

/-- What a call hands out with an arrival, the listener has handed out. -/
lemma exists_handOut_of_serve {q : AcceptQueue} {call : AcceptCall} {arrival : Arrival}
    {arrivals : List Arrival} {ended : QueueEffect}
    (h : (serve l delays q call arrival arrivals).2 = .error ended)
    (hs : ended.served? = some served) : ∃ id c, (l.handOut id c).1 = some served := by
  unfold serve resume at h
  dsimp only at h
  split at h
  · rename_i result hstep
    cases h
    cases result with
    | ok other =>
      cases hs
      exact ⟨q.taken + 1, exists_handOut_of_take hstep⟩
    | error e => cases hs
  · cases h
  · cases h

lemma servedOf_serve (l : Listener) (delays : DelayRule) (q : AcceptQueue) (call : AcceptCall)
    (arrival : Arrival) (arrivals : List Arrival) :
    servedOf (serve l delays q call arrival arrivals).1.2 = [] := by
  unfold serve
  dsimp only
  rw [servedOf_append, servedOf_handOver, servedOf_effect]
  rfl

/-- A call that ends with a connection has found a listener that hands it out. -/
theorem exists_handOut_of_run (units : Nat) (q : AcceptQueue) (call : AcceptCall)
    (h : served ∈ servedOf (run l delays units q call).2) :
    ∃ id c, (l.handOut id c).1 = some served := by
  induction units generalizing q call with
  | zero => cases h
  | succ units ih =>
    rw [run] at h
    cases hstage : call.stage with
    | asking =>
      rw [hstage] at h
      dsimp only at h
      split at h
      · cases h
      · split at h
        · cases h
        · exact ih _ _ h
    | inLine =>
      rw [hstage] at h
      cases h
    | handed =>
      rw [hstage] at h
      exact ih _ _ h
    | holding =>
      rw [hstage] at h
      dsimp only at h
      split at h
      · cases h
      · rename_i arrival arrivals _
        have hnone := servedOf_serve l delays q call arrival arrivals
        have hserve : ∀ ended, (serve l delays q call arrival arrivals).2 = .error ended →
            ended.served? = some served → ∃ id c, (l.handOut id c).1 = some served :=
          fun _ => exists_handOut_of_serve
        generalize serve l delays q call arrival arrivals = o at h hnone hserve
        obtain ⟨⟨q, effects⟩, ended | call⟩ := o
        · rw [servedOf_append, hnone] at h
          have hended : ended.served? = some served := by simpa using h
          exact hserve ended rfl hended
        · rw [servedOf_append, hnone] at h
          exact ih q call h
    | resting wakeAt =>
      rw [hstage] at h
      dsimp only at h
      split at h
      · cases h
      · exact ih _ _ h

theorem exists_handOut_of_turn (q : AcceptQueue) (number : Nat)
    (h : served ∈ servedOf (q.turn l delays number).2) :
    ∃ id c, (l.handOut id c).1 = some served := by
  unfold turn at h
  split at h
  · cases h
  · exact exists_handOut_of_run _ _ _ h

end AcceptQueue

/-! ### Without a configuration -/

namespace Listener

variable {l next : Listener} {event : ControlEvent} {set : ChainSet} {error : String}

/-- Nothing is installed, and the listener has said so. -/
structure Suspended (l : Listener) : Prop where
  chains : l.chains = none
  gate : l.gate = none
  mode : l.mode = .notServing

lemma Suspended.checkReady (h : l.Suspended) : l.checkReady = (l, []) := by
  simp [Listener.checkReady, h.gate]

lemma suspended_withdraw (l : Listener) (n : Notice) (error : String) :
    (andThen (l.say n) (·.withdraw error)).1.Suspended ∧
      firingsOf (andThen (l.say n) (·.withdraw error)).2 = [] := by
  obtain ⟨effects, hquiet, heq⟩ := withdraw_eq l error
  show (l.withdraw error).1.Suspended ∧ firingsOf ([.notice n] ++ (l.withdraw error).2) = []
  rw [heq]
  refine ⟨⟨?_, ?_, rfl⟩, ?_⟩
  · show l.forget.chains = none
    rw [forget_rest]
  · show l.forget.gate = none
    rw [forget_rest]
  · rw [firingsOf_append, firingsOf_append, (quiet_notice n).firingsOf_eq, hquiet.firingsOf_eq,
      firingsOf_switchMode]
    rfl

/-- Nothing but an accepted update ends the suspension. -/
theorem Suspended.onEvent (h : l.Suspended) (ha : l.accepts? event = none) :
    (l.onEvent event).1.Suspended ∧ firingsOf (l.onEvent event).2 = [] := by
  have htakes := takes_onEvent l event
  generalize l.onEvent event = o at htakes ⊢
  cases htakes with
  | @install _ set hset =>
    rw [ha] at hset
    cases hset
  | withdraw hw n => exact suspended_withdraw l n _
  | @store name watch hw config =>
    obtain ⟨effects, hquiet, heq⟩ := storeRoute_eq l name config
    have hreceived : (l.receive name config).Suspended :=
      ⟨h.chains, by simp [receive, h.gate], h.mode⟩
    rw [heq, hreceived.checkReady, List.append_nil, hquiet.firingsOf_eq]
    exact ⟨hreceived, rfl⟩
  | @lose name watch hw e he =>
    obtain ⟨effects, hquiet, heq⟩ := loseRoute_eq l name e
    rw [heq, firingsOf_append, hquiet.firingsOf_eq, firingsOf_switchMode]
    exact ⟨⟨h.chains, h.gate, rfl⟩, rfl⟩
  | ignore hi n => exact ⟨h, (quiet_notice n).firingsOf_eq⟩

lemma suspended_onEvent (hw : l.withdraws? event = some error) :
    (l.onEvent event).1.Suspended ∧ firingsOf (l.onEvent event).2 = [] := by
  obtain ⟨n, heq⟩ := onEvent_of_withdraws hw
  rw [heq]
  exact suspended_withdraw l n error

lemma Suspended.rests (h : l.Suspended) (hr : l.Rests next) : next.Suspended := by
  rw [hr.rest]
  exact ⟨h.chains, h.gate, h.mode⟩

theorem Suspended.perform (h : l.Suspended) {act : ListenerAct}
    (ha : (l.taken? act).bind l.accepts? = none) :
    (l.perform act).1.Suspended ∧ firingsOf (l.perform act).2 = [] := by
  obtain ⟨event, rest, ht, -, heq⟩ | ⟨-, hr, hq⟩ := perform_cases l act
  · have hrest : Suspended { l with events := rest } := ⟨h.chains, h.gate, h.mode⟩
    rw [ht] at ha
    rw [heq]
    exact hrest.onEvent ha
  · exact ⟨h.rests hr, hq.firingsOf_eq⟩

lemma suspended_perform {act : ListenerAct}
    (hw : (l.taken? act).bind l.withdraws? = some error) :
    (l.perform act).1.Suspended ∧ firingsOf (l.perform act).2 = [] := by
  obtain ⟨event, rest, ht, -, heq⟩ | ⟨ht, -, -⟩ := perform_cases l act
  · rw [ht] at hw
    have hrest : withdraws? { l with events := rest } event = some error := hw
    rw [heq]
    exact suspended_onEvent hrest
  · rw [ht] at hw
    cases hw

lemma Suspended.handOut (h : l.Suspended) (id : Nat) (c : Connection) :
    (l.handOut id c).1 = none := by
  cases hout : (l.handOut id c).1 with
  | none => rfl
  | some served =>
    have hm := (handOut_eq_some hout).1
    rw [h.mode] at hm
    cases hm

lemma Suspended.servedOf_turn (h : l.Suspended) (q : AcceptQueue) (delays : DelayRule)
    (number : Nat) : servedOf (q.turn l delays number).2 = [] := by
  refine List.eq_nil_iff_forall_not_mem.mpr fun served hm => ?_
  obtain ⟨id, c, hout⟩ := AcceptQueue.exists_handOut_of_turn q number hm
  rw [h.handOut] at hout
  cases hout

end Listener

namespace ListenerRun

lemma accepted_length_le_extend (run : ListenerRun) (more : List ListenerAct) :
    run.accepted.length ≤ (run.extend more).accepted.length := by
  induction more generalizing run with
  | nil => exact le_rfl
  | cons act more ih =>
    have hnext : run.accepted.length ≤ (run.next act).accepted.length := by
      rw [accepted_next, List.length_append]
      exact Nat.le_add_right _ _
    exact hnext.trans (ih _)

/-- A suspended listener stays so while no update is accepted. -/
theorem suspended_extend {run : ListenerRun} (h : run.listener.Suspended)
    (more : List ListenerAct)
    (ha : (run.extend more).accepted.length = run.accepted.length) :
    (run.extend more).listener.Suspended ∧ (run.extend more).firings = run.firings := by
  induction more using List.reverseRecOn with
  | nil => exact ⟨h, rfl⟩
  | append_singleton more act ih =>
    have hmore := accepted_length_le_extend run more
    rw [extend_append] at ha ⊢
    generalize run.extend more = now at ih ha hmore ⊢
    have hlength : (now.next act).accepted.length = run.accepted.length := ha
    rw [accepted_next, List.length_append] at hlength
    obtain ⟨hsuspended, hfirings⟩ := ih (by omega)
    have hnone : (now.listener.taken? act).bind now.listener.accepts? = none := by
      cases hset : (now.listener.taken? act).bind now.listener.accepts? with
      | none => rfl
      | some set =>
        rw [hset, Option.toList_some, List.length_singleton] at hlength
        omega
    obtain ⟨hnext, hquiet⟩ := hsuspended.perform hnone
    refine ⟨hnext, ?_⟩
    show (now.next act).firings = _
    rw [firings_next, hquiet, List.append_nil, hfirings]

/-- From a removal, or an update for another address, until an update is accepted the listener does
not serve and has no chains, no generation becomes ready, and no accept call ends with a
connection, whatever else is taken from the queue and whatever arrives at the socket. -/
theorem withdrawn_until_accepted (site : ListenerSite) (acts more : List ListenerAct)
    (act : ListenerAct) (error : String)
    (hw : ((of site acts).listener.taken? act).bind (of site acts).listener.withdraws? =
      some error)
    (ha : (((of site acts).next act).extend more).accepted.length =
      ((of site acts).next act).accepted.length) :
    let run := of site acts
    let now := (run.next act).extend more
    now.listener.mode = .notServing ∧ now.listener.chains = none ∧ now.firings = run.firings ∧
    (∀ id c, (now.listener.handOut id c).1 = none) ∧
    ∀ (queue : AcceptQueue) delays number,
      servedOf (queue.turn now.listener delays number).2 = [] := by
  intro run now
  obtain ⟨hsuspended, hquiet⟩ := Listener.suspended_perform hw
  have hnext : (run.next act).listener.Suspended := hsuspended
  obtain ⟨hnow, hfirings⟩ := suspended_extend hnext more ha
  refine ⟨hnow.mode, hnow.chains, ?_, hnow.handOut, hnow.servedOf_turn⟩
  rw [hfirings, firings_next, hquiet, List.append_nil]

/-- The listener serves, and waits for route `b` of a second generation, when a removal is queued
and then the route. -/
def removedWhileServing : List ListenerAct :=
  [.callback (ListenerSite.loopback.requiring ["a"]), .take,
    .callback (.route "a" 1 (.ok ⟨"a", []⟩)), .take,
    .callback (ListenerSite.loopback.requiring ["a", "b"]), .take,
    .callback (.listener (.error ⟨.resourceNotFound, "gone"⟩)),
    .callback (.route "b" 2 (.ok ⟨"b", []⟩))]

/-- The queued route is taken, then some trouble, an update for another port and a late route. -/
def afterRemoval : List ListenerAct :=
  [.take, .callback (.listener (.error ⟨.other, "reset"⟩)), .take,
    .callback (.listener (.ok ⟨ListenerSite.loopback.address.ip, 9090, [], none⟩)), .take,
    .callback (.route "a" 1 (.ok ⟨"again", []⟩)), .take]

theorem removed_while_serving :
    (of .loopback removedWhileServing).listener.mode = .serving ∧
    (((of .loopback removedWhileServing).next .take).extend afterRemoval).taken.length = 8 ∧
    (((of .loopback removedWhileServing).next .take).extend afterRemoval).listener.mode =
      .notServing ∧
    (((of .loopback removedWhileServing).next .take).extend afterRemoval).firings = [1] ∧
    servedOf (AcceptQueue.turn
      (((of .loopback removedWhileServing).next .take).extend afterRemoval).listener
      (.scripted []) { arrivals := [.connection localConnection], calls := [⟨0, 0, .holding⟩] }
      0).2 = [] := by
  have hserving : (of .loopback removedWhileServing).listener.mode = .serving := by decide
  have hfirings : (of .loopback removedWhileServing).firings = [1] := by decide
  have hw : ((of .loopback removedWhileServing).listener.taken? .take).bind
      (of .loopback removedWhileServing).listener.withdraws? =
        some (WatchError.text ⟨.resourceNotFound, "gone"⟩) := by rfl
  have ha : (((of .loopback removedWhileServing).next .take).extend afterRemoval).accepted.length =
      ((of .loopback removedWhileServing).next .take).accepted.length := by decide
  obtain ⟨hmode, -, hsame, -, hserved⟩ :=
    withdrawn_until_accepted .loopback removedWhileServing afterRemoval .take _ hw ha
  exact ⟨hserving, by decide, hmode, hsame.trans hfirings, hserved _ _ _⟩

end ListenerRun
end MeshRouting
