import MeshRouting.Inbound.Server
import MeshRouting.Proofs.AcceptRuns

/-!
# Turns as acts

What a server does in its turns while one accept call at most is at its socket is a run of acts: a
turn of the call is some units of work, a turn of the control loop takes some events.
-/
namespace MeshRouting

/-- Work of the call or of the control loop, as opposed to what comes from outside. -/
def AcceptAct.IsWork : AcceptAct → Prop
  | work _ | take => True
  | accept _ | arrive _ | advance _ | callback _ => False

namespace AcceptRun

variable {run : AcceptRun} {server : InboundServer}

/-- The run is at the listener and at the socket of the server. -/
structure Mirrors (run : AcceptRun) (server : InboundServer) : Prop where
  listener : run.listener = server.listener
  queue : run.queue = server.queue

/-- Work alone comes to where the server is after some turns. -/
def Reaches (run : AcceptRun) (server after : InboundServer) : Prop :=
  after.delays = server.delays ∧ ∃ acts : List AcceptAct, (∀ act ∈ acts, act.IsWork) ∧
    (run.extend server.delays acts).Mirrors after

lemma Sound.takeEvents (h : run.Sound) (delays : DelayRule) (count : Nat) :
    (run.extend delays (List.replicate count .take)).listener =
        (Listener.takeEvents count run.listener).1 ∧
      (run.extend delays (List.replicate count .take)).queue = run.queue := by
  induction count generalizing run with
  | zero => exact ⟨rfl, rfl⟩
  | succ count ih =>
    have htaken : (run.next delays .take).listener = run.listener.takeEvent.1 := by
      show (if run.listener.exited then (run.listener, []) else run.listener.takeEvent).1 = _
      rw [h.running]
      rfl
    obtain ⟨hlistener, hqueue⟩ := ih (h.next delays .take).1
    rw [htaken] at hlistener
    exact ⟨hlistener, hqueue⟩

theorem Sound.reaches_turn (h : run.Sound) (hm : run.Mirrors server) (runner : Runner) :
    run.Reaches server (server.turn runner).1 := by
  cases runner with
  | control =>
    let count := min server.listener.events.length Schedule.allowance
    obtain ⟨hlistener, hqueue⟩ := h.takeEvents server.delays count
    have hturn : (server.turn .control).1.delays = server.delays ∧
        (server.turn .control).1.listener = (Listener.takeEvents count server.listener).1 ∧
        (server.turn .control).1.queue = server.queue := by
      simp only [InboundServer.turn, InboundServer.controlTurn]
      split <;> exact ⟨rfl, rfl, rfl⟩
    refine ⟨hturn.1, List.replicate count .take, ?_, ?_, ?_⟩
    · intro act hact
      rw [(List.mem_replicate.mp hact).2]
      trivial
    · rw [hlistener, hm.listener, hturn.2.1]
    · rw [hqueue, hm.queue, hturn.2.2]
  | call number =>
    have hnext : (server.turn (.call number)).1.listener = run.listener := hm.listener.symm
    have hqueue : (server.turn (.call number)).1.queue =
        (run.queue.turn run.listener server.delays number).1 := by
      rw [hm.listener, hm.queue]
      rfl
    by_cases hfound : ∃ call, run.queue.calls = [call] ∧ call.number = number
    · obtain ⟨call, hcalls, rfl⟩ := hfound
      refine ⟨rfl, [.work Schedule.allowance], by simp [AcceptAct.IsWork], ?_, ?_⟩
      · rw [hnext]
        exact work_listener run server.delays Schedule.allowance
      · rw [hqueue]
        exact work_allowance server.delays hcalls
    · have hnone : run.queue.turn run.listener server.delays number = (run.queue, []) := by
        rcases h.attended with ⟨hcalls, -⟩ | ⟨call, record, hcalls, -, -⟩
        · simp [AcceptQueue.turn, hcalls]
        · have hne : call.number ≠ number := fun he => hfound ⟨call, hcalls, he⟩
          simp [AcceptQueue.turn, hcalls, hne]
      refine ⟨rfl, [], by simp, hnext.symm, ?_⟩
      rw [hqueue, hnone]
      rfl

/-- However many turns a server takes, some acts come to the same. -/
theorem Sound.reaches_takeTurns (h : run.Sound) (hm : run.Mirrors server) (count : Nat) :
    run.Reaches server (InboundServer.takeTurns count server).1 := by
  induction count generalizing run server with
  | zero => exact ⟨rfl, [], by simp, hm⟩
  | succ count ih =>
    unfold InboundServer.takeTurns
    split
    · exact ⟨rfl, [], by simp, hm⟩
    · rename_i runner schedule hnext
      let chosen : InboundServer := { server with schedule }
      have hchosen : run.Mirrors chosen := ⟨hm.listener, hm.queue⟩
      obtain ⟨hdelays, acts, hacts, hturn⟩ := h.reaches_turn hchosen runner
      obtain ⟨hsame, more, hmore, hlast⟩ := ih (h.extend server.delays acts).1 hturn
      refine ⟨hsame.trans hdelays, acts ++ more, ?_, ?_⟩
      · intro act hact
        exact (List.mem_append.mp hact).elim (hacts act) (hmore act)
      · rw [extend_append]
        rw [hdelays] at hlast
        exact hlast

/-- A server that is not closed settles by acts. -/
theorem Sound.reaches_settle (h : run.Sound) (hm : run.Mirrors server) :
    run.Reaches server server.settle.1 := by
  have hopen : server.listener.closed = false := hm.listener ▸ h.unclosed
  have hbegun : run.Mirrors { server with schedule := { server.schedule with served := 0 } } :=
    ⟨hm.listener, hm.queue⟩
  unfold InboundServer.settle
  rw [hopen]
  exact h.reaches_takeTurns hbegun server.turnsLeft

end AcceptRun
end MeshRouting
