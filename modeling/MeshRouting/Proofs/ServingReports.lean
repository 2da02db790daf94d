import MeshRouting.Proofs.GenerationCounts

/-!
# Reports of the serving mode

A listener whose configuration is complete serves, has been heard of as ready, and has reported
the serving mode last. It begins to serve only with a complete configuration.
-/
namespace MeshRouting
namespace Listener

variable {l next : Listener} {event : ControlEvent} {set : ChainSet}
  {reports : List (ServingMode × Option String)}

/-- Whoever comes to serve says so last, without an error; whoever goes on serving says nothing. -/
def Tells (l : Listener) (o : Outcome) : Prop :=
  l.reportsMode = true → o.1.mode = .serving →
    (l.mode = .serving ∧ reportsOf o.2 = []) ∨ (reportsOf o.2).getLast? = some (.serving, none)

lemma tells_serveIfComplete (l : Listener) : l.Tells l.serveIfComplete := by
  intro hr hm
  unfold serveIfComplete at hm ⊢
  split
  · rw [reportsOf_switchMode hr]
    split
    · rename_i hstays
      exact .inl ⟨hstays.1, rfl⟩
    · exact .inr rfl
  · rename_i hincomplete
    rw [if_neg hincomplete] at hm
    exact .inl ⟨hm, rfl⟩

lemma tells_checkReady (l : Listener) : l.Tells l.checkReady := by
  cases hg : l.gate with
  | none =>
    have hnone : l.checkReady = (l, []) := by simp [Listener.checkReady, hg]
    rw [hnone]
    exact fun _ hm => .inl ⟨hm, rfl⟩
  | some gate =>
    obtain ⟨-, -, heq⟩ | ⟨-, heq⟩ | ⟨-, -, heq⟩ := checkReady_cases hg
    · rw [heq]
      exact fun _ hm => .inl ⟨hm, rfl⟩
    · rw [heq]
      exact tells_serveIfComplete l
    · have htells := tells_serveIfComplete { l with gate := some { gate with fired := true } }
      have hreports : ∀ generation (l : Listener), reportsOf (l.fire generation).2 = [] :=
        fun _ _ => rfl
      intro hr hm
      rw [heq] at hm ⊢
      simp only [andThen, reportsOf_append, hreports, List.append_nil] at hm ⊢
      exact htells hr hm

lemma prepare_mode (l : Listener) (set : ChainSet) : (l.prepare set).mode = l.mode := by
  rw [prepare_rest]

/-- Every event tells what it comes to. -/
theorem tells_onEvent (l : Listener) (event : ControlEvent) : l.Tells (l.onEvent event) := by
  have htakes := takes_onEvent l event
  generalize l.onEvent event = o at htakes ⊢
  cases htakes with
  | @install _ set ha =>
    obtain ⟨effects, hquiet, heq⟩ := install_eq l set
    have htells := tells_checkReady (l.prepare set)
    intro hr hm
    rw [heq] at hm ⊢
    rw [reportsOf_append, hquiet.reportsOf_eq, List.nil_append, ← prepare_mode l set]
    exact htells ((advances_prepare l set).reportsMode.trans hr) hm
  | @withdraw _ error hw n =>
    obtain ⟨effects, -, heq⟩ := withdraw_eq l error
    intro _ hm
    have hserving : (l.withdraw error).1.mode = .serving := hm
    rw [heq] at hserving
    cases hserving
  | @store name watch hw config =>
    obtain ⟨effects, hquiet, heq⟩ := storeRoute_eq l name config
    have htells := tells_checkReady (l.receive name config)
    intro hr hm
    rw [heq] at hm ⊢
    rw [reportsOf_append, hquiet.reportsOf_eq, List.nil_append]
    exact htells hr hm
  | @lose name watch hw e he =>
    obtain ⟨effects, -, heq⟩ := loseRoute_eq l name e
    intro _ hm
    rw [heq] at hm
    cases hm
  | ignore ha n => exact fun _ hm => .inl ⟨hm, rfl⟩

/-- A listener that reports its mode and serves has reported so last. -/
def Reported (l : Listener) (reports : List (ServingMode × Option String)) : Prop :=
  l.reportsMode = true → l.mode = .serving → reports.getLast? = some (.serving, none)

lemma Reported.onEvent (h : l.Reported reports) (event : ControlEvent) :
    (l.onEvent event).1.Reported (reports ++ reportsOf (l.onEvent event).2) := by
  have hreports : (l.onEvent event).1.reportsMode = l.reportsMode :=
    (advances_onEvent l event).reportsMode
  intro hr hm
  rw [hreports] at hr
  rw [List.getLast?_append]
  obtain ⟨hserving, hnone⟩ | hlast := tells_onEvent l event hr hm
  · rw [hnone, h hr hserving]
    rfl
  · rw [hlast]
    rfl

lemma Reported.perform (h : l.Reported reports) (act : ListenerAct) :
    (l.perform act).1.Reported (reports ++ reportsOf (l.perform act).2) := by
  obtain ⟨event, rest, -, -, heq⟩ | ⟨-, hr, hq⟩ := perform_cases l act
  · have hrest : Reported { l with events := rest } reports := h
    rw [heq]
    exact hrest.onEvent event
  · rw [hq.reportsOf_eq, List.append_nil, hr.rest]
    exact h

end Listener

namespace ListenerRun

theorem reported_of (site : ListenerSite) (acts : List ListenerAct) :
    (of site acts).listener.Reported (of site acts).reports := by
  refine of_induction (fun run => run.listener.Reported run.reports) site ?_ ?_ acts
  · have hmode : (start site).listener.mode = .starting := rfl
    intro _ hm
    rw [hmode] at hm
    cases hm
  · intro run act h
    show (run.listener.perform act).1.Reported (reportsOf (run.effects ++ _))
    rw [reportsOf_append]
    exact h.perform act

lemma reportsMode_of (site : ListenerSite) (acts : List ListenerAct) :
    (of site acts).listener.reportsMode = site.reportsMode :=
  of_induction (fun run => run.listener.reportsMode = site.reportsMode) site rfl
    (fun run act h => (run.listener.follows_perform act).reportsMode.trans h) acts

/-- Whenever chains are installed and all their routes are in the table, the listener serves, the
newest generation has been heard of, and the last report, if modes are reported, is of serving. -/
theorem serves_when_covered (site : ListenerSite) (acts : List ListenerAct) (set : ChainSet)
    (hset : (of site acts).listener.chains = some set)
    (hcovers : (of site acts).listener.Covers set) :
    let run := of site acts
    run.listener.mode = .serving ∧
    run.accepted.length ∈ run.firings ∧
    (site.reportsMode = true → run.reports.getLast? = some (.serving, none)) := by
  intro run
  have hcounts := counts_of site acts
  obtain hw | ⟨other, gate, hi⟩ := hcounts.orderly.state
  · rw [hw.chains] at hset
    cases hset
  · obtain rfl := Option.some.inj (hi.chains.symm.trans hset)
    have hserves : run.listener.mode = .serving := hi.serves hcovers
    have hopened := hcounts.opened gate hi.waits
    refine ⟨hserves, ?_, fun hr => ?_⟩
    · rw [hcounts.length]
      exact hopened.mp (hi.fired_of_covers hcovers)
    · exact reported_of site acts ((reportsMode_of site acts).trans hr) hserves

/-- The only route comes, goes and comes again. -/
def restored : List ListenerAct :=
  [.callback (ListenerSite.loopback.requiring ["a"]), .take,
    .callback (.route "a" 1 (.ok ⟨"first", []⟩)), .take,
    .callback (.route "a" 1 (.error ⟨.resourceNotFound, "gone"⟩)), .take,
    .callback (.route "a" 1 (.ok ⟨"second", []⟩)), .take]

theorem serves_restored :
    ∃ set, (of .loopback restored).listener.chains = some set ∧
      (of .loopback restored).listener.Covers set ∧
      (of .loopback restored).listener.mode = .serving ∧
      (of .loopback restored).accepted.length ∈ (of .loopback restored).firings ∧
      (of .loopback restored).reports.getLast? = some (.serving, none) := by
  have hset : (of .loopback restored).listener.chains =
      some ⟨[⟨"a", {}, .dynamic "a", none⟩], none⟩ := by
    decide
  have hcovers := (Listener.isComplete_eq_true_iff hset).mp (by decide)
  obtain ⟨hserves, hheard, hlast⟩ := serves_when_covered .loopback restored _ hset hcovers
  exact ⟨_, hset, hcovers, hserves, hheard, hlast rfl⟩

end ListenerRun
end MeshRouting
