import MeshRouting.Inbound.Accept
import MeshRouting.Proofs.ServingReports

/-!
# Routable connections

A listener that serves has chains installed, and a connection it hands out has matched one of
them. The connection has a route configuration if the table has all routes of the chains, which is
so just if the newest generation has been heard of. A listener that serves goes on serving when an
update installs chains with other routes, and hands connections out before these have come.
-/
namespace MeshRouting

lemma ChainSet.mem_all_of_lookup {set : ChainSet} {localEnd remoteEnd : Endpoint}
    {chain : FilterChain} (h : set.lookup localEnd remoteEnd = some chain) : chain ∈ set.all := by
  rw [lookup] at h
  rcases Option.or_eq_some_iff.mp h with hfound | ⟨-, hfallback⟩
  · exact List.mem_append_left _ (List.mem_of_find?_eq_some hfound)
  · exact List.mem_append_right _ (Option.mem_toList.mpr hfallback)

namespace Listener

variable {l next : Listener} {event : ControlEvent} {set : ChainSet} {gate : ReadinessGate}
  {id : Nat} {c : Connection} {served : ServedConnection}

/-! ### Connections -/

/-- A connection is handed out while the listener serves, and has matched an installed chain. -/
lemma handOut_eq_some (h : (l.handOut id c).1 = some served) :
    l.mode = .serving ∧ ∃ set, l.chains = some set ∧ served.chain ∈ set.all := by
  unfold handOut at h
  split at h
  · cases h
  · rename_i hm
    refine ⟨not_not.mp hm, ?_⟩
    split at h
    · cases h
    · split at h
      · cases h
      · rename_i chain hchain
        cases h
        obtain ⟨set, hset, hlookup⟩ := Option.bind_eq_some_iff.mp hchain
        exact ⟨set, hset, ChainSet.mem_all_of_lookup hlookup⟩

lemma Covers.routeConfig?_ne_none (h : l.Covers set) (hm : served.chain ∈ set.all) :
    l.routeConfig? served ≠ none := by
  unfold routeConfig?
  split
  · simp
  · rename_i name hroute
    exact h name (ChainSet.mem_routeNames_iff.mpr ⟨served.chain, hm, hroute⟩)

/-- A listener that serves has chains with all their routes, so that each connection it hands out
has a route configuration. -/
structure Routable (l : Listener) : Prop where
  covered : l.mode = .serving → ∃ set, l.chains = some set ∧ l.Covers set
  resolved : ∀ id c served, (l.handOut id c).1 = some served → l.routeConfig? served ≠ none

lemma routable_of_covered (h : l.mode = .serving → ∃ set, l.chains = some set ∧ l.Covers set) :
    l.Routable := by
  refine ⟨h, fun id c served hout => ?_⟩
  obtain ⟨hm, set, hset, hmem⟩ := handOut_eq_some hout
  obtain ⟨other, hother, hcovers⟩ := h hm
  obtain rfl := Option.some.inj (hset.symm.trans hother)
  exact hcovers.routeConfig?_ne_none hmem

/-! ### Coming to serve -/

lemma serveIfComplete_mode (l : Listener) : l.serveIfComplete.1.mode = l.mode ∨
    (l.isComplete = true ∧ l.serveIfComplete.1.mode = .serving) := by
  rw [serveIfComplete_listener]
  cases hc : l.isComplete with
  | false => exact .inl rfl
  | true => exact .inr ⟨rfl, rfl⟩

/-- Looking at the gate lets a listener serve that has all routes, and changes no mode else. -/
lemma checkReady_mode (l : Listener) : l.checkReady.1.mode = l.mode ∨
    (l.isComplete = true ∧ l.checkReady.1.mode = .serving) := by
  cases hg : l.gate with
  | none => exact .inl (by simp [checkReady, hg])
  | some gate =>
    obtain ⟨-, -, heq⟩ | ⟨-, heq⟩ | ⟨-, -, heq⟩ := checkReady_cases hg
    · rw [heq]
      exact .inl rfl
    · rw [heq]
      exact serveIfComplete_mode l
    · rw [heq]
      exact serveIfComplete_mode { l with gate := some { gate with fired := true } }

lemma isComplete_checkReady (l : Listener) : l.checkReady.1.isComplete = l.isComplete := by
  rw [checkReady_rest]
  rfl

/-- Only with a complete configuration does an event let a listener serve. -/
lemma serving_onEvent (hm : (l.onEvent event).1.mode = .serving) :
    l.mode = .serving ∨ (l.onEvent event).1.isComplete = true := by
  have htakes := takes_onEvent l event
  generalize l.onEvent event = o at htakes hm ⊢
  cases htakes with
  | @install _ set ha =>
    obtain ⟨effects, -, heq⟩ := install_eq l set
    rw [heq] at hm ⊢
    rw [isComplete_checkReady]
    obtain hsame | ⟨hcomplete, -⟩ := checkReady_mode (l.prepare set)
    · exact .inl ((prepare_mode l set).symm.trans (hsame.symm.trans hm))
    · exact .inr hcomplete
  | @withdraw _ error hw n =>
    obtain ⟨effects, -, heq⟩ := withdraw_eq l error
    have hserving : (l.withdraw error).1.mode = .serving := hm
    rw [heq] at hserving
    cases hserving
  | @store name watch hw config =>
    obtain ⟨effects, -, heq⟩ := storeRoute_eq l name config
    rw [heq] at hm ⊢
    rw [isComplete_checkReady]
    obtain hsame | ⟨hcomplete, -⟩ := checkReady_mode (l.receive name config)
    · exact .inl (hsame.symm.trans hm)
    · exact .inr hcomplete
  | @lose name watch hw e he =>
    obtain ⟨effects, -, heq⟩ := loseRoute_eq l name e
    rw [heq] at hm
    cases hm
  | ignore ha n => exact .inl hm

/-- A listener that serves goes on serving with the chains of a new update. -/
lemma serving_of_accepts (ha : l.accepts? event = some set) (hm : l.mode = .serving) :
    (l.onEvent event).1.mode = .serving := by
  have htakes := takes_onEvent l event
  generalize l.onEvent event = o at htakes ⊢
  cases htakes with
  | @install _ other hother =>
    obtain ⟨effects, -, heq⟩ := install_eq l other
    rw [heq]
    obtain hsame | ⟨-, hserving⟩ := checkReady_mode (l.prepare other)
    · exact hsame.trans ((prepare_mode l other).trans hm)
    · exact hserving
  | withdraw hw n =>
    rw [accepts?_eq_none hw] at ha
    cases ha
  | store hw config => cases ha
  | lose hw he => cases ha
  | ignore hi n =>
    rw [hi.accepts] at ha
    cases ha

/-! ### Going on -/

/-- A listener stays routable, if the chains of an update that is accepted while it serves have all
their routes at once. -/
lemma Routable.onEvent (hr : l.Routable) (h : l.Orderly)
    (hnew : ∀ set, l.accepts? event = some set → l.mode = .serving →
      (l.onEvent event).1.Covers set) :
    (l.onEvent event).1.Routable := by
  refine routable_of_covered fun hm => ?_
  have hbefore := serving_onEvent hm
  cases h.turns event with
  | begins ha hi =>
    refine ⟨_, hi.chains, ?_⟩
    rcases hbefore with hserving | hcomplete
    · exact hnew _ ha hserving
    · exact (isComplete_eq_true_iff hi.chains).mp hcomplete
  | ends _ _ hw => exact absurd hm hw.mode
  | goesOn _ _ hb hi _ _ hout =>
    refine ⟨_, hi.chains, ?_⟩
    rcases hbefore with hserving | hcomplete
    · obtain ⟨set, hset, hcovers⟩ := hr.covered hserving
      obtain rfl := Option.some.inj (hb.chains.symm.trans hset)
      have hfired := hb.stays_fired hi hout (hb.fired_of_covers hcovers)
      exact (hi.covers_iff hm).mpr hfired
    · exact (isComplete_eq_true_iff hi.chains).mp hcomplete
  | idles _ _ hw hsame =>
    rw [hsame] at hm
    exact absurd hm hw.mode

lemma Routable.perform (hr : l.Routable) (h : l.Orderly) (act : ListenerAct)
    (hnew : ∀ set, (l.taken? act).bind l.accepts? = some set → l.mode = .serving →
      (l.perform act).1.Covers set) :
    (l.perform act).1.Routable := by
  obtain ⟨event, rest, ht, -, heq⟩ | ⟨-, hrests, -⟩ := perform_cases l act
  · have hrest : Routable { l with events := rest } := routable_of_covered hr.covered
    rw [heq] at hnew ⊢
    rw [ht] at hnew
    exact hrest.onEvent (h.withEvents rest) hnew
  · rw [hrests.rest]
    exact routable_of_covered hr.covered

/-- If a listener is routable that served when it accepted an update, it has the routes. -/
lemma Routable.covers_of_accepts (h : l.Orderly) {act : ListenerAct}
    (hr : (l.perform act).1.Routable) (ha : (l.taken? act).bind l.accepts? = some set)
    (hm : l.mode = .serving) : (l.perform act).1.Covers set := by
  obtain ⟨event, rest, ht, -, heq⟩ | ⟨hnone, -, -⟩ := perform_cases l act
  · rw [ht] at ha
    rw [heq] at hr ⊢
    have haccepts : Listener.accepts? { l with events := rest } event = some set := ha
    obtain ⟨other, hother, hcovers⟩ := hr.covered (serving_of_accepts haccepts hm)
    obtain ⟨gate, hi⟩ := (h.withEvents rest).installed_of_accepts haccepts
    obtain rfl := Option.some.inj (hi.chains.symm.trans hother)
    exact hcovers
  · rw [hnone] at ha
    cases ha

end Listener

namespace ListenerRun

/-- Whether a listener is routable all the time is decided when it accepts an update. -/
lemma routable_iff_covers (site : ListenerSite) (acts : List ListenerAct) :
    (∀ earlier later, acts = earlier ++ later → (of site earlier).listener.Routable) ↔
      ∀ earlier act later set, acts = earlier ++ act :: later →
        ((of site earlier).listener.taken? act).bind (of site earlier).listener.accepts? =
          some set →
        (of site earlier).listener.mode = .serving →
        (of site (earlier ++ [act])).listener.Covers set := by
  constructor
  · rintro h earlier act later set rfl ha hm
    have horderly := (counts_of site earlier).orderly
    have hr := h (earlier ++ [act]) later (by simp)
    rw [← next_of] at hr ⊢
    exact hr.covers_of_accepts horderly ha hm
  · intro h earlier
    induction earlier using List.reverseRecOn with
    | nil =>
      have hmode : (start site).listener.mode = .starting := rfl
      intro later _
      refine Listener.routable_of_covered fun hm => ?_
      cases hmode.symm.trans hm
    | append_singleton earlier act ih =>
      rintro later rfl
      have horderly := (counts_of site earlier).orderly
      have hbefore := ih (act :: later) (by simp)
      rw [← next_of]
      refine hbefore.perform horderly act fun set ha hm => ?_
      have hcovers := h earlier act later set (by simp) ha hm
      rw [← next_of] at hcovers
      exact hcovers

/-- A listener that serves has chains installed. It has all their routes just if the newest
generation has been heard of, and then each connection it hands out has a route configuration.
It is so all the time just if no update is accepted while serving whose routes are missing: such
an update takes effect at once, but serving does not end for it. -/
theorem serving_routable_iff (site : ListenerSite) (acts : List ListenerAct) :
    let run := of site acts
    (run.listener.mode = .serving → ∃ set, run.listener.chains = some set ∧
      (run.listener.Covers set ↔ run.accepted.length ∈ run.firings)) ∧
    (run.accepted.length ∈ run.firings → run.listener.Routable) ∧
    ((∀ earlier later, acts = earlier ++ later → (of site earlier).listener.Routable) ↔
      ∀ earlier act later set, acts = earlier ++ act :: later →
        ((of site earlier).listener.taken? act).bind (of site earlier).listener.accepts? =
          some set →
        (of site earlier).listener.mode = .serving →
        (of site (earlier ++ [act])).listener.Covers set) := by
  intro run
  have hcounts := counts_of site acts
  have hserving : run.listener.mode = .serving → ∃ set, run.listener.chains = some set ∧
      (run.listener.Covers set ↔ run.accepted.length ∈ run.firings) := by
    intro hm
    obtain hw | ⟨set, gate, hi⟩ := hcounts.orderly.state
    · exact absurd hm hw.mode
    · refine ⟨set, hi.chains, ?_⟩
      rw [hi.covers_iff hm, hcounts.opened gate hi.waits, hcounts.length]
  refine ⟨hserving, fun hheard => ?_, routable_iff_covers site acts⟩
  refine Listener.routable_of_covered fun hm => ?_
  obtain ⟨set, hset, hcovers⟩ := hserving hm
  exact ⟨set, hset, hcovers.mpr hheard⟩

/-- Route `a` has come when the chains are replaced by others, which need route `b`. -/
def replacedWhileServing : List ListenerAct :=
  [.callback (ListenerSite.loopback.requiring ["a"]), .take,
    .callback (.route "a" 1 (.ok ⟨"first", []⟩)), .take,
    .callback (ListenerSite.loopback.requiring ["b"]), .take]

/-- A connection from one port of the local host to another. -/
def localConnection : Connection :=
  ⟨0, .ok ListenerSite.loopback.address, .ok ⟨.v4 0x7F000001, 50000, 0⟩⟩

/-- The listener serves without route `b`, and hands out a connection that has none. -/
theorem serving_unroutable :
    let run := of .loopback replacedWhileServing
    run.listener.closed = false ∧ run.listener.mode = .serving ∧
      (∃ set, run.listener.chains = some set ∧ "b" ∈ set.routeNames) ∧
      run.listener.routes.find? "b" = none ∧
      ∃ served, (run.listener.handOut 1 localConnection).1 = some served ∧
        run.listener.routeConfig? served = none := by
  intro run
  let chain : FilterChain := ⟨"b", {}, .dynamic "b", none⟩
  have hset : run.listener.chains = some ⟨[chain], none⟩ := by decide
  have hmissing : run.listener.routes.find? "b" = none := by decide
  have hchain : (run.listener.handOut 1 localConnection).1.map (·.chain) = some chain := by decide
  obtain ⟨served, hserved, hroute⟩ := Option.map_eq_some_iff.mp hchain
  refine ⟨by decide, by decide, ⟨_, hset, by decide⟩, hmissing, served, hserved, ?_⟩
  rw [Listener.routeConfig?, hroute]
  exact hmissing

end ListenerRun
end MeshRouting
