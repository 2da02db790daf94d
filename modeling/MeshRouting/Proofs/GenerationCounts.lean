import MeshRouting.Proofs.ListenerRuns

/-!
# Counting generations

Generations are numbered by the updates that are accepted. The numbers that are heard of increase,
and the newest one is among them just if its gate has opened. A generation that has been replaced
or withdrawn is not heard of any more.
-/
namespace MeshRouting
namespace Listener

variable {l next : Listener} {event : ControlEvent} {generation : Nat} {set : ChainSet}
  {gate : ReadinessGate} {accepted : List ChainSet} {firings : List Nat}

/-! ### The ready signal -/

lemma ready_checkReady (l : Listener) :
    l.checkReady.1.ready = (firingsOf l.checkReady.2).foldl ReadySignal.fire l.ready := by
  cases hg : l.gate with
  | none =>
    have hnone : l.checkReady = (l, []) := by simp [Listener.checkReady, hg]
    rw [hnone]
    rfl
  | some gate =>
    obtain ⟨-, -, heq⟩ | ⟨-, heq⟩ | ⟨-, -, heq⟩ := checkReady_cases hg
    · rw [heq]
      rfl
    · rw [heq, firingsOf_serveIfComplete, serveIfComplete_listener]
      rfl
    · rw [heq]
      simp only [andThen, fire, firingsOf_append, firingsOf_serveIfComplete,
        serveIfComplete_listener]
      rfl

/-- The signal is given each generation that becomes ready. -/
lemma ready_onEvent (l : Listener) (event : ControlEvent) :
    (l.onEvent event).1.ready =
      (firingsOf (l.onEvent event).2).foldl ReadySignal.fire l.ready := by
  have htakes := takes_onEvent l event
  generalize l.onEvent event = o at htakes ⊢
  cases htakes with
  | @install _ set ha =>
    obtain ⟨effects, hquiet, heq⟩ := install_eq l set
    have hready : (l.prepare set).ready = l.ready := by rw [prepare_rest]
    rw [heq, firingsOf_append, hquiet.firingsOf_eq, List.nil_append, ← hready]
    exact ready_checkReady _
  | @withdraw _ error hw n =>
    obtain ⟨effects, hquiet, heq⟩ := withdraw_eq l error
    have hready : l.forget.ready = l.ready := by rw [forget_rest]
    show (l.withdraw error).1.ready =
      (firingsOf ([.notice n] ++ (l.withdraw error).2)).foldl ReadySignal.fire l.ready
    rw [heq, firingsOf_append, firingsOf_append, (quiet_notice n).firingsOf_eq,
      hquiet.firingsOf_eq, firingsOf_switchMode, ← hready]
    rfl
  | @store name watch hw config =>
    obtain ⟨effects, hquiet, heq⟩ := storeRoute_eq l name config
    rw [heq, firingsOf_append, hquiet.firingsOf_eq, List.nil_append]
    exact ready_checkReady _
  | @lose name watch hw e he =>
    obtain ⟨effects, hquiet, heq⟩ := loseRoute_eq l name e
    rw [heq, firingsOf_append, hquiet.firingsOf_eq, firingsOf_switchMode]
    rfl
  | ignore ha n => rfl

lemma latest_foldl_fire (s : ReadySignal) (firings : List Nat) :
    (firings.foldl ReadySignal.fire s).latest = firings.getLast?.or s.latest := by
  induction firings using List.reverseRecOn with
  | nil => rfl
  | append_singleton firings generation _ =>
    rw [List.foldl_append, List.getLast?_append]
    rfl

/-- The signal carries the last generation that became ready. -/
lemma latest_onEvent (l : Listener) (event : ControlEvent) :
    (l.onEvent event).1.ready.latest =
      (firingsOf (l.onEvent event).2).getLast?.or l.ready.latest := by
  rw [ready_onEvent]
  exact latest_foldl_fire _ _

/-! ### Numbers of generations -/

/-- Generations are numbered by the accepted updates, and each of them that was heard of comes
after those before; the newest was heard of if its gate has opened. -/
structure Counts (l : Listener) (accepted : List ChainSet) (firings : List Nat) : Prop where
  orderly : l.Orderly
  length : accepted.length = l.generation
  current : ∀ set, l.chains = some set → accepted.getLast? = some set
  increasing : firings.Pairwise (· < ·)
  reached : ∀ g ∈ firings, g ≤ l.generation
  opened : ∀ gate, l.gate = some gate → (gate.fired = true ↔ l.generation ∈ firings)
  latest : l.ready.latest = firings.getLast?

/-- The newest generation comes after those before, if it is heard of the first time. -/
lemma increasing_append {c : Prop} [Decidable c] (h : firings.Pairwise (· < ·))
    (hr : ∀ g ∈ firings, g ≤ generation) (hnew : c → generation ∉ firings) :
    (firings ++ if c then [generation] else []).Pairwise (· < ·) ∧
      ∀ g ∈ firings ++ (if c then [generation] else []), g ≤ generation := by
  split
  · rename_i hc
    constructor
    · refine List.pairwise_append.mpr ⟨h, List.pairwise_singleton _ _, fun g hg other ho => ?_⟩
      rw [List.mem_singleton.mp ho]
      exact (hr g hg).lt_of_ne fun he => hnew hc (he ▸ hg)
    · intro g hg
      rcases List.mem_append.mp hg with hg | hg
      · exact hr g hg
      · exact (List.mem_singleton.mp hg).le
  · rw [List.append_nil]
    exact ⟨h, hr⟩

/-- A gate that has opened stays open. -/
lemma Installed.stays_fired {other : ChainSet} {later : ReadinessGate} (h : l.Installed set gate)
    (hi : next.Installed other later)
    (hout : ∀ name, name ∈ later.outstanding ↔ name ∈ gate.outstanding ∧ ¬ l.Receives event name)
    (hf : gate.fired = true) : later.fired = true := by
  have hempty := NameSet.isEmpty_eq_true_iff.mp (h.spent hf)
  refine hi.opened (NameSet.isEmpty_eq_true_iff.mpr fun name hm => ?_)
  exact hempty name ((hout name).mp hm).1

lemma Counts.begins (h : l.Counts accepted firings) (ho : next.Orderly)
    (hi : next.Installed set gate) (hgen : next.generation = l.generation + 1)
    (hlatest : next.ready.latest =
      (firings ++ if gate.fired then [next.generation] else []).getLast?) :
    next.Counts (accepted ++ [set]) (firings ++ if gate.fired then [next.generation] else []) := by
  have hlow : ∀ g ∈ firings, g < next.generation := fun g hg =>
    hgen ▸ Nat.lt_succ_of_le (h.reached g hg)
  have hnew : next.generation ∉ firings := fun hm => lt_irrefl _ (hlow _ hm)
  obtain ⟨hincreasing, hreached⟩ :=
    increasing_append (c := gate.fired = true) h.increasing (fun g hg => (hlow g hg).le)
      fun _ => hnew
  refine ⟨ho, ?_, ?_, hincreasing, hreached, ?_, hlatest⟩
  · simp [h.length, hgen]
  · intro other hc
    simp [Option.some.inj (hi.chains.symm.trans hc)]
  · intro other hg
    rw [← Option.some.inj (hi.waits.symm.trans hg)]
    cases gate.fired <;> simp [hnew]

lemma Counts.ends (h : l.Counts accepted firings) (ho : next.Orderly) (hw : next.Withdrawn)
    (hgen : next.generation = l.generation) (hlatest : next.ready.latest = firings.getLast?) :
    next.Counts accepted firings := by
  refine ⟨ho, hgen ▸ h.length, ?_, h.increasing, hgen ▸ h.reached, ?_, hlatest⟩
  · intro set hc
    rw [hw.chains] at hc
    cases hc
  · intro gate hg
    rw [hw.gate] at hg
    cases hg

lemma Counts.goesOn (h : l.Counts accepted firings) (ho : next.Orderly) {later : ReadinessGate}
    (hb : l.Installed set gate) (hi : next.Installed set later)
    (hgen : next.generation = l.generation)
    (hout : ∀ name, name ∈ later.outstanding ↔ name ∈ gate.outstanding ∧ ¬ l.Receives event name)
    (hlatest : next.ready.latest = (firings ++
      if later.fired = true ∧ gate.fired = false then [next.generation] else []).getLast?) :
    next.Counts accepted (firings ++
      if later.fired = true ∧ gate.fired = false then [next.generation] else []) := by
  have hopened := h.opened gate hb.waits
  have hnew : later.fired = true ∧ gate.fired = false → l.generation ∉ firings := by
    rintro ⟨-, hshut⟩ hm
    rw [hopened.mpr hm] at hshut
    cases hshut
  rw [hgen] at hlatest ⊢
  obtain ⟨hincreasing, hreached⟩ := increasing_append h.increasing h.reached hnew
  refine ⟨ho, hgen ▸ h.length, ?_, hincreasing, hgen ▸ hreached, ?_, hlatest⟩
  · intro other hc
    exact h.current other (hb.chains.trans (hi.chains.symm.trans hc))
  · intro other hg
    rw [← Option.some.inj (hi.waits.symm.trans hg), hgen]
    cases hfired : gate.fired with
    | true => simp [hopened.mp hfired, hb.stays_fired hi hout hfired]
    | false =>
      have hunheard : l.generation ∉ firings := fun hm => by simp [hopened.mpr hm] at hfired
      cases later.fired <;> simp [hunheard]

/-- Each event keeps the count of the generations it accepts and lets be heard of. -/
theorem Counts.onEvent (h : l.Counts accepted firings) (event : ControlEvent) :
    (l.onEvent event).1.Counts (accepted ++ (l.accepts? event).toList)
      (firings ++ firingsOf (l.onEvent event).2) := by
  have horderly := h.orderly.onEvent event
  have hlatest := latest_onEvent l event
  rw [h.latest, ← List.getLast?_append] at hlatest
  cases h.orderly.turns event with
  | begins ha hi hgen _ hf =>
    rw [hf] at hlatest
    rw [ha, hf]
    exact h.begins horderly hi hgen hlatest
  | ends ha _ hw hgen hf =>
    rw [hf, List.append_nil] at hlatest
    rw [ha, hf, Option.toList_none, List.append_nil, List.append_nil]
    exact h.ends horderly hw hgen hlatest
  | goesOn ha _ hb hi hgen _ hout hf =>
    rw [hf] at hlatest
    rw [ha, hf, Option.toList_none, List.append_nil]
    exact h.goesOn horderly hb hi hgen hout hlatest
  | idles ha _ _ hsame hf =>
    rw [hsame, ha, hf, Option.toList_none, List.append_nil, List.append_nil]
    exact h

lemma Counts.withEvents (h : l.Counts accepted firings) (rest : List ControlEvent) :
    Counts { l with events := rest } accepted firings :=
  ⟨h.orderly.withEvents rest, h.length, h.current, h.increasing, h.reached, h.opened, h.latest⟩

lemma Counts.rests (h : l.Counts accepted firings) (hr : l.Rests next) :
    next.Counts accepted firings := by
  have hgeneration : next.generation = l.generation := by rw [hr.rest]
  have hchains : next.chains = l.chains := by rw [hr.rest]
  have hgate : next.gate = l.gate := by rw [hr.rest]
  refine ⟨h.orderly.rests hr, ?_, ?_, h.increasing, ?_, ?_, hr.latest.trans h.latest⟩
  · rw [hgeneration]
    exact h.length
  · rw [hchains]
    exact h.current
  · rw [hgeneration]
    exact h.reached
  · rw [hgate, hgeneration]
    exact h.opened

lemma Counts.perform (h : l.Counts accepted firings) (act : ListenerAct) :
    (l.perform act).1.Counts (accepted ++ ((l.taken? act).bind l.accepts?).toList)
      (firings ++ firingsOf (l.perform act).2) := by
  obtain ⟨event, rest, ht, -, heq⟩ | ⟨ht, hr, hq⟩ := perform_cases l act
  · rw [ht, heq]
    exact (h.withEvents rest).onEvent event
  · rw [ht, hq.firingsOf_eq, Option.bind_none, Option.toList_none, List.append_nil, List.append_nil]
    exact h.rests hr

lemma accepts?_congr (h : next.address = l.address) : next.accepts? = l.accepts? := by
  funext event
  match event with
  | .listener (.ok update) =>
    have hbound : next.isBoundTo update = l.isBoundTo update := by
      rw [isBoundTo, isBoundTo, h]
    show (if next.isBoundTo update then _ else none) = _
    rw [hbound]
    rfl
  | .listener (.error e) => rfl
  | .route name watch result => rfl

/-! ### Generations that are over -/

/-- The generation has been replaced, or its configuration was withdrawn. -/
def Past (l : Listener) (generation : Nat) : Prop :=
  generation < l.generation ∨ (generation = l.generation ∧ l.chains = none)

/-- A generation that is over stays so and is not heard of. -/
lemma Past.onEvent (hp : l.Past generation) (h : l.Orderly) (event : ControlEvent) :
    (l.onEvent event).1.Past generation ∧ generation ∉ firingsOf (l.onEvent event).2 := by
  have hle : generation ≤ l.generation := hp.elim le_of_lt fun he => he.1.le
  cases h.turns event with
  | begins _ _ hgen _ hf =>
    rw [hf, hgen]
    refine ⟨.inl (hgen ▸ Nat.lt_succ_of_le hle), fun hm => ?_⟩
    split at hm
    · rw [List.mem_singleton.mp hm] at hle
      omega
    · cases hm
  | ends _ _ hw hgen hf =>
    rw [hf]
    refine ⟨?_, List.not_mem_nil⟩
    rcases hp with hlt | ⟨heq, -⟩
    · exact .inl (hgen ▸ hlt)
    · exact .inr ⟨heq.trans hgen.symm, hw.chains⟩
  | goesOn _ _ hb _ hgen _ _ hf =>
    have hlt : generation < l.generation := by
      refine hp.resolve_right fun he => ?_
      rw [hb.chains] at he
      cases he.2
    rw [hf, hgen]
    refine ⟨.inl (hgen ▸ hlt), fun hm => ?_⟩
    split at hm
    · exact lt_irrefl _ (List.mem_singleton.mp hm ▸ hlt)
    · cases hm
  | idles _ _ _ hsame hf =>
    rw [hf, hsame]
    exact ⟨hp, List.not_mem_nil⟩

lemma Past.perform (hp : l.Past generation) (h : l.Orderly) (act : ListenerAct) :
    (l.perform act).1.Past generation ∧ generation ∉ firingsOf (l.perform act).2 := by
  obtain ⟨event, rest, -, -, heq⟩ | ⟨-, hr, hq⟩ := perform_cases l act
  · have hrest : Past { l with events := rest } generation := hp
    rw [heq]
    exact hrest.onEvent (h.withEvents rest) event
  · rw [hq.firingsOf_eq, hr.rest]
    exact ⟨hp, List.not_mem_nil⟩

end Listener

namespace ListenerRun

variable {run : ListenerRun} {generation : Nat}

/-- The updates that have been accepted, in order. -/
def accepted (run : ListenerRun) : List ChainSet := run.taken.filterMap run.listener.accepts?

lemma accepted_next (run : ListenerRun) (act : ListenerAct) :
    (run.next act).accepted =
      run.accepted ++ ((run.listener.taken? act).bind run.listener.accepts?).toList := by
  have hsame : (run.next act).listener.accepts? = run.listener.accepts? :=
    Listener.accepts?_congr (run.listener.follows_perform act).address
  rw [accepted, hsame]
  show (run.taken ++ (run.listener.taken? act).toList).filterMap _ = _
  rw [List.filterMap_append]
  cases ht : run.listener.taken? act with
  | none => rfl
  | some event => cases ha : run.listener.accepts? event <;> simp [accepted, ha]

lemma firings_next (run : ListenerRun) (act : ListenerAct) :
    (run.next act).firings = run.firings ++ firingsOf (run.listener.perform act).2 :=
  firingsOf_append _ _

theorem counts_of (site : ListenerSite) (acts : List ListenerAct) :
    (of site acts).listener.Counts (of site acts).accepted (of site acts).firings := by
  refine of_induction (fun run => run.listener.Counts run.accepted run.firings) site ?_ ?_ acts
  · have hchains : (start site).listener.chains = none := rfl
    have hgate : (start site).listener.gate = none := rfl
    have hnone : (start site).firings = [] := rfl
    refine ⟨Listener.orderly_start _ _ _ _, rfl, ?_, ?_, ?_, ?_, rfl⟩
    · intro set hc
      rw [hchains] at hc
      cases hc
    · rw [hnone]
      exact .nil
    · rw [hnone]
      exact fun g hm => absurd hm List.not_mem_nil
    · intro gate hg
      rw [hgate] at hg
      cases hg
  · intro run act h
    rw [accepted_next, firings_next]
    exact h.perform act

lemma past_extend (hp : run.listener.Past generation) (h : run.listener.Orderly)
    (more : List ListenerAct) (hm : generation ∈ (run.extend more).firings) :
    generation ∈ run.firings := by
  induction more generalizing run with
  | nil => exact hm
  | cons act more ih =>
    obtain ⟨hpast, hout⟩ := hp.perform h act
    have hpast : (run.next act).listener.Past generation := hpast
    have hnext := ih hpast (h.perform act) hm
    rw [firings_next] at hnext
    exact (List.mem_append.mp hnext).resolve_right hout

end ListenerRun
end MeshRouting
