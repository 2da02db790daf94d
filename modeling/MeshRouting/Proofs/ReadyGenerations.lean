import MeshRouting.Proofs.GenerationCounts
import MeshRouting.Proofs.LiveRoutes

/-!
# Generations that become ready

A generation is heard of once, while its chains are installed, and only after the watch of each
route they need has brought one. Routes are waited for by name: one that was received before the
generation began is not waited for, and one that is received later counts the first time.
-/
namespace MeshRouting

/-- The watch of a name that is among the given ones has delivered a route. -/
def Delivered (watches : NameMap RouteWatch) (events : List ControlEvent) (name : String) : Prop :=
  ∃ watch config, watches.find? name = some watch ∧ .route name watch.number (.ok config) ∈ events

lemma Delivered.append {watches : NameMap RouteWatch} {events : List ControlEvent} {name : String}
    (h : Delivered watches events name) (more : List ControlEvent) :
    Delivered watches (events ++ more) name := by
  obtain ⟨watch, config, hw, hm⟩ := h
  exact ⟨watch, config, hw, List.mem_append_left more hm⟩

lemma delivered_append_iff {watches : NameMap RouteWatch} {events more : List ControlEvent}
    {name : String} : Delivered watches (events ++ more) name ↔
      Delivered watches events name ∨ Delivered watches more name := by
  constructor
  · rintro ⟨watch, config, hw, hm⟩
    rcases List.mem_append.mp hm with hm | hm
    · exact .inl ⟨watch, config, hw, hm⟩
    · exact .inr ⟨watch, config, hw, hm⟩
  · rintro (h | ⟨watch, config, hw, hm⟩)
    · exact h.append more
    · exact ⟨watch, config, hw, List.mem_append_right events hm⟩

namespace Listener

variable {l next : Listener} {event : ControlEvent} {generation : Nat} {set : ChainSet}
  {gate : ReadinessGate} {name : String} {accepted : List ChainSet} {firings : List Nat}
  {watches : NameMap RouteWatch} {taken : List ControlEvent}

/-! ### Routes behind a generation -/

/-- Each route in the table, and each one the gate does not wait for any more, has been delivered by
the watch that is in force, or was when the listener was closed. -/
structure Earned (l : Listener) (watches : NameMap RouteWatch) (taken : List ControlEvent) :
    Prop where
  inForce : l.closed = false → watches = l.routeWatches
  table : ∀ name, l.routes.find? name ≠ none → Delivered watches taken name
  gate : ∀ set gate, l.chains = some set → l.gate = some gate →
    ∀ name ∈ set.routeNames, name ∉ gate.outstanding → Delivered watches taken name

lemma Live.delivered (h : l.Live taken) (ho : l.closed = false)
    (hr : l.routes.find? name ≠ none) : Delivered l.routeWatches taken name := by
  obtain ⟨config, hc⟩ := Option.ne_none_iff_exists'.mp hr
  obtain ⟨watch, hw, before, after, rfl, -⟩ := (h.find?_routes_iff ho).mp hc
  exact ⟨watch, config, hw, by simp⟩

lemma Earned.table_onEvent (h : l.Earned watches taken) (hl : l.Live taken)
    (hs : l.HasStarted event) (hr : (l.onEvent event).1.routes.find? name ≠ none) :
    Delivered ((l.onEvent event).1.heldWatches watches) (taken ++ [event]) name := by
  have hclosed : (l.onEvent event).1.closed = l.closed := (advances_onEvent l event).closed
  cases hc : l.closed with
  | true =>
    rw [heldWatches_of_closed (hclosed.trans hc)]
    rw [hl.orderly.watching.routes_of_closed hc] at hr
    exact (h.table name hr).append [event]
  | false =>
    rw [heldWatches_of_open (hclosed.trans hc)]
    exact (hl.onEvent hs).delivered (hclosed.trans hc) hr

lemma Earned.of_receives (h : l.Earned watches taken) (ho : l.Orderly)
    (hr : l.Receives event name) : Delivered watches (taken ++ [event]) name := by
  obtain ⟨watch, config, hw, rfl⟩ := hr
  have hopen : l.closed = false := by
    by_contra hc
    rw [ho.watching.ended (by simpa using hc) name] at hw
    cases hw
  rw [← h.inForce hopen] at hw
  exact ⟨watch, config, hw, by simp⟩

/-- The watches that count are the same as long as none is started or ended. -/
lemma Earned.heldWatches_eq (h : l.Earned watches taken)
    (hw : next.closed = false → l.closed = false ∧ next.routeWatches = l.routeWatches) :
    next.heldWatches watches = watches := by
  cases hc : next.closed with
  | true => exact heldWatches_of_closed hc watches
  | false =>
    obtain ⟨hopen, hsame⟩ := hw hc
    rw [heldWatches_of_open hc, hsame, h.inForce hopen]

lemma Earned.onEvent (h : l.Earned watches taken) (hl : l.Live taken) (hs : l.HasStarted event) :
    (l.onEvent event).1.Earned ((l.onEvent event).1.heldWatches watches) (taken ++ [event]) := by
  have hclosed : (l.onEvent event).1.closed = l.closed := (advances_onEvent l event).closed
  refine ⟨fun ho => heldWatches_of_open ho watches, fun name => h.table_onEvent hl hs, ?_⟩
  intro other later hchains hgate name hn hout
  cases hl.orderly.turns event with
  | begins _ hi _ houtstanding _ =>
    obtain rfl := Option.some.inj (hi.chains.symm.trans hchains)
    obtain rfl := Option.some.inj (hi.waits.symm.trans hgate)
    exact h.table_onEvent hl hs fun hnone => hout ((houtstanding name).mpr ⟨hn, hnone⟩)
  | ends _ _ hw _ _ =>
    rw [hw.chains] at hchains
    cases hchains
  | goesOn _ _ hb hi _ hwatches houtstanding _ =>
    obtain rfl := Option.some.inj (hi.chains.symm.trans hchains)
    obtain rfl := Option.some.inj (hi.waits.symm.trans hgate)
    rw [h.heldWatches_eq fun ho => ⟨hclosed.symm.trans ho, hwatches⟩]
    by_cases hreceives : l.Receives event name
    · exact h.of_receives hl.orderly hreceives
    · have hbefore := fun hm => hout ((houtstanding name).mpr ⟨hm, hreceives⟩)
      exact (h.gate _ _ hb.chains hb.waits name hn hbefore).append [event]
  | idles _ _ hw hsame _ =>
    rw [hsame, hw.chains] at hchains
    cases hchains

lemma Earned.rests (h : l.Earned watches taken) (hr : l.Rests next) :
    next.Earned (next.heldWatches watches) taken := by
  have hsame : next.heldWatches watches = watches := by
    refine h.heldWatches_eq fun ho => ?_
    rcases hr.watches with ⟨hends, hwatches⟩ | ⟨hends, -⟩
    · exact ⟨hends ▸ ho, hwatches⟩
    · rw [ho] at hends
      cases hends
  have hroutes : next.routes = l.routes := by rw [hr.rest]
  have hchains : next.chains = l.chains := by rw [hr.rest]
  have hgate : next.gate = l.gate := by rw [hr.rest]
  refine ⟨fun ho => heldWatches_of_open ho watches, ?_, ?_⟩
  · rw [hsame, hroutes]
    exact h.table
  · rw [hsame, hchains, hgate]
    exact h.gate

lemma Earned.perform (h : l.Earned watches taken) (hl : l.Live taken) (act : ListenerAct) :
    (l.perform act).1.Earned ((l.perform act).1.heldWatches watches)
      (taken ++ (l.taken? act).toList) := by
  obtain ⟨event, rest, ht, he, heq⟩ | ⟨ht, hr, -⟩ := perform_cases l act
  · have hs : l.HasStarted event := hl.queued event (he ▸ List.mem_cons_self)
    have hrest : Earned { l with events := rest } watches taken := ⟨h.inForce, h.table, h.gate⟩
    rw [ht, heq]
    exact hrest.onEvent (hl.withoutFirst he) hs
  · rw [ht, Option.toList_none, List.append_nil]
    exact h.rests hr

/-- A generation is heard of as that of the chains that are installed, and each route they need
has been delivered. -/
lemma Earned.of_firing (h : next.Earned watches taken) {effects : List ListenerEffect}
    (ht : l.Turns event next effects) (hf : generation ∈ firingsOf effects) :
    ∃ set, next.chains = some set ∧ generation = next.generation ∧
      ∀ name ∈ set.routeNames, Delivered watches taken name := by
  have hopen : ∃ set gate, next.Installed set gate ∧ gate.fired = true ∧
      generation = next.generation := by
    cases ht with
    | begins _ hi _ _ hfirings =>
      rw [hfirings] at hf
      split at hf
      · rename_i hfired
        exact ⟨_, _, hi, hfired, List.mem_singleton.mp hf⟩
      · cases hf
    | ends _ _ _ _ hfirings =>
      rw [hfirings] at hf
      cases hf
    | goesOn _ _ _ hi _ _ _ hfirings =>
      rw [hfirings] at hf
      split at hf
      · rename_i hfired
        exact ⟨_, _, hi, hfired.1, List.mem_singleton.mp hf⟩
      · cases hf
    | idles _ _ _ _ hfirings =>
      rw [hfirings] at hf
      cases hf
  obtain ⟨set, gate, hi, hfired, hg⟩ := hopen
  have hempty := NameSet.isEmpty_eq_true_iff.mp (hi.spent hfired)
  refine ⟨set, hi.chains, hg, fun name hn => ?_⟩
  exact h.gate set gate hi.chains hi.waits name hn (hempty name)

lemma Live.find?_routes_ne_none_iff (h : l.Live taken) (ho : l.closed = false) :
    l.routes.find? name ≠ none ↔ ∃ watch, l.routeWatches.find? name = some watch ∧
      brought name watch.number taken ≠ none := by
  constructor
  · intro hr
    have hsome : l.routeWatches.find? name ≠ none := fun hnone =>
      hr (h.orderly.watching.stored ho name hnone)
    obtain ⟨watch, hw⟩ := Option.ne_none_iff_exists'.mp hsome
    exact ⟨watch, hw, h.table ho name watch hw ▸ hr⟩
  · rintro ⟨watch, hw, hbrought⟩
    rw [h.table ho name watch hw]
    exact hbrought

/-! ### What a generation waits for -/

/-- The chains are installed, and their gate waits for the routes that the table did not have at
first and that have not been delivered since. -/
def Owes (l : Listener) (set : ChainSet) (base : NameMap RouteConfig)
    (since : List ControlEvent) : Prop :=
  ∃ gate, l.Installed set gate ∧ ∀ name, name ∈ gate.outstanding ↔
    name ∈ set.routeNames ∧ base.find? name = none ∧ ¬ Delivered l.routeWatches since name

variable {base : NameMap RouteConfig} {since : List ControlEvent}

lemma delivered_singleton_iff : Delivered l.routeWatches [event] name ↔ l.Receives event name := by
  constructor
  · rintro ⟨watch, config, hw, hm⟩
    exact ⟨watch, config, hw, (List.mem_singleton.mp hm).symm⟩
  · rintro ⟨watch, config, hw, rfl⟩
    exact ⟨watch, config, hw, List.mem_singleton.mpr rfl⟩

lemma Orderly.owes_of_accepts (h : l.Orderly) (ha : l.accepts? event = some set) :
    (l.onEvent event).1.Owes set (l.onEvent event).1.routes [] := by
  have hnone : ∀ watches name, ¬ Delivered watches [] name := by
    rintro watches name ⟨watch, config, -, hm⟩
    cases hm
  cases h.turns event with
  | begins haccepts hi _ houtstanding _ =>
    obtain rfl := Option.some.inj (ha.symm.trans haccepts)
    refine ⟨_, hi, fun name => ?_⟩
    rw [houtstanding name, and_iff_left (hnone _ name)]
  | ends haccepts => cases ha.symm.trans haccepts
  | goesOn haccepts => cases ha.symm.trans haccepts
  | idles haccepts => cases ha.symm.trans haccepts

/-- The same generation goes on, with the same watches. -/
structure GoesOn (l next : Listener) : Prop where
  generation : next.generation = l.generation
  watches : next.routeWatches = l.routeWatches

lemma Owes.onEvent (h : l.Owes set base since) (ho : l.Orderly)
    (hp : ¬ (l.onEvent event).1.Past l.generation) :
    l.GoesOn (l.onEvent event).1 ∧ (l.onEvent event).1.Owes set base (since ++ [event]) := by
  obtain ⟨gate, hi, hout⟩ := h
  cases ho.turns event with
  | begins _ _ hgen _ _ => exact absurd (.inl (hgen ▸ Nat.lt_succ_self _)) hp
  | ends _ _ hw hgen _ => exact absurd (.inr ⟨hgen.symm, hw.chains⟩) hp
  | @goesOn other before later _ _ hb hlater hgen hwatches houtstanding _ =>
    obtain ⟨rfl, rfl⟩ := hi.eq_of_installed hb
    refine ⟨⟨hgen, hwatches⟩, later, hlater, fun name => ?_⟩
    rw [houtstanding, hout, hwatches, delivered_append_iff, delivered_singleton_iff, not_or]
    tauto
  | idles _ _ hw _ _ =>
    have hc := hi.chains
    rw [hw.chains] at hc
    cases hc

lemma Owes.rests (h : l.Owes set base since) (hr : l.Rests next) (ho : next.closed = false) :
    l.GoesOn next ∧ next.Owes set base since := by
  obtain ⟨gate, hi, hout⟩ := h
  have hwatches : next.routeWatches = l.routeWatches := by
    rcases hr.watches with ⟨-, hsame⟩ | ⟨hclosed, -⟩
    · exact hsame
    · rw [ho] at hclosed
      cases hclosed
  refine ⟨⟨by rw [hr.rest], hwatches⟩, gate, hi.rests hr, ?_⟩
  rw [hwatches]
  exact hout

lemma Owes.perform (h : l.Owes set base since) (ho : l.Orderly) {act : ListenerAct}
    (hopen : (l.perform act).1.closed = false) (hp : ¬ (l.perform act).1.Past l.generation) :
    l.GoesOn (l.perform act).1 ∧
      (l.perform act).1.Owes set base (since ++ (l.taken? act).toList) := by
  obtain ⟨event, rest, ht, -, heq⟩ | ⟨ht, hr, -⟩ := perform_cases l act
  · obtain ⟨gate, hi, hout⟩ := h
    have hrest : Owes { l with events := rest } set base since := ⟨gate, hi.withEvents rest, hout⟩
    rw [heq] at hp ⊢
    rw [ht]
    obtain ⟨hsame, hnext⟩ := hrest.onEvent (ho.withEvents rest) hp
    exact ⟨⟨hsame.generation, hsame.watches⟩, hnext⟩
  · rw [ht, Option.toList_none, List.append_nil]
    exact h.rests hr hopen

/-- The generation has been heard of just if none of its routes is owed. -/
lemma Counts.mem_firings_iff (h : l.Counts accepted firings) (hw : l.Owes set base since) :
    l.generation ∈ firings ↔ ∀ name ∈ set.routeNames,
      base.find? name ≠ none ∨ Delivered l.routeWatches since name := by
  obtain ⟨gate, hi, hout⟩ := hw
  have hfired : gate.fired = true ↔ gate.outstanding.isEmpty = true := ⟨hi.spent, hi.opened⟩
  rw [← h.opened gate hi.waits, hfired, NameSet.isEmpty_eq_true_iff]
  refine forall_congr' fun name => ?_
  rw [hout]
  tauto

end Listener

namespace ListenerRun

variable {run : ListenerRun} {generation : Nat} {set : ChainSet}

theorem earned_of (site : ListenerSite) (acts : List ListenerAct) :
    (of site acts).listener.Earned (of site acts).watches (of site acts).taken := by
  have hboth : (of site acts).listener.Live (of site acts).taken ∧
      (of site acts).listener.Earned (of site acts).watches (of site acts).taken := by
    refine of_induction (fun run => run.listener.Live run.taken ∧
      run.listener.Earned run.watches run.taken) site ?_ ?_ acts
    · have hnone : ∀ name, (start site).listener.routes.find? name = none := fun _ => rfl
      have hchains : (start site).listener.chains = none := rfl
      refine ⟨live_start site, fun _ => rfl, fun name hr => absurd (hnone name) hr, ?_⟩
      intro set gate hc
      rw [hchains] at hc
      cases hc
    · intro run act h
      exact ⟨h.1.perform act, h.2.perform h.1 act⟩
  exact hboth.2

/-- While a listener is open and a generation goes on, it waits for what it did at first and has not
been delivered since. -/
lemma owes_extend {begun : ListenerRun} {base : NameMap RouteConfig}
    (ho : begun.listener.Orderly) (hw : begun.listener.Owes set base [])
    (more : List ListenerAct) (hopen : (begun.extend more).listener.closed = false)
    (hp : ¬ (begun.extend more).listener.Past begun.listener.generation) :
    begun.listener.GoesOn (begun.extend more).listener ∧
      ∃ since, (begun.extend more).taken = begun.taken ++ since ∧
        (begun.extend more).listener.Owes set base since := by
  induction more using List.reverseRecOn with
  | nil => exact ⟨⟨rfl, rfl⟩, [], (List.append_nil _).symm, hw⟩
  | append_singleton more act ih =>
    have horderly := orderly_extend ho more
    rw [extend_append] at hopen hp ⊢
    generalize begun.extend more = run at ih hopen hp horderly ⊢
    have hbefore : ¬ run.listener.Past begun.listener.generation := fun hpast =>
      hp (hpast.perform horderly act).1
    have hopened := (run.listener.follows_perform act).closed hopen
    obtain ⟨⟨hgen, hwatches⟩, since, htaken, howes⟩ := ih hopened hbefore
    obtain ⟨hsame, hnext⟩ := howes.perform horderly hopen (hgen ▸ hp)
    refine ⟨⟨hsame.generation.trans hgen, hsame.watches.trans hwatches⟩, _, ?_, hnext⟩
    show run.taken ++ (run.listener.taken? act).toList = _
    rw [htaken, List.append_assoc]

/-- What is heard of with an act is the newest accepted update, with all its routes delivered. -/
lemma delivered_of_fired {act : ListenerAct} (ho : run.listener.Orderly)
    (he : (run.next act).listener.Earned (run.next act).watches (run.next act).taken)
    (hf : .fired generation ∈ (run.listener.perform act).2) :
    generation = (run.next act).listener.generation ∧
      ∃ set, (run.next act).listener.chains = some set ∧
        ∀ name ∈ set.routeNames, Delivered (run.next act).watches (run.next act).taken name := by
  have hm := mem_firingsOf_iff.mpr hf
  obtain ⟨event, rest, -, -, heq⟩ | ⟨-, -, hq⟩ := run.listener.perform_cases act
  · have hturns := (ho.withEvents rest).turns event
    rw [← heq] at hturns
    obtain ⟨set, hchains, hgen, hall⟩ := he.of_firing hturns hm
    exact ⟨hgen, set, hchains, hall⟩
  · rw [hq.firingsOf_eq] at hm
    cases hm

lemma owes_next {act : ListenerAct} (ho : run.listener.Orderly)
    (ha : (run.listener.taken? act).bind run.listener.accepts? = some set) :
    (run.next act).listener.Owes set (run.next act).listener.routes [] := by
  obtain ⟨event, ht, haccepts⟩ := Option.bind_eq_some_iff.mp ha
  obtain ⟨other, rest, hother, -, heq⟩ | ⟨hnone, -, -⟩ := run.listener.perform_cases act
  · obtain rfl := Option.some.inj (ht.symm.trans hother)
    have howes := (ho.withEvents rest).owes_of_accepts haccepts
    rw [← heq] at howes
    exact howes
  · rw [hnone] at ht
    cases ht

lemma open_of_extend {more : List ListenerAct} (h : (run.extend more).listener.closed = false) :
    run.listener.closed = false := by
  induction more generalizing run with
  | nil => exact h
  | cons act more ih =>
    have hnext : (run.next act).listener.closed = false := ih h
    exact (run.listener.follows_perform act).closed hnext

/-- A generation that goes on has been heard of just if the watch of each of its routes had brought
one when it began, or has delivered one since. -/
lemma mem_firings_iff_delivered {begun now : ListenerRun} {more : List ListenerAct}
    (hnow : now = begun.extend more)
    (hlive : begun.listener.Live begun.taken)
    (hb : begun.listener.Counts begun.accepted begun.firings)
    (hn : now.listener.Counts now.accepted now.firings)
    (he : now.listener.Earned now.watches now.taken)
    (hw : begun.listener.Owes set begun.listener.routes [])
    (hopen : now.listener.closed = false) (hl : now.accepted.length = begun.accepted.length)
    (hc : now.listener.chains ≠ none) :
    begun.accepted.length ∈ now.firings ↔ ∀ name ∈ set.routeNames,
      (∃ watch, now.watches.find? name = some watch ∧
        brought name watch.number begun.taken ≠ none) ∨
      Delivered now.watches (now.taken.drop begun.taken.length) name := by
  have hgen : now.listener.generation = begun.listener.generation := by
    rw [← hn.length, ← hb.length, hl]
  have hp : ¬ now.listener.Past begun.listener.generation := by
    rintro (hlt | ⟨-, hnone⟩)
    · exact absurd hgen hlt.ne'
    · exact hc hnone
  have hfirst : begun.listener.closed = false := by
    rw [hnow] at hopen
    exact open_of_extend hopen
  obtain ⟨hsame, since, htaken, howes⟩ : begun.listener.GoesOn now.listener ∧
      ∃ since, now.taken = begun.taken ++ since ∧
        now.listener.Owes set begun.listener.routes since := by
    rw [hnow] at hopen hp ⊢
    exact owes_extend hb.orderly hw more hopen hp
  rw [hb.length, ← hgen, hn.mem_firings_iff howes, he.inForce hopen, htaken, List.drop_left]
  simp only [hlive.find?_routes_ne_none_iff hfirst, hsame.watches]

/-- The generations that are heard of are increasing, and the signal has the last one. Each is the
number of the accepted update whose chains are installed at that time, and each dynamic route of
these chains, the default chain included, has been delivered by the watch that is in force for it,
or by the one that was when the listener was closed: a closed listener has none. A generation that
has been replaced or withdrawn is not heard of later. While a generation goes on, it has been heard
of just if the watch of each route that it names had brought one when it began, or has delivered one
since, no matter how often. -/
theorem ready_when_earned (site : ListenerSite) (acts : List ListenerAct) :
    let run := of site acts
    run.firings.Pairwise (· < ·) ∧
    run.listener.ready.latest = run.firings.getLast? ∧
    (run.listener.closed = false → run.watches = run.listener.routeWatches) ∧
    (run.listener.closed = false → ∀ more,
      ((run.next .close).extend more).watches = run.listener.routeWatches) ∧
    (∀ act generation, .fired generation ∈ (run.listener.perform act).2 →
      let now := run.next act
      generation = now.accepted.length ∧
      ∃ set, now.accepted.getLast? = some set ∧ now.listener.chains = some set ∧
        ∀ chain ∈ set.all, ∀ name, chain.route = .dynamic name →
          Delivered now.watches now.taken name) ∧
    (∀ generation more,
      generation < run.accepted.length ∨
        (generation = run.accepted.length ∧ run.listener.chains = none) →
      generation ∈ (run.extend more).firings → generation ∈ run.firings) ∧
    ∀ act set more, (run.listener.taken? act).bind run.listener.accepts? = some set →
      let begun := run.next act
      let now := begun.extend more
      now.listener.closed = false → now.accepted.length = begun.accepted.length →
      now.listener.chains ≠ none →
      (begun.accepted.length ∈ now.firings ↔ ∀ name ∈ set.routeNames,
        (∃ watch, now.watches.find? name = some watch ∧
          brought name watch.number begun.taken ≠ none) ∨
        Delivered now.watches (now.taken.drop begun.taken.length) name) := by
  intro run
  have hcounts := counts_of site acts
  have hearned := earned_of site acts
  refine ⟨hcounts.increasing, hcounts.latest, hearned.inForce, ?_, ?_, ?_, ?_⟩
  · intro hopen more
    have hclosed : (run.next .close).listener.closed = true := run.listener.closed_close
    rw [watches_extend_of_closed hclosed, ← hearned.inForce hopen]
    exact Listener.heldWatches_of_closed hclosed run.watches
  · intro act generation hfired now
    have hnow : now = of site (acts ++ [act]) := next_of site acts act
    have hafter := counts_of site (acts ++ [act])
    have hlater := earned_of site (acts ++ [act])
    rw [← hnow] at hafter hlater
    obtain ⟨hgen, set, hchains, hall⟩ := delivered_of_fired hcounts.orderly hlater hfired
    refine ⟨hgen.trans hafter.length.symm, set, hafter.current set hchains, hchains, ?_⟩
    intro chain hm name hroute
    exact hall name (ChainSet.mem_routeNames_iff.mpr ⟨chain, hm, hroute⟩)
  · intro generation more hpast hm
    rw [hcounts.length] at hpast
    exact past_extend hpast hcounts.orderly more hm
  · intro act set more hset begun now hopen hlength hchains
    have hbegun : begun = of site (acts ++ [act]) := next_of site acts act
    have hnow : now = of site (acts ++ [act] ++ more) :=
      (congrArg (extend · more) hbegun).trans (extend_append _ _ _).symm
    have hlive := live_of site (acts ++ [act])
    have hfirst := counts_of site (acts ++ [act])
    have hlast := counts_of site (acts ++ [act] ++ more)
    have hlater := earned_of site (acts ++ [act] ++ more)
    rw [← hbegun] at hlive hfirst
    rw [← hnow] at hlast hlater
    exact mem_firings_iff_delivered rfl hlive hfirst hlast hlater
      (owes_next hcounts.orderly hset) hopen hlength hchains

/-- The listener is closed when a second update with the same route waits to be taken. -/
def closedBeforeUpdate : List ListenerAct :=
  [.callback (ListenerSite.loopback.requiring ["a"]), .take,
    .callback (.route "a" 1 (.ok ⟨"a", []⟩)), .take,
    .callback (ListenerSite.loopback.requiring ["a"]), .close]

/-- The second generation is heard of when no watch is in force for the route that it needs. -/
theorem closed_listener_fires :
    let run := of .loopback closedBeforeUpdate
    let now := run.next .take
    run.firings = [1] ∧ now.firings = [1, 2] ∧
    (∃ set, now.listener.chains = some set ∧ "a" ∈ set.routeNames) ∧
    run.listener.routeWatches.find? "a" = none ∧
    ¬ Delivered now.listener.routeWatches now.taken "a" := by
  intro run now
  refine ⟨by decide, by decide, ⟨_, rfl, by decide⟩, by decide, ?_⟩
  have hnone : now.listener.routeWatches.find? "a" = none := by decide
  rintro ⟨watch, config, hw, -⟩
  rw [hnone] at hw
  cases hw

/-- The second generation is replaced before route `b` comes; the third needs only route `a`, which
the first has received. -/
example : (of .loopback [.callback (ListenerSite.loopback.requiring ["a"]), .take,
    .callback (.route "a" 1 (.ok ⟨"a", []⟩)), .take,
    .callback (ListenerSite.loopback.requiring ["a", "b"]), .take,
    .callback (ListenerSite.loopback.requiring ["a"]), .take]).firings = [1, 3] := by
  decide

end ListenerRun
end MeshRouting
