import MeshRouting.Proofs.WorkerRuns

/-!
# The selector in the sink

The sink has the selector of the last state that reached it. It is the current one of the worker,
and a selector is stopped only after the sink has got another state, as long as no not-found fails
to be encoded: then the current selector is stopped although the sink still has it.
-/
namespace MeshRouting

open ServiceConfig

/-- Some selector is stopped while the sink has it; `last` is what the sink has at first. -/
def StopsCarried (last : Option ResolverState) : List WorkerEffect → Prop
  | [] => False
  | .state state :: rest => StopsCarried (some state) rest
  | .stopped s :: rest => last.bind (·.selector) = some s ∨ StopsCarried last rest
  | _ :: rest => StopsCarried last rest

lemma stopsCarried_append (last : Option ResolverState) (first others : List WorkerEffect) :
    StopsCarried last (first ++ others) ↔
      StopsCarried last first ∨ StopsCarried ((statesOf first).getLast?.or last) others := by
  induction first generalizing last with
  | nil => simp [StopsCarried, statesOf]
  | cons effect rest ih =>
    have hstates : (statesOf (effect :: rest)).getLast?.or last =
        (statesOf rest).getLast?.or (effect.state?.or last) := by
      cases hs : effect.state? with
      | none => simp [statesOf, hs]
      | some state =>
        simp only [statesOf, List.filterMap_cons, hs, List.getLast?_cons]
        cases (List.filterMap WorkerEffect.state? rest).getLast? <;> rfl
    rw [hstates]
    cases effect with
    | stopped s =>
      simp only [List.cons_append, StopsCarried, ih, or_assoc]
      rfl
    | state state => exact ih (some state)
    | notice n => exact ih last
    | metric m => exact ih last
    | encoded answer => exact ih last
    | failure e => exact ih last

lemma not_stopsCarried {effects : List WorkerEffect} (h : ∀ s, .stopped s ∉ effects)
    (last : Option ResolverState) : ¬ StopsCarried last effects := by
  induction effects generalizing last with
  | nil => exact id
  | cons effect rest ih =>
    have hrest : ∀ s, .stopped s ∉ rest := fun s hm => h s (List.mem_cons_of_mem _ hm)
    cases effect with
    | stopped s => exact absurd List.mem_cons_self (h s)
    | state state => exact ih hrest _
    | notice n => exact ih hrest _
    | metric m => exact ih hrest _
    | encoded answer => exact ih hrest _
    | failure e => exact ih hrest _

namespace Worker

variable {encode : Encoder} {w : Worker} {e : Envelope} {s : Nat} {last : Option ResolverState}

lemma stopped_not_mem_publish (encode : Encoder) (w : Worker) (selector : Option Nat) (s : Nat) :
    .stopped s ∉ (w.publish encode selector).2.1 := by
  have hprune : .stopped s ∉ w.prune.2 := by
    simp only [prune]
    split <;> simp
  have hconfig : ∀ v : Worker, .stopped s ∉ (v.configFor encode selector).2 := by
    intro v
    simp only [configFor]
    split
    · simp
    · split <;> simp
  have hdeliver : ∀ config, .stopped s ∉ w.prune.1.deliver selector config := by
    intro config
    cases config <;> simp [deliver]
  simp only [publish, List.mem_append, not_or]
  exact ⟨⟨hprune, hconfig _⟩, hdeliver _⟩

lemma stopsCarried_stop (w : Worker) (s : Nat) (last : Option ResolverState) :
    StopsCarried last (w.stop s).2 ↔ last.bind (·.selector) = some s := by
  simp only [stop]
  split <;> simp [StopsCarried]

lemma stopsCarried_stopCurrent (w : Worker) (last : Option ResolverState) :
    StopsCarried last w.stopCurrent.2 ↔
      ∃ s, w.current = some s ∧ last.bind (·.selector) = some s := by
  simp only [stopCurrent]
  split
  · rename_i hc
    simp [StopsCarried, hc]
  · rename_i c hc
    simp [stopsCarried_stop, hc]

lemma stopsCarried_publish_append (encode : Encoder) (w : Worker) (selector : Option Nat)
    (last : Option ResolverState) (others : List WorkerEffect) :
    StopsCarried last ((w.publish encode selector).2.1 ++ others) ↔
      StopsCarried (((w.offer encode selector).map (·.state)).or last) others := by
  have hquiet := not_stopsCarried (stopped_not_mem_publish encode w selector) last
  rw [stopsCarried_append, statesOf_publish]
  cases w.offer encode selector <;> simp [hquiet]

/-- A new selector is not the one that it replaces, nor is it known to the sink when it has to be
stopped itself. -/
lemma not_stopsCarried_install (encode : Encoder) (hcurrent : w.current ≠ some s)
    (hlast : last.bind (·.selector) ≠ some s) : ¬ StopsCarried last (w.install encode s).2 := by
  have hworker := publish_worker encode w (some s)
  have hflag := publish_flag encode w (some s)
  have happend := stopsCarried_publish_append encode w (some s) last
  simp only [install]
  generalize w.publish encode (some s) = published at hworker hflag happend ⊢
  obtain ⟨next, effects, flag⟩ := published
  cases ho : w.offer encode (some s) with
  | none =>
    simp only [ho, Option.isSome_none] at hflag
    subst hflag
    show ¬ StopsCarried last (effects ++ (next.stop s).2)
    rw [happend, ho, stopsCarried_stop]
    exact hlast
  | some d =>
    simp only [ho, Option.isSome_some] at hflag
    subst hflag
    show ¬ StopsCarried last (effects ++ next.stopCurrent.2)
    simp only at hworker
    rw [happend, ho, stopsCarried_stopCurrent, hworker]
    rintro ⟨c, hc, hs⟩
    rw [Option.map_some, Option.some_or, Option.bind_some, (offer_pool ho).2] at hs
    exact hcurrent (hc.trans hs.symm)

lemma stopped_not_mem_handle (encode : Encoder) (w : Worker) (h : e.prunes = false) (s : Nat) :
    .stopped s ∉ (w.handle encode e).2 := by
  cases e with
  | service update =>
    cases ht : Selector.targetsOf update with
    | ok routes => simp [Envelope.prunes, ht, Except.toBool] at h
    | error cause =>
      simp [handle, react, handleService, Pool.build_eq_error ht, reject]
  | republish => simp [Envelope.prunes] at h
  | error cause =>
    simp only [Envelope.prunes] at h
    simp [handle, react, h, handleTrouble]

/-- Only a not-found that cannot be encoded stops a selector that the sink has. -/
theorem stopsCarried_handle (hw : w.Attached)
    (hlast : ∀ s, last.bind (·.selector) = some s → w.pool.stopped? s ≠ none) :
    StopsCarried last (w.handle encode e).2 ↔
      e.kind = .notFound ∧ w.delivery? encode e = none ∧
        ∃ s, w.current = some s ∧ last.bind (·.selector) = some s := by
  obtain hnot | ⟨cause, hf, rfl⟩ | rfl | ⟨update, pool, s, hb, rfl, -⟩ := envelope_cases w e
  · have hquiet := not_stopsCarried (stopped_not_mem_handle encode w hnot) last
    simp [hquiet, kind_ne_notFound hnot]
  · simp only [handle, react, hf, if_true, handleNotFound]
    show StopsCarried last ((w.publish encode none).2.1 ++ _) ↔ _
    rw [stopsCarried_publish_append, stopsCarried_stopCurrent, publish_worker]
    simp only [Envelope.kind, hf, if_true, true_and, delivery?]
    cases ho : w.offer encode none with
    | none => simp
    | some d => simp [(offer_pool ho).2]
  · simp only [handle, react, handleRepublish]
    have hquiet := not_stopsCarried (stopped_not_mem_publish encode w w.current) last
    simp [StopsCarried, hquiet, Envelope.kind]
  · have hfresh := Pool.stopped?_eq_none_of_build hb
    have hcurrent : w.current ≠ some s := by
      intro hc
      rw [hw s hc] at hfresh
      cases hfresh
    have hcarried : last.bind (·.selector) ≠ some s := fun hc => hlast s hc hfresh
    have hquiet := not_stopsCarried_install (w := { w with pool }) encode hcurrent hcarried
    simp only [handle, react, handleService, hb]
    simp [StopsCarried, hquiet, Envelope.kind]

end Worker

def WorkerAct.IsNotFound (act : WorkerAct) : Prop :=
  ∃ e, act.envelope? = some e ∧ e.kind = .notFound

namespace Worker

variable {encode : Encoder} {w : Worker} {act : WorkerAct} {last : Option ResolverState}

lemma perform_current_of_delivery {d : Delivery} (hd : w.delivered? encode act = some d) :
    (w.perform encode act).1.current = d.state.selector := by
  obtain ⟨e, rfl, hd⟩ := delivered?_eq_some hd
  exact handle_current_of_delivery hd

lemma isNotFound_handle_iff {e : Envelope} :
    (WorkerAct.handle e).IsNotFound ↔ e.kind = .notFound := by
  simp [WorkerAct.IsNotFound, WorkerAct.envelope?]

lemma perform_current_of_no_delivery (hd : w.delivered? encode act = none) :
    ((w.perform encode act).1.current = none ∧ act.IsNotFound) ∨
      ((w.perform encode act).1.current = w.current ∧ ¬ act.IsNotFound) := by
  obtain ⟨e, rfl⟩ | ⟨hact, hperform⟩ := perform_cases encode w act
  · have hcurrent := handle_current_of_no_delivery (e := e) hd
    rw [isNotFound_handle_iff]
    by_cases hk : e.kind = .notFound
    · exact .inl ⟨hcurrent.trans (if_pos hk), hk⟩
    · exact .inr ⟨hcurrent.trans (if_neg hk), hk⟩
  · refine .inr ⟨?_, by simp [WorkerAct.IsNotFound, hact]⟩
    obtain hsame | ⟨s, pool, lease, -, hnext⟩ | ⟨lease, pool, outcomes, -, hnext⟩ := hperform
    · rw [hsame]
    · rw [hnext]
    · rw [hnext, afterRelease_current]

lemma stopped?_perform_notFound (hw : w.Attached) {s : Nat} (hc : w.current = some s)
    (hact : act.IsNotFound) : (w.perform encode act).1.pool.stopped? s = some true := by
  obtain ⟨e, he, hk⟩ := hact
  cases act with
  | handle other =>
    cases he
    exact stopped?_handle_notFound hw hc hk
  | retain s => cases he
  | dropLease lease => cases he

lemma stopsCarried_perform (hw : w.Attached)
    (hlast : ∀ s, last.bind (·.selector) = some s → w.pool.stopped? s ≠ none) :
    StopsCarried last (w.perform encode act).2 ↔
      act.IsNotFound ∧ w.delivered? encode act = none ∧
        ∃ s, w.current = some s ∧ last.bind (·.selector) = some s := by
  cases act with
  | handle e =>
    rw [isNotFound_handle_iff]
    exact stopsCarried_handle hw hlast
  | retain s => simp [perform, StopsCarried, WorkerAct.IsNotFound, WorkerAct.envelope?]
  | dropLease lease => simp [perform, StopsCarried, WorkerAct.IsNotFound, WorkerAct.envelope?]

end Worker

namespace Moment

/-- A not-found is handled while there is a selector, and its state cannot be encoded. -/
def Abandons (m : Moment) : Prop :=
  (∃ e, m.handled = some e ∧ e.kind = .notFound) ∧ m.delivery = none ∧ m.before.current ≠ none

def Delivers (m : Moment) : Prop := m.delivery ≠ none

end Moment

namespace WorkerRun

variable {encode : Encoder} {run : WorkerRun} {act : WorkerAct}

/-- What the sink has, against what the worker has. -/
structure Tracked (run : WorkerRun) : Prop where
  sound : run.Sound
  silent : run.last? = none → run.worker.current = none
  inStep : Moment.Answered Moment.Abandons Moment.Delivers run.moments →
    ∀ state, run.last? = some state → state.selector = run.worker.current
  adrift : ¬ Moment.Answered Moment.Abandons Moment.Delivers run.moments →
    run.worker.current = none ∧ ∃ state s, run.last? = some state ∧ state.selector = some s ∧
      run.worker.pool.stopped? s = some true
  stops : StopsCarried none run.effects ↔ ∃ m ∈ run.moments, m.Abandons

lemma tracked_start (endpoint : String) : (start endpoint).Tracked where
  sound := sound_start endpoint
  silent := fun _ => rfl
  inStep := by
    intro _ state hlast
    cases hlast
  adrift := fun h => absurd Moment.answered_nil h
  stops := by simp [start, StopsCarried]

lemma Tracked.last_of_current (h : run.Tracked) {s : Nat} (hc : run.worker.current = some s) :
    run.last?.bind (·.selector) = some s := by
  cases hlast : run.last? with
  | none => simp [h.silent hlast] at hc
  | some state =>
    by_cases hanswered : Moment.Answered Moment.Abandons Moment.Delivers run.moments
    · exact (h.inStep hanswered state hlast).trans hc
    · simp [(h.adrift hanswered).1] at hc

lemma Tracked.known (h : run.Tracked) {s : Nat} (hs : run.last?.bind (·.selector) = some s) :
    run.worker.pool.stopped? s ≠ none := by
  obtain ⟨state, hlast, hsel⟩ := Option.bind_eq_some_iff.mp hs
  by_cases hanswered : Moment.Answered Moment.Abandons Moment.Delivers run.moments
  · have hc := (h.inStep hanswered state hlast).symm.trans hsel
    simp [h.sound.attached s hc]
  · obtain ⟨-, same, c, hsame, hcarried, hstopped⟩ := h.adrift hanswered
    rw [hlast, Option.some.injEq] at hsame
    subst hsame
    rw [hsel, Option.some.injEq] at hcarried
    subst hcarried
    simp [hstopped]

/-- The act hands the worker a not-found whose state cannot be encoded, while it has a selector. -/
def Abandons (encode : Encoder) (run : WorkerRun) (act : WorkerAct) : Prop :=
  act.IsNotFound ∧ run.worker.delivered? encode act = none ∧ run.worker.current ≠ none

lemma answered_next (encode : Encoder) (run : WorkerRun) (act : WorkerAct) :
    Moment.Answered Moment.Abandons Moment.Delivers (run.next encode act).moments ↔
      ¬ run.Abandons encode act ∧
        (Moment.Answered Moment.Abandons Moment.Delivers run.moments ∨
          run.worker.delivered? encode act ≠ none) :=
  Moment.answered_append_singleton

lemma Tracked.stops_next (h : run.Tracked) :
    StopsCarried none (run.next encode act).effects ↔
      ∃ m ∈ (run.next encode act).moments, m.Abandons := by
  have hact : StopsCarried run.last? (run.worker.perform encode act).2 ↔
      run.Abandons encode act := by
    rw [Worker.stopsCarried_perform h.sound.attached fun s => h.known]
    refine and_congr_right' (and_congr_right' ?_)
    constructor
    · rintro ⟨s, hc, -⟩
      simp [hc]
    · intro hc
      obtain ⟨s, hs⟩ := Option.ne_none_iff_exists'.mp hc
      exact ⟨s, hs, h.last_of_current hs⟩
  have hmoments : (∃ m ∈ (run.next encode act).moments, m.Abandons) ↔
      (∃ m ∈ run.moments, m.Abandons) ∨ run.Abandons encode act := by
    simp only [WorkerRun.next, List.mem_append, List.mem_singleton, or_and_right, exists_or,
      exists_eq_left]
    rfl
  rw [hmoments, ← h.stops, ← hact]
  show StopsCarried none (run.effects ++ _) ↔ _
  rw [stopsCarried_append, Option.or_none]
  rfl

lemma Tracked.next_of_delivery (h : run.Tracked) {d : Delivery}
    (hd : run.worker.delivered? encode act = some d) : (run.next encode act).Tracked := by
  have hlast : (run.next encode act).last? = some d.state := by simp [last?_next, hd]
  have hanswered := answered_next encode run act
  refine ⟨h.sound.next, ?_, ?_, ?_, h.stops_next⟩
  · intro hnone
    simp [hlast] at hnone
  · intro _ state hstate
    rw [hlast, Option.some.injEq] at hstate
    rw [← hstate]
    exact (Worker.perform_current_of_delivery hd).symm
  · intro hnot
    refine absurd (hanswered.mpr ⟨?_, .inr (by simp [hd])⟩) hnot
    rintro ⟨-, hnone, -⟩
    simp [hd] at hnone

lemma Tracked.next_of_no_delivery (h : run.Tracked)
    (hd : run.worker.delivered? encode act = none) : (run.next encode act).Tracked := by
  have hlast : (run.next encode act).last? = run.last? := by simp [last?_next, hd]
  have hanswered := answered_next encode run act
  simp only [hd, ne_eq, not_true, or_false] at hanswered
  have hleads := Worker.leads_perform encode run.worker act
  refine ⟨h.sound.next, ?_, ?_, ?_, h.stops_next⟩
  all_goals rw [hlast]
  · intro hnone
    obtain ⟨hc, -⟩ | ⟨hc, -⟩ := Worker.perform_current_of_no_delivery hd
    · exact hc
    · exact hc.trans (h.silent hnone)
  · intro hans state hstate
    obtain ⟨hkept, hbefore⟩ := hanswered.mp hans
    have hsel := h.inStep hbefore state hstate
    obtain ⟨hc, hact⟩ | ⟨hc, -⟩ := Worker.perform_current_of_no_delivery hd
    · have hnone : run.worker.current = none := by
        by_contra hsome
        exact hkept ⟨hact, hd, hsome⟩
      exact hsel.trans (hnone.trans hc.symm)
    · exact hsel.trans hc.symm
  · intro hnot
    by_cases hbefore : Moment.Answered Moment.Abandons Moment.Delivers run.moments
    · have habandons : run.Abandons encode act := by
        by_contra hkept
        exact hnot (hanswered.mpr ⟨hkept, hbefore⟩)
      obtain ⟨hact, -, hsome⟩ := habandons
      obtain ⟨s, hs⟩ := Option.ne_none_iff_exists'.mp hsome
      obtain ⟨state, hstate, hsel⟩ := Option.bind_eq_some_iff.mp (h.last_of_current hs)
      obtain ⟨hc, -⟩ | ⟨-, hother⟩ := Worker.perform_current_of_no_delivery hd
      · exact ⟨hc, state, s, hstate, hsel,
          Worker.stopped?_perform_notFound h.sound.attached hs hact⟩
      · exact absurd hact hother
    · obtain ⟨hnone, state, s, hstate, hsel, hstopped⟩ := h.adrift hbefore
      refine ⟨?_, state, s, hstate, hsel, h.sound.pool.stopped?_of_leads hleads hstopped⟩
      obtain ⟨hc, -⟩ | ⟨hc, -⟩ := Worker.perform_current_of_no_delivery hd
      · exact hc
      · exact hc.trans hnone

lemma Tracked.next (h : run.Tracked) : (run.next encode act).Tracked := by
  cases hd : run.worker.delivered? encode act with
  | none => exact h.next_of_no_delivery hd
  | some d => exact h.next_of_delivery hd

theorem tracked_of (endpoint : String) (script : List (Encoder × WorkerAct)) :
    (of endpoint script).Tracked := by
  induction script using List.reverseRecOn with
  | nil => exact tracked_start endpoint
  | append_singleton script step ih =>
    rw [of_append_singleton]
    exact ih.next

/-- Once something has been published, the sink has the current selector, not stopped, if and only
if every not-found that could not be encoded while there was a selector was followed by another
delivery. Otherwise the sink has a selector that was stopped. And no selector is ever stopped while
the sink has it, if and only if there was no such not-found at all. -/
theorem sink_in_step_iff (endpoint : String) (script : List (Encoder × WorkerAct)) :
    let run := of endpoint script
    let recovered := Moment.Answered Moment.Abandons Moment.Delivers run.moments
    (∀ state, run.last? = some state →
      (state.selector = run.worker.current ∧
          (∀ s, state.selector = some s → run.worker.pool.stopped? s = some false) ↔
        recovered) ∧
      (¬ recovered → ∃ s, state.selector = some s ∧ run.worker.pool.stopped? s = some true)) ∧
    (¬ StopsCarried none run.effects ↔ ∀ m ∈ run.moments, ¬ m.Abandons) := by
  intro run recovered
  have h : run.Tracked := tracked_of endpoint script
  have hadrift : ∀ state, run.last? = some state → ¬ recovered → run.worker.current = none ∧
      ∃ s, state.selector = some s ∧ run.worker.pool.stopped? s = some true := by
    intro state hlast hnot
    obtain ⟨hnone, same, s, hsame, hsel, hstopped⟩ := h.adrift hnot
    rw [hlast, Option.some.injEq] at hsame
    exact ⟨hnone, s, hsame ▸ hsel, hstopped⟩
  refine ⟨?_, ?_⟩
  · intro state hlast
    refine ⟨⟨?_, ?_⟩, fun hnot => (hadrift state hlast hnot).2⟩
    · rintro ⟨-, hstands⟩
      by_contra hnot
      obtain ⟨-, s, hsel, hstopped⟩ := hadrift state hlast hnot
      rw [hstands s hsel] at hstopped
      cases hstopped
    · intro hrecovered
      have hsel := h.inStep hrecovered state hlast
      exact ⟨hsel, fun s hs => h.sound.attached s (hsel.symm.trans hs)⟩
  · rw [h.stops]
    simp only [not_exists, not_and]

/-- A leased selector is in service when its service is removed and the encoder fails. -/
def removedUnencoded : List (Encoder × WorkerAct) :=
  [(standard, .handle (.service (.serving "a"))),
    (standard, .retain 0),
    (fun _ => .error "unencodable cluster", .handle (.error ⟨.resourceNotFound, "gone"⟩))]

/-- The selector is stopped all the same, while the sink still has it. -/
theorem stopped_in_sink_after_removal :
    (of "svc" removedUnencoded).last?.bind (·.selector) = some 0 ∧
    (of "svc" removedUnencoded).worker.current = none ∧
    (of "svc" removedUnencoded).worker.pool.stopped? 0 = some true := by
  decide

end WorkerRun
end MeshRouting
