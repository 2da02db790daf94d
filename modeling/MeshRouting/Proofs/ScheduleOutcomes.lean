import MeshRouting.Proofs.ServedMailboxes
import MeshRouting.Proofs.StoppedSelectors
import Mathlib.Logic.Function.Iterate

/-!
# Outcomes of schedules

Where every update that is pushed to an open resolver prunes, what is left at rest comes of the
last push alone. Which of the others were overwritten, when leases came and went and how often the
marker was posted make no difference: the marker never displaces an update, and handling it leaves
nothing to handle.
-/
namespace MeshRouting

open ServiceConfig

namespace Pool

lemma stop_length (p : Pool) (s : Nat) :
    (p.stop s).1.selectors.length = p.selectors.length := by
  simp only [stop]
  split
  · rfl
  · split
    · rfl
    · rw [release_length]
      exact List.length_set

/-- The selector that an update leaves: the newest, which routes as the update says, and none
after an error. -/
def BuiltFrom (p : Pool) (selector : Option Nat) : Except WatchError ServiceUpdate → Prop
  | .ok update => ∃ s built, selector = some s ∧ s + 1 = p.selectors.length ∧
      p.selectors[s]? = some built ∧ Selector.targetsOf update = .ok built.routes ∧
      built.clusterNames = (Selector.clustersOf built.routes).toList
  | .error _ => selector = none

lemma BuiltFrom.of_leads {p q : Pool} {selector : Option Nat}
    {update : Except WatchError ServiceUpdate} (h : p.BuiltFrom selector update) (hp : p.Sound)
    (hl : p.Leads q) (hlength : q.selectors.length = p.selectors.length) :
    q.BuiltFrom selector update := by
  cases update with
  | ok update =>
    obtain ⟨s, built, hc, hnewest, hs, hroutes, hclusters⟩ := h
    obtain ⟨later, hlater, hage⟩ := hp.ages hl hs
    refine ⟨s, later, hc, hlength ▸ hnewest, hlater, ?_, ?_⟩
    · rw [hage.routes, hroutes]
    · rw [Selector.clusterNames, hage.clusters, hage.routes]
      exact hclusters
  | error cause => exact h

end Pool

namespace Worker

variable {w : Worker} {e : Envelope} {act : WorkerAct}

lemma stopCurrent_length (w : Worker) :
    w.stopCurrent.1.pool.selectors.length = w.pool.selectors.length := by
  simp only [stopCurrent]
  split
  · rfl
  · rw [stop_pool, Pool.stop_length]

lemma perform_length (hact : act.envelope? = none) :
    (w.perform standard act).1.pool.selectors.length = w.pool.selectors.length := by
  obtain ⟨e, rfl⟩ | ⟨-, hsame | ⟨s, pool, lease, hp, hnext⟩ |
    ⟨lease, pool, outcomes, hp, hnext⟩⟩ := perform_cases standard w act
  · cases hact
  · rw [hsame]
  · rw [hnext]
    exact Pool.retain_length hp
  · rw [hnext, afterRelease_pool]
    exact Pool.dropLease_length hp

/-! ### What comes of an update -/

lemma builtFrom_handle {update : Except WatchError ServiceUpdate} (hp : w.pool.Sound)
    (hprunes : (Envelope.ofWatch update).prunes = true) :
    (w.handle standard (.ofWatch update)).1.pool.BuiltFrom
      (w.handle standard (.ofWatch update)).1.current update := by
  cases update with
  | error cause =>
    show (w.handle standard (.error cause)).1.current = none
    rw [handle_notFound hprunes, stopCurrent_current]
  | ok update =>
    obtain hnot | ⟨_, _, he⟩ | he | ⟨same, pool, s, hb, he, -⟩ := envelope_cases w (.service update)
    · rw [show (Envelope.service update).prunes = true from hprunes] at hnot
      cases hnot
    · cases he
    · cases he
    · cases he
      obtain ⟨routes, hroutes, rfl, hpool⟩ := Pool.eq_of_build hb
      have hsent : ({ w with pool }.offer standard (some w.pool.selectors.length)).isSome := by
        simp [offer_standard]
      have hbuilt : pool.prune.selectors[w.pool.selectors.length]? =
          some (Pool.built w.pool.table routes) := by
        simp [hpool, Pool.prune]
      have hsound : pool.prune.Sound :=
        hp.of_leads ((Pool.leads_build hb).trans (Pool.leads_prune pool))
      have hleads := leads_stopCurrent { w with pool := pool.prune }
      obtain ⟨later, hlater, hage⟩ := hsound.ages hleads hbuilt
      show Pool.BuiltFrom (w.handle standard (.service update)).1.pool
        (w.handle standard (.service update)).1.current (.ok update)
      rw [handle_service hb, install_worker, if_pos hsent]
      refine ⟨_, later, rfl, ?_, hlater, ?_, ?_⟩
      · show _ = (stopCurrent _).1.pool.selectors.length
        rw [stopCurrent_length]
        simp [hpool, Pool.prune]
      · rw [hage.routes]
        exact hroutes
      · rw [Selector.clusterNames, hage.clusters, hage.routes]
        exact Pool.acquireAll_names

end Worker
namespace WorkerRun

/-- The last state is that of some delivery. -/
lemma Announced.config_of_last {run : WorkerRun} (h : run.Announced) {state : ResolverState}
    (hlast : run.last? = some state) :
    ∃ d ∈ run.deliveries, state.config = configOf state.selector d.pool.heldClusters.toList := by
  have hm : state ∈ statesOf run.effects := List.mem_of_getLast? hlast
  rw [h.sound.states] at hm
  obtain ⟨d, hd, rfl⟩ := List.mem_map.mp hm
  exact ⟨d, hd, h.configs d hd⟩

end WorkerRun

def OpenEvent.push? : OpenEvent → Option (Except WatchError ServiceUpdate)
  | .push update => some update
  | _ => none

namespace OpenRun

/-- What is still to be handled apart from the marker; an unread update comes after one in hand. -/
def ahead? (run : OpenRun) : Option Envelope :=
  run.worker.mailbox.update?.or (run.hand.filter (· ≠ .republish))

/-- The sink has the selector that the worker has. -/
def InStep (run : OpenRun) : Prop :=
  ∃ state, run.last? = some state ∧ state.selector = run.worker.current

/-- What a run keeps if every update prunes, where `last` is the last one. -/
structure Headed (run : OpenRun) (last : Option (Except WatchError ServiceUpdate)) : Prop where
  kept : run.Kept
  serves : run.worker.mailbox.Serves
  busy : run.hand ≠ none → run.worker.mailbox.runnable = [Worker.consumer]
  sole : run.worker.Sole
  handled : ∀ m ∈ run.moments, ∀ e, m.handled = some e → e.prunes = true
  unhandled : ∀ e, run.hand = some e ∨ run.worker.mailbox.slot = some e → e.prunes = true
  awaits : ∀ e, run.ahead? = some e → last.map Envelope.ofWatch = some e
  follows : run.ahead? = none → ∀ update, last = some update →
    run.worker.pool.BuiltFrom run.worker.current update ∧ run.InStep

variable {run : OpenRun} {last : Option (Except WatchError ServiceUpdate)}

lemma headed_start (endpoint : String) : (start endpoint).Headed none where
  kept := kept_start endpoint
  serves := ⟨rfl, .inl ⟨rfl, rfl⟩⟩
  busy := fun _ => rfl
  sole := by
    intro s
    simp [start, WorkerRun.start, Worker.start, Pool.stopped?, Pool.empty]
  handled := by simp [start, WorkerRun.start]
  unhandled := by simp [start, WorkerRun.start, Worker.start, Mailbox.spawn]
  awaits := by simp [ahead?, start, WorkerRun.start, Worker.start, Mailbox.spawn, Mailbox.update?]
  follows := by simp

lemma Headed.push (h : run.Headed last) {update : Except WatchError ServiceUpdate}
    (hprunes : (Envelope.ofWatch update).prunes = true) :
    (run.push (.ofWatch update)).Headed (some update) := by
  obtain ⟨hslot, hrun⟩ := Mailbox.publish_of_serves h.serves (.ofWatch update)
  have hne : Envelope.ofWatch update ≠ .republish := by
    cases update <;> simp [Envelope.ofWatch]
  have hahead : (run.push (.ofWatch update)).ahead? = some (.ofWatch update) := by
    simp [ahead?, OpenRun.push, Mailbox.update?, hslot, hne]
  refine ⟨h.kept.push _, h.serves.publish _, fun _ => hrun, h.sole, h.handled, ?_, ?_, ?_⟩
  · intro e he
    rcases he with he | he
    · exact h.unhandled e (.inl he)
    · rw [← Option.some.inj (hslot.symm.trans he)]
      exact hprunes
  · intro e he
    exact hahead.symm.trans he
  · intro hnone
    rw [hahead] at hnone
    cases hnone

lemma Headed.look (h : run.Headed last) : run.look.Headed last := by
  have hkept := h.kept.look
  cases hhand : run.hand with
  | some e =>
    have hsame : run.look = run := by simp [OpenRun.look, hhand]
    rwa [hsame]
  | none =>
    obtain ⟨-, -, hlook⟩ | ⟨hslot, mailbox, hserves, hrun, hempty, hlook⟩ |
      ⟨e, hslot, -, mailbox, hserves, hrun, hempty, hlook⟩ := Worker.look_of_serves h.serves
    · have hsame : run.look = run := by
        simp only [OpenRun.look, hhand, hlook]
        rw [← hhand]
      rwa [hsame]
    · have hahead : run.ahead? = none := by simp [ahead?, Mailbox.update?, hhand, hslot]
      simp only [OpenRun.look, hhand, hlook] at hkept ⊢
      refine ⟨hkept, hserves, fun hne => absurd rfl hne, h.sole, h.handled, ?_, ?_, fun _ => ?_⟩
      · intro e he
        simp [hempty] at he
      · intro e he
        simp [ahead?, Mailbox.update?, hempty] at he
      · exact h.follows hahead
    · have hahead : run.ahead? = (some e).filter (· ≠ .republish) := by
        simp [ahead?, Mailbox.update?, hhand, hslot]
      simp only [OpenRun.look, hhand, hlook] at hkept ⊢
      have hnext : ahead? ⟨{ run.toWorkerRun with worker := { run.worker with mailbox } }, some e⟩ =
          run.ahead? := by
        simp [ahead?, Mailbox.update?, hempty, hhand, hslot]
      refine ⟨hkept, hserves, fun _ => hrun, h.sole, h.handled, ?_, ?_, ?_⟩
      · intro other ho
        refine h.unhandled other (.inr ?_)
        simpa [hempty, hslot] using ho
      · intro other ho
        exact h.awaits other (hnext.symm.trans ho)
      · intro hnone
        exact h.follows (hnext.symm.trans hnone)

/-- What an act of the worker keeps, if it hands the worker only what prunes. -/
lemma Headed.acts (h : run.Headed last) {act : WorkerAct} {hand : Option Envelope}
    (hkept : (run.act act hand).Kept) (hhand : hand = none ∨ hand = run.hand)
    (hprunes : ∀ e, act.envelope? = some e → e.prunes = true)
    (hawaits : ∀ e, (run.act act hand).ahead? = some e → run.ahead? = some e)
    (hfollows : (run.act act hand).ahead? = none → ∀ update, last = some update →
      (run.act act hand).worker.pool.BuiltFrom (run.act act hand).worker.current update ∧
        (run.act act hand).InStep) :
    (run.act act hand).Headed last := by
  have hmailbox := Worker.perform_mailbox standard run.worker act
  refine ⟨hkept, ?_, ?_, h.sole.perform standard act, ?_, ?_, ?_, hfollows⟩
  · show (run.worker.perform standard act).1.mailbox.Serves
    rcases hmailbox with hm | hm
    · rw [hm]
      exact h.serves
    · rw [hm]
      exact h.serves.nudge
  · intro hne
    have hbefore : run.hand ≠ none := by
      rcases hhand with rfl | rfl
      · exact absurd rfl hne
      · exact hne
    show (run.worker.perform standard act).1.mailbox.runnable = _
    rcases hmailbox with hm | hm
    · rw [hm]
      exact h.busy hbefore
    · rw [hm]
      exact h.serves.runnable_nudge (h.busy hbefore)
  · intro m hm e he
    rcases List.mem_append.mp hm with hm | hm
    · exact h.handled m hm e he
    · rw [List.mem_singleton.mp hm] at he
      exact hprunes e he
  · intro e he
    rcases he with he | he
    · rcases hhand with rfl | rfl
      · cases he
      · exact h.unhandled e (.inl he)
    · have he : (run.worker.perform standard act).1.mailbox.slot = some e := he
      rcases hmailbox with hm | hm
      · exact h.unhandled e (.inr (hm ▸ he))
      · rw [hm] at he
        rcases Mailbox.slot_nudge he with rfl | he
        · rfl
        · exact h.unhandled e (.inr he)
  · intro e he
    exact h.awaits e (hawaits e he)

lemma update?_perform (w : Worker) (act : WorkerAct) :
    (w.perform standard act).1.mailbox.update? = w.mailbox.update? := by
  obtain hm | hm := Worker.perform_mailbox standard w act
  · rw [hm]
  · rw [hm, Mailbox.update?_nudge]

lemma inStep_next {act : WorkerAct} {hand : Option Envelope} (h : run.InStep)
    (hcurrent : (run.worker.perform standard act).1.current = run.worker.current)
    (hd : run.worker.delivered? standard act = none) : (run.act act hand).InStep := by
  obtain ⟨state, hstate, hselector⟩ := h
  refine ⟨state, ?_, hselector.trans hcurrent.symm⟩
  show (run.toWorkerRun.next standard act).last? = some state
  rw [WorkerRun.last?_next, hd]
  exact hstate

lemma inStep_of_delivery {act : WorkerAct} {hand : Option Envelope} {d : Delivery}
    (hd : run.worker.delivered? standard act = some d) : (run.act act hand).InStep := by
  refine ⟨d.state, ?_, (Worker.perform_current_of_delivery hd).symm⟩
  show (run.toWorkerRun.next standard act).last? = some d.state
  rw [WorkerRun.last?_next, hd]
  rfl

/-- Taking and dropping leases changes neither the current selector nor what is ahead. -/
lemma Headed.lease (h : run.Headed last) {act : WorkerAct} (hact : act.envelope? = none) :
    (run.act act run.hand).Headed last := by
  have hahead : (run.act act run.hand).ahead? = run.ahead? :=
    congrArg (fun update? : Option Envelope => update?.or _) (update?_perform run.worker act)
  have hd : run.worker.delivered? standard act = none := by simp [Worker.delivered?, hact]
  have hcurrent : (run.worker.perform standard act).1.current = run.worker.current := by
    obtain ⟨-, e, he, -⟩ | ⟨hc, -⟩ := Worker.perform_current_of_no_delivery hd
    · rw [hact] at he
      cases he
    · exact hc
  refine h.acts (h.kept.act (.inr rfl)) (.inr rfl) (by simp [hact]) (fun e he => hahead ▸ he) ?_
  intro hnone update hlast
  obtain ⟨hbuilt, hstep⟩ := h.follows (hahead.symm.trans hnone) update hlast
  refine ⟨?_, inStep_next hstep hcurrent hd⟩
  show Pool.BuiltFrom _ (run.worker.perform standard act).1.current update
  rw [hcurrent]
  exact hbuilt.of_leads h.kept.announced.sound.pool (Worker.leads_perform standard _ act)
    (Worker.perform_length hact)

/-- Once an update is handled the worker follows it, unless a newer one is unread. -/
lemma Headed.handle (h : run.Headed last) {e : Envelope} (he : run.hand = some e) :
    (run.act (.handle e) none).Headed last := by
  have hprunes : e.prunes = true := h.unhandled e (.inl he)
  have hahead : (run.act (.handle e) none).ahead? = run.worker.mailbox.update? :=
    (Option.or_none).trans (update?_perform run.worker (.handle e))
  obtain ⟨d, hd⟩ : ∃ d, run.worker.delivery? standard e = some d := by
    refine Option.ne_none_iff_exists'.mp fun hnone => ?_
    rw [Worker.delivery?_standard_eq_none hnone] at hprunes
    cases hprunes
  refine h.acts (h.kept.act (.inl ⟨e, rfl⟩)) (.inl rfl) ?_ ?_ ?_
  · intro other ho
    rw [← Option.some.inj ho]
    exact hprunes
  · intro other ho
    rw [hahead] at ho
    simp [ahead?, ho]
  · intro hnone update hlast
    refine ⟨?_, inStep_of_delivery hd⟩
    rw [hahead] at hnone
    have hsound := h.kept.announced.sound.pool
    by_cases hmarker : e = .republish
    · -- the marker prunes and leaves the selector, so what held before it still holds
      subst hmarker
      have hbefore : run.ahead? = none := by simp [ahead?, hnone, he]
      have hsame : (run.worker.handle standard .republish).1 =
          { run.worker with pool := run.worker.pool.prune } := Worker.handle_republish
      show Pool.BuiltFrom (run.worker.handle standard .republish).1.pool _ update
      rw [OpenRun.act, WorkerRun.next, Worker.perform, hsame]
      exact (h.follows hbefore update hlast).1.of_leads hsound (Pool.leads_prune _) rfl
    · have hbefore : run.ahead? = some e := by simp [ahead?, hnone, he, hmarker]
      have hwatch : Envelope.ofWatch update = e := by
        simpa [hlast] using h.awaits e hbefore
      subst hwatch
      exact Worker.builtFrom_handle hsound hprunes

lemma Headed.next (h : run.Headed last) (event : OpenEvent)
    (hprunes : ∀ update, event = .push update → (Envelope.ofWatch update).prunes = true) :
    (run.next event).Headed (event.push?.or last) := by
  cases event with
  | push update => exact h.push (hprunes update rfl)
  | look => exact h.look
  | handle =>
    simp only [OpenRun.next]
    cases he : run.hand with
    | none => exact h
    | some e => exact h.handle he
  | retain s => exact h.lease rfl
  | dropLease lease => exact h.lease rfl

/-- The last of the updates that are pushed. -/
def lastPush? (events : List OpenEvent) : Option (Except WatchError ServiceUpdate) :=
  (events.filterMap OpenEvent.push?).getLast?

theorem headed_of (endpoint : String) {events : List OpenEvent}
    (h : ∀ update, .push update ∈ events → (Envelope.ofWatch update).prunes = true) :
    (of endpoint events).Headed (lastPush? events) := by
  induction events using List.reverseRecOn with
  | nil => exact headed_start endpoint
  | append_singleton events event ih =>
    have hof : of endpoint (events ++ [event]) = (of endpoint events).next event := by
      simp [of, List.foldl_append]
    have hlast : lastPush? (events ++ [event]) = event.push?.or (lastPush? events) := by
      cases event <;> simp [lastPush?, OpenEvent.push?]
    rw [hof, hlast]
    refine (ih fun update hm => h update ?_).next event fun update he => h update ?_
    · exact List.mem_append_left _ hm
    · simp [he]

/-! ### Coming to rest -/

/-- What the worker does next if it is left alone. -/
def proceed (run : OpenRun) : OpenRun := run.next (if run.hand.isSome then .handle else .look)

/-- The number of envelopes that the worker has taken from its mailbox. -/
def taken (run : OpenRun) : Nat :=
  run.moments.countP (·.handled.isSome) + run.hand.toList.length

/-- What is left to take at most: an update may leave the marker behind. -/
def toTake (run : OpenRun) : Nat :=
  match run.worker.mailbox.slot with
  | some .republish => 1
  | some _ => 2
  | none => (run.hand.filter (· ≠ .republish)).toList.length

/-- What is left to do at most: to take an envelope, to handle one, and to wait. -/
def work (run : OpenRun) : Nat :=
  2 * run.toTake + run.hand.toList.length + run.worker.mailbox.runnable.length

lemma length_toList_le_one (e? : Option Envelope) : e?.toList.length ≤ 1 := by
  cases e? <;> simp

lemma toTake_le_two (run : OpenRun) : run.toTake ≤ 2 := by
  unfold toTake
  split
  · exact Nat.le_succ 1
  · exact Nat.le_refl 2
  · exact (length_toList_le_one _).trans (Nat.le_succ 1)

lemma Headed.length_runnable_le (h : run.Headed last) :
    run.worker.mailbox.runnable.length ≤ 1 := by
  obtain ⟨-, ⟨hrun, -⟩ | ⟨hrun, -⟩⟩ := h.serves <;> simp [hrun]

lemma Headed.work_le_six (h : run.Headed last) : run.work ≤ 6 := by
  have hrun := h.length_runnable_le
  have hhand := length_toList_le_one run.hand
  have htake := run.toTake_le_two
  unfold work
  omega

lemma quiescent_of_work (h : run.work = 0) : run.Quiescent := by
  unfold work at h
  have htake : run.toTake = 0 := by omega
  have hhand : run.hand.toList.length = 0 := by omega
  have hrun : run.worker.mailbox.runnable.length = 0 := by omega
  refine ⟨?_, ?_, ?_⟩
  · unfold toTake at htake
    split at htake
    · cases htake
    · cases htake
    · assumption
  · cases he : run.hand with
    | none => rfl
    | some e => simp [he] at hhand
  · simp [Worker.isBusy, List.length_eq_zero_iff.mp hrun]

/-- Handling the marker leaves nothing to take, and an update leaves the marker at most. -/
lemma toTake_handle {e : Envelope} (he : run.hand = some e) :
    (run.act (.handle e) none).toTake ≤ run.toTake := by
  let next := (run.worker.handle standard e).1
  have hmailbox : next.mailbox = run.worker.mailbox ∨ next.mailbox = run.worker.mailbox.nudge.1 :=
    Worker.handle_mailbox standard run.worker e
  show (match next.mailbox.slot with
    | some .republish => 1
    | some _ => 2
    | none => 0) ≤ run.toTake
  unfold toTake
  cases hslot : run.worker.mailbox.slot with
  | some unread =>
    have hkept : next.mailbox.slot = some unread := by
      rcases hmailbox with hm | hm
      · rw [hm, hslot]
      · rw [hm, Mailbox.nudge_slot_of_ne_none (by simp [hslot]), hslot]
    rw [hkept]
    cases unread <;> exact Nat.le_refl _
  | none =>
    -- only an update can leave the marker behind, and it counts for one more itself
    by_cases hmarker : e = .republish
    · have hsame : next = { run.worker with pool := run.worker.pool.prune } := by
        subst hmarker
        exact Worker.handle_republish
      rw [hsame]
      simp [hslot]
    · have hpost : next.mailbox.slot = none ∨ next.mailbox.slot = some .republish := by
        rcases hmailbox with hm | hm
        · exact .inl (hm ▸ hslot)
        · cases hn : next.mailbox.slot with
          | none => exact .inl rfl
          | some unread =>
            rcases Mailbox.slot_nudge (hm ▸ hn) with rfl | hs
            · exact .inr rfl
            · rw [hslot] at hs
              cases hs
      rcases hpost with hn | hn <;> simp [hn, he, hmarker, Option.filter_some]

lemma taken_handle {e : Envelope} (he : run.hand = some e) :
    (run.act (.handle e) none).taken = run.taken := by
  simp [taken, OpenRun.act, WorkerRun.next, WorkerAct.envelope?, he]

lemma Headed.work_handle (h : run.Headed last) {e : Envelope} (he : run.hand = some e) :
    (run.act (.handle e) none).work < run.work := by
  have htake := toTake_handle he
  have hbusy : run.worker.mailbox.runnable.length = 1 := by
    rw [h.busy (by simp [he])]
    rfl
  have hrun := (h.handle he).length_runnable_le
  have hempty : (run.act (.handle e) none).hand = none := rfl
  unfold work
  rw [hempty, he, hbusy]
  simp only [Option.toList_none, Option.toList_some, List.length_nil, List.length_singleton]
  omega

/-- A step of the worker takes an envelope that was to be taken, or takes none, and there is less
to do afterwards. -/
lemma Headed.proceed_le (h : run.Headed last) :
    run.proceed.taken + run.proceed.toTake ≤ run.taken + run.toTake ∧
      run.proceed.work ≤ run.work - 1 := by
  cases he : run.hand with
  | some e =>
    have hnext : run.proceed = run.act (.handle e) none := by simp [proceed, OpenRun.next, he]
    have hless := h.work_handle he
    rw [hnext, taken_handle he]
    exact ⟨Nat.add_le_add_left (toTake_handle he) _, by omega⟩
  | none =>
    have hnext : run.proceed = run.look := by simp [proceed, OpenRun.next, he]
    rw [hnext]
    obtain ⟨hrun, hslot, hlook⟩ | ⟨hslot, mailbox, -, hrun, hempty, hlook⟩ |
      ⟨e, hslot, hbusy, mailbox, -, hrun, hempty, hlook⟩ := Worker.look_of_serves h.serves
    · have hsame : run.look = run := by
        simp only [OpenRun.look, he, hlook]
        rw [← he]
      have hdone : run.work = 0 := by simp [work, toTake, hslot, he, hrun]
      rw [hsame, hdone]
      exact ⟨Nat.le_refl _, Nat.le_refl _⟩
    · simp only [OpenRun.look, he, hlook]
      simp [work, taken, toTake, hslot, hempty, hrun, he]
    · simp only [OpenRun.look, he, hlook]
      cases e <;>
        simp [work, taken, toTake, hslot, hempty, hrun, hbusy, he, Option.filter_some,
          Nat.add_assoc]

theorem Headed.iterate (h : run.Headed last) (turns : Nat) :
    (proceed^[turns] run).Headed last ∧
      (proceed^[turns] run).taken + (proceed^[turns] run).toTake ≤ run.taken + run.toTake ∧
      (proceed^[turns] run).work ≤ run.work - turns := by
  induction turns with
  | zero => exact ⟨h, Nat.le_refl _, Nat.le_refl _⟩
  | succ turns ih =>
    rw [Function.iterate_succ_apply']
    obtain ⟨hrun, htaken, hwork⟩ := ih
    obtain ⟨hstep, hless⟩ := hrun.proceed_le
    have hheaded : (proceed^[turns] run).proceed.Headed last := by
      unfold proceed
      split
      · exact hrun.next .handle (by simp)
      · exact hrun.next .look (by simp)
    exact ⟨hheaded, by omega, by omega⟩

/-! ### What is left -/

/-- The config of the clusters that an update routes to. -/
def settledConfig : Except WatchError ServiceUpdate → String
  | .ok update => match Selector.targetsOf update with
    | .ok routes => text (Selector.clustersOf routes).toList
    | .error _ => emptyConfig
  | .error _ => emptyConfig

/-- At rest all that was lost has been pruned, since whatever was handled prunes. -/
lemma Headed.not_hasDead (h : run.Headed last) (hrest : run.Quiescent) :
    ¬ run.worker.pool.HasDead := by
  have hhandled : Moment.Answered Moment.Loses Moment.Handles run.moments := by
    rcases h.kept.unread with hhandled | hslot | hhand
    · exact hhandled
    · exact absurd hrest.1 hslot
    · exact absurd hrest.2.1 hhand
  rw [h.kept.dead, not_not]
  intro earlier m later hmoments hloss
  obtain ⟨n, hn, e, he⟩ := hhandled earlier m later hmoments hloss
  have hm : n ∈ run.moments := by simp [hmoments, hn]
  exact ⟨n, hn, e, he, h.handled n hm e he⟩

/-- At rest the last config is that of the clusters that are held now. -/
lemma Headed.config_eq (h : run.Headed last) (hrest : run.Quiescent) {state : ResolverState}
    (hstate : run.last? = some state) :
    state.config = configOf state.selector run.worker.pool.heldClusters.toList := by
  have hcurrent := (h.kept.current_iff hstate).mpr (h.not_hasDead hrest)
  obtain ⟨d, hd, hconfig⟩ := h.kept.announced.config_of_last hstate
  have hsame : d.pool.heldClusters = run.worker.pool.heldClusters := by
    refine NameSet.eq_of_mem_iff fun cluster => ?_
    rw [← hcurrent cluster, hconfig]
    exact hasChild_configOf_iff.symm
  rw [hconfig, hsame]

lemma configOf_eq_settledConfig {w : Worker} {update : Except WatchError ServiceUpdate}
    (hs : w.Sole) (hp : w.pool.Sound) (hleases : ∀ lease ∈ w.pool.leases, lease = none)
    (hbuilt : w.pool.BuiltFrom w.current update) :
    configOf w.current w.pool.heldClusters.toList = settledConfig update := by
  cases update with
  | error cause =>
    have hnone : w.current = none := hbuilt
    have hempty : w.pool.heldClusters.toList = [] := by
      refine List.eq_nil_iff_forall_not_mem.mpr fun name hm => ?_
      obtain ⟨s, selector, hc, -⟩ := (hs.mem_heldClusters_iff hp hleases).mp hm
      rw [hnone] at hc
      cases hc
    simp [configOf, hnone, hempty, settledConfig]
  | ok update =>
    obtain ⟨s, built, hc, -, hget, hroutes, hnames⟩ := hbuilt
    have hheld : w.pool.heldClusters = Selector.clustersOf built.routes := by
      refine NameSet.eq_of_mem_iff fun name => ?_
      rw [hs.mem_heldClusters_iff hp hleases]
      show _ ↔ name ∈ (Selector.clustersOf built.routes).toList
      rw [← hnames]
      constructor
      · rintro ⟨t, selector, ht, hs, hn⟩
        rw [hc, Option.some.injEq] at ht
        rw [← ht, hget, Option.some.injEq] at hs
        exact hs ▸ hn
      · exact fun hn => ⟨s, built, hc, hget, hn⟩
    simp [configOf, hc, settledConfig, hroutes, hheld]

/-- At rest the sink has what the last push leaves, and without leases the config is that of its
clusters. -/
theorem Headed.outcome (h : run.Headed last) (hrest : run.Quiescent)
    {update : Except WatchError ServiceUpdate} (hlast : last = some update) :
    ∃ state, run.last? = some state ∧ run.worker.pool.BuiltFrom state.selector update ∧
      ((∀ lease ∈ run.worker.pool.leases, lease = none) → state.config = settledConfig update) := by
  have hahead : run.ahead? = none := by simp [ahead?, Mailbox.update?, hrest.1, hrest.2.1]
  obtain ⟨hbuilt, state, hstate, hselector⟩ := h.follows hahead update hlast
  refine ⟨state, hstate, hselector ▸ hbuilt, fun hleases => ?_⟩
  rw [h.config_eq hrest hstate, hselector]
  exact configOf_eq_settledConfig h.sole h.kept.announced.sound.pool hleases hbuilt

/-- The outcome does not depend on the schedule. Where every push is an accepted update or says
that the service is gone, the worker left alone takes at most two more envelopes and is at rest
soon. The sink has the selector that was built from the last push then, or none if the service is
gone, and when no lease is outstanding the config is a function of the last push alone. -/
theorem outcome_of_last_push (endpoint : String) (events : List OpenEvent)
    (hpushes : ∀ update, .push update ∈ events → (Envelope.ofWatch update).prunes = true)
    (turns : Nat) :
    let run := of endpoint events
    let later := proceed^[turns] run
    later.taken ≤ run.taken + 2 ∧ (6 ≤ turns → later.Quiescent) ∧
    (later.Quiescent → ∀ update, lastPush? events = some update →
      ∃ state, later.last? = some state ∧ later.worker.pool.BuiltFrom state.selector update ∧
        ((∀ lease ∈ later.worker.pool.leases, lease = none) →
          state.config = settledConfig update)) := by
  intro run later
  have h : run.Headed (lastPush? events) := headed_of endpoint hpushes
  have hlater : later.Headed (lastPush? events) ∧
      later.taken + later.toTake ≤ run.taken + run.toTake ∧ later.work ≤ run.work - turns :=
    h.iterate turns
  obtain ⟨hheaded, htaken, hwork⟩ := hlater
  refine ⟨?_, fun hturns => quiescent_of_work ?_, fun hrest update => hheaded.outcome hrest⟩
  · have htake := run.toTake_le_two
    omega
  · have hleft := h.work_le_six
    omega

/-- An update is overwritten before it is read, and the last one is in hand when the lease of the
first selector is dropped. -/
def overwritten : List OpenEvent :=
  [.look, .push (.ok (.serving "a")), .look, .handle, .retain 0, .push (.ok (.serving "b")),
    .push (.ok (.serving "c")), .look, .dropLease 0]

theorem outcome_of_overwritten :
    ∃ state, (proceed^[6] (of "svc" overwritten)).last? = some state ∧
      state.selector = some 1 ∧ state.config = text ["c"] := by
  have hpushes : ∀ update, .push update ∈ overwritten →
      (Envelope.ofWatch update).prunes = true := by
    intro update hm
    simp only [overwritten, List.mem_cons, OpenEvent.push.injEq, reduceCtorEq, List.not_mem_nil,
      false_or, or_false] at hm
    rcases hm with rfl | rfl | rfl <;> decide
  obtain ⟨-, hrest, houtcome⟩ := outcome_of_last_push "svc" overwritten hpushes 6
  obtain ⟨state, hlast, hbuilt, hconfig⟩ :=
    houtcome (hrest (Nat.le_refl 6)) (.ok (.serving "c")) rfl
  obtain ⟨s, built, hselector, hnewest, -⟩ := hbuilt
  have hlength : (proceed^[6] (of "svc" overwritten)).worker.pool.selectors.length = 2 := by decide
  have hs : s = 1 := by omega
  exact ⟨state, hlast, hs ▸ hselector, hconfig (by decide)⟩

end OpenRun
end MeshRouting
