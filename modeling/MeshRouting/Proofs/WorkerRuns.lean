import MeshRouting.Proofs.ServiceConfigText
import MeshRouting.Proofs.WorkerDeliveries
import Mathlib.Data.List.Induction

/-!
# Runs of a worker

A run is what comes of handling envelopes, taking leases and dropping them, in any order and with
any encoder at each act. It keeps the effects and one moment for each act, so that what holds at
the end can be told from what happened on the way.
-/
namespace MeshRouting

open ServiceConfig

inductive WorkerAct where
  | handle (e : Envelope)
  | retain (s : Nat)
  | dropLease (lease : Nat)
  deriving DecidableEq, Repr

def WorkerAct.envelope? : WorkerAct → Option Envelope
  | .handle e => some e
  | _ => none

namespace Worker

/-- One act with its effects; a lease that cannot be taken or dropped changes nothing. -/
def perform (encode : Encoder) (w : Worker) : WorkerAct → Worker × List WorkerEffect
  | .handle e => w.handle encode e
  | .retain s => (((w.retain s).map (·.1)).getD w, [])
  | .dropLease lease => ((w.dropLease lease).getD w, [])

def delivered? (encode : Encoder) (w : Worker) (act : WorkerAct) : Option Delivery :=
  act.envelope?.bind (w.delivery? encode ·)

variable {encode : Encoder} {w : Worker} {act : WorkerAct}

lemma delivered?_eq_some {d : Delivery} (hd : w.delivered? encode act = some d) :
    ∃ e, act = .handle e ∧ w.delivery? encode e = some d := by
  cases act with
  | handle e => exact ⟨e, rfl, hd⟩
  | retain s => cases hd
  | dropLease lease => cases hd

/-- An act handles an envelope, or changes nothing, or takes a lease, or drops one. -/
lemma perform_cases (encode : Encoder) (w : Worker) (act : WorkerAct) :
    (∃ e, act = .handle e) ∨ act.envelope? = none ∧ ((w.perform encode act).1 = w ∨
      (∃ s pool lease, w.pool.retain s = some (pool, lease) ∧
        (w.perform encode act).1 = { w with pool }) ∨
      ∃ lease pool outcomes, w.pool.dropLease lease = some (pool, outcomes) ∧
        (w.perform encode act).1 = { w with pool }.afterRelease outcomes) := by
  cases act with
  | handle e => exact .inl ⟨e, rfl⟩
  | retain s =>
    refine .inr ⟨rfl, ?_⟩
    cases hp : w.pool.retain s with
    | none => exact .inl (by simp [perform, retain, hp])
    | some leased => exact .inr (.inl ⟨s, _, _, hp, by simp [perform, retain, hp]⟩)
  | dropLease lease =>
    refine .inr ⟨rfl, ?_⟩
    cases hp : w.pool.dropLease lease with
    | none => exact .inl (by simp [perform, dropLease, hp])
    | some dropped => exact .inr (.inr ⟨lease, _, _, hp, by simp [perform, dropLease, hp]⟩)

lemma leads_perform (encode : Encoder) (w : Worker) (act : WorkerAct) :
    w.pool.Leads (w.perform encode act).1.pool := by
  obtain ⟨e, rfl⟩ | ⟨-, hsame | ⟨s, pool, lease, hp, hnext⟩ |
    ⟨lease, pool, outcomes, hp, hnext⟩⟩ := perform_cases encode w act
  · exact leads_handle_pool encode w e
  · rw [hsame]
    exact .refl _
  · rw [hnext]
    exact Pool.leads_retain hp
  · rw [hnext, afterRelease_pool]
    exact Pool.leads_dropLease hp

lemma Attached.perform (hw : w.Attached) : (w.perform encode act).1.Attached := by
  obtain ⟨e, rfl⟩ | ⟨-, hsame | ⟨s, pool, lease, hp, hnext⟩ |
    ⟨lease, pool, outcomes, hp, hnext⟩⟩ := perform_cases encode w act
  · exact hw.handle
  · rwa [hsame]
  · intro c hc
    rw [hnext] at hc ⊢
    exact (Pool.stopped?_retain hp).trans (hw c hc)
  · intro c hc
    rw [hnext, afterRelease_current] at hc
    rw [hnext, afterRelease_pool]
    exact (Pool.stopped?_dropLease hp).trans (hw c hc)

lemma statesOf_perform :
    statesOf (w.perform encode act).2 = ((w.delivered? encode act).map (·.state)).toList := by
  cases act with
  | handle e => exact statesOf_handle
  | retain s => rfl
  | dropLease lease => rfl

lemma leads_delivered {d : Delivery} (hd : w.delivered? encode act = some d) :
    w.pool.Leads d.pool ∧ d.pool.Leads (w.perform encode act).1.pool := by
  obtain ⟨e, rfl, hd⟩ := delivered?_eq_some hd
  exact leads_handle hd

lemma sound_delivered {d : Delivery} (hp : w.pool.Sound) (hw : w.Attached)
    (hd : w.delivered? encode act = some d) : d.Sound := by
  obtain ⟨e, rfl, hd⟩ := delivered?_eq_some hd
  exact sound_delivery hp hw hd

end Worker

/-- One act: the worker before and after it, the envelope it handled, if it did, and what was
delivered. -/
structure Moment where
  before : Worker
  handled : Option Envelope
  delivery : Option Delivery
  after : Worker
  deriving Repr

/-- Every trigger is answered by a later moment. -/
def Moment.Answered (trigger answer : Moment → Prop) (moments : List Moment) : Prop :=
  ∀ earlier m later, moments = earlier ++ m :: later → trigger m → ∃ n ∈ later, answer n

lemma Moment.answered_nil {trigger answer : Moment → Prop} : Answered trigger answer [] := by
  intro earlier m later h
  simp at h

lemma Moment.answered_append_singleton {trigger answer : Moment → Prop} {moments : List Moment}
    {last : Moment} :
    Answered trigger answer (moments ++ [last]) ↔
      ¬ trigger last ∧ (Answered trigger answer moments ∨ answer last) := by
  constructor
  · intro h
    refine ⟨fun hlast => ?_, ?_⟩
    · obtain ⟨n, hn, -⟩ := h moments last [] rfl hlast
      cases hn
    · by_cases ha : answer last
      · exact .inr ha
      · refine .inl fun earlier m later hm ht => ?_
        obtain ⟨n, hn, hans⟩ := h earlier m (later ++ [last]) (by simp [hm]) ht
        rcases List.mem_append.mp hn with hn | hn
        · exact ⟨n, hn, hans⟩
        · exact absurd (List.mem_singleton.mp hn ▸ hans) ha
  · rintro ⟨hlast, h⟩ earlier m later hm ht
    rcases List.eq_nil_or_concat later with rfl | ⟨rest, final, rfl⟩
    · obtain ⟨-, hsame⟩ := List.append_inj' hm rfl
      exact absurd (List.singleton_inj.mp hsame ▸ ht) hlast
    · rw [List.concat_eq_append, ← List.cons_append, ← List.append_assoc] at hm
      obtain ⟨rfl, hsame⟩ := List.append_inj' hm rfl
      obtain rfl := List.singleton_inj.mp hsame
      rcases h with h | h
      · obtain ⟨n, hn, hans⟩ := h earlier m rest rfl ht
        exact ⟨n, by simp [hn], hans⟩
      · exact ⟨last, by simp, h⟩

structure WorkerRun where
  worker : Worker
  effects : List WorkerEffect
  moments : List Moment
  deriving Repr

def ServiceUpdate.serving (cluster : String) : ServiceUpdate :=
  ⟨⟨[], [⟨.startsWith "/", false, .cluster cluster⟩]⟩⟩

namespace WorkerRun

def start (endpoint : String) : WorkerRun := ⟨.start endpoint, [], []⟩

def next (encode : Encoder) (run : WorkerRun) (act : WorkerAct) : WorkerRun :=
  let (after, effects) := run.worker.perform encode act
  { worker := after
    effects := run.effects ++ effects
    moments := run.moments ++
      [⟨run.worker, act.envelope?, run.worker.delivered? encode act, after⟩] }

/-- The run in which each act finds the encoder beside it. -/
def of (endpoint : String) (script : List (Encoder × WorkerAct)) : WorkerRun :=
  script.foldl (fun run step => run.next step.1 step.2) (start endpoint)

/-- The run in which the encoder never fails. -/
def ofActs (endpoint : String) (acts : List WorkerAct) : WorkerRun :=
  of endpoint (acts.map (standard, ·))

def deliveries (run : WorkerRun) : List Delivery := run.moments.filterMap (·.delivery)

def last? (run : WorkerRun) : Option ResolverState := (statesOf run.effects).getLast?

variable {encode : Encoder} {run : WorkerRun} {act : WorkerAct}

/-- What every run keeps. Each delivery was sound, and the pools of the deliveries come about from
one another in order, and the present one from all of them. -/
structure Sound (run : WorkerRun) : Prop where
  pool : run.worker.pool.Sound
  attached : run.worker.Attached
  states : statesOf run.effects = run.deliveries.map (·.state)
  sound : ∀ d ∈ run.deliveries, d.Sound
  leads : ∀ d ∈ run.deliveries, d.pool.Leads run.worker.pool
  ordered : run.deliveries.Pairwise fun d later => d.pool.Leads later.pool

lemma sound_start (endpoint : String) : (start endpoint).Sound where
  pool := Pool.sound_empty
  attached := by
    intro s hs
    cases hs
  states := rfl
  sound := by simp [start, deliveries]
  leads := by simp [start, deliveries]
  ordered := by simp [start, deliveries]

lemma deliveries_next :
    (run.next encode act).deliveries =
      run.deliveries ++ (run.worker.delivered? encode act).toList := by
  simp only [next, deliveries, List.filterMap_append]
  cases run.worker.delivered? encode act <;> simp

lemma statesOf_next :
    statesOf (run.next encode act).effects =
      statesOf run.effects ++ ((run.worker.delivered? encode act).map (·.state)).toList :=
  (Worker.statesOf_append _ _).trans (congrArg _ Worker.statesOf_perform)

lemma last?_next :
    (run.next encode act).last? =
      ((run.worker.delivered? encode act).map (·.state)).or run.last? := by
  rw [last?, statesOf_next, List.getLast?_append]
  cases run.worker.delivered? encode act <;> rfl

lemma Sound.next (h : run.Sound) : (run.next encode act).Sound := by
  have hleads := Worker.leads_perform encode run.worker act
  refine ⟨h.pool.of_leads hleads, h.attached.perform, ?_, ?_, ?_, ?_⟩
  · rw [statesOf_next, deliveries_next, List.map_append, ← h.states]
    cases run.worker.delivered? encode act <;> rfl
  all_goals rw [deliveries_next]
  · intro d hm
    rcases List.mem_append.mp hm with hm | hm
    · exact h.sound d hm
    · exact Worker.sound_delivered h.pool h.attached (Option.mem_toList.mp hm)
  · intro d hm
    rcases List.mem_append.mp hm with hm | hm
    · exact (h.leads d hm).trans hleads
    · exact (Worker.leads_delivered (Option.mem_toList.mp hm)).2
  · refine List.pairwise_append.mpr ⟨h.ordered, ?_, ?_⟩
    · cases run.worker.delivered? encode act <;> simp
    · intro d hm later hl
      exact (h.leads d hm).trans (Worker.leads_delivered (Option.mem_toList.mp hl)).1

lemma of_append_singleton (endpoint : String) (script : List (Encoder × WorkerAct))
    (step : Encoder × WorkerAct) :
    of endpoint (script ++ [step]) = (of endpoint script).next step.1 step.2 := by
  simp [of, List.foldl_append]

end WorkerRun
end MeshRouting
