import MeshRouting.Proofs.MetricTotals
import MeshRouting.Proofs.PublishedConfigs
import Mathlib.Data.Set.Card

/-!
# Answers of a worker

A worker answers each envelope with one call on the sink. The call is a state or an error, and the
metrics beside it tell which of them it was; leases are answered by nothing. So the totals of a run
count its envelopes, its calls and its serialization errors, and the gauge shows the children of the
last config.
-/
namespace MeshRouting

open ServiceConfig

inductive WorkerCall where
  | state (s : ResolverState)
  | failure (e : ResolverError)
  deriving DecidableEq, Repr

def WorkerCall.isSerialization : WorkerCall → Bool
  | .failure (.serialization _) => true
  | _ => false

namespace WorkerEffect

def call? : WorkerEffect → Option WorkerCall
  | .state s => some (.state s)
  | .failure e => some (.failure e)
  | _ => none

def metric? : WorkerEffect → Option Metric
  | .metric m => some m
  | _ => none

end WorkerEffect

def callsOf (effects : List WorkerEffect) : List WorkerCall := effects.filterMap WorkerEffect.call?

def metricsOf (effects : List WorkerEffect) : List Metric := effects.filterMap WorkerEffect.metric?

def EnvelopeKind.all : List EnvelopeKind := [.serviceUpdate, .republish, .notFound, .error]

/-- How an envelope is answered. -/
inductive Answer where
  | published (d : Delivery)
  | unencoded (reason : String)
  | rejected (cause : SelectorError)
  | trouble (cause : WatchError)

namespace Answer

def call : Answer → WorkerCall
  | published d => .state d.state
  | unencoded reason => .failure (.serialization reason)
  | rejected cause => .failure (.invalidUpdate cause)
  | trouble cause => .failure (.watch cause)

def metrics : Answer → List Metric
  | published d => [.activeClusters d.pool.table.size]
  | unencoded _ => [.serializationFailure]
  | rejected _ | trouble _ => []

def delivery? : Answer → Option Delivery
  | published d => some d
  | _ => none

end Answer

namespace ServiceConfig

/-- Whatever the encoder encodes at all, it encodes like the standard one. -/
def Faithful (encode : Encoder) : Prop :=
  ∀ table config, encode table = .ok config → standard table = .ok config

noncomputable def childCount (config : String) : Nat := {cluster | HasChild config cluster}.ncard

lemma childCount_configOf {selector : Option Nat} {clusters : List String}
    (h : clusters.Nodup) : childCount (configOf selector clusters) = clusters.length := by
  have hset : {cluster | HasChild (configOf selector clusters) cluster} =
      (clusters.toFinset : Set String) := by
    ext cluster
    simp [hasChild_configOf_iff]
  rw [childCount, hset, Set.ncard_coe_finset, List.toFinset_card_of_nodup h]

end ServiceConfig

lemma callsOf_append (first others : List WorkerEffect) :
    callsOf (first ++ others) = callsOf first ++ callsOf others := by
  simp [callsOf]

lemma metricsOf_append (first others : List WorkerEffect) :
    metricsOf (first ++ others) = metricsOf first ++ metricsOf others := by
  simp [metricsOf]

namespace Worker

/-- How publishing a selector is answered. -/
def publication (encode : Encoder) (w : Worker) (selector : Option Nat) : Answer :=
  match (w.prune.1.configFor encode selector).1 with
  | .ok config => .published ⟨w.pool.prune, ⟨config, selector⟩⟩
  | .error reason => .unencoded reason

def answer (encode : Encoder) (w : Worker) : Envelope → Answer
  | .service update => match w.pool.build update with
    | .ok (pool, s) => { w with pool }.publication encode (some s)
    | .error cause => .rejected cause
  | .republish => w.publication encode w.current
  | .error cause => if cause.isNotFound then w.publication encode none else .trouble cause

variable {encode : Encoder} {w : Worker} {s : Nat} {selector : Option Nat} {e : Envelope}
  {act : WorkerAct}

/-- Nothing is said to the sink, and nothing is counted. -/
def Silent (effects : List WorkerEffect) : Prop := callsOf effects = [] ∧ metricsOf effects = []

lemma silent_prune (w : Worker) : Silent w.prune.2 := by
  simp only [prune]
  split <;> exact ⟨rfl, rfl⟩

lemma silent_configFor (encode : Encoder) (w : Worker) (selector : Option Nat) :
    Silent (w.configFor encode selector).2 := by
  simp only [configFor]
  split
  · exact ⟨rfl, rfl⟩
  · split <;> exact ⟨rfl, rfl⟩

lemma silent_stop (w : Worker) (s : Nat) : Silent (w.stop s).2 := by
  simp only [stop]
  split <;> exact ⟨rfl, rfl⟩

lemma silent_stopCurrent (w : Worker) : Silent w.stopCurrent.2 := by
  simp only [stopCurrent]
  split
  · exact ⟨rfl, rfl⟩
  · exact silent_stop _ _

/-- Effects that come to one answer. -/
def Answers (effects : List WorkerEffect) (answer : Answer) : Prop :=
  callsOf effects = [answer.call] ∧ metricsOf effects = answer.metrics

lemma Answers.append_silent {effects others : List WorkerEffect} {answer : Answer}
    (h : Answers effects answer) (ho : Silent others) : Answers (effects ++ others) answer :=
  ⟨by rw [callsOf_append, h.1, ho.1, List.append_nil],
    by rw [metricsOf_append, h.2, ho.2, List.append_nil]⟩

lemma Answers.silent_append {effects others : List WorkerEffect} {answer : Answer}
    (h : Answers effects answer) (ho : Silent others) : Answers (others ++ effects) answer :=
  ⟨by rw [callsOf_append, h.1, ho.1, List.nil_append],
    by rw [metricsOf_append, h.2, ho.2, List.nil_append]⟩

lemma answers_publish (encode : Encoder) (w : Worker) (selector : Option Nat) :
    Answers (w.publish encode selector).2.1 (w.publication encode selector) := by
  have hdeliver : Answers (w.prune.1.deliver selector (w.prune.1.configFor encode selector).1)
      (w.publication encode selector) := by
    simp only [publication]
    cases (w.prune.1.configFor encode selector).1 <;> exact ⟨rfl, rfl⟩
  simp only [publish, List.append_assoc]
  exact (hdeliver.silent_append (silent_configFor _ _ _)).silent_append (silent_prune w)

lemma answers_install (encode : Encoder) (w : Worker) (s : Nat) :
    Answers (w.install encode s).2 (w.publication encode (some s)) := by
  have hpublish := answers_publish encode w (some s)
  simp only [install]
  generalize w.publish encode (some s) = published at hpublish ⊢
  obtain ⟨next, effects, flag⟩ := published
  -- afterwards the new selector is stopped, or the one that it replaces; either is silent
  cases flag
  · exact hpublish.append_silent (silent_stop _ _)
  · exact hpublish.append_silent (silent_stopCurrent _)

lemma answers_react (encode : Encoder) (w : Worker) (e : Envelope) :
    Answers (w.react encode e).2 (w.answer encode e) := by
  cases e with
  | service update =>
    simp only [react, handleService, answer]
    cases hb : w.pool.build update with
    | error cause => exact ⟨rfl, rfl⟩
    | ok built => exact answers_install encode { w with pool := built.1 } built.2
  | republish => exact answers_publish encode w w.current
  | error cause =>
    simp only [react, answer]
    cases hf : cause.isNotFound with
    | false => exact ⟨rfl, rfl⟩
    | true =>
      have hnotice : Silent [.notice (.serviceRemoved w.endpoint cause.text)] := ⟨rfl, rfl⟩
      have hpublish := answers_publish encode w none
      exact (hpublish.append_silent (silent_stopCurrent _)).silent_append hnotice

/-- Each envelope is counted under its kind and answered by one call. -/
theorem answered_handle (encode : Encoder) (w : Worker) (e : Envelope) :
    callsOf (w.handle encode e).2 = [(w.answer encode e).call] ∧
      metricsOf (w.handle encode e).2 =
        .resolverUpdate e.kind :: (w.answer encode e).metrics := by
  obtain ⟨hcalls, hmetrics⟩ := answers_react encode w e
  exact ⟨hcalls, congrArg (Metric.resolverUpdate e.kind :: ·) hmetrics⟩

lemma silent_perform (h : act.envelope? = none) : Silent (w.perform encode act).2 := by
  cases act with
  | handle e => cases h
  | retain s => exact ⟨rfl, rfl⟩
  | dropLease lease => exact ⟨rfl, rfl⟩

lemma silent_exit (w : Worker) : Silent w.exit.2 := by
  obtain ⟨hcalls, hmetrics⟩ := silent_stopCurrent w
  simp only [exit, Silent, callsOf_append, metricsOf_append, hcalls, hmetrics]
  exact ⟨rfl, rfl⟩

/-! ### Published configs -/

lemma delivery?_publication (encode : Encoder) (w : Worker) (selector : Option Nat) :
    (w.publication encode selector).delivery? = w.offer encode selector := by
  simp only [publication, offer]
  cases (w.prune.1.configFor encode selector).1 <;> rfl

lemma delivery?_answer (encode : Encoder) (w : Worker) (e : Envelope) :
    (w.answer encode e).delivery? = w.delivery? encode e := by
  cases e with
  | service update =>
    simp only [answer, Worker.delivery?]
    cases w.pool.build update with
    | error cause => rfl
    | ok built => exact delivery?_publication ..
  | republish => exact delivery?_publication ..
  | error cause =>
    simp only [answer, Worker.delivery?]
    split
    · exact delivery?_publication ..
    · rfl

lemma configFor_of_faithful (h : Faithful encode) {config : String}
    (hc : (w.configFor encode selector).1 = .ok config) :
    (w.configFor standard selector).1 = .ok config := by
  by_cases hempty : (selector.isNone && w.pool.table.isEmpty) = true
  · simpa [configFor, hempty] using hc
  · simp only [configFor, if_neg hempty] at hc ⊢
    cases he : encode w.pool.table with
    | error reason => simp [he] at hc
    | ok encoded =>
      simp only [he] at hc
      simp only [h _ _ he, hc]

lemma offer_of_faithful (h : Faithful encode) {d : Delivery}
    (hd : w.offer encode selector = some d) : w.offer standard selector = some d := by
  simp only [offer] at hd ⊢
  cases hc : (w.prune.1.configFor encode selector).1 with
  | error reason => simp [hc] at hd
  | ok config => rwa [configFor_of_faithful h hc, ← hc]

lemma delivery?_of_faithful (h : Faithful encode) {d : Delivery}
    (hd : w.delivery? encode e = some d) : w.delivery? standard e = some d := by
  obtain hnot | ⟨cause, hf, rfl⟩ | rfl | ⟨update, pool, s, hb, rfl, -⟩ := envelope_cases w e
  · simp [(handle_of_not_prunes encode w hnot).2.1] at hd
  · simp only [Worker.delivery?, hf, if_true] at hd ⊢
    exact offer_of_faithful h hd
  · exact offer_of_faithful h hd
  · simp only [Worker.delivery?, hb] at hd ⊢
    exact offer_of_faithful h hd

lemma childCount_of_delivery (h : Faithful encode) {d : Delivery}
    (hd : w.delivery? encode e = some d) : d.pool.table.size = childCount d.state.config := by
  -- the config lists every name of the table once, so their number is the size of the table
  have hnodup : d.pool.table.names.Nodup := d.pool.table.active.ascending.imp ne_of_lt
  rw [config_delivery?_standard (delivery?_of_faithful h hd), childCount_configOf hnodup]
  exact (List.length_map _).symm

end Worker

/-! ### Tallies -/

/-- What some acts have to show for the envelopes that were handled in them. -/
structure Tallied (effects : List WorkerEffect) (handled : List Envelope) : Prop where
  calls : (callsOf effects).length = handled.length
  updates : ∀ kind,
    (metricsOf effects).count (.resolverUpdate kind) = handled.countP (·.kind = kind)
  failures :
    (metricsOf effects).count .serializationFailure = (callsOf effects).countP (·.isSerialization)

/-- The gauge has taken the number of children of each config in turn. -/
def Gauged (effects : List WorkerEffect) : Prop :=
  (metricsOf effects).filterMap Metric.activeClusters? =
    (statesOf effects).map fun state => childCount state.config

variable {encode : Encoder} {act : WorkerAct} {effects others : List WorkerEffect}
  {handled more : List Envelope}

lemma Tallied.append (h : Tallied effects handled) (g : Tallied others more) :
    Tallied (effects ++ others) (handled ++ more) where
  calls := by
    rw [callsOf_append, List.length_append, List.length_append, h.calls, g.calls]
  updates kind := by
    rw [metricsOf_append, List.count_append, List.countP_append, h.updates, g.updates]
  failures := by
    rw [metricsOf_append, callsOf_append, List.count_append, List.countP_append, h.failures,
      g.failures]

lemma Gauged.append (h : Gauged effects) (g : Gauged others) : Gauged (effects ++ others) := by
  rw [Gauged, metricsOf_append, List.filterMap_append, h, g, Worker.statesOf_append,
    List.map_append]

lemma sum_countP_kind (handled : List Envelope) :
    (EnvelopeKind.all.map fun kind => handled.countP (·.kind = kind)).sum = handled.length := by
  induction handled with
  | nil => rfl
  | cons e rest ih =>
    simp only [EnvelopeKind.all, List.map_cons, List.map_nil, List.sum_cons, List.sum_nil,
      List.countP_cons, List.length_cons] at ih ⊢
    cases e.kind <;> simp <;> omega

namespace Worker

lemma tallied_handle (encode : Encoder) (w : Worker) (e : Envelope) :
    Tallied (w.handle encode e).2 [e] := by
  obtain ⟨hcalls, hmetrics⟩ := answered_handle encode w e
  refine ⟨by simp [hcalls], fun kind => ?_, ?_⟩
  · rw [hmetrics]
    cases w.answer encode e <;> by_cases hk : e.kind = kind <;> simp [Answer.metrics, hk]
  · rw [hmetrics, hcalls]
    cases w.answer encode e <;> simp [Answer.metrics, Answer.call, WorkerCall.isSerialization]

lemma tallied_perform (encode : Encoder) (w : Worker) (act : WorkerAct) :
    Tallied (w.perform encode act).2 act.envelope?.toList := by
  cases act with
  | handle e => exact tallied_handle encode w e
  | retain s => exact ⟨rfl, fun _ => rfl, rfl⟩
  | dropLease lease => exact ⟨rfl, fun _ => rfl, rfl⟩

lemma gauged_handle (h : Faithful encode) (w : Worker) (e : Envelope) :
    Gauged (w.handle encode e).2 := by
  have hdelivery := delivery?_answer encode w e
  rw [Gauged, (answered_handle encode w e).2, statesOf_handle]
  cases ha : w.answer encode e with
  | published d =>
    rw [ha] at hdelivery
    rw [← hdelivery]
    exact congrArg ([·]) (childCount_of_delivery h hdelivery.symm)
  | _ =>
    rw [ha] at hdelivery
    rw [← hdelivery]
    rfl

lemma gauged_perform (h : Faithful encode) (w : Worker) (act : WorkerAct) :
    Gauged (w.perform encode act).2 := by
  cases act with
  | handle e => exact gauged_handle h w e
  | retain s => rfl
  | dropLease lease => rfl

end Worker

namespace WorkerRun

/-- The envelopes that are handled in a script. -/
def handledIn (script : List (Encoder × WorkerAct)) : List Envelope :=
  script.filterMap (·.2.envelope?)

lemma tallied_of (endpoint : String) (script : List (Encoder × WorkerAct)) :
    Tallied (of endpoint script).effects (handledIn script) := by
  induction script using List.reverseRecOn with
  | nil => exact ⟨rfl, fun _ => rfl, rfl⟩
  | append_singleton script step ih =>
    have hhandled : handledIn (script ++ [step]) = handledIn script ++ step.2.envelope?.toList := by
      cases h : step.2.envelope? <;> simp [handledIn, h]
    rw [of_append_singleton, hhandled]
    exact ih.append (Worker.tallied_perform _ _ _)

lemma gauged_of (endpoint : String) {script : List (Encoder × WorkerAct)}
    (h : ∀ step ∈ script, Faithful step.1) : Gauged (of endpoint script).effects := by
  induction script using List.reverseRecOn with
  | nil => rfl
  | append_singleton script step ih =>
    rw [of_append_singleton]
    exact (ih fun other hm => h other (by simp [hm])).append
      (Worker.gauged_perform (h step (by simp)) _ _)

/-- Every envelope is answered exactly once. Whatever state a run has come to, handling one more
envelope makes one call on the sink, and neither leases nor the end of the worker make any. So the
updates that were counted under each kind are the envelopes of that kind, those of all kinds are the
calls, and the serialization failures that were counted are those that were reported. Where every
encoder encodes like the standard one or fails, the gauge has a value from the first publication on,
the number of children in the last config. -/
theorem envelopes_answered_once (endpoint : String) (script : List (Encoder × WorkerAct)) :
    let run := of endpoint script
    let records := metricsOf run.effects
    (∀ encode e, ∃ call, callsOf (run.worker.handle encode e).2 = [call]) ∧
    (∀ encode act, act.envelope? = none → callsOf (run.worker.perform encode act).2 = []) ∧
    callsOf run.worker.exit.2 = [] ∧
    (callsOf run.effects).length = (handledIn script).length ∧
    (∀ kind : EnvelopeKind,
      Metric.total records (Metric.labelled "xds_resolver_updates_total" "kind" kind.text) =
        (handledIn script).countP (·.kind = kind)) ∧
    (EnvelopeKind.all.map fun kind =>
      Metric.total records (Metric.labelled "xds_resolver_updates_total" "kind" kind.text)).sum =
        (callsOf run.effects).length ∧
    Metric.total records "xds_resolver_serialization_failures_total" =
      (callsOf run.effects).countP (·.isSerialization) ∧
    ((∀ step ∈ script, Faithful step.1) →
      (Metric.totals records).find? "xds_resolver_active_clusters" =
        run.last?.map fun state => childCount state.config) := by
  intro run records
  have htallied : Tallied run.effects (handledIn script) := tallied_of endpoint script
  have hupdates : ∀ kind : EnvelopeKind,
      Metric.total records (Metric.labelled "xds_resolver_updates_total" "kind" kind.text) =
        (handledIn script).countP (·.kind = kind) := by
    intro kind
    rw [← htallied.updates kind]
    exact Metric.total_counter rfl (fun _ => Metric.eq_resolverUpdate_of_key) records
  refine ⟨?_, ?_, ?_, htallied.calls, hupdates, ?_, ?_, ?_⟩
  · intro encode e
    exact ⟨_, (Worker.answered_handle encode run.worker e).1⟩
  · intro encode act hact
    exact (Worker.silent_perform hact).1
  · exact (Worker.silent_exit run.worker).1
  · simp only [hupdates, sum_countP_kind, htallied.calls]
  · rw [← htallied.failures]
    exact Metric.total_counter rfl (fun _ => Metric.eq_serializationFailure_of_key) records
  · intro hfaithful
    have hgauged : Gauged run.effects := gauged_of endpoint hfaithful
    have hgauge := Metric.find?_activeClusters records 0
    rw [hgauged, List.getLast?_map] at hgauge
    exact hgauge

/-- A cluster is replaced while a call still holds the old one, and the marker that follows finds
the encoder out of order. -/
def replacedUnderLease : List (Encoder × WorkerAct) :=
  [(standard, .handle (.service (.serving "a"))), (standard, .retain 0),
    (standard, .handle (.service (.serving "b"))),
    (fun _ => .error "unencodable cluster", .handle .republish)]

theorem replaced_under_lease_counted :
    (∀ step ∈ replacedUnderLease, Faithful step.1) ∧
    Metric.total (metricsOf (of "svc" replacedUnderLease).effects)
      "xds_resolver_serialization_failures_total" = 1 ∧
    ∃ state, (of "svc" replacedUnderLease).last? = some state ∧ childCount state.config = 2 := by
  have hfaithful : ∀ step ∈ replacedUnderLease, Faithful step.1 := by
    simp [replacedUnderLease, Faithful]
  obtain ⟨-, -, -, -, -, -, hfailures, hgauge⟩ := envelopes_answered_once "svc" replacedUnderLease
  have hshown : (Metric.totals (metricsOf (of "svc" replacedUnderLease).effects)).find?
      "xds_resolver_active_clusters" = some 2 := by decide
  rw [hgauge hfaithful, Option.map_eq_some_iff] at hshown
  exact ⟨hfaithful, hfailures.trans (by decide), hshown⟩

end WorkerRun
end MeshRouting
