import MeshRouting.Inbound.AcceptQueue
import Mathlib.Data.List.DropRight
import Mathlib.Data.List.Induction
import Mathlib.Data.List.Infix
import Mathlib.Tactic.Lemma

/-!
# What an accept call does with arrivals

A call looks at one arrival after the other, with the listener as it is at the time. The first one
that decides the call ends it. Every other connection is dropped, and every temporary error is
waited out, counted from the last connection on.
-/
namespace MeshRouting

/-- An arrival that is taken, with the listener as it is then. -/
structure Look where
  listener : Listener
  arrival : Arrival

namespace Look

def connection? (look : Look) : Option Nat :=
  match look.arrival with
  | .connection c => some c.number
  | .failure _ => none

def isTemporary (look : Look) : Bool :=
  match look.arrival with
  | .connection _ => false
  | .failure e => e.isTemporary

/-- A connection that finds a listener which does not serve. -/
def isUnserved (look : Look) : Bool :=
  match look.arrival with
  | .connection _ => look.listener.mode != .serving
  | .failure _ => false

@[simp] lemma isTemporary_connection (l : Listener) (c : Connection) :
    isTemporary ⟨l, .connection c⟩ = false := rfl

@[simp] lemma isTemporary_failure (l : Listener) (e : IoError) :
    isTemporary ⟨l, .failure e⟩ = e.isTemporary := rfl

/-- How a call ends with an arrival, if it does: a connection needs a listener that serves, both
addresses and a chain for them, an error must not be temporary. -/
inductive Decides : Look → Except ListenerError ServedConnection → Prop
  | served {l : Listener} {c : Connection} {localEnd remoteEnd : Endpoint} {set : ChainSet}
      {chain : FilterChain} (id : Nat) (serving : l.mode = .serving)
      (near : c.localEnd = .ok localEnd) (far : c.remoteEnd = .ok remoteEnd)
      (installed : l.chains = some set) (matched : set.lookup localEnd remoteEnd = some chain) :
      Decides ⟨l, .connection c⟩ (.ok ⟨c, id, chain⟩)
  | failed {l : Listener} {e : IoError} (lasting : e.isTemporary = false) :
      Decides ⟨l, .failure e⟩ (.error (.accept e))

def Undecided (look : Look) : Prop := ∀ result, ¬ look.Decides result

end Look

/-! ### Temporary errors in a row -/

/-- How many temporary errors come last, with nothing between them. -/
def consecutive (looks : List Look) : Nat := (looks.rtakeWhile (·.isTemporary)).length

/-- One attempt for each temporary error: how many there are in a row with it as the last one, as
far as 32 bits go. -/
def attemptsFor (looks : List Look) : List Nat :=
  ((looks.inits.map consecutive).filter (0 < ·)).map (min · (UInt32.size - 1))

variable {looks : List Look} {look : Look}

lemma consecutive_nil : consecutive [] = 0 := rfl

lemma attemptsFor_nil : attemptsFor [] = [] := by
  simp [attemptsFor, consecutive_nil]

lemma consecutive_concat : consecutive (looks ++ [look]) =
    if look.isTemporary then consecutive looks + 1 else 0 := by
  rw [consecutive, List.rtakeWhile_concat]
  cases look.isTemporary <;> simp [consecutive]

lemma attemptsFor_concat : attemptsFor (looks ++ [look]) =
    attemptsFor looks ++
      if look.isTemporary then [min (consecutive looks + 1) (UInt32.size - 1)] else [] := by
  have hinits : (looks ++ [look]).inits = looks.inits ++ [looks ++ [look]] := by
    simp [List.inits_append]
  simp only [attemptsFor, hinits, List.map_append, List.filter_append, List.map_cons,
    List.map_nil, consecutive_concat]
  cases look.isTemporary <;> simp

lemma consecutive_of_temporary (h : ∀ look ∈ looks, look.isTemporary = true) :
    consecutive looks = looks.length := by
  rw [consecutive, List.rtakeWhile_eq_self_iff.mpr h]

/-- With temporary errors only, the attempts count up until they cannot any more. -/
lemma attemptsFor_of_temporary (h : ∀ look ∈ looks, look.isTemporary = true) :
    attemptsFor looks =
      (List.range looks.length).map fun before => min (before + 1) (UInt32.size - 1) := by
  induction looks using List.reverseRecOn with
  | nil => exact attemptsFor_nil
  | append_singleton looks look ih =>
    have hearlier : ∀ other ∈ looks, other.isTemporary = true := fun other hm =>
      h other (List.mem_append_left _ hm)
    rw [attemptsFor_concat, if_pos (h look (by simp)), ih hearlier,
      consecutive_of_temporary hearlier, List.length_append, List.length_singleton,
      List.range_succ, List.map_append, List.map_singleton]

/-- Counting stops at the greatest attempt, and so does the attempt of a call. -/
lemma nextAttempt_min (count : Nat) :
    Listener.nextAttempt (min count (UInt32.size - 1)) = min (count + 1) (UInt32.size - 1) := by
  unfold Listener.nextAttempt
  omega

/-! ### What a call leaves behind -/

def QueueEffect.result? : QueueEffect → Option (Except ListenerError ServedConnection)
  | finished _ result => some result
  | _ => none

def QueueEffect.dropped? : QueueEffect → Option Nat
  | effect (.dropped connection) => some connection
  | _ => none

def QueueEffect.attempt? : QueueEffect → Option Nat
  | effect (.delayed attempt) => some attempt
  | _ => none

def QueueEffect.metric? : QueueEffect → Option Metric
  | effect (.metric m) => some m
  | _ => none

/-- A call with what it has looked at and what came of that. -/
structure AcceptRecord where
  looks : List Look
  effects : List QueueEffect

namespace AcceptRecord

def empty : AcceptRecord := ⟨[], []⟩

def results (record : AcceptRecord) : List (Except ListenerError ServedConnection) :=
  record.effects.filterMap QueueEffect.result?

def dropped (record : AcceptRecord) : List Nat := record.effects.filterMap QueueEffect.dropped?

def attempts (record : AcceptRecord) : List Nat := record.effects.filterMap QueueEffect.attempt?

def metrics (record : AcceptRecord) : List Metric := record.effects.filterMap QueueEffect.metric?

def extend (record : AcceptRecord) (looks : List Look) (effects : List QueueEffect) :
    AcceptRecord :=
  ⟨record.looks ++ looks, record.effects ++ effects⟩

/-- Every connection and every temporary error is counted: as matched the connections that are
handed out, as not served those that find no listener which serves. -/
structure Tallied (record : AcceptRecord) : Prop where
  connections : record.metrics.count (.connection .matched) +
    record.metrics.count (.connection .noMatch) + record.metrics.count (.connection .notServing) =
      record.looks.countP (·.connection?.isSome)
  matched : record.metrics.count (.connection .matched) = record.results.countP (·.isOk)
  unserved : record.metrics.count (.connection .notServing) =
    record.looks.countP (·.isUnserved)
  backoffs : record.metrics.count .acceptBackoff = record.looks.countP (·.isTemporary)

/-- A call that goes on: nothing has decided it. -/
structure Ongoing (record : AcceptRecord) : Prop extends Tallied record where
  undecided : ∀ look ∈ record.looks, look.Undecided
  unfinished : record.results = []
  dropped : record.dropped = record.looks.filterMap (·.connection?)
  attempts : record.attempts = attemptsFor record.looks

/-- A call that has ended, once, with the first arrival that decided it. -/
structure Ended (record : AcceptRecord) : Prop extends Tallied record where
  decided : ∃ earlier last result, record.looks = earlier ++ [last] ∧
    (∀ look ∈ earlier, look.Undecided) ∧ last.Decides result ∧ record.results = [result] ∧
    record.dropped = earlier.filterMap (·.connection?)
  attempts : record.attempts = attemptsFor record.looks

end AcceptRecord

/-! ### One arrival -/

namespace Listener

variable {l : Listener} {delays : DelayRule} {id attempt : Nat} {arrival : Arrival}

lemma addresses_eq_ok_iff {c : Connection} {localEnd remoteEnd : Endpoint} :
    addresses c = .ok (localEnd, remoteEnd) ↔
      c.localEnd = .ok localEnd ∧ c.remoteEnd = .ok remoteEnd := by
  unfold addresses
  cases c.localEnd with
  | error reason => simp [bind, Except.bind]
  | ok near => cases c.remoteEnd <;> simp [bind, Except.bind, pure, Except.pure]

/-- Under what a connection is counted that is not handed out. -/
def refusal (l : Listener) : ConnectionOutcome :=
  if l.mode = .serving then .noMatch else .notServing

/-- What a call can do with an arrival. -/
inductive TakesArrival (l : Listener) (delays : DelayRule) (id attempt : Nat) :
    Arrival → AcceptStep × List AcceptEffect → Prop
  | served {c : Connection} {chain : FilterChain} (n : Notice)
      (decides : Look.Decides ⟨l, .connection c⟩ (.ok ⟨c, id, chain⟩)) :
      TakesArrival l delays id attempt (.connection c)
        (.finished (.ok ⟨c, id, chain⟩), [.metric (.connection .matched), .notice n])
  | turnedAway {c : Connection} (n : Notice)
      (undecided : Look.Undecided ⟨l, .connection c⟩) :
      TakesArrival l delays id attempt (.connection c) (.again, turnAway c l.refusal n)
  | delayed {e : IoError} (n : Notice) (temporary : e.isTemporary = true) :
      TakesArrival l delays id attempt (.failure e)
        (.backOff (nextAttempt attempt) (delays (nextAttempt attempt)),
          [.delayed (nextAttempt attempt), .metric .acceptBackoff, .notice n])
  | failed {e : IoError} (n : Notice) (lasting : e.isTemporary = false) :
      TakesArrival l delays id attempt (.failure e)
        (.finished (.error (.accept e)), [.notice n])

theorem takesArrival_take (l : Listener) (delays : DelayRule) (id attempt : Nat)
    (arrival : Arrival) :
    l.TakesArrival delays id attempt arrival (l.take delays id attempt arrival) := by
  cases arrival with
  | connection c =>
    show l.TakesArrival delays id attempt _
      ((l.handOut id c).1.elim .again fun served => .finished (.ok served), (l.handOut id c).2)
    unfold handOut
    split
    · rename_i hmode
      have hrefusal : l.refusal = .notServing := if_neg hmode
      rw [← hrefusal]
      refine .turnedAway _ fun result hd => ?_
      cases hd with
      | served _ serving => exact hmode serving
    · rename_i hmode
      have hrefusal : l.refusal = .noMatch := if_pos (not_not.mp hmode)
      rw [← hrefusal]
      split
      · rename_i reason haddresses
        refine .turnedAway _ fun result hd => ?_
        cases hd with
        | served _ _ near far =>
          rw [addresses_eq_ok_iff.mpr ⟨near, far⟩] at haddresses
          cases haddresses
      · rename_i localEnd remoteEnd haddresses
        obtain ⟨hnear, hfar⟩ := addresses_eq_ok_iff.mp haddresses
        split
        · rename_i hnone
          refine .turnedAway _ fun result hd => ?_
          cases hd with
          | served _ _ near far installed matched =>
            cases hnear.symm.trans near
            cases hfar.symm.trans far
            simp [chainFor, installed, matched] at hnone
        · rename_i chain hchain
          obtain ⟨set, hset, hlookup⟩ := Option.bind_eq_some_iff.mp hchain
          exact .served _ (.served id (not_not.mp hmode) hnear hfar hset hlookup)
  | failure e =>
    show l.TakesArrival delays id attempt _ (if e.isTemporary then _ else _)
    split
    · rename_i htemporary
      exact .delayed _ htemporary
    · rename_i hlasting
      exact .failed _ (Bool.eq_false_iff.mpr hlasting)

end Listener

namespace AcceptRecord

variable {record : AcceptRecord} {effects more : List QueueEffect} {attempt : Nat}

@[simp] lemma results_extend : (record.extend looks effects).results =
    record.results ++ effects.filterMap QueueEffect.result? := List.filterMap_append

@[simp] lemma dropped_extend : (record.extend looks effects).dropped =
    record.dropped ++ effects.filterMap QueueEffect.dropped? := List.filterMap_append

@[simp] lemma attempts_extend : (record.extend looks effects).attempts =
    record.attempts ++ effects.filterMap QueueEffect.attempt? := List.filterMap_append

@[simp] lemma metrics_extend : (record.extend looks effects).metrics =
    record.metrics ++ effects.filterMap QueueEffect.metric? := List.filterMap_append

@[simp] lemma looks_extend : (record.extend looks effects).looks = record.looks ++ looks := rfl

lemma extend_extend (others : List Look) : (record.extend looks effects).extend others more =
    record.extend (looks ++ others) (effects ++ more) := by
  simp only [extend, List.append_assoc]

lemma extend_nil : record.extend [] [] = record := by
  simp only [extend, List.append_nil]

/-- Tallies add up. -/
lemma Tallied.extend (h : record.Tallied) (hp : Tallied ⟨looks, effects⟩) :
    (record.extend looks effects).Tallied := by
  obtain ⟨hconnections, hmatched, hunserved, hbackoffs⟩ := h
  obtain ⟨hmore, hserved, hrefused, hdelayed⟩ := hp
  simp only [metrics, results] at hmore hserved hrefused hdelayed
  refine ⟨?_, ?_, ?_, ?_⟩
  · simp only [metrics_extend, looks_extend, List.count_append, List.countP_append]
    omega
  · simp only [metrics_extend, results_extend, List.count_append, List.countP_append]
    omega
  · simp only [metrics_extend, looks_extend, List.count_append, List.countP_append]
    omega
  · simp only [metrics_extend, looks_extend, List.count_append, List.countP_append]
    omega

lemma tallied_turnAway (l : Listener) (c : Connection) (n : Notice) :
    Tallied ⟨[⟨l, .connection c⟩], (Listener.turnAway c l.refusal n).map .effect⟩ := by
  have hserved : Look.isUnserved ⟨l, .connection c⟩ = (l.mode != .serving) := rfl
  by_cases hm : l.mode = .serving
  · have hrefusal : l.refusal = .noMatch := if_pos hm
    rw [hrefusal]
    refine ⟨rfl, rfl, ?_, rfl⟩
    rw [List.countP_singleton, hserved, hm]
    rfl
  · have hrefusal : l.refusal = .notServing := if_neg hm
    rw [hrefusal]
    refine ⟨rfl, rfl, ?_, rfl⟩
    rw [List.countP_singleton, hserved, if_pos (bne_iff_ne.mpr hm)]
    rfl

/-- An arrival that decides nothing leaves the call to go on. -/
lemma Ongoing.goOn (h : record.Ongoing) (hu : look.Undecided) (ht : Tallied ⟨[look], effects⟩)
    (hr : effects.filterMap QueueEffect.result? = [])
    (hn : effects.filterMap QueueEffect.dropped? = look.connection?.toList)
    (ha : effects.filterMap QueueEffect.attempt? =
      if look.isTemporary then [min (consecutive record.looks + 1) (UInt32.size - 1)] else []) :
    (record.extend [look] effects).Ongoing where
  toTallied := h.toTallied.extend ht
  undecided := by
    intro other hother
    rcases List.mem_append.mp hother with hold | hnew
    · exact h.undecided other hold
    · exact List.mem_singleton.mp hnew ▸ hu
  unfinished := by rw [results_extend, h.unfinished, hr, List.append_nil]
  dropped := by
    have hone : [look].filterMap (·.connection?) = look.connection?.toList := by
      cases hc : look.connection? <;> simp [hc]
    rw [dropped_extend, looks_extend, List.filterMap_append, h.dropped, hn, hone]
  attempts := by rw [attempts_extend, looks_extend, attemptsFor_concat, h.attempts, ha]

/-- A connection that decides nothing is dropped. -/
lemma Ongoing.turnAway (h : record.Ongoing) {l : Listener} {c : Connection}
    (hu : Look.Undecided ⟨l, .connection c⟩) (n : Notice) :
    (record.extend [⟨l, .connection c⟩]
      ((Listener.turnAway c l.refusal n).map .effect)).Ongoing :=
  h.goOn hu (tallied_turnAway l c n) rfl rfl rfl

/-- A temporary error is waited out, one attempt further than those right before it. -/
lemma Ongoing.delay (h : record.Ongoing) {l : Listener} {e : IoError}
    (ht : e.isTemporary = true) (n : Notice) :
    (record.extend [⟨l, .failure e⟩]
      [.effect (.delayed (min (consecutive record.looks + 1) (UInt32.size - 1))),
        .effect (.metric .acceptBackoff), .effect (.notice n)]).Ongoing := by
  have htemporary : Look.isTemporary ⟨l, .failure e⟩ = true := ht
  refine h.goOn (fun result hd => ?_) ⟨rfl, rfl, rfl, ?_⟩ rfl rfl ?_
  · cases hd with
    | failed hlasting => simp [ht] at hlasting
  · rw [List.countP_singleton, if_pos htemporary]
    rfl
  · rw [if_pos htemporary]
    rfl

/-- The first arrival that decides a call ends it. -/
lemma Ongoing.finish (h : record.Ongoing) {result : Except ListenerError ServedConnection}
    (hd : look.Decides result) (ht : Tallied ⟨[look], effects⟩)
    (hr : effects.filterMap QueueEffect.result? = [result])
    (hn : effects.filterMap QueueEffect.dropped? = [])
    (ha : effects.filterMap QueueEffect.attempt? = []) : (record.extend [look] effects).Ended where
  toTallied := h.toTallied.extend ht
  decided := by
    refine ⟨record.looks, look, result, rfl, h.undecided, hd, ?_, ?_⟩
    · rw [results_extend, h.unfinished, hr, List.nil_append]
    · rw [dropped_extend, hn, h.dropped, List.append_nil]
  attempts := by
    have hlasting : look.isTemporary = false := by
      cases hd with
      | served => rfl
      | failed hlasting => exact hlasting
    simp [attemptsFor_concat, ha, h.attempts, hlasting]

/-- An effect that only concerns the turns. -/
def Idle (e : QueueEffect) : Prop :=
  e.result? = none ∧ e.dropped? = none ∧ e.attempt? = none ∧ e.metric? = none

lemma Ongoing.idle (h : record.Ongoing) {e : QueueEffect} (he : Idle e) :
    (record.extend [] [e]).Ongoing := by
  obtain ⟨hresult, hdropped, hattempt, hmetric⟩ := he
  have hr : (record.extend [] [e]).results = record.results := by simp [hresult]
  have hn : (record.extend [] [e]).dropped = record.dropped := by simp [hdropped]
  have ha : (record.extend [] [e]).attempts = record.attempts := by simp [hattempt]
  have hm : (record.extend [] [e]).metrics = record.metrics := by simp [hmetric]
  have hl : (record.extend [] [e]).looks = record.looks := by simp
  refine ⟨⟨?_, ?_, ?_, ?_⟩, ?_, ?_, ?_, ?_⟩
  · rw [hm, hl, h.connections]
  · rw [hm, hr, h.matched]
  · rw [hm, hl, h.unserved]
  · rw [hm, hl, h.backoffs]
  · rw [hl]
    exact h.undecided
  · rw [hr, h.unfinished]
  · rw [hn, hl, h.dropped]
  · rw [ha, hl, h.attempts]

/-- The record of a call that is neither in line nor out of reach of the clock. -/
structure Describes (record : AcceptRecord) (call : AcceptCall) (clock : Nat) : Prop
    extends Ongoing record where
  attempt : call.attempt = min (consecutive record.looks) (UInt32.size - 1)
  stage : call.stage = .asking ∨ call.stage = .holding ∨
    ∃ wakeAt, call.stage = .resting wakeAt ∧ wakeAt ≤ clock + AcceptQueue.longestRest

variable {call : AcceptCall} {clock : Nat}

lemma ongoing_empty : empty.Ongoing where
  toTallied := ⟨rfl, rfl, rfl, rfl⟩
  undecided := fun _ hlook => absurd hlook List.not_mem_nil
  unfinished := rfl
  dropped := rfl
  attempts := attemptsFor_nil.symm

lemma describes_empty (number clock : Nat) : empty.Describes ⟨number, 0, .asking⟩ clock := by
  refine ⟨ongoing_empty, ?_, .inl rfl⟩
  show 0 = min (consecutive []) _
  rw [consecutive_nil, Nat.zero_min]

lemma Describes.idle (h : record.Describes call clock) {e : QueueEffect} (he : Idle e) :
    (record.extend [] [e]).Describes call clock := by
  refine ⟨h.toOngoing.idle he, ?_, h.stage⟩
  rw [looks_extend, List.append_nil, h.attempt]

lemma Describes.asking (h : record.Describes call clock) :
    record.Describes { call with stage := .asking } clock :=
  ⟨h.toOngoing, h.attempt, .inl rfl⟩

lemma Describes.holding (h : record.Describes call clock) :
    record.Describes { call with stage := .holding } clock :=
  ⟨h.toOngoing, h.attempt, .inr (.inl rfl)⟩

lemma Describes.later {next : Nat} (h : record.Describes call clock) (hle : clock ≤ next) :
    record.Describes call next := by
  refine ⟨h.toOngoing, h.attempt, h.stage.imp_right (Or.imp_right ?_)⟩
  rintro ⟨wakeAt, hs, hw⟩
  exact ⟨wakeAt, hs, hw.trans (Nat.add_le_add_right hle _)⟩

end AcceptRecord

namespace AcceptQueue

variable {l : Listener} {delays : DelayRule} {q : AcceptQueue} {call : AcceptCall}
  {record : AcceptRecord} {arrival : Arrival} {arrivals : List Arrival}

lemma handOver_of_nil (hq : q.calls = []) : q.handOver = (q, []) := by
  simp [handOver, hq]

/-- The queue without the arrival in front. -/
def without (q : AcceptQueue) (arrival : Arrival) (arrivals : List Arrival) : AcceptQueue :=
  { q with arrivals, taken := q.taken + countTaken arrival }

/-- A call that has the socket to itself hands it to nobody. -/
lemma serve_eq (hq : q.calls = []) :
    serve l delays q call arrival arrivals =
      ((q.without arrival arrivals,
          (l.take delays (q.taken + 1) call.attempt arrival).2.map .effect),
        q.resume call.number (l.take delays (q.taken + 1) call.attempt arrival).1) := by
  have hnone : (q.without arrival arrivals).handOver = (q.without arrival arrivals, []) :=
    handOver_of_nil hq
  unfold serve
  rw [← without, hnone]
  rfl

/-- One arrival ends the call, or leaves it to wait for the next one. -/
lemma serve_cases (delays : DelayRule) (arrival : Arrival) (arrivals : List Arrival)
    (hq : q.calls = []) (h : record.Describes call q.clock) :
    (∃ effects ended, serve l delays q call arrival arrivals =
        ((q.without arrival arrivals, effects), .error ended) ∧
      (record.extend [⟨l, arrival⟩] (effects ++ [ended])).Ended) ∨
    ∃ effects resumed, serve l delays q call arrival arrivals =
        ((q.without arrival arrivals, effects), .ok resumed) ∧
      (record.extend [⟨l, arrival⟩] effects).Describes resumed q.clock := by
  have htakes := Listener.takesArrival_take l delays (q.taken + 1) call.attempt arrival
  rw [serve_eq hq]
  generalize l.take delays (q.taken + 1) call.attempt arrival = o at htakes ⊢
  cases htakes with
  | @served c chain n hd =>
    refine .inl ⟨_, _, rfl, h.finish hd ⟨rfl, rfl, ?_, rfl⟩ rfl rfl rfl⟩
    have hserving : l.mode = .serving := by
      cases hd with
      | served _ serving => exact serving
    simp only [List.countP_singleton, Look.isUnserved, hserving]
    rfl
  | @turnedAway c n hu =>
    refine .inr ⟨_, _, rfl, h.turnAway hu n, ?_, .inl rfl⟩
    rw [AcceptRecord.looks_extend, consecutive_concat]
    rfl
  | @delayed e n ht =>
    have hlook : Look.isTemporary ⟨l, .failure e⟩ = true := ht
    rw [h.attempt, nextAttempt_min]
    refine .inr ⟨_, _, rfl, h.delay ht n, ?_, .inr (.inr ⟨_, rfl, ?_⟩)⟩
    · rw [AcceptRecord.looks_extend, consecutive_concat, if_pos hlook]
    · exact Nat.add_le_add_left (Nat.min_le_right _ _) _
  | @failed e n hlasting =>
    refine .inl ⟨_, _, rfl, h.finish (.failed hlasting) ⟨rfl, rfl, rfl, ?_⟩ rfl rfl rfl⟩
    simp only [List.countP_singleton, Look.isTemporary_failure, hlasting]
    rfl

/-! ### Units of work -/

section Units

variable {units : Nat}

lemma run_asking (hs : call.stage = .asking) (hq : q.calls = []) (ho : l.closed = false) :
    run l delays (units + 1) q call =
      ((run l delays units q { call with stage := .holding }).1,
        .looked :: (run l delays units q { call with stage := .holding }).2) := by
  have hfree : q.holder? = none := by simp [holder?, hq]
  simp [run, hs, ho, hfree]

lemma run_holding_nil (hs : call.stage = .holding) (ha : q.arrivals = []) :
    run l delays (units + 1) q call = (q.keep call, []) := by
  simp [run, hs, ha]

lemma run_holding_ended {next : AcceptQueue} {effects : List QueueEffect} {ended : QueueEffect}
    (hs : call.stage = .holding) (ha : q.arrivals = arrival :: arrivals)
    (h : serve l delays q call arrival arrivals = ((next, effects), .error ended)) :
    run l delays (units + 1) q call = (next, effects ++ [ended]) := by
  simp [run, hs, ha, h]

lemma run_holding_resumed {next : AcceptQueue} {effects : List QueueEffect}
    {resumed : AcceptCall} (hs : call.stage = .holding) (ha : q.arrivals = arrival :: arrivals)
    (h : serve l delays q call arrival arrivals = ((next, effects), .ok resumed)) :
    run l delays (units + 1) q call =
      ((run l delays units next resumed).1, effects ++ (run l delays units next resumed).2) := by
  simp [run, hs, ha, h]

lemma run_resting {wakeAt : Nat} (hs : call.stage = .resting wakeAt) :
    run l delays (units + 1) q call =
      if q.clock < wakeAt then (q.keep call, [])
      else run l delays units q { call with stage := .asking } := by
  simp [run, hs]

end Units

/-- What became of a call: it has ended, or is at the socket again. -/
def Leaves (q : AcceptQueue) (record : AcceptRecord) : Prop :=
  (q.calls = [] ∧ record.Ended) ∨ ∃ call, q.calls = [call] ∧ record.Describes call q.clock

lemma leaves_keep (hq : q.calls = []) (h : record.Describes call q.clock) :
    (q.keep call).Leaves record := by
  refine .inr ⟨call, ?_, h⟩
  rw [keep, hq, List.nil_append]

/-- A call at work takes arrivals from the front, and is where these leave it. -/
theorem run_leaves (units : Nat) (delays : DelayRule) (hq : q.calls = []) (ho : l.closed = false)
    (h : record.Describes call q.clock) :
    ∃ taken, q.arrivals = taken ++ (run l delays units q call).1.arrivals ∧
      (run l delays units q call).1.clock = q.clock ∧
      (run l delays units q call).1.Leaves
        (record.extend (taken.map (Look.mk l)) (run l delays units q call).2) := by
  -- The record so far goes along with the units, so that the rest of the work starts from it.
  induction units generalizing q call record with
  | zero => exact ⟨[], rfl, rfl, leaves_keep hq (h.idle ⟨rfl, rfl, rfl, rfl⟩)⟩
  | succ units ih =>
    have hwaits : (q.keep call).Leaves (record.extend [] []) := by
      rw [AcceptRecord.extend_nil]
      exact leaves_keep hq h
    rcases h.stage with hs | hs | ⟨wakeAt, hs, -⟩
    · have hlooked := h.idle (e := .looked) ⟨rfl, rfl, rfl, rfl⟩
      obtain ⟨taken, harrivals, hclock, hleaves⟩ := ih hq hlooked.holding
      rw [AcceptRecord.extend_extend] at hleaves
      rw [run_asking hs hq ho]
      exact ⟨taken, harrivals, hclock, hleaves⟩
    · cases ha : q.arrivals with
      | nil =>
        rw [run_holding_nil hs ha]
        exact ⟨[], ha.symm, rfl, hwaits⟩
      | cons arrival arrivals =>
        obtain ⟨effects, ended, hserve, hended⟩ | ⟨effects, resumed, hserve, hresumed⟩ :=
          serve_cases delays arrival arrivals hq h
        · rw [run_holding_ended hs ha hserve]
          exact ⟨[arrival], rfl, rfl, .inl ⟨hq, hended⟩⟩
        · obtain ⟨taken, hrest, hclock, hleaves⟩ :=
            ih (q := q.without arrival arrivals) hq hresumed
          rw [AcceptRecord.extend_extend] at hleaves
          rw [run_holding_resumed hs ha hserve]
          exact ⟨arrival :: taken, congrArg (arrival :: ·) hrest, hclock, hleaves⟩
    · rw [run_resting hs]
      split
      · exact ⟨[], rfl, rfl, hwaits⟩
      · exact ih hq h.asking

lemma run_holding_takes (units : Nat) (delays : DelayRule) (hs : call.stage = .holding)
    (hq : q.calls = []) (ho : l.closed = false) (h : record.Describes call q.clock)
    (ha : q.arrivals ≠ []) :
    (run l delays (units + 1) q call).1.arrivals.length < q.arrivals.length := by
  obtain ⟨arrival, arrivals, ha⟩ := List.exists_cons_of_ne_nil ha
  have hlength : q.arrivals.length = arrivals.length + 1 := by simp [ha]
  obtain ⟨effects, ended, hserve, -⟩ | ⟨effects, resumed, hserve, hresumed⟩ :=
    serve_cases delays arrival arrivals hq h
  · have hnext : (q.without arrival arrivals).arrivals = arrivals := rfl
    rw [run_holding_ended hs ha hserve, hnext]
    omega
  · obtain ⟨taken, hrest, -⟩ :=
      run_leaves units delays (q := q.without arrival arrivals) hq ho hresumed
    have hrest : arrivals.length = _ := congrArg List.length hrest
    rw [List.length_append] at hrest
    rw [run_holding_resumed hs ha hserve, hlength]
    exact Nat.lt_succ_of_le (hrest ▸ Nat.le_add_left _ _)

/-- Three units are enough to end a rest that is due, take the socket and take an arrival. -/
theorem run_takes (delays : DelayRule) (hq : q.calls = []) (ho : l.closed = false)
    (h : record.Describes call q.clock)
    (hdue : ∀ wakeAt, call.stage = .resting wakeAt → wakeAt ≤ q.clock) (ha : q.arrivals ≠ []) :
    (run l delays 3 q call).1.arrivals.length < q.arrivals.length := by
  rcases h.stage with hs | hs | ⟨wakeAt, hs, -⟩
  · rw [run_asking hs hq ho]
    exact run_holding_takes 1 delays rfl hq ho h.holding ha
  · exact run_holding_takes 2 delays hs hq ho h ha
  · rw [run_resting hs, if_neg (not_lt.mpr (hdue wakeAt hs)), run_asking rfl hq ho]
    exact run_holding_takes 0 delays rfl hq ho h.asking.holding ha

end AcceptQueue
end MeshRouting
