import MeshRouting.Proofs.AcceptCalls
import MeshRouting.Proofs.ListenerRuns
import MeshRouting.Proofs.MetricTotals

/-!
# Runs of accept calls

One accept call after another at the socket of an open listener. In between anything can arrive,
time can pass, watches can call back and the control loop can take what they delivered. A call may
do as little work at a time as a single unit, so that the listener may be another one for each
arrival.
-/
namespace MeshRouting

/-! ### Metrics of the control loop -/

def ListenerEffect.metric? : ListenerEffect → Option Metric
  | metric m => some m
  | _ => none

namespace Listener

variable {l : Listener} {effects more : List ListenerEffect}

/-- Nothing is counted but whether the listener serves. -/
def OnlyServing (effects : List ListenerEffect) : Prop :=
  ∀ m ∈ effects.filterMap (·.metric?), ∃ address on, m = .serving address on

lemma OnlyServing.append (h : OnlyServing effects) (g : OnlyServing more) :
    OnlyServing (effects ++ more) := by
  intro m hm
  rw [List.filterMap_append] at hm
  exact (List.mem_append.mp hm).elim (h m) (g m)

lemma onlyServing_of_quiet (h : Quiet effects) : OnlyServing effects := by
  intro m hm
  obtain ⟨e, he, hmetric⟩ := List.mem_filterMap.mp hm
  obtain ⟨n, rfl⟩ := h e he
  cases hmetric

lemma onlyServing_switchMode (l : Listener) (mode : ServingMode) (error : Option String) :
    OnlyServing (l.switchMode mode error).2 := by
  unfold switchMode
  split
  · exact onlyServing_of_quiet quiet_nil
  · intro m hm
    have hgauge : m = .serving l.address (mode == .serving) := by
      cases hr : l.reportsMode <;> simpa [hr, ListenerEffect.metric?] using hm
    exact ⟨_, _, hgauge⟩

lemma onlyServing_checkReady (l : Listener) : OnlyServing l.checkReady.2 := by
  have hserve : ∀ l : Listener, OnlyServing l.serveIfComplete.2 := by
    intro l
    unfold serveIfComplete
    split
    · exact onlyServing_switchMode _ _ _
    · exact onlyServing_of_quiet quiet_nil
  cases hg : l.gate with
  | none =>
    have hnone : l.checkReady = (l, []) := by simp [checkReady, hg]
    rw [hnone]
    exact onlyServing_of_quiet quiet_nil
  | some gate =>
    obtain ⟨-, -, heq⟩ | ⟨-, heq⟩ | ⟨-, -, heq⟩ := checkReady_cases hg
    · rw [heq]
      exact onlyServing_of_quiet quiet_nil
    · rw [heq]
      exact hserve l
    · have hfire : ∀ generation (l : Listener), OnlyServing (l.fire generation).2 := by
        intro generation l m hm
        cases hm
      rw [heq]
      exact (hserve _).append (hfire _ _)

lemma onlyServing_onEvent (l : Listener) (event : ControlEvent) :
    OnlyServing (l.onEvent event).2 := by
  have htakes := takes_onEvent l event
  generalize l.onEvent event = o at htakes ⊢
  cases htakes with
  | @install _ set ha =>
    obtain ⟨effects, hquiet, heq⟩ := install_eq l set
    rw [heq]
    exact (onlyServing_of_quiet hquiet).append (onlyServing_checkReady _)
  | @withdraw _ error hw n =>
    obtain ⟨effects, hquiet, heq⟩ := withdraw_eq l error
    show OnlyServing ([.notice n] ++ (l.withdraw error).2)
    rw [heq]
    exact (onlyServing_of_quiet (quiet_notice n)).append
      ((onlyServing_of_quiet hquiet).append (onlyServing_switchMode _ _ _))
  | @store name watch hw config =>
    obtain ⟨effects, hquiet, heq⟩ := storeRoute_eq l name config
    rw [heq]
    exact (onlyServing_of_quiet hquiet).append (onlyServing_checkReady _)
  | @lose name watch hw e he =>
    obtain ⟨effects, hquiet, heq⟩ := loseRoute_eq l name e
    rw [heq]
    exact (onlyServing_of_quiet hquiet).append (onlyServing_switchMode _ _ _)
  | ignore ha n => exact onlyServing_of_quiet (quiet_notice n)

lemma onlyServing_perform (l : Listener) (act : ListenerAct) :
    OnlyServing (l.perform act).2 := by
  obtain ⟨event, rest, -, -, heq⟩ | ⟨-, -, hquiet⟩ := perform_cases l act
  · rw [heq]
    exact onlyServing_onEvent _ event
  · exact onlyServing_of_quiet hquiet

/-- Only closing closes a listener, and its loop runs as long. -/
lemma open_perform {act : ListenerAct} (hact : act ≠ .close) (hc : l.closed = false)
    (hx : l.exited = false) :
    (l.perform act).1.closed = false ∧ (l.perform act).1.exited = false := by
  cases ht : l.taken? act with
  | none =>
    obtain ⟨events, heq⟩ | ⟨hclosed, -⟩ := perform_idle hact ht
    · rw [heq]
      exact ⟨hc, hx⟩
    · rw [hc] at hclosed
      cases hclosed
  | some event =>
    obtain ⟨event, rest, -, -, heq⟩ | ⟨hnone, -⟩ := perform_cases l act
    · have hadvances := advances_onEvent { l with events := rest } event
      rw [heq]
      exact ⟨hadvances.closed.trans hc, hadvances.exited.trans hx⟩
    · rw [ht] at hnone
      cases hnone

end Listener

/-! ### Runs -/

inductive AcceptAct where
  | accept (number : Nat)
  | arrive (arrival : Arrival)
  | advance (ms : Nat)
  | work (units : Nat)
  | callback (event : ControlEvent)
  | take
  deriving Repr

def AcceptAct.arrival? : AcceptAct → Option Arrival
  | arrive arrival => some arrival
  | accept _ | advance _ | work _ | callback _ | take => none

/-- The calls that have ended, in order, and the one that goes on. -/
structure AcceptRun where
  listener : Listener
  queue : AcceptQueue
  ended : List AcceptRecord
  ongoing : Option AcceptRecord
  metrics : List Metric

namespace AcceptRun

def start (site : ListenerSite) : AcceptRun :=
  let (listener, effects) :=
    Listener.start site.client site.address site.resource site.reportsMode
  ⟨listener, {}, [], none, effects.filterMap (·.metric?)⟩

def records (run : AcceptRun) : List AcceptRecord := run.ended ++ run.ongoing.toList

/-- Everything that was looked at, in order. -/
def looks (run : AcceptRun) : List Look := run.records.flatMap (·.looks)

def control (run : AcceptRun) (o : Listener.Outcome) : AcceptRun :=
  { run with listener := o.1, metrics := run.metrics ++ o.2.filterMap (·.metric?) }

/-- Keep a record: a call that is not at the socket any more has ended. -/
def keep (run : AcceptRun) (record : AcceptRecord) : AcceptRun :=
  if run.queue.calls.isEmpty then { run with ended := run.ended ++ [record], ongoing := none }
  else { run with ongoing := some record }

/-- The call does some units of work; what is missing of the arrivals then, it has looked at. -/
def work (delays : DelayRule) (units : Nat) (run : AcceptRun) : AcceptRun :=
  match run.queue.calls with
  | [] => run
  | call :: others =>
    let o := AcceptQueue.run run.listener delays units { run.queue with calls := others } call
    let taken := run.queue.arrivals.take (run.queue.arrivals.length - o.1.arrivals.length)
    let record := (run.ongoing.getD .empty).extend (taken.map (Look.mk run.listener)) o.2
    { run with
      queue := o.1
      metrics := run.metrics ++ o.2.filterMap QueueEffect.metric? }.keep record

/-- A call begins only when no other goes on. -/
def next (delays : DelayRule) (run : AcceptRun) : AcceptAct → AcceptRun
  | .accept number =>
    if run.queue.calls.isEmpty then
      { run with queue := (run.queue.start number).1, ongoing := some .empty }
    else run
  | .arrive arrival => { run with queue := (run.queue.arrive arrival).1 }
  | .advance ms => { run with queue := (run.queue.advance ms).1 }
  | .work units => run.work delays units
  | .callback event => run.control (run.listener.perform (.callback event))
  | .take => run.control (run.listener.perform .take)

def extend (delays : DelayRule) (run : AcceptRun) (acts : List AcceptAct) : AcceptRun :=
  acts.foldl (next delays) run

def of (site : ListenerSite) (delays : DelayRule) (acts : List AcceptAct) : AcceptRun :=
  (start site).extend delays acts

/-! ### What every run keeps -/

/-- No call is at the socket, or the one whose record goes on. -/
def Attended (run : AcceptRun) : Prop :=
  (run.queue.calls = [] ∧ run.ongoing = none) ∨
    ∃ call record, run.queue.calls = [call] ∧ run.ongoing = some record ∧
      record.Describes call run.queue.clock

/-- What is counted beside the serving mode is counted by the calls. -/
def Counted (run : AcceptRun) : Prop :=
  ∀ m, (∀ address on, m ≠ .serving address on) →
    run.metrics.count m = (run.records.flatMap (·.metrics)).count m

structure Sound (run : AcceptRun) : Prop where
  unclosed : run.listener.closed = false
  running : run.listener.exited = false
  attended : run.Attended
  ended : ∀ record ∈ run.ended, record.Ended
  counted : run.Counted

variable {run : AcceptRun} {delays : DelayRule}

lemma sound_start (site : ListenerSite) : (start site).Sound :=
  ⟨rfl, rfl, .inl ⟨rfl, rfl⟩, nofun, fun _ _ => rfl⟩

/-- What was looked at, and the calls, become more, and together with what waits the looks make up
what has arrived. -/
structure Follows (run : AcceptRun) (arrived : List Arrival) (after : AcceptRun) : Prop where
  arrivals : after.looks.map (·.arrival) ++ after.queue.arrivals =
    run.looks.map (·.arrival) ++ run.queue.arrivals ++ arrived
  looks : run.looks.length ≤ after.looks.length
  ended : run.ended.length ≤ after.ended.length
  records : run.records.length ≤ after.records.length

lemma follows_same {after : AcceptRun} {arrived : List Arrival} (hl : after.looks = run.looks)
    (ha : after.queue.arrivals = run.queue.arrivals ++ arrived) (he : after.ended = run.ended)
    (hr : run.records.length ≤ after.records.length) : run.Follows arrived after :=
  ⟨by rw [hl, ha, List.append_assoc], hl ▸ le_rfl, he ▸ le_rfl, hr⟩

lemma follows_refl (run : AcceptRun) : run.Follows [] run :=
  follows_same rfl (List.append_nil _).symm rfl le_rfl

lemma Follows.trans {mid after : AcceptRun} {arrived more : List Arrival}
    (h : run.Follows arrived mid) (g : mid.Follows more after) :
    run.Follows (arrived ++ more) after where
  arrivals := by rw [g.arrivals, h.arrivals, List.append_assoc]
  looks := h.looks.trans g.looks
  ended := h.ended.trans g.ended
  records := h.records.trans g.records

lemma Sound.control (h : run.Sound) {act : ListenerAct} (hact : act ≠ .close) :
    (run.control (run.listener.perform act)).Sound ∧
      run.Follows [] (run.control (run.listener.perform act)) := by
  have hfollows : run.Follows [] (run.control (run.listener.perform act)) :=
    follows_same rfl (List.append_nil _).symm rfl le_rfl
  obtain ⟨hunclosed, hrunning⟩ := Listener.open_perform hact h.unclosed h.running
  refine ⟨⟨hunclosed, hrunning, h.attended, h.ended, ?_⟩, hfollows⟩
  intro m hm
  have hnone : ((run.listener.perform act).2.filterMap (·.metric?)).count m = 0 := by
    refine List.count_eq_zero.mpr fun hin => ?_
    obtain ⟨address, on, he⟩ := Listener.onlyServing_perform run.listener act m hin
    exact hm address on he
  show (run.metrics ++ _).count m = _
  rw [List.count_append, hnone, h.counted m hm]
  rfl

lemma Sound.accept (h : run.Sound) (number : Nat) :
    (run.next delays (.accept number)).Sound ∧
      run.Follows [] (run.next delays (.accept number)) := by
  rcases h.attended with ⟨hcalls, hongoing⟩ | ⟨call, record, hcalls, -, -⟩
  · have hnext : run.next delays (.accept number) =
        { run with queue := (run.queue.start number).1, ongoing := some .empty } := by
      simp [next, hcalls]
    have hrecords : (run.next delays (.accept number)).records = run.records ++ [.empty] := by
      simp [hnext, records, hongoing]
    have hlooks : (run.next delays (.accept number)).looks = run.looks := by
      simp [looks, hrecords, AcceptRecord.empty]
    have harrivals : (run.next delays (.accept number)).queue.arrivals =
        run.queue.arrivals ++ [] := by
      rw [hnext, List.append_nil]
      rfl
    have hended : (run.next delays (.accept number)).ended = run.ended := by rw [hnext]
    have hmore : run.records.length ≤ (run.next delays (.accept number)).records.length := by
      rw [hrecords, List.length_append]
      exact Nat.le_add_right _ _
    refine ⟨⟨?_, ?_, ?_, ?_, ?_⟩, follows_same hlooks harrivals hended hmore⟩
    · rw [hnext]
      exact h.unclosed
    · rw [hnext]
      exact h.running
    · rw [hnext]
      refine .inr ⟨_, _, ?_, rfl, AcceptRecord.describes_empty number _⟩
      show run.queue.calls ++ _ = _
      rw [hcalls, List.nil_append]
    · rw [hnext]
      exact h.ended
    · intro m hm
      rw [hrecords, List.flatMap_append, List.count_append, ← h.counted m hm, hnext]
      rfl
  · have hnext : run.next delays (.accept number) = run := by simp [next, hcalls]
    rw [hnext]
    exact ⟨h, follows_refl run⟩

lemma Sound.arrive (h : run.Sound) (arrival : Arrival) :
    (run.next delays (.arrive arrival)).Sound ∧
      run.Follows [arrival] (run.next delays (.arrive arrival)) :=
  ⟨⟨h.unclosed, h.running, h.attended, h.ended, h.counted⟩, follows_same rfl rfl rfl le_rfl⟩

lemma Sound.advance (h : run.Sound) (ms : Nat) :
    (run.next delays (.advance ms)).Sound ∧ run.Follows [] (run.next delays (.advance ms)) := by
  have hfollows : run.Follows [] (run.next delays (.advance ms)) :=
    follows_same rfl (List.append_nil _).symm rfl le_rfl
  refine ⟨⟨h.unclosed, h.running, ?_, h.ended, h.counted⟩, hfollows⟩
  rcases h.attended with hnone | ⟨call, record, hcalls, hongoing, hdescribes⟩
  · exact .inl hnone
  · exact .inr ⟨call, record, hcalls, hongoing, hdescribes.later (Nat.le_add_right _ _)⟩

lemma records_keep (run : AcceptRun) (record : AcceptRecord) :
    (run.keep record).records = run.ended ++ [record] := by
  unfold keep
  split <;> simp [records]

lemma keep_rest (run : AcceptRun) (record : AcceptRecord) :
    (run.keep record).listener = run.listener ∧ (run.keep record).queue = run.queue ∧
      (run.keep record).metrics = run.metrics := by
  unfold keep
  split <;> exact ⟨rfl, rfl, rfl⟩

lemma length_ended_keep (run : AcceptRun) (record : AcceptRecord) :
    run.ended.length ≤ (run.keep record).ended.length := by
  unfold keep
  split <;> simp

/-- A record is kept among the ended ones just if it is that of an ended call. -/
lemma attended_keep {record : AcceptRecord} (hl : run.queue.Leaves record)
    (he : ∀ other ∈ run.ended, other.Ended) :
    (run.keep record).Attended ∧ ∀ other ∈ (run.keep record).ended, other.Ended := by
  rcases hl with ⟨hcalls, hended⟩ | ⟨call, hcalls, hdescribes⟩
  · have hkeep : run.keep record =
        { run with ended := run.ended ++ [record], ongoing := none } := by
      simp [keep, hcalls]
    rw [hkeep]
    refine ⟨.inl ⟨hcalls, rfl⟩, fun other hm => ?_⟩
    rcases List.mem_append.mp hm with hm | hm
    · exact he other hm
    · exact List.mem_singleton.mp hm ▸ hended
  · have hkeep : run.keep record = { run with ongoing := some record } := by
      simp [keep, hcalls]
    rw [hkeep]
    exact ⟨.inr ⟨call, record, hcalls, rfl, hdescribes⟩, he⟩

/-- The call that goes on looks at some arrivals from the front, and its record tells. -/
lemma Sound.work_eq (h : run.Sound) (delays : DelayRule) (units : Nat) {call : AcceptCall}
    {record : AcceptRecord} (hcalls : run.queue.calls = [call])
    (hongoing : run.ongoing = some record) (hd : record.Describes call run.queue.clock) :
    let o := AcceptQueue.run run.listener delays units { run.queue with calls := [] } call
    ∃ taken, run.queue.arrivals = taken ++ o.1.arrivals ∧ o.1.clock = run.queue.clock ∧
      o.1.Leaves (record.extend (taken.map (Look.mk run.listener)) o.2) ∧
      run.work delays units =
        { run with
          queue := o.1
          metrics := run.metrics ++ o.2.filterMap QueueEffect.metric? }.keep
        (record.extend (taken.map (Look.mk run.listener)) o.2) := by
  intro o
  obtain ⟨taken, harrivals, hclock, hleaves⟩ :=
    AcceptQueue.run_leaves (q := { run.queue with calls := [] }) units delays rfl h.unclosed hd
  have harrivals : run.queue.arrivals = taken ++ o.1.arrivals := harrivals
  have htaken : run.queue.arrivals.take
      (run.queue.arrivals.length - o.1.arrivals.length) = taken := by
    rw [harrivals, List.length_append, Nat.add_sub_cancel, List.take_left]
  refine ⟨taken, harrivals, hclock, hleaves, ?_⟩
  simp only [AcceptRun.work, hcalls, hongoing, Option.getD_some]
  rw [htaken]

lemma Sound.work (h : run.Sound) (delays : DelayRule) (units : Nat) :
    (run.work delays units).Sound ∧ run.Follows [] (run.work delays units) := by
  rcases h.attended with ⟨hcalls, -⟩ | ⟨call, record, hcalls, hongoing, hdescribes⟩
  · have hwork : run.work delays units = run := by simp [AcceptRun.work, hcalls]
    rw [hwork]
    exact ⟨h, follows_refl run⟩
  · obtain ⟨taken, harrivals, -, hleaves, hwork⟩ :=
      h.work_eq delays units hcalls hongoing hdescribes
    generalize AcceptQueue.run run.listener delays units { run.queue with calls := [] } call = o
      at harrivals hleaves hwork
    let worked : AcceptRun := { run with
      queue := o.1
      metrics := run.metrics ++ o.2.filterMap QueueEffect.metric? }
    let grown := record.extend (taken.map (Look.mk run.listener)) o.2
    obtain ⟨hlistener, hqueue, hmetrics⟩ := keep_rest worked grown
    have hrecords := records_keep worked grown
    have hbefore : run.records = run.ended ++ [record] := by simp [records, hongoing]
    have hlooks : (worked.keep grown).looks = run.looks ++ taken.map (Look.mk run.listener) := by
      show (worked.keep grown).records.flatMap _ = run.records.flatMap _ ++ _
      rw [hrecords, hbefore]
      simp [worked, grown]
    have hleaves : worked.queue.Leaves grown := hleaves
    have hearlier : ∀ other ∈ worked.ended, other.Ended := h.ended
    obtain ⟨hattended, hended⟩ := attended_keep hleaves hearlier
    rw [hwork]
    refine ⟨⟨?_, ?_, hattended, hended, ?_⟩, ?_, ?_, ?_, ?_⟩
    · exact (congrArg Listener.closed hlistener).trans h.unclosed
    · exact (congrArg Listener.exited hlistener).trans h.running
    · intro m hm
      rw [hmetrics, hrecords]
      show (run.metrics ++ _).count m = ((run.ended ++ [grown]).flatMap _).count m
      rw [List.count_append, h.counted m hm, hbefore]
      simp only [grown, List.flatMap_append, List.flatMap_singleton, List.count_append,
        AcceptRecord.metrics_extend]
      omega
    · have harrivals : run.queue.arrivals = taken ++ (worked.keep grown).queue.arrivals := by
        rw [hqueue]
        exact harrivals
      have htaken : (taken.map (Look.mk run.listener)).map (·.arrival) = taken := by
        rw [List.map_map]
        exact List.map_id taken
      rw [hlooks, List.map_append, htaken, harrivals, List.append_nil, List.append_assoc]
    · rw [hlooks, List.length_append]
      exact Nat.le_add_right _ _
    · exact length_ended_keep worked grown
    · rw [hrecords, hbefore]
      simp only [List.length_append, List.length_singleton, worked, le_refl]

lemma work_listener (run : AcceptRun) (delays : DelayRule) (units : Nat) :
    (run.work delays units).listener = run.listener := by
  unfold AcceptRun.work
  split
  · rfl
  · exact (keep_rest _ _).1

/-- A turn in a server is as much work as a turn allows. -/
theorem work_allowance (delays : DelayRule) {call : AcceptCall}
    (hcalls : run.queue.calls = [call]) :
    (run.work delays Schedule.allowance).queue =
      (run.queue.turn run.listener delays call.number).1 := by
  simp only [AcceptRun.work, AcceptQueue.turn, hcalls, List.find?_cons_of_pos, beq_self_eq_true,
    (keep_rest _ _).2.1]
  simp

/-- Every act leaves a run sound and goes on from what it finds. -/
theorem Sound.next (h : run.Sound) (delays : DelayRule) (act : AcceptAct) :
    (run.next delays act).Sound ∧ run.Follows act.arrival?.toList (run.next delays act) := by
  cases act with
  | accept number => exact h.accept number
  | arrive arrival => exact h.arrive arrival
  | advance ms => exact h.advance ms
  | work units => exact h.work delays units
  | callback event => exact h.control nofun
  | take => exact h.control nofun

theorem Sound.extend (h : run.Sound) (delays : DelayRule) (acts : List AcceptAct) :
    (run.extend delays acts).Sound ∧
      run.Follows (acts.filterMap (·.arrival?)) (run.extend delays acts) := by
  induction acts generalizing run with
  | nil => exact ⟨h, follows_refl run⟩
  | cons act acts ih =>
    obtain ⟨hnext, hfollows⟩ := h.next delays act
    obtain ⟨hsound, hrest⟩ := ih hnext
    have hsplit : (act :: acts).filterMap (·.arrival?) =
        act.arrival?.toList ++ acts.filterMap (·.arrival?) := by
      cases ha : act.arrival? <;> simp [ha]
    rw [hsplit]
    exact ⟨hsound, hfollows.trans hrest⟩

/-! ### Going on -/

/-- Enough time to end every rest, and enough work to take an arrival after it. -/
def untilTaken : List AcceptAct := [.advance AcceptQueue.longestRest, .work 3]

lemma extend_append (run : AcceptRun) (delays : DelayRule) (acts more : List AcceptAct) :
    run.extend delays (acts ++ more) = (run.extend delays acts).extend delays more :=
  List.foldl_append

lemma Follows.ended_or_ongoing {after : AcceptRun} {arrived : List Arrival}
    (h : run.Follows arrived after) (hgoes : run.ongoing ≠ none) :
    run.ended.length < after.ended.length ∨ after.ongoing ≠ none := by
  obtain ⟨record, hrecord⟩ := Option.ne_none_iff_exists'.mp hgoes
  have hrecords := h.records
  cases hafter : after.ongoing with
  | some other => exact .inr (Option.some_ne_none other)
  | none =>
    simp only [AcceptRun.records, hrecord, hafter, Option.toList_some, Option.toList_none,
      List.append_nil, List.length_append, List.length_singleton] at hrecords
    exact .inl hrecords

/-- A call that goes on takes what is waiting, once its rest is over and it has its turn. -/
lemma Sound.takes (h : run.Sound) (delays : DelayRule) (hgoes : run.ongoing ≠ none) :
    run.looks.length < (run.extend delays untilTaken).looks.length ∨
      (run.extend delays untilTaken).queue.arrivals = [] := by
  let rested := run.next delays (.advance AcceptQueue.longestRest)
  have hrested : rested.Sound := (h.advance AcceptQueue.longestRest).1
  have hfollows : rested.Follows [] (rested.work delays 3) := (hrested.work delays 3).2
  show rested.looks.length < (rested.work delays 3).looks.length ∨
    (rested.work delays 3).queue.arrivals = []
  obtain ⟨-, hnone⟩ | ⟨call, record, hcalls, hongoing, hdescribes⟩ := h.attended
  · exact absurd hnone hgoes
  · have hlater : record.Describes call rested.queue.clock :=
      hdescribes.later (Nat.le_add_right _ _)
    have hdue : ∀ wakeAt, call.stage = .resting wakeAt → wakeAt ≤ rested.queue.clock := by
      intro wakeAt hstage
      rcases hdescribes.stage with hs | hs | ⟨other, hs, hle⟩
      · cases hstage.symm.trans hs
      · cases hstage.symm.trans hs
      · cases hstage.symm.trans hs
        exact hle
    obtain ⟨taken, harrivals, -, -, hwork⟩ :=
      hrested.work_eq delays 3 hcalls hongoing hlater
    have hqueue : (rested.work delays 3).queue =
        (AcceptQueue.run rested.listener delays 3 { rested.queue with calls := [] } call).1 := by
      rw [hwork]
      exact (keep_rest _ _).2.1
    rw [← hqueue] at harrivals
    by_cases hempty : rested.queue.arrivals = []
    · rw [hempty] at harrivals
      exact .inr (List.append_eq_nil_iff.mp harrivals.symm).2
    · have hfewer := AcceptQueue.run_takes (q := { rested.queue with calls := [] }) delays rfl
        hrested.unclosed hlater hdue hempty
      rw [← hqueue] at hfewer
      have htotal := congrArg List.length hfollows.arrivals
      simp only [List.length_append, List.length_map, List.append_nil] at htotal
      have hfewer : (rested.work delays 3).queue.arrivals.length <
        rested.queue.arrivals.length := hfewer
      exact .inl (by omega)

/-- Each round in which the call has its turn takes one more of the arrivals that wait. -/
theorem Sound.progress (h : run.Sound) (delays : DelayRule) (rounds : List (List AcceptAct))
    (hgoes : run.ongoing ≠ none) :
    let after := run.extend delays (rounds.flatMap (· ++ untilTaken))
    run.ended.length < after.ended.length ∨
      run.looks.length + min rounds.length run.queue.arrivals.length ≤ after.looks.length := by
  induction rounds generalizing run with
  | nil => exact .inr (by simp [AcceptRun.extend])
  | cons acts rounds ih =>
    obtain ⟨hmid, hfirst⟩ := h.extend delays acts
    obtain ⟨hround, hsecond⟩ := hmid.extend delays untilTaken
    have htakes := hmid.takes delays
    rw [List.flatMap_cons, extend_append, extend_append]
    generalize run.extend delays acts = mid at hmid hfirst hround hsecond htakes ⊢
    generalize mid.extend delays untilTaken = after at hround hsecond htakes ⊢
    have hlast := (hround.extend delays (rounds.flatMap (· ++ untilTaken))).2
    have hfollows := hfirst.trans hsecond
    rcases hfirst.ended_or_ongoing hgoes with hended | hmidgoes
    · exact .inl (hended.trans_le (hsecond.ended.trans hlast.ended))
    rcases hfollows.ended_or_ongoing hgoes with hended | haftergoes
    · exact .inl (hended.trans_le hlast.ended)
    rcases ih hround haftergoes with hended | hlooks
    · exact .inl (hfollows.ended.trans_lt hended)
    · have htotal := congrArg List.length hfollows.arrivals
      have hmore := hfirst.looks
      have hsome : mid.looks.length < after.looks.length ∨ after.queue.arrivals.length = 0 :=
        (htakes hmidgoes).imp_right List.length_eq_zero_iff.mpr
      have hsame := hlast.looks
      simp only [List.length_append, List.length_map, List.length_cons] at htotal hlooks ⊢
      exact .inr (by omega)

/-! ### Errors in a row -/

/-- Rounds in which the call has its turn and nothing else happens. -/
def turns (count : Nat) : List AcceptAct := (List.replicate count []).flatMap (· ++ untilTaken)

/-- A call that finds one error as often as told, and has its turn as often. -/
def errorRow (e : IoError) (count : Nat) : List AcceptAct :=
  .accept 0 :: List.replicate count (.arrive (.failure e)) ++ turns count

lemma extend_arrive (run : AcceptRun) (delays : DelayRule) (count : Nat) (arrival : Arrival) :
    run.extend delays (List.replicate count (.arrive arrival)) = { run with
      queue := { run.queue with
        arrivals := run.queue.arrivals ++ List.replicate count arrival } } := by
  induction count generalizing run with
  | zero => simp [AcceptRun.extend]
  | succ count ih =>
    have hfirst : run.extend delays (List.replicate (count + 1) (.arrive arrival)) =
        (run.next delays (.arrive arrival)).extend delays
          (List.replicate count (.arrive arrival)) := rfl
    rw [hfirst, ih, List.replicate_succ, List.append_cons]
    rfl

lemma arrivals_turns (count : Nat) : (turns count).filterMap (·.arrival?) = [] := by
  refine List.filterMap_eq_nil_iff.mpr fun act hact => ?_
  obtain ⟨round, hround, hm⟩ := List.mem_flatMap.mp hact
  rw [List.eq_of_mem_replicate hround, List.nil_append] at hm
  rcases List.mem_pair.mp hm with rfl | rfl <;> rfl

/-- Temporary errors alone do not end a call. -/
lemma Sound.ended_eq_nil (h : run.Sound)
    (htemporary : ∀ look ∈ run.looks, look.isTemporary = true) : run.ended = [] := by
  refine List.eq_nil_iff_forall_not_mem.mpr fun record hm => ?_
  obtain ⟨earlier, last, result, hlooks, -, hdecides, -⟩ := (h.ended record hm).decided
  have hlast : last ∈ run.looks :=
    List.mem_flatMap.mpr ⟨record, List.mem_append_left _ hm, by simp [hlooks]⟩
  have htemporary := htemporary last hlast
  cases hdecides with
  | served => cases htemporary
  | failed lasting =>
    rw [Look.isTemporary_failure, lasting] at htemporary
    cases htemporary

/-- A new call that finds one temporary error again and again has looked at all of them after as many
turns. The attempts count them, as far as 32 bits go. -/
lemma Sound.attempts_turns (h : run.Sound) (delays : DelayRule) {e : IoError} {count : Nat}
    (he : e.isTemporary = true) (hgoes : run.ongoing ≠ none) (hlooks : run.looks = [])
    (harrivals : run.queue.arrivals = List.replicate count (.failure e)) :
    ∃ call, (run.extend delays (turns count)).ongoing = some call ∧
      call.looks.map (·.arrival) = List.replicate count (.failure e) ∧
      call.attempts =
        (List.range count).map fun before => min (before + 1) (UInt32.size - 1) := by
  obtain ⟨hafter, hfollows⟩ := h.extend delays (turns count)
  have hprogress := h.progress delays (List.replicate count []) hgoes
  have hgoesOn := hfollows.ended_or_ongoing hgoes
  have hall := hfollows.arrivals
  rw [← turns] at hprogress
  rw [hlooks, harrivals, arrivals_turns, List.append_nil, List.map_nil, List.nil_append] at hall
  generalize run.extend delays (turns count) = after at hafter hprogress hgoesOn hall
  have htemporary : ∀ look ∈ after.looks, look.isTemporary = true := by
    intro look hm
    have harrival : look.arrival ∈ List.replicate count (.failure e) :=
      hall ▸ List.mem_append_left _ (List.mem_map_of_mem hm)
    rw [Look.isTemporary, List.eq_of_mem_replicate harrival]
    exact he
  have hended := hafter.ended_eq_nil htemporary
  -- Each turn takes an error or ends the call, so that none of them is left.
  have htotal := congrArg List.length hall
  simp only [hended, hlooks, harrivals, List.length_nil, List.length_append, List.length_map,
    List.length_replicate] at hprogress htotal
  have hcount : after.looks.length = count := by omega
  have hempty : after.queue.arrivals = [] := List.length_eq_zero_iff.mp (by omega)
  obtain ⟨-, hnone⟩ | ⟨_, call, -, hongoing, hdescribes⟩ := hafter.attended
  · simp [hnone, hended] at hgoesOn
  · have hcall : after.looks = call.looks := by simp [looks, records, hended, hongoing]
    rw [hempty, List.append_nil, hcall] at hall
    rw [hcall] at htemporary hcount
    refine ⟨call, hongoing, hall, ?_⟩
    rw [hdescribes.toOngoing.attempts, attemptsFor_of_temporary htemporary, hcount]

/-- Each error of a row has its attempt. -/
lemma attempts_errorRow (site : ListenerSite) (delays : DelayRule) {e : IoError}
    (he : e.isTemporary = true) (count : Nat) :
    ∃ call, (of site delays (errorRow e count)).ongoing = some call ∧
      call.looks.map (·.arrival) = List.replicate count (.failure e) ∧
      call.attempts =
        (List.range count).map fun before => min (before + 1) (UInt32.size - 1) := by
  let begun :=
    (start site).extend delays (.accept 0 :: List.replicate count (.arrive (.failure e)))
  have hbegun : begun = { start site with
      queue := { calls := [⟨0, 0, .asking⟩], arrivals := List.replicate count (.failure e) }
      ongoing := some .empty } :=
    extend_arrive _ delays count (.failure e)
  have hrow : of site delays (errorRow e count) = begun.extend delays (turns count) :=
    extend_append _ _ _ _
  have hsound : begun.Sound := ((sound_start site).extend delays _).1
  have hgoes : begun.ongoing ≠ none := by simp [hbegun]
  have hlooks : begun.looks = [] := by
    rw [hbegun]
    rfl
  have harrivals : begun.queue.arrivals = List.replicate count (.failure e) := by rw [hbegun]
  rw [hrow]
  exact hsound.attempts_turns delays he hgoes hlooks harrivals

/-! ### Totals -/

lemma Sound.tallied (h : run.Sound) {record : AcceptRecord} (hm : record ∈ run.records) :
    record.Tallied := by
  rcases List.mem_append.mp hm with hm | hm
  · exact (h.ended record hm).toTallied
  · obtain ⟨-, hnone⟩ | ⟨call, other, -, hongoing, hdescribes⟩ := h.attended
    · simp [hnone] at hm
    · rw [hongoing, Option.toList_some, List.mem_singleton] at hm
      exact hm ▸ hdescribes.toTallied

/-- Records that are tallied one by one are tallied all together. -/
lemma tallied_flatMap {records : List AcceptRecord} (h : ∀ record ∈ records, record.Tallied) :
    AcceptRecord.Tallied ⟨records.flatMap (·.looks), records.flatMap (·.effects)⟩ := by
  induction records with
  | nil => exact AcceptRecord.ongoing_empty.toTallied
  | cons record records ih =>
    have hrest := ih fun other hm => h other (List.mem_cons_of_mem _ hm)
    exact (h record List.mem_cons_self).extend hrest

lemma Sound.total_connection (h : run.Sound) (outcome : ConnectionOutcome) :
    Metric.total run.metrics (Metric.connection outcome).key =
      (run.records.flatMap (·.metrics)).count (.connection outcome) := by
  rw [Metric.total_counter rfl fun _ => Metric.eq_connection_of_key]
  exact h.counted _ nofun

lemma Sound.total_acceptBackoff (h : run.Sound) :
    Metric.total run.metrics Metric.acceptBackoff.key =
      (run.records.flatMap (·.metrics)).count .acceptBackoff := by
  rw [Metric.total_counter rfl fun _ => Metric.eq_acceptBackoff_of_key]
  exact h.counted _ nofun

/-- The totals over a run of calls are those of one long call. -/
lemma Sound.tallied_all (h : run.Sound) :
    AcceptRecord.Tallied ⟨run.looks, run.records.flatMap (·.effects)⟩ ∧
      AcceptRecord.metrics ⟨run.looks, run.records.flatMap (·.effects)⟩ =
        run.records.flatMap (·.metrics) := by
  refine ⟨tallied_flatMap fun record => h.tallied, ?_⟩
  simp only [AcceptRecord.metrics, List.filterMap_flatMap]

/-- Whatever arrives at an open listener, and however its configuration changes meanwhile, each
call ends with the first arrival that decides it: a connection that finds the listener serving, has
both addresses and matches an installed chain, or an error that is not temporary. No arrival is
passed over or taken twice. Every connection before that is dropped, and for each temporary error
there is one attempt, numbered by how many of them have come in a row, up to the greatest number of
32 bits. A call that gets its turns goes on until it is decided. The totals count every connection
under one of three outcomes, and every temporary error. -/
theorem calls_exact (site : ListenerSite) (delays : DelayRule) (acts : List AcceptAct) :
    let run := of site delays acts
    run.looks.map (·.arrival) ++ run.queue.arrivals = acts.filterMap (·.arrival?) ∧
    (∀ call ∈ run.ended, call.Ended) ∧
    (∀ call ∈ run.ongoing, call.Ongoing) ∧
    (∀ rounds : List (List AcceptAct), run.ongoing ≠ none →
      let after := run.extend delays (rounds.flatMap (· ++ untilTaken))
      run.ended.length < after.ended.length ∨
        run.looks.length + min rounds.length run.queue.arrivals.length ≤ after.looks.length) ∧
    Metric.total run.metrics (Metric.connection .matched).key +
        Metric.total run.metrics (Metric.connection .noMatch).key +
        Metric.total run.metrics (Metric.connection .notServing).key =
      run.looks.countP (·.connection?.isSome) ∧
    Metric.total run.metrics (Metric.connection .matched).key =
      (run.records.flatMap (·.results)).countP (·.isOk) ∧
    Metric.total run.metrics (Metric.connection .notServing).key =
      run.looks.countP (·.isUnserved) ∧
    Metric.total run.metrics Metric.acceptBackoff.key = run.looks.countP (·.isTemporary) := by
  intro run
  obtain ⟨hsound, hfollows⟩ := (sound_start site).extend delays acts
  have hsound : run.Sound := hsound
  have hongoing : ∀ call ∈ run.ongoing, call.Ongoing := by
    intro record hm
    obtain ⟨-, hnone⟩ | ⟨call, other, -, hsome, hdescribes⟩ := hsound.attended
    · rw [hnone] at hm
      cases hm
    · rw [hsome] at hm
      cases hm
      exact hdescribes.toOngoing
  obtain ⟨⟨hconnections, hmatched, hunserved, hbackoffs⟩, hmetrics⟩ := hsound.tallied_all
  have hresults : AcceptRecord.results ⟨run.looks, run.records.flatMap (·.effects)⟩ =
      run.records.flatMap (·.results) := by
    simp only [AcceptRecord.results, List.filterMap_flatMap]
  rw [hmetrics] at hconnections hmatched hunserved hbackoffs
  rw [hresults] at hmatched
  simp only [hsound.total_connection, hsound.total_acceptBackoff]
  exact ⟨hfollows.arrivals, hsound.ended, hongoing, fun rounds => hsound.progress delays rounds,
    hconnections, hmatched, hunserved, hbackoffs⟩

/-- The last of so many errors in a row has the attempt of the one before it. -/
theorem attempts_stop_counting :
    ∃ call, (of .loopback (.scripted [5]) (errorRow (.kind .timedOut) (2 ^ 32))).ongoing =
        some call ∧
      call.looks.map (·.arrival) = List.replicate (2 ^ 32) (.failure (.kind .timedOut)) ∧
      call.attempts.length = 2 ^ 32 ∧ call.attempts.getLast? = some (2 ^ 32 - 1) := by
  obtain ⟨call, hongoing, harrivals, hattempts⟩ :=
    attempts_errorRow .loopback (.scripted [5]) (e := .kind .timedOut) rfl (2 ^ 32)
  refine ⟨call, hongoing, harrivals, ?_, ?_⟩
  · rw [hattempts, List.length_map, List.length_range]
  · rw [hattempts, List.getLast?_map, List.getLast?_range, if_neg (by decide)]
    rfl

/-- The listener comes to serve while the call waits for the second of two errors in a row. The
connection before these was dropped, and the one after them is handed out. -/
example :
    let connection (number : Nat) : Arrival := .connection
      ⟨number, .ok ListenerSite.loopback.address, .ok ⟨.v4 0x7F000001, 50000, 0⟩⟩
    let acts : List AcceptAct := [.accept 0, .arrive (connection 0),
      .arrive (.failure (.kind .timedOut)), .arrive (.failure (.kind .timedOut)),
      .arrive (connection 1), .work 9, .advance 5, .work 9,
      .callback (ListenerSite.loopback.requiring ["a"]), .take,
      .callback (.route "a" 1 (.ok ⟨"a", []⟩)), .take, .advance 5, .work 9]
    let run := of .loopback (.scripted [5]) acts
    run.ongoing = none ∧
      run.ended.map (fun call => (call.attempts, call.dropped, call.results.length)) =
        [([1, 2], [0], 1)] := by
  decide

end AcceptRun
end MeshRouting
