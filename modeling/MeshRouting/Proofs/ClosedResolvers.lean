import MeshRouting.Proofs.ClientSessions
import MeshRouting.Proofs.WorkerEndings
import MeshRouting.Resolution.Resolver

/-!
# Closed resolvers

Closing a resolver ends its watch and its worker. From then on the sink hears nothing from it, its
selectors have all been stopped once the worker has ended, and the clusters are free when the last
lease is gone. All this holds for every resolver of a group, whatever the others do.
-/
namespace MeshRouting

/-! ### The client -/

/-- What a resolver has to do with the client. -/
structure Enrolment where
  endpoint : String
  watch : Option WatchHandle
  closed : Bool

def Resolver.enrolment (resolver : Resolver) : Enrolment :=
  ⟨resolver.worker.endpoint, resolver.watch, resolver.closed⟩

/-- A resolver right after it was closed. -/
def Resolver.shut (resolver : Resolver) : Resolver :=
  ⟨{ resolver.worker with mailbox := resolver.worker.mailbox.close }, none, true⟩

namespace ClientSession

variable {s t : ClientSession}

/-- The session in which each resolver holds the handle of its watch. -/
def ofRoll (client : Registry Nat) (roll : List Enrolment) : ClientSession :=
  { client, providers := [], handles := roll.map fun enrolment => enrolment.watch.map some }

lemma handleAt_ofRoll (client : Registry Nat) (roll : List Enrolment) (r : Nat) :
    (ofRoll client roll).handleAt r = (roll[r]?).bind (·.watch) := by
  simp only [handleAt, ofRoll, List.getElem?_map]
  rcases roll[r]? with _ | ⟨endpoint, _ | handle, closed⟩ <;> rfl

lemma Booked.congr (h : s.Booked) (hhandles : t.handles = s.handles)
    (hwatches : ∀ kind name, t.client.watchesAt kind name = s.client.watchesAt kind name)
    (hid : t.client.lastId = s.client.lastId) : t.Booked := by
  have hat : ∀ n, t.handleAt n = s.handleAt n := fun n => by rw [handleAt, hhandles]; rfl
  have hlive : ∀ kind name, t.live kind name = s.live kind name := by
    intro kind name
    simp only [live, hat, hhandles]
  refine ⟨fun kind name => ?_, fun kind name w hw => ?_, ?_, ?_⟩
  · rw [hwatches, hlive, h.owners]
  · rw [hat]
    exact h.held kind name w (hwatches kind name ▸ hw)
  · simp only [hat]
    exact h.distinct
  · simp only [hat, hid]
    exact h.numbered

end ClientSession

/-- The resolvers have their watches registered, each its own until it is closed, and someone who
has listened from the start has heard of each start and each end once. -/
structure Enrolled (client : Registry Nat) (roll : List Enrolment) : Prop where
  booked : (ClientSession.ofRoll client roll).Booked
  watches : ∀ enrolment ∈ roll, if enrolment.closed then enrolment.watch = none
    else ∃ id, enrolment.watch = some ⟨.service, enrolment.endpoint, id⟩
  told : ∃ inbox, client.subscribers[0]? = some (some inbox) ∧ ∀ endpoint,
    inbox.count ⟨.started, .service, endpoint⟩ = roll.countP (·.endpoint = endpoint) ∧
    inbox.count ⟨.cancelled, .service, endpoint⟩ =
      roll.countP fun enrolment => enrolment.endpoint = endpoint ∧ enrolment.closed

namespace Enrolled

variable {client : Registry Nat} {roll : List Enrolment}

lemma start : Enrolled (Registry.empty.subscribe.1) [] where
  booked := by
    refine (ClientSession.booked_start []).congr rfl (fun kind name => ?_) rfl
    cases kind <;> rfl
  watches := by simp
  told := ⟨[], rfl, fun endpoint => ⟨rfl, rfl⟩⟩

lemma attach (h : Enrolled client roll) (endpoint : String) :
    Enrolled (client.watch .service endpoint roll.length).1
      (roll ++ [⟨endpoint, some (client.watch .service endpoint roll.length).2, false⟩]) := by
  obtain ⟨inbox, hinbox, hcounts⟩ := h.told
  refine ⟨?_, ?_, inbox ++ [⟨.started, .service, endpoint⟩], ?_, fun other => ?_⟩
  · let s := ClientSession.ofRoll client roll
    have hlength : s.handles.length = roll.length := List.length_map _
    have hbooked := h.booked.step (.watch .service endpoint)
    refine hbooked.congr ?_ (fun kind name => ?_) ?_
    · rw [ClientSession.handles_step]
      exact List.map_append
    · rw [ClientSession.watchesAt_step, ClientSession.registry, hlength]
      rfl
    · rw [ClientSession.lastId_step]
      exact Registry.lastId_watch ..
  · intro enrolment hm
    rcases List.mem_append.mp hm with hm | hm
    · exact h.watches enrolment hm
    · rw [List.mem_singleton.mp hm]
      exact ⟨_, rfl⟩
  · rw [Registry.subscribers_watch, List.getElem?_map, hinbox]
    rfl
  · obtain ⟨hstarted, hcancelled⟩ := hcounts other
    simp only [List.count_append, List.countP_append, hstarted, hcancelled]
    by_cases he : endpoint = other
    · simp [he]
    · simp [he]

lemma closeClient (h : Enrolled client roll) : Enrolled client.close roll where
  booked := by
    refine h.booked.congr rfl (fun kind name => ?_) rfl
    cases kind <;> rfl
  watches := h.watches
  told := h.told

lemma cancel (h : Enrolled client roll) {r : Nat} {enrolment : Enrolment}
    {handle : WatchHandle} (hr : roll[r]? = some enrolment) (hw : enrolment.watch = some handle) :
    Enrolled (client.cancel handle) (roll.set r ⟨enrolment.endpoint, none, true⟩) := by
  obtain ⟨inbox, hinbox, hcounts⟩ := h.told
  have hlt := (List.getElem?_eq_some_iff.mp hr).1
  have hget := (List.getElem?_eq_some_iff.mp hr).2
  have hat : (ClientSession.ofRoll client roll).handleAt r = some handle := by
    rw [ClientSession.handleAt_ofRoll, hr]
    exact hw
  have hwatch := h.watches enrolment (List.mem_of_getElem? hr)
  have hopen : enrolment.closed = false := by
    by_contra hclosed
    rw [if_pos (by simpa using hclosed), hw] at hwatch
    cases hwatch
  obtain ⟨id, hid⟩ : ∃ id, handle = ⟨.service, enrolment.endpoint, id⟩ := by
    simpa [hopen, hw] using hwatch
  have hholds : (client.indexOf handle.kind).holds handle.name handle.id = true :=
    h.booked.holds_of_handleAt hat
  refine ⟨?_, ?_, inbox ++ [⟨.cancelled, .service, enrolment.endpoint⟩], ?_, fun endpoint => ?_⟩
  · refine (h.booked.step (.cancel r)).congr ?_ (fun kind name => ?_) ?_
    · rw [ClientSession.handles_step]
      exact List.map_set
    · rw [ClientSession.watchesAt_step, ClientSession.registry, hat]
      rfl
    · rw [ClientSession.lastId_step]
      exact Registry.lastId_cancel ..
  · intro other hm
    rcases List.mem_or_eq_of_mem_set hm with hm | rfl
    · exact h.watches other hm
    · rfl
  · rw [Registry.subscribers_cancel hholds, List.getElem?_map, hinbox, hid]
    rfl
  · obtain ⟨hstarted, hcancelled⟩ := hcounts endpoint
    simp only [List.count_append, List.countP_set hlt, hget, hstarted, hcancelled]
    by_cases he : enrolment.endpoint = endpoint
    · have hpos : 0 < roll.countP (·.endpoint = endpoint) :=
        List.countP_pos_iff.mpr ⟨enrolment, List.mem_of_getElem? hr, by simp [he]⟩
      simp [he, hopen, Nat.sub_add_cancel hpos]
    · simp [he]

end Enrolled

/-! ### Runs of a group -/

inductive GroupAct where
  | build (endpoint : String) (meshCredentials : Bool)
  | push (name : String) (update : Except WatchError ServiceUpdate)
  | callback (r : Nat) (update : Except WatchError ServiceUpdate)
  | turn (r : Nat)
  | retain (r s : Nat)
  | dropLease (r lease : Nat)
  | close (r : Nat)

/-- A group with what it did to the outside, and each stop of a selector with its resolver. -/
structure GroupRun where
  group : ResolverGroup
  effects : List ResolverEffect
  stops : List (Nat × Nat)

def ResolverEffect.sink? : ResolverEffect → Option Nat
  | .state r _ | .failure r _ => some r
  | _ => none

namespace ResolverGroup

variable {g : ResolverGroup}

/-- The selectors that a worker stops in its next turn. -/
def stopsInTurn (encoders : EncoderSchedule) (g : ResolverGroup) (r : Nat) : List Nat :=
  (g.worker? r).elim [] fun worker => stopsOf (worker.turn (encoders (g.encodings + 1))).2

def roll (g : ResolverGroup) : List Enrolment := g.resolvers.map Resolver.enrolment

lemma close_of_open {r : Nat} {resolver : Resolver}
    (hr : g.resolvers[r]? = some resolver) (hopen : resolver.closed = false) :
    (g.close r).1.client = (resolver.watch.elim g.client g.client.cancel).close ∧
      (g.close r).1.resolvers = g.resolvers.set r resolver.shut := by
  have hset : ∀ next : Resolver, (g.resolvers.set r next)[r]? = some next := fun next =>
    List.getElem?_set_self (List.getElem?_eq_some_iff.mp hr).1
  cases hw : resolver.watch <;>
    simp [close, hr, hopen, endWatch, hw, closeClient, setWorker, hset, Resolver.shut]

end ResolverGroup

namespace GroupRun

/-- Someone listens from the start. -/
def start (providers : List String) (refusal : Option String) : GroupRun :=
  ⟨{ ResolverGroup.start providers refusal with client := Registry.empty.subscribe.1 }, [], []⟩

/-- A callback may also come from a push that was under way when the watch was cancelled. -/
def next (encoders : EncoderSchedule) (run : GroupRun) : GroupAct → GroupRun
  | .build endpoint meshCredentials =>
    let (group, effects, _) := run.group.build endpoint meshCredentials
    { run with group, effects := run.effects ++ effects }
  | .push name update =>
    let (group, effects, _) := run.group.push name update
    { run with group, effects := run.effects ++ effects }
  | .callback r update =>
    let (group, effects) := run.group.post (.ofWatch update) r
    { run with group, effects := run.effects ++ effects }
  | .turn r =>
    let (group, effects) := run.group.turn encoders r
    ⟨group, run.effects ++ effects,
      run.stops ++ (run.group.stopsInTurn encoders r).map fun s => (r, s)⟩
  | .retain r s => { run with group := ((run.group.retain r s).map (·.1)).getD run.group }
  | .dropLease r lease => { run with group := (run.group.dropLease r lease).getD run.group }
  | .close r =>
    let (group, effects) := run.group.close r
    { run with group, effects := run.effects ++ effects }

def of (providers : List String) (refusal : Option String) (encoders : EncoderSchedule)
    (acts : List GroupAct) : GroupRun :=
  acts.foldl (next encoders) (start providers refusal)

/-- What the sink of a resolver was handed. -/
def sinkCalls (run : GroupRun) (r : Nat) : List ResolverEffect :=
  run.effects.filter (·.sink? = some r)

/-- The selectors of a resolver that were stopped, in order. -/
def stopsBy (run : GroupRun) (r : Nat) : List Nat :=
  (run.stops.filter (·.1 = r)).map (·.2)

/-- What a run keeps: how the resolvers stand with the client, and how each worker stands. -/
structure Kept (run : GroupRun) : Prop where
  enrolled : Enrolled run.group.client run.group.roll
  workers : ∀ (r : Nat) (resolver : Resolver), run.group.resolvers[r]? = some resolver →
    resolver.worker.Kept resolver.closed (run.stopsBy r)
  unknown : ∀ r, run.group.resolvers.length ≤ r → run.stopsBy r = []

variable {run : GroupRun} {group : ResolverGroup} {r : Nat} {resolver : Resolver}
  {worker : Worker} {effects : List ResolverEffect}

lemma stopsBy_append (stops : List (Nat × Nat)) (r other : Nat) (more : List Nat) :
    stopsBy ⟨group, effects, stops ++ more.map fun s => (r, s)⟩ other =
      stopsBy ⟨group, effects, stops⟩ other ++ if r = other then more else [] := by
  by_cases he : r = other <;> simp [stopsBy, he, List.filter_map, Function.comp_def]

/-- One resolver's worker goes on, and may stop some selectors. -/
lemma Kept.withWorker (h : run.Kept) (hr : run.group.resolvers[r]? = some resolver)
    (hclient : group.client = run.group.client)
    (hresolvers : group.resolvers = run.group.resolvers.set r { resolver with worker })
    (hendpoint : worker.endpoint = resolver.worker.endpoint) {more : List Nat}
    (hworker : worker.Kept resolver.closed (run.stopsBy r ++ more)) :
    Kept ⟨group, effects, run.stops ++ more.map fun s => (r, s)⟩ := by
  have hlt := (List.getElem?_eq_some_iff.mp hr).1
  have hget := (List.getElem?_eq_some_iff.mp hr).2
  refine ⟨?_, ?_, ?_⟩
  · have hroll : group.roll = run.group.roll := by
      rw [ResolverGroup.roll, hresolvers, List.map_set]
      refine List.ext_getElem? fun other => ?_
      by_cases he : r = other
      · subst he
        simp [ResolverGroup.roll, hget, hlt, Resolver.enrolment, hendpoint]
      · rw [List.getElem?_set_ne he]
        rfl
    rw [hclient, hroll]
    exact h.enrolled
  · intro other found hf
    rw [stopsBy_append]
    rw [hresolvers] at hf
    by_cases he : r = other
    · subst he
      rw [List.getElem?_set_self hlt, Option.some.injEq] at hf
      rw [if_pos rfl, ← hf]
      exact hworker
    · rw [List.getElem?_set_ne he] at hf
      rw [if_neg he, List.append_nil]
      exact h.workers other found hf
  · intro other hge
    rw [hresolvers, List.length_set] at hge
    have hne : r ≠ other := by
      rintro rfl
      exact absurd hlt (Nat.not_lt_of_le hge)
    rw [stopsBy_append, if_neg hne, List.append_nil]
    exact h.unknown other hge

lemma Kept.setWorker (h : run.Kept) (hr : run.group.resolvers[r]? = some resolver)
    (hendpoint : worker.endpoint = resolver.worker.endpoint)
    (hworker : worker.Kept resolver.closed (run.stopsBy r)) :
    Kept ⟨run.group.setWorker r worker, effects, run.stops⟩ := by
  have hkept : Kept ⟨run.group.setWorker r worker, effects,
      run.stops ++ ([] : List Nat).map fun s => (r, s)⟩ := by
    refine h.withWorker hr ?_ ?_ hendpoint ?_
    · simp [ResolverGroup.setWorker, hr]
    · simp [ResolverGroup.setWorker, hr]
    · rw [List.append_nil]
      exact hworker
  simpa using hkept

/-! ### What each act keeps -/

lemma Kept.post (h : run.Kept) (e : Envelope) (r : Nat) (effects : List ResolverEffect) :
    Kept ⟨(run.group.post e r).1, effects, run.stops⟩ := by
  simp only [ResolverGroup.post, ResolverGroup.worker?]
  cases hr : run.group.resolvers[r]? with
  | none => exact ⟨h.enrolled, h.workers, h.unknown⟩
  | some resolver => exact h.setWorker hr rfl ((h.workers r resolver hr).publish e)

lemma Kept.postAll (h : run.Kept) (e : Envelope) (receivers : List Nat)
    (effects : List ResolverEffect) :
    Kept ⟨(run.group.postAll e receivers).1, effects, run.stops⟩ := by
  induction receivers generalizing run with
  | nil => exact ⟨h.enrolled, h.workers, h.unknown⟩
  | cons r rest ih => exact ih (h.post e r effects)

lemma Kept.turn (h : run.Kept) (encoders : EncoderSchedule) (r : Nat)
    (effects : List ResolverEffect) :
    Kept ⟨(run.group.turn encoders r).1, effects,
      run.stops ++ (run.group.stopsInTurn encoders r).map fun s => (r, s)⟩ := by
  simp only [ResolverGroup.turn, ResolverGroup.stopsInTurn, ResolverGroup.worker?]
  cases hr : run.group.resolvers[r]? with
  | none =>
    have hkept : Kept ⟨run.group, effects, run.stops⟩ := ⟨h.enrolled, h.workers, h.unknown⟩
    simpa using hkept
  | some resolver =>
    have hworker := h.workers r resolver hr
    refine h.withWorker hr ?_ ?_ (Worker.turn_endpoint hworker.stage _) (hworker.turn _)
    · simp [ResolverGroup.setWorker, hr]
    · simp [ResolverGroup.setWorker, hr]

/-- A resolver with its worker after an act about leases. -/
lemma Kept.lease (h : run.Kept) (hr : run.group.resolvers[r]? = some resolver) (act : WorkerAct)
    (hact : act.envelope? = none) :
    Kept ⟨run.group.setWorker r (resolver.worker.perform ServiceConfig.standard act).1,
      run.effects, run.stops⟩ :=
  h.setWorker hr (Worker.perform_endpoint hact) ((h.workers r resolver hr).perform hact)

lemma Kept.retain (h : run.Kept) (r s : Nat) :
    Kept { run with group := ((run.group.retain r s).map (·.1)).getD run.group } := by
  cases hr : run.group.resolvers[r]? with
  | none => simpa [ResolverGroup.retain, ResolverGroup.worker?, hr] using h
  | some resolver =>
    have hkept := h.lease hr (.retain s) rfl
    cases hp : resolver.worker.retain s with
    | none => simpa [ResolverGroup.retain, ResolverGroup.worker?, hr, hp] using h
    | some leased =>
      simpa [ResolverGroup.retain, ResolverGroup.worker?, hr, hp, Worker.perform] using hkept

lemma Kept.dropLease (h : run.Kept) (r lease : Nat) :
    Kept { run with group := (run.group.dropLease r lease).getD run.group } := by
  cases hr : run.group.resolvers[r]? with
  | none => simpa [ResolverGroup.dropLease, ResolverGroup.worker?, hr] using h
  | some resolver =>
    have hkept := h.lease hr (.dropLease lease) rfl
    cases hp : resolver.worker.dropLease lease with
    | none => simpa [ResolverGroup.dropLease, ResolverGroup.worker?, hr, hp] using h
    | some dropped =>
      simpa [ResolverGroup.dropLease, ResolverGroup.worker?, hr, hp, Worker.perform] using hkept

lemma Kept.attach (h : run.Kept) (endpoint : String) (effects : List ResolverEffect) :
    Kept ⟨run.group.attach endpoint, effects, run.stops⟩ := by
  have hlength : run.group.roll.length = run.group.resolvers.length := List.length_map _
  refine ⟨?_, ?_, ?_⟩
  · have henrolled := h.enrolled.attach endpoint
    rw [hlength] at henrolled
    show Enrolled _ ((run.group.resolvers ++ [_]).map _)
    rw [List.map_append]
    exact henrolled
  · intro r resolver hr
    have hr : (run.group.resolvers ++ [⟨.start endpoint, some _, false⟩])[r]? = some resolver := hr
    rcases Nat.lt_or_ge r run.group.resolvers.length with hlt | hge
    · rw [List.getElem?_append_left hlt] at hr
      exact h.workers r resolver hr
    · rw [List.getElem?_append_right hge, List.getElem?_singleton] at hr
      split at hr
      · cases hr
        show Worker.Kept _ false (run.stopsBy r)
        rw [h.unknown r hge]
        exact Worker.kept_start endpoint
      · cases hr
  · intro r hge
    have hge : run.group.resolvers.length + 1 ≤ r := by
      simpa [ResolverGroup.attach] using hge
    exact h.unknown r (Nat.le_of_succ_le hge)

lemma Kept.closeClient (h : run.Kept) (effects : List ResolverEffect) :
    Kept ⟨run.group.closeClient.1, effects, run.stops⟩ :=
  ⟨h.enrolled.closeClient, h.workers, h.unknown⟩

lemma Kept.build (h : run.Kept) (endpoint : String) (meshCredentials : Bool)
    (effects : List ResolverEffect) :
    Kept ⟨(run.group.build endpoint meshCredentials).1, effects, run.stops⟩ := by
  simp only [ResolverGroup.build]
  split
  · exact ⟨h.enrolled, h.workers, h.unknown⟩
  · split
    · exact h.closeClient effects
    · exact h.attach endpoint effects

lemma Kept.close (h : run.Kept) (r : Nat) (effects : List ResolverEffect) :
    Kept ⟨(run.group.close r).1, effects, run.stops⟩ := by
  have hsame : Kept ⟨run.group, effects, run.stops⟩ := ⟨h.enrolled, h.workers, h.unknown⟩
  cases hr : run.group.resolvers[r]? with
  | none => simpa [ResolverGroup.close, hr] using hsame
  | some resolver =>
    cases hopen : resolver.closed with
    | true => simpa [ResolverGroup.close, hr, hopen] using hsame
    | false =>
      have hm : resolver.enrolment ∈ run.group.roll :=
        List.mem_map.mpr ⟨resolver, List.mem_of_getElem? hr, rfl⟩
      have hroll : run.group.roll[r]? = some resolver.enrolment := by
        simp [ResolverGroup.roll, hr]
      obtain ⟨id, hw⟩ : ∃ id, resolver.watch = some ⟨.service, resolver.worker.endpoint, id⟩ := by
        simpa [Resolver.enrolment, hopen] using h.enrolled.watches _ hm
      obtain ⟨hclient, hresolvers⟩ := ResolverGroup.close_of_open hr hopen
      have hlt := (List.getElem?_eq_some_iff.mp hr).1
      refine ⟨?_, ?_, ?_⟩
      · have hcancelled := (h.enrolled.cancel hroll hw).closeClient
        show Enrolled (run.group.close r).1.client ((run.group.close r).1.resolvers.map _)
        rw [hclient, hresolvers, hw, List.map_set]
        exact hcancelled
      · intro other found hf
        have hf : (run.group.close r).1.resolvers[other]? = some found := hf
        rw [hresolvers] at hf
        by_cases he : r = other
        · subst he
          rw [List.getElem?_set_self hlt, Option.some.injEq] at hf
          have hworker := h.workers r resolver hr
          rw [hopen] at hworker
          rw [← hf]
          exact hworker.close
        · rw [List.getElem?_set_ne he] at hf
          exact h.workers other found hf
      · intro other hge
        have hge : (run.group.close r).1.resolvers.length ≤ other := hge
        rw [hresolvers, List.length_set] at hge
        exact h.unknown other hge

theorem Kept.next (h : run.Kept) (encoders : EncoderSchedule) (act : GroupAct) :
    (run.next encoders act).Kept := by
  cases act with
  | build endpoint meshCredentials => exact h.build endpoint meshCredentials _
  | push name update => exact h.postAll _ _ _
  | callback r update => exact h.post _ r _
  | turn r => exact h.turn encoders r _
  | retain r s => exact h.retain r s
  | dropLease r lease => exact h.dropLease r lease
  | close r => exact h.close r _

lemma of_append (providers : List String) (refusal : Option String) (encoders : EncoderSchedule)
    (acts more : List GroupAct) :
    of providers refusal encoders (acts ++ more) =
      more.foldl (next encoders) (of providers refusal encoders acts) := List.foldl_append

theorem kept_of (providers : List String) (refusal : Option String) (encoders : EncoderSchedule)
    (acts : List GroupAct) : (of providers refusal encoders acts).Kept := by
  induction acts using List.reverseRecOn with
  | nil => exact ⟨Enrolled.start, by simp [of, start, ResolverGroup.start], fun _ _ => rfl⟩
  | append_singleton acts act ih =>
    rw [of_append]
    exact ih.next encoders act

end GroupRun

/-! ### What stays closed -/

namespace ResolverGroup

variable {g next last : ResolverGroup}

/-- No resolver is lost, and a closed one stays closed. -/
def Stays (g next : ResolverGroup) : Prop :=
  ∀ (r : Nat) (resolver : Resolver), g.resolvers[r]? = some resolver →
    ∃ later, next.resolvers[r]? = some later ∧ (resolver.closed = true → later.closed = true)

lemma Stays.refl (g : ResolverGroup) : g.Stays g := fun _ resolver hr => ⟨resolver, hr, id⟩

lemma Stays.trans (h : g.Stays next) (hnext : next.Stays last) : g.Stays last := by
  intro r resolver hr
  obtain ⟨later, hlater, hclosed⟩ := h r resolver hr
  obtain ⟨final, hfinal, hstill⟩ := hnext r later hlater
  exact ⟨final, hfinal, hstill ∘ hclosed⟩

lemma stays_set {r : Nat} {resolver changed : Resolver} (hr : g.resolvers[r]? = some resolver)
    (hchanged : resolver.closed = true → changed.closed = true)
    (hnext : next.resolvers = g.resolvers.set r changed) : g.Stays next := by
  intro other found hf
  rw [hnext]
  by_cases he : r = other
  · subst he
    rw [hr, Option.some.injEq] at hf
    exact ⟨changed, List.getElem?_set_self (List.getElem?_eq_some_iff.mp hr).1, hf ▸ hchanged⟩
  · exact ⟨found, by rw [List.getElem?_set_ne he, hf], id⟩

lemma stays_setWorker (g : ResolverGroup) (r : Nat) (worker : Worker) :
    g.Stays (g.setWorker r worker) := by
  cases hr : g.resolvers[r]? with
  | none =>
    simp only [setWorker, hr]
    exact .refl g
  | some resolver =>
    have hset : (g.setWorker r worker).resolvers = g.resolvers.set r { resolver with worker } := by
      simp [setWorker, hr]
    refine stays_set hr ?_ hset
    exact id

lemma stays_post (g : ResolverGroup) (e : Envelope) (r : Nat) : g.Stays (g.post e r).1 := by
  simp only [post]
  split
  · exact .refl g
  · exact stays_setWorker g r _

lemma stays_postAll (g : ResolverGroup) (e : Envelope) (receivers : List Nat) :
    g.Stays (g.postAll e receivers).1 := by
  induction receivers generalizing g with
  | nil => exact .refl g
  | cons r rest ih => exact (stays_post g e r).trans (ih _)

lemma stays_turn (encoders : EncoderSchedule) (g : ResolverGroup) (r : Nat) :
    g.Stays (g.turn encoders r).1 := by
  simp only [turn]
  split
  · exact .refl g
  · rename_i worker _
    let effects := (worker.turn (encoders (g.encodings + 1))).2
    have hstays := stays_setWorker { g with encodings := g.encodings + countEncodings effects } r
      (worker.turn (encoders (g.encodings + 1))).1
    exact hstays

lemma stays_retain (g : ResolverGroup) (r s : Nat) :
    g.Stays (((g.retain r s).map (·.1)).getD g) := by
  simp only [retain]
  cases hw : g.worker? r with
  | none => exact .refl g
  | some worker =>
    cases hp : worker.retain s with
    | none => simpa [hp] using Stays.refl g
    | some leased => simpa [hp] using stays_setWorker g r leased.1

lemma stays_dropLease (g : ResolverGroup) (r lease : Nat) :
    g.Stays ((g.dropLease r lease).getD g) := by
  simp only [dropLease]
  cases hw : g.worker? r with
  | none => exact .refl g
  | some worker =>
    cases hp : worker.dropLease lease with
    | none => simpa [hp] using Stays.refl g
    | some dropped => simpa [hp] using stays_setWorker g r dropped

lemma stays_build (g : ResolverGroup) (endpoint : String) (meshCredentials : Bool) :
    g.Stays (g.build endpoint meshCredentials).1 := by
  simp only [build]
  split
  · exact .refl g
  · split
    · exact .refl g
    · intro r resolver hr
      have hlt := (List.getElem?_eq_some_iff.mp hr).1
      exact ⟨resolver, by simp [attach, List.getElem?_append_left hlt, hr], id⟩

lemma stays_close (g : ResolverGroup) (r : Nat) : g.Stays (g.close r).1 := by
  cases hr : g.resolvers[r]? with
  | none =>
    simp only [close, hr]
    exact .refl g
  | some resolver =>
    cases hopen : resolver.closed with
    | true =>
      simp only [close, hr, hopen, if_true]
      exact .refl g
    | false => exact stays_set hr (fun _ => rfl) (close_of_open hr hopen).2

lemma closed_close {r : Nat} {resolver : Resolver} (hr : g.resolvers[r]? = some resolver) :
    ∃ later, (g.close r).1.resolvers[r]? = some later ∧ later.closed = true := by
  cases hopen : resolver.closed with
  | true => exact ⟨resolver, by simp [close, hr, hopen], hopen⟩
  | false =>
    rw [(close_of_open hr hopen).2]
    exact ⟨resolver.shut, List.getElem?_set_self (List.getElem?_eq_some_iff.mp hr).1, rfl⟩

end ResolverGroup

namespace GroupRun

variable {run : GroupRun} {r : Nat}

lemma stays_next (encoders : EncoderSchedule) (run : GroupRun) (act : GroupAct) :
    run.group.Stays (run.next encoders act).group := by
  cases act with
  | build endpoint meshCredentials => exact run.group.stays_build endpoint meshCredentials
  | push name update => exact run.group.stays_postAll _ _
  | callback r update => exact run.group.stays_post _ r
  | turn r => exact run.group.stays_turn encoders r
  | retain r s => exact run.group.stays_retain r s
  | dropLease r lease => exact run.group.stays_dropLease r lease
  | close r => exact run.group.stays_close r

def IsClosed (run : GroupRun) (r : Nat) : Prop :=
  ∃ resolver, run.group.resolvers[r]? = some resolver ∧ resolver.closed = true

lemma IsClosed.next (h : run.IsClosed r) (encoders : EncoderSchedule) (act : GroupAct) :
    (run.next encoders act).IsClosed r := by
  obtain ⟨resolver, hr, hclosed⟩ := h
  obtain ⟨later, hlater, hstill⟩ := run.stays_next encoders act r resolver hr
  exact ⟨later, hlater, hstill hclosed⟩

end GroupRun

/-! ### What the sink hears -/

namespace ResolverGroup

variable {g : ResolverGroup}

lemma sink?_effectOf {r : Nat} {effect : WorkerEffect} {shown : ResolverEffect}
    (h : effectOf r effect = some shown) :
    shown.sink? = none ∨ shown.sink? = some r ∧ effect.IsSinkCall := by
  cases effect <;> cases h
  · exact .inl rfl
  · exact .inl rfl
  · exact .inr ⟨rfl, trivial⟩
  · exact .inr ⟨rfl, trivial⟩

lemma sink?_post (g : ResolverGroup) (e : Envelope) (r : Nat) :
    ∀ shown ∈ (g.post e r).2, shown.sink? = none := by
  simp only [post]
  split
  · simp
  · intro shown hm
    obtain ⟨stale, -, rfl⟩ := Option.map_eq_some_iff.mp (Option.mem_toList.mp hm)
    rfl

lemma sink?_postAll (g : ResolverGroup) (e : Envelope) (receivers : List Nat) :
    ∀ shown ∈ (g.postAll e receivers).2, shown.sink? = none := by
  induction receivers generalizing g with
  | nil => simp [postAll]
  | cons r rest ih =>
    intro shown hm
    rcases List.mem_append.mp hm with hm | hm
    · exact sink?_post g e r shown hm
    · exact ih _ shown hm

lemma sink?_closeClient (g : ResolverGroup) : ∀ shown ∈ g.closeClient.2, shown.sink? = none := by
  simp only [closeClient]
  split <;> simp [ResolverEffect.sink?]

lemma sink?_build (g : ResolverGroup) (endpoint : String) (meshCredentials : Bool) :
    ∀ shown ∈ (g.build endpoint meshCredentials).2.1, shown.sink? = none := by
  have hclose := g.sink?_closeClient
  simp only [build]
  split
  · simp [ResolverEffect.sink?]
  · split
    · simpa [ResolverEffect.sink?] using hclose
    · simp [ResolverEffect.sink?]

lemma sink?_close (g : ResolverGroup) (r : Nat) :
    ∀ shown ∈ (g.close r).2, shown.sink? = none := by
  simp only [close]
  split
  · simp
  · rename_i resolver _
    have hclose := (g.endWatch resolver).sink?_closeClient
    split
    · simp
    · intro shown hm
      simp only [List.cons_append, List.mem_cons, List.mem_append, List.not_mem_nil, or_false] at hm
      rcases hm with rfl | hm | rfl
      · rfl
      · exact hclose shown hm
      · rfl

end ResolverGroup

namespace GroupRun

variable {run : GroupRun} {r : Nat}

lemma sinkCalls_append {effects more : List ResolverEffect} {group next : ResolverGroup}
    {stops later : List (Nat × Nat)} (h : ∀ shown ∈ more, shown.sink? ≠ some r) :
    sinkCalls ⟨next, effects ++ more, later⟩ r = sinkCalls ⟨group, effects, stops⟩ r := by
  have hnone : more.filter (·.sink? = some r) = [] :=
    List.filter_eq_nil_iff.mpr fun shown hm => by simpa using h shown hm
  rw [sinkCalls, List.filter_append, hnone, List.append_nil]
  rfl

lemma sinkCalls_of_quiet {effects more : List ResolverEffect} {group next : ResolverGroup}
    {stops later : List (Nat × Nat)} (h : ∀ shown ∈ more, shown.sink? = none) :
    sinkCalls ⟨next, effects ++ more, later⟩ r = sinkCalls ⟨group, effects, stops⟩ r := by
  refine sinkCalls_append fun shown hm => ?_
  rw [h shown hm]
  exact (Option.some_ne_none r).symm

/-- The worker of a closed resolver ends, and other workers have other sinks. -/
lemma Kept.not_sink_turn (h : run.Kept) (hclosed : run.IsClosed r) (encoders : EncoderSchedule)
    (other : Nat) : ∀ shown ∈ (run.group.turn encoders other).2, shown.sink? ≠ some r := by
  intro shown hm hsink
  simp only [ResolverGroup.turn, ResolverGroup.worker?] at hm
  cases ho : run.group.resolvers[other]? with
  | none => simp [ho] at hm
  | some found =>
    simp only [ho, Option.map_some] at hm
    obtain ⟨effect, heffect, hshown⟩ := List.mem_filterMap.mp hm
    rcases ResolverGroup.sink?_effectOf hshown with hnone | ⟨hother, hcall⟩
    · rw [hnone] at hsink
      cases hsink
    · have he : other = r := Option.some.inj (hother.symm.trans hsink)
      obtain ⟨resolver, hr, hshut⟩ := hclosed
      rw [he, hr, Option.some.injEq] at ho
      subst ho
      have hworker := h.workers r resolver hr
      rw [hshut] at hworker
      exact (hworker.stage.turn_of_closed _).2 effect heffect hcall

/-- Whatever happens after a resolver was closed, its sink is handed nothing. -/
theorem Kept.sinkCalls_next (h : run.Kept) (hclosed : run.IsClosed r)
    (encoders : EncoderSchedule) (act : GroupAct) :
    (run.next encoders act).sinkCalls r = run.sinkCalls r := by
  cases act with
  | build endpoint meshCredentials =>
    exact sinkCalls_of_quiet (run.group.sink?_build endpoint meshCredentials)
  | push name update => exact sinkCalls_of_quiet (run.group.sink?_postAll _ _)
  | callback other update => exact sinkCalls_of_quiet (run.group.sink?_post _ other)
  | turn other => exact sinkCalls_append (h.not_sink_turn hclosed encoders other)
  | retain other s => rfl
  | dropLease other lease => rfl
  | close other => exact sinkCalls_of_quiet (run.group.sink?_close other)

lemma Kept.sinkCalls_foldl (h : run.Kept) (hclosed : run.IsClosed r) (encoders : EncoderSchedule)
    (acts : List GroupAct) :
    (acts.foldl (GroupRun.next encoders) run).sinkCalls r = run.sinkCalls r ∧
      (acts.foldl (GroupRun.next encoders) run).IsClosed r := by
  induction acts generalizing run with
  | nil => exact ⟨rfl, hclosed⟩
  | cons act rest ih =>
    obtain ⟨hcalls, hstill⟩ := ih (h.next encoders act) (hclosed.next encoders act)
    exact ⟨hcalls.trans (h.sinkCalls_next hclosed encoders act), hstill⟩

/-- The watch of a closed resolver is not registered any more. -/
lemma Kept.unregistered (h : run.Kept) (hclosed : run.IsClosed r) (kind : ResourceKind)
    (name : String) : ∀ w ∈ run.group.client.watchesAt kind name, w.owner ≠ r := by
  rintro w hw rfl
  obtain ⟨resolver, hr, hshut⟩ := hclosed
  have hheld := h.enrolled.booked.held kind name w hw
  have hm : resolver.enrolment ∈ run.group.roll :=
    List.mem_map.mpr ⟨resolver, List.mem_of_getElem? hr, rfl⟩
  have hnone : resolver.watch = none := by
    simpa [Resolver.enrolment, hshut] using h.enrolled.watches _ hm
  rw [ClientSession.handleAt_ofRoll] at hheld
  simp [ResolverGroup.roll, hr, Resolver.enrolment, hnone] at hheld

/-- Closing a resolver releases everything once. Its sink hears nothing from then on, its watch is
gone, and the next turn of its worker is the last. When the worker has ended it has stopped each
selector that it ever built once, and when no lease is left either, no cluster has a reference.
Of every watch someone who listens from the start hears that it starts, and that it is cancelled
once its resolver is closed, each once. -/
theorem closed_releases_once (providers : List String) (refusal : Option String)
    (encoders : EncoderSchedule) (acts : List GroupAct) :
    let run := of providers refusal encoders acts
    (∀ before after r, acts = before ++ .close r :: after →
      r < (of providers refusal encoders before).group.resolvers.length →
      ∃ resolver, run.group.resolvers[r]? = some resolver ∧ resolver.closed = true ∧
        run.sinkCalls r = (of providers refusal encoders before).sinkCalls r ∧
        (∀ kind name, ∀ w ∈ run.group.client.watchesAt kind name, w.owner ≠ r) ∧
        (∀ encode, (resolver.worker.turn encode).1.exited = true) ∧
        (resolver.worker.exited = true →
          (∀ s < resolver.worker.pool.selectors.length, (run.stopsBy r).count s = 1) ∧
          ((∀ lease ∈ resolver.worker.pool.leases, lease = none) →
            ∀ entry ∈ resolver.worker.pool.table.entries, entry.refs = 0))) ∧
    ∃ events, run.group.client.subscribers[0]? = some (some events) ∧ ∀ endpoint,
      events.count ⟨.started, .service, endpoint⟩ =
        run.group.resolvers.countP (·.worker.endpoint = endpoint) ∧
      events.count ⟨.cancelled, .service, endpoint⟩ =
        run.group.resolvers.countP fun resolver =>
          resolver.worker.endpoint = endpoint ∧ resolver.closed := by
  intro run
  have h : run.Kept := kept_of providers refusal encoders acts
  constructor
  · rintro before after r rfl hlt
    -- the run up to the close is kept as well, and the rest of the acts goes on from there
    have hbefore := kept_of providers refusal encoders before
    generalize hearlier : of providers refusal encoders before = earlier at hlt hbefore ⊢
    have hrun : run = after.foldl (GroupRun.next encoders) (earlier.next encoders (.close r)) := by
      rw [← hearlier]
      exact of_append ..
    have hclose : (earlier.next encoders (.close r)).IsClosed r :=
      ResolverGroup.closed_close (List.getElem?_eq_getElem hlt)
    have hcalls : (earlier.next encoders (.close r)).sinkCalls r = earlier.sinkCalls r :=
      sinkCalls_of_quiet (earlier.group.sink?_close r)
    have hkept := hbefore.next encoders (.close r)
    obtain ⟨hlater, hclosed⟩ := hkept.sinkCalls_foldl hclose encoders after
    rw [← hrun] at hlater hclosed
    obtain ⟨resolver, hr, hshut⟩ := hclosed
    have hworker := h.workers r resolver hr
    rw [hshut] at hworker
    exact ⟨resolver, hr, hshut, hlater.trans hcalls, h.unregistered ⟨resolver, hr, hshut⟩,
      fun encode => (hworker.stage.turn_of_closed encode).1, fun hexited =>
        ⟨fun s hs => hworker.count_stops hexited hs, hworker.refs_eq_zero hexited⟩⟩
  · obtain ⟨events, hevents, hcounts⟩ := h.enrolled.told
    refine ⟨events, hevents, fun endpoint => ?_⟩
    obtain ⟨hstarted, hcancelled⟩ := hcounts endpoint
    rw [hstarted, hcancelled, ResolverGroup.roll, List.countP_map, List.countP_map]
    exact ⟨rfl, rfl⟩

end GroupRun
end MeshRouting
