import MeshRouting.Proofs.Names
import MeshRouting.Proofs.SharedClients
import MeshRouting.Session.Client
import Mathlib.Tactic.Lemma

/-!
# Watches of a client session

A watch is live from the step that starts it until its handle is cancelled. The live watches are
those that are registered, those that a push reaches, and those whose start a subscriber has been
told of and whose end it has not.
-/
namespace MeshRouting

namespace WatchIndex

variable {α : Type} {index : WatchIndex α}

/-- Only names that have watches are kept. -/
def Filled (index : WatchIndex α) : Prop := ∀ name, index.find? name ≠ some []

lemma Filled.add (h : index.Filled) (name : String) (w : Watch α) : (index.add name w).Filled := by
  intro other
  rw [WatchIndex.add, NameMap.find?_insert]
  split
  · simp
  · exact h other

lemma Filled.remove (h : index.Filled) (name : String) (id : Nat) :
    (index.remove name id).Filled := by
  intro other
  unfold WatchIndex.remove
  split
  · rw [NameMap.find?_erase]
    split
    · simp
    · exact h other
  · rename_i rest hrest
    rw [NameMap.find?_insert]
    split
    · simpa using hrest
    · exact h other

lemma Filled.mem_keys_iff (h : index.Filled) {name : String} :
    name ∈ index.keys ↔ index.watchesOf name ≠ [] := by
  have hfilled := h name
  rw [NameMap.mem_keys_iff, watchesOf]
  cases hn : index.find? name with
  | none => simp
  | some watches =>
    rw [hn] at hfilled
    simpa using hfilled

end WatchIndex

namespace Registry

variable {α : Type} {r : Registry α}

lemma filled_watch (h : ∀ kind, (r.indexOf kind).Filled) (kind : ResourceKind) (name : String)
    (owner : α) (other : ResourceKind) :
    ((r.watch kind name owner).1.indexOf other).Filled := by
  have hadded : ((r.watch kind name owner).1.indexOf other) =
      if kind = other then (r.indexOf kind).add name ⟨r.lastId + 1, owner⟩
      else r.indexOf other := by
    cases kind <;> cases other <;> rfl
  rw [hadded]
  split
  · exact (h kind).add name _
  · exact h other

lemma filled_cancel (h : ∀ kind, (r.indexOf kind).Filled) (handle : WatchHandle)
    (other : ResourceKind) : ((r.cancel handle).indexOf other).Filled := by
  unfold cancel
  split
  · have hemitted (r : Registry α) (event : WatchEvent) :
        (r.emit event).indexOf other = r.indexOf other := by
      cases other <;> rfl
    rw [hemitted, indexOf_setIndex]
    split
    · exact (h handle.kind).remove handle.name handle.id
    · exact h other
  · exact h other

lemma mem_watched_iff (h : ∀ kind, (r.indexOf kind).Filled) {kind : ResourceKind}
    {name : String} : name ∈ r.watched kind ↔ r.watchesAt kind name ≠ [] := (h kind).mem_keys_iff

lemma subscribers_watch (r : Registry α) (kind : ResourceKind) (name : String) (owner : α) :
    (r.watch kind name owner).1.subscribers =
      r.subscribers.map fun inbox => inbox.map (· ++ [⟨.started, kind, name⟩]) := by
  cases kind <;> rfl

lemma subscribers_cancel {handle : WatchHandle}
    (h : (r.indexOf handle.kind).holds handle.name handle.id = true) :
    (r.cancel handle).subscribers =
      r.subscribers.map fun inbox => inbox.map (· ++ [⟨.cancelled, handle.kind, handle.name⟩]) := by
  rw [cancel, if_pos h]
  cases handle.kind <;> rfl

lemma closed_cancel (r : Registry α) (handle : WatchHandle) :
    (r.cancel handle).closed = r.closed := by
  unfold cancel
  split
  · cases handle.kind <;> rfl
  · rfl

end Registry

namespace ClientSession

variable {s : ClientSession} {op : ClientOp} {ops : List ClientOp} {kind : ResourceKind}
  {name : String} {n subscriber : Nat}

def start (providers : List String) : ClientSession := { providers }

def after (s : ClientSession) (ops : List ClientOp) : ClientSession :=
  ops.foldl (fun s op => (s.step op).1) s

/-- The handle of a watch that has not been cancelled. -/
def handleAt (s : ClientSession) (n : Nat) : Option WatchHandle := (s.handles[n]?).join.join

/-- The handles of the live watches of a resource, in the order in which they were given. -/
def live (s : ClientSession) (kind : ResourceKind) (name : String) : List Nat :=
  (List.range s.handles.length).filter fun n =>
    (s.handleAt n).any fun handle => handle.kind = kind ∧ handle.name = name

/-- What the subscribers are told of an operation. -/
def tells (s : ClientSession) : ClientOp → List WatchEvent
  | .watch kind name => [⟨.started, kind, name⟩]
  | .cancel n => (s.handleAt n).toList.map fun handle => ⟨.cancelled, handle.kind, handle.name⟩
  | _ => []

/-- What there is to tell of these operations. -/
def told (s : ClientSession) : List ClientOp → List WatchEvent
  | [] => []
  | op :: rest => s.tells op ++ (s.step op).1.told rest

/-- What a subscriber is shown in the steps of these operations. -/
def seen (s : ClientSession) (subscriber : Nat) : List ClientOp → List WatchEvent
  | [] => []
  | op :: rest =>
    ((s.step op).2.events[subscriber]?).join.getD [] ++ (s.step op).1.seen subscriber rest

lemma after_append (s : ClientSession) (ops : List ClientOp) (op : ClientOp) :
    s.after (ops ++ [op]) = ((s.after ops).step op).1 := List.foldl_append

lemma after_append_cons (s : ClientSession) (before between : List ClientOp) (op : ClientOp) :
    s.after (before ++ op :: between) = ((s.after before).step op).1.after between :=
  List.foldl_append

/-! ### Handles -/

lemma handles_step (s : ClientSession) (op : ClientOp) : (s.step op).1.handles =
    match op with
    | .watch kind name => s.handles ++ [some (some ⟨kind, name, s.client.lastId + 1⟩)]
    | .noopHandle => s.handles ++ [some none]
    | .cancel n => s.handles.set n none
    | _ => s.handles := by
  cases op with
  | cancel n =>
    simp only [step, perform, cancel]
    split
    · rename_i hnone
      refine List.ext_getElem? fun m => ?_
      rw [List.getElem?_set]
      grind
    · rfl
  | unsubscribe subscriber => simp only [step, perform]
  | _ => rfl

lemma handleAt_eq_none_of_length_le (h : s.handles.length ≤ n) : s.handleAt n = none := by
  simp [handleAt, List.getElem?_eq_none h]

lemma lt_length_of_handleAt {handle : WatchHandle} (h : s.handleAt n = some handle) :
    n < s.handles.length := by
  by_contra hlt
  rw [handleAt_eq_none_of_length_le (Nat.le_of_not_lt hlt)] at h
  cases h

lemma handleAt_step (s : ClientSession) (op : ClientOp) (n : Nat) : (s.step op).1.handleAt n =
    match op with
    | .watch kind name =>
      if n = s.handles.length then some ⟨kind, name, s.client.lastId + 1⟩ else s.handleAt n
    | .cancel m => if n = m then none else s.handleAt n
    | _ => s.handleAt n := by
  rw [handleAt, handles_step]
  cases op with
  | watch kind name =>
    grind [handleAt]
  | noopHandle => grind [handleAt]
  | cancel m => grind [handleAt]
  | _ => rfl

lemma length_step (s : ClientSession) (op : ClientOp) : (s.step op).1.handles.length =
    match op with
    | .watch .. | .noopHandle => s.handles.length + 1
    | _ => s.handles.length := by
  rw [handles_step]
  cases op <;> simp

lemma length_le_step (s : ClientSession) (op : ClientOp) :
    s.handles.length ≤ (s.step op).1.handles.length := by
  rw [length_step]
  split <;> omega

lemma mem_live_iff : n ∈ s.live kind name ↔ ∃ id, s.handleAt n = some ⟨kind, name, id⟩ := by
  constructor
  · intro h
    obtain ⟨handle, hh, hk, hn⟩ : ∃ handle, s.handleAt n = some handle ∧ handle.kind = kind ∧
        handle.name = name := by
      simpa [Option.any_eq_true_iff_get, Option.eq_some_iff_get_eq] using (List.mem_filter.mp h).2
    subst hk hn
    exact ⟨handle.id, hh⟩
  · rintro ⟨id, hid⟩
    refine List.mem_filter.mpr ⟨List.mem_range.mpr (lt_length_of_handleAt hid), ?_⟩
    simp [hid]

lemma ascending_live (s : ClientSession) (kind : ResourceKind) (name : String) :
    (s.live kind name).Pairwise (· < ·) := List.pairwise_lt_range.filter _

/-- A watch is live from when it is started until it is cancelled. -/
lemma live_step (s : ClientSession) (op : ClientOp) (kind : ResourceKind) (name : String) :
    (s.step op).1.live kind name =
      match op with
      | .watch other resource =>
        s.live kind name ++ if other = kind ∧ resource = name then [s.handles.length] else []
      | .cancel n => (s.live kind name).filter (· ≠ n)
      | _ => s.live kind name := by
  have hold : (List.range s.handles.length).filter (fun n =>
      ((s.step op).1.handleAt n).any fun handle => handle.kind = kind ∧ handle.name = name) =
        match op with
        | .cancel n => (s.live kind name).filter (· ≠ n)
        | _ => s.live kind name := by
    cases op with
    | cancel m =>
      dsimp only
      rw [live, List.filter_filter]
      refine List.filter_congr fun n hn => ?_
      rw [handleAt_step]
      by_cases he : n = m <;> simp [he]
    | watch other resource =>
      refine List.filter_congr fun n hn => ?_
      have hne : n ≠ s.handles.length := Nat.ne_of_lt (List.mem_range.mp hn)
      rw [handleAt_step]
      simp [hne]
    | _ =>
      refine List.filter_congr fun n hn => ?_
      rw [handleAt_step]
  have hnew : (s.step op).1.handleAt s.handles.length =
      match op with
      | .watch kind name => some ⟨kind, name, s.client.lastId + 1⟩
      | _ => none := by
    rw [handleAt_step, handleAt_eq_none_of_length_le (Nat.le_refl _)]
    cases op <;> simp
  rw [live, length_step]
  cases op with
  | watch other resource =>
    rw [List.range_succ, List.filter_append, hold, List.filter_singleton, hnew]
    simp
  | noopHandle =>
    rw [List.range_succ, List.filter_append, hold, List.filter_singleton, hnew]
    simp
  | _ => exact hold

/-- Something is in a longer list if it is last or has been there before. -/
lemma exists_split_append_iff {opening ending : ClientOp} {p : List ClientOp → Prop} :
    (∃ before between, ops ++ [op] = before ++ opening :: between ∧ p before ∧ ending ∉ between) ↔
      (op = opening ∧ p ops) ∨ (op ≠ ending ∧
        ∃ before between, ops = before ++ opening :: between ∧ p before ∧ ending ∉ between) := by
  constructor
  · rintro ⟨before, between, heq, hp, hout⟩
    obtain rfl | ⟨rest, last, rfl⟩ := between.eq_nil_or_concat'
    · obtain ⟨rfl, hlast⟩ := List.append_inj' heq rfl
      cases hlast
      exact .inl ⟨rfl, hp⟩
    · rw [← List.cons_append, ← List.append_assoc] at heq
      obtain ⟨rfl, hlast⟩ := List.append_inj' heq rfl
      cases hlast
      simp only [List.mem_append, List.mem_singleton, not_or] at hout
      exact .inr ⟨Ne.symm hout.2, before, rest, rfl, hp, hout.1⟩
  · rintro (⟨rfl, hp⟩ | ⟨hne, before, between, rfl, hp, hout⟩)
    · exact ⟨ops, [], rfl, hp, List.not_mem_nil⟩
    · refine ⟨before, between ++ [op], by simp, hp, ?_⟩
      simp [hout, Ne.symm hne]

lemma answer_watch_iff : (s.step (.watch kind name)).2.answer = .number n ↔
    n = s.handles.length := by
  show ClientAnswer.number s.handles.length = .number n ↔ _
  rw [ClientAnswer.number.injEq, eq_comm]

/-- The live watches are those that have been started and not cancelled since. -/
lemma mem_live_after_iff (providers : List String) :
    n ∈ ((start providers).after ops).live kind name ↔
      ∃ before between, ops = before ++ .watch kind name :: between ∧
        (((start providers).after before).step (.watch kind name)).2.answer = .number n ∧
        .cancel n ∉ between := by
  induction ops using List.reverseRecOn with
  | nil =>
    constructor
    · intro h
      cases h
    · rintro ⟨before, between, heq, -⟩
      simp at heq
  | append_singleton ops op ih =>
    rw [exists_split_append_iff (p := fun before =>
      (((start providers).after before).step (.watch kind name)).2.answer = .number n),
      after_append, live_step, ← ih, answer_watch_iff]
    cases op with
    | watch other resource =>
      simp only [List.mem_append, ClientOp.watch.injEq, ne_eq, reduceCtorEq, not_false_eq_true,
        true_and]
      rw [or_comm]
      split <;> simp [*]
    | cancel m =>
      by_cases he : n = m
      · simp [he]
      · simp [he, Ne.symm he]
    | _ => simp

lemma handleAt_after_of_none (hlt : n < s.handles.length) (h : s.handleAt n = none)
    (ops : List ClientOp) : (s.after ops).handleAt n = none := by
  induction ops generalizing s with
  | nil => exact h
  | cons op rest ih =>
    refine ih (Nat.lt_of_lt_of_le hlt (length_le_step s op)) ?_
    rw [handleAt_step]
    cases op with
    | watch kind name => simp [Nat.ne_of_lt hlt, h]
    | cancel m => simp [h]
    | _ => exact h

/-- The handle of a cancelled watch is not given again. -/
lemma handleAt_after_of_cancelled (hlt : n < s.handles.length) (h : .cancel n ∈ ops) :
    (s.after ops).handleAt n = none := by
  induction ops generalizing s with
  | nil => cases h
  | cons op rest ih =>
    have hnext := Nat.lt_of_lt_of_le hlt (length_le_step s op)
    rcases List.mem_cons.mp h with rfl | h
    · refine handleAt_after_of_none hnext ?_ rest
      rw [handleAt_step]
      exact if_pos rfl
    · exact ih hnext h

/-! ### The registry -/

/-- The handles stand for the watches of the client, and each for one of its own. -/
structure Booked (s : ClientSession) : Prop where
  owners : ∀ kind name, (s.client.watchesAt kind name).map (·.owner) = s.live kind name
  held : ∀ kind name, ∀ w ∈ s.client.watchesAt kind name,
    s.handleAt w.owner = some ⟨kind, name, w.id⟩
  distinct : ∀ n m handle other, s.handleAt n = some handle → s.handleAt m = some other →
    handle.id = other.id → n = m
  numbered : ∀ n handle, s.handleAt n = some handle → handle.id ≤ s.client.lastId

/-- What an operation does about watches. -/
def registry (s : ClientSession) : ClientOp → Registry Nat
  | .watch kind name => (s.client.watch kind name s.handles.length).1
  | .cancel n => (s.handleAt n).elim s.client s.client.cancel
  | _ => s.client

lemma client_step (s : ClientSession) (op : ClientOp) : ∃ subscribers closed,
    (s.step op).1.client = { s.registry op with subscribers, closed } := by
  cases op with
  | cancel n =>
    simp only [step, perform, cancel, registry, handleAt]
    rcases (s.handles[n]?).join with _ | _ | handle
    · exact ⟨_, _, rfl⟩
    · exact ⟨_, _, rfl⟩
    · exact ⟨_, _, rfl⟩
  | unsubscribe subscriber =>
    simp only [step, perform, Registry.unsubscribe]
    split
    · exact ⟨_, _, rfl⟩
    · exact ⟨_, _, rfl⟩
  | _ => exact ⟨_, _, rfl⟩

lemma closed_step (s : ClientSession) (op : ClientOp) : (s.step op).1.client.closed =
    match op with
    | .close => true
    | _ => s.client.closed := by
  cases op with
  | watch kind name => cases kind <;> rfl
  | cancel n =>
    simp only [step, perform, cancel]
    rcases (s.handles[n]?).join with _ | _ | handle
    · rfl
    · rfl
    · exact Registry.closed_cancel s.client handle
  | unsubscribe subscriber =>
    simp only [step, perform, Registry.unsubscribe]
    split <;> rfl
  | _ => rfl

lemma watchesAt_step (s : ClientSession) (op : ClientOp) (kind : ResourceKind) (name : String) :
    (s.step op).1.client.watchesAt kind name = (s.registry op).watchesAt kind name := by
  obtain ⟨subscribers, closed, heq⟩ := client_step s op
  rw [heq]
  cases kind <;> rfl

lemma lastId_step (s : ClientSession) (op : ClientOp) : (s.step op).1.client.lastId =
    match op with
    | .watch .. => s.client.lastId + 1
    | _ => s.client.lastId := by
  obtain ⟨subscribers, closed, heq⟩ := client_step s op
  rw [heq]
  cases op with
  | watch kind name => exact Registry.lastId_watch ..
  | cancel n =>
    show (s.registry (.cancel n)).lastId = _
    cases hn : s.handleAt n with
    | none => simp [registry, hn]
    | some handle => simp [registry, hn, Registry.lastId_cancel]
  | _ => rfl

/-- A handle that a step leaves has been there before, or is that of the watch it starts. -/
lemma handleAt_of_step {handle : WatchHandle} (h : (s.step op).1.handleAt n = some handle) :
    s.handleAt n = some handle ∨
      n = s.handles.length ∧ handle.id = s.client.lastId + 1 ∧
        ∃ kind name, op = .watch kind name := by
  rw [handleAt_step] at h
  cases op with
  | watch kind name =>
    dsimp only at h
    split at h
    · rename_i hn
      cases h
      exact .inr ⟨hn, rfl, kind, name, rfl⟩
    · exact .inl h
  | cancel m =>
    dsimp only at h
    split at h
    · cases h
    · exact .inl h
  | _ => exact .inl h

lemma lastId_le_step (s : ClientSession) (op : ClientOp) :
    s.client.lastId ≤ (s.step op).1.client.lastId := by
  rw [lastId_step]
  split <;> omega

lemma Booked.watchesAt_step_cancel (h : s.Booked) (n : Nat) (kind : ResourceKind) (name : String) :
    (s.step (.cancel n)).1.client.watchesAt kind name =
      (s.client.watchesAt kind name).filter (·.owner ≠ n) := by
  rw [watchesAt_step, registry]
  cases hn : s.handleAt n with
  | none =>
    refine (List.filter_eq_self.mpr fun w hw => ?_).symm
    have hheld := h.held kind name w hw
    have hne : w.owner ≠ n := by
      rintro rfl
      rw [hn] at hheld
      cases hheld
    simpa using hne
  | some handle =>
    show (s.client.cancel handle).watchesAt kind name = _
    rw [Registry.watchesAt_cancel]
    refine List.filter_congr fun w hw => ?_
    have hheld := h.held kind name w hw
    have hiff : handle = ⟨kind, name, w.id⟩ ↔ w.owner = n := by
      constructor
      · rintro rfl
        exact h.distinct _ _ _ _ hheld hn rfl
      · rintro rfl
        exact Option.some.inj (hn.symm.trans hheld)
    simp [hiff]

/-- What is registered for a resource changes as the live watches do. -/
lemma Booked.watchesAt_step (h : s.Booked) (op : ClientOp) (kind : ResourceKind) (name : String) :
    (s.step op).1.client.watchesAt kind name =
      match op with
      | .watch other resource =>
        s.client.watchesAt kind name ++
          if other = kind ∧ resource = name then [⟨s.client.lastId + 1, s.handles.length⟩] else []
      | .cancel n => (s.client.watchesAt kind name).filter (·.owner ≠ n)
      | _ => s.client.watchesAt kind name := by
  cases op with
  | watch other resource =>
    rw [ClientSession.watchesAt_step]
    exact Registry.watchesAt_watch ..
  | cancel n => exact h.watchesAt_step_cancel n kind name
  | _ => exact ClientSession.watchesAt_step ..

theorem Booked.step (h : s.Booked) (op : ClientOp) : (s.step op).1.Booked where
  owners := by
    intro kind name
    rw [h.watchesAt_step, live_step, ← h.owners]
    cases op with
    | watch other resource =>
      dsimp only
      split <;> simp
    | cancel n => simp [List.filter_map, Function.comp_def]
    | _ => rfl
  held := by
    intro kind name w hw
    rw [h.watchesAt_step] at hw
    rw [handleAt_step]
    cases op with
    | watch other resource =>
      dsimp only at hw ⊢
      rcases List.mem_append.mp hw with hw | hw
      · have hheld := h.held kind name w hw
        rw [if_neg (Nat.ne_of_lt (lt_length_of_handleAt hheld)), hheld]
      · split at hw
        · rename_i heq
          rw [List.mem_singleton.mp hw, heq.1, heq.2, if_pos rfl]
        · cases hw
    | cancel n =>
      obtain ⟨hw, hne⟩ := List.mem_filter.mp hw
      have hne : w.owner ≠ n := by simpa using hne
      dsimp only
      rw [if_neg hne, h.held kind name w hw]
    | _ => exact h.held kind name w hw
  distinct := by
    intro n m handle other hn hm hid
    rcases handleAt_of_step hn with hn | ⟨rfl, hnew, hop⟩
    · rcases handleAt_of_step hm with hm | ⟨rfl, hnew, -⟩
      · exact h.distinct n m handle other hn hm hid
      · have hle := h.numbered n handle hn
        omega
    · rcases handleAt_of_step hm with hm | ⟨rfl, -, -⟩
      · have hle := h.numbered m other hm
        omega
      · rfl
  numbered := by
    intro n handle hn
    rcases handleAt_of_step hn with hn | ⟨-, hid, kind, name, rfl⟩
    · exact (h.numbered n handle hn).trans (lastId_le_step s op)
    · rw [hid, lastId_step]

lemma booked_start (providers : List String) : (start providers).Booked where
  owners := by
    intro kind name
    cases kind <;> rfl
  held := by
    intro kind name w hw
    cases kind <;> cases hw
  distinct := by
    intro n m handle other hn
    cases hn
  numbered := by
    intro n handle hn
    cases hn

theorem Booked.after (h : s.Booked) (ops : List ClientOp) : (s.after ops).Booked := by
  induction ops generalizing s with
  | nil => exact h
  | cons op rest ih => exact ih (h.step op)

/-! ### Names without watches -/

lemma filled_step (h : ∀ kind, (s.client.indexOf kind).Filled) (op : ClientOp)
    (kind : ResourceKind) : ((s.step op).1.client.indexOf kind).Filled := by
  obtain ⟨subscribers, closed, heq⟩ := client_step s op
  have hregistry : ((s.registry op).indexOf kind).Filled := by
    cases op with
    | watch other name => exact Registry.filled_watch h other name _ kind
    | cancel n =>
      cases hn : s.handleAt n with
      | none => simpa [registry, hn] using h kind
      | some handle => simpa [registry, hn] using Registry.filled_cancel h handle kind
    | _ => exact h kind
  rw [heq]
  cases kind <;> exact hregistry

lemma filled_after (h : ∀ kind, (s.client.indexOf kind).Filled) (ops : List ClientOp)
    (kind : ResourceKind) : ((s.after ops).client.indexOf kind).Filled := by
  induction ops generalizing s with
  | nil => exact h kind
  | cons op rest ih => exact ih (filled_step h op)

lemma filled_start (providers : List String) (kind : ResourceKind) :
    ((start providers).client.indexOf kind).Filled := by
  intro name hnone
  cases kind <;> cases hnone

lemma Booked.mem_watched_iff (h : s.Booked) (hf : ∀ kind, (s.client.indexOf kind).Filled) :
    name ∈ s.client.watched kind ↔ s.live kind name ≠ [] := by
  rw [Registry.mem_watched_iff hf, ← h.owners]
  simp

/-! ### Subscribers -/

lemma Booked.holds_of_handleAt (h : s.Booked) {handle : WatchHandle}
    (hn : s.handleAt n = some handle) :
    (s.client.indexOf handle.kind).holds handle.name handle.id = true := by
  have hlive : n ∈ s.live handle.kind handle.name := mem_live_iff.mpr ⟨handle.id, hn⟩
  rw [← h.owners] at hlive
  obtain ⟨w, hw, rfl⟩ := List.mem_map.mp hlive
  have hheld := h.held _ _ w hw
  rw [hn] at hheld
  have hid : handle.id = w.id := congrArg WatchHandle.id (Option.some.inj hheld)
  exact List.any_eq_true.mpr ⟨w, hw, by simp [hid]⟩

lemma Booked.subscribers_perform (h : s.Booked)
    (hk : s.client.subscribers[subscriber]? = some (some []))
    (hop : op ≠ .unsubscribe subscriber) :
    (s.perform op).1.client.subscribers[subscriber]? = some (some (s.tells op)) := by
  cases op with
  | watch kind name =>
    show (s.client.watch kind name s.handles.length).1.subscribers[subscriber]? = _
    simp [Registry.subscribers_watch, hk, tells]
  | cancel n =>
    simp only [perform, cancel, tells, handleAt]
    rcases hn : (s.handles[n]?).join with _ | _ | handle
    · simpa using hk
    · simpa using hk
    · have hheld : s.handleAt n = some handle := by simp [handleAt, hn]
      have hholds := h.holds_of_handleAt hheld
      simp [Registry.subscribers_cancel hholds, hk]
  | subscribe =>
    have hlt : subscriber < s.client.subscribers.length := (List.getElem?_eq_some_iff.mp hk).1
    show (s.client.subscribers ++ [some []])[subscriber]? = _
    rw [List.getElem?_append_left hlt, hk]
    rfl
  | unsubscribe other =>
    have hne : other ≠ subscriber := fun he => hop (congrArg _ he)
    simp only [perform, Registry.unsubscribe]
    split
    · simp [List.getElem?_set_ne hne, hk, tells]
    · exact hk
  | _ => exact hk

lemma sortRuns_tells (s : ClientSession) (op : ClientOp) :
    sortRuns WatchEvent.run (s.tells op) = s.tells op := by
  cases op with
  | cancel n =>
    rw [tells]
    cases s.handleAt n <;> rfl
  | _ => rfl

/-- A subscriber is shown in each step what there is to tell. -/
lemma Booked.heard_step (h : s.Booked)
    (hk : s.client.subscribers[subscriber]? = some (some []))
    (hop : op ≠ .unsubscribe subscriber) :
    ((s.step op).2.events[subscriber]?).join = some (s.tells op) ∧
      (s.step op).1.client.subscribers[subscriber]? = some (some []) := by
  let performed := ({ s with trace := s.trace.nextStep }.perform op).1
  have hbooked : Booked { s with trace := s.trace.nextStep } := ⟨h.1, h.2, h.3, h.4⟩
  have hinbox : performed.client.subscribers[subscriber]? = some (some (s.tells op)) :=
    hbooked.subscribers_perform hk hop
  have hlt := (List.getElem?_eq_some_iff.mp hinbox).1
  constructor
  · show (((List.range performed.client.subscribers.length).map
      performed.client.shownEvents)[subscriber]?).join = _
    rw [List.getElem?_map, List.getElem?_range hlt]
    simp [Registry.shownEvents, hinbox, sortRuns_tells]
  · show performed.client.readAll.subscribers[subscriber]? = _
    simp [Registry.readAll, hinbox]

theorem Booked.seen_eq_told (h : s.Booked)
    (hk : s.client.subscribers[subscriber]? = some (some []))
    (hops : .unsubscribe subscriber ∉ ops) : s.seen subscriber ops = s.told ops := by
  induction ops generalizing s with
  | nil => rfl
  | cons op rest ih =>
    rw [List.mem_cons, not_or] at hops
    obtain ⟨hshown, hnext⟩ := h.heard_step hk (Ne.symm hops.1)
    rw [seen, told, hshown, ih (h.step op) hnext hops.2, Option.getD_some]

lemma subscribed_step (h : (s.step .subscribe).2.answer = .number subscriber) :
    (s.step .subscribe).1.client.subscribers[subscriber]? = some (some []) := by
  have hnumber : s.client.subscribers.length = subscriber := ClientAnswer.number.inj h
  subst hnumber
  show s.client.subscribe.1.readAll.subscribers[s.client.subscribers.length]? = _
  simp [Registry.readAll, Registry.subscribe]

/-! ### Counting what is told -/

lemma count_tells (s : ClientSession) (op : ClientOp) (kind : ResourceKind) (name : String) :
    (s.tells op).count ⟨.started, kind, name⟩ + (s.live kind name).length =
      (s.tells op).count ⟨.cancelled, kind, name⟩ + ((s.step op).1.live kind name).length := by
  rw [live_step]
  cases op with
  | watch other resource =>
    by_cases he : other = kind ∧ resource = name
    · simp [tells, he, Nat.add_comm]
    · simp [tells, he]
  | cancel n =>
    -- a handle stands for one watch, so at most one live watch ends
    have hnodup : (s.live kind name).Nodup :=
      (ascending_live s kind name).imp fun hlt => Nat.ne_of_lt hlt
    have herase : (s.live kind name).filter (· ≠ n) = (s.live kind name).erase n := by
      rw [hnodup.erase_eq_filter]
      exact List.filter_congr fun m _ => by rw [Bool.eq_iff_iff]; simp
    have htells : (s.tells (.cancel n)).count ⟨.cancelled, kind, name⟩ =
        if n ∈ s.live kind name then 1 else 0 := by
      split
      · rename_i hm
        obtain ⟨id, hid⟩ := mem_live_iff.mp hm
        simp [tells, hid]
      · rename_i hm
        refine List.count_eq_zero.mpr fun htold => ?_
        obtain ⟨handle, hh, heq⟩ := List.mem_map.mp htold
        cases heq
        exact hm (mem_live_iff.mpr ⟨handle.id, Option.mem_toList.mp hh⟩)
    have hstarted : (s.tells (.cancel n)).count ⟨.started, kind, name⟩ = 0 := by
      rw [tells]
      cases s.handleAt n <;> simp
    dsimp only
    rw [herase, List.length_erase, htells, hstarted]
    split
    · rename_i hm
      have hpos := List.length_pos_of_mem hm
      omega
    · rfl
  | _ => rfl

/-- A subscriber hears as many starts more than ends as there are more live watches. -/
theorem count_told (s : ClientSession) (ops : List ClientOp) (kind : ResourceKind)
    (name : String) :
    (s.told ops).count ⟨.started, kind, name⟩ + (s.live kind name).length =
      (s.told ops).count ⟨.cancelled, kind, name⟩ + ((s.after ops).live kind name).length := by
  induction ops generalizing s with
  | nil => rfl
  | cons op rest ih =>
    have hfirst := count_tells s op kind name
    have hrest := ih (s.step op).1
    have hafter : s.after (op :: rest) = (s.step op).1.after rest := rfl
    rw [told, List.count_append, List.count_append, hafter]
    omega

/-! ### The whole session -/

lemma closed_after_iff (s : ClientSession) (ops : List ClientOp) :
    (s.after ops).client.closed = true ↔ s.client.closed = true ∨ .close ∈ ops := by
  induction ops generalizing s with
  | nil => simp [after]
  | cons op rest ih =>
    show (((s.step op).1.after rest).client.closed = true) ↔ _
    rw [ih, closed_step]
    cases op <;> simp

lemma live_after_eq_nil (providers : List String) (h : .watch kind name ∉ ops) :
    ((start providers).after ops).live kind name = [] := by
  refine List.eq_nil_iff_forall_not_mem.mpr fun n hlive => ?_
  obtain ⟨before, between, rfl, -⟩ := (mem_live_after_iff providers).mp hlive
  exact h (by simp)

/-- The end of a watch is told when its handle is cancelled for the first time. -/
lemma tells_cancel_after (providers : List String) {before between : List ClientOp}
    (hn : (((start providers).after before).step (.watch kind name)).2.answer = .number n) :
    let s := (start providers).after (before ++ .watch kind name :: between)
    (.cancel n ∉ between → s.tells (.cancel n) = [⟨.cancelled, kind, name⟩]) ∧
      (.cancel n ∈ between → s.tells (.cancel n) = []) := by
  intro s
  constructor
  · intro hout
    have hlive : n ∈ s.live kind name :=
      (mem_live_after_iff providers).mpr ⟨before, between, rfl, hn, hout⟩
    obtain ⟨id, hid⟩ := mem_live_iff.mp hlive
    simp [tells, hid]
  · intro hm
    let started := (((start providers).after before).step (.watch kind name)).1
    have hlt : n < started.handles.length := by
      rw [length_step, answer_watch_iff.mp hn]
      exact Nat.lt_succ_self _
    have hs : s = started.after between := after_append_cons ..
    have hgone : s.handleAt n = none := hs ▸ handleAt_after_of_cancelled hlt hm
    simp [tells, hgone]

/-- A subscriber sees what there is to tell from its subscription on. -/
lemma seen_after_subscribe (providers : List String) {before between : List ClientOp}
    (hn : (((start providers).after before).step .subscribe).2.answer = .number subscriber)
    (hout : .unsubscribe subscriber ∉ between) :
    let joined := (start providers).after (before ++ [.subscribe])
    joined.seen subscriber between = joined.told between := by
  intro joined
  have hbooked : joined.Booked := (booked_start providers).after _
  have hjoined : joined = (((start providers).after before).step .subscribe).1 :=
    after_append ..
  exact hbooked.seen_eq_told (hjoined ▸ subscribed_step hn) hout

/-- Whatever is done to a client, the names that it lists are those with live watches, a push
reaches the live watches, and who subscribes is told once of each start and once of each end. -/
theorem watches_accounted (providers : List String) (ops : List ClientOp) :
    let s := (start providers).after ops
    (∀ kind name, (s.live kind name).Pairwise (· < ·) ∧
      ∀ n, n ∈ s.live kind name ↔ ∃ before between,
        ops = before ++ .watch kind name :: between ∧
          (((start providers).after before).step (.watch kind name)).2.answer = .number n ∧
          .cancel n ∉ between) ∧
    (∀ kind, ∃ names, (s.step (.watched kind)).2.answer = .names names ∧
      names.Pairwise (· < ·) ∧ ∀ name, name ∈ names ↔ s.live kind name ≠ []) ∧
    (s.client.closed = true ↔ .close ∈ ops) ∧
    (∀ kind name update,
      let reached := if s.client.closed then [] else s.live kind name
      (s.step (.push kind name update)).2.delivered = reached.map (·, update) ∧
        (s.step (.push kind name update)).2.answer = .number reached.length) ∧
    (∀ before between kind name n, ops = before ++ .watch kind name :: between →
      (((start providers).after before).step (.watch kind name)).2.answer = .number n →
        (.cancel n ∉ between → s.tells (.cancel n) = [⟨.cancelled, kind, name⟩]) ∧
        (.cancel n ∈ between → s.tells (.cancel n) = [])) ∧
    ∀ before between subscriber, ops = before ++ .subscribe :: between →
      (((start providers).after before).step .subscribe).2.answer = .number subscriber →
      .unsubscribe subscriber ∉ between →
        let joined := (start providers).after (before ++ [.subscribe])
        let events := joined.seen subscriber between
        events = joined.told between ∧
        ∀ kind name,
          events.count ⟨.started, kind, name⟩ + (joined.live kind name).length =
            events.count ⟨.cancelled, kind, name⟩ + (s.live kind name).length ∧
          (.watch kind name ∉ before → events.count ⟨.started, kind, name⟩ =
            events.count ⟨.cancelled, kind, name⟩ + (s.live kind name).length) := by
  intro s
  have hs : s.Booked := (booked_start providers).after ops
  have hfilled := filled_after (filled_start providers) ops
  refine ⟨fun kind name => ⟨ascending_live s kind name, fun n => mem_live_after_iff providers⟩,
    fun kind => ⟨s.client.watched kind, rfl, (s.client.indexOf kind).ascending,
      fun name => hs.mem_watched_iff hfilled⟩,
    ?_, fun kind name update => ?_, ?_, ?_⟩
  · rw [closed_after_iff]
    simp [start, Registry.empty]
  · have hreached : s.client.receivers kind name =
        if s.client.closed then [] else s.live kind name := by
      rw [← hs.owners]
      rfl
    rw [← hreached]
    exact ⟨rfl, rfl⟩
  · rintro before between kind name n rfl hn
    exact tells_cancel_after providers hn
  · rintro before between subscriber rfl hn hout joined events
    have htold : events = joined.told between := seen_after_subscribe providers hn hout
    have hafter : s = joined.after between := by
      rw [show joined = _ from after_append ..]
      exact after_append_cons ..
    refine ⟨htold, fun kind name => ?_⟩
    have hcount := count_told joined between kind name
    rw [← htold, ← hafter] at hcount
    refine ⟨hcount, fun hnone => ?_⟩
    have hempty : joined.live kind name = [] := live_after_eq_nil providers (by simp [hnone])
    rw [hempty] at hcount
    exact hcount

end ClientSession
end MeshRouting
