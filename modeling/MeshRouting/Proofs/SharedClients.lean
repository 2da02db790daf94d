import MeshRouting.Discovery.Registry
import Mathlib.Data.List.Induction

/-!
# Clients with several users

Several users may have watches on one client. A watch has the next number when it is started, and
only who has started it can end it. So the watches of one user, which are those that nobody else has
started, are not touched by what the others do.
-/
namespace MeshRouting

namespace WatchIndex

variable {α : Type}

lemma watchesOf_add (index : WatchIndex α) (name other : String) (w : Watch α) :
    (index.add name w).watchesOf other =
      if name = other then index.watchesOf name ++ [w] else index.watchesOf other := by
  rw [watchesOf, add, NameMap.find?_insert]
  split <;> rfl

lemma watchesOf_remove (index : WatchIndex α) (name other : String) (id : Nat) :
    (index.remove name id).watchesOf other =
      if name = other then (index.watchesOf name).filter (·.id != id)
      else index.watchesOf other := by
  unfold remove
  split
  · rename_i hnone
    rw [watchesOf, NameMap.find?_erase]
    split
    · exact hnone.symm
    · rfl
  · rw [watchesOf, NameMap.find?_insert]
    split <;> rfl

end WatchIndex

namespace Registry

variable {α : Type}

/-! ### Starting and ending a watch -/

def watchesAt (r : Registry α) (kind : ResourceKind) (name : String) : List (Watch α) :=
  (r.indexOf kind).watchesOf name

lemma indexOf_setIndex (r : Registry α) (kind other : ResourceKind) (index : WatchIndex α) :
    (r.setIndex kind index).indexOf other = if kind = other then index else r.indexOf other := by
  cases kind <;> cases other <;> rfl

lemma watchesAt_emit (r : Registry α) (event : WatchEvent) (kind : ResourceKind)
    (name : String) : (r.emit event).watchesAt kind name = r.watchesAt kind name := by
  cases kind <;> rfl

lemma watchesAt_setIndex (r : Registry α) (kind other : ResourceKind) (index : WatchIndex α)
    (name : String) : (r.setIndex kind index).watchesAt other name =
      if kind = other then index.watchesOf name else r.watchesAt other name := by
  rw [watchesAt, indexOf_setIndex]
  split <;> rfl

lemma watchesAt_watch (r : Registry α) (kind other : ResourceKind) (name resource : String)
    (owner : α) : (r.watch kind name owner).1.watchesAt other resource =
      r.watchesAt other resource ++
        if kind = other ∧ name = resource then [⟨r.lastId + 1, owner⟩] else [] := by
  have hcounted : ({ r with lastId := r.lastId + 1 } : Registry α).watchesAt other resource =
      r.watchesAt other resource := by
    cases other <;> rfl
  show (setIndex { r with lastId := r.lastId + 1 } kind
    ((r.indexOf kind).add name ⟨r.lastId + 1, owner⟩)).watchesAt other resource = _
  rw [watchesAt_setIndex, hcounted, WatchIndex.watchesOf_add]
  by_cases hk : kind = other
  · by_cases hn : name = resource
    · subst hk hn
      simp [watchesAt]
    · subst hk
      simp [watchesAt, hn]
  · simp [hk]

lemma lastId_watch (r : Registry α) (kind : ResourceKind) (name : String) (owner : α) :
    (r.watch kind name owner).1.lastId = r.lastId + 1 := by
  cases kind <;> rfl

lemma watchesAt_cancel_self (r : Registry α) (kind : ResourceKind) (name : String) (id : Nat) :
    (r.cancel ⟨kind, name, id⟩).watchesAt kind name =
      (r.watchesAt kind name).filter (·.id != id) := by
  unfold cancel
  split
  · rw [watchesAt_emit, watchesAt_setIndex, if_pos rfl, WatchIndex.watchesOf_remove, if_pos rfl]
    rfl
  · rename_i hholds
    refine (List.filter_eq_self.mpr fun w hw => ?_).symm
    have hall : ∀ w ∈ r.watchesAt kind name, ¬ w.id = id := by
      simpa [WatchIndex.holds, watchesAt] using hholds
    simpa using hall w hw

lemma watchesAt_cancel_other {handle : WatchHandle} {kind : ResourceKind} {name : String}
    (h : ¬ (handle.kind = kind ∧ handle.name = name)) (r : Registry α) :
    (r.cancel handle).watchesAt kind name = r.watchesAt kind name := by
  unfold cancel
  split
  · rw [watchesAt_emit, watchesAt_setIndex, WatchIndex.watchesOf_remove]
    by_cases hk : handle.kind = kind
    · rw [if_pos hk, if_neg fun hn => h ⟨hk, hn⟩, hk]
      rfl
    · rw [if_neg hk]
  · rfl

/-- Only the watch that the handle stands for is ended. -/
lemma watchesAt_cancel (r : Registry α) (handle : WatchHandle) (kind : ResourceKind)
    (name : String) : (r.cancel handle).watchesAt kind name =
      (r.watchesAt kind name).filter fun w => handle ≠ ⟨kind, name, w.id⟩ := by
  by_cases h : handle.kind = kind ∧ handle.name = name
  · obtain ⟨other, resource, id⟩ := handle
    obtain ⟨rfl, rfl⟩ := h
    rw [watchesAt_cancel_self]
    refine List.filter_congr fun w _ => ?_
    by_cases hid : w.id = id
    · simp [hid]
    · simp [hid, Ne.symm hid]
  · rw [watchesAt_cancel_other h]
    refine (List.filter_eq_self.mpr fun w _ => ?_).symm
    have hne : handle ≠ ⟨kind, name, w.id⟩ := fun he => h (he ▸ ⟨rfl, rfl⟩)
    simpa using hne

lemma lastId_cancel (r : Registry α) (handle : WatchHandle) :
    (r.cancel handle).lastId = r.lastId := by
  unfold cancel
  split
  · cases handle.kind <;> rfl
  · rfl

end Registry

/-- What a user does to a client. -/
inductive ClientAct (α : Type) where
  | watch (kind : ResourceKind) (name : String) (owner : α)
  | cancel (handle : WatchHandle)
  | subscribe
  | unsubscribe (subscriber : Nat)
  | readAll
  | close

/-- A client of a user with the numbers of the watches that the others have started. -/
structure SharedClient (α : Type) where
  registry : Registry α
  foreign : List Nat

namespace SharedClient

variable {α : Type} {c : SharedClient α} {r : Registry α} {foreign : List Nat}

def empty : SharedClient α := ⟨.empty, []⟩

/-- What the others do; they have the handles of their own watches only. -/
def perform (c : SharedClient α) : ClientAct α → SharedClient α
  | .watch kind name owner =>
    let (registry, handle) := c.registry.watch kind name owner
    ⟨registry, handle.id :: c.foreign⟩
  | .cancel handle => if handle.id ∈ c.foreign then ⟨c.registry.cancel handle, c.foreign⟩ else c
  | .subscribe => ⟨c.registry.subscribe.1, c.foreign⟩
  | .unsubscribe subscriber => ⟨(c.registry.unsubscribe subscriber).1, c.foreign⟩
  | .readAll => ⟨c.registry.readAll, c.foreign⟩
  | .close => ⟨c.registry.close, c.foreign⟩

/-- The watches that nobody else has started. -/
def own (c : SharedClient α) (kind : ResourceKind) (name : String) : List (Watch α) :=
  (c.registry.watchesAt kind name).filter (·.id ∉ c.foreign)

/-- Numbers are given in order. -/
structure Numbered (c : SharedClient α) : Prop where
  watches : ∀ kind name, ∀ w ∈ c.registry.watchesAt kind name, w.id ≤ c.registry.lastId
  foreign : ∀ id ∈ c.foreign, id ≤ c.registry.lastId

/-! ### The user -/

lemma Numbered.watch (h : Numbered ⟨r, foreign⟩) (kind : ResourceKind) (name : String)
    (owner : α) : Numbered ⟨(r.watch kind name owner).1, foreign⟩ where
  watches := by
    intro other resource w hw
    rw [Registry.watchesAt_watch, List.mem_append] at hw
    rw [Registry.lastId_watch]
    rcases hw with hw | hw
    · exact Nat.le_succ_of_le (h.watches other resource w hw)
    · split at hw
      · exact Nat.le_of_eq (congrArg Watch.id (List.mem_singleton.mp hw))
      · cases hw
  foreign := by
    intro id hm
    rw [Registry.lastId_watch]
    exact Nat.le_succ_of_le (h.foreign id hm)

lemma own_watch (h : Numbered ⟨r, foreign⟩) (kind other : ResourceKind) (name resource : String)
    (owner : α) : own ⟨(r.watch kind name owner).1, foreign⟩ other resource =
      own ⟨r, foreign⟩ other resource ++
        if kind = other ∧ name = resource then [⟨r.lastId + 1, owner⟩] else [] := by
  have hfresh : r.lastId + 1 ∉ foreign := fun hm =>
    absurd (h.foreign _ hm) (Nat.not_succ_le_self _)
  rw [own, Registry.watchesAt_watch, List.filter_append, own]
  split
  · simp [hfresh]
  · rfl

lemma Numbered.cancel (h : Numbered ⟨r, foreign⟩) (handle : WatchHandle) :
    Numbered ⟨r.cancel handle, foreign⟩ where
  watches := by
    intro kind name w hw
    rw [Registry.watchesAt_cancel] at hw
    rw [Registry.lastId_cancel]
    exact h.watches kind name w (List.mem_filter.mp hw).1
  foreign := by
    intro id hm
    rw [Registry.lastId_cancel]
    exact h.foreign id hm

lemma own_cancel (r : Registry α) (foreign : List Nat) (handle : WatchHandle)
    (kind : ResourceKind) (name : String) : own ⟨r.cancel handle, foreign⟩ kind name =
      (own ⟨r, foreign⟩ kind name).filter fun w => handle ≠ ⟨kind, name, w.id⟩ := by
  rw [own, Registry.watchesAt_cancel, own, List.filter_filter, List.filter_filter]
  exact List.filter_congr fun w _ => Bool.and_comm _ _

lemma Numbered.foldl_cancel (h : Numbered ⟨r, foreign⟩) (handles : List WatchHandle) :
    Numbered ⟨handles.foldl Registry.cancel r, foreign⟩ := by
  induction handles generalizing r with
  | nil => exact h
  | cons handle rest ih => exact ih (h.cancel handle)

lemma own_foldl_cancel (r : Registry α) (foreign : List Nat) (handles : List WatchHandle)
    (kind : ResourceKind) (name : String) :
    own ⟨handles.foldl Registry.cancel r, foreign⟩ kind name =
      (own ⟨r, foreign⟩ kind name).filter fun w => ⟨kind, name, w.id⟩ ∉ handles := by
  induction handles generalizing r with
  | nil => exact (List.filter_eq_self.mpr fun w _ => by simp).symm
  | cons handle rest ih =>
    rw [List.foldl_cons, ih, own_cancel, List.filter_filter]
    refine List.filter_congr fun w _ => ?_
    simp [Bool.and_comm, eq_comm]

/-! ### The others -/

/-- Who is told of changes, and whether pushes are delivered, is not about watches. -/
lemma Numbered.withRest (h : Numbered ⟨r, foreign⟩) (subscribers : List (Option (List WatchEvent)))
    (closed : Bool) : Numbered ⟨{ r with subscribers, closed }, foreign⟩ where
  watches := by
    intro kind
    cases kind with
    | service => exact h.watches .service
    | listener => exact h.watches .listener
    | route => exact h.watches .route
  foreign := h.foreign

lemma own_withRest (r : Registry α) (foreign : List Nat)
    (subscribers : List (Option (List WatchEvent))) (closed : Bool) (kind : ResourceKind)
    (name : String) : own ⟨{ r with subscribers, closed }, foreign⟩ kind name =
      own ⟨r, foreign⟩ kind name := by
  cases kind <;> rfl

/-- Another user starts a watch, ends one of its own, or does nothing about watches. -/
lemma perform_cases (c : SharedClient α) (act : ClientAct α) :
    (∃ kind name owner, c.perform act =
      ⟨(c.registry.watch kind name owner).1, (c.registry.lastId + 1) :: c.foreign⟩) ∨
    (∃ handle, handle.id ∈ c.foreign ∧ c.perform act = ⟨c.registry.cancel handle, c.foreign⟩) ∨
    ∃ subscribers closed, c.perform act = ⟨{ c.registry with subscribers, closed }, c.foreign⟩ := by
  cases act with
  | watch kind name owner => exact .inl ⟨kind, name, owner, rfl⟩
  | cancel handle =>
    unfold perform
    dsimp only
    split
    · rename_i hm
      exact .inr (.inl ⟨handle, hm, rfl⟩)
    · exact .inr (.inr ⟨_, _, rfl⟩)
  | subscribe => exact .inr (.inr ⟨_, _, rfl⟩)
  | unsubscribe subscriber =>
    refine .inr (.inr ?_)
    unfold perform Registry.unsubscribe
    dsimp only
    split
    · exact ⟨_, _, rfl⟩
    · exact ⟨_, _, rfl⟩
  | readAll => exact .inr (.inr ⟨_, _, rfl⟩)
  | close => exact .inr (.inr ⟨_, _, rfl⟩)

theorem Numbered.perform (h : c.Numbered) (act : ClientAct α) : (c.perform act).Numbered := by
  obtain ⟨kind, name, owner, heq⟩ | ⟨handle, -, heq⟩ | ⟨subscribers, closed, heq⟩ :=
    perform_cases c act
  · have hwatch : Numbered ⟨(c.registry.watch kind name owner).1, c.foreign⟩ :=
      Numbered.watch h kind name owner
    rw [heq]
    refine ⟨hwatch.watches, fun id hm => ?_⟩
    rcases List.mem_cons.mp hm with rfl | hm
    · exact Nat.le_of_eq (c.registry.lastId_watch kind name owner).symm
    · exact hwatch.foreign id hm
  · rw [heq]
    exact Numbered.cancel h handle
  · rw [heq]
    exact Numbered.withRest h subscribers closed

/-- What others do does not touch the watches of the user. -/
theorem own_perform (h : c.Numbered) (act : ClientAct α) (kind : ResourceKind) (name : String) :
    (c.perform act).own kind name = c.own kind name := by
  obtain ⟨other, resource, owner, heq⟩ | ⟨handle, hm, heq⟩ | ⟨subscribers, closed, heq⟩ :=
    perform_cases c act
  · rw [heq, own, Registry.watchesAt_watch, List.filter_append, own]
    have hold : (c.registry.watchesAt kind name).filter
        (·.id ∉ (c.registry.lastId + 1) :: c.foreign) =
          (c.registry.watchesAt kind name).filter (·.id ∉ c.foreign) := by
      refine List.filter_congr fun w hw => ?_
      have hne : w.id ≠ c.registry.lastId + 1 :=
        Nat.ne_of_lt (Nat.lt_succ_of_le (h.watches kind name w hw))
      simp [hne]
    have hnew : (if other = kind ∧ resource = name then
        [(⟨c.registry.lastId + 1, owner⟩ : Watch α)] else []).filter
          (·.id ∉ (c.registry.lastId + 1) :: c.foreign) = [] := by
      split <;> simp
    rw [hold, hnew, List.append_nil]
  · rw [heq]
    refine (own_cancel c.registry c.foreign handle kind name).trans
      (List.filter_eq_self.mpr fun w hw => ?_)
    have hown : w.id ∉ c.foreign := by simpa using (List.mem_filter.mp hw).2
    have hne : handle ≠ ⟨kind, name, w.id⟩ := by
      rintro rfl
      exact hown hm
    simpa using hne
  · rw [heq]
    exact own_withRest c.registry c.foreign subscribers closed kind name

/-- What the others have done before the user comes. -/
def after (acts : List (ClientAct α)) : SharedClient α := acts.foldl perform empty

lemma after_append (acts : List (ClientAct α)) (act : ClientAct α) :
    after (acts ++ [act]) = (after acts).perform act := List.foldl_append

lemma numbered_after (acts : List (ClientAct α)) : (after acts).Numbered := by
  induction acts using List.reverseRecOn with
  | nil =>
    refine ⟨fun kind name w hw => ?_, fun id hm => by cases hm⟩
    cases kind <;> cases hw
  | append_singleton acts act ih =>
    rw [after_append]
    exact ih.perform act

lemma own_after (acts : List (ClientAct α)) (kind : ResourceKind) (name : String) :
    (after acts).own kind name = [] := by
  induction acts using List.reverseRecOn with
  | nil => cases kind <;> rfl
  | append_singleton acts act ih =>
    rw [after_append, own_perform (numbered_after acts), ih]

end SharedClient
end MeshRouting
