import MeshRouting.Proofs.PublishedConfigs

/-!
# What a worker loses

With the standard encoder an envelope that prunes leaves no dead cluster behind but those that it
loses itself, when the previous selector is stopped. Whoever loses a cluster leaves the mailbox
with something to read.
-/
namespace MeshRouting

open ServiceConfig

namespace Mailbox

variable {m : Mailbox}

lemma nudge_closed (m : Mailbox) : m.nudge.1.closed = m.closed := by
  simp only [nudge]
  split
  · rfl
  · exact wakeOne_closed _

/-- After a nudge something is unread in an open mailbox, the marker or what was there. -/
lemma nudge_slot_ne_none (hopen : m.closed = false) : m.nudge.1.slot ≠ none := by
  simp only [nudge, hopen, Bool.false_or]
  split
  · rename_i hslot
    simpa [Option.isSome_iff_ne_none] using hslot
  · simp [wakeOne_slot]

lemma nudge_slot_of_ne_none (h : m.slot ≠ none) : m.nudge.1.slot = m.slot := by
  simp [nudge, Option.isSome_iff_ne_none.mpr h]

end Mailbox

namespace Worker

variable {encode : Encoder} {w : Worker} {e : Envelope} {act : WorkerAct} {d : Delivery} {s : Nat}

lemma afterRelease_mailbox (w : Worker) (outcomes : List Released) :
    (w.afterRelease outcomes).mailbox =
      if .drained ∈ outcomes then w.mailbox.nudge.1 else w.mailbox := by
  by_cases h : .drained ∈ outcomes <;> simp [afterRelease, Pool.drained, h]

lemma stop_mailbox (w : Worker) (s : Nat) :
    (w.stop s).1.mailbox = w.mailbox ∨ (w.stop s).1.mailbox = w.mailbox.nudge.1 := by
  simp only [stop]
  split
  · simp only [afterRelease_mailbox]
    split
    · exact .inr rfl
    · exact .inl rfl
  · exact .inl rfl

lemma stopCurrent_mailbox (w : Worker) :
    w.stopCurrent.1.mailbox = w.mailbox ∨ w.stopCurrent.1.mailbox = w.mailbox.nudge.1 := by
  simp only [stopCurrent]
  split
  · exact .inl rfl
  · exact stop_mailbox { w with current := none } _

lemma handle_mailbox (encode : Encoder) (w : Worker) (e : Envelope) :
    (w.handle encode e).1.mailbox = w.mailbox ∨
      (w.handle encode e).1.mailbox = w.mailbox.nudge.1 := by
  obtain hnot | ⟨cause, hf, rfl⟩ | rfl | ⟨update, pool, s, hb, rfl, -⟩ := envelope_cases w e
  · exact .inl (by rw [(handle_of_not_prunes encode w hnot).1])
  · rw [handle_notFound hf]
    exact stopCurrent_mailbox { w with pool := w.pool.prune }
  · exact .inl (by rw [handle_republish])
  · rw [handle_service hb, install_worker]
    split
    · exact stopCurrent_mailbox { w with pool := pool.prune }
    · exact stop_mailbox { w with pool := pool.prune } s

lemma perform_mailbox (encode : Encoder) (w : Worker) (act : WorkerAct) :
    (w.perform encode act).1.mailbox = w.mailbox ∨
      (w.perform encode act).1.mailbox = w.mailbox.nudge.1 := by
  obtain ⟨e, rfl⟩ | ⟨-, hsame | ⟨s, pool, lease, -, hnext⟩ |
    ⟨lease, pool, outcomes, -, hnext⟩⟩ := perform_cases encode w act
  · exact handle_mailbox encode w e
  · exact .inl (by rw [hsame])
  · exact .inl (by rw [hnext])
  · rw [hnext, afterRelease_mailbox]
    split
    · exact .inr rfl
    · exact .inl rfl

lemma perform_closed : (w.perform encode act).1.mailbox.closed = w.mailbox.closed := by
  obtain hm | hm := perform_mailbox encode w act
  · rw [hm]
  · rw [hm, Mailbox.nudge_closed]

lemma perform_slot_ne_none (h : w.mailbox.slot ≠ none) :
    (w.perform encode act).1.mailbox.slot ≠ none := by
  obtain hm | hm := perform_mailbox encode w act
  · rwa [hm]
  · rwa [hm, Mailbox.nudge_slot_of_ne_none h]

/-! ### Losses -/

lemma slot_of_drained {outcomes : List Released} (hopen : w.mailbox.closed = false)
    (h : .drained ∈ outcomes) : (w.afterRelease outcomes).mailbox.slot ≠ none := by
  rw [afterRelease_mailbox, if_pos h]
  exact Mailbox.nudge_slot_ne_none hopen

lemma stop_slot_of_loses (hp : w.pool.Sound) (hopen : w.mailbox.closed = false)
    (hloss : w.pool.Loses (w.stop s).1.pool) : (w.stop s).1.mailbox.slot ≠ none := by
  rw [stop_pool] at hloss
  obtain hagain | ⟨selector, hs, hn, hr⟩ := hp.exact.stop_cases s
  · rw [hagain] at hloss
    exact absurd hloss (Pool.not_loses_self _)
  · have hstop := Pool.stop_eq hs hn
    simp only [stop, hstop] at hloss ⊢
    exact slot_of_drained hopen (hp.exact.drained_of_loses hs hr
      { selector with refs := selector.refs - 1, stopped := true } rfl rfl rfl hloss)

lemma stopCurrent_slot_of_loses (hp : w.pool.Sound) (hopen : w.mailbox.closed = false)
    (hloss : w.pool.Loses w.stopCurrent.1.pool) : w.stopCurrent.1.mailbox.slot ≠ none := by
  simp only [stopCurrent] at hloss ⊢
  split at hloss
  · exact absurd hloss (Pool.not_loses_self _)
  · rename_i c hc
    exact stop_slot_of_loses hp hopen hloss

lemma dropLease_slot_of_loses {lease : Nat} {pool : Pool} {outcomes : List Released}
    (hp : w.pool.Sound) (hopen : w.mailbox.closed = false)
    (hd : w.pool.dropLease lease = some (pool, outcomes)) (hloss : w.pool.Loses pool) :
    ({ w with pool }.afterRelease outcomes).mailbox.slot ≠ none := by
  obtain hnone | ⟨s, selector, hl, hs, hr⟩ := hp.exact.dropLease_cases lease
  · simp [hnone] at hd
  · rw [Pool.dropLease_eq hl hs, Option.some.injEq, Prod.mk.injEq] at hd
    obtain ⟨rfl, rfl⟩ := hd
    exact slot_of_drained hopen (hp.exact.drained_of_loses hs hr
      { selector with refs := selector.refs - 1 } rfl rfl rfl hloss)

/-- Building and pruning lose nothing, so what is lost was held at the delivery as well. -/
lemma loses_of_build {update : ServiceUpdate} {pool q : Pool}
    (hb : w.pool.build update = .ok (pool, s)) (hloss : w.pool.Loses q) : pool.prune.Loses q := by
  obtain ⟨name, hm, hn⟩ := hloss
  exact ⟨name, (Pool.mem_heldClusters_build hb).mpr (.inl hm), hn⟩

lemma handle_slot_of_loses (hp : w.pool.Sound) (hopen : w.mailbox.closed = false)
    (hloss : w.pool.Loses (w.handle standard e).1.pool) :
    (w.handle standard e).1.mailbox.slot ≠ none := by
  obtain hnot | ⟨cause, hf, rfl⟩ | rfl | ⟨update, pool, s, hb, rfl, -⟩ := envelope_cases w e
  · rw [(handle_of_not_prunes standard w hnot).1] at hloss
    exact absurd hloss (Pool.not_loses_self _)
  · rw [handle_notFound hf] at hloss ⊢
    exact stopCurrent_slot_of_loses (hp.of_leads (Pool.leads_prune _)) hopen hloss
  · rw [handle_republish] at hloss
    exact absurd hloss (Pool.not_loses_self w.pool)
  · have hsound := hp.of_leads ((Pool.leads_build hb).trans (Pool.leads_prune pool))
    have hsent : ({ w with pool }.offer standard (some s)).isSome := by simp [offer_standard]
    rw [handle_service hb, install_worker, if_pos hsent] at hloss ⊢
    exact stopCurrent_slot_of_loses (w := { w with pool := pool.prune }) hsound hopen
      (loses_of_build hb hloss)

/-- Whoever loses a cluster leaves something unread. -/
theorem slot_of_loses (hp : w.pool.Sound) (hopen : w.mailbox.closed = false)
    (hloss : w.pool.Loses (w.perform standard act).1.pool) :
    (w.perform standard act).1.mailbox.slot ≠ none := by
  obtain ⟨e, rfl⟩ | ⟨-, hsame | ⟨s, pool, lease, hq, hnext⟩ |
    ⟨lease, pool, outcomes, hd, hnext⟩⟩ := perform_cases standard w act
  · exact handle_slot_of_loses hp hopen hloss
  · rw [hsame] at hloss
    exact absurd hloss (Pool.not_loses_self _)
  · rw [hnext] at hloss
    exact absurd hloss (Pool.not_loses_retain hq)
  · rw [hnext, afterRelease_pool] at hloss
    rw [hnext]
    exact dropLease_slot_of_loses hp hopen hd hloss

/-! ### Dead clusters -/

/-- A delivery adds to the held clusters only those of its selector, which stays held. -/
lemma held_of_delivery (hp : w.pool.Sound) (hw : w.Attached)
    (hd : w.delivery? encode e = some d) {name : String} :
    (name ∈ w.pool.heldClusters → name ∈ d.pool.heldClusters) ∧
      (name ∈ d.pool.heldClusters → name ∈ w.pool.heldClusters ∨
        name ∈ (w.handle encode e).1.pool.heldClusters) := by
  obtain hnot | ⟨cause, hf, rfl⟩ | rfl | ⟨update, pool, s, hb, rfl, -⟩ := envelope_cases w e
  · simp [(handle_of_not_prunes encode w hnot).2.1] at hd
  · simp only [delivery?, hf, if_true] at hd
    rw [(offer_pool hd).1]
    exact ⟨id, .inl⟩
  · simp only [delivery?] at hd
    rw [(offer_pool hd).1]
    exact ⟨id, .inl⟩
  · have hbuilt : name ∈ pool.heldClusters ↔ _ := Pool.mem_heldClusters_build hb
    have hleads := (leads_handle hd).2
    have hcurrent := handle_current_of_delivery hd
    simp only [delivery?, hb] at hd
    obtain ⟨hpool, hselector⟩ := offer_pool hd
    have hstands := hw.handle s (hcurrent.trans hselector)
    rw [hpool] at hleads ⊢
    refine ⟨fun hm => hbuilt.mpr (.inl hm), fun hm => ?_⟩
    rcases hbuilt.mp hm with hm | ⟨selector, hs, hn⟩
    · exact .inl hm
    · have hsound := hp.of_leads ((Pool.leads_build hb).trans (Pool.leads_prune pool))
      exact .inr (hsound.held_of_standing hleads hs hstands hn)

lemma hasDead_of_delivery (hp : w.pool.Sound) (hw : w.Attached)
    (hd : w.delivery? encode e = some d) :
    (w.handle encode e).1.pool.HasDead ↔ w.pool.Loses (w.handle encode e).1.pool := by
  have hafter := hp.of_leads (leads_handle_pool encode w e)
  have hnames : (w.handle encode e).1.pool.table.names = d.pool.heldClusters.toList :=
    (congrArg NameMap.keys (handle_active_of_delivery hd)).trans (sound_delivery hp hw hd).names
  rw [hafter.hasDead_iff, hnames]
  constructor
  · rintro ⟨name, hm, hn⟩
    exact ⟨name, ((held_of_delivery hp hw hd).2 hm).resolve_right hn, hn⟩
  · rintro ⟨name, hm, hn⟩
    exact ⟨name, (held_of_delivery hp hw hd).1 hm, hn⟩

end Worker

def WorkerAct.prunes (act : WorkerAct) : Prop := ∃ e, act.envelope? = some e ∧ e.prunes = true

namespace Worker

variable {w : Worker}

lemma hasDead_handle (hp : w.pool.Sound) (hw : w.Attached) (e : Envelope) :
    (w.handle standard e).1.pool.HasDead ↔
      w.pool.Loses (w.handle standard e).1.pool ∨ w.pool.HasDead ∧ e.prunes = false := by
  cases hd : w.delivery? standard e with
  | none =>
    have hnot := delivery?_standard_eq_none hd
    simp [(handle_of_not_prunes standard w hnot).1, hnot, Pool.not_loses_self]
  | some d =>
    have hprunes : e.prunes ≠ false := by
      intro hnot
      rw [(handle_of_not_prunes standard w hnot).2.1] at hd
      cases hd
    simp [hasDead_of_delivery hp hw hd, hprunes]

/-- The dead clusters after an act: what it lost, and unless it pruned those from before. -/
theorem hasDead_perform (hp : w.pool.Sound) (hw : w.Attached) (act : WorkerAct) :
    (w.perform standard act).1.pool.HasDead ↔
      w.pool.Loses (w.perform standard act).1.pool ∨ w.pool.HasDead ∧ ¬ act.prunes := by
  obtain ⟨e, rfl⟩ | ⟨hact, hperform⟩ := perform_cases standard w act
  · rw [perform, hasDead_handle hp hw e]
    simp [WorkerAct.prunes, WorkerAct.envelope?]
  · have hnot : ¬ act.prunes := by simp [WorkerAct.prunes, hact]
    have hleads := leads_perform standard w act
    have hnames := perform_names_of_no_delivery (w := w) (show w.delivered? _ act = none by
      simp [delivered?, hact])
    simp only [hnot, not_false_eq_true, and_true]
    refine hp.hasDead_iff_of_names (hp.of_leads hleads) hnames (hp.held_of_leads hleads ?_)
    obtain hsame | ⟨s, pool, lease, hq, hnext⟩ | ⟨lease, pool, outcomes, hq, hnext⟩ := hperform
    · rw [hsame]
    · rw [hnext]
      exact Pool.retain_length hq
    · rw [hnext, afterRelease_pool]
      exact Pool.dropLease_length hq

end Worker
end MeshRouting
