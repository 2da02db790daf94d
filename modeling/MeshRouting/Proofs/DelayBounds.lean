import MeshRouting.Proofs.BackoffDelays

/-!
# Bounds of backoff delays

Without its jitter the delay is the doubled base up to the cap, for all words: it never falls from
one attempt to the next, and after 64 doublings it has come to the cap. Settings that are read from
a document leave room for the jitter, so there is always a delay, which is not below the base and
not above the cap by more than a tenth.
-/
namespace MeshRouting

open Backoff

namespace BackoffPolicy

variable {p : BackoffPolicy} {attempt later : UInt32} {jitter delay : UInt64}

lemma exists_retries (h : 1 ≤ attempt) : ∃ retries, attempt.toNat = retries + 1 :=
  Nat.exists_eq_succ_of_ne_zero (Nat.pos_iff_ne_zero.mp (UInt32.le_iff_toNat_le.mp h))

lemma cappedDelay_mono (h : 1 ≤ attempt) (hle : attempt ≤ later) :
    p.cappedDelay attempt ≤ p.cappedDelay later := by
  obtain ⟨retries, hr⟩ := exists_retries h
  obtain ⟨more, hm⟩ := exists_retries (UInt32.le_trans h hle)
  have hretries : retries ≤ more := by
    have := UInt32.le_iff_toNat_le.mp hle
    omega
  have hdoubled : p.base.toNat * 2 ^ retries ≤ p.base.toNat * 2 ^ more :=
    Nat.mul_le_mul_left _ (Nat.pow_le_pow_right (by decide) hretries)
  rw [UInt64.le_iff_toNat_le, toNat_cappedDelay p hr, toNat_cappedDelay p hm]
  omega

lemma cappedDelay_eq_cap_of_le (hbase : p.base ≠ 0) (h : 65 ≤ attempt) :
    p.cappedDelay attempt = p.cap := by
  have hge : p.cappedDelay 65 ≤ p.cappedDelay attempt := cappedDelay_mono (by decide) h
  rw [cappedDelay_eq_cap hbase] at hge
  exact UInt64.le_antisymm (UInt64.le_iff_toNat_le.mpr (p.cappedDelay_le attempt)) hge

lemma base_le_cappedDelay (hle : p.base ≤ p.cap) (h : 1 ≤ attempt) :
    p.base.toNat ≤ (p.cappedDelay attempt).toNat := by
  obtain ⟨retries, hr⟩ := exists_retries h
  have hdoubled : p.base.toNat ≤ p.base.toNat * 2 ^ retries :=
    Nat.le_mul_of_pos_right _ (Nat.two_pow_pos retries)
  have hcap := UInt64.le_iff_toNat_le.mp hle
  rw [toNat_cappedDelay p hr]
  omega

/-- A jitter is below a tenth of what it is added to. -/
lemma jitter_lt_tenth (h : CanDraw (p.cappedDelay attempt) jitter) :
    jitter = 0 ∨ 10 * jitter.toNat < (p.cappedDelay attempt).toNat := by
  refine h.imp_right fun hlt => ?_
  rw [UInt64.lt_iff_toNat_lt, toNat_jitterRange] at hlt
  omega

/-- There is a delay just where the word holds the jitter on top. -/
lemma delay_eq_some_iff_add (h : 1 ≤ attempt) : p.delay attempt jitter = some delay ↔
    delay.toNat = (p.cappedDelay attempt).toNat + jitter.toNat := by
  obtain ⟨retries, hr⟩ := exists_retries h
  rw [delay_eq_some_iff, hr, idealDelay, ← toNat_cappedDelay p hr]

lemma exists_delay (hroom : HasRoom p.cap) (hdraw : CanDraw (p.cappedDelay attempt) jitter) :
    ∃ delay, p.delay attempt jitter = some delay := by
  obtain ⟨delay, hdelay, -⟩ := isExact_of_hasRoom hroom attempt jitter hdraw
  exact ⟨delay, hdelay⟩

lemma base_le_delay (hle : p.base ≤ p.cap) (h : 1 ≤ attempt)
    (hdelay : p.delay attempt jitter = some delay) : p.base ≤ delay := by
  have hfloor := base_le_cappedDelay hle h
  rw [UInt64.le_iff_toNat_le, (delay_eq_some_iff_add h).mp hdelay]
  omega

lemma delay_le_tenth_above (h : 1 ≤ attempt) (hdraw : CanDraw (p.cappedDelay attempt) jitter)
    (hdelay : p.delay attempt jitter = some delay) :
    delay.toNat ≤ p.cap.toNat + p.cap.toNat / 10 := by
  have hceiling := p.cappedDelay_le attempt
  rw [(delay_eq_some_iff_add h).mp hdelay]
  rcases jitter_lt_tenth hdraw with rfl | htenth
  · exact Nat.add_le_add hceiling (Nat.zero_le _)
  · omega

lemma ne_zero_of_base_le (hbase : p.base ≠ 0) (hle : p.base ≤ delay) : delay ≠ 0 := by
  rintro rfl
  exact hbase (UInt64.le_zero_iff.mp hle)

end BackoffPolicy

namespace Settings

variable {s : Settings} {text : String}

lemma base_le_cap_of_validate (h : s.validate = .ok s) :
    s.acceptBackoff.base ≤ s.acceptBackoff.cap := by
  by_contra hle
  have hnone := (validate_eq_ok_iff.mp h).1
  simp [violations, delayViolations, UInt64.not_le.mp hle] at hnone

lemma validate_of_parse (h : parse text = .ok s) : s.validate = .ok s := by
  rw [parse] at h
  split at h
  · cases h
  · obtain ⟨-, rfl⟩ := validate_eq_ok_iff.mp h
    exact h

/-- The delay before jitter is the ideal one over unbounded numbers, for every base, cap and
attempt: the base doubled for each attempt after the first, up to the cap. It never falls and is the
cap from attempt 65 on at the latest, unless the base is zero. A jitter is below a tenth of it, and
the delay is the sum of both, where that fits in a word. With the settings of any document there
always is a delay, from the base up to the cap and a tenth of it, and never zero. -/
theorem delays_exponential (p : BackoffPolicy) :
    (∀ attempt : UInt32, 1 ≤ attempt →
      (p.cappedDelay attempt).toNat =
        min (p.base.toNat * 2 ^ (attempt.toNat - 1)) p.cap.toNat ∧
      (∀ later, attempt ≤ later → p.cappedDelay attempt ≤ p.cappedDelay later) ∧
      p.cappedDelay attempt ≤ p.cap ∧
      (p.base ≠ 0 → 65 ≤ attempt → p.cappedDelay attempt = p.cap) ∧
      ∀ jitter, CanDraw (p.cappedDelay attempt) jitter →
        (∀ delay, p.delay attempt jitter = some delay ↔
          delay.toNat = (p.cappedDelay attempt).toNat + jitter.toNat) ∧
        (jitter = 0 ∨ 10 * jitter.toNat < (p.cappedDelay attempt).toNat)) ∧
    ∀ text s, parse text = .ok s →
      s.acceptBackoff.base.toNat ≤ 2 ^ 63 - 1 ∧ s.acceptBackoff.cap.toNat ≤ 2 ^ 63 - 1 ∧
      ∀ (attempt : UInt32) (jitter : UInt64), 1 ≤ attempt →
        CanDraw (s.acceptBackoff.cappedDelay attempt) jitter →
          ∃ delay, s.acceptBackoff.delay attempt jitter = some delay ∧
            s.acceptBackoff.base ≤ delay ∧
            delay.toNat ≤ s.acceptBackoff.cap.toNat + s.acceptBackoff.cap.toNat / 10 ∧
            delay ≠ 0 := by
  refine ⟨fun attempt h => ⟨?_, fun later => BackoffPolicy.cappedDelay_mono h,
    UInt64.le_iff_toNat_le.mpr (p.cappedDelay_le attempt),
    fun hbase => BackoffPolicy.cappedDelay_eq_cap_of_le hbase,
    fun jitter hdraw => ⟨fun delay => BackoffPolicy.delay_eq_some_iff_add h,
      BackoffPolicy.jitter_lt_tenth hdraw⟩⟩, fun text s hs => ?_⟩
  · obtain ⟨retries, hr⟩ := BackoffPolicy.exists_retries h
    rw [BackoffPolicy.toNat_cappedDelay p hr, hr, Nat.add_sub_cancel]
  · have hvalid := validate_of_parse hs
    have hle := base_le_cap_of_validate hvalid
    have hcap := cap_lt_of_parse hs
    have hroom : BackoffPolicy.HasRoom s.acceptBackoff.cap := by
      rw [BackoffPolicy.HasRoom]
      omega
    refine ⟨?_, Nat.le_sub_one_of_lt hcap, fun attempt jitter h hdraw => ?_⟩
    · have hbasecap := UInt64.le_iff_toNat_le.mp hle
      omega
    · obtain ⟨delay, hdelay⟩ := BackoffPolicy.exists_delay hroom hdraw
      have hfloor := BackoffPolicy.base_le_delay hle h hdelay
      exact ⟨delay, hdelay, hfloor, BackoffPolicy.delay_le_tenth_above h hdraw hdelay,
        BackoffPolicy.ne_zero_of_base_le (base_ne_zero_of_validate hvalid) hfloor⟩

/-- A document with the greatest cap that can be written. -/
def greatestCapDocument : String :=
  "[server.accept_backoff]\nbase_delay_ms = 3\nmax_delay_ms = 9223372036854775807\n"

def greatestCapSettings : Settings := { acceptBackoff := ⟨3, 9223372036854775807⟩ }

/-- Attempt 62 is the last one whose delay before jitter is below that cap. -/
theorem greatest_cap_delays :
    let p := greatestCapSettings.acceptBackoff
    parse greatestCapDocument = .ok greatestCapSettings ∧
    (p.cappedDelay 62).toNat = 3 * 2 ^ 61 ∧ p.cappedDelay 62 ≤ p.cappedDelay 63 ∧
    p.cappedDelay 65 = p.cap ∧
    ∃ delay, p.delay 65 922337203685477579 = some delay ∧ p.base ≤ delay ∧
      delay.toNat ≤ 9223372036854775807 + 922337203685477580 ∧ delay ≠ 0 := by
  intro p
  have hread : parse greatestCapDocument = .ok greatestCapSettings := rfl
  obtain ⟨hcapped, hdocuments⟩ := delays_exponential p
  obtain ⟨hideal, hmono, -⟩ := hcapped 62 (by decide)
  obtain ⟨-, -, -, hcap, -⟩ := hcapped 65 (by decide)
  obtain ⟨-, -, hdelays⟩ := hdocuments greatestCapDocument greatestCapSettings hread
  have hdraw : CanDraw (p.cappedDelay 65) 922337203685477579 := .inr (by decide)
  exact ⟨hread, hideal.trans (by decide), hmono 63 (by decide), hcap (by decide) (by decide),
    hdelays 65 922337203685477579 (by decide) hdraw⟩

end Settings
end MeshRouting
