import MeshRouting.Net.Cidr
import Mathlib.Algebra.Order.Ring.Nat
import Mathlib.Data.Set.Lattice
import Mathlib.Order.CompletePartialOrder
import Mathlib.Tactic.Lemma

/-!
# Members of an address range

Membership in a range is equality of leading bits, taken among the IPv4 addresses for an IPv4 range
in either form and among the other IPv6 addresses for any other range. So two ranges are nested or
have no address in common, and a longer range has no more members.
-/
namespace MeshRouting

/-- Whether two words have the same first `count` bits. -/
def SameStart {width : Nat} (count : Nat) (a b : BitVec width) : Prop :=
  ∀ i < count, a.getMsbD i = b.getMsbD i

instance {width : Nat} (count : Nat) (a b : BitVec width) : Decidable (SameStart count a b) :=
  inferInstanceAs (Decidable (∀ i < count, a.getMsbD i = b.getMsbD i))

namespace Ip

/-! ### Mapped addresses -/

/-- The IPv6 address `::ffff:a.b.c.d`. -/
def mapped (inner : BitVec 32) : BitVec 128 := 0xffff#96 ++ inner

/-- Whether an IPv6 address is none of the mapped ones. -/
def Unmapped (bits : BitVec 128) : Prop := ∀ inner, bits ≠ mapped inner

/-- An address is an IPv4 address in either form. -/
inductive Shows : Ip → BitVec 32 → Prop
  | plain (inner : BitVec 32) : Shows (v4 inner) inner
  | mapped (inner : BitVec 32) : Shows (v6 (mapped inner)) inner

lemma toNat_mapped (inner : BitVec 32) : (mapped inner).toNat = 0xffff * 2 ^ 32 + inner.toNat := by
  show (0xffff#96 ++ inner).toNat = _
  rw [BitVec.toNat_append, ← Nat.shiftLeft_add_eq_or_of_lt inner.isLt, Nat.shiftLeft_eq]
  rfl

lemma mapped?_eq_some_iff {bits : BitVec 128} {inner : BitVec 32} :
    mapped? bits = some inner ↔ bits = mapped inner := by
  have hhead : bits >>> 32 = 0xffff#128 ↔ bits.toNat / 2 ^ 32 = 0xffff := by
    rw [← BitVec.toNat_inj, BitVec.toNat_ushiftRight, Nat.shiftRight_eq_div_pow]
    rfl
  have hlow : bits.setWidth 32 = inner ↔ bits.toNat % 2 ^ 32 = inner.toNat := by
    rw [← BitVec.toNat_inj, BitVec.toNat_setWidth]
  have hlt := inner.isLt
  rw [mapped?, Option.ite_none_right_eq_some, Option.some.injEq, hhead, hlow, ← BitVec.toNat_inj,
    toNat_mapped]
  omega

lemma mapped?_mapped (inner : BitVec 32) : mapped? (mapped inner) = some inner :=
  mapped?_eq_some_iff.mpr rfl

lemma mapped?_eq_none_iff {bits : BitVec 128} : mapped? bits = none ↔ Unmapped bits := by
  rw [Option.eq_none_iff_forall_ne_some]
  exact forall_congr' fun inner => not_congr mapped?_eq_some_iff

lemma canonical_eq_v4_iff {ip : Ip} {inner : BitVec 32} :
    ip.canonical = v4 inner ↔ ip.Shows inner := by
  constructor
  · intro h
    cases ip with
    | v4 bits =>
      cases h
      exact .plain inner
    | v6 bits =>
      rw [canonical] at h
      split at h
      · rename_i hbits
        cases h
        rw [mapped?_eq_some_iff.mp hbits]
        exact .mapped inner
      · cases h
  · rintro (_ | _)
    · rfl
    · rw [canonical, mapped?_mapped]

lemma canonical_eq_v6_iff {ip : Ip} {bits : BitVec 128} :
    ip.canonical = v6 bits ↔ ip = v6 bits ∧ Unmapped bits := by
  constructor
  · intro h
    cases ip with
    | v4 inner => cases h
    | v6 word =>
      rw [canonical] at h
      split at h
      · cases h
      · rename_i hword
        cases h
        exact ⟨rfl, mapped?_eq_none_iff.mp hword⟩
  · rintro ⟨rfl, hbits⟩
    rw [canonical, mapped?_eq_none_iff.mpr hbits]

/-! ### Addresses with the same start -/

/-- Two addresses are of one family and have the same first `count` bits. -/
inductive SharesStart (count : Nat) : Ip → Ip → Prop
  | v4 {a b : BitVec 32} (h : SameStart count a b) : SharesStart count (v4 a) (v4 b)
  | v6 {a b : BitVec 128} (h : SameStart count a b) : SharesStart count (v6 a) (v6 b)

variable {m n : Nat} {a b c : Ip}

lemma sharesStart_refl (n : Nat) (a : Ip) : SharesStart n a a := by
  cases a with
  | v4 bits => exact .v4 fun _ _ => rfl
  | v6 bits => exact .v6 fun _ _ => rfl

lemma SharesStart.symm (h : SharesStart n a b) : SharesStart n b a := by
  cases h with
  | v4 h => exact .v4 fun i hi => (h i hi).symm
  | v6 h => exact .v6 fun i hi => (h i hi).symm

lemma SharesStart.trans (h : SharesStart n a b) (h' : SharesStart n b c) : SharesStart n a c := by
  cases h with
  | v4 h =>
    cases h' with
    | v4 h' => exact .v4 fun i hi => (h i hi).trans (h' i hi)
  | v6 h =>
    cases h' with
    | v6 h' => exact .v6 fun i hi => (h i hi).trans (h' i hi)

lemma SharesStart.mono (h : SharesStart n a b) (hm : m ≤ n) : SharesStart m a b := by
  cases h with
  | v4 h => exact .v4 fun i hi => h i (by omega)
  | v6 h => exact .v6 fun i hi => h i (by omega)

end Ip

namespace Cidr

/-! ### Comparing by shifts -/

lemma ushiftRight_eq_iff {width : Nat} (dropped : Nat) (a b : BitVec width) :
    a >>> dropped = b >>> dropped ↔ SameStart (width - dropped) a b := by
  constructor
  · intro h i hi
    have hbit := congrArg (·.getMsbD (i + dropped)) h
    have hlt : i + dropped < width := by omega
    simpa [BitVec.getMsbD_ushiftRight, hlt, Nat.not_lt.mpr (Nat.le_add_left dropped i)] using hbit
  · intro h
    apply BitVec.eq_of_getMsbD_eq
    intro i hi
    rw [BitVec.getMsbD_ushiftRight, BitVec.getMsbD_ushiftRight]
    by_cases hd : i < dropped
    · simp [hd]
    · rw [h (i - dropped) (by omega)]

lemma sameStart_min_iff {width count : Nat} {a b : BitVec width} :
    SameStart (min count width) a b ↔ SameStart count a b := by
  constructor
  · intro h i hi
    by_cases hw : i < width
    · exact h i (by omega)
    · simp [BitVec.getMsbD_of_ge, Nat.not_lt.mp hw]
  · intro h i hi
    exact h i (by omega)

lemma agree_eq_true_iff {width length : Nat} {a b : BitVec width} :
    agree length a b = true ↔ SameStart length a b := by
  unfold agree droppedBits
  split
  · rename_i h
    have hz : length = 0 := by simpa using h
    rw [hz]
    exact ⟨fun _ i hi => absurd hi (Nat.not_lt_zero i), fun _ => rfl⟩
  · rename_i dropped h
    obtain ⟨-, hd⟩ : length ≠ 0 ∧ width - min length width = dropped := by simpa using h
    have hkept : width - dropped = min length width := by omega
    rw [beq_iff_eq, ushiftRight_eq_iff, hkept, sameStart_min_iff]

/-- A shift never drops a whole word. -/
lemma droppedBits_lt {width length dropped : Nat} (hw : 0 < width)
    (h : droppedBits width length = some dropped) : dropped < width := by
  obtain ⟨hl, hd⟩ : length ≠ 0 ∧ width - min length width = dropped := by
    simpa [droppedBits] using h
  omega

/-! ### Members -/

lemma canonical_fst (r : Cidr) : r.canonical.1 = r.ip.canonical := by
  obtain ⟨ip, length, h⟩ := r
  cases ip with
  | v4 bits => rfl
  | v6 bits => cases hm : Ip.mapped? bits <;> simp [canonical, Ip.canonical, hm]

lemma contains_eq_true_iff {r : Cidr} {ip : Ip} :
    r.contains ip = true ↔ Ip.SharesStart r.canonical.2 r.canonical.1 ip.canonical := by
  rw [contains]
  split
  · rename_i net length bits hr hip
    rw [hr, hip, agree_eq_true_iff]
    exact ⟨.v4, fun | .v4 h => h⟩
  · rename_i net length bits hr hip
    rw [hr, hip, agree_eq_true_iff]
    exact ⟨.v6, fun | .v6 h => h⟩
  · rename_i hv4 hv6
    refine ⟨nofun, fun h => ?_⟩
    cases hr : r.canonical with | mk net length =>
    generalize ip.canonical = other at *
    rw [hr] at h
    cases h with
    | v4 h => exact absurd rfl (hv4 _ _ _ hr)
    | v6 h => exact absurd rfl (hv6 _ _ _ hr)

/-- The addresses in a range. -/
def members (r : Cidr) : Set Ip := {ip | r.contains ip = true}

lemma mem_members_iff {r : Cidr} {ip : Ip} :
    ip ∈ r.members ↔ Ip.SharesStart r.canonical.2 r.canonical.1 ip.canonical :=
  contains_eq_true_iff

lemma canonical_of_v4 {r : Cidr} {net : BitVec 32} (h : r.ip = .v4 net) :
    r.canonical = (.v4 net, r.length) := by
  rw [canonical, h]

lemma canonical_of_mapped {r : Cidr} {net : BitVec 32} (h : r.ip = .v6 (Ip.mapped net)) :
    r.canonical = (.v4 net, r.length - 96) := by
  rw [canonical, h]
  simp only [Ip.mapped?_mapped]

lemma canonical_of_unmapped {r : Cidr} {net : BitVec 128} (h : r.ip = .v6 net)
    (hnet : Ip.Unmapped net) : r.canonical = (.v6 net, r.length) := by
  rw [canonical, h]
  simp only [Ip.mapped?_eq_none_iff.mpr hnet]

lemma contains_of_canonical_v4 {r : Cidr} {net : BitVec 32} {count : Nat}
    (h : r.canonical = (.v4 net, count)) (ip : Ip) :
    r.contains ip = true ↔ ∃ bits, ip.Shows bits ∧ SameStart count net bits := by
  rw [contains_eq_true_iff, h]
  constructor
  · intro hs
    generalize hip : ip.canonical = other at hs
    cases hs with
    | v4 hs => exact ⟨_, Ip.canonical_eq_v4_iff.mp hip, hs⟩
  · rintro ⟨bits, hip, hs⟩
    rw [Ip.canonical_eq_v4_iff.mpr hip]
    exact .v4 hs

lemma contains_of_canonical_v6 {r : Cidr} {net : BitVec 128} {count : Nat}
    (h : r.canonical = (.v6 net, count)) (ip : Ip) :
    r.contains ip = true ↔ ∃ bits, ip = .v6 bits ∧ Ip.Unmapped bits ∧ SameStart count net bits := by
  rw [contains_eq_true_iff, h]
  constructor
  · intro hs
    generalize hip : ip.canonical = other at hs
    cases hs with
    | v6 hs =>
      obtain ⟨rfl, hbits⟩ := Ip.canonical_eq_v6_iff.mp hip
      exact ⟨_, rfl, hbits, hs⟩
  · rintro ⟨bits, rfl, hbits, hs⟩
    rw [Ip.canonical_eq_v6_iff.mpr ⟨rfl, hbits⟩]
    exact .v6 hs

lemma mem_members_self (r : Cidr) : r.ip ∈ r.members := by
  rw [mem_members_iff, canonical_fst]
  exact Ip.sharesStart_refl _ _

/-- Of two ranges that agree in the bits of the one with fewer, that one has all members. -/
lemma members_subset {r other : Cidr} (hle : r.canonical.2 ≤ other.canonical.2)
    (h : Ip.SharesStart r.canonical.2 r.canonical.1 other.canonical.1) :
    other.members ⊆ r.members := by
  intro ip hip
  rw [mem_members_iff] at hip ⊢
  exact h.trans (hip.mono hle)

/-- Two ranges with a common member agree in the bits of the one with fewer. -/
lemma sharesStart_of_mem {r other : Cidr} {ip : Ip} (hle : r.canonical.2 ≤ other.canonical.2)
    (hr : ip ∈ r.members) (ho : ip ∈ other.members) :
    Ip.SharesStart r.canonical.2 r.canonical.1 other.canonical.1 := by
  rw [mem_members_iff] at hr ho
  exact hr.trans (ho.mono hle).symm

lemma subset_or_disjoint {r other : Cidr} (hle : r.canonical.2 ≤ other.canonical.2) :
    other.members ⊆ r.members ∨ Disjoint r.members other.members := by
  by_cases h : Ip.SharesStart r.canonical.2 r.canonical.1 other.canonical.1
  · exact .inl (members_subset hle h)
  · refine .inr (Set.disjoint_left.mpr fun ip hr ho => h (sharesStart_of_mem hle hr ho))

lemma nested_or_disjoint (r other : Cidr) :
    r.members ⊆ other.members ∨ other.members ⊆ r.members ∨ Disjoint r.members other.members := by
  rcases Nat.le_total r.canonical.2 other.canonical.2 with hle | hle
  · exact .inr (subset_or_disjoint hle)
  · rcases subset_or_disjoint hle with h | h
    · exact .inl h
    · exact .inr (.inr h.symm)

lemma canonical_snd_mono {r longer : Cidr} (hip : longer.ip = r.ip)
    (hle : r.length ≤ longer.length) : r.canonical.2 ≤ longer.canonical.2 := by
  cases hr : r.ip with
  | v4 net =>
    rw [canonical_of_v4 hr, canonical_of_v4 (hip.trans hr)]
    exact hle
  | v6 net =>
    cases hm : Ip.mapped? net with
    | some inner =>
      rw [Ip.mapped?_eq_some_iff.mp hm] at hr
      rw [canonical_of_mapped hr, canonical_of_mapped (hip.trans hr)]
      exact Nat.sub_le_sub_right hle 96
    | none =>
      have hnet := Ip.mapped?_eq_none_iff.mp hm
      rw [canonical_of_unmapped hr hnet, canonical_of_unmapped (hip.trans hr) hnet]
      exact hle

lemma members_antitone {r longer : Cidr} (hip : longer.ip = r.ip)
    (hle : r.length ≤ longer.length) : longer.members ⊆ r.members := by
  refine members_subset (canonical_snd_mono hip hle) ?_
  rw [canonical_fst, canonical_fst, hip]
  exact Ip.sharesStart_refl _ _

lemma width_pos (ip : Ip) : 0 < ip.width := by
  cases ip <;> exact Nat.succ_pos _

lemma make?_eq_ok (r : Cidr) : make? r.ip r.length = .ok r := dif_pos r.length_le

/-- A range holds the addresses of its family that have its leading bits: of an IPv4 range in
either form those are all IPv4 addresses in either form, and the 96 bits that map one do not count;
of any other range those are the IPv6 addresses that are not mapped. So each range holds its own
address, a longer one holds no more, and two ranges are nested or have no address in common. No
shift is as wide as the words that are compared. -/
theorem contains_iff_sameStart (r : Cidr) :
    make? r.ip r.length = .ok r ∧
    (∀ net, r.ip = .v4 net → ∀ ip,
      (r.contains ip = true ↔ ∃ bits, ip.Shows bits ∧ SameStart r.length net bits)) ∧
    (∀ net, r.ip = .v6 (Ip.mapped net) → ∀ ip,
      (r.contains ip = true ↔ ∃ bits, ip.Shows bits ∧ SameStart (r.length - 96) net bits)) ∧
    (∀ net, r.ip = .v6 net → Ip.Unmapped net → ∀ ip,
      (r.contains ip = true ↔
        ∃ bits, ip = .v6 bits ∧ Ip.Unmapped bits ∧ SameStart r.length net bits)) ∧
    r.ip ∈ r.members ∧
    (∀ longer : Cidr, longer.ip = r.ip → r.length ≤ longer.length →
      longer.members ⊆ r.members) ∧
    (∀ other : Cidr, r.members ⊆ other.members ∨ other.members ⊆ r.members ∨
      Disjoint r.members other.members) ∧
    (∀ dropped ∈ droppedBits r.canonical.1.width r.canonical.2, dropped < r.canonical.1.width) :=
  ⟨make?_eq_ok r,
    fun _ hr => contains_of_canonical_v4 (canonical_of_v4 hr),
    fun _ hr => contains_of_canonical_v4 (canonical_of_mapped hr),
    fun _ hr hnet => contains_of_canonical_v6 (canonical_of_unmapped hr hnet),
    mem_members_self r,
    fun _ => members_antitone,
    nested_or_disjoint r,
    fun _ hd => droppedBits_lt (width_pos _) hd⟩

/-- The range `::ffff:10.0.0.0/104`. -/
def mappedTen : Cidr := ⟨.v6 (Ip.mapped 0x0A000000), 104, by decide⟩

/-- The range `2001:db8::/32`. -/
def documentation : Cidr := ⟨.v6 0x20010DB8000000000000000000000000, 32, by decide⟩

theorem mapped_and_wide_members :
    mappedTen.contains (.v4 0x0A010203) = true ∧
    documentation.contains (.v6 0x20010DB8000100000000000000000001) = true ∧
    (⟨mappedTen.ip, 128, by decide⟩ : Cidr).members ⊆ mappedTen.members := by
  obtain ⟨-, -, hmapped, -, -, hlonger, -⟩ := contains_iff_sameStart mappedTen
  obtain ⟨-, -, -, hwide, -⟩ := contains_iff_sameStart documentation
  have hnet : Ip.Unmapped 0x20010DB8000000000000000000000000 :=
    Ip.mapped?_eq_none_iff.mp (by decide)
  have hbits : Ip.Unmapped 0x20010DB8000100000000000000000001 :=
    Ip.mapped?_eq_none_iff.mp (by decide)
  exact ⟨(hmapped _ rfl _).mpr ⟨0x0A010203, .plain _, by decide⟩,
    (hwide _ rfl hnet _).mpr ⟨_, rfl, hbits, by decide⟩, hlonger _ rfl (by decide)⟩

end Cidr
end MeshRouting
