import MeshRouting.Filter.ChainSet
import Mathlib.Data.List.Find

/-!
# Spellings of an address

An IPv4 address may be seen in its mapped form. Ranges look through the spelling, and so does the
comparison of a peer with the local address. The test for a loopback address does not, and nothing
else can tell a mapped peer from the same peer seen as IPv4.
-/
namespace MeshRouting

namespace Ip

@[simp] lemma canonical_canonical (ip : Ip) : ip.canonical.canonical = ip.canonical := by
  cases ip with
  | v4 bits => rfl
  | v6 bits => cases h : mapped? bits <;> simp [canonical, h]

/-- A loopback address in mapped form. -/
def isMappedLoopback (ip : Ip) : Bool := ip.canonical.isLoopback && !ip.isLoopback

lemma isLoopback_canonical_of_isLoopback {ip : Ip} (h : ip.isLoopback = true) :
    ip.canonical.isLoopback = true := by
  cases ip with
  | v4 bits => exact h
  | v6 bits =>
    have hbits : bits = 1#128 := by simpa [isLoopback] using h
    rw [hbits]
    decide

/-- Only a mapped loopback address is told from its canonical form. -/
lemma isLoopback_canonical {ip : Ip} (h : ip.isMappedLoopback = false) :
    ip.canonical.isLoopback = ip.isLoopback := by
  cases hl : ip.isLoopback with
  | true => exact isLoopback_canonical_of_isLoopback hl
  | false => simpa [isMappedLoopback, hl] using h

end Ip

namespace Endpoint

/-- An IPv4-mapped end as it is seen at an IPv4 socket, any other as it is. -/
def canonical (e : Endpoint) : Endpoint :=
  match e.ip.canonical with
  | .v4 bits => ⟨.v4 bits, e.port, 0⟩
  | .v6 _ => e

@[simp] lemma ip_canonical (e : Endpoint) : e.canonical.ip = e.ip.canonical := by
  obtain ⟨ip, port, scope⟩ := e
  cases ip with
  | v4 bits => rfl
  | v6 bits => cases h : Ip.mapped? bits <;> simp [canonical, Ip.canonical, h]

@[simp] lemma port_canonical (e : Endpoint) : e.canonical.port = e.port := by
  unfold canonical
  split <;> rfl

end Endpoint

@[simp] lemma Cidr.contains_canonical (r : Cidr) (ip : Ip) :
    r.contains ip.canonical = r.contains ip := by
  simp [contains]

@[simp] lemma inRanges_canonical (ranges : List Cidr) (ip : Ip) :
    inRanges ranges ip.canonical = inRanges ranges ip := by
  simp [inRanges]

namespace SourceType

@[simp] lemma allows_canonical_local (kind : SourceType) (localIp remoteIp : Ip) :
    kind.allows localIp.canonical remoteIp = kind.allows localIp remoteIp := by
  simp [allows]

/-- A peer is told from its canonical form only as a mapped loopback address other than the local
one. -/
lemma allows_canonical_remote (kind : SourceType) {localIp remoteIp : Ip}
    (h : ¬ (remoteIp.isMappedLoopback = true ∧ localIp.canonical ≠ remoteIp.canonical)) :
    kind.allows localIp remoteIp.canonical = kind.allows localIp remoteIp := by
  by_cases hm : remoteIp.isMappedLoopback = true
  · have hsame : localIp.canonical = remoteIp.canonical := by
      by_contra hne
      exact h ⟨hm, hne⟩
    simp [allows, hsame]
  · simp [allows, Ip.isLoopback_canonical (Bool.eq_false_iff.mpr hm)]

end SourceType

namespace ChainMatch

lemma holds_canonical_local (m : ChainMatch) (localEnd remoteEnd : Endpoint) :
    m.holds localEnd.canonical remoteEnd = m.holds localEnd remoteEnd := by
  simp [holds]

/-- Of the predicates only the source type can tell the spellings of a peer. -/
lemma holds_canonical_remote {m : ChainMatch} {localEnd remoteEnd : Endpoint}
    (h : m.sourceType.allows localEnd.ip remoteEnd.ip.canonical =
      m.sourceType.allows localEnd.ip remoteEnd.ip) :
    m.holds localEnd remoteEnd.canonical = m.holds localEnd remoteEnd := by
  simp [holds, h]

end ChainMatch

namespace ChainSet

lemma lookup_congr {set : ChainSet} {localEnd remoteEnd here there : Endpoint}
    (h : ∀ chain ∈ set.chains,
      chain.accepts.holds localEnd remoteEnd = chain.accepts.holds here there) :
    set.lookup localEnd remoteEnd = set.lookup here there := by
  rw [lookup, lookup, List.find?_congr h]

/-- A set of one chain, for peers at the local address or at a loopback address. -/
def localOnly : ChainSet :=
  ⟨[⟨"local", { sourceType := .sameIpOrLoopback }, .dynamic "r", none⟩], none⟩

lemma lookup_localOnly_eq_none_iff {localEnd remoteEnd : Endpoint} :
    localOnly.lookup localEnd remoteEnd = none ↔
      remoteEnd.ip.isLoopback = false ∧ localEnd.ip.canonical ≠ remoteEnd.ip.canonical := by
  simp [localOnly, lookup, ChainMatch.holds, SourceType.allows, inRanges]

/-- The local end may be spelled in either form. So may the remote end where all chains take peers
of any source type. For all sets of chains it may be just if it is not a loopback address in mapped
form, or is the local address as well. -/
theorem spelling_irrelevant_iff (localEnd remoteEnd : Endpoint) :
    (∀ set : ChainSet, set.lookup localEnd.canonical remoteEnd = set.lookup localEnd remoteEnd) ∧
    (∀ set : ChainSet, (∃ chain ∈ set.chains, chain.accepts.sourceType ≠ .any) ∨
      set.lookup localEnd remoteEnd.canonical = set.lookup localEnd remoteEnd) ∧
    ((∀ set : ChainSet, set.lookup localEnd remoteEnd.canonical = set.lookup localEnd remoteEnd) ↔
      ¬ (remoteEnd.ip.isMappedLoopback = true ∧
        localEnd.ip.canonical ≠ remoteEnd.ip.canonical)) := by
  refine ⟨?_, ?_, ?_, ?_⟩
  · intro set
    exact lookup_congr fun chain _ => chain.accepts.holds_canonical_local _ _
  · intro set
    by_cases hany : ∃ chain ∈ set.chains, chain.accepts.sourceType ≠ .any
    · exact .inl hany
    · refine .inr (lookup_congr fun chain hm => ChainMatch.holds_canonical_remote ?_)
      have hsource : chain.accepts.sourceType = .any := by
        by_contra hne
        exact hany ⟨chain, hm, hne⟩
      rw [hsource]
      rfl
  · rintro hall ⟨hm, hne⟩
    obtain ⟨hcanonical, hplain⟩ : remoteEnd.ip.canonical.isLoopback = true ∧
        remoteEnd.ip.isLoopback = false := by
      simpa [Ip.isMappedLoopback] using hm
    have hnone := lookup_localOnly_eq_none_iff.mpr ⟨hplain, hne⟩
    rw [← hall, lookup_localOnly_eq_none_iff, Endpoint.ip_canonical, hcanonical] at hnone
    cases hnone.1
  · intro h set
    exact lookup_congr fun chain _ =>
      ChainMatch.holds_canonical_remote (chain.accepts.sourceType.allows_canonical_remote h)

/-- A peer at `127.0.0.1` is taken as local at an IPv4 socket, and not at a dual-stack one. -/
theorem mapped_loopback_unmatched :
    let peer : Endpoint := ⟨.v6 0xFFFF7F000001#128, 4000, 0⟩
    let server : Endpoint := ⟨.v4 0x0A000001, 80, 0⟩
    (make? localOnly.chains localOnly.fallback).toOption = some localOnly ∧
    peer.canonical = ⟨.v4 0x7F000001, 4000, 0⟩ ∧
    (localOnly.lookup server peer.canonical).map (·.name) = some "local" ∧
    localOnly.lookup server peer = none := by
  decide

end ChainSet
end MeshRouting
