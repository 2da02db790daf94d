import MeshRouting.Proofs.AddressText

/-!
# Text of address ranges

A range is read back from its text. All that is read as a range is an address and a length that
its family admits, with a slash between them; blanks around either, a plus sign and zeros in front
of the length are the only liberties.
-/
namespace MeshRouting.Cidr

open MeshRouting.Text

/-! ### Blanks and slashes -/

lemma trim_eq_self {cs : List Char} (h : ∀ c ∈ cs, isBlank c = false) : trim cs = cs := by
  have hdrop : ∀ cs : List Char, (∀ c ∈ cs, isBlank c = false) → cs.dropWhile isBlank = cs := by
    rintro (_ | ⟨c, cs⟩) hall
    · rfl
    · exact List.dropWhile_cons_of_neg (Bool.eq_false_iff.mp (hall c List.mem_cons_self))
  rw [trim, hdrop cs h, hdrop, List.reverse_reverse]
  exact fun c hc => h c (List.mem_reverse.mp hc)

lemma splitSlash_append {address : List Char} (h : '/' ∉ address) (length : List Char) :
    splitSlash (address ++ '/' :: length) = some (address, length) := by
  have hall : ∀ c ∈ address, (c != '/') = true := by
    intro c hc
    simpa using fun he : c = '/' => h (he ▸ hc)
  rw [splitSlash, List.dropWhile_append_of_pos hall, List.takeWhile_append_of_pos hall]
  simp

/-- The first slash splits a text. -/
lemma splitSlash_eq_some_iff {cs address length : List Char} :
    splitSlash cs = some (address, length) ↔ cs = address ++ '/' :: length ∧ '/' ∉ address := by
  constructor
  · intro h
    have hslash := List.head?_dropWhile_not (· != '/') cs
    have hcs := List.takeWhile_append_dropWhile (p := (· != '/')) (l := cs)
    rw [splitSlash] at h
    split at h
    · cases h
    · rename_i c rest hdrop
      cases h
      rw [hdrop] at hslash hcs
      have hc : c = '/' := by simpa using hslash
      rw [hc] at hcs
      refine ⟨hcs.symm, fun hm => ?_⟩
      simpa using List.mem_takeWhile_imp hm
  · rintro ⟨rfl, h⟩
    exact splitSlash_append h length

/-! ### Lengths -/

/-- A decimal number below 256; a plus sign and zeros may stand in front. -/
def IsLength (cs : List Char) (n : Nat) : Prop :=
  n < 256 ∧ ∃ ds, (cs = ds ∨ cs = '+' :: ds) ∧ ds ≠ [] ∧ (∀ c ∈ ds, isDigit 10 c = true) ∧
    ofDigits 10 (ds.map digitValue) = n

lemma not_isDigit_plus {ds : List Char} (h : ∀ c ∈ '+' :: ds, isDigit 10 c = true) : False :=
  absurd (h '+' List.mem_cons_self) (by decide)

lemma readLength_eq_some_iff {cs : List Char} {n : Nat} :
    readLength cs = some n ↔ IsLength cs n := by
  have hread : readLength cs = some n ↔
      n < 256 ∧ readNumber 10 ((readChar '+' cs).getD cs) = some (n, []) := by
    rw [readLength]
    split
    · rename_i m hm
      rw [hm, Option.ite_none_right_eq_some]
      grind
    · rename_i hnone
      exact ⟨nofun, fun h => absurd h.2 (hnone n)⟩
  rw [hread, readNumber_eq_some_nil_iff]
  refine and_congr_right fun _ => ?_
  by_cases hplus : ∃ ds, cs = '+' :: ds
  · obtain ⟨ds, rfl⟩ := hplus
    have hsign : (readChar '+' ('+' :: ds)).getD ('+' :: ds) = ds := rfl
    rw [hsign]
    refine ⟨fun h => ⟨ds, .inr rfl, h⟩, ?_⟩
    rintro ⟨others, rfl | he, h⟩
    · exact (not_isDigit_plus h.2.1).elim
    · cases he
      exact h
  · have hsign : readChar '+' cs = none := by
      cases cs with
      | nil => rfl
      | cons c cs => exact if_neg fun he => hplus ⟨cs, by rw [he]⟩
    rw [hsign, Option.getD_none]
    refine ⟨fun h => ⟨cs, .inl rfl, h⟩, ?_⟩
    rintro ⟨ds, rfl | rfl, h⟩
    · exact h
    · exact (hplus ⟨ds, rfl⟩).elim

lemma isLength_numeral {n : Nat} (h : n < 256) : IsLength (numeral 10 n) n :=
  ⟨h, numeral 10 n, .inl rfl, numeral_ne_nil 10 n, isDigit_of_mem_numeral (by decide) (by decide) n,
    by rw [map_digitValue_numeral (by decide) (by decide), ofDigits_digits (by decide)]⟩

/-! ### Ranges -/

lemma make?_eq_ok_iff {ip : Ip} {length : Nat} {r : Cidr} :
    make? ip length = .ok r ↔ r.ip = ip ∧ r.length = length := by
  constructor
  · intro h
    rw [make?] at h
    split at h
    · cases h
      exact ⟨rfl, rfl⟩
    · cases h
  · rintro ⟨rfl, rfl⟩
    exact make?_eq_ok r

/-- What is read as a range. -/
theorem ofText_eq_ok_iff {s : String} {r : Cidr} :
    ofText s = .ok r ↔ ∃ address length, s.toList = address ++ '/' :: length ∧ '/' ∉ address ∧
      Ip.ofChars? (trim address) = some r.ip ∧ IsLength (trim length) r.length := by
  constructor
  · intro h
    rw [ofText] at h
    split at h
    · cases h
    rename_i address length hsplit
    split at h
    · cases h
    rename_i ip hip
    split at h
    · cases h
    rename_i n hn
    obtain ⟨rfl, rfl⟩ := make?_eq_ok_iff.mp h
    obtain ⟨hs, hslash⟩ := splitSlash_eq_some_iff.mp hsplit
    exact ⟨address, length, hs, hslash, hip, readLength_eq_some_iff.mp hn⟩
  · rintro ⟨address, length, hs, hslash, hip, hlength⟩
    rw [ofText, splitSlash_eq_some_iff.mpr ⟨hs, hslash⟩]
    simp only [hip, readLength_eq_some_iff.mpr hlength]
    exact make?_eq_ok r

lemma length_lt (r : Cidr) : r.length < 256 := by
  have hwidth : r.ip.width ≤ 128 := by
    cases r.ip with
    | v4 bits => exact Nat.le_of_ble_eq_true rfl
    | v6 bits => exact Nat.le_refl 128
  exact Nat.lt_of_le_of_lt (r.length_le.trans hwidth) (by decide)

/-- A range is read back from its text. -/
theorem ofText_text (r : Cidr) : ofText r.text = .ok r := by
  have haddress : ∀ c ∈ r.ip.toChars, isBlank c = false ∧ c ≠ '/' :=
    Ip.forall_mem_toChars (P := fun c => isBlank c = false ∧ c ≠ '/') (by decide) (by decide)
      (by decide) r.ip
  have hlength : ∀ c ∈ numeral 10 r.length, isBlank c = false :=
    forall_mem_numeral (P := (isBlank · = false)) (by decide) r.length (by decide)
  rw [ofText_eq_ok_iff]
  refine ⟨r.ip.toChars, numeral 10 r.length, String.toList_ofList,
    fun hm => (haddress '/' hm).2 rfl, ?_, ?_⟩
  · rw [trim_eq_self fun c hc => (haddress c hc).1]
    exact Ip.ofChars?_toChars r.ip
  · rw [trim_eq_self hlength]
    exact isLength_numeral r.length_lt

/-- Each range is read back from its text as it was: with its family, its address and its length.
The texts that are read as that range are its address and its length, which its family admits,
around the first slash, blanks at the ends of either left out. -/
theorem text_round_trip (r : Cidr) :
    make? r.ip r.length = .ok r ∧ ofText r.text = .ok r ∧
    ∀ s, ofText s = .ok r ↔
      ∃ address length, s.toList = address ++ '/' :: length ∧ '/' ∉ address ∧
        Ip.ofChars? (trim address) = some r.ip ∧ IsLength (trim length) r.length ∧
        r.length ≤ r.ip.width := by
  refine ⟨make?_eq_ok r, ofText_text r, fun s => ofText_eq_ok_iff.trans ?_⟩
  simp only [r.length_le, and_true]

/-- Blanks, a plus sign and zeros in front are read, and not written again. -/
example : (ofText " ::FFFF:10.0.0.1 /\t+0104").map (·.text) = .ok "::ffff:10.0.0.1/104" := by
  decide +kernel

end MeshRouting.Cidr
