import MeshRouting.Net.IpText
import MeshRouting.Proofs.NumeralReading
import MeshRouting.Proofs.RangeMembers

/-!
# Text of addresses

Every address is read back from its text: a dotted quad as IPv4, groups with or without a run of
zeros left out as IPv6, and the mapped form with its octets at the end.
-/
namespace MeshRouting.Ip

open MeshRouting.Text

variable {rest : List Char}

/-! ### Numbers with marks between them -/

section

variable (mark : Char) (base : Nat)

/-- The numbers that follow the first one, each behind its mark. -/
def furtherNumbers (ns : List Nat) : List Char := ns.flatMap fun n => mark :: numeral base n

lemma intercalate_cons (n : Nat) (ns : List Nat) :
    [mark].intercalate ((n :: ns).map (numeral base)) =
      numeral base n ++ furtherNumbers mark base ns := by
  induction ns generalizing n with
  | nil => simp [furtherNumbers]
  | cons next ns ih =>
    rw [List.map_cons, List.map_cons, List.intercalate_cons_cons, ← List.map_cons, ih]
    simp [furtherNumbers]

variable {mark base} {P : Char → Prop}

lemma forall_mem_furtherNumbers (hbase : 1 < base) (hmark : P mark)
    (hdigit : ∀ d < base, P (digitChar d)) (ns : List Nat) :
    ∀ c ∈ furtherNumbers mark base ns, P c := by
  intro c hc
  obtain ⟨n, -, hn⟩ := List.mem_flatMap.mp hc
  rcases List.mem_cons.mp hn with rfl | hn
  · exact hmark
  · exact forall_mem_numeral hbase n hdigit c hn

lemma forall_mem_intercalate (hbase : 1 < base) (hmark : P mark)
    (hdigit : ∀ d < base, P (digitChar d)) (ns : List Nat) :
    ∀ c ∈ [mark].intercalate (ns.map (numeral base)), P c := by
  cases ns with
  | nil => exact nofun
  | cons n ns =>
    intro c hc
    rw [intercalate_cons] at hc
    rcases List.mem_append.mp hc with hc | hc
    · exact forall_mem_numeral hbase n hdigit c hc
    · exact forall_mem_furtherNumbers hbase hmark hdigit ns c hc

end

/-! ### Dotted quads -/

lemma octets_eq (bits : BitVec 32) : ∃ a b c d, octets bits = [a, b, c, d] := ⟨_, _, _, _, rfl⟩

lemma ofDigits_octets (bits : BitVec 32) : ofDigits 256 (octets bits) = bits.toNat := by
  rw [octets, ofDigits_lowDigits]
  exact Nat.mod_eq_of_lt bits.isLt

lemma ofOctets_octets (bits : BitVec 32) : ofOctets (octets bits) = bits := by
  rw [ofOctets, ofDigits_octets, BitVec.ofNat_toNat, BitVec.setWidth_eq]

lemma readOctet_numeral {n : Nat} (hn : n < 256) (hrest : EndsNumber 10 rest) :
    readOctet (numeral 10 n ++ rest) = some (n, rest) := by
  have hread : readShortNumber 10 3 (numeral 10 n ++ rest) = some (n, rest) :=
    readShortNumber_numeral (by decide) (by decide) (by decide) (by omega) hrest
  rw [readOctet, hread, Option.bind_eq_bind, Option.bind_some,
    takeWhile_numeral (by decide) (by decide) n hrest, isPadded_numeral (by decide) (by decide)]
  simp [Nat.not_lt.mpr (Nat.le_of_lt_succ hn)]

lemma endsNumber_dot (rest : List Char) : EndsNumber 10 ('.' :: rest) := endsNumber_cons rfl rest

/-- A dotted quad is read back, if no digit stands behind it. -/
lemma readQuad_dotted {a b c d : Nat} (hlt : ∀ n ∈ [a, b, c, d], n < 256)
    (hrest : EndsNumber 10 rest) :
    readQuad (dotted [a, b, c, d] ++ rest) = some ([a, b, c, d], rest) := by
  have hsplit : dotted [a, b, c, d] ++ rest = numeral 10 a ++ '.' :: (numeral 10 b ++
      '.' :: (numeral 10 c ++ '.' :: (numeral 10 d ++ rest))) := by
    rw [dotted, intercalate_cons]
    simp [furtherNumbers]
  have ha := readOctet_numeral (hlt a (by simp)) (endsNumber_dot (numeral 10 b ++
    '.' :: (numeral 10 c ++ '.' :: (numeral 10 d ++ rest))))
  have hb := readOctet_numeral (hlt b (by simp)) (endsNumber_dot (numeral 10 c ++
    '.' :: (numeral 10 d ++ rest)))
  have hc := readOctet_numeral (hlt c (by simp)) (endsNumber_dot (numeral 10 d ++ rest))
  have hd := readOctet_numeral (hlt d (by simp)) hrest
  rw [hsplit]
  simp [readQuad, ha, hb, hc, hd, readChar]

lemma readQuad_octets (bits : BitVec 32) (hrest : EndsNumber 10 rest) :
    readQuad (dotted (octets bits) ++ rest) = some (octets bits, rest) := by
  have hlt : ∀ n ∈ octets bits, n < 256 := lt_of_mem_lowDigits (by decide) 4 bits.toNat
  obtain ⟨a, b, c, d, he⟩ := octets_eq bits
  rw [he] at hlt ⊢
  exact readQuad_dotted hlt hrest

lemma readQuad_octets_nil (bits : BitVec 32) :
    readQuad (dotted (octets bits)) = some (octets bits, []) := by
  have hread := readQuad_octets bits (endsNumber_nil 10)
  rwa [List.append_nil] at hread

lemma readQuad_eq_none_of_ends (hrest : EndsNumber 10 rest) : readQuad rest = none := by
  have hnone : readOctet rest = none := by
    rw [readOctet, readShortNumber_eq_none hrest]
    rfl
  rw [readQuad, hnone]
  rfl

lemma readChar_eq_none {c : Char} {cs : List Char} (h : c ∉ cs) : readChar c cs = none := by
  cases cs with
  | nil => rfl
  | cons d rest =>
    refine if_neg fun he => h ?_
    rw [he]
    exact List.mem_cons_self

lemma mem_of_readOctet {cs : List Char} {number : Nat × List Char} {c : Char}
    (h : readOctet cs = some number) (hc : c ∈ number.2) : c ∈ cs := by
  obtain ⟨⟨n, rest⟩, hread, h⟩ := Option.bind_eq_some_iff.mp h
  cases (Option.ite_none_left_eq_some.mp h).2
  rw [readShortNumber] at hread
  obtain ⟨-, hread⟩ := Option.ite_none_left_eq_some.mp hread
  exact mem_of_readNumber hread hc

/-- There is no quad without a dot. -/
lemma readQuad_eq_none_of_not_mem {cs : List Char} (h : '.' ∉ cs) : readQuad cs = none := by
  rw [readQuad]
  cases ho : readOctet cs with
  | none => rfl
  | some number =>
    have hdot := readChar_eq_none fun hm => h (mem_of_readOctet ho hm)
    simp [hdot]

/-! ### Groups -/

lemma ofDigits_groups (bits : BitVec 128) : ofDigits 65536 (groups bits) = bits.toNat := by
  rw [groups, ofDigits_lowDigits]
  exact Nat.mod_eq_of_lt bits.isLt

lemma ofGroups_groups (bits : BitVec 128) : ofGroups (groups bits) = bits := by
  rw [ofGroups, ofDigits_groups, BitVec.ofNat_toNat, BitVec.setWidth_eq]

lemma length_groups (bits : BitVec 128) : (groups bits).length = 8 := length_lowDigits _ _ _

/-- Groups that follow another one, each behind its colon. -/
abbrev furtherGroups (gs : List Nat) : List Char := furtherNumbers ':' 16 gs

lemma coloned_cons (g : Nat) (gs : List Nat) :
    coloned (g :: gs) = numeral 16 g ++ furtherGroups gs := intercalate_cons ':' 16 g gs

section Characters

variable {P : Char → Prop} (hdigit : ∀ d < 16, P (digitChar d)) (hcolon : P ':')

include hdigit

lemma forall_mem_dotted (hdot : P '.') (os : List Nat) : ∀ c ∈ dotted os, P c :=
  forall_mem_intercalate (by decide) hdot (fun d hd => hdigit d (by omega)) os

include hcolon

lemma forall_mem_coloned (gs : List Nat) : ∀ c ∈ coloned gs, P c :=
  forall_mem_intercalate (by decide) hcolon hdigit gs

lemma forall_mem_groupText (gs : List Nat) : ∀ c ∈ groupText gs, P c := by
  have hgroups := forall_mem_coloned hdigit hcolon
  rw [groupText]
  generalize longestZeroRun gs = run
  simp only
  split
  · exact hgroups gs
  · simp only [List.forall_mem_append]
    exact ⟨⟨hgroups _, by simpa using hcolon⟩, hgroups _⟩

/-- An address is written with hexadecimal digits, colons and dots. -/
lemma forall_mem_toChars (hdot : P '.') (ip : Ip) : ∀ c ∈ ip.toChars, P c := by
  have hquad := forall_mem_dotted hdigit hdot
  cases ip with
  | v4 bits => exact hquad _
  | v6 bits =>
    rw [toChars]
    split
    · have hhead : "::ffff:".toList = [':', ':'] ++ List.replicate 4 (digitChar 15) ++ [':'] := by
        decide
      have hletter := hdigit 15 (by decide)
      rw [hhead]
      simp only [List.forall_mem_append]
      exact ⟨⟨⟨by simpa using hcolon, by simpa using hletter⟩, by simpa using hcolon⟩, hquad _⟩
    · exact forall_mem_groupText hdigit hcolon _

end Characters

lemma digitChar_ne_dot : ∀ d < 16, digitChar d ≠ '.' := by decide

lemma readQuad_group (g : Nat) (gs : List Nat) (hdot : '.' ∉ rest) :
    readQuad (numeral 16 g ++ (furtherGroups gs ++ rest)) = none := by
  refine readQuad_eq_none_of_not_mem fun hm => ?_
  rcases List.mem_append.mp hm with hm | hm
  · exact forall_mem_numeral (P := (· ≠ '.')) (by decide) g digitChar_ne_dot '.' hm rfl
  · rcases List.mem_append.mp hm with hm | hm
    · exact forall_mem_furtherNumbers (P := (· ≠ '.')) (by decide) (by decide) digitChar_ne_dot gs
        '.' hm rfl
    · exact hdot hm

lemma dot_not_mem_coloned (gs : List Nat) : '.' ∉ coloned gs := fun hm =>
  forall_mem_coloned (P := (· ≠ '.')) digitChar_ne_dot (by decide) gs '.' hm rfl

lemma dot_not_mem_groupText (gs : List Nat) : '.' ∉ groupText gs := fun hm =>
  forall_mem_groupText (P := (· ≠ '.')) digitChar_ne_dot (by decide) gs '.' hm rfl

/-- Where a run of groups ends: at the end of the text, or at a double colon. -/
def EndsGroups (rest : List Char) : Prop := rest = [] ∨ ∃ more, rest = ':' :: ':' :: more

lemma endsNumber_colon (base : Nat) (rest : List Char) : EndsNumber base (':' :: rest) :=
  endsNumber_cons rfl rest

lemma endsNumber_furtherGroups (gs : List Nat) (hrest : EndsGroups rest) :
    EndsNumber 16 (furtherGroups gs ++ rest) := by
  cases gs with
  | nil =>
    rcases hrest with rfl | ⟨more, rfl⟩
    · exact endsNumber_nil 16
    · exact endsNumber_colon 16 _
  | cons g gs => exact endsNumber_colon 16 _

lemma readGroup_numeral {g : Nat} (hg : g < 65536) (gs : List Nat) (hrest : EndsGroups rest) :
    readShortNumber 16 4 (numeral 16 g ++ (furtherGroups gs ++ rest)) =
      some (g, furtherGroups gs ++ rest) :=
  readShortNumber_numeral (by decide) (by decide) (by decide) hg (endsNumber_furtherGroups gs hrest)

/-- No number begins where the groups end, with or without a colon before it. -/
lemma endsNumber_afterColon (base : Nat) {first : Bool} {inner : List Char}
    (hrest : EndsGroups rest) (h : afterColon first rest = some inner) : EndsNumber base inner := by
  rcases hrest with rfl | ⟨more, rfl⟩
  · cases first with
    | true =>
      cases h
      exact endsNumber_nil base
    | false => cases h
  · cases first with
    | true =>
      cases h
      exact endsNumber_colon base _
    | false =>
      cases h
      exact endsNumber_colon base _

lemma readGroups_ends (first : Bool) (limit : Nat) (hrest : EndsGroups rest) :
    readGroups first limit rest = ⟨[], false, rest⟩ := by
  have hgroup : afterColon first rest >>= readShortNumber 16 4 = none :=
    Option.bind_eq_none_iff.mpr fun _ h =>
      readShortNumber_eq_none (endsNumber_afterColon 16 hrest h) 4
  have hquad : afterColon first rest >>= readQuad = none :=
    Option.bind_eq_none_iff.mpr fun _ h =>
      readQuad_eq_none_of_ends (endsNumber_afterColon 10 hrest h)
  cases limit with
  | zero => rfl
  | succ limit => simp [readGroups, hgroup, hquad]

/-- One group is read, where there is no quad. -/
lemma readGroups_succ {first : Bool} {limit g : Nat} {cs inner others : List Char}
    (hcolon : afterColon first cs = some inner) (hquad : readQuad inner = none)
    (hread : readShortNumber 16 4 inner = some (g, others)) :
    readGroups first (limit + 1) cs =
      { readGroups false limit others with
        groups := g :: (readGroups false limit others).groups } := by
  simp [readGroups, hcolon, hread, hquad]

lemma readGroups_furtherGroups (gs : List Nat) {limit : Nat} (hlength : gs.length ≤ limit)
    (hlt : ∀ g ∈ gs, g < 65536) (hrest : EndsGroups rest) (hdot : '.' ∉ rest) :
    readGroups false limit (furtherGroups gs ++ rest) = ⟨gs, false, rest⟩ := by
  induction gs generalizing limit with
  | nil => exact readGroups_ends false limit hrest
  | cons g gs ih =>
    obtain ⟨fewer, rfl⟩ : ∃ fewer, limit = fewer + 1 :=
      Nat.exists_eq_succ_of_ne_zero fun h => by simp [h] at hlength
    obtain ⟨hg, hgs⟩ := List.forall_mem_cons.mp hlt
    have hquad := readQuad_group g gs hdot
    have hcs : furtherGroups (g :: gs) ++ rest =
        ':' :: (numeral 16 g ++ (furtherGroups gs ++ rest)) := by
      simp [furtherNumbers]
    rw [hcs, readGroups_succ rfl hquad (readGroup_numeral hg gs hrest),
      ih (Nat.le_of_succ_le_succ hlength) hgs]

/-- Groups in a row are read back up to the end of the text or a double colon. -/
lemma readGroups_coloned (gs : List Nat) (limit : Nat) (hlength : gs.length ≤ limit)
    (hlt : ∀ g ∈ gs, g < 65536) (hrest : EndsGroups rest) (hdot : '.' ∉ rest) :
    readGroups true limit (coloned gs ++ rest) = ⟨gs, false, rest⟩ := by
  cases gs with
  | nil => exact readGroups_ends true limit hrest
  | cons g gs =>
    obtain ⟨fewer, rfl⟩ : ∃ fewer, limit = fewer + 1 :=
      Nat.exists_eq_succ_of_ne_zero fun h => by simp [h] at hlength
    obtain ⟨hg, hgs⟩ := List.forall_mem_cons.mp hlt
    have hquad := readQuad_group g gs hdot
    rw [coloned_cons, List.append_assoc, readGroups_succ rfl hquad
      (readGroup_numeral hg gs hrest),
      readGroups_furtherGroups gs (Nat.le_of_succ_le_succ hlength) hgs hrest hdot]

lemma readGroups_coloned_nil (gs : List Nat) (limit : Nat) (hlength : gs.length ≤ limit)
    (hlt : ∀ g ∈ gs, g < 65536) : readGroups true limit (coloned gs) = ⟨gs, false, []⟩ := by
  have hread := readGroups_coloned gs limit hlength hlt (.inl rfl) List.not_mem_nil
  rwa [List.append_nil] at hread

/-! ### Runs of zeros -/

lemma leadingZeros_append (gs : List Nat) :
    List.replicate (gs.takeWhile (· == 0)).length 0 ++ gs.drop (gs.takeWhile (· == 0)).length =
      gs := by
  induction gs with
  | nil => rfl
  | cons g gs ih =>
    by_cases hg : g = 0
    · subst hg
      rw [List.takeWhile_cons_of_pos rfl, List.length_cons, List.replicate_succ, List.drop_succ_cons,
        List.cons_append, ih]
    · rw [List.takeWhile_cons_of_neg (by simpa using hg)]
      rfl

/-- The longest run of zeros lies within the groups, and it has zeros only. -/
lemma longestZeroRun_spec (gs : List Nat) :
    (longestZeroRun gs).1 + (longestZeroRun gs).2 ≤ gs.length ∧
    gs.take (longestZeroRun gs).1 ++ List.replicate (longestZeroRun gs).2 0 ++
      gs.drop ((longestZeroRun gs).1 + (longestZeroRun gs).2) = gs := by
  induction gs with
  | nil => exact ⟨Nat.le_refl _, rfl⟩
  | cons g gs ih =>
    obtain ⟨hle, he⟩ := ih
    have hrun : longestZeroRun (g :: gs) =
        if (longestZeroRun gs).2 ≤ ((g :: gs).takeWhile (· == 0)).length then
          (0, ((g :: gs).takeWhile (· == 0)).length)
        else ((longestZeroRun gs).1 + 1, (longestZeroRun gs).2) := rfl
    rw [hrun]
    split
    · have hzeros := leadingZeros_append (g :: gs)
      refine ⟨?_, by simpa using hzeros⟩
      simpa using (List.takeWhile_prefix (· == 0) (l := g :: gs)).length_le
    · rw [Nat.add_right_comm, List.take_succ_cons, List.drop_succ_cons, List.cons_append,
        List.cons_append, he, List.length_cons]
      exact ⟨Nat.succ_le_succ hle, rfl⟩

/-! ### IPv6 addresses -/

lemma readV6_coloned {gs : List Nat} (hlength : gs.length = 8) (hlt : ∀ g ∈ gs, g < 65536) :
    readV6 (coloned gs) = some (ofGroups gs, []) := by
  rw [readV6, readGroups_coloned_nil gs 8 (Nat.le_of_eq hlength) hlt]
  exact if_pos hlength

/-- What is left out at a double colon is read back as zeros. -/
lemma readV6_leftOut {front back : List Nat} {zeros : Nat}
    (hlength : front.length + zeros + back.length = 8) (hzeros : 0 < zeros)
    (hfront : ∀ g ∈ front, g < 65536) (hback : ∀ g ∈ back, g < 65536) :
    readV6 (coloned front ++ [':', ':'] ++ coloned back) =
      some (ofGroups (front ++ List.replicate zeros 0 ++ back), []) := by
  have hdot : '.' ∉ ':' :: ':' :: coloned back := by simp [dot_not_mem_coloned]
  have hhead := readGroups_coloned front 8 (by omega) hfront (.inr ⟨_, rfl⟩) hdot
  have htail := readGroups_coloned_nil back (7 - front.length) (by omega) hback
  have hne : front.length ≠ 8 := by omega
  have hmissing : 8 - front.length - back.length = zeros := by omega
  rw [readV6, List.append_assoc, List.cons_append, List.cons_append, List.nil_append, hhead]
  simp [hne, readChar, htail, hmissing]

/-- Eight groups are read back. -/
theorem readV6_groupText {gs : List Nat} (hlength : gs.length = 8) (hlt : ∀ g ∈ gs, g < 65536) :
    readV6 (groupText gs) = some (ofGroups gs, []) := by
  have hrun := longestZeroRun_spec gs
  rw [groupText]
  generalize longestZeroRun gs = run at hrun ⊢
  obtain ⟨start, length⟩ := run
  obtain ⟨hle, he⟩ := hrun
  simp only at hle he ⊢
  split
  · exact readV6_coloned hlength hlt
  · have hsum : (gs.take start).length + length + (gs.drop (start + length)).length = 8 := by
      rw [List.length_take, List.length_drop]
      omega
    rw [readV6_leftOut hsum (by omega) (fun g hg => hlt g (List.mem_of_mem_take hg))
      (fun g hg => hlt g (List.mem_of_mem_drop hg)), he]

/-! ### Mapped addresses -/

/-- The octets at the end of a mapped address are read as its last two groups. -/
lemma readGroups_mapped (inner : BitVec 32) :
    readGroups true 7 ('f' :: 'f' :: 'f' :: 'f' :: ':' :: dotted (octets inner)) =
      ⟨0xffff :: lowDigits 65536 2 inner.toNat, true, []⟩ := by
  have hnone : readQuad ('f' :: 'f' :: 'f' :: 'f' :: ':' :: dotted (octets inner)) = none :=
    readQuad_eq_none_of_ends (endsNumber_cons (by decide) _)
  have hgroup : readShortNumber 16 4 ('f' :: 'f' :: 'f' :: 'f' :: ':' :: dotted (octets inner)) =
      some (0xffff, ':' :: dotted (octets inner)) := rfl
  have hquad := readQuad_octets_nil inner
  rw [readGroups_succ rfl hnone hgroup]
  simp [readGroups, afterColon, readChar, hquad, ofDigits_octets]

lemma ofGroups_mapped (inner : BitVec 32) :
    ofGroups (List.replicate 5 0 ++ 0xffff :: lowDigits 65536 2 inner.toNat) = mapped inner := by
  have hsplit : List.replicate 5 0 ++ 0xffff :: lowDigits 65536 2 inner.toNat =
      [0, 0, 0, 0, 0, 0xffff] ++ lowDigits 65536 2 inner.toNat := rfl
  have hvalue : ofDigits 65536 [0, 0, 0, 0, 0, 0xffff] = 0xffff := rfl
  have hlow : inner.toNat % 65536 ^ 2 = inner.toNat := Nat.mod_eq_of_lt inner.isLt
  have hlt : 0xffff * 65536 ^ 2 + inner.toNat < 2 ^ 128 := by
    have := inner.isLt
    omega
  rw [ofGroups, hsplit, ofDigits_append, hvalue, ofDigits_lowDigits, length_lowDigits, hlow,
    ← BitVec.toNat_inj, toNat_mapped, BitVec.toNat_ofNat, Nat.mod_eq_of_lt hlt]
  norm_num

lemma readV6_mapped (inner : BitVec 32) :
    readV6 ("::ffff:".toList ++ dotted (octets inner)) = some (mapped inner, []) := by
  have hhead : readGroups true 8 ("::ffff:".toList ++ dotted (octets inner)) =
      ⟨[], false, "::ffff:".toList ++ dotted (octets inner)⟩ :=
    readGroups_ends true 8 (.inr ⟨_, rfl⟩)
  have htail := readGroups_mapped inner
  have hvalue := ofGroups_mapped inner
  rw [readV6, hhead]
  simpa [readChar, htail] using hvalue

/-! ### Addresses -/

/-- An address is read back from its text. -/
theorem ofChars?_toChars (ip : Ip) : ofChars? ip.toChars = some ip := by
  cases ip with
  | v4 bits =>
    rw [toChars, ofChars?, readQuad_octets_nil]
    simp [ofOctets_octets]
  | v6 bits =>
    rw [toChars]
    cases hm : mapped? bits with
    | some inner =>
      have hquad : readQuad ("::ffff:".toList ++ dotted (octets inner)) = none :=
        readQuad_eq_none_of_ends (endsNumber_colon 10 _)
      simp only
      rw [ofChars?, hquad, readV6_mapped, mapped?_eq_some_iff.mp hm]
    | none =>
      have hquad := readQuad_eq_none_of_not_mem (dot_not_mem_groupText (groups bits))
      simp only
      rw [ofChars?, hquad, readV6_groupText (length_groups bits)
        (lt_of_mem_lowDigits (by decide) 8 bits.toNat), ofGroups_groups]

end MeshRouting.Ip
