import Mathlib.Data.List.Infix

namespace GlideClient.Wire

abbrev Bytes := List UInt8

theorem toNat_toUInt8 {n : Nat} (h : n < 256) : n.toUInt8.toNat = n :=
  UInt8.toNat_ofNat_of_lt h

def writeVarint32 (val : Nat) : Bytes :=
  if val ≤ 127 then [val.toUInt8] else (val % 128 + 128).toUInt8 :: writeVarint32 (val / 128)
termination_by val
decreasing_by omega

def readVarint : Bytes → Option (Nat × Bytes)
  | [] => none
  | b :: rest =>
    if b.toNat < 128 then some (b.toNat,rest)
    else (readVarint rest).map fun (v,r) => (b.toNat % 128 + 128 * v,r)

theorem writeVarint32_small {val : Nat} (h : val ≤ 127) : writeVarint32 val = [val.toUInt8] := by
  rw [writeVarint32, if_pos h]

theorem writeVarint32_large {val : Nat} (h : ¬val ≤ 127) :
    writeVarint32 val = (val % 128 + 128).toUInt8 :: writeVarint32 (val / 128) := by
  rw [writeVarint32, if_neg h]

theorem readVarint_writeVarint32 (val : Nat) (rest : Bytes) :
    readVarint (writeVarint32 val ++ rest) = some (val,rest) := by
  induction val using Nat.strong_induction_on with
  | _ val ih =>
    by_cases h : val ≤ 127
    · rw [writeVarint32_small h]
      simp [readVarint, toNat_toUInt8 (show val < 256 by omega), show val < 128 by omega]
    · have hb : (val % 128 + 128).toUInt8.toNat = val % 128 + 128 := toNat_toUInt8 (by omega)
      rw [writeVarint32_large h, List.cons_append, readVarint, hb, if_neg (by omega),
        ih (val / 128) (by omega)]
      simp [Nat.mod_add_div]

theorem readVarint_strict_prefix {val : Nat} {p : Bytes} (hp : p <+: writeVarint32 val)
    (hne : p ≠ writeVarint32 val) : readVarint p = none := by
  induction val using Nat.strong_induction_on generalizing p with
  | _ val ih =>
    by_cases h : val ≤ 127
    · rw [writeVarint32_small h] at hp hne
      rcases List.prefix_cons_iff.mp hp with rfl | ⟨t,rfl,ht⟩
      · rfl
      · exact absurd (by simpa using ht) hne
    · rw [writeVarint32_large h] at hp hne
      rcases List.prefix_cons_iff.mp hp with rfl | ⟨t,rfl,ht⟩
      · rfl
      · have hb : (val % 128 + 128).toUInt8.toNat = val % 128 + 128 := toNat_toUInt8 (by omega)
        rw [readVarint, hb, if_neg (by omega), ih (val / 128) (by omega) ht (by simpa using hne)]
        rfl

theorem readVarint_shortens {buf rest : Bytes} {val : Nat} (h : readVarint buf = some (val,rest)) :
    rest.length < buf.length := by
  induction buf generalizing val with
  | nil => simp [readVarint] at h
  | cons b bs ih =>
    simp only [readVarint] at h
    split at h
    · simp only [Option.some.injEq, Prod.mk.injEq] at h
      simp [h.2]
    · obtain ⟨⟨v,r⟩,hr,he⟩ := Option.map_eq_some'.mp h
      simp only [Prod.mk.injEq] at he
      have := ih (he.2 ▸ hr)
      simp only [List.length_cons]
      omega

end GlideClient.Wire
