import Mathlib.Algebra.Order.Ring.Int

/-!
# Bytes of packets

Numbers in network and in little-endian order, and the Internet checksum: the complement of the one's complement sum of
the 16-bit words of a text.
-/

namespace Ngfw.Lib.Packet

def be16 (n : Nat) : List UInt8 :=
  [UInt8.ofNat (n / 256), UInt8.ofNat n]

def be32 (n : Nat) : List UInt8 :=
  [UInt8.ofNat (n / 16777216), UInt8.ofNat (n / 65536), UInt8.ofNat (n / 256), UInt8.ofNat n]

def le16 (n : Nat) : List UInt8 :=
  (be16 n).reverse

def le32 (n : Nat) : List UInt8 :=
  (be32 n).reverse

def beValue (bytes : List UInt8) : Nat :=
  bytes.foldl (fun value byte => value * 256 + byte.toNat) 0

theorem beValue_be16 {n : Nat} (fits : n < 2 ^ 16) : beValue (be16 n) = n := by
  simp only [beValue, be16, List.foldl_cons, List.foldl_nil, UInt8.toNat_ofNat']
  omega

theorem beValue_be32 {n : Nat} (fits : n < 2 ^ 32) : beValue (be32 n) = n := by
  simp only [beValue, be32, List.foldl_cons, List.foldl_nil, UInt8.toNat_ofNat']
  omega

/-! ## The Internet checksum -/

def addWords : Nat → List UInt8 → Nat
  | sum, [] => sum
  | sum, [high] => (sum + high.toNat * 256) % 2 ^ 32
  | sum, high :: low :: rest => addWords ((sum + (high.toNat * 256 + low.toNat)) % 2 ^ 32) rest

def foldCarries (sum : Nat) : Nat :=
  if sum / 65536 = 0 then sum else foldCarries (sum % 65536 + sum / 65536)
termination_by sum
decreasing_by omega

def checksum (data : List UInt8) : UInt16 :=
  ~~~(UInt16.ofNat (foldCarries (addWords 0 data)))

def wordTotal : List UInt8 → Nat
  | [] => 0
  | [high] => high.toNat * 256
  | high :: low :: rest => high.toNat * 256 + low.toNat + wordTotal rest

theorem wordTotal_le (data : List UInt8) : wordTotal data ≤ data.length * 65535 := by
  induction data using wordTotal.induct with
  | case1 => simp [wordTotal]
  | case2 high =>
    have small := high.toNat_lt
    simp only [wordTotal, List.length_singleton]
    omega
  | case3 high low rest ih =>
    have small := high.toNat_lt
    have smallToo := low.toNat_lt
    simp only [wordTotal, List.length_cons]
    omega

theorem addWords_eq (data : List UInt8) (sum : Nat) (fits : sum + wordTotal data < 2 ^ 32) :
    addWords sum data = sum + wordTotal data := by
  induction data using wordTotal.induct generalizing sum with
  | case1 => rfl
  | case2 high =>
    simp only [wordTotal] at fits
    rw [addWords, Nat.mod_eq_of_lt fits, wordTotal]
  | case3 high low rest ih =>
    simp only [wordTotal] at fits
    have regroup := Nat.add_assoc sum (high.toNat * 256 + low.toNat) (wordTotal rest)
    rw [← regroup] at fits
    rw [addWords, Nat.mod_eq_of_lt (Nat.lt_of_le_of_lt (Nat.le_add_right _ _) fits), ih _ fits, wordTotal, regroup]

theorem wordTotal_append {before : List UInt8} (even : before.length % 2 = 0) (after : List UInt8) :
    wordTotal (before ++ after) = wordTotal before + wordTotal after := by
  induction before using wordTotal.induct with
  | case1 => simp [wordTotal]
  | case2 high => simp at even
  | case3 high low rest ih =>
    have evenRest : rest.length % 2 = 0 := by
      simp only [List.length_cons] at even
      omega
    simp only [List.cons_append, wordTotal, ih evenRest]
    omega

theorem foldCarries_spec (sum : Nat) :
    foldCarries sum < 65536 ∧ foldCarries sum % 65535 = sum % 65535 ∧ (sum ≠ 0 → foldCarries sum ≠ 0) ∧
      foldCarries sum ≤ sum := by
  induction sum using foldCarries.induct with
  | case1 sum small =>
    rw [foldCarries, if_pos small]
    omega
  | case2 sum large ih =>
    rw [foldCarries, if_neg large]
    omega

theorem toNat_checksum (data : List UInt8) (fits : wordTotal data < 2 ^ 32) :
    (checksum data).toNat = 65535 - foldCarries (wordTotal data) := by
  have bound := (foldCarries_spec (wordTotal data)).1
  rw [checksum, addWords_eq data 0 (by omega), Nat.zero_add, UInt16.toNat_not, UInt16.toNat_ofNat_of_lt' bound]
  rfl

theorem checksum_verifies {before after : List UInt8} (even : before.length % 2 = 0)
    (short : before.length + after.length ≤ 65000) :
    checksum (before ++ be16 (checksum (before ++ be16 0 ++ after)).toNat ++ after) = 0 := by
  have totals : ∀ n < 65536, wordTotal (before ++ be16 n ++ after) = wordTotal before + n + wordTotal after := by
    intro n small
    rw [List.append_assoc, wordTotal_append even, wordTotal_append (by simp [be16])]
    simp only [be16, wordTotal, UInt8.toNat_ofNat']
    omega
  have low := wordTotal_le before
  have high := wordTotal_le after
  have bounded : wordTotal before + 65535 + wordTotal after < 2 ^ 32 := by omega
  have first := toNat_checksum (before ++ be16 0 ++ after) (by rw [totals 0 (by omega)]; omega)
  rw [totals 0 (by omega), Nat.add_zero] at first
  generalize checksum (before ++ be16 0 ++ after) = field at first ⊢
  obtain ⟨small, congruent, -, below⟩ := foldCarries_spec (wordTotal before + wordTotal after)
  have second := toNat_checksum (before ++ be16 field.toNat ++ after)
    (by rw [totals _ field.toNat_lt]; omega)
  rw [totals _ field.toNat_lt] at second
  obtain ⟨smallToo, congruentToo, positive, -⟩ :=
    foldCarries_spec (wordTotal before + field.toNat + wordTotal after)
  rw [← UInt16.toNat_inj, second]
  have full : foldCarries (wordTotal before + field.toNat + wordTotal after) = 65535 := by
    have nonzero := positive (by omega)
    omega
  rw [full]
  rfl

end Ngfw.Lib.Packet
