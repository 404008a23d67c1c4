import AgentOperator.Digest.Sha256

/-!
# Texts of digests

The text of a digest tells the digest: digits, bytes and words can each be read back, and
each of them is written at one length.  So two texts with one text of their digests have one
digest.
-/

namespace AgentOperator

theorem Text.hexDigit_injective {m n : Nat} (hm : m < 16) (hn : n < 16)
    (heq : hexDigit m = hexDigit n) : m = n := by
  have hall : ∀ i < 16, ∀ j < 16, hexDigit i = hexDigit j → i = j := by decide
  exact hall m hm n hn heq

namespace Digest

/-- Pieces of one length that can be told apart can be told apart in a row. -/
theorem flatMap_injective {α β : Type} {f : α → List β} {n : Nat} (hpositive : 0 < n)
    (hlength : ∀ x, (f x).length = n) (hf : ∀ x y, f x = f y → x = y) {xs ys : List α}
    (heq : xs.flatMap f = ys.flatMap f) : xs = ys := by
  have hne : ∀ x, f x ≠ [] := fun x =>
    List.ne_nil_of_length_pos ((hlength x).symm ▸ hpositive)
  induction xs generalizing ys with
  | nil =>
      cases ys with
      | nil => rfl
      | cons y ys => exact absurd (List.append_eq_nil_iff.mp heq.symm).1 (hne y)
  | cons x xs ih =>
      cases ys with
      | nil => exact absurd (List.append_eq_nil_iff.mp heq).1 (hne x)
      | cons y ys =>
          rw [List.flatMap_cons, List.flatMap_cons] at heq
          obtain ⟨hhead, htail⟩ := List.append_inj heq ((hlength x).trans (hlength y).symm)
          rw [hf x y hhead, ih htail]

theorem byteText_injective {a b : UInt8} (heq : byteText a = byteText b) : a = b := by
  have ha : a.toNat < 256 := a.toNat_lt
  have hb : b.toNat < 256 := b.toNat_lt
  simp only [byteText, List.cons.injEq, and_true] at heq
  have hhigh := Text.hexDigit_injective (by omega) (by omega) heq.1
  have hlow := Text.hexDigit_injective (by omega) (by omega) heq.2
  apply UInt8.toNat_inj.mp
  omega

theorem length_bigEndian (count n : Nat) : (bigEndian count n).length = count := by
  induction count with
  | zero => rfl
  | succ count ih => rw [bigEndian, List.length_cons, ih]

/-- The bytes of a number tell what is left of it below the power that they reach. -/
theorem mod_eq_of_bigEndian_eq {count m n : Nat} (heq : bigEndian count m = bigEndian count n) :
    m % Nat.pow 256 count = n % Nat.pow 256 count := by
  induction count with
  | zero =>
      show m % 1 = n % 1
      rw [Nat.mod_one, Nat.mod_one]
  | succ count ih =>
      simp only [bigEndian, List.cons.injEq] at heq
      have hhead : m / Nat.pow 256 count % 256 = n / Nat.pow 256 count % 256 := by
        simpa using congrArg UInt8.toNat heq.1
      have hpower : Nat.pow 256 (count + 1) = Nat.pow 256 count * 256 := rfl
      rw [hpower, Nat.mod_mul, Nat.mod_mul, ih heq.2, hhead]

theorem wordBytes_injective {a b : UInt32}
    (heq : bigEndian 4 a.toNat = bigEndian 4 b.toNat) : a = b := by
  have ha : a.toNat < Nat.pow 256 4 := a.toNat_lt
  have hb : b.toNat < Nat.pow 256 4 := b.toNat_lt
  have hmod := mod_eq_of_bigEndian_eq heq
  rw [Nat.mod_eq_of_lt ha, Nat.mod_eq_of_lt hb] at hmod
  exact UInt32.toNat_inj.mp hmod

theorem Words.toList_injective {v w : Words} (heq : v.toList = w.toList) : v = w := by
  obtain ⟨_, _, _, _, _, _, _, _⟩ := v
  obtain ⟨_, _, _, _, _, _, _, _⟩ := w
  simpa [Words.toList] using heq

/-- Texts whose digests have one text have one digest. -/
theorem sha256_eq_of_text_eq {s t : String} (heq : sha256Text s = sha256Text t) :
    sha256 s.toUTF8.toList = sha256 t.toUTF8.toList := by
  have hbytes : (sha256 s.toUTF8.toList).toList.flatMap (fun word => bigEndian 4 word.toNat) =
      (sha256 t.toUTF8.toList).toList.flatMap fun word => bigEndian 4 word.toNat :=
    flatMap_injective (n := 2) (by decide) (fun _ => rfl) (fun _ _ => byteText_injective)
      (String.ofList_injective heq)
  have hwords : (sha256 s.toUTF8.toList).toList = (sha256 t.toUTF8.toList).toList :=
    flatMap_injective (n := 4) (by decide) (fun _ => length_bigEndian 4 _)
      (fun _ _ => wordBytes_injective) hbytes
  exact Words.toList_injective hwords

/-- The bytes of an array from an index on, behind those that were listed before. -/
theorem toList_loop (bytes : ByteArray) {left i : Nat} (hleft : bytes.size - i = left)
    (listed : List UInt8) :
    ByteArray.toList.loop bytes i listed = listed.reverse ++ bytes.data.toList.drop i := by
  induction left generalizing i listed with
  | zero =>
      have hend : ¬ i < bytes.size := by omega
      have hdrop : bytes.data.toList.drop i = [] :=
        List.drop_eq_nil_of_le (Nat.not_lt.mp hend)
      rw [ByteArray.toList.loop, if_neg hend, hdrop, List.append_nil]
  | succ left ih =>
      have hsize : i < bytes.size := by omega
      have hlt : i < bytes.data.size := hsize
      have hbyte : bytes.get! i = bytes.data[i] := getElem!_pos bytes.data i hlt
      have hdrop : bytes.data.toList.drop i =
          bytes.get! i :: bytes.data.toList.drop (i + 1) := by
        rw [List.drop_eq_getElem_cons (show i < bytes.data.toList.length from hlt),
          Array.getElem_toList, hbyte]
      rw [ByteArray.toList.loop, if_pos hsize, ih (by omega), hdrop, List.reverse_cons,
        List.append_assoc]
      rfl

theorem bytes_injective {s t : String} (heq : s.toUTF8.toList = t.toUTF8.toList) : s = t := by
  have hlisted : ∀ bytes : ByteArray, bytes.toList = bytes.data.toList := fun bytes => by
    rw [ByteArray.toList, toList_loop bytes rfl]
    rfl
  rw [hlisted, hlisted] at heq
  exact String.toByteArray_inj.mp (ByteArray.ext (Array.toList_inj.mp heq))

end Digest

end AgentOperator
