import Remap.Map.Vlq

/-!
# Quantities read back

What is written of a number is read as that number (`readFrom_writeNat`), and so is a
list of numbers (`read_write`): each number ends with a digit that no other follows, so
nothing has to stand between two of them. The text holds digits of the alphabet only,
which leaves commas and semicolons to what separates such texts.
-/

namespace Remap

namespace Base64

theorem value?_charOf {n : Nat} (h : n < 64) : value? (charOf n) = some n := by
  have hall : ∀ n < 64, value? (charOf n) = some n := by decide
  exact hall n h

theorem charOf_ne_separator {n : Nat} (h : n < 64) : charOf n ≠ ',' ∧ charOf n ≠ ';' := by
  have hall : ∀ n < 64, charOf n ≠ ',' ∧ charOf n ≠ ';' := by decide
  exact hall n h

end Base64

namespace Vlq

theorem signed_unsigned (n : Int) : signed (unsigned n) = n := by
  unfold signed unsigned
  by_cases h : n < 0
  · rw [if_pos h, if_pos (by omega)]
    omega
  · rw [if_neg h, if_neg (by omega)]
    omega

theorem digit_charOf {n : Nat} (h : n < 64) : digit (Base64.charOf n) = .ok n := by
  rw [digit, Base64.value?_charOf h]

/-- What is written of a number adds it, at the place value of its first digit, to what has
been read before. -/
theorem readFrom_writeNat (n current weight : Nat) (rest : List Char) :
    readFrom current weight (writeNat n ++ rest) =
      (readFrom 0 1 rest).map (signed (current + n * weight) :: ·) := by
  induction n using Nat.strongRecOn generalizing current weight with
  | ind n ih =>
      unfold writeNat
      by_cases hlast : n < 32
      · rw [if_pos hlast, List.singleton_append, readFrom, digit_charOf (by omega)]
        simp only [bind, Except.bind, pure, Except.pure, if_neg (Nat.not_le_of_lt hlast),
          Nat.mod_eq_of_lt hlast]
        cases readFrom 0 1 rest <;> rfl
      · rw [if_neg hlast, List.cons_append, readFrom, digit_charOf (by omega)]
        have hdigit : (32 + n % 32) % 32 = n % 32 := by omega
        have hsum : current + n % 32 * weight + n / 32 * (32 * weight) = current + n * weight := by
          calc current + n % 32 * weight + n / 32 * (32 * weight)
              = current + (32 * (n / 32) + n % 32) * weight := by
                rw [Nat.add_mul, Nat.mul_left_comm, Nat.mul_assoc]
                omega
            _ = current + n * weight := by rw [Nat.div_add_mod]
        simp only [bind, Except.bind, if_pos (Nat.le_add_right 32 (n % 32)), hdigit]
        rw [ih (n / 32) (by omega), hsum]

theorem read_write (numbers : List Int) : read (write numbers) = .ok numbers := by
  unfold read write
  induction numbers with
  | nil => rfl
  | cons n numbers ih =>
      rw [List.flatMap_cons, readFrom_writeNat, ih, Nat.zero_add, Nat.mul_one, signed_unsigned]
      rfl

theorem writeNat_ne_nil (n : Nat) : writeNat n ≠ [] := by
  unfold writeNat
  split
  · exact List.cons_ne_nil _ _
  · exact List.cons_ne_nil _ _

theorem write_ne_nil {numbers : List Int} (h : numbers ≠ []) : write numbers ≠ [] := by
  obtain ⟨n, numbers, rfl⟩ := List.exists_cons_of_ne_nil h
  unfold write
  rw [List.flatMap_cons]
  exact List.append_ne_nil_of_left_ne_nil (writeNat_ne_nil _) _

theorem ne_separator_of_mem_writeNat {n : Nat} {c : Char} (h : c ∈ writeNat n) :
    c ≠ ',' ∧ c ≠ ';' := by
  induction n using Nat.strongRecOn with
  | ind n ih =>
      unfold writeNat at h
      split at h
      · rw [List.mem_singleton.mp h]
        exact Base64.charOf_ne_separator (by omega)
      · rcases List.mem_cons.mp h with rfl | h
        · exact Base64.charOf_ne_separator (by omega)
        · exact ih (n / 32) (by omega) h

theorem ne_separator_of_mem_write {numbers : List Int} {c : Char} (h : c ∈ write numbers) :
    c ≠ ',' ∧ c ≠ ';' := by
  obtain ⟨n, -, hc⟩ := List.mem_flatMap.mp h
  exact ne_separator_of_mem_writeNat hc

end Vlq

end Remap
