import Ngfw.Lib.Text

/-!
# Numerals

Reading a numeral that was written gives the number back, and a text put together from fields around a separator
splits into these fields.
-/

namespace Ngfw.Lib.Text

/-! ## Digits -/

section
variable {b : Nat} {read : Char → Option Nat}

def digitsValue (b : Nat) (read : Char → Option Nat) (s : List Char) : Nat :=
  (s.filterMap read).foldl (fun value d => value * b + d) 0

theorem read_toDigits (large : 1 < b) (inverse : ∀ d < b, read (Nat.digitChar d) = some d) (n : Nat) :
    digitsValue b read (Nat.toDigits b n) = n ∧ ∀ c ∈ Nat.toDigits b n, (read c).isSome := by
  induction n using Nat.strong_induction_on with
  | _ n ih =>
    by_cases small : n < b
    · rw [Nat.toDigits_of_lt_base small]
      simp [digitsValue, inverse n small]
    · have last : n % b < b := Nat.mod_lt _ (by omega)
      obtain ⟨value, readable⟩ := ih (n / b) (Nat.div_lt_self (by omega) large)
      rw [Nat.toDigits_of_base_le large (by omega)]
      constructor
      · have whole := Nat.div_add_mod' n b
        unfold digitsValue at value ⊢
        simp [inverse _ last, value, whole]
      · intro c member
        rcases List.mem_append.mp member with earlier | final
        · exact readable c earlier
        · rw [List.mem_singleton.mp final, inverse _ last]
          rfl

theorem foldlM_readable {s : List Char} (readable : ∀ c ∈ s, (read c).isSome) (start : Nat) :
    s.foldlM (fun value c => (read c).map (value * b + ·)) start =
      some ((s.filterMap read).foldl (fun value d => value * b + d) start) := by
  induction s generalizing start with
  | nil => rfl
  | cons c s ih =>
    obtain ⟨d, digit⟩ := Option.isSome_iff_exists.mp (readable c List.mem_cons_self)
    simp [digit, ih fun other member => readable other (List.mem_cons_of_mem _ member)]

end

theorem digit_digitChar : ∀ d < 10, digit (Nat.digitChar d) = some d := by
  decide

theorem digit_of_mem_decimal {n : Nat} {c : Char} (member : c ∈ Nat.toDigits 10 n) : (digit c).isSome :=
  (read_toDigits (by decide) digit_digitChar n).2 c member

theorem digits_toDigits (n : Nat) : digits (Nat.toDigits 10 n) = some n := by
  obtain ⟨value, readable⟩ := read_toDigits (by decide) digit_digitChar n
  have folded := foldlM_readable (b := 10) readable 0
  cases written : Nat.toDigits 10 n with
  | nil => exact absurd written Nat.toDigits_ne_nil
  | cons c rest =>
    rw [written] at folded value
    exact folded.trans (congrArg some value)

theorem head_toDigits {n : Nat} (positive : 0 < n) : (Nat.toDigits 10 n).head? ≠ some '0' := by
  have nonzero : ∀ d < 10, 0 < d → [Nat.digitChar d].head? ≠ some '0' := by decide
  induction n using Nat.strong_induction_on with
  | _ n ih =>
    by_cases small : n < 10
    · rw [Nat.toDigits_of_lt_base small]
      exact nonzero n small positive
    · rw [Nat.toDigits_of_base_le (by decide) (by omega), List.head?_append_of_ne_nil _ Nat.toDigits_ne_nil]
      exact ih _ (by omega) (by omega)

theorem no_leading_zero (n : Nat) : ¬ (1 < (Nat.toDigits 10 n).length ∧ (Nat.toDigits 10 n).head? = some '0') := by
  rintro ⟨long, zero⟩
  rcases Nat.eq_zero_or_pos n with rfl | positive
  · exact absurd long (by decide)
  · exact head_toDigits positive zero

theorem splitOn_of_notMem {separator : Char} {s : List Char} (absent : separator ∉ s) :
    splitOn separator s = [s] := by
  induction s with
  | nil => rfl
  | cons c s ih =>
    rw [List.mem_cons, not_or] at absent
    simp [splitOn, Ne.symm absent.1, ih absent.2]

theorem splitOn_append {separator : Char} {s : List Char} (absent : separator ∉ s) (rest : List Char) :
    splitOn separator (s ++ separator :: rest) = s :: splitOn separator rest := by
  induction s with
  | nil => simp [splitOn]
  | cons c s ih =>
    rw [List.mem_cons, not_or] at absent
    simp [splitOn, Ne.symm absent.1, ih absent.2]

end Ngfw.Lib.Text
