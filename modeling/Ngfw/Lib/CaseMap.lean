import Ngfw.Lib.Text

/-!
# Case mappings and normal forms

What a normal form that is written in lower case needs of the case mappings of Unicode, and text in that form.
-/

namespace Ngfw.Lib.Text

/-- The simple case mappings, with what Unicode says about them: lower case is final, no letter becomes white space, and
a character whose upper case is ASCII keeps it in lower case. -/
class UnicodeCaseMap extends CaseMap where
  lower_lower : ∀ c, lower (lower c) = lower c
  isSpace_lower : ∀ c, isSpace c = false → isSpace (lower c) = false
  upper_lower : ∀ c, (upper c).toNat < 128 → upper (lower c) = upper c

section
variable (c : Char) (values : List String)

theorem toLower_cases :
    (65 ≤ c.toNat ∧ c.toNat ≤ 90) ∧ c.toLower.toNat = c.toNat + 32 ∨
      ¬ (65 ≤ c.toNat ∧ c.toNat ≤ 90) ∧ c.toLower = c := by
  unfold Char.toLower
  split_ifs with upper
  · have low : 65 ≤ c.toNat := upper.1
    have high : c.toNat ≤ 90 := upper.2
    refine .inl ⟨⟨low, high⟩, ?_⟩
    change (c.val + 32).toNat = c.val.toNat + 32
    rw [UInt32.toNat_add]
    exact Nat.mod_eq_of_lt (by change c.toNat + 32 < _; omega)
  · exact .inr ⟨upper, rfl⟩

theorem toUpper_cases :
    (97 ≤ c.toNat ∧ c.toNat ≤ 122) ∧ c.toUpper.toNat + 32 = c.toNat ∨
      ¬ (97 ≤ c.toNat ∧ c.toNat ≤ 122) ∧ c.toUpper = c := by
  unfold Char.toUpper
  split_ifs with lower
  · have low : 97 ≤ c.toNat := lower.1
    have high : c.toNat ≤ 122 := lower.2
    refine .inl ⟨⟨low, high⟩, ?_⟩
    change (c.val + 4294967264).toNat + 32 = c.val.toNat
    rw [UInt32.toNat_add]
    change (c.toNat + 4294967264) % 4294967296 + 32 = c.toNat
    omega
  · exact .inr ⟨lower, rfl⟩

theorem toLower_idem : c.toLower.toLower = c.toLower := by
  rcases toLower_cases c with ⟨upper, value⟩ | ⟨-, same⟩
  · rcases toLower_cases c.toLower with ⟨again, -⟩ | ⟨-, same⟩
    · omega
    · exact same
  · rw [same, same]

theorem isSpace_toLower (plain : isSpace c = false) : isSpace c.toLower = false := by
  rcases toLower_cases c with ⟨upper, value⟩ | ⟨-, same⟩
  · simp only [isSpace, value]
    simp
    omega
  · rwa [same]

theorem toUpper_toLower : c.toLower.toUpper = c.toUpper := by
  rcases toLower_cases c with ⟨upper, value⟩ | ⟨-, same⟩
  · rcases toUpper_cases c.toLower with ⟨-, back⟩ | ⟨other, -⟩
    · rcases toUpper_cases c with ⟨lower, -⟩ | ⟨-, own⟩
      · omega
      · rw [own]
        exact Char.toNat_inj.mp (by omega)
    · omega
  · rw [same]

@[reducible] def asciiUnicodeCaseMap : UnicodeCaseMap where
  toCaseMap := asciiCaseMap
  lower_lower := toLower_idem
  isSpace_lower := isSpace_toLower
  upper_lower c _ := toUpper_toLower c

/-! ## Sorted text -/

theorem nodup_uniqueSorted : (uniqueSorted values).Nodup :=
  ((List.perm_insertionSort _ _).nodup_iff).mpr (List.nodup_dedup _)

theorem sorted_uniqueSorted : (uniqueSorted values).Pairwise (· ≤ ·) :=
  List.pairwise_insertionSort _ _

theorem uniqueSorted_uniqueSorted : uniqueSorted (uniqueSorted values) = uniqueSorted values := by
  have again : uniqueSorted (uniqueSorted values) = (uniqueSorted values).insertionSort (· ≤ ·) := by
    conv_lhs => rw [uniqueSorted, (nodup_uniqueSorted values).dedup]
  rw [again]
  exact (sorted_uniqueSorted values).insertionSort_eq

end

theorem trimList_eq_self_iff {s : List Char} :
    trimList s = s ↔ s.dropWhile isSpace = s ∧ s.reverse.dropWhile isSpace = s.reverse := by
  constructor
  · intro trimmed
    have front : s.dropWhile isSpace = s := by
      refine (List.dropWhile_suffix isSpace).eq_of_length (le_antisymm (List.dropWhile_suffix isSpace).length_le ?_)
      conv_lhs => rw [← trimmed, trimList, List.length_reverse]
      exact (List.dropWhile_suffix isSpace).length_le.trans_eq List.length_reverse
    refine ⟨front, ?_⟩
    rw [trimList, front] at trimmed
    exact List.reverse_eq_iff.mp trimmed
  · rintro ⟨front, back⟩
    rw [trimList, front, back, List.reverse_reverse]

section
variable [UnicodeCaseMap]

theorem toLower_toLower (s : String) : toLower (toLower s) = toLower s := by
  rw [toLower, toLower, String.toList_ofList, List.map_map]
  congr 1
  exact List.map_congr_left fun c _ => UnicodeCaseMap.lower_lower c

theorem dropWhile_map_lower {s : List Char} (kept : s.dropWhile isSpace = s) :
    (s.map CaseMap.lower).dropWhile isSpace = s.map CaseMap.lower := by
  rw [List.dropWhile_eq_self_iff] at kept ⊢
  intro nonempty
  rw [List.length_map] at nonempty
  have plain : isSpace s[0] = false := by simpa using kept nonempty
  simpa using UnicodeCaseMap.isSpace_lower _ plain

theorem trimList_map_lower {s : List Char} (trimmed : trimList s = s) :
    trimList (s.map CaseMap.lower) = s.map CaseMap.lower := by
  obtain ⟨front, back⟩ := trimList_eq_self_iff.mp trimmed
  refine trimList_eq_self_iff.mpr ⟨dropWhile_map_lower front, ?_⟩
  rw [← List.map_reverse]
  exact dropWhile_map_lower back

theorem trimSpace_toLower {s : String} (trimmed : trimSpace s = s) : trimSpace (toLower s) = toLower s := by
  have plain : trimList s.toList = s.toList := by
    have same := congrArg String.toList trimmed
    rwa [trimSpace, String.toList_ofList] at same
  rw [trimSpace, toLower, String.toList_ofList, trimList_map_lower plain]

end

end Ngfw.Lib.Text
