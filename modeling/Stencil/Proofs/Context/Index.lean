import Stencil.Context.Found

/-!
# The keys of items

Each item of an array has exactly one key, its index as it is written in decimal digits (`index?_eq_some_iff`). The
digits of a key are read from the front, so what is carried along is the number that has been read so far.
-/

namespace Stencil

theorem digitChar_of_isDigit {c : Char} (h : c.isDigit = true) :
    c.toNat - '0'.toNat < 10 ∧ Nat.digitChar (c.toNat - '0'.toNat) = c := by
  have hzero : '0'.toNat = 48 := rfl
  have hrange : 48 ≤ c.toNat ∧ c.toNat ≤ 57 := by
    simp only [Char.isDigit, Bool.and_eq_true, decide_eq_true_eq] at h
    exact h
  have hlt : c.toNat - '0'.toNat < 10 := by omega
  refine ⟨hlt, Char.toNat_inj.mp ?_⟩
  rw [Nat.toNat_digitChar_of_lt_ten hlt]
  omega

/-- Digits behind those of a positive number are the digits of the number that they make together. -/
theorem toDigits_ofDigitChars_of_pos {digits : List Char} (h : ∀ c ∈ digits, c.isDigit = true) {n : Nat}
    (hn : 0 < n) : Nat.toDigits 10 (Nat.ofDigitChars 10 digits n) = Nat.toDigits 10 n ++ digits := by
  induction digits generalizing n with
  | nil => rw [Nat.ofDigitChars_nil, List.append_nil]
  | cons c digits ih =>
    obtain ⟨hlt, hchar⟩ := digitChar_of_isDigit (h c List.mem_cons_self)
    have hrest : ∀ d ∈ digits, d.isDigit = true := fun d hd => h d (List.mem_cons_of_mem c hd)
    have hpos : 0 < 10 * n + (c.toNat - '0'.toNat) := by omega
    have hdigit : Nat.toDigits 10 (10 * n + (c.toNat - '0'.toNat)) = Nat.toDigits 10 n ++ [c] := by
      rw [← Nat.toDigits_append_toDigits (by decide) hn hlt, Nat.toDigits_of_lt_base hlt, hchar]
    rw [Nat.ofDigitChars_cons, ih hrest hpos, hdigit, List.append_assoc, List.singleton_append]

/-- The digits of a key are those of the number that they are read as. -/
theorem toDigits_ofDigitChars {digits : List Char} (hne : digits ≠ []) (h : ∀ c ∈ digits, c.isDigit = true)
    (hhead : digits = ['0'] ∨ digits.head? ≠ some '0') :
    Nat.toDigits 10 (Nat.ofDigitChars 10 digits 0) = digits := by
  rcases hhead with rfl | hhead
  · rfl
  · cases digits with
    | nil => exact absurd rfl hne
    | cons c digits =>
      obtain ⟨hlt, hchar⟩ := digitChar_of_isDigit (h c List.mem_cons_self)
      have hrest : ∀ d ∈ digits, d.isDigit = true := fun d hd => h d (List.mem_cons_of_mem c hd)
      have hpos : 0 < c.toNat - '0'.toNat := by
        rw [Nat.pos_iff_ne_zero]
        intro hzero
        rw [hzero] at hchar
        exact hhead (congrArg some hchar.symm)
      rw [Nat.ofDigitChars_cons, Nat.mul_zero, Nat.zero_add, toDigits_ofDigitChars_of_pos hrest hpos,
        Nat.toDigits_of_lt_base hlt, hchar, List.singleton_append]

/-- No zero leads the digits of a positive number. -/
theorem head?_toDigits_ne {n : Nat} (h : 0 < n) : (Nat.toDigits 10 n).head? ≠ some '0' := by
  induction n using Nat.strongRecOn with
  | _ n ih =>
    by_cases hlt : n < 10
    · rw [Nat.toDigits_of_lt_base hlt, List.head?_cons]
      intro hzero
      have hchar : (Nat.digitChar n).toNat = '0'.toNat := congrArg Char.toNat (Option.some.inj hzero)
      rw [Nat.toNat_digitChar_of_lt_ten hlt] at hchar
      have hvalue : '0'.toNat = 48 := rfl
      omega
    · have hhead : (Nat.toDigits 10 (n / 10)).head? ≠ some '0' := ih (n / 10) (by omega) (by omega)
      rw [Nat.toDigits_of_base_le (by decide) (by omega), List.head?_append]
      rw [List.head?_eq_some_head Nat.toDigits_ne_nil] at hhead ⊢
      exact hhead

/-- Digits without a zero in front are exactly what numbers are written as. -/
theorem eq_toDigits_iff {digits : List Char} {n : Nat} :
    digits = Nat.toDigits 10 n ↔
      (digits ≠ [] ∧ digits.all Char.isDigit ∧ (digits = ['0'] ∨ digits.head? ≠ some '0')) ∧
        Nat.ofDigitChars 10 digits 0 = n := by
  constructor
  · rintro rfl
    have hdigits : (Nat.toDigits 10 n).all Char.isDigit = true :=
      List.all_eq_true.mpr fun c hc => Nat.isDigit_of_mem_toDigits (by decide) (by decide) hc
    have hhead : Nat.toDigits 10 n = ['0'] ∨ (Nat.toDigits 10 n).head? ≠ some '0' := by
      by_cases hzero : n = 0
      · rw [hzero]
        exact .inl (Nat.toDigits_zero 10)
      · exact .inr (head?_toDigits_ne (Nat.pos_of_ne_zero hzero))
    exact ⟨⟨Nat.toDigits_ne_nil, hdigits, hhead⟩, Nat.ofDigitChars_ten_toDigits⟩
  · rintro ⟨⟨hne, hdigits, hhead⟩, rfl⟩
    exact (toDigits_ofDigitChars hne (List.all_eq_true.mp hdigits) hhead).symm

theorem eq_repr_iff {key : String} {n : Nat} : key = n.repr ↔ key.toList = Nat.toDigits 10 n := by
  rw [← String.toList_inj, Nat.toList_repr]

/-- The keys that are decimal numbers: one digit or more, without a zero in front. -/
theorem exists_eq_repr_iff {key : String} :
    (∃ n : Nat, key = n.repr) ↔
      key ≠ "" ∧ (∀ c ∈ key.toList, c.isDigit = true) ∧ (key = "0" ∨ key.toList.head? ≠ some '0') := by
  have hempty : key = "" ↔ key.toList = [] := String.toList_eq_nil_iff.symm
  have hzero : key = "0" ↔ key.toList = ['0'] := String.toList_inj.symm
  simp only [eq_repr_iff, eq_toDigits_iff, hzero, ne_eq, hempty, List.all_eq_true, exists_and_left, exists_eq',
    and_true]

/-- The key of an item is its index in decimal digits, and nothing else is a key of that item. Indices are numbers that
64 bits hold. -/
theorem index?_eq_some_iff {key : String} {i : Nat} : index? key = some i ↔ i < UInt64.size ∧ key = i.repr := by
  rw [eq_repr_iff, eq_toDigits_iff]
  unfold index?
  simp only [Option.ite_none_right_eq_some, Option.some.injEq]
  constructor
  · rintro ⟨hdigits, hlt, rfl⟩
    exact ⟨hlt, hdigits, rfl⟩
  · rintro ⟨hlt, hdigits, rfl⟩
    exact ⟨hdigits, hlt, rfl⟩

end Stencil
