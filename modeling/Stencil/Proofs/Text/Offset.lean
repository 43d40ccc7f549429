import Stencil.Text.Bytes
import Stencil.Text.Utf8

/-!
# Byte offsets and characters

The functions on byte offsets are related to the characters of a text. A cut (`Cut`) is an offset between the
characters before it and the characters after it; every search from a cut for an ASCII character, or over a
class of ASCII characters, ends at a cut again, so that the byte offsets disappear from later proofs.
-/

namespace Stencil.Text

/-- The bytes of a list of characters. -/
def bytesOf (cs : List Char) : List UInt8 :=
  cs.flatMap String.utf8EncodeChar

@[simp] theorem bytesOf_nil : bytesOf [] = [] := rfl

@[simp] theorem bytesOf_append (cs ds : List Char) : bytesOf (cs ++ ds) = bytesOf cs ++ bytesOf ds :=
  List.flatMap_append

theorem bytesOf_cons (c : Char) (cs : List Char) :
    bytesOf (c :: cs) = String.utf8EncodeChar c ++ bytesOf cs := rfl

theorem bytesOf_intercalate (sep : List Char) (parts : List (List Char)) :
    bytesOf (sep.intercalate parts) = (bytesOf sep).intercalate (parts.map bytesOf) := by
  induction parts with
  | nil => rfl
  | cons part rest ih =>
    cases rest with
    | nil => simp
    | cons next rest =>
      rw [List.map_cons] at ih
      rw [List.intercalate_cons_cons, bytesOf_append, bytesOf_append, ih, List.map_cons, List.map_cons,
        List.intercalate_cons_cons]

/-- Every character has a first byte. -/
theorem exists_utf8EncodeChar_eq_cons (c : Char) : ∃ b bs, String.utf8EncodeChar c = b :: bs := by
  refine List.exists_cons_of_ne_nil fun h => ?_
  have hlen := String.length_utf8EncodeChar c
  have hpos := c.utf8Size_pos
  rw [h, List.length_nil] at hlen
  omega

theorem bytesOf_eq_nil_iff {cs : List Char} : bytesOf cs = [] ↔ cs = [] := by
  constructor
  · intro h
    cases cs with
    | nil => rfl
    | cons c cs =>
      obtain ⟨b, bs, hbs⟩ := exists_utf8EncodeChar_eq_cons c
      rw [bytesOf_cons, hbs, List.cons_append] at h
      exact absurd h (List.cons_ne_nil _ _)
  · rintro rfl
    rfl

theorem toByteArray_toList (s : String) : s.toByteArray.data.toList = bytesOf s.toList := by
  rw [← String.utf8Encode_toList, List.utf8Encode]
  simp [bytesOf]

theorem utf8ByteSize_eq (s : String) : s.utf8ByteSize = (bytesOf s.toList).length := by
  rw [← toByteArray_toList, Array.length_toList]
  rfl

/-! ## Bytes of characters -/

/-- An ASCII character is a single byte. -/
theorem utf8EncodeChar_of_ascii {c : Char} (h : c.toNat < 128) : String.utf8EncodeChar c = [c.toUInt8] := by
  have hv : c.val.toNat ≤ 0x7f := by
    have : c.val.toNat = c.toNat := rfl
    omega
  unfold String.utf8EncodeChar
  simp only [if_pos hv]
  rfl

theorem bytesOf_of_ascii {cs : List Char} (h : ∀ c ∈ cs, c.toNat < 128) : bytesOf cs = cs.map Char.toUInt8 := by
  induction cs with
  | nil => rfl
  | cons c cs ih =>
    have hc : c.toNat < 128 := h c List.mem_cons_self
    have hcs := ih fun d hd => h d (List.mem_cons_of_mem _ hd)
    rw [bytesOf_cons, utf8EncodeChar_of_ascii hc, hcs, List.map_cons, List.singleton_append]

/-- No byte of any other character is the byte of an ASCII character. -/
theorem le_of_mem_utf8EncodeChar {c : Char} (h : 128 ≤ c.toNat) {b : UInt8}
    (hb : b ∈ String.utf8EncodeChar c) : 128 ≤ b.toNat := by
  have hvalid : c.toNat < 0xD800 ∨ 0xDFFF < c.toNat ∧ c.toNat < 0x110000 := c.valid
  have hv : c.val.toNat = c.toNat := rfl
  unfold String.utf8EncodeChar at hb
  simp only [hv] at hb
  generalize c.toNat = v at h hvalid hb
  rw [if_neg (by omega)] at hb
  split at hb
  · simp only [List.mem_cons, List.not_mem_nil, or_false] at hb
    rcases hb with rfl | rfl <;> rw [Utf8.toNat_ofNat (by omega)] <;> omega
  · split at hb
    · simp only [List.mem_cons, List.not_mem_nil, or_false] at hb
      rcases hb with rfl | rfl | rfl <;> rw [Utf8.toNat_ofNat (by omega)] <;> omega
    · simp only [List.mem_cons, List.not_mem_nil, or_false] at hb
      rcases hb with rfl | rfl | rfl | rfl <;> rw [Utf8.toNat_ofNat (by omega)] <;> omega

/-- The class `p` of bytes tells where a run of characters of the class `q` ends: the bytes of a character in
`q` are all in `p`, and the first byte of any other character is not. -/
structure Delimits (p : UInt8 → Bool) (q : Char → Bool) : Prop where
  inside : ∀ c, q c = true → ∀ b ∈ String.utf8EncodeChar c, p b = true
  outside : ∀ c, q c = false → ∃ b bs, String.utf8EncodeChar c = b :: bs ∧ p b = false

/-- A class that holds of an ASCII character's byte as of the character, and of no byte of other characters. -/
theorem Delimits.of_ascii {p : UInt8 → Bool} {q : Char → Bool}
    (hascii : ∀ c : Char, c.toNat < 128 → p c.toUInt8 = q c) (hq : ∀ c : Char, 128 ≤ c.toNat → q c = false)
    (hp : ∀ b : UInt8, 128 ≤ b.toNat → p b = false) : Delimits p q where
  inside := by
    intro c hc b hb
    by_cases h : c.toNat < 128
    · rw [utf8EncodeChar_of_ascii h, List.mem_singleton] at hb
      rw [hb, hascii c h, hc]
    · rw [hq c (by omega)] at hc
      exact absurd hc (by decide)
  outside := by
    intro c hc
    by_cases h : c.toNat < 128
    · exact ⟨c.toUInt8, [], utf8EncodeChar_of_ascii h, by rw [hascii c h, hc]⟩
    · obtain ⟨b, bs, hbs⟩ := exists_utf8EncodeChar_eq_cons c
      have hb : 128 ≤ b.toNat := le_of_mem_utf8EncodeChar (c := c) (by omega) (by simp [hbs])
      exact ⟨b, bs, hbs, hp b hb⟩

theorem toUInt8_toNat {c : Char} (h : c.toNat < 128) : c.toUInt8.toNat = c.toNat :=
  Utf8.toNat_ofNat (n := c.toNat) (by omega)

theorem isAlphanum_lt {c : Char} (h : c.isAlphanum = true) : c.toNat < 128 := by
  rcases Bool.or_eq_true_iff.mp h with halpha | hdigit
  · rcases Bool.or_eq_true_iff.mp halpha with hupper | hlower
    · have hle : c.toNat ≤ 'Z'.toNat := UInt32.le_iff_toNat_le.mp (of_decide_eq_true hupper).2
      exact Nat.lt_of_le_of_lt hle (by decide)
    · have hle : c.toNat ≤ 'z'.toNat :=
        UInt32.le_iff_toNat_le.mp (of_decide_eq_true (Bool.and_eq_true_iff.mp hlower).2)
      exact Nat.lt_of_le_of_lt hle (by decide)
  · exact Nat.lt_of_le_of_lt (Char.isDigit_iff_toNat.mp hdigit).2 (by decide)

theorem toNat_ofUInt8 (b : UInt8) : (Char.ofUInt8 b).toNat = b.toNat := UInt8.toNat_toUInt32 b

theorem ofUInt8_toUInt8 {c : Char} (h : c.toNat < 128) : Char.ofUInt8 c.toUInt8 = c := by
  have hn : (Char.ofUInt8 c.toUInt8).toNat = c.toNat := by rw [toNat_ofUInt8, toUInt8_toNat h]
  exact Char.ext (UInt32.toNat_inj.mp hn)

theorem toUInt8_ofUInt8 (b : UInt8) : (Char.ofUInt8 b).toUInt8 = b := by
  have hlt : (Char.ofUInt8 b).toNat < 256 := by
    rw [toNat_ofUInt8]
    exact b.toNat_lt
  have hn : (Char.ofUInt8 b).toUInt8.toNat = b.toNat := by
    rw [← toNat_ofUInt8 b]
    exact Utf8.toNat_ofNat hlt
  exact UInt8.toNat_inj.mp hn

theorem toUInt8_inj {c d : Char} (hc : c.toNat < 128) (hd : d.toNat < 128) :
    c.toUInt8 = d.toUInt8 ↔ c = d := by
  constructor
  · intro h
    have hn : c.toNat = d.toNat := by rw [← toUInt8_toNat hc, ← toUInt8_toNat hd, h]
    exact Char.ext (UInt32.toNat_inj.mp hn)
  · rintro rfl
    rfl

theorem mem_bytesOf_iff {c : Char} (hc : c.toNat < 128) {cs : List Char} :
    c.toUInt8 ∈ bytesOf cs ↔ c ∈ cs := by
  constructor
  · intro h
    obtain ⟨d, hd, hb⟩ := List.mem_flatMap.mp h
    by_cases hascii : d.toNat < 128
    · rw [utf8EncodeChar_of_ascii hascii, List.mem_singleton, toUInt8_inj hc hascii] at hb
      exact hb ▸ hd
    · have := le_of_mem_utf8EncodeChar (by omega) hb
      rw [toUInt8_toNat hc] at this
      omega
  · intro h
    exact List.mem_flatMap.mpr ⟨c, h, by rw [utf8EncodeChar_of_ascii hc]; exact List.mem_singleton_self _⟩

/-- Everything up to an ASCII character. -/
theorem Delimits.ne {c : Char} (hc : c.toNat < 128) : Delimits (· != c.toUInt8) (· != c) where
  inside := by
    intro d hd b hb
    by_cases h : d.toNat < 128
    · rw [utf8EncodeChar_of_ascii h, List.mem_singleton] at hb
      subst hb
      simpa [toUInt8_inj h hc] using hd
    · have hle : 128 ≤ b.toNat := le_of_mem_utf8EncodeChar (by omega) hb
      have hlt := toUInt8_toNat hc
      refine bne_iff_ne.mpr ?_
      rintro rfl
      omega
  outside := by
    intro d hd
    have hdc : d = c := by simpa using hd
    subst hdc
    exact ⟨d.toUInt8, [], utf8EncodeChar_of_ascii hc, by simp⟩

theorem takeWhile_bytesOf {p : UInt8 → Bool} {q : Char → Bool} (h : Delimits p q) (cs : List Char) :
    (bytesOf cs).takeWhile p = bytesOf (cs.takeWhile q) := by
  induction cs with
  | nil => rfl
  | cons c cs ih =>
    rw [bytesOf_cons]
    cases hc : q c with
    | true => rw [List.takeWhile_append_of_pos (h.inside c hc), ih, List.takeWhile_cons_of_pos hc, bytesOf_cons]
    | false =>
      obtain ⟨b, bs, hbs, hb⟩ := h.outside c hc
      rw [hbs, List.cons_append, List.takeWhile_cons_of_neg (by simp [hb]),
        List.takeWhile_cons_of_neg (by simp [hc]), bytesOf_nil]

/-! ## Searches over bytes -/

theorem drop_eq_getUTF8Byte_cons {s : String} {i : Nat} (h : i < s.utf8ByteSize) :
    (bytesOf s.toList).drop i = s.getUTF8Byte ⟨i⟩ h :: (bytesOf s.toList).drop (i + 1) := by
  have hlen : i < (bytesOf s.toList).length := by rw [← utf8ByteSize_eq]; exact h
  rw [List.drop_eq_getElem_cons hlen]
  congr 1
  simp only [← toByteArray_toList]
  rfl

theorem drop_eq_nil {s : String} {i : Nat} (h : ¬ i < s.utf8ByteSize) : (bytesOf s.toList).drop i = [] := by
  rw [List.drop_eq_nil_iff, ← utf8ByteSize_eq]
  omega

theorem byte?_eq (s : String) (i : Nat) : byte? s i = ((bytesOf s.toList).drop i).head? := by
  unfold byte?
  split
  · rename_i h
    rw [drop_eq_getUTF8Byte_cons h, List.head?_cons]
  · rename_i h
    rw [drop_eq_nil h, List.head?_nil]

theorem skipWhile_eq (s : String) (p : UInt8 → Bool) (i : Nat) :
    skipWhile s p i = i + (((bytesOf s.toList).drop i).takeWhile p).length := by
  fun_induction skipWhile s p i with
  | case1 i h hp ih =>
    rw [ih, drop_eq_getUTF8Byte_cons h, List.takeWhile_cons_of_pos hp, List.length_cons]
    omega
  | case2 i h hp =>
    rw [drop_eq_getUTF8Byte_cons h, List.takeWhile_cons_of_neg hp, List.length_nil]
    omega
  | case3 i h =>
    rw [drop_eq_nil h, List.takeWhile_nil, List.length_nil]
    omega

theorem findByte?_eq (s : String) (b : UInt8) (i : Nat) :
    findByte? s b i =
      if b ∈ (bytesOf s.toList).drop i then some (i + (((bytesOf s.toList).drop i).takeWhile (· != b)).length)
      else none := by
  fun_induction findByte? s b i with
  | case1 i h hb =>
    rw [drop_eq_getUTF8Byte_cons h, hb, if_pos List.mem_cons_self,
      List.takeWhile_cons_of_neg (by simp), List.length_nil]
    rfl
  | case2 i h hb ih =>
    rw [ih, drop_eq_getUTF8Byte_cons h, List.takeWhile_cons_of_pos (by simpa using hb), List.length_cons]
    have hmem : b ∈ s.getUTF8Byte ⟨i⟩ h :: (bytesOf s.toList).drop (i + 1) ↔
        b ∈ (bytesOf s.toList).drop (i + 1) := by
      rw [List.mem_cons]
      exact or_iff_right (Ne.symm hb)
    simp only [hmem, Nat.add_assoc, Nat.add_comm 1]
  | case3 i h => rw [drop_eq_nil h, if_neg List.not_mem_nil]

/-! ## Searches from different offsets -/

/-- A search that starts anywhere up to the place that was found ends at the same place. -/
theorem findByte?_of_le {s : String} {b : UInt8} {i j k : Nat} (h : findByte? s b i = some j) (hik : i ≤ k)
    (hkj : k ≤ j) : findByte? s b k = some j := by
  fun_induction findByte? s b i with
  | case1 i hi hb =>
    have hij : i = j := Option.some.inj h
    have hki : k = i := by omega
    rw [hki, findByte?, dif_pos hi, if_pos hb, hij]
  | case2 i hi hb ih =>
    rcases Nat.eq_or_lt_of_le hik with rfl | hlt
    · rw [findByte?, dif_pos hi, if_neg hb, h]
    · exact ih h hlt
  | case3 i hi => cases h

/-- A search that starts behind one that finds nothing finds nothing. -/
theorem findByte?_none_of_le {s : String} {b : UInt8} {i k : Nat} (h : findByte? s b i = none) (hik : i ≤ k) :
    findByte? s b k = none := by
  fun_induction findByte? s b i with
  | case1 i hi hb => cases h
  | case2 i hi hb ih =>
    rcases Nat.eq_or_lt_of_le hik with rfl | hlt
    · rw [findByte?, dif_pos hi, if_neg hb, h]
    · exact ih h hlt
  | case3 i hi => rw [findByte?, dif_neg (by omega)]

/-! ## Cuts -/

/-- Offset `i` of `s` lies between the characters `before` and the characters `after`. -/
structure Cut (s : String) (i : Nat) (before after : List Char) : Prop where
  toList_eq : s.toList = before ++ after
  offset_eq : i = (bytesOf before).length

/-- The boundaries of a text are its cuts. -/
theorem isBoundary_iff {s : String} {i : Nat} : IsBoundary s i ↔ ∃ before after, Cut s i before after := by
  unfold IsBoundary
  rw [String.Pos.Raw.isValid_iff_exists_append]
  constructor
  · rintro ⟨s₁, s₂, hs, hi⟩
    refine ⟨s₁.toList, s₂.toList, by rw [hs, String.toList_append], ?_⟩
    rw [← utf8ByteSize_eq]
    exact congrArg String.Pos.Raw.byteIdx hi
  · rintro ⟨before, after, h⟩
    refine ⟨String.ofList before, String.ofList after, ?_, ?_⟩
    · rw [← String.ofList_append, ← h.toList_eq, String.ofList_toList]
    · have hsize := utf8ByteSize_eq (String.ofList before)
      rw [String.toList_ofList] at hsize
      rw [h.offset_eq, ← hsize]
      rfl

namespace Cut

variable {s : String} {i j : Nat} {before middle after : List Char}

theorem start (s : String) : Cut s 0 [] s.toList := ⟨rfl, rfl⟩

theorem isBoundary (h : Cut s i before after) : IsBoundary s i :=
  isBoundary_iff.mpr ⟨before, after, h⟩

theorem append (h : Cut s i before (middle ++ after)) :
    Cut s (i + (bytesOf middle).length) (before ++ middle) after where
  toList_eq := by rw [h.toList_eq, List.append_assoc]
  offset_eq := by rw [h.offset_eq, bytesOf_append, List.length_append]

/-- The cut behind an ASCII character is one byte further. -/
theorem push {c : Char} (h : Cut s i before (c :: after)) (hc : c.toNat < 128) :
    Cut s (i + 1) (before ++ [c]) after := by
  have hcut : Cut s (i + (bytesOf [c]).length) (before ++ [c]) after := append h
  have hlen : (bytesOf [c]).length = 1 := by rw [bytesOf_cons, utf8EncodeChar_of_ascii hc]; rfl
  rwa [hlen] at hcut

theorem finish (h : Cut s i before after) : Cut s s.utf8ByteSize (before ++ after) [] where
  toList_eq := by rw [h.toList_eq, List.append_nil]
  offset_eq := by rw [utf8ByteSize_eq, h.toList_eq]

theorem lt_of_append (hi : Cut s i before (middle ++ after)) (hj : Cut s j (before ++ middle) after)
    (hmiddle : middle ≠ []) : i < j := by
  have hpos : (bytesOf middle).length ≠ 0 := by
    rw [ne_eq, List.length_eq_zero_iff, bytesOf_eq_nil_iff]
    exact hmiddle
  rw [hi.offset_eq, hj.offset_eq, bytesOf_append, List.length_append]
  omega

theorem drop_eq (h : Cut s i before after) : (bytesOf s.toList).drop i = bytesOf after := by
  rw [h.toList_eq, bytesOf_append, h.offset_eq, List.drop_left]

/-- A cut is the end of the text exactly if no characters come after it. -/
theorem lt_iff (h : Cut s i before after) : i < s.utf8ByteSize ↔ after ≠ [] := by
  have hlen : s.utf8ByteSize = i + (bytesOf after).length := by
    rw [utf8ByteSize_eq, h.toList_eq, bytesOf_append, List.length_append, h.offset_eq]
  have hnil : (bytesOf after).length = 0 ↔ after = [] := by
    rw [List.length_eq_zero_iff, bytesOf_eq_nil_iff]
  constructor
  · intro hlt hafter
    have := hnil.mpr hafter
    omega
  · intro hafter
    have : (bytesOf after).length ≠ 0 := fun h0 => hafter (hnil.mp h0)
    omega

/-- What stands between two cuts is sliced out. -/
theorem slice? (hi : Cut s i before (middle ++ after)) (hj : Cut s j (before ++ middle) after) :
    Text.slice? s i j = some (String.ofList middle) := by
  have hij : i ≤ j := by
    rw [hi.offset_eq, hj.offset_eq, bytesOf_append, List.length_append]
    omega
  rw [Text.slice?, dif_pos ⟨hi.isBoundary, hj.isBoundary, hij⟩]
  congr 1
  apply String.toByteArray_inj.mp
  rw [String.toByteArray_extract]
  apply ByteArray.ext
  apply Array.ext'
  rw [ByteArray.data_extract, Array.toList_extract, toByteArray_toList, toByteArray_toList, String.toList_ofList]
  show (bytesOf s.toList).extract i j = bytesOf middle
  rw [List.extract_eq_take_drop, hi.drop_eq, hj.offset_eq, hi.offset_eq, bytesOf_append, bytesOf_append,
    List.length_append, Nat.add_sub_cancel_left, List.take_left]

theorem byte?_cons {c : Char} (h : Cut s i before (c :: after)) (hc : c.toNat < 128) :
    byte? s i = some c.toUInt8 := by
  rw [byte?_eq, h.drop_eq, bytesOf_cons, utf8EncodeChar_of_ascii hc]
  rfl

/-- The byte at a cut is that of an ASCII character only if that character comes next. -/
theorem byte?_eq_iff {c : Char} (h : Cut s i before after) (hc : c.toNat < 128) :
    byte? s i = some c.toUInt8 ↔ after.head? = some c := by
  cases after with
  | nil => rw [byte?_eq, h.drop_eq]; simp
  | cons d after =>
    rw [List.head?_cons, Option.some_inj]
    by_cases hd : d.toNat < 128
    · rw [h.byte?_cons hd, Option.some_inj, toUInt8_inj hd hc]
    · obtain ⟨b, bs, hbs⟩ := exists_utf8EncodeChar_eq_cons d
      have hb : 128 ≤ b.toNat := le_of_mem_utf8EncodeChar (c := d) (by omega) (by simp [hbs])
      rw [byte?_eq, h.drop_eq, bytesOf_cons, hbs, List.cons_append, List.head?_cons, Option.some_inj]
      constructor
      · rintro rfl
        rw [toUInt8_toNat hc] at hb
        omega
      · rintro rfl
        omega

theorem skipWhile {p : UInt8 → Bool} {q : Char → Bool} (h : Cut s i before after) (hpq : Delimits p q) :
    Text.skipWhile s p i = i + (bytesOf (after.takeWhile q)).length := by
  rw [skipWhile_eq, h.drop_eq, takeWhile_bytesOf hpq]

/-- The search for an ASCII character that does not come finds nothing. -/
theorem findByte?_eq_none {c : Char} (h : Cut s i before after) (hc : c.toNat < 128) (hmem : c ∉ after) :
    findByte? s c.toUInt8 i = none := by
  rw [findByte?_eq, h.drop_eq, if_neg fun hb => hmem ((mem_bytesOf_iff hc).mp hb)]

/-- The search for an ASCII character ends at the first place where it comes. -/
theorem findByte?_eq_some {c : Char} (h : Cut s i before (middle ++ c :: after)) (hc : c.toNat < 128)
    (hmem : c ∉ middle) : findByte? s c.toUInt8 i = some (i + (bytesOf middle).length) := by
  have hb : c.toUInt8 ∈ bytesOf (middle ++ c :: after) := (mem_bytesOf_iff hc).mpr (by simp)
  have htake : (middle ++ c :: after).takeWhile (· != c) = middle := by
    have hmiddle : ∀ d ∈ middle, (d != c) = true := fun d hd =>
      bne_iff_ne.mpr (ne_of_mem_of_not_mem hd hmem)
    rw [List.takeWhile_append_of_pos hmiddle, List.takeWhile_cons_of_neg (by simp), List.append_nil]
  rw [findByte?_eq, h.drop_eq, if_pos hb, takeWhile_bytesOf (Delimits.ne hc), htake]

end Cut

theorem IsBoundary.le {s : String} {i : Nat} (h : IsBoundary s i) : i ≤ s.utf8ByteSize := by
  obtain ⟨before, after, hcut⟩ := isBoundary_iff.mp h
  rw [hcut.offset_eq, utf8ByteSize_eq, hcut.toList_eq, bytesOf_append, List.length_append]
  omega

theorem isBoundary_end (s : String) : IsBoundary s s.utf8ByteSize :=
  (Cut.start s).finish.isBoundary

end Stencil.Text
