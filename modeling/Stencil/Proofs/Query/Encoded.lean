import Stencil.Proofs.Query.Grouped
import Stencil.Proofs.Text.Offset

/-!
# Form encoding

Pairs are written as a query string byte by byte (`encodePairs`). What is written for a name or a value is ASCII and
holds neither `&` nor `=`, so the query string is cut again where it was joined, and each part is decoded byte by byte.
-/

namespace Stencil.Query

/-- The characters that are written for their own bytes. -/
def isPlainChar (c : Char) : Bool :=
  c.isAlphanum || c == '*' || c == '-' || c == '.' || c == '_'

/-- A hexadecimal digit in upper case. -/
def hexDigit (n : Nat) : Char :=
  (Nat.digitChar n).toUpper

/-- How a byte is written: as its character if that is plain, a blank as `+`, and everything else by its number. -/
def encodeByte (b : UInt8) : List Char :=
  if isPlainChar (Char.ofUInt8 b) then [Char.ofUInt8 b]
  else if b = ' '.toUInt8 then ['+']
  else ['%', hexDigit (b.toNat / 16), hexDigit (b.toNat % 16)]

/-- How a name or a value is written. -/
def encodePart (s : String) : String :=
  String.ofList ((Text.encode s).flatMap encodeByte)

def encodePair (pair : String × String) : String :=
  encodePart pair.1 ++ "=" ++ encodePart pair.2

/-- The query string that is written for a list of pairs. -/
def encodePairs (pairs : List (String × String)) : String :=
  "&".intercalate (pairs.map encodePair)

/-! ## The characters that are written -/

theorem isPlainChar_lt {c : Char} (h : isPlainChar c = true) : c.toNat < 128 := by
  simp only [isPlainChar, Bool.or_eq_true, beq_iff_eq] at h
  rcases h with (((halphanum | rfl) | rfl) | rfl) | rfl
  · exact Text.isAlphanum_lt halphanum
  all_goals decide

theorem isPlainChar_hexDigit {n : Nat} (h : n < 16) : isPlainChar (hexDigit n) = true := by
  revert n
  decide

theorem hexValue?_hexDigit {n : Nat} (h : n < 16) : Text.hexValue? (hexDigit n) = some n := by
  revert n
  decide

theorem mem_encodeByte {b : UInt8} {c : Char} (h : c ∈ encodeByte b) : isPlainChar c = true ∨ c = '+' ∨ c = '%' := by
  have hlt : b.toNat < 256 := b.toNat_lt
  unfold encodeByte at h
  split at h
  · rename_i hplain
    rw [List.mem_singleton] at h
    exact .inl (h ▸ hplain)
  · split at h
    · rw [List.mem_singleton] at h
      exact .inr (.inl h)
    · simp only [List.mem_cons, List.not_mem_nil, or_false] at h
      rcases h with rfl | rfl | rfl
      · exact .inr (.inr rfl)
      · exact .inl (isPlainChar_hexDigit (by omega))
      · exact .inl (isPlainChar_hexDigit (by omega))

theorem mem_encodePart {s : String} {c : Char} (h : c ∈ (encodePart s).toList) :
    c.toNat < 128 ∧ c ≠ '&' ∧ c ≠ '=' := by
  rw [encodePart, String.toList_ofList] at h
  obtain ⟨b, -, hc⟩ := List.mem_flatMap.mp h
  rcases mem_encodeByte hc with hplain | rfl | rfl
  · refine ⟨isPlainChar_lt hplain, ?_, ?_⟩
    · rintro rfl
      exact absurd hplain (by decide)
    · rintro rfl
      exact absurd hplain (by decide)
  · decide
  · decide

/-! ## Decoding what was written -/

/-- How a written byte is read before numbers are looked for. -/
def plusToBlank (b : UInt8) : UInt8 :=
  if b = '+'.toUInt8 then ' '.toUInt8 else b

theorem plusToBlank_of_isPlainChar {c : Char} (h : isPlainChar c = true) : plusToBlank c.toUInt8 = c.toUInt8 := by
  refine if_neg fun heq => ?_
  rw [Text.toUInt8_inj (isPlainChar_lt h) (by decide)] at heq
  rw [heq] at h
  exact absurd h (by decide)

theorem percentDecode_cons {b : UInt8} (h : b ≠ '%'.toUInt8) (rest : List UInt8) :
    percentDecode (b :: rest) = b :: percentDecode rest := by
  match rest with
  | [] => rfl
  | [low] => rfl
  | high :: low :: rest => rw [percentDecode, if_neg h]

theorem percentDecode_number {high low : Nat} (hhigh : high < 16) (hlow : low < 16) (rest : List UInt8) :
    percentDecode ('%'.toUInt8 :: (hexDigit high).toUInt8 :: (hexDigit low).toUInt8 :: rest) =
      UInt8.ofNat (high * 16 + low) :: percentDecode rest := by
  have hdigit {n : Nat} (h : n < 16) : Text.hexValue? (Char.ofUInt8 (hexDigit n).toUInt8) = some n := by
    rw [Text.ofUInt8_toUInt8 (isPlainChar_lt (isPlainChar_hexDigit h)), hexValue?_hexDigit h]
  simp only [percentDecode, if_true, hdigit hhigh, hdigit hlow]

/-- A written byte is read for that byte. -/
theorem percentDecode_encodeByte (b : UInt8) (rest : List UInt8) :
    percentDecode ((encodeByte b).map (fun c => plusToBlank c.toUInt8) ++ rest) = b :: percentDecode rest := by
  have hlt : b.toNat < 256 := b.toNat_lt
  unfold encodeByte
  split
  · rename_i hplain
    have hne : b ≠ '%'.toUInt8 := by
      rintro rfl
      exact absurd hplain (by decide)
    rw [List.map_singleton, plusToBlank_of_isPlainChar hplain, Text.toUInt8_ofUInt8, List.singleton_append,
      percentDecode_cons hne]
  · split
    · rename_i hblank
      have hplus : plusToBlank '+'.toUInt8 = ' '.toUInt8 := rfl
      rw [List.map_singleton, hplus, List.singleton_append, percentDecode_cons (by decide), hblank]
    · have hhigh : b.toNat / 16 < 16 := by omega
      have hlow : b.toNat % 16 < 16 := by omega
      have hpercent : plusToBlank '%'.toUInt8 = '%'.toUInt8 := rfl
      have hnumber : b.toNat / 16 * 16 + b.toNat % 16 = b.toNat := by omega
      simp only [List.map_cons, List.map_nil, List.cons_append, List.nil_append, hpercent,
        plusToBlank_of_isPlainChar (isPlainChar_hexDigit hhigh),
        plusToBlank_of_isPlainChar (isPlainChar_hexDigit hlow)]
      rw [percentDecode_number hhigh hlow, hnumber, UInt8.ofNat_toNat]

theorem bytesOf_encodePart (s : String) :
    Text.bytesOf (encodePart s).toList = ((Text.encode s).flatMap encodeByte).map Char.toUInt8 := by
  rw [Text.bytesOf_of_ascii fun c hc => (mem_encodePart hc).1, encodePart, String.toList_ofList]

theorem decodePart_encodePart (s : String) : decodePart (Text.bytesOf (encodePart s).toList) = s := by
  have hbytes (bytes : List UInt8) :
      percentDecode ((bytes.flatMap encodeByte).map fun c => plusToBlank c.toUInt8) = bytes := by
    induction bytes with
    | nil => rfl
    | cons b bytes ih => rw [List.flatMap_cons, List.map_append, percentDecode_encodeByte, ih]
  have hmap : (Text.bytesOf (encodePart s).toList).map plusToBlank =
      ((Text.encode s).flatMap encodeByte).map fun c => plusToBlank c.toUInt8 := by
    rw [bytesOf_encodePart, List.map_map]
    rfl
  show Text.ofBytesLenient (percentDecode ((Text.bytesOf (encodePart s).toList).map plusToBlank)) = s
  rw [hmap, hbytes, Text.ofBytesLenient_encode]

/-! ## Cutting where parts and pairs were joined -/

theorem bytesOf_encodePair (pair : String × String) :
    Text.bytesOf (encodePair pair).toList =
      Text.bytesOf (encodePart pair.1).toList ++ '='.toUInt8 :: Text.bytesOf (encodePart pair.2).toList := by
  have hequals : Text.bytesOf "=".toList = ['='.toUInt8] := rfl
  rw [encodePair, String.toList_append, String.toList_append, Text.bytesOf_append, Text.bytesOf_append, hequals,
    List.append_assoc, List.singleton_append]

/-- A pair is cut at its first `=`, which is the one between its parts. -/
theorem decodePiece_encodePair (pair : String × String) :
    decodePiece (Text.bytesOf (encodePair pair).toList) = pair := by
  have hname : ∀ b ∈ Text.bytesOf (encodePart pair.1).toList, decide (b ≠ '='.toUInt8) = true := by
    intro b hb
    refine decide_eq_true ?_
    rintro rfl
    rw [Text.mem_bytesOf_iff (by decide)] at hb
    exact (mem_encodePart hb).2.2 rfl
  have htake : (Text.bytesOf (encodePair pair).toList).takeWhile (· ≠ '='.toUInt8) =
      Text.bytesOf (encodePart pair.1).toList := by
    rw [bytesOf_encodePair, List.takeWhile_append_of_pos hname, List.takeWhile_cons_of_neg (by simp), List.append_nil]
  have hdrop : ((Text.bytesOf (encodePair pair).toList).dropWhile (· ≠ '='.toUInt8)).drop 1 =
      Text.bytesOf (encodePart pair.2).toList := by
    rw [bytesOf_encodePair, List.dropWhile_append_of_pos hname, List.dropWhile_cons_of_neg (by simp), List.drop_one,
      List.tail_cons]
  rw [decodePiece, htake, hdrop, decodePart_encodePart, decodePart_encodePart]

theorem ampersand_not_mem_encodePair (pair : String × String) :
    '&'.toUInt8 ∉ Text.bytesOf (encodePair pair).toList := by
  rw [bytesOf_encodePair]
  intro h
  rcases List.mem_append.mp h with hname | hvalue
  · rw [Text.mem_bytesOf_iff (by decide)] at hname
    exact (mem_encodePart hname).2.1 rfl
  · rcases List.mem_cons.mp hvalue with hequals | hvalue
    · exact absurd hequals (by decide)
    · rw [Text.mem_bytesOf_iff (by decide)] at hvalue
      exact (mem_encodePart hvalue).2.1 rfl

/-- What was written for pairs is read as those pairs. -/
theorem pairs_encodePairs (named : List (String × String)) : pairs (encodePairs named) = named := by
  cases named with
  | nil => rfl
  | cons first more =>
    have hampersand : Text.bytesOf "&".toList = ['&'.toUInt8] := rfl
    have hencode : Text.encode (encodePairs (first :: more)) =
        ['&'.toUInt8].intercalate ((first :: more).map fun pair => Text.bytesOf (encodePair pair).toList) := by
      show Text.bytesOf (encodePairs (first :: more)).toList = _
      rw [encodePairs, String.toList_intercalate, Text.bytesOf_intercalate, hampersand, List.map_map, List.map_map]
      simp only [Function.comp_def]
    have hcut : (Text.encode (encodePairs (first :: more))).splitOn '&'.toUInt8 =
        (first :: more).map fun pair => Text.bytesOf (encodePair pair).toList := by
      rw [hencode]
      refine List.splitOn_intercalate _ ?_ (List.cons_ne_nil _ _)
      intro piece hpiece
      obtain ⟨pair, -, rfl⟩ := List.mem_map.mp hpiece
      exact ampersand_not_mem_encodePair pair
    have hnonempty (pair : String × String) : Text.bytesOf (encodePair pair).toList ≠ [] := by
      rw [bytesOf_encodePair]
      simp
    rw [pairs, hcut, List.filter_eq_self.mpr, List.map_map]
    · simp only [Function.comp_def, decodePiece_encodePair, List.map_id']
    · intro piece hpiece
      obtain ⟨pair, -, rfl⟩ := List.mem_map.mp hpiece
      exact decide_eq_true (hnonempty pair)

example : encodePairs [("a b", "é&"), ("", "x")] = "a+b=%C3%A9%26&=x" := by rfl

/-- Any list of pairs is passed through a query string: its object has exactly their names, each once, and each with
its values in order, a single one as a string, several as an array. -/
theorem values_encodePairs (named : List (String × String)) :
    ∃ found : Members Json, values (encodePairs named) = .obj found ∧ found.Sorted ∧
      (∀ name, name ∈ found.map Prod.fst ↔ name ∈ named.map Prod.fst) ∧
      (∀ name, found.get? name = grouped? (valuesOf name named)) := by
  refine ⟨members named, ?_, sorted_members named, ?_, ?_⟩
  · rw [values, pairs_encodePairs]
  · intro name
    exact mem_names_members_iff
  · intro name
    exact get?_members named name

end Stencil.Query
