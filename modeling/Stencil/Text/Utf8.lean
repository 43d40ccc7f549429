/-!
# UTF-8

A text is encoded as bytes and decoded from them by a machine that takes one byte at a time. Between
characters the machine owes nothing; inside one it knows how many bytes are owed, the value so far, and which
bytes may come next (`Owed`). A byte that may not come next breaks off the character and is then taken as the
start of another, so each broken character is as long as it can be.

Decoding gives `none` for a broken character. A text is valid if there is none; a lenient reader puts the
replacement character in their place.
-/

namespace Stencil.Text

/-- The bytes of a text. -/
def encode (s : String) : List UInt8 :=
  s.toList.flatMap String.utf8EncodeChar

/-- Where the machine stands inside a character. -/
structure Owed where
  /-- How many bytes are owed besides the next one. -/
  more : Nat
  /-- The value of the bytes so far. -/
  value : Nat
  /-- The least byte that may come next. -/
  least : Nat
  /-- The greatest byte that may come next. -/
  greatest : Nat

namespace Utf8

/-- Takes a byte between characters: a character of its own, the start of a longer one, or none at all. -/
def first (b : Nat) : List (Option Char) × Option Owed :=
  if b < 0x80 then ([some (Char.ofNat b)], none)
  else if 0xC2 ≤ b ∧ b ≤ 0xDF then ([], some ⟨0, b - 0xC0, 0x80, 0xBF⟩)
  else if b = 0xE0 then ([], some ⟨1, 0, 0xA0, 0xBF⟩)
  else if b = 0xED then ([], some ⟨1, 0xD, 0x80, 0x9F⟩)
  else if 0xE1 ≤ b ∧ b ≤ 0xEF then ([], some ⟨1, b - 0xE0, 0x80, 0xBF⟩)
  else if b = 0xF0 then ([], some ⟨2, 0, 0x90, 0xBF⟩)
  else if 0xF1 ≤ b ∧ b ≤ 0xF3 then ([], some ⟨2, b - 0xF0, 0x80, 0xBF⟩)
  else if b = 0xF4 then ([], some ⟨2, 4, 0x80, 0x8F⟩)
  else ([none], none)

/-- Takes a byte: what is complete after it, and what is owed then. -/
def step (owed? : Option Owed) (b : Nat) : List (Option Char) × Option Owed :=
  match owed? with
  | none => first b
  | some owed =>
    if owed.least ≤ b ∧ b ≤ owed.greatest then
      let value := owed.value * 64 + (b - 0x80)
      if owed.more = 0 then ([some (Char.ofNat value)], none)
      else ([], some ⟨owed.more - 1, value, 0x80, 0xBF⟩)
    else
      (none :: (first b).1, (first b).2)

/-- Takes all bytes. A character that is still owed bytes at the end is broken. -/
def run : Option Owed → List UInt8 → List (Option Char)
  | none, [] => []
  | some _, [] => [none]
  | owed?, b :: bytes =>
    (step owed? b.toNat).1 ++ run (step owed? b.toNat).2 bytes

/-! ## A character's own bytes -/

theorem run_cons (owed? : Option Owed) (b : UInt8) (bytes : List UInt8) :
    run owed? (b :: bytes) = (step owed? b.toNat).1 ++ run (step owed? b.toNat).2 bytes := by
  cases owed? <;> rfl

/-- A byte that is owed is taken into the character. -/
theorem step_some {more value least greatest b : Nat} (hl : least ≤ b) (hg : b ≤ greatest) :
    step (some ⟨more, value, least, greatest⟩) b =
      if more = 0 then ([some (Char.ofNat (value * 64 + (b - 0x80)))], none)
      else ([], some ⟨more - 1, value * 64 + (b - 0x80), 0x80, 0xBF⟩) :=
  if_pos ⟨hl, hg⟩

/-- Small numbers are kept as bytes. -/
theorem toNat_ofNat {n : Nat} (h : n < 256) : (UInt8.ofNat n).toNat = n := by
  rw [UInt8.toNat_ofNat', Nat.mod_eq_of_lt h]

/-- The first of three bytes. -/
theorem first_three {b : Nat} (hl : 0xE0 ≤ b) (hg : b ≤ 0xEF) :
    first b = ([], some ⟨1, b - 0xE0, if b = 0xE0 then 0xA0 else 0x80, if b = 0xED then 0x9F else 0xBF⟩) := by
  rw [first, if_neg (by omega), if_neg (by omega)]
  by_cases h0 : b = 0xE0
  · simp [h0]
  · by_cases h1 : b = 0xED
    · simp [h1]
    · rw [if_neg h0, if_neg h1, if_pos (by omega), if_neg h0, if_neg h1]

/-- The first of four bytes. -/
theorem first_four {b : Nat} (hl : 0xF0 ≤ b) (hg : b ≤ 0xF4) :
    first b = ([], some ⟨2, b - 0xF0, if b = 0xF0 then 0x90 else 0x80, if b = 0xF4 then 0x8F else 0xBF⟩) := by
  rw [first, if_neg (by omega), if_neg (by omega), if_neg (by omega), if_neg (by omega), if_neg (by omega)]
  by_cases h0 : b = 0xF0
  · simp [h0]
  · by_cases h1 : b = 0xF4
    · simp [h1]
    · rw [if_neg h0, if_pos (by omega), if_neg h0, if_neg h1]

/-- The machine takes the bytes of a character for that character. -/
theorem run_utf8EncodeChar (c : Char) (rest : List UInt8) :
    run none (String.utf8EncodeChar c ++ rest) = some c :: run none rest := by
  have hvalid : c.toNat < 0xD800 ∨ 0xDFFF < c.toNat ∧ c.toNat < 0x110000 := c.valid
  have hchar : Char.ofNat c.toNat = c := Char.ofNat_toNat c
  have hv : c.val.toNat = c.toNat := rfl
  unfold String.utf8EncodeChar
  simp only [hv]
  generalize c.toNat = v at hvalid hchar
  split
  · have h0 : (UInt8.ofNat v).toNat = v := toNat_ofNat (by omega)
    simp only [List.cons_append, List.nil_append, run_cons, h0, step, first,
      if_pos (show v < 0x80 by omega), hchar]
  · split
    · have h0 := toNat_ofNat (show v / 64 % 32 + 192 < 256 by omega)
      have h1 := toNat_ofNat (show v % 64 + 128 < 256 by omega)
      have hfirst : first (v / 64 % 32 + 192) = ([], some ⟨0, v / 64 % 32 + 192 - 0xC0, 0x80, 0xBF⟩) := by
        rw [first, if_neg (by omega), if_pos (by omega)]
      have hvalue : (v / 64 % 32 + 192 - 0xC0) * 64 + (v % 64 + 128 - 0x80) = v := by omega
      simp only [List.cons_append, List.nil_append, run_cons, h0, h1]
      rw [step, hfirst]
      simp only [List.nil_append]
      rw [step_some (by omega) (by omega), if_pos rfl, hvalue, hchar]
      rfl
    · split
      · have h0 := toNat_ofNat (show v / 4096 % 16 + 224 < 256 by omega)
        have h1 := toNat_ofNat (show v / 64 % 64 + 128 < 256 by omega)
        have h2 := toNat_ofNat (show v % 64 + 128 < 256 by omega)
        have hvalue : ((v / 4096 % 16 + 224 - 0xE0) * 64 + (v / 64 % 64 + 128 - 0x80)) * 64
            + (v % 64 + 128 - 0x80) = v := by omega
        simp only [List.cons_append, List.nil_append, run_cons, h0, h1, h2]
        rw [step, first_three (by omega) (by omega)]
        simp only [List.nil_append]
        rw [step_some (by split <;> omega) (by split <;> omega), if_neg (by decide)]
        simp only [List.nil_append]
        rw [step_some (by omega) (by omega), if_pos (by decide), hvalue, hchar]
        rfl
      · have h0 := toNat_ofNat (show v / 262144 % 8 + 240 < 256 by omega)
        have h1 := toNat_ofNat (show v / 4096 % 64 + 128 < 256 by omega)
        have h2 := toNat_ofNat (show v / 64 % 64 + 128 < 256 by omega)
        have h3 := toNat_ofNat (show v % 64 + 128 < 256 by omega)
        have hvalue : (((v / 262144 % 8 + 240 - 0xF0) * 64 + (v / 4096 % 64 + 128 - 0x80)) * 64
            + (v / 64 % 64 + 128 - 0x80)) * 64 + (v % 64 + 128 - 0x80) = v := by omega
        simp only [List.cons_append, List.nil_append, run_cons, h0, h1, h2, h3]
        rw [step, first_four (by omega) (by omega)]
        simp only [List.nil_append]
        rw [step_some (by split <;> omega) (by split <;> omega), if_neg (by decide)]
        simp only [List.nil_append]
        rw [step_some (by omega) (by omega), if_neg (by decide)]
        simp only [List.nil_append]
        rw [step_some (by omega) (by omega), if_pos (by decide), hvalue, hchar]
        rfl

end Utf8

/-- The characters that bytes encode, with `none` for each broken one. -/
def decode (bytes : List UInt8) : List (Option Char) :=
  Utf8.run none bytes

/-- The text that bytes encode, if no character is broken. -/
def ofBytes? (bytes : List UInt8) : Option String :=
  ((decode bytes).mapM id).map String.ofList

/-- The text that bytes encode, with the replacement character for each broken one. -/
def ofBytesLenient (bytes : List UInt8) : String :=
  String.ofList ((decode bytes).map (·.getD '\uFFFD'))

/-! ## Encoding and decoding -/

/-- Decoding undoes encoding, and no character is broken. -/
theorem decode_encode (s : String) : decode (encode s) = s.toList.map some := by
  unfold decode encode
  induction s.toList with
  | nil => rfl
  | cons c cs ih => rw [List.flatMap_cons, Utf8.run_utf8EncodeChar, ih, List.map_cons]

theorem ofBytes?_encode (s : String) : ofBytes? (encode s) = some s := by
  have h (cs : List Char) : (cs.map some).mapM id = some cs := by
    induction cs with
    | nil => rfl
    | cons c cs ih => rw [List.map_cons, List.mapM_cons, ih]; rfl
  rw [ofBytes?, decode_encode, h, Option.map_some, String.ofList_toList]

theorem ofBytesLenient_encode (s : String) : ofBytesLenient (encode s) = s := by
  have h : (fun piece : Option Char => piece.getD '\uFFFD') ∘ some = id := rfl
  rw [ofBytesLenient, decode_encode, List.map_map, h, List.map_id, String.ofList_toList]

end Stencil.Text
