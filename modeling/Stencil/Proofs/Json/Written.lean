import Stencil.Json.Printer
import Stencil.Json.Reader
import Mathlib.Data.List.Basic

/-!
# Reading what was written

A reader takes what the printer has written for a value, and no more, whatever stands behind it (`Reads`). For a string
this holds character by character (`stringChars_escapeChar`), under all rules. For a container it holds if it does for
its items (`items_enclosed`), provided that each of them begins with a bracket, a brace or a quote: so no number may be
among them.
-/

namespace Stencil.Json

/-- The reader takes the text for the value and leaves what stands behind it. -/
def Reads {α : Type} (read : List Char → Except Fault (α × List Char)) (text : List Char) (x : α) : Prop :=
  ∀ rest, read (text ++ rest) = .ok (x, rest)

theorem ok_bind {ε α β : Type} (x : α) (f : α → Except ε β) : (Except.ok x >>= f) = f x := rfl

/-- The reader does so whenever it has more steps than the text has characters. -/
def ReadsCounted {α : Type} (read : Nat → List Char → Except Fault (α × List Char)) (text : List Char) (x : α) : Prop :=
  ∀ steps, text.length < steps → Reads (read steps) text x

/-- A text that is read as a whole is read as it is when nothing stands behind it. -/
theorem whole_eq_ok {α : Type} {read : Nat → List Char → Except Fault (α × List Char)} {s : String} {x : α}
    (h : ReadsCounted read s.toList x) : whole read s = .ok x := by
  have hread : read (s.toList.length + 1) s.toList = .ok (x, []) := by
    have := h _ (Nat.lt_succ_self _) []
    rwa [List.append_nil] at this
  simp only [whole, hread, ok_bind]
  rfl

/-! ## Strings -/

theorem escape_letter (rules : Rules) {letter c : Char} (h : escaped? letter = some c) (rest : List Char) :
    escape rules (letter :: rest) = .ok (c, rest) := by
  have hnone : escaped? 'u' = none := by decide
  have hu : letter ≠ 'u' := by
    rintro rfl
    rw [hnone] at h
    cases h
  rw [escape]
  · rw [h]
  · exact hu

theorem hexValue?_hexDigit {n : Nat} : Text.hexValue? (hexDigit n) = some (n % 16) := by
  have hdigit : ∀ m < 16, Text.hexValue? (Nat.digitChar m) = some m := by decide
  exact hdigit (n % 16) (Nat.mod_lt n (by decide))

/-- A control character is read back from its number. No control character is half of a pair. -/
theorem escape_number (rules : Rules) {c : Char} (h : c.toNat < 0x20) (rest : List Char) :
    escape rules ('u' :: '0' :: '0' :: hexDigit (c.toNat / 16) :: hexDigit c.toNat :: rest) = .ok (c, rest) := by
  have hzero : Text.hexValue? '0' = some 0 := by decide
  have hnumber : ((0 * 16 + 0) * 16 + c.toNat / 16 % 16) * 16 + c.toNat % 16 = c.toNat := by omega
  have hunit : codeUnit ('0' :: '0' :: hexDigit (c.toNat / 16) :: hexDigit c.toNat :: rest) = .ok (c.toNat, rest) := by
    simp only [codeUnit, hzero, hexValue?_hexDigit, hnumber]
  have hhigh : isHighUnit c.toNat = false := by
    simp only [isHighUnit, Bool.and_eq_false_iff, decide_eq_false_iff_not]
    omega
  have hlow : isLowUnit c.toNat = false := by
    simp only [isLowUnit, Bool.and_eq_false_iff, decide_eq_false_iff_not]
    omega
  simp only [escape, hunit, ok_bind, hhigh, hlow, Bool.and_false, Bool.false_eq_true, if_false, Char.ofNat_toNat]

theorem stringChars_close (rules : Rules) (rest : List Char) : stringChars rules ('"' :: rest) = .ok ([], rest) := by
  rw [stringChars]

theorem stringChars_backslash {rules : Rules} {c : Char} {cs rest : List Char} (h : escape rules cs = .ok (c, rest)) :
    stringChars rules ('\\' :: cs) = (stringChars rules rest).map fun (s, rest) => (c :: s, rest) := by
  rw [stringChars]
  split
  · rename_i fault hescape
    rw [h] at hescape
    cases hescape
  · rename_i c' rest' hescape
    rw [h] at hescape
    cases hescape
    rfl

/-- A character is written as itself, by a letter, or by its number if it is a control character. -/
theorem escapeChar_cases (c : Char) :
    (escapeChar c = [c] ∧ c ≠ '"' ∧ c ≠ '\\' ∧ ¬c.toNat < 0x20) ∨
    (∃ letter, escapeChar c = ['\\', letter] ∧ escaped? letter = some c) ∨
    (escapeChar c = ['\\', 'u', '0', '0', hexDigit (c.toNat / 16), hexDigit c.toNat] ∧ c.toNat < 0x20) := by
  by_cases hletter : c ∈ ['"', '\\', '\x08', '\x0c', '\n', '\r', '\t']
  · simp only [List.mem_cons, List.not_mem_nil, or_false] at hletter
    right
    left
    rcases hletter with rfl | rfl | rfl | rfl | rfl | rfl | rfl
    all_goals exact ⟨_, rfl, by decide⟩
  · simp only [List.mem_cons, List.not_mem_nil, or_false, not_or] at hletter
    obtain ⟨hquote, hbackslash, hb, hf, hn, hr, ht⟩ := hletter
    have hescape : escapeChar c =
        if c.toNat < 0x20 then ['\\', 'u', '0', '0', hexDigit (c.toNat / 16), hexDigit c.toNat] else [c] := by
      rw [escapeChar, if_neg hquote, if_neg hbackslash, if_neg hb, if_neg hf, if_neg hn, if_neg hr, if_neg ht]
    by_cases hcontrol : c.toNat < 0x20
    · rw [if_pos hcontrol] at hescape
      exact .inr (.inr ⟨hescape, hcontrol⟩)
    · rw [if_neg hcontrol] at hescape
      exact .inl ⟨hescape, hquote, hbackslash, hcontrol⟩

/-- However a character is written, it is read as that character. -/
theorem stringChars_escapeChar (rules : Rules) (c : Char) (rest : List Char) :
    stringChars rules (escapeChar c ++ rest) = (stringChars rules rest).map fun (s, rest) => (c :: s, rest) := by
  rcases escapeChar_cases c with ⟨hc, hquote, hbackslash, hcontrol⟩ | ⟨letter, hc, hletter⟩ | ⟨hc, hcontrol⟩
  · rw [hc, List.singleton_append, stringChars, if_neg hcontrol]
    · exact hquote
    · exact hbackslash
  · rw [hc]
    exact stringChars_backslash (escape_letter rules hletter rest)
  · rw [hc]
    exact stringChars_backslash (escape_number rules hcontrol rest)

theorem string_flatMap_escapeChar (rules : Rules) (s : String) (rest : List Char) :
    string rules (s.toList.flatMap escapeChar ++ '"' :: rest) = .ok (s, rest) := by
  have hchars (cs : List Char) : stringChars rules (cs.flatMap escapeChar ++ '"' :: rest) = .ok (cs, rest) := by
    induction cs with
    | nil => exact stringChars_close rules rest
    | cons c cs ih =>
      rw [List.flatMap_cons, List.append_assoc, stringChars_escapeChar, ih]
      rfl
  rw [string, hchars]
  show Except.ok (String.ofList s.toList, rest) = _
  rw [String.ofList_toList]

theorem toList_quote_append (s : String) (rest : List Char) :
    (quote s).toList ++ rest = '"' :: (s.toList.flatMap escapeChar ++ '"' :: rest) := by
  simp [quote, String.toList_append]

/-! ## Containers -/

/-- The text begins as a string, an array or an object does. -/
def Opens (text : List Char) : Prop :=
  ∃ c cs, text = c :: cs ∧ (c = '"' ∨ c = '[' ∨ c = '{')

/-- The character ends an array or an object. -/
def IsClosing (c : Char) : Prop :=
  c = ']' ∨ c = '}'

theorem opens_quote (s : String) : Opens (quote s).toList := by
  have h := toList_quote_append s []
  rw [List.append_nil] at h
  exact ⟨_, _, h, .inl rfl⟩

theorem skipBlanks_cons {c : Char} (h : isBlank c = false) (cs : List Char) : skipBlanks (c :: cs) = c :: cs :=
  List.dropWhile_cons_of_neg (by simp [h])

theorem skipBlanks_quote (s : String) (rest : List Char) :
    skipBlanks ((quote s).toList ++ rest) = '"' :: (s.toList.flatMap escapeChar ++ '"' :: rest) := by
  rw [toList_quote_append, skipBlanks_cons (by decide)]

section Items

variable {closing : Char} {text : List Char}

theorem IsClosing.not_blank (hclosing : IsClosing closing) : isBlank closing = false := by
  rcases hclosing with rfl | rfl
  · decide
  · decide

/-- What opens a value is neither passed over nor taken for the end of a container. -/
theorem Opens.cases (h : Opens text) (hclosing : IsClosing closing) :
    ∃ c cs, text = c :: cs ∧ isBlank c = false ∧ c ≠ closing := by
  obtain ⟨c, cs, rfl, hc⟩ := h
  refine ⟨c, cs, rfl, ?_, ?_⟩
  · rcases hc with rfl | rfl | rfl <;> decide
  · rcases hclosing with rfl | rfl <;> rcases hc with rfl | rfl | rfl <;> decide

theorem next_close (hclosing : IsClosing closing) (first : Bool) (rest : List Char) :
    next closing first (closing :: rest) = .ok (.close rest) := by
  simp only [next, skipBlanks_cons hclosing.not_blank, if_true]

theorem next_first (hclosing : IsClosing closing) (h : Opens text) (rest : List Char) :
    next closing true (text ++ rest) = .ok (.item (text ++ rest)) := by
  obtain ⟨c, cs, rfl, hblank, hne⟩ := h.cases hclosing
  rw [List.cons_append]
  simp only [next, skipBlanks_cons hblank, if_neg hne, if_true]

theorem next_comma (hclosing : IsClosing closing) (h : Opens text) (rest : List Char) :
    next closing false (',' :: (text ++ rest)) = .ok (.item (text ++ rest)) := by
  obtain ⟨c, cs, rfl, hblank, hne⟩ := h.cases hclosing
  have hcomma : isBlank ',' = false := by decide
  have hne' : ',' ≠ closing := by
    rcases hclosing with rfl | rfl <;> decide
  rw [List.cons_append]
  simp only [next, skipBlanks_cons hcomma, skipBlanks_cons hblank, if_neg hne, if_neg hne', Bool.false_eq_true,
    if_false, if_true]

theorem intercalate_comma_cons (text : List Char) (texts : List (List Char)) :
    [','].intercalate (text :: texts) = text ++ texts.flatMap (',' :: ·) := by
  induction texts generalizing text with
  | nil => simp
  | cons next texts ih => simp [List.intercalate_cons_cons, ih]

variable {α β : Type} {item : List Char → Except Fault (α × List Char)} {write : β → List Char} {result : β → α}
  {xs : List β}

/-- The items behind the first are read one by one. -/
theorem items_flatMap_comma (hclosing : IsClosing closing)
    (hitems : ∀ x ∈ xs, Opens (write x) ∧ Reads item (write x) (result x)) {steps : Nat} (hsteps : xs.length < steps)
    (rest : List Char) :
    items closing item steps false ((xs.map write).flatMap (',' :: ·) ++ closing :: rest) =
      .ok (xs.map result, rest) := by
  induction xs generalizing steps with
  | nil =>
    obtain ⟨steps, rfl⟩ := Nat.exists_eq_succ_of_ne_zero (Nat.ne_zero_of_lt hsteps)
    simp only [List.map_nil, List.flatMap_nil, List.nil_append, items, next_close hclosing, ok_bind]
  | cons x xs ih =>
    obtain ⟨steps, rfl⟩ := Nat.exists_eq_succ_of_ne_zero (Nat.ne_zero_of_lt hsteps)
    have hmore := ih (fun y hy => hitems y (List.mem_cons_of_mem _ hy)) (Nat.lt_of_succ_lt_succ hsteps)
    obtain ⟨hopens, hreads⟩ := hitems x List.mem_cons_self
    rw [List.map_cons, List.flatMap_cons, List.cons_append, List.cons_append, List.append_assoc]
    simp only [items, next_comma hclosing hopens, ok_bind, hreads _, hmore, List.map_cons]

/-- Items between commas are read one by one. -/
theorem items_intercalate (hclosing : IsClosing closing)
    (hitems : ∀ x ∈ xs, Opens (write x) ∧ Reads item (write x) (result x)) {steps : Nat} (hsteps : xs.length < steps)
    (rest : List Char) :
    items closing item steps true ([','].intercalate (xs.map write) ++ closing :: rest) =
      .ok (xs.map result, rest) := by
  obtain ⟨steps, rfl⟩ := Nat.exists_eq_succ_of_ne_zero (Nat.ne_zero_of_lt hsteps)
  cases xs with
  | nil => simp only [List.map_nil, List.intercalate_nil, List.nil_append, items, next_close hclosing, ok_bind]
  | cons x xs =>
    have hmore := items_flatMap_comma hclosing (fun y hy => hitems y (List.mem_cons_of_mem _ hy))
      (Nat.lt_of_succ_lt_succ hsteps) rest
    obtain ⟨hopens, hreads⟩ := hitems x List.mem_cons_self
    rw [List.map_cons, intercalate_comma_cons, List.append_assoc]
    simp only [items, next_first hclosing hopens, ok_bind, hreads _, hmore, List.map_cons]

end Items

/-- How the texts of items are put together to the text of a container. -/
def enclose (opening closing : Char) (texts : List (List Char)) : List Char :=
  opening :: ([','].intercalate texts ++ [closing])

theorem enclose_append (opening closing : Char) (texts : List (List Char)) (rest : List Char) :
    enclose opening closing texts ++ rest = opening :: ([','].intercalate texts ++ closing :: rest) := by
  simp [enclose]

theorem enclose_singleton (opening closing : Char) (text rest : List Char) :
    enclose opening closing [text] ++ rest = opening :: (text ++ closing :: rest) := by
  simp [enclose]

theorem enclose_pair (opening closing : Char) (first second rest : List Char) :
    enclose opening closing [first, second] ++ rest = opening :: (first ++ ',' :: (second ++ closing :: rest)) := by
  simp [enclose]

/-- A container has more characters than items, and more than each of them. -/
theorem length_lt_length_enclose (opening closing : Char) (texts : List (List Char)) :
    texts.length < (enclose opening closing texts).length := by
  have hmore (texts : List (List Char)) : texts.length ≤ (texts.flatMap (',' :: ·)).length := by
    induction texts with
    | nil => simp
    | cons text texts ih =>
      simp only [List.flatMap_cons, List.length_append, List.length_cons]
      omega
  cases texts with
  | nil => simp [enclose]
  | cons text texts =>
    have := hmore texts
    simp only [enclose, intercalate_comma_cons, List.length_cons, List.length_append]
    omega

theorem length_lt_length_enclose_of_mem {texts : List (List Char)} {text : List Char} (h : text ∈ texts)
    (opening closing : Char) : text.length < (enclose opening closing texts).length := by
  have hmore {texts : List (List Char)} (h : text ∈ texts) : text.length ≤ (texts.flatMap (',' :: ·)).length := by
    obtain ⟨before, after, rfl⟩ := List.append_of_mem h
    simp only [List.flatMap_append, List.flatMap_cons, List.length_append, List.length_cons]
    omega
  cases texts with
  | nil => cases h
  | cons first texts =>
    simp only [enclose, intercalate_comma_cons, List.length_cons, List.length_append]
    rcases List.mem_cons.mp h with rfl | hmem
    · omega
    · have := hmore hmem
      omega

/-- Between brackets or braces the items are read one by one, if there are at least as many steps as characters. -/
theorem items_enclosed {closing : Char} (hclosing : IsClosing closing) (opening : Char) {α β : Type}
    {read : Nat → List Char → Except Fault (α × List Char)} {write : β → List Char} {result : β → α} {xs : List β}
    (hitems : ∀ x ∈ xs, Opens (write x) ∧ ReadsCounted read (write x) (result x)) {steps : Nat}
    (hsteps : (enclose opening closing (xs.map write)).length ≤ steps) (rest : List Char) :
    items closing (read steps) steps true ([','].intercalate (xs.map write) ++ closing :: rest) =
      .ok (xs.map result, rest) := by
  have hcount := length_lt_length_enclose opening closing (xs.map write)
  rw [List.length_map] at hcount
  refine items_intercalate hclosing ?_ (by omega) rest
  intro x hx
  have hmem : write x ∈ xs.map write := List.mem_map_of_mem hx
  have hlength := length_lt_length_enclose_of_mem hmem opening closing
  exact ⟨(hitems x hx).1, (hitems x hx).2 steps (by omega)⟩

theorem opens_enclose {opening : Char} (h : opening = '[' ∨ opening = '{') (closing : Char) (texts : List (List Char)) :
    Opens (enclose opening closing texts) :=
  ⟨_, _, rfl, .inr h⟩

/-- How a member is written whose value has that text. -/
def memberText (name : String) (text : List Char) : List Char :=
  (quote name).toList ++ ':' :: text

theorem opens_memberText (name : String) (text : List Char) : Opens (memberText name text) := by
  obtain ⟨c, cs, hquote, hc⟩ := opens_quote name
  exact ⟨c, cs ++ ':' :: text, by rw [memberText, hquote, List.cons_append], hc⟩

theorem memberText_append (name : String) (text rest : List Char) :
    memberText name text ++ rest = (quote name).toList ++ ':' :: (text ++ rest) := by
  rw [memberText, List.append_assoc, List.cons_append]

theorem length_lt_length_memberText (name : String) (text : List Char) :
    text.length < (memberText name text).length := by
  simp only [memberText, List.length_append, List.length_cons]
  omega

theorem length_lt_of_memberText_mem {name : String} {text : List Char} {texts : List (List Char)}
    (h : memberText name text ∈ texts) (opening closing : Char) :
    text.length < (enclose opening closing texts).length :=
  Nat.lt_trans (length_lt_length_memberText name text) (length_lt_length_enclose_of_mem h opening closing)

theorem toList_compact_arr (values : List Json) :
    (arr values).compact.toList = enclose '[' ']' (values.map fun value => value.compact.toList) := by
  simp [compact, compactItems_eq_map, enclose, String.toList_append, String.toList_intercalate, Function.comp_def]

theorem toList_compact_obj (members : List (String × Json)) :
    (obj members).compact.toList =
      enclose '{' '}' (members.map fun member => memberText member.1 member.2.compact.toList) := by
  simp [compact, compactMembers_eq_map, enclose, memberText, String.toList_append, String.toList_intercalate,
    Function.comp_def]

/-! ## Values -/

theorem name_quote_append (rules : Rules) (s : String) (rest : List Char) :
    name rules ((quote s).toList ++ rest) = .ok (s, rest) := by
  simp only [name, skipBlanks_quote, string_flatMap_escapeChar]

theorem colon_cons (rest : List Char) : colon (':' :: rest) = .ok rest := by
  simp only [colon, skipBlanks_cons (show isBlank ':' = false by decide)]

section Values

variable {rules : Rules} {room inner : Option Nat} {α β : Type} {xs : List β} {write : β → List Char}
  {result : β → Json}

theorem reads_value_str (s : String) : ReadsCounted (value rules · room) (quote s).toList (str s) := by
  intro steps hsteps rest
  obtain ⟨steps, rfl⟩ := Nat.exists_eq_succ_of_ne_zero (Nat.ne_zero_of_lt hsteps)
  simp only [value, skipBlanks_quote, string_flatMap_escapeChar]
  rfl

theorem reads_value_arr (henter : enter room = .ok inner)
    (hitems : ∀ x ∈ xs, Opens (write x) ∧ ReadsCounted (value rules · inner) (write x) (result x)) :
    ReadsCounted (value rules · room) (enclose '[' ']' (xs.map write)) (arr (xs.map result)) := by
  intro steps hsteps rest
  obtain ⟨steps, rfl⟩ := Nat.exists_eq_succ_of_ne_zero (Nat.ne_zero_of_lt hsteps)
  have hread := items_enclosed (.inl rfl) '[' hitems (Nat.le_of_lt_succ hsteps) rest
  rw [enclose_append]
  simp only [value, skipBlanks_cons (show isBlank '[' = false by decide), henter, ok_bind, hread]

theorem reads_member {read : Nat → List Char → Except Fault (α × List Char)} {text : List Char} {x : α}
    (h : ReadsCounted read text x) (s : String) :
    ReadsCounted (fun steps => member rules (read steps)) (memberText s text) (s, x) := by
  intro steps hsteps rest
  have hlength := length_lt_length_memberText s text
  rw [memberText_append]
  simp only [member, name_quote_append, ok_bind, colon_cons, h steps (by omega) rest]

theorem reads_value_obj (key : β → String) (henter : enter room = .ok inner)
    (hmembers : ∀ x ∈ xs, ReadsCounted (value rules · inner) (write x) (result x)) :
    ReadsCounted (value rules · room) (enclose '{' '}' (xs.map fun x => memberText (key x) (write x)))
      (obj (Members.ofList (xs.map fun x => (key x, result x)))) := by
  intro steps hsteps rest
  obtain ⟨steps, rfl⟩ := Nat.exists_eq_succ_of_ne_zero (Nat.ne_zero_of_lt hsteps)
  have hitems : ∀ x ∈ xs, Opens (memberText (key x) (write x)) ∧
      ReadsCounted (fun steps => member rules (value rules steps inner)) (memberText (key x) (write x))
        (key x, result x) := by
    intro x hx
    exact ⟨opens_memberText _ _, reads_member (hmembers x hx) _⟩
  have hread := items_enclosed (.inr rfl) '{' hitems (Nat.le_of_lt_succ hsteps) rest
  rw [enclose_append]
  simp only [value, skipBlanks_cons (show isBlank '{' = false by decide), henter, ok_bind, hread]

end Values

end Stencil.Json
