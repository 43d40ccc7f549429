import Mathlib.Data.List.DropRight
import Stencil.Log.Filter
import Stencil.Proofs.Text.Offset

/-!
# Reading log filters without a crash

A reader crashes only where it cuts through a character. The parts of a directive begin and end at characters that the
scan has come to (`Stage.InPlace`), so while no blanks before the directive shift the offsets of the scan, every cut is
legal (`Directive.gives_read`), and a filter without such blanks is read or found to be invalid
(`Filter.read_ne_crash`).
-/

namespace Stencil

/-- Only blanks at the end are cut off characters that do not begin with a blank. -/
theorem Text.trim_prefix {cs : List Char} (h : cs.head?.any Text.isBlank = false) : Text.trim cs <+: cs := by
  have hbegin : cs.dropWhile Text.isBlank = cs := by
    cases cs with
    | nil => rfl
    | cons c cs =>
      have hc : Text.isBlank c = false := h
      rw [List.dropWhile_cons_of_neg (Bool.eq_false_iff.mp hc)]
  unfold Text.trim
  rw [hbegin]
  exact List.rdropWhile_prefix Text.isBlank cs

namespace Log

variable {α β : Type} {P : α → Prop} {Q : β → Prop}

/-- Reading does not crash, and what is read has the property. -/
def Gives (P : α → Prop) : Except Failure α → Prop
  | .ok a => P a
  | .error .invalid => True
  | .error (.crash _) => False

namespace Gives

theorem ne_crash {x : Except Failure α} (h : Gives P x) (report : String) : x ≠ .error (.crash report) := by
  rintro rfl
  exact h

theorem bind {x : Except Failure α} {f : α → Except Failure β} (hx : Gives P x) (hf : ∀ a, P a → Gives Q (f a)) :
    Gives Q (x >>= f) := by
  cases x with
  | ok a => exact hf a hx
  | error failure =>
    cases failure with
    | invalid => exact trivial
    | crash report => exact hx.elim

theorem orInvalid (a? : Option α) : Gives (fun _ => True) (Failure.orInvalid a?) := by
  cases a? with
  | none => exact trivial
  | some a => exact trivial

theorem mapM {f : α → Except Failure β} {as : List α} (h : ∀ a ∈ as, Gives (fun _ => True) (f a)) :
    Gives (fun _ => True) (as.mapM f) := by
  induction as with
  | nil => exact trivial
  | cons a as ih =>
    obtain ⟨ha, has⟩ := List.forall_mem_cons.mp h
    rw [List.mapM_cons]
    exact ha.bind fun b _ => (ih has).bind fun bs _ => trivial

end Gives

namespace Directive

/-- Where the part that is being read begins, if one is. -/
def Stage.start? : Stage → Option Nat
  | .levelOrTarget i | .span i | .field i | .level i => some i
  | .start | .fields | .target => none

/-- The part that is being read begins at a character that the scan has come to. -/
def Stage.InPlace (s : String) (offset : Nat) (stage : Stage) : Prop :=
  ∀ start ∈ stage.start?, Text.IsBoundary s start ∧ start ≤ offset

variable {s : String} {d : Directive} {stage : Stage} {offset later start : Nat} {before after : List Char} {c : Char}

theorem Stage.InPlace.mono (h : stage.InPlace s offset) (hle : offset ≤ later) : stage.InPlace s later := by
  intro start hstart
  obtain ⟨hboundary, hbehind⟩ := h start hstart
  exact ⟨hboundary, hbehind.trans hle⟩

theorem gives_part (hstart : Text.IsBoundary s start) (hstop : Text.IsBoundary s offset) (hle : start ≤ offset) :
    Gives (fun _ => True) (part s start offset) := by
  rw [part, Text.cut, Text.slice?, dif_pos ⟨hstart, hstop, hle⟩]
  exact trivial

theorem gives_step (hcut : Text.Cut s offset before (c :: after)) (h : stage.InPlace s offset) :
    Gives (fun read => read.2.InPlace s (offset + c.utf8Size)) (step s d stage offset c) := by
  have hhere := hcut.isBoundary
  have hpos := c.utf8Size_pos
  have hnext (hc : c.toNat < 128) : Text.IsBoundary s (offset + 1) ∧ offset + 1 ≤ offset + c.utf8Size :=
    ⟨(hcut.push hc).isBoundary, by omega⟩
  have hstay : stage.InPlace s (offset + c.utf8Size) := h.mono (Nat.le_add_right _ _)
  have hpart (start : Nat) (hstart : start ∈ stage.start?) : Gives (fun _ => True) (part s start offset) :=
    gives_part (h start hstart).1 hhere (h start hstart).2
  cases stage with
  | start =>
    simp only [step]
    split_ifs with hspan htarget
    · rintro _ ⟨rfl⟩
      exact hnext (by rw [hspan]; decide)
    · rintro _ ⟨rfl⟩
      exact ⟨hhere, by omega⟩
    · exact trivial
  | levelOrTarget start =>
    simp only [step]
    split_ifs with hlevel hspan
    · refine (hpart start rfl).bind fun target _ => ?_
      rintro _ ⟨rfl⟩
      exact hnext (by rw [hlevel]; decide)
    · refine (hpart start rfl).bind fun target _ => ?_
      rintro _ ⟨rfl⟩
      exact hnext (by rw [hspan]; decide)
    · exact hstay
  | span start =>
    simp only [step]
    split_ifs with htarget hfield
    · refine (hpart start rfl).bind fun span _ => ?_
      rintro _ ⟨⟩
    · refine (hpart start rfl).bind fun span _ => ?_
      rintro _ ⟨rfl⟩
      exact hnext (by rw [hfield]; decide)
    · exact hstay
  | field start =>
    simp only [step]
    split_ifs with hfields
    · refine (hpart start rfl).bind fun written _ => (Gives.orInvalid _).bind fun field _ => ?_
      rintro _ ⟨⟩
    · exact hstay
  | fields =>
    simp only [step]
    split_ifs
    · rintro _ ⟨⟩
    · exact trivial
  | target =>
    simp only [step]
    split_ifs with hlevel
    · rintro _ ⟨rfl⟩
      exact hnext (by rw [hlevel]; decide)
    · exact trivial
  | level start => exact hstay

theorem gives_steps {cs : List Char} (hcut : Text.Cut s offset before (cs ++ after)) (h : stage.InPlace s offset) :
    Gives (fun read => read.2.InPlace s s.utf8ByteSize) (steps s d stage offset cs) := by
  induction cs generalizing d stage offset before with
  | nil => exact h.mono hcut.isBoundary.le
  | cons c cs ih =>
    have hcons : Text.Cut s offset before ([c] ++ (cs ++ after)) := hcut
    have hnext : Text.Cut s (offset + c.utf8Size) (before ++ [c]) (cs ++ after) := by
      have hpush := hcons.append
      rwa [Text.bytesOf_cons, Text.bytesOf_nil, List.append_nil, String.length_utf8EncodeChar] at hpush
    unfold steps
    exact (gives_step hcut h).bind fun read hread => ih hnext hread

/-- A text that does not begin with a blank is read as a directive or found to be invalid. -/
theorem gives_read (h : s.toList.head?.any Text.isBlank = false) : Gives (fun _ => True) (read s) := by
  obtain ⟨blanks, hblanks⟩ := Text.trim_prefix h
  have hcut : Text.Cut s 0 [] (Text.trim s.toList ++ blanks) := by
    rw [hblanks]
    exact .start s
  have hend := Text.isBoundary_end s
  have hstart : Stage.start.InPlace s 0 := by
    rintro _ ⟨⟩
  unfold read
  refine (gives_steps hcut hstart).bind fun ⟨d, stage⟩ hstage => ?_
  cases stage with
  | levelOrTarget start =>
    obtain ⟨hboundary, hle⟩ := hstage start rfl
    refine (gives_part hboundary hend hle).bind fun written _ => ?_
    cases threshold? written with
    | none => exact trivial
    | some threshold => exact trivial
  | level start =>
    obtain ⟨hboundary, hle⟩ := hstage start rfl
    exact (gives_part hboundary hend hle).bind fun written _ => (Gives.orInvalid _).bind fun threshold _ => trivial
  | target => exact trivial
  | start | span | field | fields => exact trivial

end Directive

/-- Reading a filter does not crash if none of its directives begins with a blank. -/
theorem Filter.read_ne_crash {s : String}
    (h : ∀ directive ∈ s.toList.splitOn ',', directive.head?.any Text.isBlank = false) (report : String) :
    Filter.read s ≠ .error (.crash report) := by
  have hread : Gives (fun _ => True) (Filter.read s) := by
    refine (Gives.mapM fun text htext => ?_).bind fun directives _ => trivial
    obtain ⟨directive, hdirective, rfl⟩ := List.mem_map.mp htext
    refine Directive.gives_read ?_
    rw [String.toList_ofList]
    exact h directive (List.mem_filter.mp hdirective).1
  exact hread.ne_crash report

end Log

end Stencil
