import Mathlib.Data.List.Nodup
import Mathlib.Data.List.Perm.Basic
import Mathlib.Data.List.TakeWhile
import Stencil.Proofs.CommandLine.Arguments

/-!
# Accepted arguments

Which lists of arguments are accepted, told without reading them (`IsRequest`), and what an accepted list asks for.
One argument in front of `--` is either the spelling of an option that is still free or told by its place while there
is room (`Progress.take_eq_ok_iff`); it goes from the list to what has been read, and the two together stay the same
(`Progress.allFlags_take`, `Progress.allPositionals_take`). So a whole list can be read exactly if it has no option
twice and not too many arguments (`Progress.exists_read_iff`).
-/

namespace Stencil.CommandLine

/-! ## What a list is made of -/

/-- The argument is told by its place, even in front of `--`. -/
def IsPlain (argument : String) : Prop :=
  argument = "-" ∨ argument.toList.head? ≠ some '-'

def IsVerbose (argument : String) : Prop :=
  argument = "-v" ∨ argument = "--verbose"

instance : DecidablePred IsPlain := fun _ => inferInstanceAs (Decidable (_ ∨ _))

instance : DecidablePred IsVerbose := fun _ => inferInstanceAs (Decidable (_ ∨ _))

def beforeDashes (arguments : List String) : List String :=
  arguments.takeWhile (· ≠ "--")

def behindDashes (arguments : List String) : List String :=
  (arguments.dropWhile (· ≠ "--")).drop 1

/-- The arguments of a list that are told by their place. -/
def placed (arguments : List String) : List String :=
  (beforeDashes arguments).filter IsPlain ++ behindDashes arguments

/-- What a list of arguments must be to be accepted: in front of `--` there are options, none of them twice, and
arguments that are told by their place. Of these there are two in all. -/
structure IsRequest (arguments : List String) : Prop where
  known : ∀ argument ∈ beforeDashes arguments,
    IsVerbose argument ∨ argument = "--trim-newline" ∨ IsPlain argument
  verbose : (beforeDashes arguments).countP (IsVerbose ·) ≤ 1
  trimNewline : (beforeDashes arguments).count "--trim-newline" ≤ 1
  two : (placed arguments).length = 2

/-- The option that an argument spells, unless it asks for a text. -/
def spelled? (argument : String) : Option Flag :=
  if IsVerbose argument then some .verbose
  else if argument = "--trim-newline" then some .trimNewline
  else none

variable {p q : Progress} {flag : Flag} {argument : String} {arguments rest positionals : List String}
  {flags : List Flag}

theorem spelled?_eq_verbose_iff : spelled? argument = some .verbose ↔ IsVerbose argument := by
  unfold spelled?
  split_ifs with hverbose htrim <;> simp [hverbose]

theorem spelled?_eq_trimNewline_iff : spelled? argument = some .trimNewline ↔ argument = "--trim-newline" := by
  unfold spelled?
  split_ifs with hverbose htrim
  · rcases hverbose with rfl | rfl <;> simp
  · simp [htrim]
  · simp [htrim]

theorem eq_of_spelled (h : spelled? argument = some flag) : flag = .verbose ∨ flag = .trimNewline := by
  unfold spelled? at h
  split_ifs at h
  · exact .inl (Option.some.inj h).symm
  · exact .inr (Option.some.inj h).symm

theorem IsPlain.ne_dashes (h : IsPlain argument) : argument ≠ "--" := by
  rintro rfl
  exact absurd h (by decide)

theorem spelled?_eq_none (h : IsPlain argument) : spelled? argument = none := by
  unfold spelled?
  rw [if_neg, if_neg]
  · rintro rfl
    exact absurd h (by decide)
  · rintro (rfl | rfl)
    · exact absurd h (by decide)
    · exact absurd h (by decide)

theorem known_iff : IsVerbose argument ∨ argument = "--trim-newline" ∨ IsPlain argument ↔
    (∃ flag, spelled? argument = some flag) ∨ IsPlain argument := by
  rw [← or_assoc]
  refine or_congr_left ⟨?_, ?_⟩
  · rintro (hverbose | htrim)
    · exact ⟨.verbose, spelled?_eq_verbose_iff.mpr hverbose⟩
    · exact ⟨.trimNewline, spelled?_eq_trimNewline_iff.mpr htrim⟩
  · rintro ⟨flag, hspelled⟩
    rcases eq_of_spelled hspelled with rfl | rfl
    · exact .inl (spelled?_eq_verbose_iff.mp hspelled)
    · exact .inr (spelled?_eq_trimNewline_iff.mp hspelled)

theorem beforeDashes_nil : beforeDashes [] = [] := rfl

theorem placed_nil : placed [] = [] := rfl

theorem beforeDashes_dashes : beforeDashes ("--" :: rest) = [] := by
  simp [beforeDashes]

theorem placed_dashes : placed ("--" :: rest) = rest := by
  simp [placed, beforeDashes, behindDashes]

theorem beforeDashes_cons (h : argument ≠ "--") :
    beforeDashes (argument :: rest) = argument :: beforeDashes rest := by
  simp [beforeDashes, h]

theorem placed_plain (h : IsPlain argument) : placed (argument :: rest) = argument :: placed rest := by
  simp [placed, beforeDashes, behindDashes, h.ne_dashes, h]

theorem placed_spelled (h : spelled? argument = some flag) : placed (argument :: rest) = placed rest := by
  have hdashes : argument ≠ "--" := by
    rintro rfl
    have hnone : spelled? "--" = none := by decide
    rw [hnone] at h
    cases h
  have hplain : ¬ IsPlain argument := by
    intro hplain
    rw [spelled?_eq_none hplain] at h
    cases h
  simp [placed, beforeDashes, behindDashes, hdashes, hplain]

/-! ## What an argument does -/

theorem Flag.named?_eq_some_iff {name : String} : Flag.named? name = some flag ↔ name = flag.name := by
  constructor
  · intro h
    have hname := List.find?_some h
    exact (beq_iff_eq.mp hname).symm
  · rintro rfl
    cases flag <;> decide

theorem Flag.letter?_of_lettered? {letter : Char} (h : Flag.lettered? letter = some flag) :
    flag.letter? = some letter := by
  have hletter := List.find?_some h
  exact beq_iff_eq.mp hletter

theorem Flag.equals_not_mem_name (flag : Flag) : '=' ∉ flag.name.toList := by
  cases flag <;> decide

theorem takeWhile_ne_equals {body : List Char} (h : '=' ∉ body) : body.takeWhile (· ≠ '=') = body :=
  List.takeWhile_eq_self_iff.mpr fun _ hc => decide_eq_true (ne_of_mem_of_not_mem hc h)

theorem bind_eq_ok_iff {ε α β : Type} {x : Except ε α} {f : α → Except ε β} {b : β} :
    x >>= f = .ok b ↔ ∃ a, x = .ok a ∧ f a = .ok b := by
  cases x with
  | error e =>
    refine iff_of_false (fun h => nomatch h) ?_
    rintro ⟨a, h, -⟩
    cases h
  | ok a =>
    constructor
    · exact fun h => ⟨a, rfl, h⟩
    · rintro ⟨_, ha, h⟩
      obtain rfl := Except.ok.inj ha
      exact h

namespace Progress

/-- What has been read, with an option more. -/
def withFlag (flag : Flag) (p : Progress) : Progress :=
  { p.settle with flags := p.flags ++ [flag] }

/-- What has been read, with an argument more that is told by its place. -/
def withPositional (argument : String) (p : Progress) : Progress :=
  { p.settle with positionals := p.positionals ++ [argument] }

@[simp] theorem flags_withFlag (flag : Flag) (p : Progress) : (p.withFlag flag).flags = p.flags ++ [flag] := rfl

@[simp] theorem positionals_withFlag (flag : Flag) (p : Progress) :
    (p.withFlag flag).positionals = p.positionals := rfl

@[simp] theorem flags_withPositional (argument : String) (p : Progress) :
    (p.withPositional argument).flags = p.flags := rfl

@[simp] theorem positionals_withPositional (argument : String) (p : Progress) :
    (p.withPositional argument).positionals = p.positionals ++ [argument] := rfl

theorem flag_eq_ok_iff : p.flag flag = .ok q ↔
    (flag = .verbose ∨ flag = .trimNewline) ∧ flag ∉ p.flags ∧ q = p.withFlag flag := by
  unfold Progress.flag withFlag
  by_cases hmem : flag ∈ p.flags
  · cases flag <;> simp [hmem]
  · cases flag <;> simp [hmem, eq_comm]

theorem positional_eq_ok_iff : p.positional argument = .ok q ↔
    p.positionals.length < 2 ∧ q = p.withPositional argument := by
  unfold positional withPositional
  have htwo : Positional.all.length = 2 := rfl
  rw [htwo]
  by_cases hlt : p.positionals.length < 2
  · simp [hlt, eq_comm]
  · simp [hlt]

theorem long_name (flag : Flag) : p.long flag.name.toList = p.flag flag := by
  have hname := takeWhile_ne_equals flag.equals_not_mem_name
  simp only [long, hname, String.ofList_toList, Flag.named?_eq_some_iff.mpr rfl, if_neg flag.equals_not_mem_name]

theorem long_eq_ok_iff {body : List Char} :
    p.long body = .ok q ↔ ∃ flag : Flag, body = flag.name.toList ∧ p.flag flag = .ok q := by
  constructor
  · intro h
    simp only [long] at h
    split at h
    · cases h
    · rename_i flag hflag
      split at h
      · cases h
      · rename_i hequals
        rw [takeWhile_ne_equals hequals, Flag.named?_eq_some_iff] at hflag
        refine ⟨flag, ?_, h⟩
        rw [← hflag, String.toList_ofList]
  · rintro ⟨flag, rfl, h⟩
    rwa [long_name]

theorem letters_cons (letter : Char) (row : List Char) : p.letters (letter :: row) =
    (match Flag.lettered? letter with
      | none => .error (.rejected (.unexpected (String.ofList ['-', letter]) (some .asValue) .general))
      | some flag => p.flag flag) >>= (·.letters row) :=
  List.foldlM_cons

/-- Only `v` is a letter after which reading goes on. -/
theorem exists_of_letters_cons {letter : Char} {row : List Char} (h : p.letters (letter :: row) = .ok q) :
    ∃ next, letter = 'v' ∧ p.flag .verbose = .ok next ∧ next.letters row = .ok q := by
  rw [letters_cons, bind_eq_ok_iff] at h
  obtain ⟨next, hflag, hrow⟩ := h
  split at hflag
  · cases hflag
  · rename_i flag hfound
    have hletter := Flag.letter?_of_lettered? hfound
    rcases (flag_eq_ok_iff.mp hflag).1 with rfl | rfl
    · exact ⟨next, (Option.some.inj hletter).symm, hflag, hrow⟩
    · cases hletter

theorem row_of_letters {letter : Char} {row : List Char} (h : p.letters (letter :: row) = .ok q) :
    letter :: row = ['v'] := by
  obtain ⟨next, rfl, hflag, hrow⟩ := exists_of_letters_cons h
  cases row with
  | nil => rfl
  | cons letter row =>
    -- a second `v` finds that the option has been given
    obtain ⟨_, -, hagain, -⟩ := exists_of_letters_cons hrow
    have hfree := (flag_eq_ok_iff.mp hagain).2.1
    rw [(flag_eq_ok_iff.mp hflag).2.2] at hfree
    simp at hfree

theorem take_of_isPlain (h : IsPlain argument) : p.take argument = p.positional argument := by
  unfold take
  split
  · rename_i body hlist
    rcases h with rfl | h
    · cases hlist
    · simp [hlist] at h
  · rename_i letter row hletter hlist
    rcases h with rfl | h
    · cases hlist
    · simp [hlist] at h
  · rfl

theorem take_of_spelled (h : spelled? argument = some flag) : p.take argument = p.flag flag := by
  rcases eq_of_spelled h with rfl | rfl
  · exact take_verbose (spelled?_eq_verbose_iff.mp h) p
  · obtain rfl := spelled?_eq_trimNewline_iff.mp h
    exact long_name .trimNewline

/-- After any other argument in front of `--`, reading does not go on. -/
theorem exists_spelled_of_take (h : p.take argument = .ok q) (hplain : ¬ IsPlain argument) :
    ∃ flag, spelled? argument = some flag := by
  unfold take at h
  split at h
  · rename_i body hlist
    obtain ⟨flag, rfl, hflag⟩ := long_eq_ok_iff.mp h
    have hargument : argument = flag.long := by
      rw [← String.toList_inj, hlist, Flag.long, String.toList_append]
      rfl
    refine ⟨flag, ?_⟩
    rcases (flag_eq_ok_iff.mp hflag).1 with rfl | rfl
    · exact spelled?_eq_verbose_iff.mpr (.inr hargument)
    · exact spelled?_eq_trimNewline_iff.mpr hargument
  · rename_i letter row hletter hlist
    rw [row_of_letters h] at hlist
    exact ⟨.verbose, spelled?_eq_verbose_iff.mpr (.inl (String.toList_inj.mp hlist))⟩
  · rename_i hlong hletters
    -- what begins with a dash and has nothing behind it is `-`
    refine absurd ?_ hplain
    cases hlist : argument.toList with
    | nil => exact .inr (by simp [hlist])
    | cons c rest =>
      by_cases hc : c = '-'
      · subst hc
        cases rest with
        | nil => exact .inl (String.toList_inj.mp hlist)
        | cons letter row => exact absurd hlist (hletters letter row)
      · exact .inr (by simpa [hlist] using hc)

/-- All that an argument in front of `--` can do. -/
theorem take_eq_ok_iff : p.take argument = .ok q ↔
    (∃ flag, spelled? argument = some flag ∧ flag ∉ p.flags ∧ q = p.withFlag flag) ∨
    (IsPlain argument ∧ p.positionals.length < 2 ∧ q = p.withPositional argument) := by
  by_cases hplain : IsPlain argument
  · rw [take_of_isPlain hplain, positional_eq_ok_iff, spelled?_eq_none hplain]
    simp [hplain]
  · constructor
    · intro h
      obtain ⟨flag, hspelled⟩ := exists_spelled_of_take h hplain
      rw [take_of_spelled hspelled, flag_eq_ok_iff] at h
      exact .inl ⟨flag, hspelled, h.2⟩
    · rintro (⟨flag, hspelled, h⟩ | ⟨hplain', -⟩)
      · rw [take_of_spelled hspelled, flag_eq_ok_iff]
        exact ⟨eq_of_spelled hspelled, h⟩
      · exact absurd hplain' hplain

/-! ## What has been read, and what is to come -/

/-- What holds as long as reading goes on. -/
structure Valid (p : Progress) : Prop where
  flags : p.flags.Nodup
  positionals : p.positionals.length ≤ 2

theorem valid_start : start.Valid := ⟨List.nodup_nil, Nat.zero_le 2⟩

theorem Valid.withPositional (h : p.Valid) (hlt : p.positionals.length < 2) : (p.withPositional argument).Valid where
  flags := h.flags
  positionals := by
    rw [positionals_withPositional, List.length_append, List.length_singleton]
    exact hlt

theorem Valid.take (h : p.Valid) (htake : p.take argument = .ok q) : q.Valid := by
  rcases take_eq_ok_iff.mp htake with ⟨flag, -, hfree, rfl⟩ | ⟨-, hlt, rfl⟩
  · refine ⟨?_, h.positionals⟩
    rw [flags_withFlag, ← List.concat_eq_append]
    exact h.flags.concat hfree
  · exact h.withPositional hlt

def allFlags (p : Progress) (arguments : List String) : List Flag :=
  p.flags ++ (beforeDashes arguments).filterMap spelled?

def allPositionals (p : Progress) (arguments : List String) : List String :=
  p.positionals ++ placed arguments

theorem allFlags_start (arguments : List String) :
    start.allFlags arguments = (beforeDashes arguments).filterMap spelled? :=
  List.nil_append _

theorem allPositionals_start (arguments : List String) : start.allPositionals arguments = placed arguments :=
  List.nil_append _

theorem allFlags_take (hdashes : argument ≠ "--") (h : p.take argument = .ok q) (rest : List String) :
    q.allFlags rest = p.allFlags (argument :: rest) := by
  unfold allFlags
  rw [beforeDashes_cons hdashes]
  rcases take_eq_ok_iff.mp h with ⟨flag, hspelled, -, rfl⟩ | ⟨hplain, -, rfl⟩
  · rw [List.filterMap_cons_some hspelled, flags_withFlag, List.append_assoc, List.singleton_append]
  · rw [List.filterMap_cons_none (spelled?_eq_none hplain), flags_withPositional]

theorem allPositionals_take (h : p.take argument = .ok q) (rest : List String) :
    q.allPositionals rest = p.allPositionals (argument :: rest) := by
  unfold allPositionals
  rcases take_eq_ok_iff.mp h with ⟨flag, hspelled, -, rfl⟩ | ⟨hplain, -, rfl⟩
  · rw [placed_spelled hspelled, positionals_withFlag]
  · rw [placed_plain hplain, positionals_withPositional, List.append_assoc, List.singleton_append]

theorem exists_take (hdashes : argument ≠ "--")
    (hknown : (∃ flag, spelled? argument = some flag) ∨ IsPlain argument)
    (honce : (p.allFlags (argument :: rest)).Nodup) (hroom : (p.allPositionals (argument :: rest)).length ≤ 2) :
    ∃ next, p.take argument = .ok next := by
  rcases hknown with ⟨flag, hspelled⟩ | hplain
  · have hfree : flag ∉ p.flags := by
      unfold allFlags at honce
      rw [beforeDashes_cons hdashes, List.filterMap_cons_some hspelled] at honce
      intro hmem
      exact (List.nodup_append.mp honce).2.2 flag hmem flag List.mem_cons_self rfl
    exact ⟨_, take_eq_ok_iff.mpr (.inl ⟨flag, hspelled, hfree, rfl⟩)⟩
  · have hlt : p.positionals.length < 2 := by
      unfold allPositionals at hroom
      rw [placed_plain hplain, List.length_append, List.length_cons] at hroom
      omega
    exact ⟨_, take_eq_ok_iff.mpr (.inr ⟨hplain, hlt, rfl⟩)⟩

/-- Behind `--`, arguments are read while there is room. -/
theorem exists_foldlM_positional_iff (h : p.Valid) :
    (∃ q, arguments.foldlM (fun p argument => p.positional argument) p = .ok q ∧ q.flags = flags ∧
        q.positionals = positionals) ↔
      flags = p.flags ∧ positionals = p.positionals ++ arguments ∧ positionals.length ≤ 2 := by
  induction arguments generalizing p with
  | nil =>
    rw [List.append_nil]
    constructor
    · rintro ⟨q, hq, rfl, rfl⟩
      obtain rfl := Except.ok.inj hq
      exact ⟨rfl, rfl, h.positionals⟩
    · rintro ⟨rfl, rfl, -⟩
      exact ⟨p, rfl, rfl, rfl⟩
  | cons argument rest ih =>
    rw [List.append_cons]
    simp only [List.foldlM_cons, bind_eq_ok_iff, positional_eq_ok_iff]
    constructor
    · rintro ⟨q, ⟨next, ⟨hlt, rfl⟩, hread⟩, hq⟩
      exact (ih (h.withPositional hlt)).mp ⟨q, hread, hq⟩
    · rintro ⟨hflags, hpositionals, hroom⟩
      have hlt : p.positionals.length < 2 := by
        rw [hpositionals, List.length_append, List.length_append, List.length_singleton] at hroom
        omega
      obtain ⟨q, hread, hq⟩ := (ih (h.withPositional hlt)).mpr ⟨hflags, hpositionals, hroom⟩
      exact ⟨q, ⟨_, ⟨hlt, rfl⟩, hread⟩, hq⟩

/-- The lists that can be read on from a place, with what has been read at their end. -/
theorem exists_read_iff (h : p.Valid) :
    (∃ q, p.read arguments = .ok q ∧ q.flags = flags ∧ q.positionals = positionals) ↔
      (∀ argument ∈ beforeDashes arguments, (∃ flag, spelled? argument = some flag) ∨ IsPlain argument) ∧
      (flags = p.allFlags arguments ∧ flags.Nodup) ∧
      positionals = p.allPositionals arguments ∧ positionals.length ≤ 2 := by
  induction arguments generalizing p with
  | nil =>
    unfold allFlags allPositionals
    rw [read_nil, beforeDashes_nil, placed_nil, List.filterMap_nil, List.append_nil, List.append_nil]
    constructor
    · rintro ⟨q, hq, rfl, rfl⟩
      obtain rfl := Except.ok.inj hq
      exact ⟨by simp, ⟨rfl, h.flags⟩, rfl, h.positionals⟩
    · rintro ⟨-, ⟨rfl, -⟩, rfl, -⟩
      exact ⟨p, rfl, rfl, rfl⟩
  | cons argument rest ih =>
    by_cases hdashes : argument = "--"
    · subst hdashes
      unfold allFlags allPositionals
      rw [read_dashes, exists_foldlM_positional_iff h, beforeDashes_dashes, placed_dashes, List.filterMap_nil,
        List.append_nil]
      constructor
      · rintro ⟨rfl, hpositionals⟩
        exact ⟨by simp, ⟨rfl, h.flags⟩, hpositionals⟩
      · rintro ⟨-, ⟨rfl, -⟩, hpositionals⟩
        exact ⟨rfl, hpositionals⟩
    · rw [read_cons hdashes, beforeDashes_cons hdashes, List.forall_mem_cons]
      simp only [bind_eq_ok_iff]
      constructor
      · rintro ⟨q, ⟨next, htake, hread⟩, hq⟩
        obtain ⟨hknown, hflags, hpositionals⟩ := (ih (h.take htake)).mp ⟨q, hread, hq⟩
        rw [allFlags_take hdashes htake] at hflags
        rw [allPositionals_take htake] at hpositionals
        have hargument := take_eq_ok_iff.mp htake
        refine ⟨⟨hargument.imp ?_ ?_, hknown⟩, hflags, hpositionals⟩
        · exact fun ⟨flag, hspelled, _⟩ => ⟨flag, hspelled⟩
        · exact fun ⟨hplain, _⟩ => hplain
      · rintro ⟨⟨hargument, hknown⟩, ⟨hflags, honce⟩, hpositionals, hroom⟩
        obtain ⟨next, htake⟩ := exists_take hdashes hargument (hflags ▸ honce) (hpositionals ▸ hroom)
        rw [← allFlags_take hdashes htake] at hflags
        rw [← allPositionals_take htake] at hpositionals
        obtain ⟨q, hread, hq⟩ := (ih (h.take htake)).mpr ⟨hknown, ⟨hflags, honce⟩, hpositionals, hroom⟩
        exact ⟨q, ⟨next, htake, hread⟩, hq⟩

end Progress

/-! ## Accepted lists -/

theorem verbose_mem_filterMap_iff :
    Flag.verbose ∈ arguments.filterMap spelled? ↔ ∃ argument ∈ arguments, IsVerbose argument := by
  simp [spelled?_eq_verbose_iff]

theorem trimNewline_mem_filterMap_iff :
    Flag.trimNewline ∈ arguments.filterMap spelled? ↔ "--trim-newline" ∈ arguments := by
  simp [spelled?_eq_trimNewline_iff]

theorem nodup_filterMap_spelled?_iff : (arguments.filterMap spelled?).Nodup ↔
    arguments.countP (IsVerbose ·) ≤ 1 ∧ arguments.count "--trim-newline" ≤ 1 := by
  have hverbose : (arguments.filterMap spelled?).count .verbose = arguments.countP (IsVerbose ·) := by
    rw [List.count_filterMap]
    refine List.countP_congr fun argument _ => ?_
    simp [spelled?_eq_verbose_iff]
  have htrim : (arguments.filterMap spelled?).count .trimNewline = arguments.count "--trim-newline" := by
    rw [List.count_filterMap, List.count]
    refine List.countP_congr fun argument _ => ?_
    simp [spelled?_eq_trimNewline_iff]
  rw [List.nodup_iff_count_le_one, ← hverbose, ← htrim]
  constructor
  · intro h
    exact ⟨h .verbose, h .trimNewline⟩
  · rintro ⟨hverbose, htrim⟩ flag
    by_cases hmem : flag ∈ arguments.filterMap spelled?
    · obtain ⟨argument, -, hspelled⟩ := List.mem_filterMap.mp hmem
      rcases eq_of_spelled hspelled with rfl | rfl
      · exact hverbose
      · exact htrim
    · rw [List.count_eq_zero_of_not_mem hmem]
      exact Nat.zero_le 1

variable {request : Request}

/-- A list asks for something if it can be read and has two arguments that are told by their place. -/
theorem read_eq_request_iff_exists : read false arguments = .ok (.request request) ↔
    ∃ p path query rest, Progress.start.read arguments = .ok p ∧ p.positionals = path :: query :: rest ∧
      request = ⟨path, query, decide (.verbose ∈ p.flags), decide (.trimNewline ∈ p.flags)⟩ := by
  constructor
  · intro h
    cases hread : Progress.start.read arguments with
    | error stop =>
      rw [read_of_error hread] at h
      cases h
    | ok p =>
      rcases hp : p.positionals with _ | ⟨path, _ | ⟨query, rest⟩⟩
      · obtain ⟨reason, hreason⟩ := read_of_few hread (by simp [hp])
        rw [hreason] at h
        cases h
      · obtain ⟨reason, hreason⟩ := read_of_few hread (by simp [hp])
        rw [hreason] at h
        cases h
      · rw [read_of_two hread hp] at h
        cases h
        exact ⟨p, path, query, rest, rfl, hp, rfl⟩
  · rintro ⟨p, path, query, rest, hread, hp, rfl⟩
    exact read_of_two hread hp false

theorem read_eq_request_iff : read false arguments = .ok (.request request) ↔
    IsRequest arguments ∧ placed arguments = [request.templatePath, request.query] ∧
      (request.verbose = true ↔ ∃ argument ∈ beforeDashes arguments, IsVerbose argument) ∧
      (request.trimNewline = true ↔ "--trim-newline" ∈ beforeDashes arguments) := by
  rw [read_eq_request_iff_exists, ← verbose_mem_filterMap_iff, ← trimNewline_mem_filterMap_iff]
  constructor
  · rintro ⟨p, path, query, rest, hread, hp, rfl⟩
    obtain ⟨hknown, ⟨hflags, honce⟩, hplaced, hroom⟩ :=
      (Progress.exists_read_iff Progress.valid_start).mp ⟨p, hread, rfl, rfl⟩
    rw [Progress.allFlags_start] at hflags
    rw [Progress.allPositionals_start] at hplaced
    rw [hflags, nodup_filterMap_spelled?_iff] at honce
    obtain rfl : rest = [] := by
      rw [hp, List.length_cons, List.length_cons] at hroom
      exact List.eq_nil_of_length_eq_zero (by omega)
    rw [hp] at hplaced
    refine ⟨⟨fun argument hargument => known_iff.mpr (hknown argument hargument), honce.1, honce.2, ?_⟩,
      hplaced.symm, ?_, ?_⟩
    · rw [← hplaced]
      rfl
    · rw [hflags, decide_eq_true_iff]
    · rw [hflags, decide_eq_true_iff]
  · rintro ⟨h, hplaced, hverbose, htrim⟩
    have honce := nodup_filterMap_spelled?_iff.mpr ⟨h.verbose, h.trimNewline⟩
    obtain ⟨p, hread, hflags, hp⟩ : ∃ p, Progress.start.read arguments = .ok p ∧
        p.flags = (beforeDashes arguments).filterMap spelled? ∧
        p.positionals = [request.templatePath, request.query] := by
      refine (Progress.exists_read_iff Progress.valid_start).mpr ⟨?_, ⟨?_, honce⟩, ?_, Nat.le_refl 2⟩
      · exact fun argument hargument => known_iff.mp (h.known argument hargument)
      · rw [Progress.allFlags_start]
      · rw [Progress.allPositionals_start, hplaced]
    rw [← hflags] at hverbose htrim
    have hv : request.verbose = decide (.verbose ∈ p.flags) := by
      rw [Bool.eq_iff_iff, decide_eq_true_iff, hverbose]
    have ht : request.trimNewline = decide (.trimNewline ∈ p.flags) := by
      rw [Bool.eq_iff_iff, decide_eq_true_iff, htrim]
    refine ⟨p, request.templatePath, request.query, [], hread, hp, ?_⟩
    rw [← hv, ← ht]

theorem IsRequest.exists_read (h : IsRequest arguments) :
    ∃ request, read false arguments = .ok (.request request) := by
  obtain ⟨path, query, hplaced⟩ := List.length_eq_two.mp h.two
  let request : Request := ⟨path, query, decide (∃ argument ∈ beforeDashes arguments, IsVerbose argument),
    decide ("--trim-newline" ∈ beforeDashes arguments)⟩
  exact ⟨request, read_eq_request_iff.mpr ⟨h, hplaced, decide_eq_true_iff, decide_eq_true_iff⟩⟩

theorem IsRequest.of_perm {other : List String} (h : IsRequest arguments)
    (hperm : (beforeDashes other).Perm (beforeDashes arguments)) (hplaced : placed other = placed arguments) :
    IsRequest other where
  known := fun argument hargument => h.known argument (hperm.mem_iff.mp hargument)
  verbose := by
    rw [hperm.countP_eq]
    exact h.verbose
  trimNewline := by
    rw [hperm.count_eq]
    exact h.trimNewline
  two := by
    rw [hplaced]
    exact h.two

/-- A list of arguments is accepted exactly if it is made of options and arguments told by their place as `IsRequest`
says. Then these are the path and the query, in order, and an option counts if it stands in front of `--`, wherever
that is. -/
theorem exists_request_iff_isRequest (arguments : List String) :
    ((∃ request, read false arguments = .ok (.request request)) ↔ IsRequest arguments) ∧
    (∀ request, read false arguments = .ok (.request request) →
      placed arguments = [request.templatePath, request.query] ∧
      (request.verbose = true ↔ ∃ argument ∈ beforeDashes arguments, IsVerbose argument) ∧
      (request.trimNewline = true ↔ "--trim-newline" ∈ beforeDashes arguments)) ∧
    ∀ other, (beforeDashes other).Perm (beforeDashes arguments) → placed other = placed arguments →
      ∀ request, read false other = .ok (.request request) ↔ read false arguments = .ok (.request request) := by
  refine ⟨⟨?_, IsRequest.exists_read⟩, ?_, ?_⟩
  · rintro ⟨request, hread⟩
    exact (read_eq_request_iff.mp hread).1
  · intro request hread
    exact (read_eq_request_iff.mp hread).2
  · intro other hperm hplaced request
    have hrequest : IsRequest other ↔ IsRequest arguments :=
      ⟨fun h => h.of_perm hperm.symm hplaced.symm, fun h => h.of_perm hperm hplaced⟩
    have hverbose : (∃ argument ∈ beforeDashes other, IsVerbose argument) ↔
        ∃ argument ∈ beforeDashes arguments, IsVerbose argument :=
      exists_congr fun argument => and_congr_left fun _ => hperm.mem_iff
    rw [read_eq_request_iff, read_eq_request_iff, hrequest, hplaced, hverbose, hperm.mem_iff]

theorem exists_request_iff_isRequest_dash :
    let arguments := ["-", "-v", "--trim-newline", "--", "-v"]
    let moved := ["--trim-newline", "-v", "-", "--", "-v"]
    IsRequest arguments ∧ ¬ IsRequest ["-vv", "-", "-v"] ∧
    read false arguments = .ok (.request ⟨"-", "-v", true, true⟩) ∧
    read false moved = .ok (.request ⟨"-", "-v", true, true⟩) ∧
    ∀ request, read false ["-vv", "-", "-v"] ≠ .ok (.request request) := by
  intro arguments moved
  have hrequest : IsRequest arguments := ⟨by decide, by decide, by decide, by decide⟩
  have hrow : ¬ IsRequest ["-vv", "-", "-v"] := fun h => absurd (h.known "-vv" (by decide)) (by decide)
  obtain ⟨haccepted, hvalues, hmoved⟩ := exists_request_iff_isRequest arguments
  obtain ⟨⟨path, query, verbose, trimNewline⟩, hread⟩ := haccepted.mpr hrequest
  obtain ⟨hplaced, hverbose, htrim⟩ := hvalues _ hread
  have hitems : placed arguments = ["-", "-v"] := by decide
  obtain ⟨rfl, rfl⟩ : "-" = path ∧ "-v" = query := by simpa [hitems] using hplaced
  obtain rfl : verbose = true := hverbose.mpr ⟨"-v", by decide, .inl rfl⟩
  obtain rfl : trimNewline = true := htrim.mpr (by decide)
  have hperm : (beforeDashes moved).Perm (beforeDashes arguments) := by decide
  have hrejected := fun request hread =>
    hrow ((exists_request_iff_isRequest ["-vv", "-", "-v"]).1.mp ⟨request, hread⟩)
  exact ⟨hrequest, hrow, hread, (hmoved moved hperm hitems _).mpr hread, hrejected⟩

end Stencil.CommandLine
