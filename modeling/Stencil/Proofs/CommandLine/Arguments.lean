import Stencil.CommandLine.Arguments

/-!
# Reading arguments

In front of `--` each argument is taken on its own (`Progress.read_cons`), so a list is read part by part
(`Progress.read_append`). From there the reading is compared with the reading of the same list with `-v` or `--verbose`
put in somewhere: what has been read stays the same but for this option (`Louder`), and so does the outcome, unless the
option was there before (`Alike`).
-/

namespace Stencil.CommandLine

variable {p q : Progress} {argument : String} {arguments before after : List String}

namespace Progress

/-- Takes an argument that is not `--`. -/
def take (argument : String) (p : Progress) : Except Stop Progress :=
  match argument.toList with
  | '-' :: '-' :: body => p.long body
  | '-' :: letter :: row => p.letters (letter :: row)
  | _ => p.positional argument

theorem read_nil (p : Progress) : p.read [] = .ok p := by
  rw [read]

/-- Behind `--` everything is told by its place. -/
theorem read_dashes (p : Progress) (rest : List String) :
    p.read ("--" :: rest) = rest.foldlM (fun p argument => p.positional argument) p := by
  have hdashes : "--".toList = ['-', '-'] := rfl
  rw [read]
  simp only [hdashes]

theorem read_cons (h : argument ≠ "--") (p : Progress) (rest : List String) :
    p.read (argument :: rest) = p.take argument >>= (·.read rest) := by
  have hdashes : argument.toList ≠ ['-', '-'] := fun hlist => h (String.toList_inj.mp hlist)
  rw [read, take]
  split
  · contradiction
  · rename_i hlist
    simp only [hlist]
  · rename_i hlist
    simp only [hlist]
  · simp only

/-- A list is read part by part. -/
theorem read_append (h : "--" ∉ before) (p : Progress) :
    p.read (before ++ after) = p.read before >>= (·.read after) := by
  induction before generalizing p with
  | nil => rw [List.nil_append, read_nil]; rfl
  | cons argument before ih =>
    have hargument : argument ≠ "--" := fun h' => h (h' ▸ List.mem_cons_self)
    have hbefore : "--" ∉ before := fun h' => h (List.mem_cons_of_mem argument h')
    rw [List.cons_append, read_cons hargument, read_cons hargument, bind_assoc]
    exact bind_congr fun p => ih hbefore p

/-- Both spellings of the verbose option take that option. -/
theorem take_verbose (h : argument = "-v" ∨ argument = "--verbose") (p : Progress) :
    p.take argument = p.flag .verbose := by
  obtain rfl | rfl := h
  · have htake : p.take "-v" = p.letters ['v'] := rfl
    have hletter : Flag.lettered? 'v' = some .verbose := by decide
    rw [htake, letters, List.foldlM_cons, hletter]
    exact bind_pure (p.flag .verbose)
  · have htake : p.take "--verbose" = p.long "verbose".toList := rfl
    have hname : Flag.named? (String.ofList ("verbose".toList.takeWhile (· ≠ '='))) = some .verbose := by decide
    have hequals : '=' ∉ "verbose".toList := by decide
    rw [htake]
    unfold long
    simp only [hname, if_neg hequals]

end Progress

/-! ## What a list comes to -/

theorem read_of_error {stop : Stop} (h : Progress.start.read arguments = .error stop) (optional : Bool) :
    read optional arguments = .error stop := by
  rw [read, h]
  rfl

theorem read_of_two {path query : String} {rest : List String} (h : Progress.start.read arguments = .ok p)
    (hp : p.positionals = path :: query :: rest) (optional : Bool) :
    read optional arguments =
      .ok (.request ⟨path, query, decide (.verbose ∈ p.flags), decide (.trimNewline ∈ p.flags)⟩) := by
  obtain ⟨flags, positionals, settled⟩ := p
  obtain rfl : positionals = path :: query :: rest := hp
  rw [read, h]
  rfl

theorem read_of_few (h : Progress.start.read arguments = .ok p) (hp : p.positionals.length < 2) :
    ∃ reason, read false arguments = .error (.rejected reason) := by
  obtain ⟨flags, positionals, settled⟩ := p
  rw [read, h]
  match positionals, hp with
  | [], _ => exact ⟨_, rfl⟩
  | [_], _ => exact ⟨_, rfl⟩

/-- Missing arguments are noticed while the arguments are read. -/
theorem read_ne_incomplete (arguments : List String) (missing : Positional) :
    read false arguments ≠ .ok (.incomplete missing) := by
  intro h
  cases hread : Progress.start.read arguments with
  | error stop =>
    rw [read_of_error hread] at h
    cases h
  | ok p =>
    rcases hp : p.positionals with _ | ⟨path, _ | ⟨query, rest⟩⟩
    · obtain ⟨reason, hreason⟩ := read_of_few hread (by simp [hp])
      rw [hreason] at h
      cases h
    · obtain ⟨reason, hreason⟩ := read_of_few hread (by simp [hp])
      rw [hreason] at h
      cases h
    · rw [read_of_two hread hp] at h
      cases h

/-! ## One option more -/

/-- What has been read with the verbose option in addition. -/
structure Louder (p q : Progress) : Prop where
  positionals : q.positionals = p.positionals
  verbose : .verbose ∈ q.flags
  flags : ∀ flag, flag ≠ .verbose → (flag ∈ q.flags ↔ flag ∈ p.flags)

/-- How reading ends with the verbose option in addition: as it does without, except that the list may be rejected for
another reason, or because the option was given before. -/
inductive Alike : Except Stop Progress → Except Stop Progress → Prop where
  | ok {p q : Progress} (h : Louder p q) : Alike (.ok p) (.ok q)
  | help : Alike (.error .help) (.error .help)
  | version : Alike (.error .version) (.error .version)
  | rejected (reason reason' : Rejection) : Alike (.error (.rejected reason)) (.error (.rejected reason'))
  | repeated (outcome : Except Stop Progress) : Alike outcome (.error (.rejected (.repeated .verbose)))

theorem Alike.bind {x y : Except Stop Progress} {f g : Progress → Except Stop Progress} (h : Alike x y)
    (hfg : ∀ p q, Louder p q → Alike (f p) (g q)) : Alike (x >>= f) (y >>= g) := by
  cases h with
  | ok h => exact hfg _ _ h
  | help => exact .help
  | version => exact .version
  | rejected reason reason' => exact .rejected reason reason'
  | repeated outcome => exact .repeated _

/-- What each item keeps alike, a whole list keeps alike. -/
theorem Alike.foldlM {α : Type} {f g : Progress → α → Except Stop Progress} (items : List α)
    (hfg : ∀ p q item, Louder p q → Alike (f p item) (g q item)) (h : Louder p q) :
    Alike (items.foldlM f p) (items.foldlM g q) := by
  induction items generalizing p q with
  | nil => exact .ok h
  | cons item items ih =>
    rw [List.foldlM_cons, List.foldlM_cons]
    exact (hfg p q item h).bind fun p q h => ih h

namespace Louder

theorem flag (h : Louder p q) (flag : Flag) : Alike (p.flag flag) (q.flag flag) := by
  cases flag with
  | help => exact .help
  | version => exact .version
  | verbose =>
    rw [Progress.flag.eq_def .verbose q]
    simp only [if_pos h.verbose]
    exact .repeated _
  | trimNewline =>
    have hmem := h.flags .trimNewline (by decide)
    unfold Progress.flag
    by_cases htrim : .trimNewline ∈ p.flags
    · simp only [if_pos htrim, if_pos (hmem.mpr htrim)]
      exact .rejected _ _
    · simp only [if_neg htrim, if_neg (mt hmem.mp htrim)]
      refine .ok ⟨h.positionals, List.mem_append_left _ h.verbose, fun flag hflag => ?_⟩
      rw [List.mem_append, List.mem_append, h.flags flag hflag]

theorem long (h : Louder p q) (body : List Char) : Alike (p.long body) (q.long body) := by
  simp only [Progress.long]
  generalize String.ofList (body.takeWhile (· ≠ '=')) = name
  cases Flag.named? name with
  | none => exact .rejected _ _
  | some flag =>
    by_cases hvalue : '=' ∈ body
    · simp only [if_pos hvalue]
      exact .rejected _ _
    · simp only [if_neg hvalue]
      exact h.flag flag

theorem letters (h : Louder p q) (row : List Char) : Alike (p.letters row) (q.letters row) := by
  refine Alike.foldlM row (fun p q letter h => ?_) h
  cases Flag.lettered? letter with
  | none => exact .rejected _ _
  | some flag => exact h.flag flag

theorem positional (h : Louder p q) (argument : String) : Alike (p.positional argument) (q.positional argument) := by
  unfold Progress.positional
  rw [h.positionals]
  split
  · exact .ok ⟨rfl, h.verbose, h.flags⟩
  · exact .rejected _ _

theorem take (h : Louder p q) (argument : String) : Alike (p.take argument) (q.take argument) := by
  unfold Progress.take
  split
  · exact h.long _
  · exact h.letters _
  · exact h.positional argument

theorem read (h : Louder p q) (arguments : List String) : Alike (p.read arguments) (q.read arguments) := by
  induction arguments generalizing p q with
  | nil =>
    rw [Progress.read_nil, Progress.read_nil]
    exact .ok h
  | cons argument arguments ih =>
    by_cases hdashes : argument = "--"
    · rw [hdashes, Progress.read_dashes, Progress.read_dashes]
      exact Alike.foldlM arguments (fun p q argument h => h.positional argument) h
    · rw [Progress.read_cons hdashes, Progress.read_cons hdashes]
      exact (h.take argument).bind fun p q h => ih h

end Louder

/-- The verbose option itself. -/
theorem alike_flag_verbose (p : Progress) : Alike (.ok p) (p.flag .verbose) := by
  unfold Progress.flag
  by_cases hverbose : .verbose ∈ p.flags
  · simp only [if_pos hverbose]
    exact .repeated _
  · simp only [if_neg hverbose]
    refine .ok ⟨rfl, List.mem_append_right _ (List.mem_singleton_self _), fun flag hflag => ?_⟩
    rw [List.mem_append, List.mem_singleton, or_iff_left hflag]

theorem Alike.refl_error (stop : Stop) : Alike (.error stop) (.error stop) := by
  cases stop with
  | help => exact .help
  | version => exact .version
  | rejected reason => exact .rejected reason reason

/-- The verbose option may stand anywhere in front of `--`. -/
theorem Progress.alike_read_insert (h : "--" ∉ before) (hflag : argument = "-v" ∨ argument = "--verbose")
    (p : Progress) : Alike (p.read (before ++ after)) (p.read (before ++ argument :: after)) := by
  have hargument : argument ≠ "--" := by
    obtain rfl | rfl := hflag <;> decide
  rw [read_append h, read_append h]
  cases p.read before with
  | error stop => exact .refl_error stop
  | ok p =>
    change Alike (.ok p >>= (·.read after)) (p.read (argument :: after))
    rw [read_cons hargument, take_verbose hflag]
    exact (alike_flag_verbose p).bind fun p q h => h.read after

end Stencil.CommandLine
