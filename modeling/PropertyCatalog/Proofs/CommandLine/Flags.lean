import Mathlib.Data.List.Basic
import PropertyCatalog.CommandLine.Command
import PropertyCatalog.Proofs.Outcome

/-!
# Options that are added to a command line

What it means to add a flag to arguments that are accepted. Options are read one after the other,
and all that an option sees of those before it is whether it was given already. So options in front
change nothing of what is read behind them, unless one of them is given again
(`Reads.append_left`). A flag is also never taken for what another option takes, so wherever it is
put, it is either refused or given besides the others (`IsFlag.given_of_insert`). For the flags of a
check this says what the command becomes.
-/

namespace PropertyCatalog.CommandLine

/-! ## Accepted arguments -/

/-- The option may be given behind those given before it. -/
structure MayFollow (form : OptionForm) (before : List Given) : Prop where
  /-- It is not the request for help, which ends the reading. -/
  ne_help : form ≠ helpForm
  /-- It is repeatable, or it was not given before. -/
  fresh : form.repeatable = true ∨ ∀ g ∈ before, g.name ≠ form.name

/-- The arguments are accepted behind the options given before them, and these are the options then
given. -/
inductive Reads (forms : List OptionForm) : List Given → List String → List Given → Prop
  /-- There is no argument left. -/
  | nil {before : List Given} : Reads forms before [] before
  /-- The last argument is the separator. -/
  | separator {before : List Given} {argument : String}
      (opens : Opened.ofArgument forms (Argument.ofText argument) = some .separator) :
      Reads forms before [argument] before
  /-- The first argument is an option with what it takes. -/
  | whole {before given : List Given} {argument operand : String} {rest : List String}
      {form : OptionForm}
      (opens : Opened.ofArgument forms (Argument.ofText argument) = some (.whole form operand))
      (may_follow : MayFollow form before)
      (reads_rest : Reads forms (before ++ [⟨form.name, operand⟩]) rest given) :
      Reads forms before (argument :: rest) given
  /-- The first argument is an option that takes the second. -/
  | awaiting {before given : List Given} {argument next operand : String} {rest : List String}
      {form : OptionForm}
      (opens : Opened.ofArgument forms (Argument.ofText argument) = some (.awaiting form))
      (takes : followingOperand form next = some operand) (may_follow : MayFollow form before)
      (reads_rest : Reads forms (before ++ [⟨form.name, operand⟩]) rest given) :
      Reads forms before (argument :: next :: rest) given

variable {forms : List OptionForm} {form : OptionForm} {argument next operand name : String}
  {front before given : List Given} {arguments rest : List String}

theorem addOption_eq_ok_iff :
    addOption form operand before = .ok given ↔
      MayFollow form before ∧ before ++ [⟨form.name, operand⟩] = given := by
  have hfresh : (!form.repeatable && before.any (·.name = form.name)) = false ↔
      form.repeatable = true ∨ ∀ g ∈ before, g.name ≠ form.name := by
    cases form.repeatable <;> simp
  rw [addOption]
  split
  next hhelp => exact iff_of_false (by simp) fun h ↦ h.1.ne_help hhelp
  next hhelp =>
    split
    next hagain =>
      refine iff_of_false (by simp) fun h ↦ ?_
      rw [hfresh.mpr h.1.fresh] at hagain
      cases hagain
    next hfirst =>
      rw [Bool.not_eq_true] at hfirst
      rw [Except.ok.injEq, and_iff_right ⟨hhelp, hfresh.mp hfirst⟩]

theorem readOptions_eq_ok_iff :
    readOptions forms before arguments = .ok given ↔ Reads forms before arguments given := by
  constructor
  · intro h
    -- only four of the branches succeed, and each is a constructor
    fun_induction readOptions forms before arguments with
    | case1 before =>
      cases h
      exact .nil
    | case3 before argument rest opens hlast =>
      cases h
      obtain rfl := List.isEmpty_iff.mp hlast
      exact .separator opens
    | case6 before argument rest form operand opens given' hadd ih =>
      obtain ⟨hfollow, rfl⟩ := addOption_eq_ok_iff.mp hadd
      exact .whole opens hfollow (ih h)
    | case10 before argument form opens next rest operand takes given' hadd ih =>
      obtain ⟨hfollow, rfl⟩ := addOption_eq_ok_iff.mp hadd
      exact .awaiting opens takes hfollow (ih h)
    | _ => cases h
  · intro h
    induction h with
    | nil => rfl
    | separator opens => simp [readOptions, opens]
    | @whole before _ _ operand _ form opens may_follow _ ih =>
      have hadd : addOption form operand before = _ := addOption_eq_ok_iff.mpr ⟨may_follow, rfl⟩
      simp only [readOptions, opens, hadd, ih]
    | @awaiting before _ _ _ operand _ form opens takes may_follow _ ih =>
      have hadd : addOption form operand before = _ := addOption_eq_ok_iff.mpr ⟨may_follow, rfl⟩
      simp only [readOptions, opens, takes, hadd, ih]

namespace Reads

theorem isPrefix (h : Reads forms before arguments given) : before <+: given := by
  induction h with
  | nil => exact List.prefix_rfl
  | separator => exact List.prefix_rfl
  | whole _ _ _ ih => exact (List.prefix_append _ _).trans ih
  | awaiting _ _ _ _ ih => exact (List.prefix_append _ _).trans ih

private theorem mayFollow_append_left (h : MayFollow form before)
    (hgiven : before ++ [⟨form.name, operand⟩] <+: given)
    (hfront : ∀ f ∈ front, ∀ g ∈ given, g.name ≠ f.name) : MayFollow form (front ++ before) := by
  refine ⟨h.ne_help, h.fresh.imp_right fun hfresh ↦ ?_⟩
  have hmem : ⟨form.name, operand⟩ ∈ given := hgiven.subset (by simp)
  refine List.forall_mem_append.mpr ⟨fun f hf heq ↦ ?_, hfresh⟩
  exact hfront f hf _ hmem heq.symm

/-- Options in front change nothing of what is given behind them, unless one of them is given
again. -/
theorem append_left (h : Reads forms before arguments given)
    (hfront : ∀ f ∈ front, ∀ g ∈ given, g.name ≠ f.name) :
    Reads forms (front ++ before) arguments (front ++ given) := by
  -- `given` stays as the reading goes on, so `hfront` speaks of every option that is still to come
  induction h with
  | nil => exact .nil
  | separator opens => exact .separator opens
  | whole opens may_follow reads_rest ih =>
    have hrest := ih hfront
    rw [← List.append_assoc] at hrest
    exact .whole opens (mayFollow_append_left may_follow reads_rest.isPrefix hfront) hrest
  | awaiting opens takes may_follow reads_rest ih =>
    have hrest := ih hfront
    rw [← List.append_assoc] at hrest
    exact .awaiting opens takes (mayFollow_append_left may_follow reads_rest.isPrefix hfront) hrest

theorem tail_of_whole
    (opens : Opened.ofArgument forms (Argument.ofText argument) = some (.whole form operand))
    (h : Reads forms before (argument :: rest) given) :
    Reads forms (before ++ [⟨form.name, operand⟩]) rest given := by
  cases h with
  | separator opens' => simp [opens] at opens'
  | awaiting opens' => simp [opens] at opens'
  | whole opens' _ reads_rest =>
    rw [opens, Option.some_inj, Opened.whole.injEq] at opens'
    obtain ⟨rfl, rfl⟩ := opens'
    exact reads_rest

theorem tail_of_awaiting
    (opens : Opened.ofArgument forms (Argument.ofText argument) = some (.awaiting form))
    (takes : followingOperand form next = some operand)
    (h : Reads forms before (argument :: next :: rest) given) :
    Reads forms (before ++ [⟨form.name, operand⟩]) rest given := by
  cases h with
  | whole opens' => simp [opens] at opens'
  | awaiting opens' takes' _ reads_rest =>
    rw [opens, Option.some_inj, Opened.awaiting.injEq] at opens'
    subst opens'
    rw [takes, Option.some_inj] at takes'
    subst takes'
    exact reads_rest

/-- What arguments give does not depend on what was given before them. -/
theorem exists_eq_append (h : Reads forms before arguments given) :
    ∃ new, given = before ++ new ∧
      ∀ before' given', Reads forms before' arguments given' → given' = before' ++ new := by
  induction h with
  | nil =>
    refine ⟨[], (List.append_nil _).symm, fun before' given' h' ↦ ?_⟩
    cases h'
    exact (List.append_nil before').symm
  | separator opens =>
    refine ⟨[], (List.append_nil _).symm, fun before' given' h' ↦ ?_⟩
    cases h' with
    | separator => exact (List.append_nil before').symm
    | whole opens' => simp [opens] at opens'
  | whole opens _ _ ih =>
    obtain ⟨new, rfl, hnew⟩ := ih
    refine ⟨_ :: new, List.append_assoc _ _ _, fun before' given' h' ↦ ?_⟩
    rw [hnew _ _ (h'.tail_of_whole opens), List.append_assoc, List.singleton_append]
  | awaiting opens takes _ _ ih =>
    obtain ⟨new, rfl, hnew⟩ := ih
    refine ⟨_ :: new, List.append_assoc _ _ _, fun before' given' h' ↦ ?_⟩
    rw [hnew _ _ (h'.tail_of_awaiting opens takes), List.append_assoc, List.singleton_append]

end Reads

/-! ## Flags -/

/-- The argument is an option that takes nothing, and no other option takes it. -/
structure IsFlag (forms : List OptionForm) (flag : String) (form : OptionForm) : Prop where
  /-- The argument is all of the option. -/
  opens : Opened.ofArgument forms (Argument.ofText flag) = some (.whole form "")
  /-- The option is not the request for help. -/
  ne_help : form ≠ helpForm
  /-- No option before it takes it. -/
  not_operand : ∀ form', followingOperand form' flag = none

namespace IsFlag

variable {flag : String} {before' given' : List Given} {left right : List String}

/-- A flag can be put in front of arguments that do not give it. -/
theorem reads_cons (hflag : IsFlag forms flag form) (h : Reads forms [] arguments given)
    (hnew : isGiven given form.name = false) :
    Reads forms [] (flag :: arguments) (⟨form.name, ""⟩ :: given) := by
  have hfront : ∀ f ∈ [(⟨form.name, ""⟩ : Given)], ∀ g ∈ given, g.name ≠ f.name := by
    simpa [isGiven] using hnew
  exact .whole hflag.opens ⟨hflag.ne_help, .inr nofun⟩ (h.append_left hfront)

/-- Wherever a flag is put, it is given between what the arguments around it give. -/
theorem given_of_insert (hflag : IsFlag forms flag form)
    (h : Reads forms before (left ++ right) given)
    (h' : Reads forms before' (left ++ flag :: right) given') :
    ∃ front back, given = before ++ (front ++ back) ∧
      given' = before' ++ (front ++ ⟨form.name, ""⟩ :: back) := by
  generalize hargs : left ++ flag :: right = arguments' at h'
  -- along the reading with the flag; the one without it takes the same steps up to there
  induction h' generalizing left before with
  | nil => simp at hargs
  | separator opens =>
    cases left with
    | nil =>
      cases hargs
      simp [hflag.opens] at opens
    | cons a left => simp at hargs
  | @whole before' given' argument operand rest form' opens _ reads_rest ih =>
    cases left with
    | nil =>
      cases hargs
      rw [hflag.opens, Option.some_inj, Opened.whole.injEq] at opens
      obtain ⟨rfl, rfl⟩ := opens
      obtain ⟨new, hnew, hsame⟩ := h.exists_eq_append
      refine ⟨[], new, hnew, ?_⟩
      rw [hsame _ _ reads_rest, List.append_assoc]
      rfl
    | cons a left =>
      cases hargs
      obtain ⟨front, back, rfl, rfl⟩ := ih (h.tail_of_whole opens) rfl
      exact ⟨⟨form'.name, operand⟩ :: front, back, by simp, by simp⟩
  | @awaiting before' given' argument next operand rest form' opens takes _ _ ih =>
    cases left with
    | nil =>
      cases hargs
      simp [hflag.opens] at opens
    | cons a left =>
      cases left with
      | nil =>
        cases hargs
        simp [hflag.not_operand] at takes
      | cons b left =>
        cases hargs
        obtain ⟨front, back, rfl, rfl⟩ := ih (h.tail_of_awaiting opens takes) rfl
        exact ⟨⟨form'.name, operand⟩ :: front, back, by simp, by simp⟩

end IsFlag

/-! ## What the arguments of a check mean -/

section Meaning

variable {g : Given} {back : List Given}

theorem operands_insert_of_ne (h : g.name ≠ name) :
    operands (front ++ g :: back) name = operands (front ++ back) name := by
  simp [operands, h]

theorem isGiven_insert_of_ne (h : g.name ≠ name) :
    isGiven (front ++ g :: back) name = isGiven (front ++ back) name := by
  simp [isGiven, h]

theorem isGiven_insert_of_eq (h : g.name = name) :
    isGiven (front ++ g :: back) name = true := by
  simp [isGiven, h]

variable {env : Environment} {catalog : CatalogOptions} {options : ValidateOptions}

theorem CatalogOptions.ofGiven_insert
    (h : g.name ∉ ["declarations", "explicit-required", "alias"]) :
    CatalogOptions.ofGiven (front ++ g :: back) = CatalogOptions.ofGiven (front ++ back) := by
  simp only [List.mem_cons, List.not_mem_nil, or_false, not_or] at h
  obtain ⟨hdeclarations, hrequired, halias⟩ := h
  rw [ofGiven, isGiven_insert_of_ne hdeclarations, operands_insert_of_ne hdeclarations,
    isGiven_insert_of_ne hrequired, operands_insert_of_ne halias]
  rfl

theorem envLead_insert (h : g.name ≠ "env-prefix") :
    envLead env (front ++ g :: back) = envLead env (front ++ back) := by
  rw [envLead, envLead, operand?, operand?, operands_insert_of_ne h]

theorem ValidateOptions.ofGiven_eq_ok_iff :
    ValidateOptions.ofGiven env given = .ok options ↔
      ∃ lead, CommandLine.envLead env given = .ok lead ∧
        ⟨operands given "values", isGiven given "env", lead, operands given "set",
          isGiven given "strict", isGiven given "json"⟩ = options := by
  simp only [ofGiven, Outcome.bind_eq_ok_iff, Except.ok.injEq]

theorem ValidateOptions.ofGiven_insert_json
    (h : ValidateOptions.ofGiven env (front ++ back) = .ok options) :
    ValidateOptions.ofGiven env (front ++ ⟨"json", ""⟩ :: back)
      = .ok { options with json := true } := by
  obtain ⟨lead, hlead, rfl⟩ := ofGiven_eq_ok_iff.mp h
  refine ofGiven_eq_ok_iff.mpr ⟨lead, ?_, ?_⟩
  · rw [envLead_insert (by decide), hlead]
  · simp [operands_insert_of_ne, isGiven_insert_of_ne, isGiven_insert_of_eq]

theorem ValidateOptions.ofGiven_insert_strict
    (h : ValidateOptions.ofGiven env (front ++ back) = .ok options) :
    ValidateOptions.ofGiven env (front ++ ⟨"strict", ""⟩ :: back)
      = .ok { options with strict := true } := by
  obtain ⟨lead, hlead, rfl⟩ := ofGiven_eq_ok_iff.mp h
  refine ofGiven_eq_ok_iff.mpr ⟨lead, ?_, ?_⟩
  · rw [envLead_insert (by decide), hlead]
  · simp [operands_insert_of_ne, isGiven_insert_of_ne, isGiven_insert_of_eq]

/-- The arguments are accepted, and they ask for this check. -/
def AcceptedAs (env : Environment) (arguments : List String) (catalog : CatalogOptions)
    (options : ValidateOptions) : Prop :=
  Request.ofArguments? env arguments = some (.command (.validate catalog options))

theorem ofArguments_eq_validate_iff :
    Command.ofArguments env name rest = .ok (.validate catalog options) ↔
      name = "validate" ∧ ∃ given, Reads validateForms [] rest given ∧
        CatalogOptions.ofGiven given = .ok catalog ∧
        ValidateOptions.ofGiven env given = .ok options := by
  unfold Command.ofArguments
  split
  case h_5 hother => exact iff_of_false nofun fun h ↦ hother h.1
  all_goals simp [Outcome.bind_eq_ok_iff, readOptions_eq_ok_iff]

theorem ofLeadingOption?_ne_command {a : Argument} {c : Command} :
    Request.ofLeadingOption? a ≠ some (.command c) := by
  unfold Request.ofLeadingOption?
  split <;> simp

/-- A command is asked for by its name and arguments that mean it. -/
theorem ofArguments?_eq_command_iff {c : Command} :
    Request.ofArguments? env arguments = some (.command c) ↔
      ∃ name rest, arguments = name :: rest ∧ name ∈ commandNames ∧
        Command.ofArguments env name rest = .ok c := by
  constructor
  · intro h
    cases arguments with
    | nil => cases h
    | cons first rest =>
      unfold Request.ofArguments? at h
      dsimp only at h
      split at h
      next hname =>
        split at h
        next c' hc =>
          cases h
          exact ⟨first, rest, rfl, List.contains_iff_mem.mp hname, hc⟩
        next => cases h
        next => cases h
      next =>
        split at h
        next =>
          split at h
          next => cases h
          next => split at h <;> cases h
          next => cases h
        next => exact absurd h ofLeadingOption?_ne_command
  · rintro ⟨name, rest, rfl, hname, hc⟩
    simp only [Request.ofArguments?, List.contains_iff_mem.mpr hname, if_pos, hc]

theorem acceptedAs_iff :
    AcceptedAs env arguments catalog options ↔
      ∃ rest given, arguments = "validate" :: rest ∧ Reads validateForms [] rest given ∧
        CatalogOptions.ofGiven given = .ok catalog ∧
        ValidateOptions.ofGiven env given = .ok options := by
  simp only [AcceptedAs, ofArguments?_eq_command_iff, ofArguments_eq_validate_iff]
  constructor
  · rintro ⟨_, rest, rfl, -, rfl, given, hgiven⟩
    exact ⟨rest, given, rfl, hgiven⟩
  · rintro ⟨rest, given, rfl, hgiven⟩
    exact ⟨_, rest, rfl, by decide, rfl, given, hgiven⟩

end Meaning

/-! ## Flags of a check -/

/-- The second arguments are the first with a flag somewhere between them. -/
def AddsFlag (flag : String) (arguments arguments' : List String) : Prop :=
  ∃ left right, arguments = left ++ right ∧ arguments' = left ++ flag :: right

/-- A flag of a check that says nothing about the catalog, and what it does to the other options. -/
structure IsCheckFlag (flag : String) (form : OptionForm)
    (set : ValidateOptions → ValidateOptions) : Prop extends IsFlag validateForms flag form where
  /-- It is no name of a command. -/
  ne_command : flag ≠ "validate"
  /-- It is no option of the catalog. -/
  not_catalog : form.name ∉ ["declarations", "explicit-required", "alias"]
  /-- What the options mean with the flag between them. -/
  ofGiven_insert : ∀ env front back options,
    ValidateOptions.ofGiven env (front ++ back) = .ok options →
      ValidateOptions.ofGiven env (front ++ ⟨form.name, ""⟩ :: back) = .ok (set options)

namespace IsCheckFlag

variable {flag : String} {set : ValidateOptions → ValidateOptions} {env : Environment}
  {catalog catalog' : CatalogOptions} {options options' : ValidateOptions}
  {arguments' : List String}

theorem exists_addsFlag (hflag : IsCheckFlag flag form set)
    (h : AcceptedAs env arguments catalog options)
    (hnew : ∀ given, ValidateOptions.ofGiven env given = .ok options →
      isGiven given form.name = false) :
    ∃ arguments', AddsFlag flag arguments arguments' ∧
      AcceptedAs env arguments' catalog (set options) := by
  obtain ⟨rest, given, rfl, hreads, hcatalog, hoptions⟩ := acceptedAs_iff.mp h
  have hreads' := hflag.reads_cons hreads (hnew given hoptions)
  have hcatalog' : CatalogOptions.ofGiven ([] ++ ⟨form.name, ""⟩ :: given) = .ok catalog := by
    rw [CatalogOptions.ofGiven_insert hflag.not_catalog, List.nil_append, hcatalog]
  have hoptions' := hflag.ofGiven_insert env [] given options hoptions
  refine ⟨"validate" :: flag :: rest, ⟨["validate"], rest, rfl, rfl⟩, ?_⟩
  exact acceptedAs_iff.mpr ⟨_, _, rfl, hreads', hcatalog', hoptions'⟩

/-- Wherever the flag is accepted, it changes the check in the same way. -/
theorem eq_of_addsFlag (hflag : IsCheckFlag flag form set)
    (h : AcceptedAs env arguments catalog options) (hadds : AddsFlag flag arguments arguments')
    (h' : AcceptedAs env arguments' catalog' options') :
    catalog' = catalog ∧ options' = set options := by
  obtain ⟨rest, given, rfl, hreads, hcatalog, hoptions⟩ := acceptedAs_iff.mp h
  obtain ⟨rest', given', rfl, hreads', hcatalog', hoptions'⟩ := acceptedAs_iff.mp h'
  obtain ⟨left, right, hleft, hright⟩ := hadds
  cases left with
  | nil => exact absurd (List.cons.inj hright).1.symm hflag.ne_command
  | cons a left =>
    cases hleft
    cases hright
    obtain ⟨front, back, rfl, rfl⟩ := hflag.given_of_insert hreads hreads'
    rw [List.nil_append] at hcatalog hoptions hcatalog' hoptions'
    rw [CatalogOptions.ofGiven_insert hflag.not_catalog, hcatalog] at hcatalog'
    rw [hflag.ofGiven_insert env front back options hoptions] at hoptions'
    exact ⟨(Except.ok.inj hcatalog').symm, (Except.ok.inj hoptions').symm⟩

end IsCheckFlag

theorem isCheckFlag_json : IsCheckFlag "--json" { name := "json" } ({ · with json := true }) where
  opens := by decide +kernel
  ne_help := by decide
  not_operand := by
    have hlong : Argument.ofText "--json" = .long "json" none := by decide +kernel
    simp [followingOperand, hlong]
  ne_command := by decide
  not_catalog := by decide
  ofGiven_insert _ _ _ _ h := ValidateOptions.ofGiven_insert_json h

theorem isCheckFlag_strict :
    IsCheckFlag "--strict" { name := "strict" } ({ · with strict := true }) where
  opens := by decide +kernel
  ne_help := by decide
  not_operand := by
    have hlong : Argument.ofText "--strict" = .long "strict" none := by decide +kernel
    simp [followingOperand, hlong]
  ne_command := by decide
  not_catalog := by decide
  ofGiven_insert _ _ _ _ h := ValidateOptions.ofGiven_insert_strict h

namespace AcceptedAs

variable {env : Environment} {catalog : CatalogOptions} {options : ValidateOptions}

theorem exists_json (h : AcceptedAs env arguments catalog options) (hjson : options.json = false) :
    ∃ arguments', AddsFlag "--json" arguments arguments' ∧
      AcceptedAs env arguments' catalog { options with json := true } := by
  refine isCheckFlag_json.exists_addsFlag h fun given hgiven ↦ ?_
  obtain ⟨lead, -, rfl⟩ := ValidateOptions.ofGiven_eq_ok_iff.mp hgiven
  exact hjson

theorem exists_strict (h : AcceptedAs env arguments catalog options)
    (hstrict : options.strict = false) :
    ∃ arguments', AddsFlag "--strict" arguments arguments' ∧
      AcceptedAs env arguments' catalog { options with strict := true } := by
  refine isCheckFlag_strict.exists_addsFlag h fun given hgiven ↦ ?_
  obtain ⟨lead, -, rfl⟩ := ValidateOptions.ofGiven_eq_ok_iff.mp hgiven
  exact hstrict

end AcceptedAs

end PropertyCatalog.CommandLine
