import PropertyCatalog.Proofs.CommandLine.Flags

/-!
# The option for the output

What it means to leave `--output` out of arguments that are accepted. The option can be spelled in
five ways (`SpellsOutput`), and nothing else is read as it. An argument that begins an option is
never taken by another one, so what stands in front of it is read on its own
(`Reads.exists_front`). What stands behind it is read as before, because an option that was not
given refuses no other (`Reads.of_subset`). So the arguments without it give the same other options.
-/

namespace PropertyCatalog.CommandLine

open Text

variable {forms : List OptionForm} {form : OptionForm} {argument next operand name file : String}
  {before before' given : List Given} {g : Given}
  {arguments left right rest tokens : List String}

/-! ## Single arguments -/

/-- The text of an argument that looks like this. -/
def Argument.text : Argument → String
  | long name none => "--" ++ name
  | long name (some operand) => "--" ++ name ++ "=" ++ operand
  | short letter rest => String.ofList ('-' :: letter :: rest)
  | separator => "--"
  | plain text => text

theorem Argument.text_ofText (argument : String) : (Argument.ofText argument).text = argument := by
  apply String.toList_inj.mp
  unfold Argument.ofText
  split
  next h => rw [h]; rfl
  next cs _ h =>
    split
    next name operand hcut =>
      obtain ⟨rfl, -⟩ := cut?_char_eq_some_iff.mp hcut
      simp [Argument.text, h]
    next => simp [Argument.text, h]
  next h => rw [h]; simp [Argument.text]
  next => rfl

/-- An option takes the next argument as it is, and only one that looks like no option. -/
theorem followingOperand_eq_some_iff :
    followingOperand form next = some operand ↔
      Argument.ofText next = .plain next ∧ form.operand.takes next = true ∧ operand = next := by
  have hplain : ∀ text, Argument.ofText next = .plain text → text = next := fun text h ↦ by
    rw [← Argument.text_ofText next, h]
    rfl
  unfold followingOperand
  split
  next text htext =>
    obtain rfl := hplain text htext
    rw [Option.ite_none_right_eq_some, Option.some_inj, and_iff_right htext, eq_comm (a := text)]
  next hother => exact iff_of_false nofun fun h ↦ hother _ h.1

theorem followingOperand_eq_none (h : Argument.ofText argument ≠ .plain argument) :
    followingOperand form argument = none := by
  rw [Option.eq_none_iff_forall_ne_some]
  exact fun operand hoperand ↦ h (followingOperand_eq_some_iff.mp hoperand).1

/-! ## Opened options -/

/-- The option is the one that was opened. -/
def Opened.IsOf (form : OptionForm) : Opened → Prop
  | separator => False
  | whole form' _ | awaiting form' => form' = form

theorem Opened.isOf_of_ofForm {attached : Option String} {opened : Opened}
    (h : Opened.ofForm form attached = some opened) : opened.IsOf form := by
  unfold Opened.ofForm at h
  split at h
  next => cases h; rfl
  next => cases h
  next =>
    split at h
    next => cases h; rfl
    next => cases h
  next => cases h; rfl

/-- An argument opens an option of the forms, by its name or by its letter. -/
theorem Opened.exists_of_ofArgument {looks : Argument} {opened : Opened}
    (h : Opened.ofArgument forms looks = some opened) (hform : opened.IsOf form) :
    form ∈ forms ∧
      ((∃ attached, looks = .long form.name attached ∧
          Opened.ofForm form attached = some opened) ∨
        ∃ letter rest, looks = .short letter rest ∧ form.letter = some letter ∧
          Opened.ofForm form (if form = helpForm then none else attachedOperand rest)
            = some opened) := by
  have heq : ∀ {form' attached}, Opened.ofForm form' attached = some opened → form' = form := by
    intro form' attached hopened
    have hform' := Opened.isOf_of_ofForm hopened
    cases opened with
    | separator => exact hform.elim
    | whole => exact hform'.symm.trans hform
    | awaiting => exact hform'.symm.trans hform
  cases looks with
  | separator =>
    cases h
    exact hform.elim
  | plain => cases h
  | long name attached =>
    obtain ⟨form', hfind, hopened⟩ := Option.bind_eq_some_iff.mp h
    obtain rfl := heq hopened
    have hname : form'.name = name := by simpa using List.find?_some hfind
    exact ⟨List.mem_of_find?_eq_some hfind, .inl ⟨attached, by rw [hname], hopened⟩⟩
  | short letter rest =>
    obtain ⟨form', hfind, hopened⟩ := Option.bind_eq_some_iff.mp h
    obtain rfl := heq hopened
    have hletter : form'.letter = some letter := by simpa using List.find?_some hfind
    exact ⟨List.mem_of_find?_eq_some hfind, .inr ⟨letter, rest, rfl, hletter, hopened⟩⟩

/-! ## Options between others -/

namespace MayFollow

theorem of_subset (h : MayFollow form before) (hsub : before' ⊆ before) :
    MayFollow form before' :=
  ⟨h.ne_help, h.fresh.imp_right fun hfresh g hg ↦ hfresh g (hsub hg)⟩

theorem countP_le_one (h : MayFollow form before)
    (hsingle : form.name = name → form.repeatable = false)
    (hbefore : before.countP (·.name = name) ≤ 1) :
    (before ++ [(⟨form.name, operand⟩ : Given)]).countP (·.name = name) ≤ 1 := by
  rw [List.countP_append, List.countP_singleton]
  by_cases hname : form.name = name
  · have hfresh := h.fresh.resolve_left (by simp [hsingle hname])
    have hzero : before.countP (·.name = name) = 0 :=
      List.countP_eq_zero.mpr fun g hg ↦ by simpa [hname] using hfresh g hg
    rw [hzero]
    split <;> decide
  · simpa [hname] using hbefore

end MayFollow

/-- The arguments are all of an option that is given. -/
inductive Gives (forms : List OptionForm) : Given → List String → Prop
  /-- One argument says what the option takes. -/
  | whole {argument operand : String} {form : OptionForm}
      (opens : Opened.ofArgument forms (Argument.ofText argument) = some (.whole form operand)) :
      Gives forms ⟨form.name, operand⟩ [argument]
  /-- The option takes the second argument. -/
  | awaiting {argument next operand : String} {form : OptionForm}
      (opens : Opened.ofArgument forms (Argument.ofText argument) = some (.awaiting form))
      (takes : followingOperand form next = some operand) :
      Gives forms ⟨form.name, operand⟩ [argument, next]

namespace Reads

theorem tail_of_gives (hgives : Gives forms g tokens)
    (h : Reads forms before (tokens ++ rest) given) :
    Reads forms (before ++ [g]) rest given := by
  cases hgives with
  | whole opens => exact h.tail_of_whole opens
  | awaiting opens takes => exact h.tail_of_awaiting opens takes

/-- What stands in front of an argument that no option takes is read on its own. -/
theorem exists_front (h : Reads forms before (left ++ argument :: rest) given)
    (hoption : ∀ form, followingOperand form argument = none) :
    ∃ front, Reads forms (before ++ front) (argument :: rest) given ∧
      ∀ rest' given', Reads forms (before ++ front) rest' given' →
        Reads forms before (left ++ rest') given' := by
  -- nothing stands in front of the first argument
  have hhere : ∀ before given, Reads forms before (argument :: rest) given →
      ∃ front, Reads forms (before ++ front) (argument :: rest) given ∧
        ∀ rest' given', Reads forms (before ++ front) rest' given' →
          Reads forms before rest' given' := by
    intro before given h
    refine ⟨[], ?_, fun rest' given' h' ↦ ?_⟩
    · rwa [List.append_nil]
    · rwa [List.append_nil] at h'
  generalize harguments : left ++ argument :: rest = arguments at h
  induction h generalizing left with
  | nil => simp at harguments
  | separator opens =>
    cases left with
    | nil =>
      cases harguments
      exact hhere _ _ (.separator opens)
    | cons a left => simp at harguments
  | @whole before given argument' operand rest' form opens may_follow reads_rest ih =>
    cases left with
    | nil =>
      cases harguments
      exact hhere _ _ (.whole opens may_follow reads_rest)
    | cons a left =>
      cases harguments
      obtain ⟨front, hfront, hleft⟩ := ih rfl
      rw [List.append_assoc] at hfront hleft
      exact ⟨_ :: front, hfront, fun _ _ h' ↦ .whole opens may_follow (hleft _ _ h')⟩
  | @awaiting before given argument' next operand rest' form opens takes may_follow reads_rest ih =>
    cases left with
    | nil =>
      cases harguments
      exact hhere _ _ (.awaiting opens takes may_follow reads_rest)
    | cons a left =>
      cases left with
      | nil =>
        cases harguments
        simp [hoption] at takes
      | cons b left =>
        cases harguments
        obtain ⟨front, hfront, hleft⟩ := ih rfl
        rw [List.append_assoc] at hfront hleft
        exact ⟨_ :: front, hfront, fun _ _ h' ↦ .awaiting opens takes may_follow (hleft _ _ h')⟩

theorem of_subset (h : Reads forms before arguments given) (hsub : before' ⊆ before) :
    ∃ new, given = before ++ new ∧ Reads forms before' arguments (before' ++ new) := by
  have hadd : ∀ {g : Given} {before before' : List Given}, before' ⊆ before →
      before' ++ [g] ⊆ before ++ [g] := by
    intro g before before' hsub
    exact List.append_subset.mpr
      ⟨List.subset_append_of_subset_left [g] hsub, List.subset_append_right before [g]⟩
  induction h generalizing before' with
  | nil => exact ⟨[], (List.append_nil _).symm, by rw [List.append_nil]; exact .nil⟩
  | separator opens =>
    exact ⟨[], (List.append_nil _).symm, by rw [List.append_nil]; exact .separator opens⟩
  | @whole before _ _ operand _ form opens may_follow _ ih =>
    obtain ⟨new, rfl, hnew⟩ := ih (hadd hsub)
    rw [List.append_assoc] at hnew
    exact ⟨_, List.append_assoc _ _ _, .whole opens (may_follow.of_subset hsub) hnew⟩
  | @awaiting before _ _ _ operand _ form opens takes may_follow _ ih =>
    obtain ⟨new, rfl, hnew⟩ := ih (hadd hsub)
    rw [List.append_assoc] at hnew
    exact ⟨_, List.append_assoc _ _ _, .awaiting opens takes (may_follow.of_subset hsub) hnew⟩

/-- What is given was given before, or some of the arguments give it. -/
theorem mem_or_gives (h : Reads forms before arguments given) (hg : g ∈ given) :
    g ∈ before ∨
      ∃ left tokens right, arguments = left ++ tokens ++ right ∧ Gives forms g tokens := by
  induction h with
  | nil => exact .inl hg
  | separator => exact .inl hg
  | @whole before _ argument operand rest form opens _ _ ih =>
    rcases ih hg with hmem | ⟨left, tokens, right, rfl, hgives⟩
    · rcases List.mem_append.mp hmem with hmem | hmem
      · exact .inl hmem
      · obtain rfl := List.mem_singleton.mp hmem
        exact .inr ⟨[], [argument], rest, rfl, .whole opens⟩
    · exact .inr ⟨argument :: left, tokens, right, by simp, hgives⟩
  | @awaiting before _ argument next operand rest form opens takes _ _ ih =>
    rcases ih hg with hmem | ⟨left, tokens, right, rfl, hgives⟩
    · rcases List.mem_append.mp hmem with hmem | hmem
      · exact .inl hmem
      · obtain rfl := List.mem_singleton.mp hmem
        exact .inr ⟨[], [argument, next], rest, rfl, .awaiting opens takes⟩
    · exact .inr ⟨argument :: next :: left, tokens, right, by simp, hgives⟩

theorem countP_le_one (hsingle : ∀ form ∈ forms, form.name = name → form.repeatable = false)
    (h : Reads forms before arguments given) (hbefore : before.countP (·.name = name) ≤ 1) :
    given.countP (·.name = name) ≤ 1 := by
  induction h with
  | nil => exact hbefore
  | separator => exact hbefore
  | whole opens may_follow _ ih =>
    have hform := (Opened.exists_of_ofArgument opens rfl).1
    exact ih (may_follow.countP_le_one (hsingle _ hform) hbefore)
  | awaiting opens _ may_follow _ ih =>
    have hform := (Opened.exists_of_ofArgument opens rfl).1
    exact ih (may_follow.countP_le_one (hsingle _ hform) hbefore)

end Reads

/-! ## The option for the output -/

/-- The arguments spell the option for the output, with this file. -/
inductive SpellsOutput (file : String) : List String → Prop
  /-- The file follows the name. -/
  | long : SpellsOutput file ["--output", file]
  /-- The file stands behind the name and `=`. -/
  | long_joined : SpellsOutput file ["--output=" ++ file]
  /-- The file follows the letter. -/
  | short : SpellsOutput file ["-o", file]
  /-- The file stands behind the letter and `=`. -/
  | short_joined : SpellsOutput file ["-o=" ++ file]
  /-- The file stands directly behind the letter. -/
  | short_attached {c : Char} {cs : List Char} (begins : file.toList = c :: cs) (ne : c ≠ '=') :
      SpellsOutput file ["-o" ++ file]

/-- The second arguments are the first without the option for the output, which names this file. -/
def DropsOutput (file : String) (arguments arguments' : List String) : Prop :=
  ∃ left tokens right, SpellsOutput file tokens ∧ arguments = left ++ tokens ++ right ∧
    arguments' = left ++ right

/-- Among the forms the option for the output is the only one with its name or its letter. -/
structure KnowsOutput (forms : List OptionForm) : Prop where
  /-- Its name finds it. -/
  find_name : forms.find? (·.name = "output") = some outputForm
  /-- Its letter finds it. -/
  find_letter : forms.find? (·.letter = some 'o') = some outputForm
  /-- No other form has the name. -/
  eq_of_name : ∀ form ∈ forms, form.name = "output" → form = outputForm

theorem knowsOutput_exampleForms : KnowsOutput exampleForms := ⟨by decide, by decide, by decide⟩

theorem knowsOutput_docsForms : KnowsOutput docsForms := ⟨by decide, by decide, by decide⟩

/-- A file that stands with the option is taken, unless it is empty. -/
theorem ofForm_output_some (file : String) :
    Opened.ofForm outputForm (some file)
      = if file = "" then none else some (.whole outputForm file) := by
  have hform : Opened.ofForm outputForm (some file)
      = if decide (file ≠ "") = true then some (.whole outputForm file) else none := rfl
  simp only [hform, decide_eq_true_eq, ite_not]

namespace KnowsOutput

theorem ofArgument_long (hknows : KnowsOutput forms) (attached : Option String) :
    Opened.ofArgument forms (.long "output" attached) = Opened.ofForm outputForm attached := by
  simp only [Opened.ofArgument, hknows.find_name]
  rfl

theorem ofArgument_short (hknows : KnowsOutput forms) (rest : List Char) :
    Opened.ofArgument forms (.short 'o' rest)
      = Opened.ofForm outputForm (attachedOperand rest) := by
  simp only [Opened.ofArgument, hknows.find_letter]
  rfl

end KnowsOutput

theorem ofText_output : Argument.ofText "--output" = .long "output" none := by decide +kernel

theorem ofText_output_joined (file : String) :
    Argument.ofText ("--output=" ++ file) = .long "output" (some file) := by
  have htext : ("--output=" ++ file).toList
      = '-' :: '-' :: (['o', 'u', 't', 'p', 'u', 't'] ++ '=' :: file.toList) := by
    simp
  have hcut : cut? (· = '=') (['o', 'u', 't', 'p', 'u', 't'] ++ '=' :: file.toList)
      = some (['o', 'u', 't', 'p', 'u', 't'], file.toList) :=
    cut?_char_eq_some_iff.mpr ⟨rfl, by decide⟩
  rw [Argument.ofText, htext]
  simp only [List.cons_append, List.nil_append] at hcut ⊢
  simp only [hcut, String.ofList_toList]

theorem ofText_o : Argument.ofText "-o" = .short 'o' [] := by decide +kernel

theorem ofText_o_joined (file : String) :
    Argument.ofText ("-o=" ++ file) = .short 'o' ('=' :: file.toList) := by
  have htext : ("-o=" ++ file).toList = '-' :: 'o' :: '=' :: file.toList := by simp
  rw [Argument.ofText, htext]
  rfl

theorem ofText_o_attached (file : String) :
    Argument.ofText ("-o" ++ file) = .short 'o' file.toList := by
  have htext : ("-o" ++ file).toList = '-' :: 'o' :: file.toList := by simp
  rw [Argument.ofText, htext]
  rfl

theorem SpellsOutput.exists_cons (h : SpellsOutput file tokens) :
    ∃ argument more, tokens = argument :: more ∧
      ∀ text, Argument.ofText argument ≠ .plain text := by
  cases h with
  | long => exact ⟨_, _, rfl, by simp [ofText_output]⟩
  | long_joined => exact ⟨_, _, rfl, by simp [ofText_output_joined]⟩
  | short => exact ⟨_, _, rfl, by simp [ofText_o]⟩
  | short_joined => exact ⟨_, _, rfl, by simp [ofText_o_joined]⟩
  | short_attached => exact ⟨_, _, rfl, by simp [ofText_o_attached]⟩

theorem attachedOperand_cons {c : Char} (h : c ≠ '=') (cs : List Char) :
    attachedOperand (c :: cs) = some (String.ofList (c :: cs)) := by
  unfold attachedOperand
  split
  next heq => cases heq
  next heq => exact absurd (List.cons.inj heq).1 h
  next => rfl

/-- Where the arguments are accepted, an option that takes the next argument takes it as it is. -/
theorem Reads.gives_of_awaiting
    (hopens : Opened.ofArgument forms (Argument.ofText argument) = some (.awaiting form))
    (h : Reads forms before (argument :: next :: rest) given) :
    Gives forms ⟨form.name, next⟩ [argument, next] := by
  cases h with
  | whole opens => simp [hopens] at opens
  | @awaiting _ _ _ _ operand _ _ opens takes =>
    obtain rfl : form = _ := by simpa [hopens] using opens
    obtain rfl := (followingOperand_eq_some_iff.mp takes).2.2
    exact .awaiting hopens takes

/-- Where the arguments are accepted, the file that stands with the option is not empty. -/
theorem Reads.gives_output
    (hopens : Opened.ofArgument forms (Argument.ofText argument)
      = Opened.ofForm outputForm (some file))
    (h : Reads forms before (argument :: rest) given) :
    Gives forms ⟨"output", file⟩ [argument] := by
  rw [ofForm_output_some] at hopens
  split at hopens
  next =>
    cases h with
    | separator opens => simp [hopens] at opens
    | whole opens => simp [hopens] at opens
    | awaiting opens => simp [hopens] at opens
  next => exact .whole hopens

theorem SpellsOutput.gives (hknows : KnowsOutput forms) (h : SpellsOutput file tokens)
    (hreads : Reads forms before (tokens ++ rest) given) :
    Gives forms ⟨"output", file⟩ tokens := by
  cases h with
  | long => exact hreads.gives_of_awaiting (by rw [ofText_output, hknows.ofArgument_long]; rfl)
  | long_joined =>
    exact hreads.gives_output (by rw [ofText_output_joined, hknows.ofArgument_long])
  | short => exact hreads.gives_of_awaiting (by rw [ofText_o, hknows.ofArgument_short]; rfl)
  | short_joined =>
    refine hreads.gives_output ?_
    rw [ofText_o_joined, hknows.ofArgument_short, attachedOperand, String.ofList_toList]
  | short_attached begins ne =>
    refine hreads.gives_output ?_
    rw [ofText_o_attached, hknows.ofArgument_short, begins, attachedOperand_cons ne, ← begins,
      String.ofList_toList]

theorem eq_some_of_ofForm_output {attached : Option String}
    (h : Opened.ofForm outputForm attached = some (.whole outputForm operand)) :
    attached = some operand := by
  cases attached with
  | none => cases h
  | some s =>
    rw [ofForm_output_some] at h
    split at h
    next => cases h
    next =>
      rw [Option.some_inj, Opened.whole.injEq] at h
      rw [h.2]

theorem eq_none_of_ofForm_output {attached : Option String}
    (h : Opened.ofForm outputForm attached = some (.awaiting outputForm)) : attached = none := by
  cases attached with
  | none => rfl
  | some s =>
    rw [ofForm_output_some] at h
    split at h <;> cases h

theorem attachedOperand_eq_none_iff {cs : List Char} : attachedOperand cs = none ↔ cs = [] := by
  unfold attachedOperand
  split <;> simp_all

theorem spellsOutput_of_gives (hknows : KnowsOutput forms) (h : Gives forms g tokens)
    (hname : g.name = "output") : SpellsOutput g.operand tokens := by
  have hletter : ∀ letter, outputForm.letter = some letter → letter = 'o' := fun letter h ↦
    (Option.some_inj.mp h).symm
  cases h with
  | @whole argument operand form opens =>
    obtain ⟨hform, hlooks⟩ := Opened.exists_of_ofArgument opens rfl
    obtain rfl := hknows.eq_of_name form hform hname
    rw [← Argument.text_ofText argument]
    rcases hlooks with ⟨attached, hlong, hopened⟩ | ⟨letter, rest, hshort, hl, hopened⟩
    · rw [hlong, eq_some_of_ofForm_output hopened]
      exact .long_joined
    · obtain rfl := hletter letter hl
      rw [hshort]
      have hattached : attachedOperand rest = some operand := eq_some_of_ofForm_output hopened
      cases rest with
      | nil => cases hattached
      | cons c cs =>
        by_cases hc : c = '='
        · subst hc
          obtain rfl := Option.some_inj.mp hattached
          have htext : (Argument.short 'o' ('=' :: cs)).text = "-o=" ++ String.ofList cs := by
            simp [← String.toList_inj, Argument.text]
          rw [htext]
          exact .short_joined
        · obtain rfl := Option.some_inj.mp ((attachedOperand_cons hc cs).symm.trans hattached)
          have htext : (Argument.short 'o' (c :: cs)).text = "-o" ++ String.ofList (c :: cs) := by
            simp [← String.toList_inj, Argument.text]
          rw [htext]
          exact .short_attached String.toList_ofList hc
  | @awaiting argument next operand form opens takes =>
    obtain ⟨hform, hlooks⟩ := Opened.exists_of_ofArgument opens rfl
    obtain rfl := hknows.eq_of_name form hform hname
    obtain rfl := (followingOperand_eq_some_iff.mp takes).2.2
    rw [← Argument.text_ofText argument]
    rcases hlooks with ⟨attached, hlong, hopened⟩ | ⟨letter, rest, hshort, hl, hopened⟩
    · rw [hlong, eq_none_of_ofForm_output hopened]
      exact .long
    · obtain rfl := hletter letter hl
      rw [hshort, attachedOperand_eq_none_iff.mp (eq_none_of_ofForm_output hopened)]
      exact .short

/-! ## Without the option -/

/-- Accepted arguments are accepted without the option, and give the same other options. -/
theorem Reads.exists_drop (hknows : KnowsOutput forms) (hspells : SpellsOutput file tokens)
    (h : Reads forms [] (left ++ tokens ++ right) given) :
    ∃ front back, given = front ++ ⟨"output", file⟩ :: back ∧
      Reads forms [] (left ++ right) (front ++ back) ∧
        ∀ g ∈ front ++ back, g.name ≠ "output" := by
  obtain ⟨argument, more, rfl, hoption⟩ := hspells.exists_cons
  rw [List.append_assoc, List.cons_append] at h
  obtain ⟨front, hfront, hleft⟩ := h.exists_front fun _ ↦ followingOperand_eq_none (hoption _)
  rw [List.nil_append, ← List.cons_append] at hfront
  have hright := hfront.tail_of_gives (hspells.gives hknows hfront)
  obtain ⟨back, rfl, hback⟩ := hright.of_subset (List.subset_append_left front _)
  have hsingle : ∀ form ∈ forms, form.name = "output" → form.repeatable = false := by
    intro form hform hname
    rw [hknows.eq_of_name form hform hname]
    rfl
  have hcount := h.countP_le_one hsingle (Nat.zero_le 1)
  have hzero : (front ++ back).countP (·.name = "output") = 0 := by
    rw [List.countP_append, List.countP_append, List.countP_singleton,
      if_pos (decide_eq_true rfl)] at hcount
    rw [List.countP_append]
    omega
  refine ⟨front, back, by simp, hleft _ _ hback, fun g hg hname ↦ ?_⟩
  exact List.countP_eq_zero.mp hzero g hg (decide_eq_true hname)

theorem Reads.exists_spellsOutput (hknows : KnowsOutput forms)
    (h : Reads forms [] arguments given) (hg : ⟨"output", file⟩ ∈ given) :
    ∃ left tokens right, SpellsOutput file tokens ∧ arguments = left ++ tokens ++ right := by
  obtain ⟨left, tokens, right, rfl, hgives⟩ := (h.mem_or_gives hg).resolve_left List.not_mem_nil
  exact ⟨left, tokens, right, spellsOutput_of_gives hknows hgives rfl, rfl⟩

end PropertyCatalog.CommandLine
