import PropertyCatalog.Files
import PropertyCatalog.Proofs.Outcome

/-!
# Writing a file

What a text written to a path does to a file system. If the path leads to a file, or to a place
where one can be made, every path that leads to this file then holds the text, and nothing else has
changed. That the way to any other file is the same as before rests on one observation. A path is
walked through folders and along links only, and writing neither makes nor replaces any
(`SameWays`), so the walk along a path leads to the same place as before, or fails as before. A file
that is made gets a number that no file had, so no other place is that file.
-/

namespace PropertyCatalog.FileTree

variable {t t' : FileTree} {names names' : List (List Char)} {part : List Char} {n : FileNode}
  {number : Nat} {path other text printed : String}

/-! ## The same ways -/

theorem step_eq_ok_iff :
    t.step names part = .ok names' ↔
      t.nodeAt? names = some .folder ∧ enter (t.isClosed names) names part = .ok names' := by
  unfold step
  split
  next hnone => simp [hnone]
  next hfolder => simp [hfolder]
  next n hfolder hentry =>
    refine iff_of_false nofun fun h ↦ hfolder ?_
    exact Option.some.inj (hentry.symm.trans h.1)

/-- Whatever matters to a walk is the same in the two file systems. -/
structure SameWays (t t' : FileTree) : Prop where
  /-- They start in the same folder. -/
  start_eq : t'.start = t.start
  /-- They have the same folders. -/
  folder_iff : ∀ names, t'.nodeAt? names = some .folder ↔ t.nodeAt? names = some .folder
  /-- They deny the same access. -/
  isClosed_eq : t'.isClosed = t.isClosed
  /-- They have the same links. -/
  linkTarget?_eq : ∀ names, t'.linkTarget? names = t.linkTarget? names

namespace SameWays

theorem step_eq_ok_iff (h : SameWays t t') :
    t'.step names part = .ok names' ↔ t.step names part = .ok names' := by
  rw [FileTree.step_eq_ok_iff, FileTree.step_eq_ok_iff, h.folder_iff, h.isClosed_eq]

theorem walkWith_eq_ok_iff (h : SameWays t t')
    {follow follow' : List (List Char) → List (List Char) → Except FileFault (List (List Char))}
    (hfollow : ∀ front parts, follow' front parts = .ok names ↔ follow front parts = .ok names)
    (parts front : List (List Char)) :
    t'.walkWith follow' front parts = .ok names ↔ t.walkWith follow front parts = .ok names := by
  induction parts generalizing front with
  | nil => rfl
  | cons part parts ih =>
    simp only [walkWith, Outcome.bind_eq_ok_iff, h.step_eq_ok_iff, h.linkTarget?_eq]
    refine exists_congr fun next ↦ and_congr_right fun _ ↦ ?_
    cases t.linkTarget? next with
    | none => exact ih next
    | some target => exact hfollow _ _

theorem walk_eq_ok_iff (h : SameWays t t') (links : Nat) (front parts : List (List Char)) :
    t'.walk links front parts = .ok names ↔ t.walk links front parts = .ok names := by
  induction links generalizing front parts with
  | zero => exact h.walkWith_eq_ok_iff (fun _ _ ↦ Iff.rfl) parts front
  | succ links ih => exact h.walkWith_eq_ok_iff ih parts front

theorem resolve_eq_ok_iff (h : SameWays t t') :
    t'.resolve path = .ok names ↔ t.resolve path = .ok names := by
  unfold resolve resolveParts
  split
  next => exact Iff.rfl
  next =>
    split
    next => exact Iff.rfl
    next =>
      rw [h.start_eq]
      exact h.walk_eq_ok_iff greatestLinks _ _

end SameWays

/-! ## What is at a path -/

theorem files_of_resolve (h : t.resolve path = .ok names) : t.files path = t.seen names := by
  rw [files, h]

theorem held?_of_resolve (h : t.resolve path = .ok names) :
    t.held? path = t.nodeAt? names >>= fun n ↦ (t.textOf n).toOption := by
  rw [held?, h]

/-- There is nothing at the end of a path that leads nowhere. -/
theorem eq_missing_of_resolve (h : ∀ names, t.resolve path ≠ .ok names) :
    t.files path = .missing ∧ t.held? path = none := by
  cases hresolve : t.resolve path with
  | ok names => exact absurd hresolve (h names)
  | error fault => exact ⟨by rw [files, hresolve], by rw [held?, hresolve]⟩

theorem files_eq_text (hheld : t.held? path = some text) (hresolve : t.resolve path = .ok names)
    (hread : t.isHidden names = false) : t.files path = .text text := by
  rw [held?_of_resolve hresolve] at hheld
  obtain ⟨n, hentry, htext⟩ := Option.bind_eq_some_iff.mp hheld
  rw [files_of_resolve hresolve, seen, hentry]
  cases hnode : t.textOf n with
  | ok s =>
    rw [hnode] at htext
    cases htext
    simp only [hread, Bool.false_eq_true, if_false, hnode]
  | error fault =>
    rw [hnode] at htext
    cases htext

/-! ## Files -/

/-- A text can be kept at the place: a file stands there, or nothing. -/
def TakesFile (t : FileTree) (names : List (List Char)) : Prop :=
  t.nodeAt? names = none ∨ ∃ number, t.nodeAt? names = some (.file number)

/-- The two places are one, or one file stands at both. -/
def AreSame (t : FileTree) (names names' : List (List Char)) : Prop :=
  names' = names ∨
    ∃ number, t.nodeAt? names = some (.file number) ∧ t.nodeAt? names' = some (.file number)

/-- The two paths lead to one place, or to one file. -/
def Shares (t : FileTree) (path other : String) : Prop :=
  ∃ names names', t.resolve path = .ok names ∧ t.resolve other = .ok names' ∧
    t.AreSame names names'

theorem lt_count_of_nodeAt? (h : t.nodeAt? names = some (.file number)) : number < t.count := by
  unfold nodeAt? at h
  split at h
  next => cases h
  next => exact t.bound_le_count h

/-- The number under which a text is kept at a place is that of no file that stands elsewhere. -/
theorem ne_file_numberAt (h : ¬t.AreSame names names') (hentry : t.nodeAt? names' = some n) :
    n ≠ .file (t.numberAt names) := by
  rintro rfl
  unfold numberAt at hentry
  split at hentry
  next number hfile => exact h (.inr ⟨number, hfile, hentry⟩)
  next => exact Nat.lt_irrefl _ (lt_count_of_nodeAt? hentry)

/-! ## Keeping a text -/

theorem nodeAt?_keep (htakes : t.TakesFile names) {content : Option String} :
    (t.keep names content).nodeAt? names'
      = if names' = names then some (.file (t.numberAt names)) else t.nodeAt? names' := by
  have hne : names ≠ [] := by
    rintro rfl
    obtain hnone | ⟨number, hfile⟩ := htakes
    · cases hnone
    · cases hfile
  by_cases hroot : names' = []
  · rw [hroot, if_neg hne.symm]
    rfl
  · simp only [nodeAt?, keep, place, List.isEmpty_iff, hroot, if_false]

theorem textOf_keep (h : n ≠ .file (t.numberAt names)) (content : Option String) :
    (t.keep names content).textOf n = t.textOf n := by
  cases n with
  | file number =>
    have hne : number ≠ t.numberAt names := fun heq ↦ h (congrArg FileNode.file heq)
    simp only [textOf, keep, if_neg hne]
  | folder | link | device => rfl

theorem linkTarget?_eq_some_iff {target : String} :
    t.linkTarget? names = some target ↔ t.nodeAt? names = some (.link target) := by
  unfold linkTarget?
  split
  next htarget => simp [htarget]
  next hno => exact iff_of_false nofun (hno target)

/-- A file is no folder and no link, and at every other place there stands what stood there. -/
theorem sameWays_keep (htakes : t.TakesFile names) {content : Option String} :
    SameWays t (t.keep names content) := by
  have hnode : ∀ n names', (∀ number, n ≠ .file number) →
      ((t.keep names content).nodeAt? names' = some n ↔ t.nodeAt? names' = some n) := by
    intro n names' hfile
    rw [nodeAt?_keep htakes]
    split
    next heq =>
      refine iff_of_false (fun h ↦ hfile _ (Option.some.inj h).symm) fun h ↦ ?_
      obtain hnone | ⟨number, hnumber⟩ := htakes
      · rw [heq, hnone] at h
        cases h
      · rw [heq, hnumber] at h
        exact hfile _ (Option.some.inj h).symm
    next => exact Iff.rfl
  refine ⟨rfl, fun names' ↦ hnode .folder names' nofun, rfl, fun names' ↦ ?_⟩
  refine Option.ext fun target ↦ ?_
  rw [linkTarget?_eq_some_iff, linkTarget?_eq_some_iff, hnode (.link target) names' nofun]

/-- The second file system has the text in the file at the path, and is the same as the first
elsewhere. -/
structure IsWritten (t : FileTree) (path text : String) (t' : FileTree) : Prop where
  /-- Whatever path leads to the file holds the text. -/
  held?_of_shares : ∀ other, t.Shares path other → t'.held? other = some text
  /-- Whatever path leads elsewhere, or nowhere, shows what it showed, -/
  files_of_not_shares : ∀ other, ¬t.Shares path other → t'.files other = t.files other
  /-- and holds what it held. -/
  held?_of_not_shares : ∀ other, ¬t.Shares path other → t'.held? other = t.held? other
  /-- Nothing has been made, replaced or removed at another place. -/
  nodeAt?_of_ne : ∀ names names', t.resolve path = .ok names → names' ≠ names →
    t'.nodeAt? names' = t.nodeAt? names'
  /-- Every other file has its content, also where no path leads. -/
  content_of_ne : ∀ names number, t.resolve path = .ok names → number ≠ t.numberAt names →
    t'.content number = t.content number
  /-- Every path leads where it led. -/
  same_ways : SameWays t t'
  /-- What could be read can be read. -/
  isHidden_eq : t'.isHidden = t.isHidden

theorem held?_keep_of_shares (hresolve : t.resolve path = .ok names) (htakes : t.TakesFile names)
    (hshares : t.Shares path other) : (t.keep names (some text)).held? other = some text := by
  obtain ⟨front, names', hfront, hresolve', hsame⟩ := hshares
  obtain rfl := Except.ok.inj (hfront.symm.trans hresolve)
  have hnode : (t.keep front (some text)).nodeAt? names' = some (.file (t.numberAt front)) := by
    rw [nodeAt?_keep htakes]
    obtain rfl | ⟨number, hfile, hfile'⟩ := hsame
    · exact if_pos rfl
    · have hnumber : t.numberAt front = number := by rw [numberAt, hfile]
      rw [hfile', hnumber, ite_self]
  rw [held?_of_resolve ((sameWays_keep htakes).resolve_eq_ok_iff.mpr hresolve'), hnode]
  simp only [Option.bind_eq_bind, Option.bind_some, textOf, keep, if_true, Option.elim_some]
  rfl

theorem eq_of_not_shares_keep (hresolve : t.resolve path = .ok names) (htakes : t.TakesFile names)
    (hother : ¬t.Shares path other) :
    (t.keep names (some text)).files other = t.files other ∧
      (t.keep names (some text)).held? other = t.held? other := by
  have hways : SameWays t (t.keep names (some text)) := sameWays_keep htakes
  cases hresolve' : t.resolve other with
  | ok names' =>
    have hnot : ¬t.AreSame names names' := fun h ↦
      hother ⟨names, names', hresolve, hresolve', h⟩
    have hkept : (t.keep names (some text)).nodeAt? names' = t.nodeAt? names' := by
      rw [nodeAt?_keep htakes, if_neg fun heq ↦ hnot (.inl heq)]
    have hresolve'' := hways.resolve_eq_ok_iff.mpr hresolve'
    rw [files_of_resolve hresolve', files_of_resolve hresolve'', held?_of_resolve hresolve',
      held?_of_resolve hresolve'', seen, seen, hkept]
    cases hnode : t.nodeAt? names' with
    | none => exact ⟨rfl, rfl⟩
    | some n =>
      have htext := textOf_keep (ne_file_numberAt hnot hnode) (some text)
      simp only [Option.bind_eq_bind, Option.bind_some, htext, and_true]
      rfl
  | error fault =>
    have hnone : ∀ names', t.resolve other ≠ .ok names' := by
      intro names' hok
      rw [hresolve'] at hok
      cases hok
    obtain ⟨hfiles, hheld⟩ := eq_missing_of_resolve hnone
    obtain ⟨hfiles', hheld'⟩ :=
      eq_missing_of_resolve fun names' ↦ mt hways.resolve_eq_ok_iff.mp (hnone names')
    exact ⟨hfiles'.trans hfiles.symm, hheld'.trans hheld.symm⟩

theorem isWritten_keep (hresolve : t.resolve path = .ok names) (htakes : t.TakesFile names) :
    IsWritten t path text (t.keep names (some text)) where
  held?_of_shares _ hshares := held?_keep_of_shares hresolve htakes hshares
  files_of_not_shares _ hother := (eq_of_not_shares_keep hresolve htakes hother).1
  held?_of_not_shares _ hother := (eq_of_not_shares_keep hresolve htakes hother).2
  nodeAt?_of_ne front names' hfront hne := by
    obtain rfl := Except.ok.inj (hfront.symm.trans hresolve)
    rw [nodeAt?_keep htakes, if_neg hne]
  content_of_ne front number hfront hne := by
    obtain rfl := Except.ok.inj (hfront.symm.trans hresolve)
    exact if_neg hne
  same_ways := sameWays_keep htakes
  isHidden_eq := rfl

theorem IsWritten.files_eq_text (h : IsWritten t path text t') (hshares : t.Shares path other)
    (hresolve : t.resolve other = .ok names) (hread : t.isHidden names = false) :
    t'.files other = .text text := by
  have hresolve' := h.same_ways.resolve_eq_ok_iff.mpr hresolve
  exact FileTree.files_eq_text (h.held?_of_shares other hshares) hresolve' (h.isHidden_eq ▸ hread)

theorem not_shares_of_ne {number' : Nat} (hresolve : t.resolve path = .ok names)
    (hfile : t.nodeAt? names = some (.file number)) (hresolve' : t.resolve other = .ok names')
    (hfile' : t.nodeAt? names' = some (.file number')) (hne : number ≠ number') :
    ¬t.Shares path other := by
  rintro ⟨front, front', hfront, hfront', hsame⟩
  obtain rfl := Except.ok.inj (hresolve.symm.trans hfront)
  obtain rfl := Except.ok.inj (hresolve'.symm.trans hfront')
  obtain rfl | ⟨shared, hshared, hshared'⟩ := hsame
  · rw [hfile] at hfile'
    cases hfile'
    exact hne rfl
  · rw [hfile] at hshared
    rw [hfile'] at hshared'
    cases hshared
    cases hshared'
    exact hne rfl

/-! ## Writing to a path -/

/-- What is written to the path is kept in a file: it leads to one, or to a place where one can be
made. -/
structure IsFilePath (t : FileTree) (path : String) : Prop where
  /-- It does not end in a slash. -/
  no_slash : endsOpen path = false
  /-- It leads to such a place, and access there is not denied. -/
  leads : ∃ names, t.resolve path = .ok names ∧ t.isClosed names = false ∧ t.TakesFile names

/-- What is written to the path goes to a device, which prints it or does not. -/
structure IsDevicePath (t : FileTree) (path : String) (prints : Bool) : Prop where
  /-- It does not end in a slash. -/
  no_slash : endsOpen path = false
  /-- It leads to a device, and access there is not denied. -/
  leads : ∃ names content, t.resolve path = .ok names ∧ t.isClosed names = false ∧
    t.nodeAt? names = some (.device content prints)

theorem write_of_no_slash (hslash : endsOpen path = false) (hresolve : t.resolve path = .ok names) :
    t.write path text = t.writeAt names text := by
  rw [write, hslash, hresolve]
  rfl

/-- A text that is kept in a file is written there, and nothing is printed. -/
theorem IsFilePath.exists_write (h : t.IsFilePath path) (text : String) :
    ∃ t', t.write path text = .ok (t', "") ∧ IsWritten t path text t' := by
  obtain ⟨hslash, names, hresolve, hopen, htakes⟩ := h
  refine ⟨_, ?_, isWritten_keep hresolve htakes⟩
  rw [write_of_no_slash hslash hresolve, writeAt, hopen]
  obtain hnone | ⟨number, hfile⟩ := htakes
  · rw [hnone]
    rfl
  · rw [hfile]
    rfl

theorem IsDevicePath.write_eq {prints : Bool} (h : t.IsDevicePath path prints) (text : String) :
    t.write path text = .ok (t, if prints then text else "") := by
  obtain ⟨hslash, names, content, hresolve, hopen, hdevice⟩ := h
  rw [write_of_no_slash hslash hresolve, writeAt, hdevice, hopen]
  rfl

/-- Neither a folder nor a link takes a text, and neither does a closed place. -/
theorem takes_of_writeAt {written : FileTree × String} (h : t.writeAt names text = .ok written) :
    t.isClosed names = false ∧
      (t.TakesFile names ∨ ∃ content prints, t.nodeAt? names = some (.device content prints)) := by
  cases hclosed : t.isClosed names with
  | true =>
    rw [writeAt, hclosed] at h
    split at h <;> cases h
  | false =>
    refine ⟨rfl, ?_⟩
    rw [writeAt] at h
    split at h
    next => cases h
    next => cases h
    next content prints hentry => exact .inr ⟨content, prints, hentry⟩
    next number hentry => exact .inl (.inr ⟨number, hentry⟩)
    next hentry => exact .inl (.inl hentry)

/-- There are no other paths that can be written to. -/
theorem exists_write_eq_error (hfile : ¬t.IsFilePath path)
    (hdevice : ∀ prints, ¬t.IsDevicePath path prints) (text : String) :
    ∃ fault, t.write path text = .error fault := by
  cases hwrite : t.write path text with
  | error fault => exact ⟨fault, rfl⟩
  | ok written =>
    rw [write] at hwrite
    split at hwrite
    next =>
      obtain ⟨_, -, hwrite⟩ := Outcome.bind_eq_ok_iff.mp hwrite
      cases hwrite
    next hslash =>
      rw [Bool.not_eq_true] at hslash
      obtain ⟨names, hresolve, hwritten⟩ := Outcome.bind_eq_ok_iff.mp hwrite
      obtain ⟨hopen, htakes | ⟨content, prints, hentry⟩⟩ := takes_of_writeAt hwritten
      · exact absurd ⟨hslash, names, hresolve, hopen, htakes⟩ hfile
      · exact absurd ⟨hslash, names, content, hresolve, hopen, hentry⟩ (hdevice prints)

end PropertyCatalog.FileTree
