import SourceDigest.Proofs.Files.Filtering
import SourceDigest.Proofs.Keyed

/-! The order of listings. A system may list the entries of each directory in any order: the same
files stand at the same places, the same rules are read, and the entries that are shown are sorted
into one order. -/

namespace SourceDigest

open List

/-! ## One order of shown entries -/

namespace Outline

variable {a b c : Outline} {entries others : List Outline}

theorem before_iff :
    before a b = true ↔
      a.isDirectory = true ∧ b.isDirectory = false ∨
        a.isDirectory = b.isDirectory ∧ a.name ≤ b.name := by
  unfold before
  by_cases hkind : a.isDirectory = b.isDirectory
  · simp only [hkind, bne_self_eq_false, Bool.false_eq_true, if_false, Bool.not_eq_true',
      decide_eq_false_iff_not, not_lt, true_and]
    cases b.isDirectory <;> simp
  · cases ha : a.isDirectory <;> cases hb : b.isDirectory <;> simp_all

theorem before_total (a b : Outline) : (before a b || before b a) = true := by
  rw [Bool.or_eq_true, before_iff, before_iff]
  rcases le_total a.name b.name with hname | hname
  · cases ha : a.isDirectory <;> cases hb : b.isDirectory <;> simp [hname]
  · cases ha : a.isDirectory <;> cases hb : b.isDirectory <;> simp [hname]

theorem before_trans (a b c : Outline) (hab : before a b = true) (hbc : before b c = true) :
    before a c = true := by
  rw [before_iff] at *
  rcases hab with ⟨ha, hb⟩ | ⟨hkind, hname⟩
  · rcases hbc with ⟨hb', -⟩ | ⟨hkind', -⟩
    · rw [hb] at hb'
      cases hb'
    · exact Or.inl ⟨ha, hkind' ▸ hb⟩
  · rcases hbc with ⟨hb, hc⟩ | ⟨hkind', hname'⟩
    · exact Or.inl ⟨hkind.trans hb, hc⟩
    · exact Or.inr ⟨hkind.trans hkind', hname.trans hname'⟩

theorem name_eq_of_before (hab : before a b = true) (hba : before b a = true) :
    a.name = b.name := by
  rw [before_iff] at *
  rcases hab with ⟨ha, hb⟩ | ⟨hkind, hname⟩
  · simp [ha, hb] at hba
  · rcases hba with ⟨hb, ha⟩ | ⟨-, hname'⟩
    · rw [ha] at hkind
      cases hkind.trans hb
    · exact le_antisymm hname hname'

/-- Entries with names of their own are shown in one order, whatever order they come in. -/
theorem mergeSort_eq_of_perm (hnames : (entries.map name).Nodup) (h : entries.Perm others) :
    entries.mergeSort before = others.mergeSort before := by
  have hperm := (mergeSort_perm entries before).trans (h.trans (mergeSort_perm others before).symm)
  refine hperm.eq_of_pairwise ?_ (pairwise_mergeSort before_trans before_total entries)
    (pairwise_mergeSort before_trans before_total others)
  intro a b ha hb hab hba
  have hma := mem_mergeSort.mp ha
  have hmb := h.symm.subset (mem_mergeSort.mp hb)
  exact inj_on_of_nodup_map hnames hma hmb (name_eq_of_before hab hba)

end Outline

namespace Discovery

/-- Two listings of one directory: the same entries with the same names, in another order, and so
on in each folder. -/
inductive Relisted : List (String × Item) → List (String × Item) → Prop
  | nil : Relisted [] []
  | file (name : String) (bytes : Option ByteArray) {rest rest' : List (String × Item)} :
      Relisted rest rest' → Relisted ((name, .file bytes) :: rest) ((name, .file bytes) :: rest')
  | folder (name : String) (linked : Bool) {inner inner' rest rest' : List (String × Item)} :
      Relisted inner inner' → Relisted rest rest' →
      Relisted ((name, .folder linked inner) :: rest) ((name, .folder linked inner') :: rest')
  | swap (e e' : String × Item) (rest : List (String × Item)) :
      Relisted (e :: e' :: rest) (e' :: e :: rest)
  | trans {items items' items'' : List (String × Item)} :
      Relisted items items' → Relisted items' items'' → Relisted items items''

variable {f : Filter} {items others : List (String × Item)} {names : List String}
  {bytes : Option ByteArray} {directory : List Char}

/-! ## The same entries -/

theorem Relisted.kinds_perm (h : Relisted items others) :
    (items.map fun e => (e.1, e.2.isFolder)).Perm (others.map fun e => (e.1, e.2.isFolder)) := by
  induction h with
  | nil => exact .nil
  | file name _ _ ih => exact ih.cons _
  | folder name _ _ _ _ ih => exact ih.cons _
  | swap e e' rest => exact .swap ..
  | trans _ _ ih ih' => exact ih.trans ih'

theorem Relisted.names_perm (h : Relisted items others) :
    (items.map (·.1)).Perm (others.map (·.1)) := by
  simpa [Function.comp_def] using h.kinds_perm.map Prod.fst

theorem Relisted.plain (h : Relisted items others) (hplain : Plain items) : Plain others := by
  induction h with
  | nil => exact hplain
  | file name _ hrest ih =>
    obtain ⟨hname, hnew, hfile, -, hplain⟩ := plain_cons.mp hplain
    refine plain_cons.mpr ⟨hname, mt hrest.names_perm.mem_iff.mpr hnew, hfile, ?_, ih hplain⟩
    intro _ _ heq
    cases heq
  | folder name linked _ hrest ihinner ih =>
    obtain ⟨hname, hnew, -, hfolder, hplain⟩ := plain_cons.mp hplain
    obtain ⟨hlinked, hinner⟩ := hfolder _ _ rfl
    refine plain_cons.mpr ⟨hname, mt hrest.names_perm.mem_iff.mpr hnew, ?_, ?_, ih hplain⟩
    · intro _ heq
      cases heq
    · intro _ _ heq
      obtain ⟨rfl, rfl⟩ := Item.folder.inj heq
      exact ⟨hlinked, ihinner hinner⟩
  | swap e e' rest =>
    have hperm : (e :: e' :: rest).Perm (e' :: e :: rest) := .swap ..
    exact hplain.mono ((hperm.map _).nodup_iff.mp hplain.nodup) hperm.symm.subset
  | trans _ _ ih ih' => exact ih' (ih hplain)

/-! ## The same files -/

theorem Relisted.filesIn_perm (h : Relisted items others) :
    (filesIn f directory items).Perm (filesIn f directory others) := by
  induction h generalizing directory with
  | nil => exact .nil
  | file name _ _ ih => exact ih.append_left _
  | folder name linked _ _ ihinner ih =>
    refine Perm.append ?_ ih
    rw [filesOf, filesOf]
    split
    · exact .nil
    · exact ihinner
  | swap e e' rest => exact perm_append_comm_assoc ..
  | trans _ _ ih ih' => exact ih.trans ih'

theorem Relisted.scan_eq {project : Project} (h : Relisted project.items others)
    (hplain : Plain project.items) :
    scan f { project with items := others } = scan f project := by
  have hfiles : (files f { project with items := others }).Perm (files f project) :=
    h.filesIn_perm.symm
  exact scan_eq_of_perm (h.plain hplain) hplain hfiles

/-! ## The same outline -/

theorem names_outlinesIn_sublist :
    ((outlinesIn f directory items).map Outline.name).Sublist (items.map (·.1)) := by
  induction items with
  | nil => exact .slnil
  | cons e rest ih =>
    obtain ⟨name, item⟩ := e
    rw [outlinesIn, map_append, map_cons]
    have hfirst : ((outlineOf f name (Discovery.below directory name) item).toList.map
        Outline.name).Sublist [name] := by
      cases item <;> rw [outlineOf] <;> split <;> simp [Outline.name]
    exact hfirst.append ih

theorem Relisted.outlinesIn_perm (h : Relisted items others) (hplain : Plain items) :
    (outlinesIn f directory items).Perm (outlinesIn f directory others) := by
  induction h generalizing directory with
  | nil => exact .nil
  | file name _ _ ih => exact (ih (plain_cons.mp hplain).2.2.2.2).append_left _
  | @folder name linked inner inner' _ _ _ _ ihinner ih =>
    obtain ⟨-, -, -, hfolder, hrest⟩ := plain_cons.mp hplain
    have hinner := (hfolder _ _ rfl).2
    have hsame : outlineOf f name (Discovery.below directory name) (.folder linked inner) =
        outlineOf f name (Discovery.below directory name) (.folder linked inner') := by
      rw [outlineOf, outlineOf, Outline.mergeSort_eq_of_perm
        (hinner.nodup.sublist names_outlinesIn_sublist) (ihinner hinner)]
    rw [outlinesIn, outlinesIn, hsame]
    exact (ih hrest).append_left _
  | swap e e' rest => exact perm_append_comm_assoc ..
  | trans h _ ih ih' => exact (ih hplain).trans (ih' (h.plain hplain))

theorem Relisted.outline_eq {project : Project} (h : Relisted project.items others)
    (hplain : Plain project.items) :
    outline f { project with items := others } = outline f project := by
  rw [outline, outline, Outline.mergeSort_eq_of_perm
    (hplain.nodup.sublist names_outlinesIn_sublist) (h.outlinesIn_perm hplain)]

/-! ## The same rules -/

theorem Relisted.file_mem_iff {name : String} (h : Relisted items others) :
    (name, .file bytes) ∈ items ↔ (name, .file bytes) ∈ others := by
  induction h with
  | nil => rfl
  | file _ _ _ ih => rw [mem_cons, mem_cons, ih]
  | folder _ _ _ _ _ ih => simp [ih]
  | swap e e' rest => exact (Perm.swap e' e rest).mem_iff
  | trans _ _ ih ih' => exact ih.trans ih'

variable {project : Project} {data : ByteArray}

theorem ignoreRules_eq_of_mem {other : Project} (hplain : Plain project.items)
    (hplain' : Plain other.items) (h : (".gitignore", .file (some data)) ∈ project.items)
    (h' : (".gitignore", .file (some data)) ∈ other.items) :
    ignoreRules project = ignoreRules other := by
  simp only [ignoreRules, (Keyed.lookup_eq_some_iff hplain.nodup).mpr h,
    (Keyed.lookup_eq_some_iff hplain'.nodup).mpr h']

theorem ignoreRules_of_forall_notMem (hplain : Plain project.items)
    (h : ∀ data, (".gitignore", .file (some data)) ∉ project.items) :
    ignoreRules project = [] := by
  unfold ignoreRules
  split
  · rename_i data hlookup
    exact absurd ((Keyed.lookup_eq_some_iff hplain.nodup).mp hlookup) (h data)
  · rfl

theorem Relisted.ignoreRules_eq (h : Relisted project.items others)
    (hplain : Plain project.items) :
    ignoreRules { project with items := others } = ignoreRules project := by
  have hmem : ∀ data, (".gitignore", .file (some data)) ∈ others ↔
      (".gitignore", .file (some data)) ∈ project.items := by
    intro data
    exact h.file_mem_iff.symm
  by_cases hfile : ∃ data, (".gitignore", .file (some data)) ∈ project.items
  · obtain ⟨data, hfile⟩ := hfile
    exact ignoreRules_eq_of_mem (h.plain hplain) hplain ((hmem data).mpr hfile) hfile
  · have hnone := not_exists.mp hfile
    rw [ignoreRules_of_forall_notMem hplain hnone,
      ignoreRules_of_forall_notMem (h.plain hplain) fun data => mt (hmem data).mp (hnone data)]

end Discovery

namespace Filter

open Discovery

variable {o : Options} {project : Project} {items : List (String × Item)}

theorem given_of_relisted (h : Relisted project.items items) (hplain : Plain project.items) :
    given o { project with items := items } = given o project := by
  rw [given, given, h.ignoreRules_eq hplain]

/-- In whatever order entries are listed, options come to the same filter or to the same fault. -/
theorem ofOptions_of_relisted (h : Relisted project.items items) (hplain : Plain project.items) :
    ofOptions o { project with items := items } = ofOptions o project := by
  have hentries : items.any (fun e => !(given o project).isExcluded e.1.toList e.2.isFolder) =
      project.items.any fun e => !(given o project).isExcluded e.1.toList e.2.isFolder := by
    simpa [Function.comp_def] using (h.kinds_perm.any_eq
      (f := fun kind => !(given o project).isExcluded kind.1.toList kind.2)).symm
  have hfiles : (files (given o project) { project with items := items }).Perm
      (files (given o project) project) := h.filesIn_perm.symm
  rw [ofOptions_eq, ofOptions_eq, given_of_relisted h hplain, hentries, hfiles.any_eq]

end Filter

end SourceDigest
