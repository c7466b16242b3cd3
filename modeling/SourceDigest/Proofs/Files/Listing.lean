import Mathlib.Data.List.Infix
import Mathlib.Data.List.Nodup
import SourceDigest.Files.Discovery
import SourceDigest.Proofs.Path.Segments

/-! Files of a directory tree. A file stands where the names on its way lead, and it is found
exactly where nothing on that way is excluded: no folder as a folder, and the file itself not as a
file. In a tree with proper names no two files are found at one path. -/

namespace SourceDigest

/-- What holds of an empty listing, and of a listing from what is left of it and from what is in its
first entry, holds of every listing. -/
@[elab_as_elim]
theorem Item.listing_induction {motive : List (String × Item) → Prop} (nil : motive [])
    (file : ∀ name bytes rest, motive rest → motive ((name, .file bytes) :: rest))
    (folder : ∀ name linked inner rest, motive inner → motive rest →
      motive ((name, .folder linked inner) :: rest)) :
    ∀ items, motive items
  | [] => nil
  | (name, .file bytes) :: rest =>
    file name bytes rest (listing_induction nil file folder rest)
  | (name, .folder linked inner) :: rest =>
    folder name linked inner rest (listing_induction nil file folder inner)
      (listing_induction nil file folder rest)
  termination_by items => sizeOf items

namespace Discovery

open List

/-! ## Where files stand -/

/-- A file below a listing: the names of the folders on the way, none of which is a link, and its
own name. -/
inductive FileAt : List (String × Item) → List String → Option ByteArray → Prop
  | here {items name bytes} (h : (name, .file bytes) ∈ items) : FileAt items [name] bytes
  | within {items name inner names bytes} (h : (name, .folder false inner) ∈ items)
      (hinner : FileAt inner names bytes) : FileAt items (name :: names) bytes

/-- A name that an entry of a directory can have. -/
def IsEntryName (name : String) : Prop :=
  name ≠ "" ∧ '/' ∉ name.toList

instance (name : String) : Decidable (IsEntryName name) :=
  inferInstanceAs (Decidable (_ ∧ _))

/-- A listing without links in which every file can be read. Its entries have names of their
own. -/
inductive Plain : List (String × Item) → Prop
  | mk {items} (nodup : (items.map (·.1)).Nodup) (names : ∀ e ∈ items, IsEntryName e.1)
      (readable : ∀ name bytes, (name, Item.file bytes) ∈ items → bytes.isSome = true)
      (unlinked : ∀ name linked inner, (name, Item.folder linked inner) ∈ items → linked = false)
      (inner : ∀ name linked inner, (name, Item.folder linked inner) ∈ items → Plain inner) :
    Plain items

variable {f : Filter} {items inner rest : List (String × Item)} {name : String}
  {names : List String} {linked : Bool} {bytes : Option ByteArray} {directory path : List Char}

theorem FileAt.ne_nil (h : FileAt items names bytes) : names ≠ [] := by
  cases h <;> exact cons_ne_nil _ _

theorem FileAt.mono {others : List (String × Item)} (hsub : items ⊆ others)
    (h : FileAt items names bytes) : FileAt others names bytes := by
  cases h with
  | here h => exact .here (hsub h)
  | within h hinner => exact .within (hsub h) hinner

theorem not_fileAt_nil : ¬ FileAt [] names bytes := by
  rintro (h | h) <;> exact absurd h not_mem_nil

theorem fileAt_cons_file {other : Option ByteArray} :
    FileAt ((name, .file other) :: rest) names bytes ↔
      names = [name] ∧ bytes = other ∨ FileAt rest names bytes := by
  constructor
  · rintro (h | ⟨h, hinner⟩)
    · rcases mem_cons.mp h with heq | h
      · obtain ⟨rfl, hfile⟩ := Prod.mk.inj heq
        exact Or.inl ⟨rfl, Item.file.inj hfile⟩
      · exact Or.inr (.here h)
    · rcases mem_cons.mp h with heq | h
      · cases (Prod.mk.inj heq).2
      · exact Or.inr (.within h hinner)
  · rintro (⟨rfl, rfl⟩ | h)
    · exact .here mem_cons_self
    · exact h.mono (subset_cons_self _ _)

theorem fileAt_cons_folder :
    FileAt ((name, .folder linked inner) :: rest) names bytes ↔
      (linked = false ∧ ∃ below, names = name :: below ∧ FileAt inner below bytes) ∨
        FileAt rest names bytes := by
  constructor
  · rintro (h | ⟨h, hinner⟩)
    · rcases mem_cons.mp h with heq | h
      · cases (Prod.mk.inj heq).2
      · exact Or.inr (.here h)
    · rcases mem_cons.mp h with heq | h
      · obtain ⟨rfl, hfolder⟩ := Prod.mk.inj heq
        obtain ⟨rfl, rfl⟩ := Item.folder.inj hfolder
        exact Or.inl ⟨rfl, _, rfl, hinner⟩
      · exact Or.inr (.within h hinner)
  · rintro (⟨rfl, below, rfl, hinner⟩ | h)
    · exact .within mem_cons_self hinner
    · exact h.mono (subset_cons_self _ _)

/-! ## Which files are found -/

/-- The path that names lead to from a directory. -/
def place (directory : List Char) (names : List String) : List Char :=
  names.foldl below directory

/-- Nothing on the way of names is left out, given how each part of the way is written: the last
name not as a file, and what stands before it not as folders. -/
structure Shown (f : Filter) (written : List String → List Char) (names : List String) : Prop where
  file : f.isExcluded (written names) false = false
  folders : ∀ front rest, names = front ++ rest → front ≠ [] → rest ≠ [] →
    f.isExcluded (written front) true = false

theorem shown_singleton :
    Shown f (place directory) [name] ↔ f.isExcluded (below directory name) false = false := by
  constructor
  · exact Shown.file
  · intro h
    refine ⟨h, fun front rest heq hfront hrest => ?_⟩
    have hlength := congrArg length heq
    have := length_pos_iff.mpr hfront
    have := length_pos_iff.mpr hrest
    simp only [length_cons, length_nil, length_append] at hlength
    omega

theorem shown_cons (hne : names ≠ []) :
    Shown f (place directory) (name :: names) ↔
      f.isExcluded (below directory name) true = false ∧
        Shown f (place (below directory name)) names := by
  constructor
  · intro h
    refine ⟨h.folders [name] names rfl (cons_ne_nil _ _) hne, h.file, ?_⟩
    intro front rest heq _ hrest
    exact h.folders (name :: front) rest (congrArg (name :: ·) heq) (cons_ne_nil _ _) hrest
  · rintro ⟨hfolder, h⟩
    refine ⟨h.file, fun front rest heq hfront hrest => ?_⟩
    obtain ⟨first, front, rfl⟩ := exists_cons_of_ne_nil hfront
    obtain ⟨rfl, hnames⟩ := cons.inj heq
    rcases eq_or_ne front [] with rfl | hfront
    · exact hfolder
    · exact h.folders front rest hnames hfront hrest

/-- The files found below a listing are those on whose way nothing is left out. -/
theorem mem_filesIn :
    (path, bytes) ∈ filesIn f directory items ↔
      ∃ names, FileAt items names bytes ∧ path = place directory names ∧
        Shown f (place directory) names := by
  induction items using Item.listing_induction generalizing directory with
  | nil => simp [filesIn, not_fileAt_nil]
  | file name other rest ih =>
    simp only [filesIn, mem_append, ih, fileAt_cons_file, or_and_right, exists_or]
    apply or_congr_left
    constructor
    · intro h
      cases hexcluded : f.isExcluded (below directory name) false with
      | true => simp [filesOf, hexcluded] at h
      | false =>
        obtain ⟨rfl, rfl⟩ : path = below directory name ∧ bytes = other := by
          simpa [filesOf, hexcluded] using h
        exact ⟨[name], ⟨rfl, rfl⟩, rfl, shown_singleton.mpr hexcluded⟩
    · rintro ⟨_, ⟨rfl, rfl⟩, rfl, hshown⟩
      simp [filesOf, shown_singleton.mp hshown, place]
  | folder name linked inner rest ihinner ihrest =>
    simp only [filesIn, mem_append, ihrest, fileAt_cons_folder, or_and_right, exists_or]
    apply or_congr_left
    constructor
    · intro h
      rw [filesOf] at h
      split at h
      · cases h
      · rename_i hentered
        obtain ⟨hlinked, hexcluded⟩ := not_or.mp (mt Bool.or_eq_true_iff.mpr hentered)
        obtain ⟨names, hfile, rfl, hshown⟩ := ihinner.mp h
        refine ⟨name :: names, ⟨by simpa using hlinked, names, rfl, hfile⟩, rfl, ?_⟩
        exact (shown_cons hfile.ne_nil).mpr ⟨by simpa using hexcluded, hshown⟩
    · rintro ⟨_, ⟨rfl, names, rfl, hfile⟩, rfl, hshown⟩
      obtain ⟨hexcluded, hshown⟩ := (shown_cons hfile.ne_nil).mp hshown
      have hin := ihinner.mpr ⟨names, hfile, rfl, hshown⟩
      simpa [filesOf, hexcluded] using hin

/-! ## Trees with proper names -/

theorem Plain.nodup (h : Plain items) : (items.map (·.1)).Nodup := by
  cases h
  assumption

theorem Plain.mono {part : List (String × Item)} (h : Plain items)
    (hnodup : (part.map (·.1)).Nodup) (hsub : part ⊆ items) : Plain part := by
  obtain ⟨-, names, readable, unlinked, inner⟩ := h
  exact ⟨hnodup, fun e he => names e (hsub he),
    fun name bytes he => readable name bytes (hsub he),
    fun name linked inner he => unlinked name linked inner (hsub he),
    fun name linked items he => inner name linked items (hsub he)⟩

theorem Plain.sublist {part : List (String × Item)} (h : Plain items)
    (hsub : part.Sublist items) : Plain part :=
  h.mono (h.nodup.sublist (hsub.map _)) hsub.subset

theorem Plain.folder (h : Plain items) (hmem : (name, .folder linked inner) ∈ items) :
    linked = false ∧ Plain inner := by
  obtain ⟨-, -, -, unlinked, plain⟩ := h
  exact ⟨unlinked name linked inner hmem, plain name linked inner hmem⟩

theorem plain_nil : Plain [] :=
  ⟨nodup_nil, fun _ => nofun, fun _ _ => nofun, fun _ _ _ => nofun, fun _ _ _ => nofun⟩

theorem plain_cons {e : String × Item} :
    Plain (e :: rest) ↔ IsEntryName e.1 ∧ e.1 ∉ rest.map (·.1) ∧
      (∀ bytes, e.2 = .file bytes → bytes.isSome = true) ∧
      (∀ linked inner, e.2 = .folder linked inner → linked = false ∧ Plain inner) ∧
      Plain rest := by
  obtain ⟨name, item⟩ := e
  constructor
  · intro h
    have hrest := h.sublist (sublist_cons_self _ _)
    refine ⟨?_, (nodup_cons.mp h.nodup).1, ?_, ?_, hrest⟩
    · obtain ⟨-, names, -, -, -⟩ := h
      exact names _ mem_cons_self
    · rintro bytes rfl
      obtain ⟨-, -, readable, -, -⟩ := h
      exact readable name bytes mem_cons_self
    · rintro linked inner rfl
      exact h.folder mem_cons_self
  · rintro ⟨hname, hnew, hfile, hfolder, nodup, names, readable, unlinked, inner⟩
    refine ⟨nodup_cons.mpr ⟨hnew, nodup⟩, forall_mem_cons.mpr ⟨hname, names⟩, ?_, ?_, ?_⟩
    · intro other bytes hmem
      rcases mem_cons.mp hmem with heq | hmem
      · exact hfile bytes (Prod.mk.inj heq).2.symm
      · exact readable other bytes hmem
    · intro other linked inner hmem
      rcases mem_cons.mp hmem with heq | hmem
      · exact (hfolder linked inner (Prod.mk.inj heq).2.symm).1
      · exact unlinked other linked inner hmem
    · intro other linked items hmem
      rcases mem_cons.mp hmem with heq | hmem
      · exact (hfolder linked items (Prod.mk.inj heq).2.symm).2
      · exact inner other linked items hmem

theorem FileAt.isEntryName (h : FileAt items names bytes) (hplain : Plain items) :
    ∀ name ∈ names, IsEntryName name := by
  induction h with
  | here h =>
    obtain ⟨-, hnames, -, -, -⟩ := hplain
    simpa using hnames _ h
  | within h _ ih =>
    have hinner := (hplain.folder h).2
    obtain ⟨-, hnames, -, -, -⟩ := hplain
    exact forall_mem_cons.mpr ⟨hnames _ h, ih hinner⟩

theorem FileAt.exists_cons (h : FileAt items names bytes) :
    ∃ name rest, names = name :: rest ∧ name ∈ items.map (·.1) := by
  cases h with
  | here h => exact ⟨_, _, rfl, mem_map_of_mem h⟩
  | within h _ => exact ⟨_, _, rfl, mem_map_of_mem h⟩

/-! ## Paths -/

def pathOf (names : List String) : List Char :=
  Text.join ['/'] (names.map String.toList)

theorem place_eq (hnames : ∀ name ∈ names, IsEntryName name) (hne : names ≠ []) :
    place directory names =
      (if directory.isEmpty then [] else directory ++ ['/']) ++ pathOf names := by
  induction names generalizing directory with
  | nil => exact absurd rfl hne
  | cons name names ih =>
    obtain ⟨hname, hnames⟩ := forall_mem_cons.mp hnames
    have hbelow : below directory name =
        (if directory.isEmpty then [] else directory ++ ['/']) ++ name.toList := by
      unfold below
      split <;> simp
    rcases eq_or_ne names [] with rfl | hne
    · simp [place, hbelow, pathOf, Text.join]
    · have hfull : (below directory name).isEmpty = false := by
        simp [hbelow, hname.1]
      obtain ⟨next, names, rfl⟩ := exists_cons_of_ne_nil hne
      change place (below directory name) (next :: names) = _
      rw [ih hnames hne, hfull, hbelow]
      simp [pathOf, Text.join, intercalate_cons_cons]

theorem place_nil (hnames : ∀ name ∈ names, IsEntryName name) (hne : names ≠ []) :
    place [] names = pathOf names :=
  place_eq hnames hne

theorem split_pathOf (hnames : ∀ name ∈ names, IsEntryName name) (hne : names ≠ []) :
    Text.split '/' (pathOf names) = names.map String.toList := by
  apply Path.split_join (forall_mem_map.mpr fun name hmem => (hnames name hmem).2)
  exact mt map_eq_nil_iff.mp hne

/-- Different names make different paths. -/
theorem pathOf_injective {others : List String} (hnames : ∀ name ∈ names, IsEntryName name)
    (hothers : ∀ name ∈ others, IsEntryName name) (hne : names ≠ []) (hne' : others ≠ [])
    (h : pathOf names = pathOf others) : names = others := by
  have hmap := congrArg (Text.split '/') h
  rw [split_pathOf hnames hne, split_pathOf hothers hne'] at hmap
  exact map_injective_iff.mpr (fun _ _ => String.ext) hmap

theorem place_injective {others : List String} (hnames : ∀ name ∈ names, IsEntryName name)
    (hothers : ∀ name ∈ others, IsEntryName name) (hne : names ≠ []) (hne' : others ≠ [])
    (h : place directory names = place directory others) : names = others := by
  rw [place_eq hnames hne, place_eq hothers hne'] at h
  exact pathOf_injective hnames hothers hne hne' (append_cancel_left h)

theorem place_injective_of_fileAt {others : List (String × Item)} {names' : List String}
    {bytes' : Option ByteArray} (h : FileAt items names bytes) (h' : FileAt others names' bytes')
    (hplain : Plain items) (hplain' : Plain others)
    (heq : place directory names = place directory names') : names = names' :=
  place_injective (h.isEntryName hplain) (h'.isEntryName hplain') h.ne_nil h'.ne_nil heq

/-- What is found at an entry and what is found at the entries after it have no path in common. -/
theorem disjoint_filesIn {e : String × Item} (hplain : Plain (e :: rest)) :
    ((filesOf f (below directory e.1) e.2).map (·.1)).Disjoint
      ((filesIn f directory rest).map (·.1)) := by
  intro path hfirst hrest
  have hfound : filesIn f directory [e] = filesOf f (below directory e.1) e.2 := by
    rw [filesIn, filesIn, append_nil]
  rw [← hfound] at hfirst
  obtain ⟨bytes, hfirst⟩ : ∃ bytes, (path, bytes) ∈ filesIn f directory [e] := by simpa using hfirst
  obtain ⟨bytes', hrest⟩ : ∃ bytes, (path, bytes) ∈ filesIn f directory rest := by simpa using hrest
  obtain ⟨names, hfile, hpath, -⟩ := mem_filesIn.mp hfirst
  obtain ⟨names', hfile', hpath', -⟩ := mem_filesIn.mp hrest
  have hsingle : Plain [e] := hplain.sublist (cons_sublist_cons.mpr (nil_sublist _))
  have htail : Plain rest := hplain.sublist (sublist_cons_self _ _)
  obtain rfl : names = names' :=
    place_injective_of_fileAt hfile hfile' hsingle htail (hpath.symm.trans hpath')
  obtain ⟨name, below, rfl, hname⟩ := hfile.exists_cons
  obtain ⟨name', below', heq, hname'⟩ := hfile'.exists_cons
  obtain rfl : name = e.1 := by simpa using hname
  obtain rfl := (cons.inj heq).1
  exact (nodup_cons.mp hplain.nodup).1 hname'

/-- No two files are found at one path. -/
theorem nodup_filesIn (hplain : Plain items) : ((filesIn f directory items).map (·.1)).Nodup := by
  have hcons : ∀ {directory e rest}, Plain (e :: rest) →
      ((filesOf f (below directory e.1) e.2).map (·.1)).Nodup →
      ((filesIn f directory rest).map (·.1)).Nodup →
      ((filesIn f directory (e :: rest)).map (·.1)).Nodup := by
    intro directory e rest hplain hfirst hrest
    rw [filesIn, map_append]
    exact hfirst.append hrest (disjoint_filesIn hplain)
  induction items using Item.listing_induction generalizing directory with
  | nil => simp [filesIn]
  | file name other rest ih =>
    refine hcons hplain ?_ (ih (hplain.sublist (sublist_cons_self _ _)))
    rw [filesOf]
    split <;> simp
  | folder name linked inner rest ihinner ihrest =>
    refine hcons hplain ?_ (ihrest (hplain.sublist (sublist_cons_self _ _)))
    rw [filesOf]
    split
    · simp
    · exact ihinner (hplain.folder mem_cons_self).2

/-! ## A whole project -/

theorem Shown.congr {written written' : List String → List Char}
    (h : ∀ front rest, names = front ++ rest → front ≠ [] → written front = written' front)
    (hne : names ≠ []) : Shown f written names ↔ Shown f written' names := by
  have hall := h names [] (append_nil names).symm hne
  constructor
  · intro hshown
    refine ⟨hall ▸ hshown.file, fun front rest heq hfront hrest => ?_⟩
    exact h front rest heq hfront ▸ hshown.folders front rest heq hfront hrest
  · intro hshown
    refine ⟨hall.symm ▸ hshown.file, fun front rest heq hfront hrest => ?_⟩
    exact (h front rest heq hfront).symm ▸ hshown.folders front rest heq hfront hrest

theorem mem_files {project : Project} (hplain : Plain project.items) :
    (path, bytes) ∈ files f project ↔
      ∃ names, FileAt project.items names bytes ∧ path = pathOf names ∧ Shown f pathOf names := by
  rw [files, mem_filesIn]
  apply exists_congr
  intro names
  apply and_congr_right
  intro hfile
  have hnames := hfile.isEntryName hplain
  have hwritten : ∀ front rest, names = front ++ rest → front ≠ [] →
      place [] front = pathOf front := by
    rintro front rest rfl hfront
    exact place_nil (fun name hmem => hnames name (mem_append_left _ hmem)) hfront
  rw [place_nil hnames hfile.ne_nil, Shown.congr hwritten hfile.ne_nil]

/-! ## Verdicts that directories pass on -/

theorem pathOf_append {front rest : List String} (hfront : front ≠ []) (hrest : rest ≠ []) :
    pathOf (front ++ rest) = pathOf front ++ '/' :: pathOf rest := by
  induction front with
  | nil => exact absurd rfl hfront
  | cons name front ih =>
    rcases eq_or_ne front [] with rfl | hfront
    · obtain ⟨next, rest, rfl⟩ := exists_cons_of_ne_nil hrest
      simp [pathOf, Text.join, intercalate_cons_cons]
    · obtain ⟨next, front, rfl⟩ := exists_cons_of_ne_nil hfront
      simpa [pathOf, Text.join, intercalate_cons_cons] using ih hfront

/-- A reason for leaving entries out that every directory passes on to the files below need only be
asked for the files themselves: passing over a directory because of it loses no other file. -/
theorem mem_files_of_inherited {g : Filter} {verdict : List Char → Bool → Bool} {project : Project}
    (hplain : Plain project.items)
    (hverdict : ∀ path isDirectory,
      f.isExcluded path isDirectory = (g.isExcluded path isDirectory || verdict path isDirectory))
    (hinherited : ∀ front rest, path = front ++ '/' :: rest → verdict front true = true →
      verdict path false = true) :
    (path, bytes) ∈ files f project ↔
      (path, bytes) ∈ files g project ∧ verdict path false = false := by
  have hkept (path : List Char) (isDirectory : Bool) : f.isExcluded path isDirectory = false ↔
      g.isExcluded path isDirectory = false ∧ verdict path isDirectory = false := by
    rw [hverdict, Bool.or_eq_false_iff]
  simp only [mem_files hplain]
  constructor
  · rintro ⟨names, hfile, rfl, hshown⟩
    obtain ⟨hg, hv⟩ := (hkept _ _).mp hshown.file
    refine ⟨⟨names, hfile, rfl, hg, fun front rest heq hfront hrest => ?_⟩, hv⟩
    exact ((hkept _ _).mp (hshown.folders front rest heq hfront hrest)).1
  · rintro ⟨⟨names, hfile, rfl, hshown⟩, hv⟩
    refine ⟨names, hfile, rfl, (hkept _ _).mpr ⟨hshown.file, hv⟩, ?_⟩
    intro front rest heq hfront hrest
    refine (hkept _ _).mpr ⟨hshown.folders front rest heq hfront hrest, ?_⟩
    by_contra hpruned
    have hpath : pathOf names = pathOf front ++ '/' :: pathOf rest :=
      heq ▸ pathOf_append hfront hrest
    have hpassed := hinherited _ _ hpath (Bool.not_eq_false _ ▸ hpruned)
    rw [hv] at hpassed
    cases hpassed

/-! ## Paths of entries -/

/-- A path that names without line feeds make, with one slash between neighbours. -/
def IsEntryPath (path : List Char) : Prop :=
  '\n' ∉ path ∧ ∀ name ∈ Text.split '/' path, name ≠ []

theorem isEntryPath_append_iff {front rest : List Char} :
    IsEntryPath (front ++ '/' :: rest) ↔ IsEntryPath front ∧ IsEntryPath rest := by
  simp only [IsEntryPath, Path.split_append_cons, mem_append, mem_cons, not_or, or_imp, forall_and]
  constructor
  · rintro ⟨⟨hfront, -, hrest⟩, hnames, hmore⟩
    exact ⟨⟨hfront, hnames⟩, hrest, hmore⟩
  · rintro ⟨⟨hfront, hnames⟩, hrest, hmore⟩
    exact ⟨⟨hfront, by decide, hrest⟩, hnames, hmore⟩

theorem isEntryPath_of_notMem (hne : path ≠ []) (hslash : '/' ∉ path) (hfeed : '\n' ∉ path) :
    IsEntryPath path := by
  refine ⟨hfeed, ?_⟩
  simpa [Path.split_of_notMem hslash] using hne

theorem isEntryPath_of_mem_files {project : Project} (hplain : Plain project.items)
    (hfeed : '\n' ∉ path) (h : (path, bytes) ∈ files f project) : IsEntryPath path := by
  obtain ⟨names, hfile, rfl, -⟩ := (mem_files hplain).mp h
  refine ⟨hfeed, ?_⟩
  rw [split_pathOf (hfile.isEntryName hplain) hfile.ne_nil]
  simpa using fun name hmem => (hfile.isEntryName hplain name hmem).1

/-- The names that lead to a path. -/
def namesOf (path : List Char) : List String :=
  (Text.split '/' path).map String.ofList

theorem pathOf_namesOf (path : List Char) : pathOf (namesOf path) = path := by
  have hnames : (namesOf path).map String.toList = Text.split '/' path := by
    simp [namesOf, Function.comp_def]
  rw [pathOf, hnames]
  exact intercalate_splitOn '/'

theorem namesOf_ne_nil (path : List Char) : namesOf path ≠ [] :=
  mt map_eq_nil_iff.mp (splitOn_ne_nil _ _)

theorem namesOf_append (front rest : List Char) :
    namesOf (front ++ '/' :: rest) = namesOf front ++ namesOf rest := by
  rw [namesOf, Path.split_append_cons, map_append, namesOf, namesOf]

theorem isEntryName_of_mem_namesOf (h : IsEntryPath path) :
    ∀ name ∈ namesOf path, IsEntryName name := by
  intro name hmem
  obtain ⟨part, hpart, rfl⟩ := mem_map.mp hmem
  constructor
  · intro hname
    exact h.2 part hpart (by simpa using congrArg String.toList hname)
  · simpa using Path.notMem_of_mem_split hpart

/-- A listing of one empty file, with the folders that its path goes through. -/
def alone : List String → List (String × Item)
  | [] => []
  | [name] => [(name, .file (some .empty))]
  | name :: names => [(name, .folder false (alone names))]

theorem fileAt_alone (hne : names ≠ []) : FileAt (alone names) names (some .empty) := by
  induction names with
  | nil => exact absurd rfl hne
  | cons name names ih =>
    cases names with
    | nil => exact .here mem_cons_self
    | cons next names => exact .within mem_cons_self (ih (cons_ne_nil _ _))

theorem plain_alone (hnames : ∀ name ∈ names, IsEntryName name) : Plain (alone names) := by
  induction names with
  | nil => exact plain_nil
  | cons name names ih =>
    obtain ⟨hname, hnames⟩ := forall_mem_cons.mp hnames
    cases names with
    | nil => simp [alone, plain_cons, plain_nil, hname]
    | cons next names => simpa [alone, plain_cons, plain_nil, hname] using ih hnames

end Discovery

end SourceDigest
