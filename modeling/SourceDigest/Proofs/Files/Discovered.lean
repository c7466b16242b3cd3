import SourceDigest.Proofs.Files.Relisting

/-! What is discovered. The outline and the scan go through a project in different ways, the one
sorting each directory by itself and the other all texts at the end, and both come to the files on
whose way nothing is left out: the outline to all of them, the scan to those that are source
files. Neither depends on the order in which directories are listed. -/

namespace SourceDigest

open List

/-! ## Files of an outline -/

namespace Outline

mutual

def filePaths : Outline → List String
  | .mk _ path isDirectory children => if isDirectory then filePathsAll children else [path]

def filePathsAll : List Outline → List String
  | [] => []
  | entry :: rest => filePaths entry ++ filePathsAll rest

end

theorem filePathsAll_eq (entries : List Outline) :
    filePathsAll entries = entries.flatMap filePaths := by
  induction entries with
  | nil => rfl
  | cons entry rest ih => rw [filePathsAll, ih, flatMap_cons]

theorem filePathsAll_append (entries others : List Outline) :
    filePathsAll (entries ++ others) = filePathsAll entries ++ filePathsAll others := by
  simp only [filePathsAll_eq, flatMap_append]

/-- Sorting entries does not change which files are below them. -/
theorem filePathsAll_mergeSort_perm (entries : List Outline) :
    (filePathsAll (entries.mergeSort before)).Perm (filePathsAll entries) := by
  rw [filePathsAll_eq, filePathsAll_eq]
  exact (mergeSort_perm entries before).flatMap_right filePaths

end Outline

namespace Discovery

variable {f : Filter} {project : Project} {items : List (String × Item)} {directory : List Char}

/-- The files of the outline are the files that are found. -/
theorem filePathsAll_outlinesIn_perm (hplain : Plain items) :
    (Outline.filePathsAll (outlinesIn f directory items)).Perm
      ((filesIn f directory items).map fun file => String.ofList file.1) := by
  induction items using Item.listing_induction generalizing directory with
  | nil => exact .nil
  | file name bytes rest ih =>
    obtain ⟨-, -, -, -, hrest⟩ := plain_cons.mp hplain
    rw [outlinesIn, filesIn, Outline.filePathsAll_append, map_append]
    refine Perm.append ?_ (ih hrest)
    rw [outlineOf, filesOf]
    split
    · exact .nil
    · exact .refl _
  | folder name linked inner rest ihinner ihrest =>
    obtain ⟨-, -, -, hfolder, hrest⟩ := plain_cons.mp hplain
    obtain ⟨rfl, hinner⟩ := hfolder _ _ rfl
    rw [outlinesIn, filesIn, Outline.filePathsAll_append, map_append]
    refine Perm.append ?_ (ihrest hrest)
    rw [outlineOf, filesOf, Bool.false_or]
    split
    · exact .nil
    · simp only [Option.toList_some, Outline.filePathsAll, Outline.filePaths, if_true, append_nil]
      exact (Outline.filePathsAll_mergeSort_perm _).trans (ihinner hinner)

theorem filePaths_outline_perm (hplain : Plain project.items) :
    (outline f project).filePaths.Perm
      ((files f project).map fun file => String.ofList file.1) := by
  rw [outline, Outline.filePaths, if_pos rfl]
  exact (Outline.filePathsAll_mergeSort_perm _).trans (filePathsAll_outlinesIn_perm hplain)

theorem mem_filePaths_outline {path : String} (hplain : Plain project.items) :
    path ∈ (outline f project).filePaths ↔
      ∃ names bytes, FileAt project.items names bytes ∧ Shown f pathOf names ∧
        path = String.ofList (pathOf names) := by
  rw [(filePaths_outline_perm hplain).mem_iff, mem_map]
  constructor
  · rintro ⟨⟨found, bytes⟩, hfound, rfl⟩
    obtain ⟨names, hfile, rfl, hshown⟩ := (mem_files hplain).mp hfound
    exact ⟨names, bytes, hfile, hshown, rfl⟩
  · rintro ⟨names, bytes, hfile, hshown, rfl⟩
    exact ⟨(pathOf names, bytes), (mem_files hplain).mpr ⟨names, hfile, rfl, hshown⟩, rfl⟩

theorem nodup_filePaths_outline (hplain : Plain project.items) :
    (outline f project).filePaths.Nodup :=
  (filePaths_outline_perm hplain).nodup_iff.mpr (nodup_paths hplain)

/-! ## What outline and scan come to -/

/-- The outline holds each file on whose way nothing is left out, once; the scan holds those of
them that are source files, in the order of their paths and each once. A size is allowed where the
limit of the options is not below it. -/
structure ExactDiscovery (o : Options) (f : Filter) (project : Project) : Prop where
  leaves : ∀ path, path ∈ (outline f project).filePaths ↔
    ∃ names bytes, FileAt project.items names bytes ∧ Shown f pathOf names ∧
      path = String.ofList (pathOf names)
  leafOnce : (outline f project).filePaths.Nodup
  scanned : ∀ s, s ∈ scan f project ↔
    ∃ names data, FileAt project.items names (some data) ∧ Shown f pathOf names ∧
      f.BecomesSource (pathOf names) data s
  limit : ∀ size : Nat, f.tooLarge size = false ↔ Options.AtLeast o.maxFileSize size
  ordered : (scan f project).Pairwise fun a b => a.path < b.path

theorem exactDiscovery_given {o : Options} (hcheck : o.check = .ok ())
    (hplain : Plain project.items) :
    ExactDiscovery o (Filter.given o project) project where
  leaves _ := mem_filePaths_outline hplain
  leafOnce := nodup_filePaths_outline hplain
  scanned s := by
    rw [mem_scan]
    constructor
    · rintro ⟨path, data, hfound, htakes⟩
      obtain ⟨names, hfile, rfl, hshown⟩ := (mem_files hplain).mp hfound
      exact ⟨names, data, hfile, hshown, htakes⟩
    · rintro ⟨names, data, hfile, hshown, htakes⟩
      exact ⟨_, data, (mem_files hplain).mpr ⟨names, hfile, rfl, hshown⟩, htakes⟩
  limit _ := Filter.tooLarge_given hcheck
  ordered := pairwise_scan hplain

/-- Options that are accepted lead to an outline and a scan that are exact, and to the same ones in
whatever order directories are listed. Where a pattern is no text they may lead to a fault, and
then they do so in every order. -/
theorem discovery_exact (o : Options) (project : Project) (hcheck : o.check = .ok ())
    (hplain : Plain project.items) :
    (∀ f, Filter.ofOptions o project = .ok f → ExactDiscovery o f project) ∧
      (∀ items, Relisted project.items items →
        Filter.ofOptions o { project with items := items } = Filter.ofOptions o project ∧
          ∀ f, outline f { project with items := items } = outline f project ∧
            scan f { project with items := items } = scan f project) ∧
      (o.PatternsAreTexts → ∃ f, Filter.ofOptions o project = .ok f) := by
  refine ⟨?_, ?_, ?_⟩
  · intro f hf
    rw [Filter.eq_given hf]
    exact exactDiscovery_given hcheck hplain
  · intro items h
    exact ⟨Filter.ofOptions_of_relisted h hplain, fun f => ⟨h.outline_eq hplain, h.scan_eq hplain⟩⟩
  · intro htexts
    exact ⟨_, Filter.ofOptions_of_texts htexts⟩

/-- A project with a file in a folder and a file beside it. -/
def twoFiles : Project :=
  ⟨"demo", [("src", .folder false [("a.py", .file (some ⟨#[120]⟩))]),
    ("README.md", .file (some ⟨#[]⟩))]⟩

theorem discovery_exact_twoFiles :
    ∃ f, Filter.ofOptions { excludePatterns := .ofTexts ["build/**"] } twoFiles = .ok f ∧
      ExactDiscovery { excludePatterns := .ofTexts ["build/**"] } f twoFiles ∧
      (⟨"src/a.py", "x", "python", 1⟩ : SourceFile) ∈
        scan f ⟨"demo", twoFiles.items.reverse⟩ := by
  have hplain : Plain twoFiles.items := by
    have hnames : IsEntryName "a.py" ∧ IsEntryName "src" ∧ IsEntryName "README.md" :=
      ⟨⟨by decide, by decide⟩, ⟨by decide, by decide⟩, ⟨by decide, by decide⟩⟩
    simp [twoFiles, plain_cons, plain_nil, hnames]
  obtain ⟨hexact, hrelisted, hok⟩ :=
    discovery_exact { excludePatterns := .ofTexts ["build/**"] } twoFiles rfl hplain
  obtain ⟨f, hf⟩ := hok ⟨rfl, rfl⟩
  have hreversed : scan f ⟨"demo", twoFiles.items.reverse⟩ = scan f twoFiles :=
    ((hrelisted twoFiles.items.reverse (.swap _ _ [])).2 f).2
  refine ⟨f, hf, hexact f hf, ?_⟩
  obtain rfl := Filter.eq_given hf
  have hfound : ("src/a.py".toList, some ⟨#[120]⟩) ∈ files
      (Filter.given { excludePatterns := .ofTexts ["build/**"] } twoFiles) twoFiles :=
    mem_cons_self
  rw [hreversed, mem_scan]
  exact ⟨_, _, hfound, by decide, by decide, by decide, ['x'], rfl, by decide, rfl⟩

end Discovery

end SourceDigest
