import SourceDigest.Proofs.Files.Filtering
import SourceDigest.Proofs.Keyed

/-! Narrower options. What options leave out stays left out where they ask for less: where more is
excluded or less is included, where files have to be smaller, where hidden files are no longer
shown, and where an ignore file has more lines. -/

namespace SourceDigest

open List

/-! ## Narrower filters -/

/-- A filter that leaves out whatever another one leaves out. -/
structure Filter.Narrows (f g : Filter) : Prop where
  hidden : g.showHidden = true → f.showHidden = true
  excludes : f.excludes ⊆ g.excludes
  includes : g.includes ⊆ f.includes
  ignored : f.ignored ⊆ g.ignored
  tooLarge : ∀ size, f.tooLarge size = true → g.tooLarge size = true

namespace Filter.Narrows

variable {f g : Filter} {path : List Char} {isDirectory : Bool}

theorem isExcluded (h : f.Narrows g) (hexcluded : f.isExcluded path isDirectory = true) :
    g.isExcluded path isDirectory = true := by
  simp only [Filter.isExcluded, Bool.or_eq_true, Bool.and_eq_true, Bool.not_eq_true'] at *
  rcases hexcluded with (⟨hname, hhidden⟩ | hignored) | hpattern
  · have hshown : g.showHidden = false := by
      by_contra hshown
      rw [h.hidden (Bool.not_eq_false _ ▸ hshown)] at hhidden
      cases hhidden
    exact Or.inl (Or.inl ⟨hname, hshown⟩)
  · obtain ⟨rule, hrule, happlies⟩ := any_eq_true.mp hignored
    exact Or.inl (Or.inr (any_eq_true.mpr ⟨rule, h.ignored hrule, happlies⟩))
  · obtain ⟨pattern, hmem, hmatches⟩ := any_eq_true.mp hpattern
    exact Or.inr (any_eq_true.mpr ⟨pattern, h.excludes hmem, hmatches⟩)

theorem isIncluded (h : f.Narrows g) (hincluded : g.isIncluded path = true) :
    f.isIncluded path = true := by
  obtain ⟨pattern, hmem, hmatches⟩ := any_eq_true.mp hincluded
  exact any_eq_true.mpr ⟨pattern, h.includes hmem, hmatches⟩

theorem takes {data : ByteArray} {s : SourceFile} (h : f.Narrows g)
    (htakes : g.BecomesSource path data s) : f.BecomesSource path data s where
  included := h.isIncluded htakes.included
  textName := htakes.textName
  size := Bool.eq_false_iff.mpr fun hlarge =>
    Bool.eq_false_iff.mp htakes.size (h.tooLarge _ hlarge)
  content := htakes.content

theorem shown {written : List String → List Char} {names : List String} (h : f.Narrows g)
    (hshown : Discovery.Shown g written names) : Discovery.Shown f written names := by
  have hkept : ∀ path isDirectory, g.isExcluded path isDirectory = false →
      f.isExcluded path isDirectory = false := by
    intro path isDirectory hkept
    exact Bool.eq_false_iff.mpr fun hexcluded =>
      Bool.eq_false_iff.mp hkept (h.isExcluded hexcluded)
  exact ⟨hkept _ _ hshown.file, fun front rest heq hfront hrest =>
    hkept _ _ (hshown.folders front rest heq hfront hrest)⟩

/-- What a narrower filter finds is found, at every depth. -/
theorem filesIn_subset {directory : List Char} {items : List (String × Item)} (h : f.Narrows g) :
    Discovery.filesIn g directory items ⊆ Discovery.filesIn f directory items := by
  rintro ⟨path, bytes⟩ hfound
  obtain ⟨names, hfile, hpath, hshown⟩ := Discovery.mem_filesIn.mp hfound
  exact Discovery.mem_filesIn.mpr ⟨names, hfile, hpath, h.shown hshown⟩

theorem scan_subset {project : Project} (h : f.Narrows g) :
    Discovery.scan g project ⊆ Discovery.scan f project := by
  intro s hs
  obtain ⟨path, data, hfound, htakes⟩ := Discovery.mem_scan.mp hs
  exact Discovery.mem_scan.mpr ⟨path, data, h.filesIn_subset hfound, h.takes htakes⟩

end Filter.Narrows

/-! ## Narrower options -/

/-- Whether a number is no larger than another one. What is no number at all is no larger than
itself only. -/
def Amount.NoLarger : Amount → Amount → Prop
  | .exact q, .exact r => q ≤ r
  | .exact _, .infinite negative => negative = false
  | .infinite negative, .exact _ => negative = true
  | .infinite negative, .infinite negative' => negative = true ∨ negative' = false
  | .undefined, .undefined => True
  | _, _ => False

theorem Amount.NoLarger.below {a b : Amount} {n : Int} (h : a.NoLarger b)
    (hbelow : b.below n = true) : a.below n = true := by
  cases a <;> cases b <;> simp_all [NoLarger, Amount.below]
  exact lt_of_le_of_lt h hbelow

/-- Options that ask for no more files than others. -/
structure Options.Narrows (o o' : Options) : Prop where
  excludes : (textItems o.excludePatterns).1 ⊆ (textItems o'.excludePatterns).1
  includes : (textItems o'.includePatterns).1 ⊆ (textItems o.includePatterns).1
  size : ∃ a a', Amount.ofValue? o.maxFileSize = some a ∧
    Amount.ofValue? o'.maxFileSize = some a' ∧ a'.NoLarger a
  hidden : o'.includeHidden.isSet = true → o.includeHidden.isSet = true
  ignore : o.respectGitignore.isSet = true → o'.respectGitignore.isSet = true

theorem Options.Narrows.given {o o' : Options} {project : Project} (h : o.Narrows o') :
    (Filter.given o project).Narrows (Filter.given o' project) where
  hidden := h.hidden
  excludes := map_subset _ h.excludes
  includes := map_subset _ h.includes
  ignored := by
    simp only [Filter.given]
    split_ifs with hfirst hsecond
    · exact Subset.refl _
    · exact absurd (h.ignore hfirst) hsecond
    · exact nil_subset _
    · exact Subset.refl _
  tooLarge size hlarge := by
    obtain ⟨a, a', ha, ha', hle⟩ := h.size
    simp only [Filter.given, ha, ha'] at *
    exact hle.below hlarge

/-! ## More lines in an ignore file -/

namespace Discovery

/-- A project with an ignore file of given bytes among its entries. -/
def withIgnoreFile (name : String) (front rest : List (String × Item)) (data : ByteArray) :
    Project :=
  ⟨name, front ++ (".gitignore", .file (some data)) :: rest⟩

variable {o : Options} {f : Filter} {name : String} {directory path : List Char}
  {front rest : List (String × Item)} {text more : List Char} {added : List (List Char)}
  {data new : ByteArray} {bytes : Option ByteArray}

theorem ignoreRules_withIgnoreFile (hfront : ".gitignore" ∉ front.map (·.1)) :
    ignoreRules (withIgnoreFile name front rest text.utf8Encode) =
      Ignore.rules (Text.lines (Text.unifyBreaks text)) := by
  have hlookup : (withIgnoreFile name front rest text.utf8Encode).items.lookup ".gitignore" =
      some (.file (some text.utf8Encode)) := by
    have hnone : front.lookup ".gitignore" = none := by
      rw [← Option.not_isSome_iff_eq_none, Keyed.isSome_lookup_iff]
      exact hfront
    simp [withIgnoreFile, lookup_append, hnone]
  rw [ignoreRules, hlookup]
  simp only [Filter.textOfBytes_eq_ok_iff.mpr ⟨text, rfl, rfl⟩]

/-- An ignore file with more lines has more rules. -/
theorem given_narrows_of_lines (hfront : ".gitignore" ∉ front.map (·.1))
    (hlines : Text.lines (Text.unifyBreaks more) = Text.lines (Text.unifyBreaks text) ++ added) :
    (Filter.given o (withIgnoreFile name front rest text.utf8Encode)).Narrows
      (Filter.given o (withIgnoreFile name front rest more.utf8Encode)) where
  hidden := id
  excludes := Subset.refl _
  includes := Subset.refl _
  ignored := by
    simp only [Filter.given]
    split_ifs
    · rw [ignoreRules_withIgnoreFile hfront, ignoreRules_withIgnoreFile hfront, hlines,
        Ignore.rules, Ignore.rules, filterMap_append]
      exact subset_append_left _ _
    · exact Subset.refl _
  tooLarge _ := id

theorem filesIn_append (items others : List (String × Item)) :
    filesIn f directory (items ++ others) =
      filesIn f directory items ++ filesIn f directory others := by
  induction items with
  | nil => rfl
  | cons e items ih => rw [cons_append, filesIn, filesIn, ih, append_assoc]

/-- The content of an ignore file does not matter for which other files are found by a filter. -/
theorem mem_files_withIgnoreFile (hpath : path ≠ ".gitignore".toList)
    (h : (path, bytes) ∈ files f (withIgnoreFile name front rest new)) :
    (path, bytes) ∈ files f (withIgnoreFile name front rest data) := by
  simp only [files, withIgnoreFile, filesIn_append, filesIn, mem_append] at *
  refine h.imp_right fun h => Or.inr (h.resolve_left fun hfile => ?_)
  rw [filesOf] at hfile
  split at hfile
  · exact absurd hfile not_mem_nil
  · exact hpath (Prod.mk.inj (mem_singleton.mp hfile)).1

theorem mem_scan_withIgnoreFile {s : SourceFile} (hpath : s.path ≠ ".gitignore")
    (h : s ∈ scan f (withIgnoreFile name front rest new)) :
    s ∈ scan f (withIgnoreFile name front rest data) := by
  obtain ⟨path, bytes, hfound, htakes⟩ := mem_scan.mp h
  refine mem_scan.mpr ⟨path, bytes, mem_files_withIgnoreFile ?_ hfound, htakes⟩
  rintro rfl
  obtain ⟨text, -, -, rfl⟩ := htakes.content
  exact hpath (String.ofList_toList)

/-! ## What is still scanned -/

/-- What is scanned with narrower options is scanned, with the same content; and so it is, but for
the ignore file itself, where the ignore file has more lines. Options whose patterns are all texts
always come to a scan. -/
theorem scan_antitone :
    (∀ (o o' : Options) (project : Project) (f f' : Filter), o.Narrows o' →
      Filter.ofOptions o project = .ok f → Filter.ofOptions o' project = .ok f' →
      ∀ s ∈ scan f' project, s ∈ scan f project) ∧
    (∀ (o : Options) (name : String) (front rest : List (String × Item)) (text more : List Char)
      (added : List (List Char)) (f f' : Filter), ".gitignore" ∉ front.map (·.1) →
      Text.lines (Text.unifyBreaks more) = Text.lines (Text.unifyBreaks text) ++ added →
      Filter.ofOptions o (withIgnoreFile name front rest text.utf8Encode) = .ok f →
      Filter.ofOptions o (withIgnoreFile name front rest more.utf8Encode) = .ok f' →
      ∀ s ∈ scan f' (withIgnoreFile name front rest more.utf8Encode), s.path ≠ ".gitignore" →
        s ∈ scan f (withIgnoreFile name front rest text.utf8Encode)) ∧
    (∀ (o : Options) (project : Project), o.PatternsAreTexts →
      ∃ f, Filter.ofOptions o project = .ok f) := by
  refine ⟨?_, ?_, ?_⟩
  · intro o o' project f f' hnarrows hf hf' s hs
    rw [Filter.eq_given hf]
    rw [Filter.eq_given hf'] at hs
    exact hnarrows.given.scan_subset hs
  · intro o name front rest text more added f f' hfront hlines hf hf' s hs hpath
    rw [Filter.eq_given hf]
    rw [Filter.eq_given hf'] at hs
    exact mem_scan_withIgnoreFile hpath ((given_narrows_of_lines hfront hlines).scan_subset hs)
  · intro o project htexts
    exact ⟨_, Filter.ofOptions_of_texts htexts⟩

theorem scan_antitone_smaller :
    (∃ f f', Filter.ofOptions { excludePatterns := .list [] }
        ⟨"demo", [("a.py", .file (some ⟨#[120]⟩))]⟩ = .ok f ∧
      Filter.ofOptions { excludePatterns := .ofTexts ["*.log"], maxFileSize := .int 100 }
        ⟨"demo", [("a.py", .file (some ⟨#[120]⟩))]⟩ = .ok f' ∧
      ⟨"a.py", "x", "python", 1⟩ ∈ scan f' ⟨"demo", [("a.py", .file (some ⟨#[120]⟩))]⟩ ∧
      ⟨"a.py", "x", "python", 1⟩ ∈ scan f ⟨"demo", [("a.py", .file (some ⟨#[120]⟩))]⟩) ∧
    ∃ f f', Filter.ofOptions {} (withIgnoreFile "demo" [("a.py", .file (some ⟨#[120]⟩))] []
        "*.log\n".toList.utf8Encode) = .ok f ∧
      Filter.ofOptions {} (withIgnoreFile "demo" [("a.py", .file (some ⟨#[120]⟩))] []
        "*.log\nbuild/\n".toList.utf8Encode) = .ok f' ∧
      ∀ s ∈ scan f' (withIgnoreFile "demo" [("a.py", .file (some ⟨#[120]⟩))] []
          "*.log\nbuild/\n".toList.utf8Encode), s.path ≠ ".gitignore" →
        s ∈ scan f (withIgnoreFile "demo" [("a.py", .file (some ⟨#[120]⟩))] []
          "*.log\n".toList.utf8Encode) := by
  obtain ⟨hoptions, hlines, hok⟩ := scan_antitone
  constructor
  · have hsize : ((100 : Int) : Rat) ≤ (1048576 : Int) := by decide
    have hnarrows : Options.Narrows { excludePatterns := .list [] }
        { excludePatterns := .ofTexts ["*.log"], maxFileSize := .int 100 } :=
      ⟨nil_subset _, Subset.refl _, ⟨_, _, rfl, rfl, hsize⟩, id, id⟩
    obtain ⟨f, hf⟩ := hok { excludePatterns := .list [] }
      ⟨"demo", [("a.py", .file (some ⟨#[120]⟩))]⟩ ⟨rfl, rfl⟩
    obtain ⟨f', hf'⟩ := hok { excludePatterns := .ofTexts ["*.log"], maxFileSize := .int 100 }
      ⟨"demo", [("a.py", .file (some ⟨#[120]⟩))]⟩ ⟨rfl, rfl⟩
    have hscanned : ⟨"a.py", "x", "python", 1⟩ ∈
        scan f' ⟨"demo", [("a.py", .file (some ⟨#[120]⟩))]⟩ := by
      obtain rfl := Filter.eq_given hf'
      refine mem_scan.mpr
        ⟨"a.py".toList, _, mem_cons_self, by decide, by decide, by decide, ['x'], ?_⟩
      exact ⟨rfl, by decide, rfl⟩
    exact ⟨f, f', hf, hf', hscanned, hoptions _ _ _ f f' hnarrows hf hf' _ hscanned⟩
  · obtain ⟨f, hf⟩ := hok {} (withIgnoreFile "demo" [("a.py", .file (some ⟨#[120]⟩))] []
      "*.log\n".toList.utf8Encode) ⟨rfl, rfl⟩
    obtain ⟨f', hf'⟩ := hok {} (withIgnoreFile "demo" [("a.py", .file (some ⟨#[120]⟩))] []
      "*.log\nbuild/\n".toList.utf8Encode) ⟨rfl, rfl⟩
    exact ⟨f, f', hf, hf', hlines _ _ _ _ _ _ ["build/".toList] f f' (by decide) (by decide) hf hf'⟩

end Discovery

end SourceDigest
