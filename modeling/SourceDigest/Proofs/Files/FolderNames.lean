import SourceDigest.Proofs.Files.Pruning

/-! Patterns without a slash. Such a pattern is meant for last names. For files it is that: a file
is left out if its name is in the language of the pattern. A directory, though, is looked up with a
slash at its end and has no last name then, so that of these patterns only those made of stars leave
out directories, and they leave out all of them. -/

namespace SourceDigest

open List

namespace Discovery

/-- What a pattern without a slash adds to the rest of a filter. A file is left out by its name, a
directory only if the pattern is made of stars, so that a search finds all other files, those in
directories of such a name among them. -/
structure NamesFiles (f : Filter) (pattern p : List Char) : Prop where
  file : ∀ path, '\n' ∉ path → (f.isExcluded path false = true ↔
    (f.without pattern).isExcluded path false = true ∨ Path.baseName path ∈ Glob.language p)
  folder : ∀ path, f.isExcluded path true = true ↔
    (f.without pattern).isExcluded path true = true ∨ ∀ c ∈ p, c = '*'
  found : ∀ project : Project, Plain project.items → ∀ path bytes, '\n' ∉ path →
    ((path, bytes) ∈ files f project ↔
      (path, bytes) ∈ files (f.without pattern) project ∧ Path.baseName path ∉ Glob.language p)

theorem namesFiles {f : Filter} {pattern p : List Char} (h : pattern ∈ f.excludes)
    (htrims : Glob.Trims pattern p) (hne : p ≠ []) (hslash : '/' ∉ p) : NamesFiles f pattern p where
  file path hpath := by
    rw [Filter.isExcluded_eq_without h, Bool.or_eq_true]
    exact or_congr_right (Glob.matchesPath_baseName_iff htrims hne hslash hpath)
  folder path := by
    rw [Filter.isExcluded_eq_without h, Bool.or_eq_true]
    exact or_congr_right (Glob.matchesPath_directory_iff htrims hne hslash)
  found project hplain path bytes hpath := by
    have hnothing : Glob.LosesNothing pattern :=
      Glob.losesNothing_of_covers htrims (Or.inl hslash)
    rw [mem_files_iff_without hnothing h hplain hpath, Bool.eq_false_iff, ne_eq,
      Glob.matchesPath_baseName_iff htrims hne hslash hpath]

/-- A project with a file that is named like its folder, and with another one beside it. -/
def output : Project :=
  ⟨"demo", [("gen", .folder false [("a.py", .file (some ⟨#[120]⟩)), ("gen", .file (some ⟨#[]⟩))])]⟩

theorem namesFiles_gen :
    "gen".toList ∈ (excluding "gen".toList).excludes ∧ Glob.Trims "gen".toList "gen".toList ∧
      "gen".toList ≠ [] ∧ '/' ∉ "gen".toList ∧ Plain output.items ∧
      ("gen/gen".toList, some ⟨#[]⟩) ∉ files (excluding "gen".toList) output := by
  have hmem : "gen".toList ∈ (excluding "gen".toList).excludes := mem_singleton_self _
  have htrims : Glob.Trims "gen".toList "gen".toList := Glob.trims_iff.mpr (by decide)
  have hnames := namesFiles hmem htrims (by decide) (by decide)
  have hplain : Plain output.items := by
    have hentries : IsEntryName "gen" ∧ IsEntryName "a.py" := by decide
    simp [output, plain_cons, plain_nil, hentries]
  refine ⟨hmem, htrims, by decide, by decide, hplain, fun hfound => ?_⟩
  have hkept := ((hnames.found output hplain _ _ (by decide)).mp hfound).2
  exact hkept (Glob.mem_language_self (by decide))

/-- The name of a directory is what the pattern says, and still the directory is entered. -/
theorem named_folder_kept :
    Glob.Trims "gen".toList "gen".toList ∧ '/' ∉ "gen".toList ∧
      Path.baseName "gen".toList ∈ Glob.language "gen".toList ∧
      (excluding "gen".toList).isExcluded "gen".toList true = false ∧
      ("gen/a.py".toList, some ⟨#[120]⟩) ∈ files (excluding "gen".toList) output :=
  ⟨Glob.trims_iff.mpr (by decide), by decide, Glob.mem_language_self (by decide), by decide,
    mem_cons_self⟩

end Discovery

end SourceDigest
