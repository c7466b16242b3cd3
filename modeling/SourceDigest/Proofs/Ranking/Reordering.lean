import SourceDigest.Proofs.Graph.Reordering
import SourceDigest.Proofs.Ranking.Batch
import SourceDigest.Proofs.Ranking.Order

/-! Without rounding a ranking does not depend on the order in which the files of a batch come.
Each of them keeps its scores, its metrics and its centrality, and the order by importance and
path leaves no choice. -/

namespace SourceDigest.Ranking

open List

variable {files others : List SourceFile}

/-! ## What is read off the whole batch -/

theorem prioritizedOf_eq_of_perm (o : Options) (hperm : files.Perm others) :
    prioritizedOf o files = prioritizedOf o others := by
  have hall : ∀ p : SourceFile → Bool, files.all p = others.all p := by
    intro p
    rw [Bool.eq_iff_iff, all_eq_true, all_eq_true]
    exact forall_congr' fun f => imp_congr_left hperm.mem_iff
  unfold prioritizedOf
  simp only [hall]

theorem settingsOf_eq_of_perm (o : Options) (hperm : files.Perm others) :
    (settingsOf o files : Except _ (Settings Rat)) = settingsOf o others := by
  unfold settingsOf
  rw [hperm.isEmpty_eq]

theorem centralityIn_eq_of_perm (s : Settings Rat) (metrics : SourceFile → Metrics Rat)
    (hperm : files.Perm others) : centralityIn s metrics files = centralityIn s metrics others := by
  rw [centralityIn, centralityIn, importsOf, importsOf,
    Graph.scoreAfter_ofImports_eq_of_perm (hperm.map _)]

/-! ## The ranking -/

theorem sorted_map_eq_of_perm (hperm : files.Perm others) (hpaths : (files.map (·.path)).Nodup)
    (rank : SourceFile → RankedFile Rat) (hrank : ∀ f, (rank f).path = f.path) :
    sorted (files.map rank) = sorted (others.map rank) := by
  apply sorted_eq_of_perm (hperm.map rank) (comparable_rat _)
  rw [map_map]
  have hkeys : files.map ((·.path) ∘ rank) = files.map (·.path) :=
    map_congr_left fun f _ => hrank f
  rwa [hkeys]

/-- A batch in another order has the same ranking. There is one for every whole number of rounds
where all favoured parts of names are texts. -/
theorem files_ofFiles_eq_of_perm (o : Options) (parser : Option Parser)
    (hperm : files.Perm others) (hpaths : (files.map (·.path)).Nodup) :
    (ofFiles (α := Rat) o parser files).map (·.files) =
        (ofFiles o parser others).map (·.files) ∧
      ∀ rounds, o.centralityRounds = .int rounds → (Options.textItems o.prioritizeFiles).2 = none →
        ∃ ranking, ofFiles (α := Rat) o parser files = .ok ranking := by
  have hpaths' : (others.map (·.path)).Nodup := (hperm.map _).nodup_iff.mp hpaths
  constructor
  · rw [files_ofFiles o parser hpaths, files_ofFiles o parser hpaths',
      prioritizedOf_eq_of_perm o hperm, settingsOf_eq_of_perm o hperm]
    split
    · rfl
    · rename_i prioritized _
      split
      · split
        · rfl
        · rename_i s _
          rw [centralityIn_eq_of_perm s _ hperm]
          exact congrArg Except.ok (sorted_map_eq_of_perm hperm hpaths _ fun _ => rfl)
      · exact congrArg Except.ok (sorted_map_eq_of_perm hperm hpaths _ fun _ => rfl)
  · intro rounds hrounds htexts
    exact exists_ranking hrounds htexts parser files

/-- A parser of scripts that hold nothing but lines of the form `import './name'`. -/
def bareImports : Parser where
  supports grammar := Parser.knownGrammars.contains grammar
  parse _ text :=
    let statement (line : List Char) : Syntax.Node :=
      .mk "import_statement" true none (String.ofList line)
        [.mk "import" false none "import" [],
         .mk "string" true (some "source") (String.ofList (line.drop 7)) []]
    let lines := (text.toList.splitOn '\n').filter fun line => !line.isEmpty
    .tree (.mk "program" true none text (lines.map statement)) false

/-- Two scripts that import each other, and one that imports the first of them twice. -/
def scripts : List SourceFile :=
  [.ofText "lib/a.js" "import './b'\n" "javascript",
   .ofText "lib/b.js" "import './a.js'\nimport '../main'\n" "javascript",
   .ofText "main.js" "import './lib/a'\nimport './lib/a.js'\n" "javascript"]

theorem files_ofFiles_eq_of_perm_scripts :
    (ofFiles (α := Rat) { useStructure := .bool true } bareImports scripts).map (·.files) =
        (ofFiles { useStructure := .bool true } bareImports scripts.reverse).map (·.files) ∧
      ∃ ranking,
        ofFiles (α := Rat) { useStructure := .bool true } bareImports scripts = .ok ranking := by
  obtain ⟨hfiles, hranking⟩ := files_ofFiles_eq_of_perm { useStructure := .bool true } bareImports
    (reverse_perm scripts).symm (by decide)
  exact ⟨hfiles, hranking 10 rfl rfl⟩

end SourceDigest.Ranking
