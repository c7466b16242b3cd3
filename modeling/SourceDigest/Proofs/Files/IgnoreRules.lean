import SourceDigest.Proofs.Files.Filtering

/-! What ignore rules say about the paths below a directory. A rule that applies to a directory
applies to all that is below it, and one that applies to a file applies to a directory of the same
path. Therefore no file is lost where the entries of an ignored directory are not looked at: the
rules would leave out each of them. -/

namespace SourceDigest

open List

namespace Ignore

variable {rule : Rule} {rs : List Rule} {parts more : List (List Char)} {path rest text : List Char}
  {last isDirectory : Bool}

/-! ## Places of a path -/

theorem mem_leading_iff : (text, last) ∈ leading parts ↔
    ∃ front back, parts = front ++ back ∧ front ≠ [] ∧ text = Text.join ['/'] front ∧
      last = back.isEmpty := by
  simp only [leading, mem_map, mem_range, Prod.mk.injEq]
  constructor
  · rintro ⟨i, hi, rfl, rfl⟩
    refine ⟨parts.take (i + 1), parts.drop (i + 1), (take_append_drop _ _).symm, ?_, rfl, ?_⟩
    · rw [ne_eq, take_eq_nil_iff]
      simp [ne_nil_of_length_pos (Nat.zero_lt_of_lt hi)]
    · rw [Bool.eq_iff_iff, beq_iff_eq, List.isEmpty_iff, drop_eq_nil_iff]
      omega
  · rintro ⟨front, back, rfl, hfront, rfl, rfl⟩
    have hpos := length_pos_iff.mpr hfront
    have hlength : front.length - 1 + 1 = front.length := by omega
    refine ⟨front.length - 1, ?_, ?_, ?_⟩
    · rw [length_append]
      omega
    · rw [hlength, take_left]
    · rw [hlength, Bool.eq_iff_iff, beq_iff_eq, List.isEmpty_iff, length_append,
        ← length_eq_zero_iff]
      omega

theorem mem_names_iff : (text, last) ∈ names parts ↔
    ∃ front back, parts = front ++ text :: back ∧ last = back.isEmpty := by
  simp only [names, mem_filterMap, mem_range, Option.map_eq_some_iff, Prod.mk.injEq]
  constructor
  · rintro ⟨i, hi, part, hpart, rfl, rfl⟩
    obtain ⟨-, rfl⟩ := List.getElem?_eq_some_iff.mp hpart
    refine ⟨parts.take i, parts.drop (i + 1), ?_, ?_⟩
    · rw [← drop_eq_getElem_cons hi, take_append_drop]
    · rw [Bool.eq_iff_iff, beq_iff_eq, List.isEmpty_iff, drop_eq_nil_iff]
      omega
  · rintro ⟨front, back, rfl, rfl⟩
    refine ⟨front.length, by simp, text, by simp, rfl, ?_⟩
    rw [Bool.eq_iff_iff, beq_iff_eq, List.isEmpty_iff, length_append, length_cons,
      ← length_eq_zero_iff]
    omega

/-- The places of a path are places of every longer one, and none of them is its end. -/
theorem mem_leading_append (hmore : more ≠ []) (h : (text, last) ∈ leading parts) :
    (text, false) ∈ leading (parts ++ more) := by
  obtain ⟨front, back, rfl, hfront, rfl, -⟩ := mem_leading_iff.mp h
  exact mem_leading_iff.mpr ⟨front, back ++ more, append_assoc _ _ _, hfront, rfl, by simp [hmore]⟩

theorem mem_names_append (hmore : more ≠ []) (h : (text, last) ∈ names parts) :
    (text, false) ∈ names (parts ++ more) := by
  obtain ⟨front, back, rfl, -⟩ := mem_names_iff.mp h
  exact mem_names_iff.mpr ⟨front, back ++ more, by simp, by simp [hmore]⟩

/-! ## Single rules -/

theorem appliesTo_iff : rule.appliesTo path isDirectory = true ↔
    ∃ place ∈ (if rule.anchored then leading (Text.split '/' path)
        else names (Text.split '/' path)),
      Glob.accepts (Glob.tokens rule.pattern) place.1 = true ∧
        (rule.directoryOnly = true → place.2 = true → isDirectory = true) := by
  simp only [Rule.appliesTo, any_eq_true, Bool.and_eq_true, Bool.or_eq_true, Bool.not_eq_true']
  refine exists_congr fun place => and_congr_right fun _ => and_congr_right fun _ => ?_
  cases rule.directoryOnly <;> cases place.2 <;> simp

/-- A rule for a file is one for a directory too. -/
theorem appliesTo_directory (h : rule.appliesTo path false = true) :
    rule.appliesTo path true = true := by
  obtain ⟨place, hplace, haccepts, -⟩ := appliesTo_iff.mp h
  exact appliesTo_iff.mpr ⟨place, hplace, haccepts, fun _ _ => rfl⟩

/-- A place of the directory that a rule was found to apply at is one of the longer path, and
there it is followed by more, so that the rule may be for directories only. -/
theorem appliesTo_below (h : rule.appliesTo path true = true) :
    rule.appliesTo (path ++ '/' :: rest) isDirectory = true := by
  obtain ⟨⟨text, last⟩, hplace, haccepts, -⟩ := appliesTo_iff.mp h
  have hrest : Text.split '/' rest ≠ [] := splitOn_ne_nil _ _
  refine appliesTo_iff.mpr ⟨(text, false), ?_, haccepts, fun _ hlast => nomatch hlast⟩
  rw [Path.split_append_cons]
  split at hplace
  · rename_i hanchored
    rw [if_pos hanchored]
    exact mem_leading_append hrest hplace
  · rename_i hanchored
    rw [if_neg hanchored]
    exact mem_names_append hrest hplace

/-! ## Lists of rules -/

theorem ignores_directory (h : ignores rs path false = true) : ignores rs path true = true := by
  obtain ⟨rule, hrule, happlies⟩ := any_eq_true.mp h
  exact any_eq_true.mpr ⟨rule, hrule, appliesTo_directory happlies⟩

theorem ignores_below (h : ignores rs path true = true) :
    ignores rs (path ++ '/' :: rest) isDirectory = true := by
  obtain ⟨rule, hrule, happlies⟩ := any_eq_true.mp h
  exact any_eq_true.mpr ⟨rule, hrule, appliesTo_below happlies⟩

end Ignore

def Filter.withoutRules (f : Filter) : Filter :=
  { f with ignored := [] }

namespace Discovery

variable {f : Filter} {project : Project} {path : List Char} {bytes : Option ByteArray}

theorem mem_files_iff_withoutRules (hplain : Plain project.items) :
    (path, bytes) ∈ files f project ↔
      (path, bytes) ∈ files f.withoutRules project ∧
        Ignore.ignores f.ignored path false = false := by
  apply mem_files_of_inherited hplain
  · intro path isDirectory
    simp only [Filter.isExcluded, Filter.withoutRules, Ignore.ignores, any_nil, Bool.or_false]
    rw [Bool.or_right_comm]
  · rintro front rest rfl h
    exact Ignore.ignores_below h

/-- What the rules of an ignore file say about a directory they say about all that is below it, and
what they say about a file they say about a directory of the same path. A project is searched with
them as if it were searched without, and each file found asked for by itself. -/
theorem ignores_inherited (lines : List (List Char)) :
    (∀ directory below, Ignore.ignores (Ignore.rules lines) directory true = true →
      ∀ isDirectory,
        Ignore.ignores (Ignore.rules lines) (directory ++ '/' :: below) isDirectory = true) ∧
      (∀ path, Ignore.ignores (Ignore.rules lines) path false = true →
        Ignore.ignores (Ignore.rules lines) path true = true) ∧
      ∀ (f : Filter) (project : Project), f.ignored = Ignore.rules lines → Plain project.items →
        ∀ path bytes, (path, bytes) ∈ files f project ↔
          (path, bytes) ∈ files f.withoutRules project ∧
            Ignore.ignores (Ignore.rules lines) path false = false := by
  refine ⟨fun _ _ h _ => Ignore.ignores_below h, fun _ h => Ignore.ignores_directory h, ?_⟩
  intro f project hrules hplain path bytes
  rw [← hrules]
  exact mem_files_iff_withoutRules hplain

/-- Lines for a folder of generated code and for files of another program. -/
def generatedLines : List (List Char) :=
  ["generated/".toList, "*.tmp".toList]

/-- A filter with the rules of an ignore file and nothing else. -/
def ignoring (lines : List (List Char)) : Filter :=
  ⟨true, [], [], Ignore.rules lines, fun _ => false⟩

/-- A project with generated code in a folder and a file of the same name as that folder. -/
def generated : Project :=
  ⟨"demo", [
    ("src", .folder false [("generated", .folder false [("out.ts", .file (some ⟨#[120]⟩))])]),
    ("generated", .file (some ⟨#[]⟩))]⟩

theorem plain_generated : Plain generated.items := by
  have hnames : IsEntryName "src" ∧ IsEntryName "generated" ∧ IsEntryName "out.ts" := by decide
  simp [generated, plain_cons, plain_nil, hnames]

theorem ignores_inherited_generated :
    (ignoring generatedLines).ignored = Ignore.rules generatedLines ∧ Plain generated.items ∧
      Ignore.ignores (Ignore.rules generatedLines) "src/generated".toList true = true ∧
      Ignore.ignores (Ignore.rules generatedLines) "src/generated/out.ts".toList false = true ∧
      Ignore.ignores (Ignore.rules generatedLines) "a.tmp".toList false = true ∧
      Ignore.ignores (Ignore.rules generatedLines) "a.tmp".toList true = true ∧
      ("generated".toList, some ⟨#[]⟩) ∈ files (ignoring generatedLines) generated ∧
      ("src/generated/out.ts".toList, some ⟨#[120]⟩) ∉
        files (ignoring generatedLines) generated := by
  obtain ⟨hbelow, hdirectory, hfiles⟩ := ignores_inherited generatedLines
  have hiff := hfiles (ignoring generatedLines) generated rfl plain_generated
  have hfolder :
      Ignore.ignores (Ignore.rules generatedLines) "src/generated".toList true = true := by
    decide
  have hfile := hbelow _ "out.ts".toList hfolder false
  have hother : Ignore.ignores (Ignore.rules generatedLines) "a.tmp".toList false = true := by
    decide
  refine ⟨rfl, plain_generated, hfolder, hfile, hother, hdirectory _ hother, ?_, fun hfound => ?_⟩
  · have hall : ("generated".toList, some ⟨#[]⟩) ∈
        files (ignoring generatedLines).withoutRules generated :=
      mem_cons_of_mem _ mem_cons_self
    exact (hiff _ _).mpr ⟨hall, by decide⟩
  · have hkept := ((hiff _ _).mp hfound).2
    exact absurd hfile (Bool.eq_false_iff.mp hkept)

end Discovery

end SourceDigest
