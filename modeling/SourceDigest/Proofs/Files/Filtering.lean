import Mathlib.Data.String.Basic
import SourceDigest.Digest.OfProject
import SourceDigest.Proofs.Files.Listing
import SourceDigest.Proofs.Options.Accepted
import SourceDigest.Proofs.Text.Utf8

/-! The filter of options, and what it lets through. Where all patterns are texts, options give a
filter; a file that it does not exclude is a source file where its name, its size and its content
say so. -/

namespace SourceDigest

/-- All patterns of options are texts. -/
structure Options.PatternsAreTexts (o : Options) : Prop where
  excludes : (Options.textItems o.excludePatterns).2 = none
  includes : (Options.textItems o.includePatterns).2 = none

namespace Filter

/-- What options leave out of a project, whether or not a pattern that is no text comes up. -/
def given (o : Options) (project : Project) : Filter where
  showHidden := o.includeHidden.isSet
  excludes := (Options.textItems o.excludePatterns).1.map String.toList
  includes := (Options.textItems o.includePatterns).1.map String.toList
  ignored := if o.respectGitignore.isSet then Discovery.ignoreRules project else []
  tooLarge := fun size =>
    match Amount.ofValue? o.maxFileSize with
    | some limit => limit.below size
    | none => false

/-- A fault that shows where something comes to it. -/
def unmet (fault : Option Options.Fault) (met : Bool) : Except Options.Fault Unit :=
  match fault with
  | some fault => if met then .error fault else .ok ()
  | none => .ok ()

variable {o : Options} {project : Project} {f : Filter}

theorem ofOptions_eq (o : Options) (project : Project) :
    ofOptions o project = (do
      unmet (Options.textItems o.excludePatterns).2
        (project.items.any fun e => !(given o project).isExcluded e.1.toList e.2.isFolder)
      unmet (Options.textItems o.includePatterns).2
        ((Discovery.files (given o project) project).any fun file =>
          !(given o project).isIncluded file.1)
      return given o project) := by
  unfold ofOptions
  cases hexclude : Options.textItems o.excludePatterns with
  | mk excludes badExclude =>
    cases hinclude : Options.textItems o.includePatterns with
    | mk includes badInclude =>
      dsimp only
      generalize hf : Filter.mk _ _ _ _ _ = f
      obtain rfl : given o project = f := by
        rewrite [← hf, given, hexclude, hinclude]
        rfl
      generalize given o project = f
      generalize (project.items.any fun e => !f.isExcluded e.1.toList e.2.isFolder) = shown
      generalize ((Discovery.files f project).any fun file => !f.isIncluded file.1) = found
      cases badExclude <;> cases badInclude <;> cases shown <;> cases found <;> rfl

theorem ofOptions_eq_ok_iff :
    ofOptions o project = .ok f ↔
      unmet (Options.textItems o.excludePatterns).2
          (project.items.any fun e => !(given o project).isExcluded e.1.toList e.2.isFolder) =
        .ok () ∧
      unmet (Options.textItems o.includePatterns).2
          ((Discovery.files (given o project) project).any fun file =>
            !(given o project).isIncluded file.1) = .ok () ∧
      given o project = f := by
  rw [ofOptions_eq, Options.unit_bind_eq_ok_iff, Options.unit_bind_eq_ok_iff]
  simp [pure, Except.pure]

theorem eq_given (h : ofOptions o project = .ok f) : f = given o project :=
  (ofOptions_eq_ok_iff.mp h).2.2.symm

theorem ofOptions_of_texts (h : o.PatternsAreTexts) :
    ofOptions o project = .ok (given o project) := by
  rw [ofOptions_eq_ok_iff, h.excludes, h.includes]
  exact ⟨rfl, rfl, rfl⟩

/-! ## Source files -/

/-- A file that is not excluded becomes a source file: a pattern includes it, its name is not that
of a binary file, it is not larger than allowed, and its bytes are the UTF-8 encoding of a text that
does not look binary. The content is that text with its line ends unified. -/
structure BecomesSource (f : Filter) (path : List Char) (bytes : ByteArray) (s : SourceFile) :
    Prop where
  included : f.isIncluded path = true
  textName : Language.isBinaryName path = false
  size : f.tooLarge bytes.size = false
  content : ∃ text : List Char, bytes = text.utf8Encode ∧
    Language.looksBinary (Text.unifyBreaks text) = false ∧
    s = ⟨String.ofList path, String.ofList (Text.unifyBreaks text), Language.ofPath path,
      bytes.size⟩

theorem textOfBytes_eq_ok_iff {bytes : ByteArray} {content : List Char} :
    textOfBytes bytes = .ok content ↔
      ∃ text : List Char, bytes = text.utf8Encode ∧ Text.unifyBreaks text = content := by
  simp only [← Utf8.decode_eq_ok_iff]
  unfold textOfBytes
  cases Utf8.decode bytes <;> simp [Except.map]

theorem sourceFile?_eq_some_iff {path : List Char} {bytes : Option ByteArray} {s : SourceFile} :
    f.sourceFile? path bytes = some s ↔
      ∃ data, bytes = some data ∧ f.BecomesSource path data s := by
  cases bytes with
  | none => simp [sourceFile?]
  | some data =>
    have hdata : (∃ d, some data = some d ∧ f.BecomesSource path d s) ↔
        f.BecomesSource path data s := by
      simp
    rw [hdata, sourceFile?]
    constructor
    · intro h
      split at h
      · cases h
      · rename_i hwanted
        split at h
        · cases h
        · rename_i content hcontent
          split at h
          · cases h
          · rename_i hlooks
            obtain ⟨text, hencoded, rfl⟩ := textOfBytes_eq_ok_iff.mp hcontent
            simp only [Bool.or_eq_true, Bool.not_eq_true', not_or, Bool.not_eq_true,
              Bool.not_eq_false] at hwanted hlooks
            exact ⟨hwanted.1.1, hwanted.1.2, hwanted.2, text, hencoded, hlooks,
              (Option.some.inj h).symm⟩
    · rintro ⟨hincluded, hname, hsize, text, hencoded, hlooks, rfl⟩
      have hcontent := textOfBytes_eq_ok_iff.mpr ⟨text, hencoded, rfl⟩
      simp [hincluded, hname, hsize, hcontent, hlooks]

theorem tooLarge_given (hcheck : o.check = .ok ()) {size : Nat} :
    (given o project).tooLarge size = false ↔ Options.AtLeast o.maxFileSize size := by
  obtain ⟨limit, hlimit, -⟩ := (Options.check_eq_ok_iff.mp hcheck).size
  simp [given, Options.AtLeast, hlimit]

end Filter

namespace Discovery

open List

variable {f : Filter} {project other : Project} {s : SourceFile}

/-! ## The scan -/

theorem mem_scan :
    s ∈ scan f project ↔
      ∃ path data, (path, some data) ∈ files f project ∧ f.BecomesSource path data s := by
  simp only [scan, mem_mergeSort, mem_filterMap, Filter.sourceFile?_eq_some_iff, Prod.exists]
  constructor
  · rintro ⟨path, bytes, hmem, data, rfl, htakes⟩
    exact ⟨path, data, hmem, htakes⟩
  · rintro ⟨path, data, hmem, htakes⟩
    exact ⟨path, some data, hmem, data, rfl, htakes⟩

/-- The paths of the source files among some files. -/
theorem paths_sublist (found : List (List Char × Option ByteArray)) :
    ((found.filterMap fun file => f.sourceFile? file.1 file.2).map (·.path)).Sublist
      (found.map fun file => String.ofList file.1) := by
  induction found with
  | nil => exact .slnil
  | cons file found ih =>
    cases htaken : f.sourceFile? file.1 file.2 with
    | none => simpa [htaken] using ih.cons _
    | some s =>
      obtain ⟨data, -, htakes⟩ := Filter.sourceFile?_eq_some_iff.mp htaken
      obtain ⟨text, -, -, rfl⟩ := htakes.content
      simpa [htaken] using ih

theorem nodup_paths (hplain : Plain project.items) :
    ((files f project).map fun file => String.ofList file.1).Nodup := by
  have hfiles : ((files f project).map (·.1)).Nodup := nodup_filesIn hplain
  simpa [Function.comp_def] using hfiles.map (fun _ _ => String.ofList_inj.mp)

/-- Source files stand in the order of their paths, each path once. -/
theorem pairwise_scan (hplain : Plain project.items) :
    (scan f project).Pairwise fun a b => a.path < b.path := by
  have hle : ∀ a b : SourceFile, (!decide (b.path < a.path)) = true ↔ a.path ≤ b.path := by
    intro a b
    rw [Bool.not_eq_true', decide_eq_false_iff_not, not_lt]
  have hsorted : (scan f project).Pairwise fun a b => (!decide (b.path < a.path)) = true := by
    refine pairwise_mergeSort ?_ ?_ _
    · intro a b c hab hbc
      exact (hle a c).mpr (((hle a b).mp hab).trans ((hle b c).mp hbc))
    · intro a b
      rw [Bool.or_eq_true, hle, hle]
      exact le_total a.path b.path
  have hnodup : ((scan f project).map (·.path)).Nodup := by
    have hperm := (mergeSort_perm ((files f project).filterMap fun file =>
      f.sourceFile? file.1 file.2) fun a b => !decide (b.path < a.path)).map (·.path)
    exact hperm.nodup_iff.mpr ((nodup_paths hplain).sublist (paths_sublist _))
  have hne : (scan f project).Pairwise fun a b => a.path ≠ b.path := pairwise_map.mp hnodup
  exact (hsorted.and hne).imp fun ⟨hbefore, hne⟩ => lt_of_le_of_ne ((hle _ _).mp hbefore) hne

/-- The scan depends on which files are found only, not on where they come. -/
theorem scan_eq_of_perm (hplain : Plain project.items) (hplain' : Plain other.items)
    (h : (files f project).Perm (files f other)) : scan f project = scan f other := by
  refine Perm.eq_of_pairwise ?_ (pairwise_scan hplain) (pairwise_scan hplain') ?_
  · intro a b _ _ hab hba
    exact absurd hab (lt_asymm hba)
  · exact (mergeSort_perm _ _).trans ((h.filterMap _).trans (mergeSort_perm _ _).symm)

end Discovery

end SourceDigest
