import SourceDigest.Proofs.Analysis.Fallback
import SourceDigest.Proofs.Graph.Resolution
import SourceDigest.Proofs.Text.Matching

/-! Where import strings come from. What the import lines of Python capture starts with a word
character, so that it is never relative, and what counts code in any language captures nothing.
Whichever strategy of a usual chain comes through, imports that can name a file are those of a
syntax tree. -/

namespace SourceDigest

open List

/-! ## Characters -/

namespace Text

theorem isWord_of_isBlank {c : Char} (h : isBlank c = true) : isWord c = false := by
  have hcode : c.toNat ∈ range' 9 5 ++ range' 28 5 ++ [0x85, 0xa0, 0x1680] ++ range' 0x2000 11 ++
      [0x2028, 0x2029, 0x202f, 0x205f, 0x3000] := by
    simp only [isBlank, Bool.or_eq_true, Bool.and_eq_true, beq_iff_eq, decide_eq_true_eq] at h
    simp only [mem_append, mem_range'_1, mem_cons, not_mem_nil]
    omega
  have hall : ∀ n ∈ range' 9 5 ++ range' 28 5 ++ [0x85, 0xa0, 0x1680] ++ range' 0x2000 11 ++
      [0x2028, 0x2029, 0x202f, 0x205f, 0x3000], isWord (Char.ofNat n) = false := by
    decide +kernel
  rw [← Char.ofNat_toNat c]
  exact hall _ hcode

theorem isBlank_of_isWord {c : Char} (h : isWord c = true) : isBlank c = false := by
  by_contra hblank
  rw [Bool.not_eq_false] at hblank
  exact absurd (h.symm.trans (isWord_of_isBlank hblank)) Bool.false_ne_true.symm

end Text

/-! ## Captured names -/

namespace Surface

open Matcher

/-- Texts that start with a letter, a digit or an underscore. -/
def StartsWord (text : List Char) : Prop :=
  ∃ ch ∈ text.head?, Text.isWord ch = true

theorem StartsWord.append {text : List Char} (h : StartsWord text) (more : List Char) :
    StartsWord (text ++ more) := by
  obtain ⟨ch, hhead, hword⟩ := h
  refine ⟨ch, ?_, hword⟩
  rw [head?_append, Option.mem_def.mp hhead]
  rfl

theorem StartsWord.not_relative {text : List Char} (h : StartsWord text) :
    Graph.isRelative text = false := by
  obtain ⟨ch, hhead, hword⟩ := h
  by_contra hrelative
  rw [Bool.not_eq_false] at hrelative
  have hdot := Graph.head_of_isRelative hrelative
  rw [Option.mem_def.mp hhead] at hdot
  obtain rfl := Option.some.inj hdot
  exact absurd hword (by decide)

def Solid (text : List Char) : Prop :=
  ∀ ch ∈ text, Text.isBlank ch = false

instance (text : List Char) : Decidable (Solid text) :=
  decidable_of_iff (text.all (!Text.isBlank ·) = true) (by simp [Solid])

/-- Texts that start with a word character and hold no white space. -/
structure IsName (text : List Char) : Prop where
  startsWord : StartsWord text
  solid : Solid text

theorem IsName.append {text more : List Char} (h : IsName text) (hmore : Solid more) :
    IsName (text ++ more) :=
  ⟨h.startsWord.append more, forall_mem_append.mpr ⟨h.solid, hmore⟩⟩

theorem name_passes : name.Passes IsName := by
  apply (passes_all1 Text.isWord).mono
  rintro text ⟨hne, hall⟩
  refine ⟨?_, fun ch hch => Text.isBlank_of_isWord (hall ch hch)⟩
  cases text with
  | nil => exact absurd rfl hne
  | cons ch text => exact ⟨ch, rfl, hall ch mem_cons_self⟩

theorem dottedName_passes : dottedName.Passes IsName := by
  have hdot : Solid ".".toList := by decide
  have hpart : (do lit "."; name : Matcher Unit).Passes Solid := by
    apply (passes_bind (passes_lit ".") fun _ => name_passes).mono
    rintro _ ⟨_, v, rfl, rfl, hv⟩
    exact forall_mem_append.mpr ⟨hdot, hv.solid⟩
  have hparts : (star (do lit "."; name) dotName_advances).Passes Solid :=
    passes_star dotName_advances hpart (by simp [Solid]) fun u v hu hv =>
      forall_mem_append.mpr ⟨hu, hv⟩
  apply (passes_bind name_passes fun _ => hparts).mono
  rintro _ ⟨u, v, rfl, hu, hv⟩
  exact hu.append hv

namespace Python

/-- The modules that a text imports: first those it takes names from, then those it takes whole. -/
def modules (content : String) : List String :=
  (findAll fromImport content.toList ++ findAll directImport content.toList).map String.ofList

theorem fromImport_yields : fromImport.Yields IsName := by
  unfold fromImport
  refine yields_bind (yields_any _) fun _ _ => ?_
  refine yields_bind (yields_any _) fun _ _ => ?_
  refine yields_bind (yields_any _) fun _ _ => ?_
  refine yields_bind (yields_captured dottedName_passes) fun source hsource => ?_
  refine yields_bind (yields_any _) fun _ _ => ?_
  exact yields_bind (yields_any _) fun _ _ => yields_pure hsource

theorem directImport_yields : directImport.Yields IsName := by
  unfold directImport
  refine yields_bind (yields_any _) fun _ _ => ?_
  refine yields_bind (yields_any _) fun _ _ => ?_
  refine yields_bind (yields_any _) fun _ _ => ?_
  exact yields_captured dottedName_passes

theorem not_relative_of_mem_modules {content target : String} (h : target ∈ modules content) :
    Graph.isRelative target.toList = false := by
  obtain ⟨text, htext, rfl⟩ := mem_map.mp h
  rw [String.toList_ofList]
  rcases mem_append.mp htext with htext | htext
  · exact (mem_findAll fromImport_yields text htext).startsWord.not_relative
  · exact (mem_findAll directImport_yields text htext).startsWord.not_relative

end Python

end Surface

/-! ## Strategies -/

namespace Strategy

variable {α : Type}

/-- The metrics are those of a syntax tree, as their strategy says. -/
def FromTree (m : Metrics α) : Prop :=
  ∃ grammar, m.strategy = "tree-sitter:" ++ grammar

/-- What a parser lets the imports of a content be. They are those of a syntax tree or none of
them is relative, and those of Python are the modules of the content; without a parser there are no
trees. -/
structure Imports (parser : Option Parser) (content : String) (m : Metrics α) : Prop where
  tree : FromTree m ∨ ∀ target ∈ m.dependencies, Graph.isRelative target.toList = false
  python : m.strategy = "regex:python" → m.dependencies = Surface.Python.modules content
  withoutParser : parser = none →
    ∀ target ∈ m.dependencies, Graph.isRelative target.toList = false

variable {parser : Option Parser} {path content : String} {m : Metrics α}

theorem Imports.of_nil (hdependencies : m.dependencies = []) (hname : m.strategy ≠ "regex:python") :
    Imports parser content m := by
  have hnone : ∀ target ∈ m.dependencies, Graph.isRelative target.toList = false := by
    simp [hdependencies]
  exact ⟨Or.inr hnone, fun h => absurd h hname, fun _ => hnone⟩

theorem Imports.of_modules (h : m.dependencies = Surface.Python.modules content) :
    Imports parser content m := by
  have hmodules : ∀ target ∈ m.dependencies, Graph.isRelative target.toList = false := by
    rw [h]
    exact fun target => Surface.Python.not_relative_of_mem_modules
  exact ⟨Or.inr hmodules, fun _ => h, fun _ => hmodules⟩

theorem Imports.of_tree {grammar : String} (h : m.strategy = "tree-sitter:" ++ grammar)
    (hparser : parser ≠ none) : Imports parser content m := by
  refine ⟨Or.inl ⟨grammar, h⟩, ?_, fun hnone => absurd hnone hparser⟩
  intro hname
  have hchars := congrArg String.toList (h.symm.trans hname)
  rw [String.toList_append] at hchars
  exact absurd (cons.inj hchars).1 (by decide)

variable [Scalar α]

/-- The metrics of a chain are those of one of its strategies under its name, or none came
through. -/
theorem runChain_cases (template : Metrics α) (path content : String)
    (chain : List (Strategy α)) :
    (∃ s ∈ chain, ∃ m, s.analyze path content template.fresh = .returns m ∧
      runChain template path content chain = { m with strategy := s.name }) ∨
    runChain template path content chain = { template.fresh with strategy := "none" } := by
  induction chain with
  | nil => exact Or.inr rfl
  | cons s chain ih =>
    by_cases hs : s.Fails path content template.fresh
    · rw [runChain_cons_of_fails hs]
      rcases ih with ⟨t, ht, hreturns⟩ | hnone
      · exact Or.inl ⟨t, mem_cons_of_mem s ht, hreturns⟩
      · exact Or.inr hnone
    · simp only [Fails, not_forall, not_not] at hs
      obtain ⟨m, hm⟩ := hs
      exact Or.inl ⟨s, mem_cons_self, m, hm, runChain_cons_of_returns hm chain⟩

theorem syntaxTree_imports {grammar : String} {typed : Bool} {start : Metrics α}
    (h : (syntaxTree parser grammar typed).analyze path content start = .returns m) :
    Imports parser content { m with strategy := "tree-sitter:" ++ grammar } := by
  apply Imports.of_tree rfl
  rintro rfl
  cases h

/-- Every strategy of a usual chain keeps to what the parser allows, if it starts without
imports. -/
theorem imports_of_mem_chainFor {s : Strategy α} {language : String} {start : Metrics α}
    (hs : s ∈ chainFor parser language) (hstart : start.dependencies = [])
    (h : s.analyze path content start = .returns m) :
    Imports parser content { m with strategy := s.name } := by
  simp only [chainFor, mem_append, mem_map, mem_singleton] at hs
  rcases hs with (⟨g, -, rfl⟩ | hs) | rfl
  · exact syntaxTree_imports h
  · split at hs
    · obtain rfl := mem_singleton.mp hs
      cases h
      apply Imports.of_modules
      exact congrArg (· ++ Surface.Python.modules content) hstart
    · exact absurd hs not_mem_nil
  · cases h
    exact Imports.of_nil hstart (by decide : "regex:generic" ≠ "regex:python")

theorem analyzeFresh_imports (parser : Option Parser) (path content language : String) :
    Imports parser content
      (Analyzer.analyzeFresh (chainFor parser) path content language : Metrics α) := by
  rw [Analyzer.analyzeFresh]
  rcases runChain_cases (α := α) (Analyzer.template path content) path content
    (chainFor parser language) with ⟨s, hs, m, hm, hrun⟩ | hrun
  · rw [hrun]
    exact imports_of_mem_chainFor hs rfl hm
  · rw [hrun]
    exact Imports.of_nil rfl (by decide : "none" ≠ "regex:python")

end Strategy

end SourceDigest
