import SourceDigest.Proofs.Analysis.Objects
import SourceDigest.Proofs.Analysis.Requests

/-! What is left of a chain of strategies when some of them fail. Its metrics are those of the first
strategy that returns any, from the character of the file alone; a strategy that fails may as well
not be there. The usual chains end in a strategy that does not fail. -/

namespace SourceDigest.Strategy

open List

variable {α : Type}

/-- Handed these metrics, the strategy gives up or raises. -/
def Fails (s : Strategy α) (path content : String) (m : Metrics α) : Prop :=
  ∀ r, s.analyze path content m ≠ .returns r

/-- The parser supports the grammar and makes an error-free tree of the content. -/
def Parses (parser : Option Parser) (grammar content : String) (root : Syntax.Node) : Prop :=
  ∃ p, parser = some p ∧ p.supports grammar = true ∧ p.parse grammar content = .tree root false

variable [Scalar α]

/-! ## Any chain -/

section Chain

variable {template : Metrics α} {path content : String} {s : Strategy α}
  {front chain : List (Strategy α)}

theorem runChain_cons_of_returns {m : Metrics α}
    (h : s.analyze path content template.fresh = .returns m) (chain : List (Strategy α)) :
    runChain template path content (s :: chain) = { m with strategy := s.name } := by
  rw [runChain, h]

theorem runChain_cons_of_fails (h : s.Fails path content template.fresh)
    (chain : List (Strategy α)) :
    runChain template path content (s :: chain) = runChain template path content chain := by
  rw [runChain]
  cases hs : s.analyze path content template.fresh with
  | returns m => exact absurd hs (h m)
  | givesUp left => rfl
  | fails left crash => rfl

theorem runChain_append_of_fails (h : ∀ t ∈ front, t.Fails path content template.fresh)
    (back : List (Strategy α)) :
    runChain template path content (front ++ back) = runChain template path content back := by
  induction front with
  | nil => rfl
  | cons t front ih =>
    rw [cons_append, runChain_cons_of_fails (h t mem_cons_self),
      ih fun u hu => h u (mem_cons_of_mem t hu)]

/-- Leaving out a strategy that fails makes no difference. -/
theorem runChain_eq_without (h : s.Fails path content template.fresh)
    (front back : List (Strategy α)) :
    runChain template path content (front ++ s :: back) =
      runChain template path content (front ++ back) := by
  induction front with
  | nil => exact runChain_cons_of_fails h back
  | cons t front ih =>
    rw [cons_append, cons_append, runChain, runChain, ih]

theorem runChain_of_fails (h : ∀ t ∈ chain, t.Fails path content template.fresh) :
    runChain template path content chain = { template.fresh with strategy := "none" } := by
  have hall := runChain_append_of_fails h []
  rwa [append_nil] at hall

/-- A chain with a strategy that returns metrics tells which strategy it was. -/
theorem exists_name_of_mem (h : s ∈ chain) (hs : ¬ s.Fails path content template.fresh) :
    ∃ t ∈ chain, (runChain template path content chain).strategy = t.name := by
  induction chain with
  | nil => exact absurd h not_mem_nil
  | cons t chain ih =>
    by_cases ht : t.Fails path content template.fresh
    · rcases mem_cons.mp h with rfl | h
      · exact absurd ht hs
      · obtain ⟨u, hu, hname⟩ := ih h
        rw [runChain_cons_of_fails ht]
        exact ⟨u, mem_cons_of_mem t hu, hname⟩
    · simp only [Fails, not_forall, not_not] at ht
      obtain ⟨m, hm⟩ := ht
      rw [runChain_cons_of_returns hm]
      exact ⟨t, mem_cons_self, rfl⟩

end Chain

/-- What comes of a chain on a file. Every strategy that is run starts from the character of the
file, whatever those before it did to the metrics that they were handed. -/
structure LeavesNoTrace (chain : List (Strategy α)) (path content : String) : Prop where
  first : ∀ front s back m, chain = front ++ s :: back →
    (∀ t ∈ front, t.Fails path content (Analyzer.template path content)) →
    s.analyze path content (Analyzer.template path content) = .returns m →
    runChain (Analyzer.template path content) path content chain = { m with strategy := s.name }
  without : ∀ front s back, chain = front ++ s :: back →
    s.Fails path content (Analyzer.template path content) →
    runChain (Analyzer.template path content) path content chain =
      runChain (Analyzer.template path content) path content (front ++ back)
  none : (∀ s ∈ chain, s.Fails path content (Analyzer.template path content)) →
    runChain (Analyzer.template path content) path content chain =
      { (Metrics.empty : Metrics α) with
        frameworks := Traits.frameworks content.toList
        isEntryPoint := Traits.isEntryPoint path.toList content.toList
        isTestFile := Traits.isTestFile path.toList content.toList
        isConfigFile := Traits.isConfigFile path.toList
        strategy := "none" }
  onMemory : ∀ steps, Forall₂ Step.Follows steps chain → ∀ (mem : Memory α) place,
    mem.HasMade place → mem.read place = Analyzer.template path content →
    ∃ found after, (runSteps place path content steps).run mem = (.ok found, after) ∧
      after.read found = runChain (Analyzer.template path content) path content chain
  exists_steps : ∃ steps, Forall₂ Step.Follows steps chain

/-- The character of a file is handed on as it is. -/
theorem fresh_template (path content : String) :
    (Analyzer.template path content : Metrics α).fresh = Analyzer.template path content := by
  simp only [Analyzer.template, Metrics.fresh]

/-- Failed strategies leave no trace in any chain, and nothing that they raise leaves the chain. -/
theorem runChain_leavesNoTrace (chain : List (Strategy α)) (path content : String) :
    LeavesNoTrace chain path content := by
  have hfresh := fresh_template (α := α) path content
  refine ⟨?_, ?_, ?_, ?_, ⟨_, forall₂_inPlace chain⟩⟩
  · rintro front s back m rfl hfront hs
    rw [← hfresh] at hfront hs
    rw [runChain_append_of_fails hfront, runChain_cons_of_returns hs]
  · rintro front s back rfl hs
    rw [← hfresh] at hs
    exact runChain_eq_without hs front back
  · intro h
    rw [← hfresh] at h
    rw [runChain_of_fails h, hfresh]
    simp only [Analyzer.template]
  · intro steps hsteps mem place hmem hread
    rw [← hread]
    exact runSteps_eq hsteps hmem path content

/-! ## The usual chains -/

variable {parser : Option Parser} {path content language : String}

theorem syntaxTree_analyze_of_parses {grammar : String} {root : Syntax.Node}
    (h : Parses parser grammar content root) (typed : Bool) (m : Metrics α) :
    (syntaxTree parser grammar typed).analyze path content m =
      .returns (Syntax.walk typed root m) := by
  obtain ⟨p, rfl, hsupports, hparse⟩ := h
  simp [syntaxTree, hsupports, hparse]

theorem syntaxTree_fails {grammar : String} (h : ∀ root, ¬ Parses parser grammar content root)
    (typed : Bool) (m : Metrics α) : (syntaxTree parser grammar typed).Fails path content m := by
  intro r hr
  cases parser with
  | none => simp [syntaxTree] at hr
  | some p =>
    by_cases hsupports : p.supports grammar = true
    · cases hparse : p.parse grammar content with
      | nothing => simp [syntaxTree, hsupports, hparse] at hr
      | tree root hasError =>
        cases hasError with
        | true => simp [syntaxTree, hsupports, hparse] at hr
        | false => exact h root ⟨p, rfl, hsupports, hparse⟩
      | refused => simp [syntaxTree, hsupports, hparse] at hr
      | crashed => simp [syntaxTree, hsupports, hparse] at hr
    · simp [syntaxTree, hsupports] at hr

/-- Grammars without an error-free tree give strategies that fail. -/
theorem fails_of_mem_trees {grammars : List (String × Bool)}
    (h : ∀ g ∈ grammars, ∀ root, ¬ Parses parser g.1 content root) (m : Metrics α) :
    ∀ s ∈ grammars.map fun g => syntaxTree (α := α) parser g.1 g.2, s.Fails path content m := by
  intro s hs
  obtain ⟨g, hg, rfl⟩ := mem_map.mp hs
  exact syntaxTree_fails (h g hg) g.2 m

theorem name_ne_none_of_mem_chainFor {s : Strategy α} (h : s ∈ chainFor parser language) :
    s.name ≠ "none" := by
  simp only [chainFor, mem_append, mem_map, mem_singleton] at h
  rcases h with (⟨g, -, rfl⟩ | h) | rfl
  · intro hname
    have hchars := congrArg String.toList hname
    simp only [syntaxTree, String.toList_append] at hchars
    exact absurd (List.cons.inj hchars).1 (by decide)
  · split at h
    · rw [mem_singleton.mp h]
      exact fun hname => absurd hname (by decide : "regex:python" ≠ "none")
    · exact absurd h not_mem_nil
  · exact fun hname => absurd hname (by decide : "regex:generic" ≠ "none")

/-- The usual chains always find a strategy. -/
theorem strategy_analyzeFresh_ne_none (parser : Option Parser) (path content language : String) :
    (Analyzer.analyzeFresh (chainFor parser) path content language : Metrics α).strategy ≠
      "none" := by
  have hmem : (anyLanguage : Strategy α) ∈ chainFor parser language := by simp [chainFor]
  obtain ⟨t, ht, hname⟩ : ∃ t ∈ (chainFor parser language : List (Strategy α)),
      (Analyzer.analyzeFresh (chainFor parser) path content language).strategy = t.name :=
    exists_name_of_mem hmem fun h => h _ rfl
  rw [hname]
  exact name_ne_none_of_mem_chainFor ht

/-- Whatever an analyzer with the usual chains was asked before, its answers name a strategy. -/
theorem strategy_answer_ne_none (parser : Option Parser) (enabled : Bool)
    (requests : List Analyzer.Request) (v : Analyzer.Version) :
    (((Analyzer.start (α := α) (chainFor parser) enabled).after requests).answer v).strategy ≠
      "none" := by
  obtain ⟨w, -, hanswer⟩ :=
    Analyzer.exists_answer_eq_plain (chainFor (α := α) parser) enabled requests v
  rw [hanswer]
  exact strategy_analyzeFresh_ne_none parser w.path w.content w.language

/-- What the usual chain of a language comes to on a file: the first error-free tree of its
grammars is walked, and where there is none the lines of the text are read. -/
structure DegradesToLines (α : Type) [Scalar α] (parser : Option Parser)
    (path content language : String) : Prop where
  tree : ∀ front g back root, grammarsFor language = front ++ g :: back →
    (∀ t ∈ front, ∀ other, ¬ Parses parser t.1 content other) → Parses parser g.1 content root →
    (Analyzer.analyzeFresh (chainFor parser) path content language : Metrics α) =
      { Syntax.walk g.2 root (Analyzer.template path content) with
        strategy := "tree-sitter:" ++ g.1 }
  lines : (∀ g ∈ grammarsFor language, ∀ root, ¬ Parses parser g.1 content root) →
    (Analyzer.analyzeFresh (chainFor parser) path content language : Metrics α) =
      if language = "python" then
        { Surface.Python.analyze content (Analyzer.template path content) with
          strategy := "regex:python" }
      else
        { Surface.analyze content (Analyzer.template path content) with
          strategy := "regex:generic" }
  named : ∀ enabled requests v,
    (((Analyzer.start (α := α) (chainFor parser) enabled).after requests).answer v).strategy ≠
      "none"
  onMemory : ∀ steps, Forall₂ Step.Follows steps (chainFor parser language) →
    ∀ (mem : Memory α) place, mem.HasMade place → mem.read place = Analyzer.template path content →
    ∃ found after, (runSteps place path content steps).run mem = (.ok found, after) ∧
      after.read found = Analyzer.analyzeFresh (chainFor parser) path content language

/-- The usual chains degrade from trees to lines, whatever the parser does. -/
theorem chainFor_degrades (parser : Option Parser) (path content language : String) :
    DegradesToLines α parser path content language := by
  have hfresh := fresh_template (α := α) path content
  refine ⟨?_, ?_, fun enabled requests v => strategy_answer_ne_none parser enabled requests v, ?_⟩
  · intro front g back root hgrammars hfront hroot
    rw [Analyzer.analyzeFresh, chainFor, hgrammars, map_append, append_assoc, append_assoc,
      runChain_append_of_fails (fails_of_mem_trees hfront _), map_cons, cons_append,
      runChain_cons_of_returns (syntaxTree_analyze_of_parses hroot g.2 _), hfresh]
    rfl
  · intro hgrammars
    rw [Analyzer.analyzeFresh, chainFor, append_assoc,
      runChain_append_of_fails (fails_of_mem_trees hgrammars _)]
    split
    · rw [singleton_append, runChain_cons_of_returns rfl, hfresh]
      rfl
    · rw [nil_append, runChain_cons_of_returns rfl, hfresh]
      rfl
  · intro steps hsteps mem place hmem hread
    rw [Analyzer.analyzeFresh, ← hread]
    exact runSteps_eq hsteps hmem path content

end SourceDigest.Strategy
