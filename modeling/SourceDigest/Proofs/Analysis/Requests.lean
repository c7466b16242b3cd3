import Mathlib.Data.List.Induction
import SourceDigest.Proofs.Analysis.Unseen

/-! What an analyzer answers in the course of any requests. Its memo is told by the versions of
files that were analyzed since it was last cleared: the metrics given for a version are those of
the first version with its key, and the chain runs where a key comes for the first time. -/

namespace SourceDigest.Analyzer

open List

/-! ## Requests -/

/-- A file as it is given to an analyzer. -/
structure Version where
  path : String
  content : String
  language : String
  deriving DecidableEq, Repr, Inhabited

def Version.key (v : Version) : Memo.Key :=
  Memo.keyFor v.path v.content

/-- What can be asked of an analyzer. -/
inductive Request where
  | analyze (v : Version)
  | clear
  deriving DecidableEq, Repr, Inhabited

def analyzed (requests : List Request) : List Version :=
  requests.filterMap fun
    | .analyze v => some v
    | .clear => none

/-- The versions that requests analyze after the last one that clears. -/
def sinceClear (requests : List Request) : List Version :=
  requests.foldl (fun versions request =>
    match request with
    | .analyze v => versions ++ [v]
    | .clear => []) []

def firstWith (key : Memo.Key) (versions : List Version) : Option Version :=
  versions.find? fun v => decide (v.key = key)

theorem firstWith_eq_none {key : Memo.Key} {versions : List Version} :
    firstWith key versions = none ↔ key ∉ versions.map Version.key := by
  simp [firstWith]

theorem firstWith_concat (key : Memo.Key) (versions : List Version) (v : Version) :
    firstWith key (versions ++ [v]) =
      (firstWith key versions).or (if v.key = key then some v else none) := by
  rw [firstWith, find?_append]
  by_cases h : v.key = key <;> simp [firstWith, h]

variable {α : Type}

/-- Analysis of a version where running the chain is an action. -/
def analyzeBy {μ : Type → Type} [Monad μ] (run : Version → μ (Metrics α)) (memo : Memo α)
    (v : Version) : μ (Metrics α × Memo α) :=
  match memo.get v.key with
  | (some m, memo) => pure (m, memo)
  | (none, memo) => do
    let m ← run v
    return (m, memo.set v.key m)

section Action

variable {μ : Type → Type} [Monad μ] (run : Version → μ (Metrics α)) {memo : Memo α}
  {v : Version}

theorem analyzeBy_found (henabled : memo.enabled = true) {m : Metrics α}
    (h : memo.entries.lookup v.key = some m) :
    analyzeBy run memo v = pure (m, { memo with hits := memo.hits + 1 }) := by
  simp only [analyzeBy, Memo.get, if_pos henabled, h]

theorem analyzeBy_missed (henabled : memo.enabled = true)
    (h : memo.entries.lookup v.key = none) :
    analyzeBy run memo v = do
      let m ← run v
      return (m, { memo with
        entries := Keyed.insert memo.entries v.key m, misses := memo.misses + 1 }) := by
  simp only [analyzeBy, Memo.get, if_pos henabled, h, Memo.set]

theorem analyzeBy_disabled (hdisabled : ¬ memo.enabled = true) :
    analyzeBy run memo v = do
      let m ← run v
      return (m, memo) := by
  simp only [analyzeBy, Memo.get, if_neg hdisabled, Memo.set]

end Action

variable [Scalar α]

/-- The metrics of a version, without regard to any memo: what the chain of its language comes to
on the character of the file. -/
def plain (chain : String → List (Strategy α)) (v : Version) : Metrics α :=
  Strategy.runChain (template v.path v.content) v.path v.content (chain v.language)

def answer (a : Analyzer α) (v : Version) : Metrics α :=
  (a.analyze v.path v.content v.language).1

def serve (a : Analyzer α) : Request → Analyzer α
  | .analyze v => (a.analyze v.path v.content v.language).2
  | .clear => a.clear

def after (a : Analyzer α) (requests : List Request) : Analyzer α :=
  requests.foldl serve a

theorem analyze_eq (a : Analyzer α) (v : Version) :
    a.analyze v.path v.content v.language =
      let (m, memo) := Id.run (analyzeBy (fun v => pure (plain a.chain v)) a.memo v)
      (m, { a with memo }) := by
  rcases hget : a.memo.get (Memo.keyFor v.path v.content) with ⟨_ | m, memo⟩
  · simp only [analyze, analyzeBy, Version.key, hget]
    rfl
  · simp only [analyze, analyzeBy, Version.key, hget]
    rfl

/-- Running the chain while the versions it runs on are written down. -/
def logged (chain : String → List (Strategy α)) (v : Version) :
    StateM (List Version) (Metrics α) := do
  modify (· ++ [v])
  return plain chain v

/-- What is written down as a run is one run of the chain of the version's language. -/
theorem run_logged (chain : String → List (Strategy α)) (v : Version) (log : List Version) :
    (logged chain v).run log =
      (Strategy.runChain (template v.path v.content) v.path v.content (chain v.language),
        log ++ [v]) :=
  rfl

/-- The versions on which the chain runs during a request. -/
def runsOf (a : Analyzer α) : Request → List Version
  | .analyze v => (analyzeBy (logged a.chain) a.memo v []).2
  | .clear => []

def runs (a : Analyzer α) : List Request → List Version
  | [] => []
  | request :: requests => a.runsOf request ++ (a.serve request).runs requests

theorem runs_concat (a : Analyzer α) (requests : List Request) (request : Request) :
    a.runs (requests ++ [request]) = a.runs requests ++ (a.after requests).runsOf request := by
  induction requests generalizing a with
  | nil => simp [runs, after]
  | cons first requests ih => simp [runs, after, ih]

/-! ## One request -/

variable {a : Analyzer α} {v : Version}

theorem analyze_found (henabled : a.memo.enabled = true) {m : Metrics α}
    (h : a.memo.entries.lookup v.key = some m) :
    a.answer v = m ∧
      a.serve (.analyze v) = { a with memo := { a.memo with hits := a.memo.hits + 1 } } ∧
      a.runsOf (.analyze v) = [] := by
  rw [answer, serve, runsOf, analyze_eq, analyzeBy_found _ henabled h,
    analyzeBy_found _ henabled h]
  exact ⟨rfl, rfl, rfl⟩

theorem analyze_missed (henabled : a.memo.enabled = true)
    (h : a.memo.entries.lookup v.key = none) :
    a.answer v = plain a.chain v ∧
      a.serve (.analyze v) = { a with
        memo := { a.memo with
          entries := Keyed.insert a.memo.entries v.key (plain a.chain v)
          misses := a.memo.misses + 1 } } ∧
      a.runsOf (.analyze v) = [v] := by
  rw [answer, serve, runsOf, analyze_eq, analyzeBy_missed _ henabled h,
    analyzeBy_missed _ henabled h]
  exact ⟨rfl, rfl, rfl⟩

theorem analyze_disabled (hdisabled : ¬ a.memo.enabled = true) :
    a.answer v = plain a.chain v ∧ a.serve (.analyze v) = a := by
  rw [answer, serve, analyze_eq, analyzeBy_disabled _ hdisabled]
  exact ⟨rfl, rfl⟩

/-- Versions of different paths that a memo lacks are all missed, and the chain runs on each. -/
theorem after_of_lacks {versions : List Version} (henabled : a.memo.enabled = true)
    (hlacks : ∀ v ∈ versions, a.memo.Lacks v.path)
    (hpaths : (versions.map Version.path).Nodup) :
    (a.after (versions.map .analyze)).memo.hits = a.memo.hits ∧
      (a.after (versions.map .analyze)).memo.misses = a.memo.misses + versions.length ∧
      a.runs (versions.map .analyze) = versions := by
  induction versions generalizing a with
  | nil => exact ⟨rfl, rfl, rfl⟩
  | cons v versions ih =>
    obtain ⟨hv, hpaths⟩ := nodup_cons.mp hpaths
    have hlookup : a.memo.entries.lookup v.key = none :=
      Memo.lookup_eq_none (hlacks v mem_cons_self) v.content
    obtain ⟨-, hserve, hruns⟩ := analyze_missed henabled hlookup
    have hlacks' : ∀ w ∈ versions, (a.serve (.analyze v)).memo.Lacks w.path := by
      intro w hw
      apply lacks_analyze (hlacks w (mem_cons_of_mem v hw))
      intro hpath
      exact hv (mem_map.mpr ⟨w, hw, hpath.symm⟩)
    obtain ⟨hhits, hmisses, hrest⟩ := ih (by rw [hserve]; exact henabled) hlacks' hpaths
    have hafter : a.after ((v :: versions).map .analyze) =
        (a.serve (.analyze v)).after (versions.map .analyze) := rfl
    rw [hafter, hhits, hmisses, map_cons, runs, hruns, hrest, hserve, length_cons]
    refine ⟨rfl, ?_, rfl⟩
    dsimp only
    omega

/-! ## What is remembered -/

/-- Entries hold the key of each version once, in the order of the first versions with it, and
under it the metrics of that version. -/
structure Recalls (chain : String → List (Strategy α)) (versions : List Version)
    (entries : List (Memo.Key × Metrics α)) : Prop where
  keys : entries.map (·.1) = (versions.map Version.key).eraseDups
  lookup : ∀ key, entries.lookup key = (firstWith key versions).map (plain chain)

variable {chain : String → List (Strategy α)} {versions : List Version}
  {entries : List (Memo.Key × Metrics α)}

theorem Recalls.nil (chain : String → List (Strategy α)) : Recalls chain [] [] :=
  ⟨rfl, fun _ => rfl⟩

theorem Recalls.concat_of_some (h : Recalls chain versions entries) {first : Version}
    (hfirst : firstWith v.key versions = some first) :
    Recalls chain (versions ++ [v]) entries := by
  have hmem : v.key ∈ versions.map Version.key := by
    by_contra hnot
    rw [firstWith_eq_none.mpr hnot] at hfirst
    cases hfirst
  refine ⟨?_, ?_⟩
  · rw [map_append, map_singleton, Keyed.eraseDups_concat_of_mem hmem]
    exact h.keys
  · intro key
    rw [firstWith_concat, h.lookup key]
    by_cases hkey : v.key = key
    · subst hkey
      rw [hfirst]
      rfl
    · rw [if_neg hkey, Option.or_none]

theorem Recalls.concat_of_none (h : Recalls chain versions entries)
    (hfirst : firstWith v.key versions = none) :
    Recalls chain (versions ++ [v]) (Keyed.insert entries v.key (plain chain v)) := by
  have hmem := firstWith_eq_none.mp hfirst
  have hnew : v.key ∉ entries.map (·.1) := by
    rw [h.keys]
    exact mt mem_eraseDups.mp hmem
  rw [Keyed.insert_of_notMem hnew]
  refine ⟨?_, ?_⟩
  · rw [map_append, map_append, map_singleton, map_singleton,
      Keyed.eraseDups_concat_of_notMem hmem, h.keys]
  · intro key
    rw [firstWith_concat, lookup_append, h.lookup key]
    by_cases hkey : v.key = key
    · subst hkey
      simp [hfirst]
    · have hb : (key == v.key) = false := beq_eq_false_iff_ne.mpr (Ne.symm hkey)
      simp [lookup_cons, hb, hkey]

/-- An analyzer with a memo that holds what came of versions. -/
structure Remembers (chain : String → List (Strategy α)) (versions : List Version)
    (a : Analyzer α) : Prop where
  chain_eq : a.chain = chain
  enabled : a.memo.enabled = true
  recalls : Recalls chain versions a.memo.entries

/-- The metrics given for a version are those of the first version with its key. -/
def AnswersAsFirst (chain : String → List (Strategy α)) (versions : List Version) (a : Analyzer α)
    (v : Version) : Prop :=
  ∃ first, firstWith v.key (versions ++ [v]) = some first ∧ a.answer v = plain chain first

/-- An analysis is either a hit, and the chain does not run, or a miss, and it runs once. -/
def CountsOnce (a : Analyzer α) (v : Version) : Prop :=
  let memo := (a.serve (.analyze v)).memo
  (memo.hits = a.memo.hits + 1 ∧ memo.misses = a.memo.misses ∧ a.runsOf (.analyze v) = []) ∨
    memo.hits = a.memo.hits ∧ memo.misses = a.memo.misses + 1 ∧ a.runsOf (.analyze v) = [v]

theorem Remembers.analyze (h : a.Remembers chain versions) (v : Version) :
    AnswersAsFirst chain versions a v ∧ a.CountsOnce v ∧
      (a.serve (.analyze v)).Remembers chain (versions ++ [v]) := by
  have hlookup := h.recalls.lookup v.key
  cases hfirst : firstWith v.key versions with
  | some first =>
    rw [hfirst] at hlookup
    obtain ⟨hanswer, hserve, hruns⟩ := analyze_found h.enabled hlookup
    refine ⟨⟨first, ?_, hanswer⟩, Or.inl ⟨by rw [hserve], by rw [hserve], hruns⟩, ?_⟩
    · rw [firstWith_concat, hfirst]
      rfl
    · rw [hserve]
      exact ⟨h.chain_eq, h.enabled, h.recalls.concat_of_some hfirst⟩
  | none =>
    rw [hfirst] at hlookup
    obtain ⟨hanswer, hserve, hruns⟩ := analyze_missed h.enabled hlookup
    rw [h.chain_eq] at hanswer hserve
    refine ⟨⟨v, ?_, hanswer⟩, Or.inr ⟨by rw [hserve], by rw [hserve], hruns⟩, ?_⟩
    · rw [firstWith_concat, hfirst, if_pos rfl]
      rfl
    · rw [hserve]
      exact ⟨rfl, h.enabled, h.recalls.concat_of_none hfirst⟩

theorem Remembers.clear (h : a.Remembers chain versions) :
    (a.serve .clear).Remembers chain [] :=
  ⟨h.chain_eq, h.enabled, .nil chain⟩

/-! ## All requests -/

/-- A new analyzer with any chains; `new` gives the usual ones to it. -/
def start (chain : String → List (Strategy α)) (enabled : Bool) : Analyzer α :=
  ⟨chain, Memo.new enabled⟩

theorem analyzed_concat (requests : List Request) (request : Request) :
    analyzed (requests ++ [request]) = analyzed requests ++ analyzed [request] :=
  filterMap_append

theorem after_concat (a : Analyzer α) (requests : List Request) (request : Request) :
    a.after (requests ++ [request]) = (a.after requests).serve request := by
  rw [after, foldl_append]
  rfl

theorem sinceClear_concat (requests : List Request) (request : Request) :
    sinceClear (requests ++ [request]) =
      match request with
      | .analyze v => sinceClear requests ++ [v]
      | .clear => [] := by
  rw [sinceClear, foldl_append]
  rfl

theorem after_remembers (chain : String → List (Strategy α)) (requests : List Request) :
    ((start chain true).after requests).Remembers chain (sinceClear requests) := by
  induction requests using List.reverseRecOn with
  | nil => exact ⟨rfl, rfl, .nil chain⟩
  | append_singleton requests request ih =>
    rw [after_concat, sinceClear_concat]
    cases request with
    | analyze v => exact (ih.analyze v).2.2
    | clear => exact ih.clear

/-- Hits and misses are all analyses, and misses are the runs of the chain. -/
theorem after_counts (chain : String → List (Strategy α)) (requests : List Request) :
    let memo := ((start chain true).after requests).memo
    memo.hits + memo.misses = (analyzed requests).length ∧
      ((start chain true).runs requests).length = memo.misses := by
  induction requests using List.reverseRecOn with
  | nil => exact ⟨rfl, rfl⟩
  | append_singleton requests request ih =>
    obtain ⟨htotal, hruns⟩ := ih
    dsimp only
    rw [after_concat, runs_concat, analyzed_concat, length_append, length_append]
    cases request with
    | analyze v =>
      have hcounts := ((after_remembers chain requests).analyze v).2.1
      have hone : (analyzed [.analyze v]).length = 1 := rfl
      obtain ⟨hhits, hmisses, hrun⟩ | ⟨hhits, hmisses, hrun⟩ := hcounts
      · rw [hhits, hmisses, hrun, length_nil]
        omega
      · rw [hhits, hmisses, hrun, length_singleton]
        omega
    | clear => exact ⟨htotal, hruns⟩

theorem after_disabled (chain : String → List (Strategy α)) (requests : List Request) :
    (start chain false).after requests = start chain false := by
  induction requests using List.reverseRecOn with
  | nil => rfl
  | append_singleton requests request ih =>
    rw [after_concat, ih]
    cases request with
    | analyze v => exact (analyze_disabled Bool.false_ne_true).2
    | clear => rfl

/-- The metrics given for a version are those of one with its key, whatever was asked before. -/
theorem exists_answer_eq_plain (chain : String → List (Strategy α)) (enabled : Bool)
    (requests : List Request) (v : Version) :
    ∃ w : Version, w.key = v.key ∧
      ((start chain enabled).after requests).answer v = plain chain w := by
  cases enabled with
  | true =>
    obtain ⟨first, hfirst, hanswer⟩ := ((after_remembers chain requests).analyze v).1
    rw [firstWith] at hfirst
    exact ⟨first, by simpa using find?_some hfirst, hanswer⟩
  | false =>
    refine ⟨v, rfl, ?_⟩
    rw [after_disabled]
    exact (analyze_disabled Bool.false_ne_true).1

/-- What can be told of an analyzer after requests from these alone, with a memo and without one. A
run is one of the chain of a version's language, on the character of the file. -/
structure MemoLaw (chain : String → List (Strategy α)) (requests : List Request) : Prop where
  chained : ∀ v log, (logged chain v).run log =
    (Strategy.runChain (template v.path v.content) v.path v.content (chain v.language), log ++ [v])
  answers : ∀ v, AnswersAsFirst chain (sinceClear requests) ((start chain true).after requests) v
  counts : ∀ v, ((start chain true).after requests).CountsOnce v
  total : ((start chain true).after requests).memo.hits +
    ((start chain true).after requests).memo.misses = (analyzed requests).length
  runs : ((start chain true).runs requests).length =
    ((start chain true).after requests).memo.misses
  size : ((start chain true).after requests).memo.size =
    ((sinceClear requests).map Version.key).eraseDups.length
  answers_disabled : ∀ v, ((start chain false).after requests).answer v = plain chain v
  memo_disabled : ((start chain false).after requests).memo = Memo.new false

theorem memoLaw (chain : String → List (Strategy α)) (requests : List Request) :
    MemoLaw chain requests := by
  have h := after_remembers chain requests
  obtain ⟨htotal, hruns⟩ := after_counts chain requests
  refine ⟨run_logged chain, fun v => (h.analyze v).1, fun v => (h.analyze v).2.1, htotal, hruns,
    ?_, ?_, ?_⟩
  · rw [Memo.size, ← length_map (·.1), h.recalls.keys]
  · intro v
    rw [after_disabled]
    exact (analyze_disabled Bool.false_ne_true).1
  · rw [after_disabled]
    rfl

/-- Contents of one hash pass for each other until the memo is cleared. -/
example (chain : String → List (Strategy Rat)) :
    let aa : Version := ⟨"a.py", "Aa", "python"⟩
    let bb : Version := ⟨"a.py", "BB", "text"⟩
    (start chain true).runs [.analyze aa, .analyze bb, .clear, .analyze bb] = [aa, bb] :=
  rfl

end SourceDigest.Analyzer
