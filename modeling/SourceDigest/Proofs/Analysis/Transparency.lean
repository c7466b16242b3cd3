import Mathlib.Data.List.Find
import SourceDigest.Proofs.Analysis.Requests

/-! When a memo cannot be told from none. Where the contents of each path have different hashes, an
answer is the one for the same path and content in the language in which they were first analyzed
since the memo was cleared. The language is not part of a key, so that a file analyzed again in
another language still has the metrics of the first one. -/

namespace SourceDigest.Analyzer

open List

/-- No two contents of one path have the same hash. -/
def HashesApart (versions : List Version) : Prop :=
  ∀ u ∈ versions, ∀ w ∈ versions, u.path = w.path →
    rollingHash u.content = rollingHash w.content → u.content = w.content

instance (versions : List Version) : Decidable (HashesApart versions) :=
  inferInstanceAs (Decidable (∀ u ∈ versions, ∀ w ∈ versions, u.path = w.path →
    rollingHash u.content = rollingHash w.content → u.content = w.content))

/-- The first of some versions with the path and the content of a version, or that version where
there is none. -/
def original (versions : List Version) (v : Version) : Version :=
  (versions.find? fun u => decide (u.path = v.path ∧ u.content = v.content)).getD v

/-! ## Versions under one key -/

theorem key_eq_iff {u v : Version} :
    u.key = v.key ↔ u.path = v.path ∧ rollingHash u.content = rollingHash v.content :=
  Prod.ext_iff

/-- Where hashes are apart a key stands for one path and one content. -/
theorem HashesApart.key_eq_iff {versions : List Version} (h : HashesApart versions) {u v : Version}
    (hu : u ∈ versions) (hv : v ∈ versions) :
    u.key = v.key ↔ u.path = v.path ∧ u.content = v.content := by
  rw [Analyzer.key_eq_iff]
  constructor
  · rintro ⟨hpath, hhash⟩
    exact ⟨hpath, h u hu v hv hpath hhash⟩
  · rintro ⟨hpath, hcontent⟩
    exact ⟨hpath, congrArg rollingHash hcontent⟩

theorem HashesApart.firstWith_eq {versions : List Version} {v : Version}
    (h : HashesApart (versions ++ [v])) :
    firstWith v.key (versions ++ [v]) = some (original versions v) := by
  have hfind : firstWith v.key versions =
      versions.find? fun u => decide (u.path = v.path ∧ u.content = v.content) := by
    apply find?_congr
    intro u hu
    exact decide_eq_decide.mpr (h.key_eq_iff (mem_append_left _ hu) (by simp))
  rw [firstWith_concat, hfind, if_pos rfl, original]
  cases versions.find? fun u => decide (u.path = v.path ∧ u.content = v.content) <;> rfl

theorem mem_analyzed_of_mem_sinceClear {requests : List Request} {v : Version}
    (h : v ∈ sinceClear requests) : v ∈ analyzed requests := by
  induction requests using List.reverseRecOn with
  | nil => exact h
  | append_singleton requests request ih =>
    rw [analyzed_concat, mem_append]
    rw [sinceClear_concat] at h
    cases request with
    | analyze u =>
      rcases mem_append.mp h with h | h
      · exact Or.inl (ih h)
      · exact Or.inr h
    | clear => exact absurd h not_mem_nil

theorem HashesApart.sinceClear {requests : List Request} {v : Version}
    (h : HashesApart (analyzed requests ++ [v])) : HashesApart (sinceClear requests ++ [v]) := by
  have hmem : ∀ u ∈ Analyzer.sinceClear requests ++ [v], u ∈ analyzed requests ++ [v] := by
    intro u hu
    rw [mem_append] at hu ⊢
    exact hu.imp_left mem_analyzed_of_mem_sinceClear
  intro u hu w hw
  exact h u (hmem u hu) w (hmem w hw)

/-! ## Answers -/

variable {α : Type} [Scalar α]

theorem original_mem_or_eq (versions : List Version) (v : Version) :
    original versions v = v ∨
      original versions v ∈ versions ∧ (original versions v).path = v.path ∧
        (original versions v).content = v.content := by
  unfold original
  cases h : versions.find? fun u => decide (u.path = v.path ∧ u.content = v.content) with
  | none => exact Or.inl rfl
  | some u => exact Or.inr ⟨mem_of_find?_eq_some h, by simpa using find?_some h⟩

/-- The metrics of a version depend on its language through the chain alone. -/
theorem plain_eq_of_chain_eq {chain : String → List (Strategy α)} {u v : Version}
    (hpath : u.path = v.path) (hcontent : u.content = v.content)
    (hchain : chain u.language = chain v.language) : plain chain u = plain chain v := by
  rw [plain, plain, hpath, hcontent, hchain]

/-- Where the contents of each path have different hashes, a memo answers as no memo does for the
first version with the same path and content since it was cleared. That is the answer for the
version itself where those versions have its chain. -/
theorem answer_eq_answer_original (chain : String → List (Strategy α)) {requests : List Request}
    {v : Version} (h : HashesApart (analyzed requests ++ [v])) :
    ((start chain true).after requests).answer v =
        ((start chain false).after requests).answer (original (sinceClear requests) v) ∧
      ((∀ u ∈ sinceClear requests, u.path = v.path → u.content = v.content →
          chain u.language = chain v.language) →
        ((start chain true).after requests).answer v =
          ((start chain false).after requests).answer v) := by
  have hdisabled : ∀ u, ((start chain false).after requests).answer u = plain chain u := by
    intro u
    rw [after_disabled]
    exact (analyze_disabled Bool.false_ne_true).1
  obtain ⟨first, hfirst, hanswer⟩ := ((after_remembers chain requests).analyze v).1
  rw [h.sinceClear.firstWith_eq] at hfirst
  obtain rfl := Option.some.inj hfirst
  refine ⟨by rw [hanswer, hdisabled], fun hchain => ?_⟩
  rw [hanswer, hdisabled]
  rcases original_mem_or_eq (sinceClear requests) v with heq | ⟨hmem, hpath, hcontent⟩
  · rw [heq]
  · exact plain_eq_of_chain_eq hpath hcontent (hchain _ hmem hpath hcontent)

/-- A script, a later state of it, and the first state again under another tag with its chain. -/
theorem answer_eq_answer_original_script :
    let typed : Version := ⟨"a.js", "import './b'\n", "javascript"⟩
    let edited : Version := ⟨"a.js", "import './c'\n", "javascript"⟩
    let again : Version := ⟨"a.js", "import './b'\n", "jsx"⟩
    let requests : List Request := [.analyze typed, .analyze edited]
    let chain : String → List (Strategy Rat) := Strategy.chainFor none
    HashesApart (analyzed requests ++ [again]) ∧
      ((start chain true).after requests).answer again =
        ((start chain false).after requests).answer typed ∧
      ((start chain true).after requests).answer again =
        ((start chain false).after requests).answer again := by
  intro typed edited again requests chain
  have happart : HashesApart (analyzed requests ++ [again]) := by decide
  obtain ⟨hfirst, hsame⟩ := answer_eq_answer_original chain happart
  refine ⟨happart, hfirst, hsame ?_⟩
  intro u hu _ _
  rcases mem_cons.mp (show u ∈ [typed, edited] from hu) with rfl | hu
  · rfl
  · rw [mem_singleton.mp hu]
    rfl

/-- A Python file that is analyzed again as a text keeps the metrics of Python lines, although the
only content of its path has one hash. -/
theorem answer_ne_answer_disabled :
    let python : Version := ⟨"a.py", "import os\n", "python"⟩
    let text : Version := ⟨"a.py", "import os\n", "text"⟩
    HashesApart (analyzed [.analyze python] ++ [text]) ∧
      ((start (Strategy.chainFor none) true).after [.analyze python]).answer text ≠
        (((start (Strategy.chainFor none) false).after [.analyze python]).answer text :
          Metrics Rat) := by
  refine ⟨by decide, ?_⟩
  intro h
  have hstrategy : "regex:python" = "regex:generic" := congrArg Metrics.strategy h
  exact absurd hstrategy (by decide)

end SourceDigest.Analyzer
