import SourceDigest.Analysis.Surface
import SourceDigest.Proofs.Text.WholeWords
import SourceDigest.Score.Heuristic

/-! Keywords of a text. The complexity of Python lines is counted in one scan for each keyword, the
keywords of the heuristic score in one scan for all of them; both come to the number of words of the
text that are keywords. -/

namespace SourceDigest

open List Matcher

def Text.wordsAmong (keywords : List String) (content : String) : Nat :=
  (wholeWords content.toList).countP fun word => String.ofList word ∈ keywords

theorem Text.wordsAmong_cons {keyword : String} {more : List String} (h : keyword ∉ more)
    (content : String) :
    wordsAmong (keyword :: more) content =
      wordsAmong [keyword] content + wordsAmong more content := by
  unfold wordsAmong
  induction wholeWords content.toList with
  | nil => rfl
  | cons word words ih =>
    simp only [countP_cons, ih]
    by_cases hkeyword : String.ofList word = keyword
    · simp [hkeyword, h]
      omega
    · simp [hkeyword]
      omega

namespace Surface

variable {keywords : List String}

theorem findsWords_word {keyword : String} (h : Text.IsWhole keyword.toList) :
    FindsWords (word keyword) [keyword] :=
  findsWords_of_spells (by simpa using h) (spells_lit keyword)

theorem countAll_words (hwhole : ∀ keyword ∈ keywords, Text.IsWhole keyword.toList)
    (hnodup : keywords.Nodup) (content : String) :
    countAll (keywords.map word) content.toList = Text.wordsAmong keywords content := by
  induction keywords with
  | nil => simp [countAll, Text.wordsAmong]
  | cons keyword more ih =>
    obtain ⟨hkeyword, hmore⟩ := forall_mem_cons.mp hwhole
    obtain ⟨hnew, hnodup⟩ := nodup_cons.mp hnodup
    have hcount : (word keyword).count content.toList = Text.wordsAmong [keyword] content :=
      (findsWords_word hkeyword).count_eq content.toList
    rw [Text.wordsAmong_cons hnew, ← ih hmore hnodup, ← hcount]
    rfl

end Surface

/-- Keywords count where they stand as whole words: for the complexity of Python lines, and for the
heuristic score. -/
theorem keywords_countWords (content : String) :
    (∀ (α : Type) [Scalar α] (m : Metrics α),
      (Surface.Python.analyze content m).complexity = m.complexity + Scalar.ofInt
        (Text.wordsAmong ["if", "elif", "else", "for", "while", "try", "except", "and", "or"]
          content)) ∧
    ∀ (α : Type) [Scalar α] (path : String) (prioritized : List String),
      (Score.heuristic path content prioritized : α) =
        Scalar.most (Score.nameAndSize path content.toList.length prioritized + Scalar.least
          (Scalar.ofNat (Text.wordsAmong
            ["class", "function", "def", "interface", "type", "export", "import"] content) / 10.0)
          3.0) 0.0 := by
  constructor
  · intro α _ m
    have hwhole : ∀ keyword ∈ Surface.Python.keywords, Text.IsWhole keyword.toList := by decide
    have hcount := Surface.countAll_words hwhole (by decide) content
    exact congrArg (fun n : Nat => m.complexity + Scalar.ofInt n) hcount
  · intro α _ path prioritized
    have hwhole : ∀ keyword ∈ Score.keywords, Text.IsWhole keyword.toList := by decide
    have hcount := (findsWords_of_spells hwhole (spells_oneOf _)).count_eq content.toList
    rw [Score.heuristic, Score.keywordTerm, Score.keyword, hcount]
    rfl

/-- Underscores and letters make another word of a keyword, points and brackets do not. -/
example : Text.wordsAmong ["if", "or"] "if(x.or)elif if_y for or1\nif" = 3 := by decide

end SourceDigest
