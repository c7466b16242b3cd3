import SourceDigest.Proofs.Digest.Budget
import SourceDigest.Proofs.Digest.Fences
import SourceDigest.Proofs.Number.Numerals

/-! The content of a file in its section. No line of the content begins with the fence, so the
first line after the opening one that does is the closing one, and a reader who knows nothing but
the lines of the section finds the content between them. -/

namespace SourceDigest.Digest

open List

variable {withMetadata : Bool} {f : RankedFile Float} {content text : List Char}

/-- A content with a line feed at its end. -/
def ended (content : List Char) : List Char :=
  if content.getLast? = some '\n' then content else content ++ ['\n']

/-- The lines of a content, each of them ended by a line feed. -/
def contentLines (content : List Char) : List (List Char) :=
  (Text.split '\n' (ended content)).dropLast

/-- The lines of a section before its fence: the heading, and metadata if it is asked for, with an
empty line after both. -/
def headLines (withMetadata : Bool) (f : RankedFile Float) : List (List Char) :=
  ("### " ++ f.path).toList :: [] ::
    if withMetadata then Text.split '\n' (metadata f).toList ++ [[]] else []

/-- The line that opens the fence. It names the language of anything but plain text. -/
def openingLine (f : RankedFile Float) : List Char :=
  fenceFor f.content.toList ++ if f.language = "text" then [] else f.language.toList

/-- What a reader takes for the first block in some lines. The first line that begins with three
marks opens it, with all marks at its start as the fence, and the first line after it that begins
with the fence closes it. -/
def firstBlock (lines : List (List Char)) : List (List Char) :=
  match lines.dropWhile fun line => ¬Tokens.fence <+: line with
  | [] => []
  | opening :: after => after.takeWhile fun line => ¬opening.takeWhile (· == fenceMark) <+: line

/-! ## Lines of the content -/

theorem exists_ended (content : List Char) :
    ∃ text, ended content = text ++ ['\n'] ∧ text <+: content := by
  unfold ended
  split
  · rename_i h
    obtain ⟨text, rfl⟩ := getLast?_eq_some_iff.mp h
    exact ⟨text, rfl, prefix_append _ _⟩
  · exact ⟨content, rfl, prefix_rfl⟩

theorem contentLines_eq (h : ended content = text ++ ['\n']) :
    contentLines content = Text.split '\n' text := by
  rw [contentLines, h, Text.split_around]
  exact dropLast_concat

theorem flatMap_contentLines (content : List Char) :
    ((contentLines content).flatMap fun line => line ++ ['\n']) = ended content := by
  obtain ⟨text, hended, -⟩ := exists_ended content
  rw [contentLines_eq hended, Text.flatMap_split, hended]

theorem infix_of_mem_contentLines {line : List Char} (h : line ∈ contentLines content) :
    line <:+: content := by
  obtain ⟨text, hended, hprefix⟩ := exists_ended content
  rw [contentLines_eq hended] at h
  exact (Text.infix_of_mem_split h).trans hprefix.isInfix

theorem not_fenceFor_prefix {line : List Char} (h : line ∈ contentLines content) :
    ¬fenceFor content <+: line :=
  fun hfence => not_infix_fenceFor content (hfence.isInfix.trans (infix_of_mem_contentLines h))

/-! ## Lines of a section -/

theorem toList_fenced (f : RankedFile Float) : (fenced f).toList =
    openingLine f ++ '\n' :: (ended f.content.toList ++ fenceFor f.content.toList) := by
  have hfeed : "\n".toList = ['\n'] := rfl
  simp only [fenced, openingLine, ended]
  split <;> split <;> simp [hfeed]

theorem newline_notMem_fenceFor (content : List Char) : '\n' ∉ fenceFor content := by
  intro h
  exact absurd (eq_of_mem_replicate h) (by decide)

theorem newline_notMem_openingLine (h : '\n' ∉ f.language.toList) : '\n' ∉ openingLine f := by
  rw [openingLine, mem_append]
  rintro (hfence | hlanguage)
  · exact newline_notMem_fenceFor _ hfence
  · split at hlanguage
    · exact not_mem_nil hlanguage
    · exact h hlanguage

theorem split_fenced (h : '\n' ∉ f.language.toList) : Text.split '\n' (fenced f).toList =
    openingLine f :: (contentLines f.content.toList ++ [fenceFor f.content.toList]) := by
  obtain ⟨text, hended, -⟩ := exists_ended f.content.toList
  have hopening : Text.split '\n' (openingLine f) = [openingLine f] :=
    splitOn_eq_singleton (newline_notMem_openingLine h)
  have hclosing : Text.split '\n' (fenceFor f.content.toList) = [fenceFor f.content.toList] :=
    splitOn_eq_singleton (newline_notMem_fenceFor _)
  have hbody : ended f.content.toList ++ fenceFor f.content.toList =
      text ++ '\n' :: fenceFor f.content.toList := by
    rw [hended, append_assoc, singleton_append]
  rw [toList_fenced, Text.split_around, hopening, hbody, Text.split_around, hclosing,
    contentLines_eq hended, singleton_append]

theorem split_fileSection (withMetadata : Bool) (hpath : '\n' ∉ f.path.toList)
    (hlanguage : '\n' ∉ f.language.toList) :
    Text.split '\n' (fileSection withMetadata f).toList = headLines withMetadata f ++
      openingLine f :: (contentLines f.content.toList ++ [fenceFor f.content.toList, []]) := by
  have hheading : Text.split '\n' ("### " ++ f.path).toList = [("### " ++ f.path).toList] := by
    apply splitOn_eq_singleton
    rw [String.toList_append, mem_append]
    rintro (hmark | hname)
    · exact absurd hmark (by decide)
    · exact hpath hname
  have hempty : Text.split '\n' "".toList = [[]] := rfl
  have hjoined : (fileSection withMetadata f).toList = Text.join ['\n']
      ((["### " ++ f.path, ""] ++ (if withMetadata then [metadata f, ""] else []) ++
        [fenced f, ""]).map String.toList) :=
    String.toList_intercalate
  rw [hjoined, Text.split_join_eq_flatMap '\n' (by simp)]
  cases withMetadata <;>
    simp only [headLines, Bool.false_eq_true, if_true, if_false, map_cons, map_nil, flatMap_cons,
      flatMap_nil, hheading, hempty, split_fenced hlanguage, append_assoc, cons_append, nil_append,
      append_nil]

/-! ## Reading a section -/

theorem fence_prefix_openingLine (f : RankedFile Float) : Tokens.fence <+: openingLine f :=
  (fence_prefix_fenceFor _).trans (prefix_append _ _)

/-- All marks at the start of the opening line are the fence's. -/
theorem takeWhile_openingLine (h : fenceMark ∉ f.language.toList) :
    (openingLine f).takeWhile (· == fenceMark) = fenceFor f.content.toList := by
  have hmarks : ∀ c ∈ fenceFor f.content.toList, (c == fenceMark) = true := by
    intro c hc
    exact beq_iff_eq.mpr (eq_of_mem_replicate hc)
  have hlanguage : (f.language.toList.takeWhile (· == fenceMark)) = [] := by
    cases hchars : f.language.toList with
    | nil => rfl
    | cons c rest =>
      have hc : c ≠ fenceMark := by
        rintro rfl
        exact h (hchars ▸ mem_cons_self)
      exact takeWhile_cons_of_neg (by simpa using hc)
  rw [openingLine, takeWhile_append_of_pos hmarks]
  split
  · exact append_nil _
  · rw [hlanguage, append_nil]

theorem mark_notMem_of_numerals {text : List Char} (h : Numerals text) : fenceMark ∉ text :=
  fun hmark => absurd (h fenceMark hmark) (by decide)

theorem mark_notMem_metadata (hlanguage : fenceMark ∉ f.language.toList)
    (hframeworks : ∀ m ∈ f.metrics, ∀ framework ∈ m.frameworks, fenceMark ∉ framework.toList) :
    fenceMark ∉ (metadata f).toList := by
  have hcount (n : Int) := mark_notMem_of_numerals (numerals_intText n)
  have himportance := mark_notMem_of_numerals (Number.numerals_fixed 2 f.importance)
  have hcomplexity (x : Float) := mark_notMem_of_numerals (Number.numerals_general x)
  unfold metadata
  split
  · simp +decide [hlanguage, hcount, himportance]
  · rename_i m hm
    have hnames : fenceMark ∉ [',', ' '].intercalate (m.frameworks.map String.toList) := by
      refine Text.notMem_join (by decide) fun piece hpiece => ?_
      obtain ⟨framework, hframework, rfl⟩ := mem_map.mp hpiece
      exact hframeworks m hm framework hframework
    dsimp only
    split
    · simp +decide [hlanguage, hcount, himportance, hcomplexity]
    · simp +decide [hlanguage, hcount, himportance, hcomplexity, hnames]

theorem not_fence_prefix_headLines (hlanguage : fenceMark ∉ f.language.toList)
    (hframeworks : withMetadata = true →
      ∀ m ∈ f.metrics, ∀ framework ∈ m.frameworks, fenceMark ∉ framework.toList) :
    ∀ line ∈ headLines withMetadata f, ¬Tokens.fence <+: line := by
  have hempty : ¬Tokens.fence <+: [] := by decide
  refine forall_mem_cons.mpr ⟨?_, forall_mem_cons.mpr ⟨hempty, ?_⟩⟩
  · rw [String.toList_append]
    exact fun h => absurd (cons_prefix_cons.mp h).1 (by decide)
  · cases withMetadata with
    | false => exact fun line hline => absurd hline not_mem_nil
    | true =>
      refine forall_mem_append.mpr ⟨fun line hline hfence => ?_, forall_mem_singleton.mpr hempty⟩
      have hpart := hfence.isInfix.trans (Text.infix_of_mem_split hline)
      exact mark_notMem_metadata hlanguage (hframeworks rfl) (hpart.subset mem_cons_self)

theorem firstBlock_append {head after : List (List Char)} {opening : List Char}
    (hhead : ∀ line ∈ head, ¬Tokens.fence <+: line) (hopening : Tokens.fence <+: opening) :
    firstBlock (head ++ opening :: after) =
      after.takeWhile fun line => ¬opening.takeWhile (· == fenceMark) <+: line := by
  have hskip : (head ++ opening :: after).dropWhile (fun line => ¬Tokens.fence <+: line) =
      opening :: after := by
    rw [dropWhile_append_of_pos (by simpa using hhead),
      dropWhile_cons_of_neg (by simpa using hopening)]
  rw [firstBlock, hskip]

/-- Lines are taken up to the first one with a prefix. -/
theorem takeWhile_before_prefix {start : List Char} {before after : List (List Char)}
    (h : ∀ line ∈ before, ¬start <+: line) :
    (before ++ start :: after).takeWhile (fun line => ¬start <+: line) = before := by
  rw [takeWhile_append_of_pos (by simpa using h), takeWhile_cons_of_neg (by simp), append_nil]

/-- How a section holds its content. The search for a fence ends with the shortest run of three
marks or more that the content does not hold. After the opening line stand the lines of the content,
none of which begins with the fence, and then the fence that closes them; they are the content,
with a line feed at its end. That is what a reader of the section finds, if no marks stand in the
names of frameworks that metadata shows. -/
structure EnclosedContent (withMetadata : Bool) (f : RankedFile Float) : Prop where
  search : Search f.content.toList Tokens.fence (fenceFor f.content.toList)
  shortest : ∃ n, fenceFor f.content.toList = marks n ∧
    IsLeast {n | 3 ≤ n ∧ ¬marks n <:+: f.content.toList} n
  lines : Text.split '\n' (fileSection withMetadata f).toList = headLines withMetadata f ++
    openingLine f :: (contentLines f.content.toList ++ [fenceFor f.content.toList, []])
  opening : (openingLine f).takeWhile (· == fenceMark) = fenceFor f.content.toList
  apart : ∀ line ∈ contentLines f.content.toList, ¬fenceFor f.content.toList <+: line
  content : ((contentLines f.content.toList).flatMap fun line => line ++ ['\n']) =
    ended f.content.toList
  read : (withMetadata = true →
      ∀ m ∈ f.metrics, ∀ framework ∈ m.frameworks, fenceMark ∉ framework.toList) →
    firstBlock (Text.split '\n' (fileSection withMetadata f).toList) =
      contentLines f.content.toList

theorem fileSection_encloses (withMetadata : Bool) (hpath : '\n' ∉ f.path.toList)
    (hline : '\n' ∉ f.language.toList) (hmark : fenceMark ∉ f.language.toList) :
    EnclosedContent withMetadata f where
  search := search_fence _
  shortest := ⟨_, rfl, isLeast_fenceLength _⟩
  lines := split_fileSection withMetadata hpath hline
  opening := takeWhile_openingLine hmark
  apart _ := not_fenceFor_prefix
  content := flatMap_contentLines _
  read hframeworks := by
    rw [split_fileSection withMetadata hpath hline,
      firstBlock_append (not_fence_prefix_headLines hmark hframeworks) (fence_prefix_openingLine f),
      takeWhile_openingLine hmark]
    exact takeWhile_before_prefix fun line => not_fenceFor_prefix

/-- A note with a block of its own, which ends without a line feed. -/
def noteWithBlock : RankedFile Float :=
  ⟨"doc.md", "Run:\n```js\nx()\n```", "markdown", 19, 1.0, 1.0, none, none⟩

theorem fileSection_encloses_note :
    '\n' ∉ noteWithBlock.path.toList ∧ '\n' ∉ noteWithBlock.language.toList ∧
      fenceMark ∉ noteWithBlock.language.toList ∧
      openingLine noteWithBlock = "````markdown".toList ∧
      firstBlock (Text.split '\n' (fileSection true noteWithBlock).toList) =
        ["Run:".toList, "```js".toList, "x()".toList, "```".toList] := by
  have hpath : '\n' ∉ noteWithBlock.path.toList := by decide
  have hline : '\n' ∉ noteWithBlock.language.toList := by decide
  have hmark : fenceMark ∉ noteWithBlock.language.toList := by decide
  refine ⟨hpath, hline, hmark, by decide, ?_⟩
  rw [(fileSection_encloses true hpath hline hmark).read (by simp [noteWithBlock])]
  decide

end SourceDigest.Digest
