import Mathlib.Algebra.Ring.Nat
import SourceDigest.Proofs.Text.Runs

/-! Words of a text. What is left when runs of white space are squeezed and the ends are stripped
are the words of the text with one space between neighbours. -/

namespace SourceDigest.Text

open List

variable {text word rest part : List Char} {c : Char}

/-! ## Words -/

theorem words_append_blank (hc : isBlank c = true) (front back : List Char) :
    words (front ++ c :: back) = words front ++ words back :=
  pieces_append_cons hc front back

theorem words_cons_blank (hc : isBlank c = true) (text : List Char) :
    words (c :: text) = words text :=
  pieces_cons hc text

theorem words_of_solid (hne : word ≠ []) (hsolid : ∀ c ∈ word, isBlank c = false) :
    words word = [word] :=
  pieces_of_run hne hsolid

theorem words_cons_of_solid (hne : word ≠ []) (hsolid : ∀ c ∈ word, isBlank c = false)
    (hc : isBlank c = true) (rest : List Char) :
    words (word ++ c :: rest) = word :: words rest :=
  pieces_run_cons hne hsolid hc rest

theorem ne_nil_of_mem_words (h : word ∈ words text) : word ≠ [] :=
  (mem_pieces_iff.mp h).ne_nil

/-- A text is empty, or starts with white space, or is a word, or a word with white space after
it. -/
@[elab_as_elim]
theorem wordwise {motive : List Char → Prop} (nil : motive [])
    (blank : ∀ c rest, isBlank c = true → motive rest → motive (c :: rest))
    (last : ∀ word, word ≠ [] → (∀ c ∈ word, isBlank c = false) → motive word)
    (more : ∀ word c rest, word ≠ [] → (∀ c ∈ word, isBlank c = false) → isBlank c = true →
      motive rest → motive (word ++ c :: rest)) (text : List Char) : motive text :=
  piecewise isBlank nil blank last more text

/-! ## Squeezing -/

theorem squeezeFrom_eq (inBlank : Bool) (done text : List Char) :
    squeezeFrom inBlank done text = done.reverse ++ squeezeFrom inBlank [] text := by
  induction text generalizing inBlank done with
  | nil => simp [squeezeFrom]
  | cons c rest ih =>
    rw [squeezeFrom, squeezeFrom]
    split
    · rw [ih, ih true (if inBlank then [] else [' '])]
      cases inBlank <;> simp
    · rw [ih, ih false [c]]
      simp

theorem squeezeFrom_solid (inBlank : Bool) (hne : word ≠ [])
    (hsolid : ∀ c ∈ word, isBlank c = false) (rest : List Char) :
    squeezeFrom inBlank [] (word ++ rest) = word ++ squeezeFrom false [] rest := by
  induction word generalizing inBlank with
  | nil => exact absurd rfl hne
  | cons c word ih =>
    have hc : ¬isBlank c = true := by simp [hsolid c mem_cons_self]
    rw [cons_append, squeezeFrom, if_neg hc, squeezeFrom_eq]
    by_cases hword : word = []
    · subst hword
      rfl
    · rw [ih false hword fun d hd => hsolid d (mem_cons_of_mem c hd)]
      rfl

theorem squeezeFrom_blank_first (hc : isBlank c = true) (rest : List Char) :
    squeezeFrom false [] (c :: rest) = ' ' :: squeezeFrom true [] rest := by
  rw [squeezeFrom, if_pos hc, squeezeFrom_eq]
  rfl

theorem squeezeFrom_blank_more (hc : isBlank c = true) (rest : List Char) :
    squeezeFrom true [] (c :: rest) = squeezeFrom true [] rest := by
  rw [squeezeFrom, if_pos hc]
  rfl

theorem head_squeezeFrom (text : List Char) :
    ∀ c ∈ (squeezeFrom true [] text).head?, isBlank c = false := by
  induction text with
  | nil => simp [squeezeFrom]
  | cons c rest ih =>
    by_cases hc : isBlank c = true
    · rw [squeezeFrom_blank_more hc]
      exact ih
    · rw [squeezeFrom, if_neg hc, squeezeFrom_eq]
      simpa using hc

/-- Blanks at the start of a squeezed text are those that a run before the text takes up. -/
theorem dropWhile_squeeze (text : List Char) :
    (squeeze text).dropWhile isBlank = squeezeFrom true [] text := by
  cases text with
  | nil => rfl
  | cons c rest =>
    rw [squeeze]
    by_cases hc : isBlank c = true
    · rw [squeezeFrom_blank_first hc, squeezeFrom_blank_more hc]
      exact (dropWhile_cons_of_pos (by decide)).trans
        (dropWhile_eq_self_of_head (head_squeezeFrom rest))
    · have hfalse : squeezeFrom false [] (c :: rest) = squeezeFrom true [] (c :: rest) := by
        rw [squeezeFrom, squeezeFrom, if_neg hc, if_neg hc]
      rw [hfalse]
      exact dropWhile_eq_self_of_head (head_squeezeFrom (c :: rest))

/-! ## Stripping -/

theorem stripEnd_solid (hsolid : ∀ c ∈ word, isBlank c = false) : stripEnd isBlank word = word := by
  have hlast : ∀ c ∈ word.reverse.head?, isBlank c = false := by
    intro c hc
    rw [head?_reverse] at hc
    exact hsolid c (mem_of_getLast? hc)
  rw [stripEnd, dropWhile_eq_self_of_head hlast, reverse_reverse]

theorem stripEnd_append_blank (hsolid : ∀ c ∈ word, isBlank c = false) (hc : isBlank c = true)
    (rest : List Char) :
    stripEnd isBlank (word ++ c :: rest) =
      if stripEnd isBlank rest = [] then word else word ++ c :: stripEnd isBlank rest := by
  have hword := stripEnd_solid hsolid
  rw [stripEnd] at hword
  rw [stripEnd, stripEnd, reverse_append, reverse_cons, append_assoc, dropWhile_append]
  by_cases hrest : rest.reverse.dropWhile isBlank = []
  · rw [hrest, if_pos isEmpty_nil, if_pos reverse_nil, singleton_append, dropWhile_cons_of_pos hc,
      hword]
  · rw [if_neg (by simpa using hrest), if_neg (by simpa using hrest)]
    simp

theorem join_cons (separator piece : List Char) (more : List (List Char)) :
    join separator (piece :: more) =
      if more = [] then piece else piece ++ (separator ++ join separator more) := by
  cases more with
  | nil => simp [join]
  | cons next more => simp [join, intercalate_cons_cons]

theorem join_words_eq_nil_iff : join [' '] (words text) = [] ↔ words text = [] := by
  cases hwords : words text with
  | nil => simp [join]
  | cons word more =>
    have hne : word ≠ [] := ne_nil_of_mem_words (hwords ▸ mem_cons_self)
    rw [join_cons]
    split <;> simp [hne]

theorem stripEnd_squeezeFrom (text : List Char) :
    stripEnd isBlank (squeezeFrom true [] text) = join [' '] (words text) := by
  induction text using wordwise with
  | nil => rfl
  | blank c rest hc ih => rw [squeezeFrom_blank_more hc, words_cons_blank hc, ih]
  | last word hne hsolid =>
    have hsqueeze := squeezeFrom_solid true hne hsolid []
    rw [append_nil] at hsqueeze
    have hend : squeezeFrom false [] [] = [] := rfl
    rw [hsqueeze, hend, append_nil, words_of_solid hne hsolid, join_cons, if_pos rfl]
    exact stripEnd_solid hsolid
  | more word c rest hne hsolid hc ih =>
    have hblank : isBlank ' ' = true := by decide
    rw [squeezeFrom_solid true hne hsolid, squeezeFrom_blank_first hc,
      stripEnd_append_blank hsolid hblank, ih, words_cons_of_solid hne hsolid hc, join_cons]
    simp only [join_words_eq_nil_iff, singleton_append]

/-- A text that is squeezed and stripped is its words with one space between neighbours. -/
theorem strip_squeeze (text : List Char) : strip (squeeze text) = join [' '] (words text) := by
  rw [strip, stripBy, dropWhile_squeeze]
  exact stripEnd_squeezeFrom text

/-! ## Length -/

/-- The room that the words of a text take, each with one space after it. -/
def extent (text : List Char) : Nat :=
  ((words text).map fun word => word.length + 1).sum

theorem extent_append_blank (hc : isBlank c = true) (front back : List Char) :
    extent (front ++ c :: back) = extent front + extent back := by
  rw [extent, words_append_blank hc, map_append, sum_append]
  rfl

theorem extent_join (hc : isBlank c = true) (pieces : List (List Char)) :
    extent (join [c] pieces) = (pieces.map extent).sum := by
  induction pieces with
  | nil => rfl
  | cons piece more ih =>
    rw [join_cons, map_cons, sum_cons]
    by_cases hmore : more = []
    · subst hmore
      rfl
    · rw [if_neg hmore, singleton_append, extent_append_blank hc, ih]

theorem extent_cons_blank (hc : isBlank c = true) (text : List Char) :
    extent (c :: text) = extent text := by
  rw [extent, words_cons_blank hc, extent]

theorem extent_of_solid (hne : word ≠ []) (hsolid : ∀ c ∈ word, isBlank c = false) :
    extent word = word.length + 1 := by
  rw [extent, words_of_solid hne hsolid, map_singleton, sum_singleton]

theorem extent_cons_of_solid (hne : word ≠ []) (hsolid : ∀ c ∈ word, isBlank c = false)
    (hc : isBlank c = true) (rest : List Char) :
    extent (word ++ c :: rest) = word.length + 1 + extent rest := by
  rw [extent_append_blank hc, extent_of_solid hne hsolid]

/-- A character in front of a text makes its first word longer, or is a word of its own, or
white space. -/
theorem extent_le_cons (c : Char) (text : List Char) : extent text ≤ extent (c :: text) := by
  by_cases hc : isBlank c = true
  · exact (extent_cons_blank hc text).ge
  have hsolid_cons {word : List Char} (hsolid : ∀ d ∈ word, isBlank d = false) :
      ∀ d ∈ c :: word, isBlank d = false :=
    forall_mem_cons.mpr ⟨by simpa using hc, hsolid⟩
  induction text using wordwise with
  | nil => exact Nat.zero_le _
  | blank d rest hd =>
    have halone := extent_cons_of_solid (cons_ne_nil c []) (hsolid_cons (by simp)) hd rest
    rw [singleton_append] at halone
    rw [extent_cons_blank hd]
    omega
  | last word hne hsolid =>
    rw [extent_of_solid hne hsolid, extent_of_solid (cons_ne_nil c word) (hsolid_cons hsolid),
      length_cons]
    omega
  | more word d rest hne hsolid hd =>
    rw [← cons_append, extent_cons_of_solid hne hsolid hd,
      extent_cons_of_solid (cons_ne_nil c word) (hsolid_cons hsolid) hd, length_cons]
    omega

theorem extent_le_concat (text : List Char) (c : Char) : extent text ≤ extent (text ++ [c]) := by
  induction text using wordwise with
  | nil => exact Nat.zero_le _
  | blank d rest hd ih =>
    rw [cons_append, extent_cons_blank hd, extent_cons_blank hd]
    exact ih
  | last word hne hsolid =>
    by_cases hc : isBlank c = true
    · rw [extent_append_blank hc]
      exact Nat.le_add_right _ _
    · have hlonger : ∀ d ∈ word ++ [c], isBlank d = false :=
        forall_mem_append.mpr ⟨hsolid, by simpa using hc⟩
      rw [extent_of_solid hne hsolid, extent_of_solid (by simp) hlonger, length_append]
      omega
  | more word d rest hne hsolid hd ih =>
    rw [append_assoc, cons_append, extent_cons_of_solid hne hsolid hd,
      extent_cons_of_solid hne hsolid hd]
    omega

/-- The words of a text take no less room in a longer text. -/
theorem extent_le_of_isInfix (h : part <:+: text) : extent part ≤ extent text := by
  obtain ⟨front, back, rfl⟩ := h
  have hfront : ∀ text, extent text ≤ extent (front ++ text) := by
    intro text
    induction front with
    | nil => exact le_rfl
    | cons c front ih => exact ih.trans (extent_le_cons c _)
  have hback : ∀ text, extent text ≤ extent (text ++ back) := by
    intro text
    induction back generalizing text with
    | nil => rw [append_nil]
    | cons c back ih =>
      rw [append_cons]
      exact (extent_le_concat text c).trans (ih _)
  exact (hfront part).trans (hback _)

theorem length_join (pieces : List (List Char)) :
    (join [' '] pieces).length = (pieces.map fun piece => piece.length + 1).sum - 1 := by
  induction pieces with
  | nil => rfl
  | cons piece more ih =>
    rw [join_cons, map_cons, sum_cons]
    by_cases hmore : more = []
    · subst hmore
      rfl
    · obtain ⟨next, after, rfl⟩ := exists_cons_of_ne_nil hmore
      rw [if_neg hmore, length_append, singleton_append, length_cons, ih, map_cons, sum_cons]
      omega

/-! ## Pieces -/

theorem infix_join {separator piece : List Char} {pieces : List (List Char)}
    (h : piece ∈ pieces) : piece <:+: join separator pieces := by
  induction pieces with
  | nil => cases h
  | cons first more ih =>
    rw [join_cons]
    rcases mem_cons.mp h with rfl | hmore
    · split
      · exact infix_rfl
      · exact (prefix_append _ _).isInfix
    · rw [if_neg (ne_nil_of_mem hmore)]
      exact (ih hmore).trans ((suffix_append _ _).trans (suffix_append _ _)).isInfix

end SourceDigest.Text
