import Mathlib.Data.List.Infix
import Mathlib.Data.List.TakeWhile
import SourceDigest.Text.Cut

/-! What is cut off a text and what is found in it. Stripping takes off all characters of a kind
at both ends and nothing else, and a text is contained where it stands in one piece. -/

namespace SourceDigest.Text

open List

variable {p : Char → Bool} {text middle part : List Char}

/-! ## Stripping -/

/-- The text is the middle with characters of a kind around it, and the middle has none of them at
its ends. -/
structure Strips (p : Char → Bool) (text middle : List Char) : Prop where
  around : ∃ front back, text = front ++ middle ++ back ∧
    (∀ c ∈ front, p c = true) ∧ ∀ c ∈ back, p c = true
  head : ∀ c ∈ middle.head?, p c = false
  last : ∀ c ∈ middle.getLast?, p c = false

theorem dropWhile_eq_self_of_head (h : ∀ c ∈ text.head?, p c = false) :
    text.dropWhile p = text := by
  cases text with
  | nil => rfl
  | cons c rest =>
    have hc : ¬ p c = true := by simp [h c rfl]
    exact dropWhile_cons_of_neg hc

theorem head_dropWhile (p : Char → Bool) (text : List Char) :
    ∀ c ∈ (text.dropWhile p).head?, p c = false := by
  intro c hc
  have hhead := head?_dropWhile_not p text
  rw [Option.mem_def.mp hc] at hhead
  simpa using hhead

theorem Strips.eq (h : Strips p text middle) : stripBy p text = middle := by
  obtain ⟨⟨front, back, rfl, hfront, hback⟩, hhead, hlast⟩ := h
  have hback' : ∀ c ∈ back.reverse, p c = true := fun c hc => hback c (mem_reverse.mp hc)
  have hlast' : ∀ c ∈ middle.reverse.head?, p c = false := by rwa [head?_reverse]
  rw [stripBy, append_assoc, dropWhile_append_of_pos hfront]
  cases middle with
  | nil =>
    rw [nil_append, dropWhile_eq_nil_iff.mpr hback]
    rfl
  | cons c rest =>
    have hstop : (c :: rest ++ back).dropWhile p = c :: rest ++ back :=
      dropWhile_eq_self_of_head hhead
    rw [hstop, reverse_append, dropWhile_append_of_pos hback', dropWhile_eq_self_of_head hlast',
      reverse_reverse]

theorem strip_eq_self (hhead : ∀ c ∈ text.head?, isBlank c = false)
    (hlast : ∀ c ∈ text.getLast?, isBlank c = false) : strip text = text :=
  Strips.eq ⟨⟨[], [], (append_nil text).symm, by simp, by simp⟩, hhead, hlast⟩

theorem strips_stripBy (p : Char → Bool) (text : List Char) : Strips p text (stripBy p text) := by
  have hmiddle : stripBy p text ++ ((text.dropWhile p).reverse.takeWhile p).reverse =
      text.dropWhile p := by
    rw [stripBy, ← reverse_append, takeWhile_append_dropWhile, reverse_reverse]
  refine ⟨⟨text.takeWhile p, ((text.dropWhile p).reverse.takeWhile p).reverse, ?_, ?_, ?_⟩, ?_, ?_⟩
  · rw [append_assoc, hmiddle, takeWhile_append_dropWhile]
  · exact fun c hc => mem_takeWhile_imp hc
  · exact fun c hc => mem_takeWhile_imp (mem_reverse.mp hc)
  · intro c hc
    apply head_dropWhile p text c
    rw [← hmiddle, head?_append, Option.mem_def.mp hc]
    rfl
  · intro c hc
    rw [stripBy, getLast?_reverse] at hc
    exact head_dropWhile p _ c hc

theorem exists_eq_stripEnd_append (p : Char → Bool) (text : List Char) :
    ∃ back, text = stripEnd p text ++ back ∧ ∀ c ∈ back, p c = true := by
  refine ⟨(text.reverse.takeWhile p).reverse, ?_, fun c hc => mem_takeWhile_imp (mem_reverse.mp hc)⟩
  rw [stripEnd, ← reverse_append, takeWhile_append_dropWhile, reverse_reverse]

theorem getLast_stripEnd (p : Char → Bool) (text : List Char) :
    ∀ c ∈ (stripEnd p text).getLast?, p c = false := by
  intro c hc
  rw [stripEnd, getLast?_reverse] at hc
  exact head_dropWhile p _ c hc

/-! ## Searching -/

theorem contains_iff_infix : contains part text = true ↔ part <:+: text := by
  induction text with
  | nil => simp [contains]
  | cons c rest ih =>
    rw [contains, Bool.or_eq_true, ih, isPrefixOf_iff_prefix, infix_cons_iff]

end SourceDigest.Text
