import SourceDigest.Proofs.Text.Words

/-! Texts cut at a character. The pieces stand in the text, and a part without the character stands
in one of them or nowhere. -/

namespace SourceDigest.Text

open List

variable {c : Char} {text part piece separator : List Char} {pieces : List (List Char)}

/-- A part that does not hold a character stands before it or after it. -/
theorem infix_append_cons_iff (hc : c ∉ part) (front back : List Char) :
    part <:+: front ++ c :: back ↔ part <:+: front ∨ part <:+: back := by
  constructor
  · intro h
    rcases infix_append_iff.mp h with hfront | hback | ⟨start, rest, rfl, hstart, hrest⟩
    · exact Or.inl hfront
    · rcases infix_cons_iff.mp hback with hhead | htail
      · cases part with
        | nil => exact Or.inl nil_infix
        | cons d part =>
          obtain ⟨rfl, -⟩ := cons_prefix_cons.mp hhead
          exact absurd mem_cons_self hc
      · exact Or.inr htail
    · cases rest with
      | nil => exact Or.inl (by simpa using hstart.isInfix)
      | cons d rest =>
        obtain ⟨rfl, -⟩ := cons_prefix_cons.mp hrest
        exact absurd (mem_append_right _ mem_cons_self) hc
  · rintro (hfront | hback)
    · exact hfront.trans (prefix_append _ _).isInfix
    · exact hback.trans ((suffix_cons c back).trans (suffix_append _ _)).isInfix

theorem split_around (c : Char) (front back : List Char) :
    split c (front ++ c :: back) = split c front ++ split c back :=
  splitOn_append_cons_self front back

theorem infix_of_mem_split (h : piece ∈ split c text) : piece <:+: text := by
  have hjoined : join [c] (split c text) = text := intercalate_splitOn c
  exact hjoined ▸ infix_join h

theorem notMem_join (hseparator : c ∉ separator) (h : ∀ piece ∈ pieces, c ∉ piece) :
    c ∉ join separator pieces := by
  induction pieces with
  | nil => exact not_mem_nil
  | cons first more ih =>
    obtain ⟨hfirst, hmore⟩ := forall_mem_cons.mp h
    rw [join_cons]
    split
    · exact hfirst
    · simp [hfirst, hseparator, ih hmore]

/-- Pieces that are joined by a character fall into their own pieces. -/
theorem split_join_eq_flatMap (c : Char) (hne : pieces ≠ []) :
    split c (join [c] pieces) = pieces.flatMap (split c) := by
  induction pieces with
  | nil => exact absurd rfl hne
  | cons first more ih =>
    rw [join_cons, flatMap_cons]
    by_cases hmore : more = []
    · simp [hmore]
    · rw [if_neg hmore, singleton_append, split_around, ih hmore]

/-- Pieces with the character after each of them are the text with one more at its end. -/
theorem flatMap_split (c : Char) (text : List Char) :
    ((split c text).flatMap fun piece => piece ++ [c]) = text ++ [c] := by
  have hjoined (pieces : List (List Char)) (hne : pieces ≠ []) :
      (pieces.flatMap fun piece => piece ++ [c]) = join [c] pieces ++ [c] := by
    induction pieces with
    | nil => exact absurd rfl hne
    | cons first more ih =>
      rw [join_cons, flatMap_cons]
      by_cases hmore : more = []
      · simp [hmore]
      · rw [if_neg hmore, ih hmore]
        simp
  exact (hjoined _ (splitOn_ne_nil c text)).trans (congrArg (· ++ [c]) (intercalate_splitOn c))

end SourceDigest.Text
