import SourceDigest.Proofs.Text.Cutting

/-! Pieces of a text between characters of a kind. They are the maximal runs of other characters,
in the order in which they stand in the text. -/

namespace SourceDigest.Text

open List

variable {p : Char → Bool} {text run rest : List Char} {c : Char}

/-- The pieces of a text between characters of a kind, none of them empty. -/
def pieces (p : Char → Bool) (text : List Char) : List (List Char) :=
  (text.splitOnP p).filter fun piece => !piece.isEmpty

theorem pieces_append_cons (hc : p c = true) (front back : List Char) :
    pieces p (front ++ c :: back) = pieces p front ++ pieces p back := by
  unfold pieces
  rw [splitOnP_append_cons front back hc, filter_append]

theorem pieces_cons (hc : p c = true) (text : List Char) : pieces p (c :: text) = pieces p text :=
  pieces_append_cons hc [] text

theorem pieces_of_run (hne : run ≠ []) (hrun : ∀ c ∈ run, p c = false) : pieces p run = [run] := by
  rw [pieces, splitOnP_eq_singleton hrun]
  simp [hne]

theorem pieces_run_cons (hne : run ≠ []) (hrun : ∀ c ∈ run, p c = false) (hc : p c = true)
    (rest : List Char) : pieces p (run ++ c :: rest) = run :: pieces p rest := by
  rw [pieces_append_cons hc, pieces_of_run hne hrun]
  rfl

/-- A text is empty, or starts with a separator, or is a run of other characters, or is such a run
with a separator after it. -/
@[elab_as_elim]
theorem piecewise {motive : List Char → Prop} (p : Char → Bool) (nil : motive [])
    (separator : ∀ c rest, p c = true → motive rest → motive (c :: rest))
    (last : ∀ run, run ≠ [] → (∀ c ∈ run, p c = false) → motive run)
    (more : ∀ run c rest, run ≠ [] → (∀ c ∈ run, p c = false) → p c = true → motive rest →
      motive (run ++ c :: rest)) (text : List Char) : motive text := by
  -- By length, since what follows a run may be any number of characters shorter.
  induction hlength : text.length using Nat.strongRecOn generalizing text with
  | ind length ih =>
    cases text with
    | nil => exact nil
    | cons c rest =>
      by_cases hc : p c = true
      · exact separator c rest hc (ih rest.length (by simp [← hlength]) rest rfl)
      · let q : Char → Bool := fun c => !p c
        have hrun : ∀ d ∈ (c :: rest).takeWhile q, p d = false := fun d hd => by
          simpa [q] using mem_takeWhile_imp hd
        have hne : (c :: rest).takeWhile q ≠ [] := by simp [q, hc]
        have hsplit : (c :: rest).takeWhile q ++ (c :: rest).dropWhile q = c :: rest :=
          takeWhile_append_dropWhile
        cases hrest : (c :: rest).dropWhile q with
        | nil =>
          rw [hrest, append_nil] at hsplit
          rw [← hsplit]
          exact last _ hne hrun
        | cons d after =>
          have hd : p d = true := by
            simpa [q] using head_dropWhile q (c :: rest) d (by rw [hrest]; rfl)
          rw [hrest] at hsplit
          rw [← hsplit]
          refine more _ d after hne hrun hd (ih after.length ?_ after rfl)
          rw [← hlength, ← hsplit, length_append, length_cons]
          omega

/-- A run of a text that separators or the ends of the text stand around. -/
structure MaximalRun (p : Char → Bool) (text run : List Char) : Prop where
  ne_nil : run ≠ []
  solid : ∀ c ∈ run, p c = false
  around : ∃ front back, text = front ++ run ++ back ∧
    (∀ c ∈ front.getLast?, p c = true) ∧ ∀ c ∈ back.head?, p c = true

theorem MaximalRun.append_left (h : MaximalRun p rest run) (hc : p c = true) (front : List Char) :
    MaximalRun p (front ++ c :: rest) run := by
  obtain ⟨before, after, rfl, hbefore, hafter⟩ := h.around
  refine ⟨h.ne_nil, h.solid, front ++ c :: before, after, by simp, ?_, hafter⟩
  intro d hd
  cases before with
  | nil =>
    obtain rfl : c = d := by simpa using hd
    exact hc
  | cons e before =>
    apply hbefore d
    simpa [getLast?_append] using hd

theorem maximalRun_append (hne : run ≠ []) (hrun : ∀ c ∈ run, p c = false) (back : List Char)
    (hback : ∀ c ∈ back.head?, p c = true) : MaximalRun p (run ++ back) run :=
  ⟨hne, hrun, [], back, rfl, by simp, hback⟩

theorem MaximalRun.mem_pieces (h : MaximalRun p text run) : run ∈ pieces p text := by
  obtain ⟨front, back, rfl, hfront, hback⟩ := h.around
  have hrun : run ∈ pieces p (run ++ back) := by
    cases back with
    | nil => simp [pieces_of_run h.ne_nil h.solid]
    | cons c back => simp [pieces_run_cons h.ne_nil h.solid (hback c rfl)]
  rw [append_assoc]
  cases front using reverseRecOn with
  | nil => exact hrun
  | append_singleton front c =>
    rw [append_assoc, singleton_append, pieces_append_cons (hfront c (by simp))]
    exact mem_append_right _ hrun

/-- The pieces of a text between separators are its maximal runs of other characters. -/
theorem mem_pieces_iff : run ∈ pieces p text ↔ MaximalRun p text run := by
  refine ⟨fun h => ?_, MaximalRun.mem_pieces⟩
  induction text using piecewise p with
  | nil => exact absurd h not_mem_nil
  | separator c rest hc ih =>
    rw [pieces_cons hc] at h
    exact (ih h).append_left hc []
  | last word hne hword =>
    rw [pieces_of_run hne hword, mem_singleton] at h
    subst h
    simpa using maximalRun_append hne hword [] (by simp)
  | more word c rest hne hword hc ih =>
    rw [pieces_run_cons hne hword hc] at h
    rcases mem_cons.mp h with rfl | h
    · exact maximalRun_append hne hword (c :: rest) (by simpa using hc)
    · exact (ih h).append_left hc word

end SourceDigest.Text
