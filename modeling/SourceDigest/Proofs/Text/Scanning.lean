import Mathlib.Data.List.Count
import SourceDigest.Text.Matcher

/-! Places of a text, a scan from one to the next, and two scans side by side. A scan finds no more
values of one kind than another scan finds values at all, if the other has a match wherever the
first has one of that kind, and no match of the other holds two finds of that kind. -/

namespace SourceDigest

variable {β γ : Type}

/-! ## Places of a text -/

/-- A place that is reached by moving on in the text. -/
inductive Cursor.Reaches : Cursor → Cursor → Prop
  | refl (c : Cursor) : Reaches c c
  | next {passed : Nat} {ch : Char} {rest : List Char} {d : Cursor} (last : Option Char) :
      Reaches ⟨passed + 1, some ch, rest⟩ d → Reaches ⟨passed, last, ch :: rest⟩ d

theorem Cursor.Reaches.passed_le {c d : Cursor} (h : c.Reaches d) : c.passed ≤ d.passed := by
  induction h with
  | refl c => exact Nat.le_refl _
  | next last _ ih => exact Nat.le_of_succ_le ih

/-- What is passed over on the way to a place. -/
theorem Cursor.Reaches.exists_text {c d : Cursor} (h : c.Reaches d) :
    ∃ text, c.rest = text ++ d.rest ∧ d.passed = c.passed + text.length ∧
      d.last = text.getLast?.or c.last := by
  induction h with
  | refl c => exact ⟨[], rfl, rfl, rfl⟩
  | @next passed ch rest d last _ ih =>
    obtain ⟨text, hrest, hpassed, hlast⟩ := ih
    refine ⟨ch :: text, congrArg (ch :: ·) hrest, ?_, ?_⟩
    · simp only [List.length_cons] at hpassed ⊢
      omega
    · rw [hlast, List.getLast?_cons]
      cases text.getLast? <;> rfl

namespace Cursor.Reaches

variable {c d : Cursor} {front part back : List Char}

/-- A place inside of a part of the text has a character of the part ahead. -/
theorem head_mem (h : c.Reaches d) (hrest : c.rest = front ++ (part ++ back))
    (hlow : c.passed + front.length ≤ d.passed)
    (hhigh : d.passed < c.passed + front.length + part.length) :
    ∃ ch ∈ part, d.rest.head? = some ch := by
  obtain ⟨text, htext, hpassed, -⟩ := h.exists_text
  have hindex : text.length - front.length < part.length := by omega
  refine ⟨part[text.length - front.length], List.getElem_mem hindex, ?_⟩
  calc d.rest.head? = (text ++ d.rest)[text.length]? := by
        rw [List.getElem?_append_right (Nat.le_refl _), Nat.sub_self, List.head?_eq_getElem?]
    _ = (front ++ (part ++ back))[text.length]? := by rw [← htext, hrest]
    _ = some part[text.length - front.length] := by
        rw [List.getElem?_append_right (by omega), List.getElem?_append_left hindex,
          List.getElem?_eq_getElem hindex]

/-- A place behind the start of a part, up to its end, has a character of the part before it. -/
theorem last_mem (h : c.Reaches d) (hrest : c.rest = front ++ (part ++ back))
    (hlow : c.passed + front.length < d.passed)
    (hhigh : d.passed ≤ c.passed + front.length + part.length) :
    ∃ ch ∈ part, d.last = some ch := by
  obtain ⟨text, htext, hpassed, hlast⟩ := h.exists_text
  have hindex : text.length - 1 - front.length < part.length := by omega
  refine ⟨part[text.length - 1 - front.length], List.getElem_mem hindex, ?_⟩
  have hgetLast : text.getLast? = some part[text.length - 1 - front.length] :=
    calc text.getLast? = (text ++ d.rest)[text.length - 1]? := by
          rw [List.getElem?_append_left (by omega), List.getLast?_eq_getElem?]
      _ = (front ++ (part ++ back))[text.length - 1]? := by rw [← htext, hrest]
      _ = some part[text.length - 1 - front.length] := by
          rw [List.getElem?_append_right (by omega), List.getElem?_append_left hindex,
            List.getElem?_eq_getElem hindex]
  rw [hlast, hgetLast]
  rfl

/-- A place is told by what was passed over on the way to it. -/
theorem rest_eq (h : c.Reaches d) (hrest : c.rest = front ++ back)
    (hpassed : d.passed = c.passed + front.length) : d.rest = back := by
  obtain ⟨text, htext, hlength, -⟩ := h.exists_text
  exact (List.append_inj (htext.symm.trans hrest) (by omega)).2

end Cursor.Reaches

namespace Matcher

/-! ## One scan -/

/-- What a scan does at a place: the values it collects there, and how many of the characters
behind the next one belong to a match. -/
inductive Step (m : Matcher β) (passed : Nat) (last : Option Char) (text : List Char) :
    Nat → List β → Nat → Prop
  | skips (skip : Nat) : Step m passed last text (skip + 1) [] skip
  | fails (h : m.run ⟨passed, last, text⟩ = []) : Step m passed last text 0 [] 0
  | finds {r : β × Cursor} {more : List (β × Cursor)} (h : m.run ⟨passed, last, text⟩ = r :: more) :
      Step m passed last text 0 [r.1] (r.2.passed - passed - 1)

theorem exists_step (m : Matcher β) (passed : Nat) (last : Option Char) (text : List Char)
    (skip : Nat) : ∃ values left, Step m passed last text skip values left := by
  cases skip with
  | succ skip => exact ⟨[], skip, .skips skip⟩
  | zero =>
    cases h : m.run ⟨passed, last, text⟩ with
    | nil => exact ⟨[], 0, .fails h⟩
    | cons r more => exact ⟨[r.1], _, .finds h⟩

theorem scan_eq_append (m : Matcher β) (skip passed : Nat) (last : Option Char) (found : List β)
    (text : List Char) :
    scan m skip passed last found text = found.reverse ++ scan m skip passed last [] text := by
  induction text generalizing skip passed last found with
  | nil => simp [scan]
  | cons ch rest ih =>
    cases skip with
    | succ skip => exact ih skip (passed + 1) (some ch) found
    | zero =>
      unfold scan
      dsimp only
      cases m.run ⟨passed, last, ch :: rest⟩ with
      | nil => exact ih 0 (passed + 1) (some ch) found
      | cons r more =>
        dsimp only
        rw [ih _ _ _ (r.1 :: found), ih _ _ _ [r.1]]
        simp

theorem Step.scan_eq {m : Matcher β} {skip passed left : Nat} {last : Option Char} {ch : Char}
    {rest : List Char} {values : List β} (h : Step m passed last (ch :: rest) skip values left) :
    scan m skip passed last [] (ch :: rest) =
      values ++ scan m left (passed + 1) (some ch) [] rest := by
  cases h with
  | skips skip => rfl
  | fails h => simp [scan, h]
  | @finds r more h =>
    rw [← List.reverse_singleton, ← scan_eq_append]
    simp [scan, h]

/-- Matchers that match at the same places up to the same places find as many values. -/
theorem length_scan_congr {m : Matcher β} {other : Matcher γ}
    (h : ∀ c, (m.run c).map Prod.snd = (other.run c).map Prod.snd) (skip passed : Nat)
    (last : Option Char) (text : List Char) :
    (scan m skip passed last [] text).length = (scan other skip passed last [] text).length := by
  induction text generalizing skip passed last with
  | nil => rfl
  | cons ch rest ih =>
    obtain ⟨values, left, hstep⟩ := exists_step m passed last (ch :: rest) skip
    obtain ⟨others, right, hother⟩ := exists_step other passed last (ch :: rest) skip
    have hrun := h ⟨passed, last, ch :: rest⟩
    rw [hstep.scan_eq, hother.scan_eq, List.length_append, List.length_append]
    cases hstep with
    | skips skip =>
      cases hother
      rw [ih]
      rfl
    | fails hm =>
      cases hother with
      | fails _ =>
        rw [ih]
        rfl
      | finds hn => simp [hm, hn] at hrun
    | finds hm =>
      cases hother with
      | fails hn => simp [hm, hn] at hrun
      | finds hn =>
        rw [hm, hn, List.map_cons, List.map_cons] at hrun
        rw [(List.cons.inj hrun).1, ih]
        rfl

/-! ## Two scans -/

variable {m : Matcher β} {other : Matcher γ} {b : β} {c : Cursor} {first final : Nat}

/-- No place from `first` on and before `final` has a match with this value. -/
def Fruitless (m : Matcher β) (b : β) (first final : Nat) (c : Cursor) : Prop :=
  ∀ d, c.Reaches d → first ≤ d.passed → d.passed < final → ∀ r ∈ m.run d, r.1 ≠ b

/-- Behind a match with this value no other one starts before `final`. -/
def Alone (m : Matcher β) (b : β) (final : Nat) (c : Cursor) : Prop :=
  ∀ d, c.Reaches d → d.passed < final → ∀ r ∈ m.run d, r.1 = b →
    Fruitless m b r.2.passed final c

theorem Fruitless.of_le (h : final ≤ first) : Fruitless m b first final c := by
  intro d _ hfirst hfinal
  omega

/-- At the next place there is less to ask, and all places from there on lie behind it. -/
theorem Fruitless.next {passed start stop : Nat} {last : Option Char} {ch : Char}
    {rest : List Char} (h : Fruitless m b first final ⟨passed, last, ch :: rest⟩)
    (hstart : first ≤ max start (passed + 1)) (hstop : stop ≤ max final (passed + 1)) :
    Fruitless m b start stop ⟨passed + 1, some ch, rest⟩ := by
  intro d hd hfirst hfinal
  have hpassed : passed + 1 ≤ d.passed := hd.passed_le
  exact h d (hd.next last) (by omega) (by omega)

theorem Alone.next {passed stop : Nat} {last : Option Char} {ch : Char} {rest : List Char}
    (h : Alone m b final ⟨passed, last, ch :: rest⟩) (hstop : stop ≤ max final (passed + 1)) :
    Alone m b stop ⟨passed + 1, some ch, rest⟩ := by
  intro d hd hfinal r hr hb
  have hpassed : passed + 1 ≤ d.passed := hd.passed_le
  exact (h d (hd.next last) (by omega) r hr hb).next (Nat.le_max_left _ _) hstop

variable [DecidableEq β]

/-- A step collects nothing of a kind, or its place has a match of the kind. -/
theorem Step.count_cases {skip passed left : Nat} {last : Option Char} {text : List Char}
    {values : List β} (h : Step m passed last text skip values left) (b : β) :
    (values.count b = 0 ∧ skip ≤ left + 1) ∨
    (values.count b = 1 ∧ skip = 0 ∧ ∃ r ∈ m.run ⟨passed, last, text⟩, r.1 = b ∧
      r.2.passed ≤ passed + 1 + left) := by
  cases h with
  | skips skip => exact Or.inl ⟨rfl, Nat.le_refl _⟩
  | fails h => exact Or.inl ⟨rfl, Nat.zero_le _⟩
  | @finds r more h =>
    by_cases hb : r.1 = b
    · refine Or.inr ⟨by simp [hb], rfl, r, by simp [h], hb, ?_⟩
      omega
    · exact Or.inl ⟨by simp [hb], Nat.zero_le _⟩

/-- Both scans from one place on, `skip` and `pending` characters of it inside of matches. A match
of the other scan that is under way may still have to answer for one find, unless the rest of it is
fruitless. -/
theorem count_scan_le (hcover : ∀ c, ∀ r ∈ m.run c, r.1 = b → other.run c ≠ [])
    (halone : ∀ c, ∀ s ∈ other.run c, Alone m b s.2.passed c) (skip pending passed : Nat)
    (last : Option Char) (text : List Char) :
    (Fruitless m b (passed + skip) (passed + pending) ⟨passed, last, text⟩ →
      (scan m skip passed last [] text).count b ≤
        (scan other pending passed last [] text).length) ∧
    (Alone m b (passed + pending) ⟨passed, last, text⟩ →
      (scan m skip passed last [] text).count b ≤
        (scan other pending passed last [] text).length + 1) := by
  induction text generalizing skip pending passed last with
  | nil => simp [scan]
  | cons ch rest ih =>
    obtain ⟨values, left, hstep⟩ := exists_step m passed last (ch :: rest) skip
    obtain ⟨others, right, hother⟩ := exists_step other passed last (ch :: rest) pending
    obtain ⟨hfruitless, hopen⟩ := ih left right (passed + 1) (some ch)
    rw [hstep.scan_eq, hother.scan_eq, List.count_append, List.length_append]
    cases hother with
    | skips =>
      constructor
      · intro hclosed
        rcases hstep.count_cases b with ⟨hnone, hskip⟩ | ⟨-, rfl, r, hr, hb, -⟩
        · have hrest := hfruitless (hclosed.next (by omega) (by omega))
          rw [hnone, Nat.zero_add]
          simpa using hrest
        · exact absurd hb (hclosed _ (.refl _) (by simp) (by simp) r hr)
      · intro hown
        rcases hstep.count_cases b with ⟨hnone, -⟩ | ⟨hone, -, r, hr, hb, hreach⟩
        · have hrest := hopen (hown.next (by omega))
          rw [hnone, Nat.zero_add]
          simpa using hrest
        · have hafter := hown _ (.refl _) (by simp) r hr hb
          have hrest := hfruitless (hafter.next (by omega) (by omega))
          rw [hone]
          simp only [List.length_nil]
          omega
    | fails hfails =>
      have hbound : values.count b + (scan m left (passed + 1) (some ch) [] rest).count b ≤
          (scan other 0 (passed + 1) (some ch) [] rest).length := by
        rcases hstep.count_cases b with ⟨hnone, -⟩ | ⟨-, -, r, hr, hb, -⟩
        · rw [hnone, Nat.zero_add]
          exact hfruitless (.of_le (by omega))
        · exact absurd hfails (hcover _ r hr hb)
      simp only [List.length_nil, Nat.zero_add]
      exact ⟨fun _ => hbound, fun _ => Nat.le_succ_of_le hbound⟩
    | @finds s more hs =>
      have hown := halone ⟨passed, last, ch :: rest⟩ s (by simp [hs])
      have hbound : values.count b + (scan m left (passed + 1) (some ch) [] rest).count b ≤
          1 + (scan other (s.2.passed - passed - 1) (passed + 1) (some ch) [] rest).length := by
        rcases hstep.count_cases b with ⟨hnone, -⟩ | ⟨hone, -, r, hr, hb, hreach⟩
        · have hrest := hopen (hown.next (by omega))
          omega
        · rw [hone]
          apply Nat.add_le_add_left
          apply hfruitless
          by_cases hempty : s.2.passed ≤ passed
          · exact .of_le (by omega)
          · have hafter := hown _ (.refl _) (Nat.lt_of_not_le hempty) r hr hb
            exact hafter.next (by omega) (by omega)
      exact ⟨fun _ => hbound, fun _ => Nat.le_succ_of_le hbound⟩

/-- One kind of match is found no more often than another matcher matches, if the other matches
wherever that kind does and its matches hold no two finds of that kind. -/
theorem count_findAll_le (hcover : ∀ c, ∀ r ∈ m.run c, r.1 = b → other.run c ≠ [])
    (halone : ∀ c, ∀ s ∈ other.run c, Alone m b s.2.passed c) (text : List Char) :
    (findAll m text).count b ≤ (findAll other text).length :=
  (count_scan_le hcover halone 0 0 0 none text).1 (.of_le (Nat.le_refl _))

end Matcher

end SourceDigest
