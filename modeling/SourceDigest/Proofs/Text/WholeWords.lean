import SourceDigest.Proofs.Text.Matching
import SourceDigest.Proofs.Text.Runs
import SourceDigest.Proofs.Text.Scanning

/-! Patterns for whole words. What asks for one of several words with an edge of a word on both
sides matches where such a word stands by itself, and a scan for it counts the words of a text that
are among them. -/

namespace SourceDigest

open List

variable {keys : List String} {word back text : List Char} {last : Option Char}

/-! ## Words of word characters -/

namespace Text

/-- The maximal runs of word characters of a text. -/
def wholeWords (text : List Char) : List (List Char) :=
  pieces (fun c => !isWord c) text

/-- At least one character, and word characters only. -/
def IsWhole (word : List Char) : Prop :=
  word ≠ [] ∧ ∀ c ∈ word, isWord c = true

instance (word : List Char) : Decidable (IsWhole word) :=
  decidable_of_iff ((!word.isEmpty && word.all isWord) = true) (by simp [IsWhole])

/-- Whether the character on one side of a place, if there is one, belongs to a word. -/
def isInWord (side : Option Char) : Bool :=
  side.any isWord

theorem IsWhole.head (h : IsWhole word) (rest : List Char) :
    isInWord (word ++ rest).head? = true := by
  obtain ⟨hne, hword⟩ := h
  obtain ⟨c, word, rfl⟩ := exists_cons_of_ne_nil hne
  exact hword c mem_cons_self

theorem IsWhole.getLast (h : IsWhole word) (before : Option Char) :
    isInWord (word.getLast?.or before) = true := by
  obtain ⟨hne, hword⟩ := h
  rw [getLast?_eq_some_getLast hne]
  exact hword _ (getLast_mem hne)

/-- What a text starts with up to the first edge of a word. -/
theorem takeWhile_whole (hword : ∀ c ∈ word, isWord c = true)
    (hback : isInWord back.head? = false) : (word ++ back).takeWhile isWord = word := by
  have hstop : back.takeWhile isWord = [] := by
    cases back with
    | nil => rfl
    | cons c back => exact takeWhile_cons_of_neg (by simpa [isInWord] using hback)
  rw [takeWhile_append_of_pos hword, hstop, append_nil]

end Text

namespace Matcher

open Text

variable {m : Matcher Unit}

/-! ## Where words match -/

theorem mem_run_wordEdge {c : Cursor} {r : Unit × Cursor} :
    r ∈ wordEdge.run c ↔ isInWord c.last ≠ isInWord c.rest.head? ∧ r.2 = c := by
  have hrun : wordEdge.run c =
      if isInWord c.last != isInWord c.rest.head? then [((), c)] else [] := by
    obtain ⟨passed, last, rest⟩ := c
    cases last <;> cases rest <;> rfl
  rw [hrun]
  split
  · rename_i h
    simp [bne_iff_ne.mp h, Prod.ext_iff]
  · rename_i h
    simp_all

/-- Matches one of several texts. -/
def SpellsOneOf (m : Matcher Unit) (keys : List String) : Prop :=
  ∀ c r, r ∈ m.run c ↔
    ∃ key ∈ keys, ∃ rest, c.rest = key.toList ++ rest ∧ r.2 = c.behind key.toList rest

theorem spells_lit (key : String) : SpellsOneOf (lit key) [key] := by
  intro c r
  rw [mem_run_lit]
  simp

theorem spells_oneOf (keys : List String) : SpellsOneOf (oneOf (keys.map lit)) keys := by
  intro c r
  simp [oneOf, mem_run_lit]

/-- Matches one of several words where it stands by itself. -/
structure FindsWords (m : Matcher Unit) (keys : List String) : Prop where
  whole : ∀ key ∈ keys, IsWhole key.toList
  mem_run_iff : ∀ c r, r ∈ m.run c ↔ isInWord c.last = false ∧ ∃ key ∈ keys, ∃ rest,
    c.rest = key.toList ++ rest ∧ isInWord rest.head? = false ∧ r.2 = c.behind key.toList rest

theorem findsWords_of_spells (hkeys : ∀ key ∈ keys, IsWhole key.toList) (hm : SpellsOneOf m keys) :
    FindsWords (do wordEdge; m; wordEdge) keys := by
  refine ⟨hkeys, fun c r => ?_⟩
  simp only [mem_run_bind, mem_run_wordEdge]
  constructor
  · rintro ⟨s, ⟨hstart, rfl⟩, t, ht, hend, hr⟩
    obtain ⟨key, hkey, rest, hrest, htext⟩ := (hm s.2 t).mp ht
    have hwhole := hkeys key hkey
    rw [hrest, hwhole.head, ne_eq, Bool.not_eq_true] at hstart
    rw [htext, Cursor.behind, hwhole.getLast, ne_comm, ne_eq, Bool.not_eq_true] at hend
    exact ⟨hstart, key, hkey, rest, hrest, hend, hr.trans htext⟩
  · rintro ⟨hstart, key, hkey, rest, hrest, hend, htext⟩
    have hwhole := hkeys key hkey
    refine ⟨((), c), ⟨?_, rfl⟩, ((), r.2), (hm c _).mpr ⟨key, hkey, rest, hrest, htext⟩, ?_, rfl⟩
    · rw [hrest, hwhole.head, hstart]
      exact Bool.false_ne_true
    · rw [htext, Cursor.behind, hwhole.getLast, hend]
      exact Bool.false_ne_true.symm

namespace FindsWords

theorem run_of_last (hm : FindsWords m keys) (h : isInWord last = true) (passed : Nat) :
    m.run ⟨passed, last, text⟩ = [] := by
  rw [eq_nil_iff_forall_not_mem]
  intro r hr
  have hfree : isInWord last = false := ((hm.mem_run_iff _ r).mp hr).1
  exact absurd (h.symm.trans hfree) Bool.false_ne_true.symm

theorem run_of_head (hm : FindsWords m keys) (h : isInWord text.head? = false) (passed : Nat)
    (last : Option Char) : m.run ⟨passed, last, text⟩ = [] := by
  rw [eq_nil_iff_forall_not_mem]
  intro r hr
  obtain ⟨-, key, hkey, rest, hrest, -⟩ := (hm.mem_run_iff _ r).mp hr
  obtain rfl : text = key.toList ++ rest := hrest
  rw [(hm.whole key hkey).head] at h
  exact absurd h Bool.false_ne_true.symm

/-- At the start of a word the pattern looks at the whole word. -/
theorem mem_run_word (hm : FindsWords m keys) (hlast : isInWord last = false)
    (hword : IsWhole word) (hback : isInWord back.head? = false) {passed : Nat}
    {r : Unit × Cursor} : r ∈ m.run ⟨passed, last, word ++ back⟩ ↔
      String.ofList word ∈ keys ∧ r.2 = Cursor.behind ⟨passed, last, word ++ back⟩ word back := by
  rw [hm.mem_run_iff]
  constructor
  · rintro ⟨-, key, hkey, rest, hrest, hend, hbehind⟩
    replace hrest : word ++ back = key.toList ++ rest := hrest
    have hsame : word = key.toList := by
      rw [← takeWhile_whole hword.2 hback, hrest, takeWhile_whole (hm.whole key hkey).2 hend]
    obtain rfl : back = rest := append_cancel_left (hsame ▸ hrest)
    exact ⟨by rwa [hsame, String.ofList_toList], hsame ▸ hbehind⟩
  · rintro ⟨hmem, hbehind⟩
    exact ⟨hlast, _, hmem, back, by rw [String.toList_ofList], hback, by
      rwa [String.toList_ofList]⟩

/-! ## Scanning for words -/

/-- Behind the first character of a word nothing is found before the word ends. -/
theorem scan_inside (hm : FindsWords m keys) (hback : isInWord back.head? = false) {ch : Char}
    (hch : isWord ch = true) (hword : ∀ c ∈ word, isWord c = true) {skip : Nat}
    (hskip : skip ≤ word.length) (passed : Nat) :
    scan m skip passed (some ch) [] (word ++ back) =
      scan m 0 (passed + word.length) none [] back := by
  induction word generalizing skip passed ch with
  | nil =>
    obtain rfl := Nat.le_zero.mp hskip
    cases back with
    | nil => rfl
    | cons c back =>
      have hfails (last : Option Char) : Step m passed last (c :: back) 0 [] 0 :=
        .fails (hm.run_of_head hback passed last)
      exact (hfails (some ch)).scan_eq.trans (hfails none).scan_eq.symm
  | cons c word ih =>
    obtain ⟨hc, hmore⟩ := forall_mem_cons.mp hword
    have hlength : passed + 1 + word.length = passed + (c :: word).length := by
      rw [length_cons]
      omega
    rw [← hlength]
    cases skip with
    | succ skip => exact ih hc hmore (Nat.le_of_succ_le_succ hskip) (passed + 1)
    | zero =>
      have hfails : Step m passed (some ch) (c :: (word ++ back)) 0 [] 0 :=
        .fails (hm.run_of_last (show isInWord (some ch) = true from hch) passed)
      exact hfails.scan_eq.trans (ih hc hmore (Nat.zero_le _) (passed + 1))

theorem length_scan_word (hm : FindsWords m keys) (hlast : isInWord last = false)
    (hword : IsWhole word) (hback : isInWord back.head? = false) (passed : Nat) :
    (scan m 0 passed last [] (word ++ back)).length =
      (if String.ofList word ∈ keys then 1 else 0) +
        (scan m 0 (passed + word.length) none [] back).length := by
  have hrun (r : Unit × Cursor) : r ∈ m.run ⟨passed, last, word ++ back⟩ ↔ _ :=
    hm.mem_run_word hlast hword hback
  obtain ⟨ch, tail, rfl⟩ := exists_cons_of_ne_nil hword.1
  obtain ⟨hch, htail⟩ := forall_mem_cons.mp hword.2
  have hlength : passed + 1 + tail.length = passed + (ch :: tail).length := by
    rw [length_cons]
    omega
  obtain ⟨values, left, hstep⟩ := exists_step m passed last (ch :: (tail ++ back)) 0
  rw [cons_append, hstep.scan_eq, length_append, ← hlength]
  cases hstep with
  | fails hnone =>
    have hkey : String.ofList (ch :: tail) ∉ keys := fun hkey => by
      have hmem := (hrun ((), _)).mpr ⟨hkey, rfl⟩
      rw [cons_append, hnone] at hmem
      exact absurd hmem not_mem_nil
    rw [if_neg hkey, hm.scan_inside hback hch htail (Nat.zero_le _)]
    rfl
  | @finds r more hfound =>
    have hmem : r ∈ m.run ⟨passed, last, (ch :: tail) ++ back⟩ := by
      rw [cons_append, hfound]
      exact mem_cons_self
    obtain ⟨hkey, hbehind⟩ := (hrun r).mp hmem
    have hleft : r.2.passed - passed - 1 = tail.length := by
      rw [hbehind]
      simp only [Cursor.behind, length_cons]
      omega
    rw [if_pos hkey, hleft, hm.scan_inside hback hch htail (Nat.le_refl _)]
    rfl

theorem length_scan (hm : FindsWords m keys) (hlast : isInWord last = false) (passed : Nat)
    (text : List Char) :
    (scan m 0 passed last [] text).length =
      (wholeWords text).countP fun word => String.ofList word ∈ keys := by
  have hwhole {word : List Char} (hne : word ≠ []) (hword : ∀ c ∈ word, (!isWord c) = false) :
      IsWhole word := ⟨hne, by simpa using hword⟩
  have hother {c : Char} (hc : (!isWord c) = true) (rest : List Char) :
      isInWord (c :: rest).head? = false := by
    simpa [isInWord] using hc
  unfold wholeWords
  induction text using piecewise (fun c => !isWord c) generalizing passed last with
  | nil => rfl
  | separator c rest hc ih =>
    have hfails : Step m passed last (c :: rest) 0 [] 0 :=
      .fails (hm.run_of_head (hother hc rest) passed last)
    rw [pieces_cons hc, hfails.scan_eq]
    exact ih (hother hc rest) (passed + 1)
  | last word hne hword =>
    have hscan : (scan m 0 passed last [] (word ++ [])).length = _ :=
      hm.length_scan_word hlast (hwhole hne hword) rfl passed
    rw [append_nil] at hscan
    rw [hscan, pieces_of_run hne hword]
    simp [scan, countP_cons]
  | more word c rest hne hword hc ih =>
    have hscan : (scan m 0 passed last [] (word ++ c :: rest)).length = _ :=
      hm.length_scan_word hlast (hwhole hne hword) (hother hc rest) passed
    have hfails : Step m (passed + word.length) none (c :: rest) 0 [] 0 :=
      .fails (hm.run_of_head (hother hc rest) _ none)
    have hrest : (scan m 0 (passed + word.length + 1) (some c) [] rest).length = _ :=
      ih (hother hc rest) _
    rw [hscan, hfails.scan_eq, nil_append, hrest, pieces_run_cons hne hword hc, countP_cons,
      Nat.add_comm]
    simp

/-- A scan for whole words counts those of the words of a text that it is for. -/
theorem count_eq (hm : FindsWords m keys) (text : List Char) :
    m.count text = (wholeWords text).countP fun word => String.ofList word ∈ keys :=
  hm.length_scan rfl 0 text

end FindsWords

end Matcher

end SourceDigest
