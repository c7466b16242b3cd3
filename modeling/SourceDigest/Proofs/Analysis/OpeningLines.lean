import SourceDigest.Proofs.Analysis.Captures
import SourceDigest.Proofs.Text.Scanning

/-! Matches that open a line with a word. White space may cross line ends, so that such a match may
run on into the next lines; but no line with the same word opens inside of it other than where its
name starts, and what is found at its first line reaches as far. -/

namespace SourceDigest

open List

namespace Surface

open Matcher Text

variable {β : Type} {m : Matcher β} {b : β} {key : String} {c d s : Cursor}
  {more closing : List Char → Prop}

/-! ## Lines that open with a word -/

/-- White space, or nothing. -/
def Space (text : List Char) : Prop :=
  ∀ ch ∈ text, isBlank ch = true

theorem gap_passes : gap.Passes Space :=
  (passes_all1 isBlank).mono fun _ => And.right

/-- Up to `d` stands a word at the start of a line, white space and more. -/
structure OpensLine (key : String) (more : List Char → Prop) (c d : Cursor) : Prop where
  atStart : ∀ ch ∈ c.last, ch = '\n'
  passes : Passed (Followed (· = key.toList) (Followed Space more)) c d

theorem mem_run_lineStart {r : Unit × Cursor} :
    r ∈ lineStart.run c ↔ (∀ ch ∈ c.last, ch = '\n') ∧ r.2 = c := by
  rw [lineStart, mem_run_here]
  cases c.last <;> simp

theorem opensLine_of_mem (hm : m.Passes more) {r : β × Cursor}
    (hr : r ∈ (do lineStart; lit key; gap; m).run c) : OpensLine key more c r.2 := by
  obtain ⟨s, hs, hr⟩ := mem_run_bind.mp hr
  obtain ⟨hstart, hcursor⟩ := mem_run_lineStart.mp hs
  rw [hcursor] at hr
  exact ⟨hstart, passes_bind (passes_lit key) (fun _ => passes_bind gap_passes fun _ => hm) c r hr⟩

theorem OpensLine.mono {most : List Char → Prop} (h : OpensLine key more c d)
    (hmore : ∀ text, more text → most text) : OpensLine key most c d := by
  refine ⟨h.atStart, h.passes.mono ?_⟩
  rintro _ ⟨word, _, rfl, hword, space, rest, rfl, hspace, hrest⟩
  exact ⟨word, _, rfl, hword, space, rest, rfl, hspace, hmore rest hrest⟩

/-- Where the text behind a word and the white space after it starts. -/
def nameStart (key : String) (c : Cursor) : Nat :=
  c.passed + key.toList.length + ((c.rest.drop key.toList.length).takeWhile isBlank).length

theorem takeWhile_space {space name : List Char} (hspace : Space space) (hname : StartsWord name)
    (rest : List Char) : (space ++ (name ++ rest)).takeWhile isBlank = space := by
  obtain ⟨ch, hhead, hword⟩ := hname
  obtain ⟨name, rfl⟩ := head?_eq_some_iff.mp hhead
  rw [takeWhile_append_of_pos hspace, cons_append,
    takeWhile_cons_of_neg (by simp [isBlank_of_isWord hword]), append_nil]

/-- The parts of a line that opens with a word before a name. -/
theorem OpensLine.exists_parts (h : OpensLine key more c d)
    (hmore : ∀ text, more text → StartsWord text) :
    ∃ space name, Space space ∧ more name ∧ c.rest = key.toList ++ (space ++ (name ++ d.rest)) ∧
      nameStart key c = c.passed + key.toList.length + space.length ∧
      d.passed = nameStart key c + name.length := by
  obtain ⟨_, ⟨_, _, rfl, rfl, space, name, rfl, hspace, hname⟩, hrest, hpassed⟩ := h.passes
  have hparts : c.rest = key.toList ++ (space ++ (name ++ d.rest)) := by
    rw [hrest]
    simp only [append_assoc]
  have hstart : nameStart key c = c.passed + key.toList.length + space.length := by
    rw [nameStart, hparts, drop_left, takeWhile_space hspace (hmore name hname)]
  refine ⟨space, name, hspace, hname, hparts, hstart, ?_⟩
  rw [hpassed, hstart]
  simp only [length_append]
  omega

theorem OpensLine.nameStart_lt (h : OpensLine key StartsWord c d) : nameStart key c < d.passed := by
  obtain ⟨space, name, -, ⟨ch, hhead, -⟩, -, -, hpassed⟩ := h.exists_parts fun _ => id
  have hname : 0 < name.length := by
    obtain ⟨name, rfl⟩ := head?_eq_some_iff.mp hhead
    simp
  omega

theorem le_nameStart (key : String) (c : Cursor) : c.passed ≤ nameStart key c := by
  rw [nameStart]
  omega

/-! ## Lines inside of a match -/

/-- At the start of a line that opens with a word, no part of solid text ends just before. -/
theorem OpensLine.not_after_solid {e : Cursor} {front part back : List Char}
    (h : OpensLine key more d e) (hd : c.Reaches d) (hrest : c.rest = front ++ (part ++ back))
    (hsolid : Solid part) (hlow : c.passed + front.length < d.passed) :
    c.passed + front.length + part.length < d.passed := by
  by_contra hhigh
  obtain ⟨ch, hch, hlast⟩ := hd.last_mem hrest hlow (by omega)
  have hblank : isBlank '\n' = true := by decide
  rw [← h.atStart ch hlast, hsolid ch hch] at hblank
  exact absurd hblank Bool.false_ne_true

theorem OpensLine.head_eq {e : Cursor} (h : OpensLine key more d e) (hkey : IsName key.toList) :
    d.rest.head? = key.toList.head? := by
  obtain ⟨_, ⟨_, rest, rfl, rfl, -⟩, hrest, -⟩ := h.passes
  obtain ⟨ch, hhead, -⟩ := hkey.startsWord
  rw [hrest, append_assoc, head?_append, Option.mem_def.mp hhead]
  rfl

/-- A line that opens with a word does not open inside of white space. -/
theorem OpensLine.not_in_space {e : Cursor} {front part back : List Char}
    (h : OpensLine key more d e) (hkey : IsName key.toList) (hd : c.Reaches d)
    (hrest : c.rest = front ++ (part ++ back)) (hspace : Space part)
    (hlow : c.passed + front.length ≤ d.passed) :
    c.passed + front.length + part.length ≤ d.passed := by
  by_contra hhigh
  obtain ⟨ch, hch, hhead⟩ := hd.head_mem hrest hlow (by omega)
  obtain ⟨first, hfirst, hword⟩ := hkey.startsWord
  obtain rfl : ch = first := by
    rw [h.head_eq hkey, Option.mem_def.mp hfirst] at hhead
    exact (Option.some.inj hhead).symm
  have hblank := hspace ch hch
  rw [isBlank_of_isWord hword] at hblank
  exact absurd hblank Bool.false_ne_true

/-- Nor does it open inside of solid text with white space behind it. -/
theorem OpensLine.behind {e : Cursor} {front part space back : List Char}
    (h : OpensLine key more d e) (hkey : IsName key.toList) (hd : c.Reaches d)
    (hrest : c.rest = front ++ (part ++ (space ++ back))) (hsolid : Solid part)
    (hspace : Space space) (hlow : c.passed + front.length < d.passed) :
    c.passed + (front ++ part ++ space).length ≤ d.passed := by
  have hpart := h.not_after_solid hd hrest hsolid hlow
  have hspaces : c.rest = (front ++ part) ++ (space ++ back) := by simp [hrest]
  have hspaceEnd := h.not_in_space hkey hd hspaces hspace (by
    rw [length_append]
    omega)
  rw [length_append]
  omega

/-- Inside of a match that opens a line with a word, a line with the same word can only open where
the match starts, or where its name starts. -/
theorem OpensLine.place_eq {e : Cursor}
    (hs : OpensLine key (Followed IsName (Followed Space closing)) c s) (hkey : IsName key.toList)
    (hclosing : ∀ text, closing text → Solid text ∧ text.head? ≠ key.toList.head?)
    (hd : c.Reaches d) (hbefore : d.passed < s.passed) (h : OpensLine key more d e) :
    d.passed = c.passed ∨ d.passed = nameStart key c := by
  obtain ⟨space, _, hspace, ⟨name, _, rfl, hname, gap, close, rfl, hgap, hclose⟩, hrest, hstart,
    hpassed⟩ := hs.exists_parts (by
      rintro _ ⟨name, rest, rfl, hname, -⟩
      exact hname.startsWord.append rest)
  obtain ⟨hsolid, hhead⟩ := hclosing close hclose
  simp only [length_append] at hpassed
  by_contra hother
  rw [not_or] at hother
  have hle := hd.passed_le
  -- the place lies behind the word, then behind the name, and then behind what closes the match
  have hword : c.rest = [] ++ (key.toList ++ (space ++ (name ++ (gap ++ close) ++ s.rest))) := hrest
  have hnames : c.rest = (key.toList ++ space) ++ (name ++ (gap ++ (close ++ s.rest))) := by
    simp [hrest]
  have hcloses : c.rest = (key.toList ++ space ++ name ++ gap) ++ (close ++ ([] ++ s.rest)) := by
    simp [hrest]
  have hbehindWord := h.behind hkey hd hword hkey.solid hspace (by
    rw [length_nil]
    omega)
  simp only [nil_append, length_append] at hbehindWord
  have hbehindName := h.behind hkey hd hnames hname.solid hgap (by
    rw [length_append]
    omega)
  rcases hbehindName.eq_or_lt with hexact | hinside
  · have hdrest := hd.rest_eq hcloses hexact.symm
    have hne : close ≠ [] := by
      rintro rfl
      simp only [length_append, length_nil] at hexact hpassed
      omega
    obtain ⟨ch, close, rfl⟩ := exists_cons_of_ne_nil hne
    apply hhead
    rw [← h.head_eq hkey, hdrest]
    rfl
  · have hbehindClose := h.behind hkey hd hcloses hsolid (by simp [Space]) hinside
    simp only [length_append, length_nil] at hbehindClose
    omega

/-- A match that opens a line with a word holds no more than one find of lines with that word. -/
theorem OpensLine.alone [DecidableEq β]
    (hs : OpensLine key (Followed IsName (Followed Space closing)) c s) (hkey : IsName key.toList)
    (hclosing : ∀ text, closing text → Solid text ∧ text.head? ≠ key.toList.head?)
    (hm : ∀ d, ∀ r ∈ m.run d, r.1 = b → OpensLine key StartsWord d r.2) :
    Alone m b s.passed c := by
  intro d hd hbefore r hr hb e he hfirst hbefore' r' hr' hb'
  have hline := hm d r hr hb
  have hname := hline.nameStart_lt
  have hle := le_nameStart key d
  have hd' := hd.passed_le
  rcases hs.place_eq hkey hclosing he hbefore' (hm e r' hr' hb') with hatStart | hatName
  · omega
  · rcases hs.place_eq hkey hclosing hd hbefore hline with hatStart' | hatName'
    · -- a find at the start reaches into the name, where the other one would start
      have hrest : d.rest = c.rest := hd.rest_eq (nil_append c.rest).symm hatStart'
      rw [nameStart, hrest, hatStart', ← nameStart] at hname
      omega
    · omega

end Surface

end SourceDigest
