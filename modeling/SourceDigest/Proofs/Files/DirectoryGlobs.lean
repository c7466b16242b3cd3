import SourceDigest.Proofs.Files.GlobParts

/-! Globs that name all of a directory. `base/**` looks for the base as it is written among the
directories of a path, while `**/base/**` looks for any directory that the base stands for as a
pattern. The two agree on every path as long as there is no question mark in the base; one that has
a question mark names fewer paths in the first form. -/

namespace SourceDigest.Glob

open List

variable {base path p text : List Char}

/-! ## Both forms as languages -/

/-- A pattern with neither white space at its ends nor a slash at its start is trimmed already. -/
theorem trims_self (hhead : ∀ c ∈ p.head?, Text.isBlank c = false)
    (hlast : ∀ c ∈ p.getLast?, Text.isBlank c = false) (hslash : p.head? ≠ some '/') :
    Trims p p :=
  ⟨[], ⟨⟨[], [], (append_nil p).symm, by simp, by simp⟩, hhead, hlast⟩, by simp, hslash⟩

theorem mem_language_below_iff :
    text ∈ language ['/', '*', '*'] ↔ ∃ below, text = '/' :: below := by
  rw [language_cons (by decide), mem_singles_mul_iff]
  constructor
  · rintro ⟨c, below, rfl, rfl, -⟩
    exact ⟨below, rfl⟩
  · rintro ⟨below, rfl⟩
    exact ⟨'/', below, rfl, rfl, mem_language_stars below⟩

/-- What lies below a directory that the base stands for, at any depth. -/
theorem mem_language_anywhere_iff (hstar : '*' ∉ base) :
    path ∈ language (['*', '*', '/'] ++ base ++ ['/', '*', '*']) ↔
      ∃ directory ∈ language base, '/' :: directory ++ ['/'] <:+: '/' :: path := by
  have hapart : Apart base ['/', '*', '*'] :=
    apart_of_getLast fun hlast => hstar (mem_of_getLast? hlast)
  rw [append_assoc, cons_append, cons_append, cons_append, nil_append, language,
    language_append hapart, mem_directories_mul_iff]
  constructor
  · rintro ⟨front, back, hpath, hback⟩
    obtain ⟨directory, slash, rfl, hdirectory, hslash⟩ := mem_mul_iff.mp hback
    obtain ⟨below, rfl⟩ := mem_language_below_iff.mp hslash
    exact ⟨directory, hdirectory, front, below, by simp [hpath]⟩
  · rintro ⟨directory, hdirectory, front, below, hpath⟩
    refine ⟨front, directory ++ '/' :: below, by simp [← hpath], mem_mul_iff.mpr ?_⟩
    exact ⟨directory, '/' :: below, rfl, hdirectory, mem_language_below_iff.mpr ⟨below, rfl⟩⟩

/-! ## Where they agree -/

/-- The text of a base in which every question mark stands for a letter. -/
def filled (base : List Char) : List Char :=
  base.map fun c => if c = '?' then 'x' else c

theorem filled_mem_language (hstar : '*' ∉ base) : filled base ∈ language base := by
  rw [mem_language_iff_forall₂ hstar, filled, forall₂_map_right_iff, forall₂_same]
  intro c _
  unfold Stands
  split
  · decide
  · rfl

theorem mark_notMem_filled (base : List Char) : '?' ∉ filled base := by
  intro h
  obtain ⟨c, -, hc⟩ := mem_map.mp h
  split at hc
  · cases hc
  · contradiction

theorem feed_notMem_filled (h : '\n' ∉ base) : '\n' ∉ filled base := by
  intro hmem
  obtain ⟨c, hc, heq⟩ := mem_map.mp hmem
  split at heq
  · cases heq
  · exact h (heq ▸ hc)

theorem trims_below {front : List Char} (hne : front ≠ [])
    (hblank : ∀ c ∈ front.head?, Text.isBlank c = false) (hslash : front.head? ≠ some '/') :
    Trims (front ++ ['/', '*', '*']) (front ++ ['/', '*', '*']) := by
  have hhead : (front ++ ['/', '*', '*']).head? = front.head? := head?_append_of_ne_nil _ hne
  refine trims_self (by rwa [hhead]) ?_ (by rwa [hhead])
  simp [getLast?_append]
  decide

theorem matchesPath_written (hne : base ≠ []) (hstar : '*' ∉ base) (hslash : base.head? ≠ some '/')
    (hblank : ∀ c ∈ base.head?, Text.isBlank c = false) (path : List Char) :
    matchesPath path (base ++ ['/', '*', '*']) = true ↔ '/' :: base ++ ['/'] <:+: '/' :: path :=
  matchesPath_of_directory (trims_below hne hblank hslash) path rfl hstar

theorem matchesPath_meant (hstar : '*' ∉ base) (hpath : '\n' ∉ path) :
    matchesPath path (['*', '*', '/'] ++ base ++ ['/', '*', '*']) = true ↔
      ∃ directory ∈ language base, '/' :: directory ++ ['/'] <:+: '/' :: path := by
  have htrims : Trims (['*', '*', '/'] ++ base ++ ['/', '*', '*'])
      (['*', '*', '/'] ++ base ++ ['/', '*', '*']) :=
    trims_below (by simp) (by simp; decide) (by simp)
  have hglob : ∀ front, ['*', '*', '/'] ++ base ++ ['/', '*', '*'] = front ++ ['/', '*', '*'] →
      '*' ∈ front := by
    intro front h
    simp [← append_cancel_right h]
  rw [matchesPath_of_glob htrims path (by simp) hglob, if_pos (by simp), matchesWhole_iff hpath,
    mem_language_anywhere_iff hstar]

/-- Where the base is found in its own text with every question mark filled in, it has none. -/
theorem mark_notMem_of_filled (h : '/' :: base ++ ['/'] <:+: '/' :: (filled base ++ ['/'])) :
    '?' ∉ base := by
  have heq : '/' :: base ++ ['/'] = '/' :: (filled base ++ ['/']) :=
    h.eq_of_length (by simp [filled])
  have hbase : base = filled base := by simpa using heq
  rw [hbase]
  exact mark_notMem_filled base

/-- What the two forms of a glob for a directory match, and when that is the same. A base with a
line feed in it matches nothing in either form. -/
structure NamesDirectory (base : List Char) : Prop where
  written : ∀ path, '\n' ∉ path → (matchesPath path (base ++ ['/', '*', '*']) = true ↔
    '/' :: base ++ ['/'] <:+: '/' :: path)
  meant : ∀ path, '\n' ∉ path →
    (matchesPath path (['*', '*', '/'] ++ base ++ ['/', '*', '*']) = true ↔
      ∃ directory ∈ language base, '/' :: directory ++ ['/'] <:+: '/' :: path)
  agree : (∀ path, '\n' ∉ path → matchesPath path (base ++ ['/', '*', '*']) =
    matchesPath path (['*', '*', '/'] ++ base ++ ['/', '*', '*'])) ↔ '?' ∉ base ∨ '\n' ∈ base

theorem namesDirectory (hne : base ≠ []) (hstar : '*' ∉ base) (hslash : base.head? ≠ some '/')
    (hblank : ∀ c ∈ base.head?, Text.isBlank c = false) : NamesDirectory base where
  written path _ := matchesPath_written hne hstar hslash hblank path
  meant _ hpath := matchesPath_meant hstar hpath
  agree := by
    have hwritten := matchesPath_written hne hstar hslash hblank
    constructor
    · intro h
      by_contra hnot
      obtain ⟨hmark, hfeed⟩ := not_or.mp hnot
      have hpath : '\n' ∉ filled base ++ ['/'] := by simp [feed_notMem_filled hfeed]
      have hmeant := (matchesPath_meant hstar hpath).mpr
        ⟨filled base, filled_mem_language hstar, infix_rfl⟩
      rw [← h _ hpath] at hmeant
      exact hmark (mark_notMem_of_filled ((hwritten _).mp hmeant))
    · rintro (hmark | hfeed) path hpath
      · rw [Bool.eq_iff_iff, hwritten, matchesPath_meant hstar hpath]
        simp [mem_language_iff_eq hstar hmark]
      · have hnone : ∀ directory, '\n' ∈ directory →
            ¬ '/' :: directory ++ ['/'] <:+: '/' :: path := by
          intro directory hmem hinfix
          have hfound : '\n' ∈ '/' :: path := hinfix.subset (by simp [hmem])
          simp [hpath] at hfound
        rw [Bool.eq_iff_iff, hwritten, matchesPath_meant hstar hpath]
        refine iff_of_false (hnone base hfeed) ?_
        rintro ⟨directory, hdirectory, hinfix⟩
        exact hnone directory (mem_of_mem_language hstar hfeed (by decide) hdirectory) hinfix

theorem namesDirectory_lib :
    "src/lib".toList ≠ [] ∧ '*' ∉ "src/lib".toList ∧ "src/lib".toList.head? ≠ some '/' ∧
      (∀ c ∈ "src/lib".toList.head?, Text.isBlank c = false) ∧
      ∀ path, '\n' ∉ path →
        matchesPath path "src/lib/**".toList = matchesPath path "**/src/lib/**".toList := by
  have hhead : "src/lib".toList.head? = some 's' := by decide
  have hblank : ∀ c ∈ "src/lib".toList.head?, Text.isBlank c = false := by
    simp only [hhead, Option.mem_some_iff, forall_eq']
    decide
  have hnames : NamesDirectory "src/lib".toList :=
    namesDirectory (by decide) (by decide) (by decide) hblank
  have hmark : '?' ∉ "src/lib".toList := by decide
  have hwritten : "src/lib/**".toList = "src/lib".toList ++ ['/', '*', '*'] := by decide
  have hmeant :
      "**/src/lib/**".toList = ['*', '*', '/'] ++ "src/lib".toList ++ ['/', '*', '*'] := by
    decide
  refine ⟨by decide, by decide, by decide, hblank, ?_⟩
  rw [hwritten, hmeant]
  exact hnames.agree.mpr (Or.inl hmark)

/-- A question mark stands for a letter in the one form and for itself in the other. -/
theorem matchesPath_mark_differs :
    '*' ∉ "test?".toList ∧ '\n' ∉ "test1/unit.py".toList ∧
      matchesPath "test1/unit.py".toList ("test?".toList ++ "/**".toList) = false ∧
      matchesPath "test1/unit.py".toList
        ("**/".toList ++ "test?".toList ++ "/**".toList) = true := by
  decide

end SourceDigest.Glob
