import SourceDigest.Proofs.Files.DirectoryGlobs
import SourceDigest.Proofs.Files.Filtering

/-! Directories that patterns leave out. A directory is looked up with a slash at its end, and
nothing below it is looked at where that matches. Whether the pattern matches what lies below as
well, so that nothing is lost, is told by its end: patterns that end in `**` or in `**/*` do, and so
do those without a slash. One that ends in `/*` means the files of a directory and leaves out the
directories in it too, and one that ends in a slash means no file at all. -/

namespace SourceDigest.Glob

open List Discovery

variable {p q pattern directory rest path text : List Char}

/-! ## Languages that grow below a directory -/

/-- With each text that is empty or ends in a slash, there is everything that starts with it. -/
def Grows (texts : Language Char) : Prop :=
  ∀ text ∈ texts, (∀ c ∈ text.getLast?, c = '/') → ∀ more, text ++ more ∈ texts

theorem Grows.mul_left {first second : Language Char} (h : Grows second) :
    Grows (first * second) := by
  intro text htext hlast more
  obtain ⟨front, back, rfl, hfront, hback⟩ := mem_mul_iff.mp htext
  rw [append_assoc]
  refine mem_mul_iff.mpr ⟨front, back ++ more, rfl, hfront, h back hback (fun c hc => ?_) more⟩
  exact hlast c (mem_getLast?_append_of_mem_getLast? hc)

theorem EndsIn.grows (h : EndsIn p q) (hq : Grows (language q))
    (hstar : Grows (language ('*' :: q))) : Grows (language p) := by
  obtain ⟨ts, hts | hts⟩ := h
  · rw [language_eq_prod, hts, map_append, prod_append, ← language_eq_prod]
    exact hq.mul_left
  · rw [language_eq_prod, hts, map_append, prod_append, ← language_eq_prod]
    exact hstar.mul_left

theorem mem_language_files_iff :
    text ∈ language ['/', '*'] ↔ ∃ name, text = '/' :: name ∧ '/' ∉ name := by
  rw [language_cons (by decide), mem_singles_mul_iff]
  constructor
  · rintro ⟨c, name, rfl, rfl, hname⟩
    exact ⟨name, rfl, mem_language_star_iff.mp hname⟩
  · rintro ⟨name, rfl, hname⟩
    exact ⟨'/', name, rfl, rfl, mem_language_star_iff.mpr hname⟩

/-- Two stars and a name stand for every text. -/
theorem mem_language_anywhere (text : List Char) : text ∈ language ['*', '*', '/', '*'] := by
  have hslash : '/' ∈ '/' :: text := mem_cons_self
  obtain ⟨front, last, htext, hlast⟩ := Path.exists_last_slash hslash
  have hlanguage : language ['*', '*', '/', '*'] = directories * language ['*'] := rfl
  rw [hlanguage, mem_directories_mul_iff]
  exact ⟨front, last, htext, mem_language_star_iff.mpr hlast⟩

/-- With one star more, a slash is needed. -/
theorem mem_language_slash_iff : text ∈ language ['*', '*', '*', '/', '*'] ↔ '/' ∈ text := by
  have hlanguage : language ['*', '*', '*', '/', '*'] =
      runs (fun _ => True) * (runs (· ≠ '/') * language ['/', '*']) := rfl
  rw [hlanguage]
  constructor
  · intro h
    obtain ⟨front, back, rfl, -, hback⟩ := mem_mul_iff.mp h
    obtain ⟨name, slash, rfl, -, hslash⟩ := mem_mul_iff.mp hback
    obtain ⟨last, rfl, -⟩ := mem_language_files_iff.mp hslash
    simp
  · intro h
    obtain ⟨front, last, rfl, hlast⟩ := Path.exists_last_slash h
    refine mem_mul_iff.mpr ⟨front, '/' :: last, rfl, fun _ _ => trivial, mem_mul_iff.mpr ?_⟩
    exact ⟨[], '/' :: last, rfl, nil_mem_runs _, mem_language_files_iff.mpr ⟨last, rfl, hlast⟩⟩

theorem grows_of_stars (h : ['*', '*'] <:+ p) : Grows (language p) := by
  have hthree (text : List Char) : text ∈ language ['*', '*', '*'] :=
    show text ∈ runs (fun _ => True) * language ['*'] from
      mem_runs_mul (mem_language_star_iff.mpr not_mem_nil) text
  refine (endsIn_of_suffix rfl h).grows ?_ ?_
  · exact fun text _ _ more => mem_language_stars (text ++ more)
  · exact fun text _ _ more => hthree (text ++ more)

theorem grows_of_files (h : ['*', '*', '/', '*'] <:+ p) : Grows (language p) := by
  refine (endsIn_of_suffix rfl h).grows ?_ ?_
  · exact fun text _ _ more => mem_language_anywhere (text ++ more)
  · intro text htext _ more
    rw [mem_language_slash_iff] at htext ⊢
    exact mem_append_left more htext

/-! ## Patterns with a slash -/

section Slash

variable (h : Trims pattern p) (hslash : '/' ∈ p)
  (hbase : ∀ base, p = base ++ ['/', '*', '*'] → '*' ∈ base)

include h hslash hbase

theorem matchesPath_iff_mem (hpath : '\n' ∉ path) :
    matchesPath path pattern = true ↔ path ∈ language p := by
  rw [matchesPath_of_glob h path (ne_nil_of_mem hslash) hbase, if_pos hslash,
    matchesWhole_iff hpath]

end Slash

/-- Everything below a directory is matched by a pattern that names all of that directory. -/
theorem matchesPath_below_of_directory (h : Trims pattern p) {base : List Char}
    (hp : p = base ++ ['/', '*', '*']) (hbase : '*' ∉ base)
    (hdirectory : matchesPath (directory ++ ['/']) pattern = true) (rest : List Char) :
    matchesPath (directory ++ '/' :: rest) pattern = true := by
  rw [matchesPath_of_directory h _ hp hbase] at hdirectory ⊢
  have hprefix : '/' :: (directory ++ ['/']) <+: '/' :: (directory ++ '/' :: rest) :=
    ⟨rest, by simp⟩
  exact hdirectory.trans hprefix.isInfix

/-! ## Patterns without a slash -/

section Bare

variable (h : Trims pattern p) (hne : p ≠ []) (hslash : '/' ∉ p)

include h hne hslash

theorem matchesPath_of_bare (path : List Char) :
    matchesPath path pattern = matchesWhole p (Path.baseName path) := by
  have hbase : ∀ base, p = base ++ ['/', '*', '*'] → '*' ∈ base := by
    rintro base rfl
    simp at hslash
  rw [matchesPath_of_glob h path hne hbase, if_neg hslash]

/-- A directory has no last name, since a slash is put at its end: only stars match it. -/
theorem matchesPath_directory_iff :
    matchesPath (directory ++ ['/']) pattern = true ↔ ∀ c ∈ p, c = '*' := by
  have hlast : Path.baseName (directory ++ ['/']) = [] := Path.baseName_append_cons not_mem_nil
  rw [matchesPath_of_bare h hne hslash, hlast, matchesWhole_iff not_mem_nil,
    nil_mem_language_iff hslash]

theorem matchesPath_baseName_iff (hpath : '\n' ∉ path) :
    matchesPath path pattern = true ↔ Path.baseName path ∈ language p := by
  have hname : '\n' ∉ Path.baseName path := mt ((Path.baseName_suffix path).subset ·) hpath
  rw [matchesPath_of_bare h hne hslash, matchesWhole_iff hname]

end Bare

/-! ## Below a directory that is left out -/

/-- Patterns that name all that is below a directory, if they name the directory at all. -/
def Covers (p : List Char) : Prop :=
  '/' ∉ p ∨ ['*', '*'] <:+ p ∨ ['*', '*', '/', '*'] <:+ p

theorem matchesPath_below_of_covers (h : Trims pattern p) (hcovers : Covers p)
    (hpath : '\n' ∉ directory ++ '/' :: rest)
    (hdirectory : matchesPath (directory ++ ['/']) pattern = true) :
    matchesPath (directory ++ '/' :: rest) pattern = true := by
  have hne : p ≠ [] := by
    intro hnil
    rw [matchesPath_of_nil h _ hnil] at hdirectory
    cases hdirectory
  by_cases hslash : '/' ∈ p
  · by_cases hbase : ∀ base, p = base ++ ['/', '*', '*'] → '*' ∈ base
    · have hgrows : Grows (language p) :=
        (hcovers.resolve_left (not_not_intro hslash)).elim grows_of_stars grows_of_files
      have hshort : '\n' ∉ directory ++ ['/'] := by simpa using fun hmem => hpath (by simp [hmem])
      rw [matchesPath_iff_mem h hslash hbase hshort] at hdirectory
      rw [matchesPath_iff_mem h hslash hbase hpath]
      have hmore := hgrows _ hdirectory (by simp) rest
      simpa using hmore
    · simp only [not_forall] at hbase
      obtain ⟨base, hp, hbase⟩ := hbase
      exact matchesPath_below_of_directory h hp hbase hdirectory rest
  · have hstars := (matchesPath_directory_iff h hne hslash).mp hdirectory
    rw [matchesPath_baseName_iff h hne hslash hpath]
    exact mem_language_of_stars hne hstars (Path.notMem_baseName _)

/-- Nothing is lost below the directories that a pattern matches: all that is there is matched. -/
def LosesNothing (pattern : List Char) : Prop :=
  ∀ directory rest, IsEntryPath (directory ++ '/' :: rest) →
    matchesPath (directory ++ ['/']) pattern = true →
      matchesPath (directory ++ '/' :: rest) pattern = true

theorem losesNothing_of_covers (h : Trims pattern p) (hcovers : Covers p) : LosesNothing pattern :=
  fun _ _ hentry hdirectory => matchesPath_below_of_covers h hcovers hentry.1 hdirectory

/-! ## Patterns that end in a slash or in a star after one -/

/-- A text that ends in a slash and in a text without one ends in the empty one. -/
theorem eq_nil_of_append_eq {front back : List Char} (h : directory ++ ['/'] = front ++ back)
    (hback : '/' ∉ back) : back = [] := by
  obtain rfl | ⟨init, c, rfl⟩ := eq_nil_or_concat back
  · rfl
  · have hlast := congrArg getLast? h
    rw [concat_eq_append, getLast?_concat, ← append_assoc, getLast?_concat] at hlast
    obtain rfl := Option.some.inj hlast
    simp at hback

theorem mem_language_within_iff (hapart : ¬ ['*', '*'] <:+ q) {name : List Char}
    (hname : '/' ∉ name) :
    directory ++ '/' :: name ∈ language (q ++ ['/', '*']) ↔ directory ∈ language q := by
  rw [language_append (apart_slash hapart), mem_mul_iff]
  constructor
  · rintro ⟨front, back, heq, hfront, hback⟩
    obtain ⟨last, rfl, hlast⟩ := mem_language_files_iff.mp hback
    have hsame := congrArg Path.baseName heq
    rw [Path.baseName_append_cons hname, Path.baseName_append_cons hlast] at hsame
    obtain rfl := hsame
    rwa [append_cancel_right heq]
  · intro hmem
    exact ⟨directory, '/' :: name, rfl, hmem, mem_language_files_iff.mpr ⟨name, rfl, hname⟩⟩

theorem mem_language_itself_iff (htokens : tokens p = tokens q ++ [.char '/']) :
    text ∈ language p ↔ ∃ front ∈ language q, text = front ++ ['/'] := by
  rw [language_of_tokens htokens, map_singleton, prod_singleton, mem_mul_iff]
  constructor
  · rintro ⟨front, back, rfl, hfront, slash, rfl, rfl⟩
    exact ⟨front, hfront, rfl⟩
  · rintro ⟨front, hfront, rfl⟩
    exact ⟨front, ['/'], rfl, hfront, '/', rfl, rfl⟩

theorem mem_language_directories_iff (htokens : tokens p = tokens q ++ [.directories]) :
    text ∈ language p ↔
      ∃ front ∈ language q, front = text ∨ front <+: text ∧ text.getLast? = some '/' := by
  rw [language_of_tokens htokens, map_singleton, prod_singleton, mem_mul_iff]
  constructor
  · rintro ⟨front, back, rfl, hfront, rfl | ⟨init, rfl⟩⟩
    · exact ⟨front, hfront, Or.inl (append_nil front).symm⟩
    · refine ⟨front, hfront, Or.inr ⟨prefix_append _ _, ?_⟩⟩
      rw [← append_assoc, getLast?_concat]
  · rintro ⟨front, hfront, rfl | ⟨⟨back, rfl⟩, hend⟩⟩
    · exact ⟨front, [], (append_nil front).symm, hfront, Or.inl rfl⟩
    · obtain rfl | ⟨init, c, rfl⟩ := eq_nil_or_concat back
      · exact ⟨front, [], rfl, hfront, Or.inl rfl⟩
      · rw [concat_eq_append, ← append_assoc, getLast?_concat] at hend
        obtain rfl := Option.some.inj hend
        exact ⟨front, init ++ ['/'], by simp, hfront, Or.inr ⟨init, rfl⟩⟩

/-- Where neither a slash nor a star after a slash or a star ends a pattern, no directory is
matched. -/
theorem directory_notMem_language (hslash : ¬ ['/'] <:+ p) (hfiles : ¬ ['/', '*'] <:+ p)
    (hstars : ¬ ['*', '*'] <:+ p) (hne : p ≠ ['*']) : directory ++ ['/'] ∉ language p := by
  intro hmem
  obtain hlast | hlast := last_of_mem_language hmem (getLast?_concat ..)
  · obtain ⟨q, rfl⟩ := getLast?_eq_some_iff.mp hlast
    have hq : q.getLast? ≠ some '*' ∧ q.getLast? ≠ some '/' := by
      constructor
      · intro hq
        obtain ⟨front, rfl⟩ := getLast?_eq_some_iff.mp hq
        exact hstars ⟨front, by simp⟩
      · intro hq
        obtain ⟨front, rfl⟩ := getLast?_eq_some_iff.mp hq
        exact hfiles ⟨front, by simp⟩
    rw [language_append (apart_of_getLast hq.1)] at hmem
    obtain ⟨front, back, heq, hfront, hback⟩ := mem_mul_iff.mp hmem
    obtain rfl := eq_nil_of_append_eq heq (mem_language_star_iff.mp hback)
    rw [append_nil] at heq
    obtain hlast | hlast := last_of_mem_language hfront (by rw [← heq, getLast?_concat])
    · exact hq.1 hlast
    · exact hq.2 hlast
  · obtain ⟨q, rfl⟩ := getLast?_eq_some_iff.mp hlast
    exact hslash (suffix_append q _)

section Ends

variable (h : Trims pattern p) (hslash : '/' ∈ p) (hend : ¬ ['/', '*', '*'] <:+ p)

include h hslash hend

theorem matchesPath_iff_of_end (hpath : '\n' ∉ path) :
    matchesPath path pattern = true ↔ path ∈ language p := by
  refine matchesPath_iff_mem h hslash (fun base hp => ?_) hpath
  exact absurd ⟨base, hp.symm⟩ hend

theorem matchesPath_directory_iff_of_end (hdirectory : '\n' ∉ directory) :
    matchesPath (directory ++ ['/']) pattern = true ↔ directory ++ ['/'] ∈ language p :=
  matchesPath_iff_of_end h hslash hend (by simpa using hdirectory)

end Ends

/-! A star after a slash: the files of a directory. -/

section Within

variable (h : Trims pattern (q ++ ['/', '*'])) (hapart : ¬ ['*', '*'] <:+ q)

include h hapart

theorem matchesPath_within_iff {name : List Char} (hpath : '\n' ∉ directory ++ '/' :: name)
    (hname : '/' ∉ name) :
    matchesPath (directory ++ '/' :: name) pattern = true ↔ directory ∈ language q := by
  have hend : ¬ ['/', '*', '*'] <:+ q ++ ['/', '*'] := by simp [← reverse_prefix]
  rw [matchesPath_iff_of_end h (by simp) hend hpath]
  exact mem_language_within_iff hapart hname

theorem matchesPath_directory_within_iff (hdirectory : '\n' ∉ directory) :
    matchesPath (directory ++ ['/']) pattern = true ↔ directory ∈ language q :=
  matchesPath_within_iff h hapart (by simpa using hdirectory) not_mem_nil

/-- Below a directory there are its files, which are matched with it, and those of the directories
in it: the latter are matched if what is before the star stands for these directories too. -/
theorem losesNothing_within_iff : LosesNothing pattern ↔ ∀ directory more,
    IsEntryPath (directory ++ '/' :: more) → directory ∈ language q →
      directory ++ '/' :: more ∈ language q := by
  constructor
  · intro hnothing directory more hentry hmem
    -- a file in the directory below shows whether that one is in the language too
    have hname : IsEntryPath ['x'] := isEntryPath_of_notMem (by decide) (by decide) (by decide)
    have hfile : IsEntryPath (directory ++ '/' :: (more ++ '/' :: ['x'])) := by
      rw [← cons_append, ← append_assoc, isEntryPath_append_iff]
      exact ⟨hentry, hname⟩
    have hmatched := hnothing directory _ hfile <|
      (matchesPath_directory_within_iff h hapart (isEntryPath_append_iff.mp hentry).1.1).mpr hmem
    rw [← cons_append, ← append_assoc] at hmatched hfile
    exact (matchesPath_within_iff h hapart hfile.1 (by decide)).mp hmatched
  · intro hbelow directory rest hentry hdirectory
    have hmem := (matchesPath_directory_within_iff h hapart
      (isEntryPath_append_iff.mp hentry).1.1).mp hdirectory
    by_cases hrest : '/' ∈ rest
    · obtain ⟨more, name, rfl, hname⟩ := Path.exists_last_slash hrest
      rw [← cons_append, ← append_assoc] at hentry ⊢
      rw [matchesPath_within_iff h hapart hentry.1 hname]
      exact hbelow directory more (isEntryPath_append_iff.mp hentry).1 hmem
    · exact (matchesPath_within_iff h hapart hentry.1 hrest).mpr hmem

end Within

/-! A slash at the end: directories alone, unless two stars before it stand for any number of
them. -/

theorem matchesPath_iff_of_getLast (h : Trims pattern p) (hlast : p.getLast? = some '/')
    (hpath : '\n' ∉ path) : matchesPath path pattern = true ↔ path ∈ language p := by
  obtain ⟨q, rfl⟩ := getLast?_eq_some_iff.mp hlast
  exact matchesPath_iff_of_end h (by simp) (by simp [← reverse_prefix]) hpath

section Itself

variable (h : Trims pattern p) (htokens : tokens p = tokens q ++ [.char '/'])

include h htokens

theorem matchesPath_itself_iff (hpath : '\n' ∉ path) :
    matchesPath path pattern = true ↔ ∃ front ∈ language q, path = front ++ ['/'] := by
  rw [matchesPath_iff_of_getLast h (getLast_of_tokens htokens) hpath]
  exact mem_language_itself_iff htokens

theorem matchesPath_directory_itself_iff (hdirectory : '\n' ∉ directory) :
    matchesPath (directory ++ ['/']) pattern = true ↔ directory ∈ language q := by
  rw [matchesPath_itself_iff h htokens (by simpa using hdirectory)]
  constructor
  · rintro ⟨front, hfront, heq⟩
    rwa [append_cancel_right heq]
  · exact fun hmem => ⟨directory, hmem, rfl⟩

theorem losesNothing_itself_iff :
    LosesNothing pattern ↔ ∀ directory, IsEntryPath directory → directory ∉ language q := by
  constructor
  · intro hnothing directory hentry hmem
    have hfile : IsEntryPath (directory ++ '/' :: ['x']) :=
      isEntryPath_append_iff.mpr
        ⟨hentry, isEntryPath_of_notMem (by decide) (by decide) (by decide)⟩
    have hmatched := hnothing directory _ hfile <|
      (matchesPath_directory_itself_iff h htokens hentry.1).mpr hmem
    obtain ⟨front, -, heq⟩ := (matchesPath_itself_iff h htokens hfile.1).mp hmatched
    exact Path.getLast_ne_of_split hfile.2 (heq ▸ getLast?_concat ..)
  · intro hnone directory rest hentry hdirectory
    obtain ⟨hentry, -⟩ := isEntryPath_append_iff.mp hentry
    have hmem := (matchesPath_directory_itself_iff h htokens hentry.1).mp hdirectory
    exact absurd hmem (hnone directory hentry)

end Itself

section OnTheWay

variable (h : Trims pattern p) (htokens : tokens p = tokens q ++ [.directories])

include h htokens

theorem matchesPath_onTheWay_iff (hpath : '\n' ∉ path) :
    matchesPath path pattern = true ↔
      ∃ front ∈ language q, front = path ∨ front <+: path ∧ path.getLast? = some '/' := by
  rw [matchesPath_iff_of_getLast h (getLast_of_tokens htokens) hpath]
  exact mem_language_directories_iff htokens

theorem matchesPath_directory_onTheWay_iff (hdirectory : '\n' ∉ directory) :
    matchesPath (directory ++ ['/']) pattern = true ↔
      ∃ front ∈ language q, front <+: directory ++ ['/'] := by
  rw [matchesPath_onTheWay_iff h htokens (by simpa using hdirectory)]
  refine exists_congr fun front => and_congr_right fun _ => ?_
  rw [getLast?_concat, and_iff_left rfl]
  exact ⟨fun hfront => hfront.elim (fun heq => heq ▸ prefix_rfl) id, Or.inr⟩

theorem losesNothing_onTheWay_iff : LosesNothing pattern ↔ ∀ directory rest,
    IsEntryPath (directory ++ '/' :: rest) → (∃ front ∈ language q, front <+: directory ++ ['/']) →
      directory ++ '/' :: rest ∈ language q := by
  have hfile (path : List Char) (hentry : IsEntryPath path) :
      matchesPath path pattern = true ↔ path ∈ language q := by
    rw [matchesPath_onTheWay_iff h htokens hentry.1]
    simp [Path.getLast_ne_of_split hentry.2]
  refine forall_congr' fun directory => forall_congr' fun rest => forall_congr' fun hentry => ?_
  rw [hfile _ hentry,
    matchesPath_directory_onTheWay_iff h htokens (isEntryPath_append_iff.mp hentry).1.1]

end OnTheWay

/-! Any other end. -/

theorem matchesPath_directory_of_other (h : Trims pattern p) (hslash : '/' ∈ p)
    (hlast : ¬ ['/'] <:+ p) (hfiles : ¬ ['/', '*'] <:+ p) (hstars : ¬ ['*', '*'] <:+ p)
    (hdirectory : '\n' ∉ directory) : matchesPath (directory ++ ['/']) pattern = false := by
  have hend : ¬ ['/', '*', '*'] <:+ p := fun hend => hstars ((suffix_cons _ _).trans hend)
  have hne : p ≠ ['*'] := by
    rintro rfl
    simp at hslash
  rw [Bool.eq_false_iff, ne_eq, matchesPath_directory_iff_of_end h hslash hend hdirectory]
  exact directory_notMem_language hlast hfiles hstars hne

end SourceDigest.Glob

namespace SourceDigest

open List

/-! ## What a search finds -/

namespace Filter

variable {f : Filter} {pattern : List Char}

def without (f : Filter) (pattern : List Char) : Filter :=
  { f with excludes := f.excludes.filter (· != pattern) }

theorem any_excludes_eq_without (h : pattern ∈ f.excludes) (matched : List Char → Bool) :
    f.excludes.any matched = ((f.without pattern).excludes.any matched || matched pattern) := by
  rw [Bool.eq_iff_iff, Bool.or_eq_true]
  simp only [without, any_eq_true, mem_filter, bne_iff_ne]
  constructor
  · intro hmatched
    obtain ⟨other, hother, hmatches⟩ := hmatched
    by_cases hsame : other = pattern
    · exact Or.inr (hsame ▸ hmatches)
    · exact Or.inl ⟨other, ⟨hother, hsame⟩, hmatches⟩
  · intro hmatched
    cases hmatched with
    | inl hrest =>
      obtain ⟨other, ⟨hother, -⟩, hmatches⟩ := hrest
      exact ⟨other, hother, hmatches⟩
    | inr hmatches => exact ⟨pattern, h, hmatches⟩

theorem isExcluded_eq_without (h : pattern ∈ f.excludes) (path : List Char) (isDirectory : Bool) :
    f.isExcluded path isDirectory = ((f.without pattern).isExcluded path isDirectory ||
      Glob.matchesPath (if isDirectory then path ++ ['/'] else path) pattern) := by
  simp only [isExcluded, any_excludes_eq_without h, Bool.or_assoc]
  rfl

end Filter

namespace Discovery

variable {f : Filter} {project : Project} {pattern p path : List Char} {bytes : Option ByteArray}

/-- A filter that leaves out what a pattern matches and nothing else. -/
def excluding (pattern : List Char) : Filter :=
  ⟨true, [pattern], [], [], fun _ => false⟩

theorem isExcluded_excluding_without (pattern path : List Char) (isDirectory : Bool) :
    ((excluding pattern).without pattern).isExcluded path isDirectory = false := by
  simp [excluding, Filter.without, Filter.isExcluded, Ignore.ignores]

theorem mem_files_iff_without (hnothing : Glob.LosesNothing pattern) (h : pattern ∈ f.excludes)
    (hplain : Plain project.items) (hpath : '\n' ∉ path) :
    (path, bytes) ∈ files f project ↔
      (path, bytes) ∈ files (f.without pattern) project ∧
        Glob.matchesPath path pattern = false := by
  by_cases hentry : IsEntryPath path
  · apply mem_files_of_inherited hplain (Filter.isExcluded_eq_without h)
    rintro front rest rfl hfront
    exact hnothing front rest hentry hfront
  · refine iff_of_false ?_ ?_
    · exact fun hmem => hentry (isEntryPath_of_mem_files hplain hpath hmem)
    · exact fun hmem => hentry (isEntryPath_of_mem_files hplain hpath hmem.1)

/-- Where nothing is lost, it does not matter that directories are passed over: with the pattern a
search finds what it finds without it, less the files that the pattern matches. What is lost can be
seen in a project of one file. -/
theorem losesNothing_iff : Glob.LosesNothing pattern ↔
    ∀ (f : Filter) (project : Project), pattern ∈ f.excludes → Plain project.items →
      ∀ path bytes, '\n' ∉ path → ((path, bytes) ∈ files f project ↔
        (path, bytes) ∈ files (f.without pattern) project ∧
          Glob.matchesPath path pattern = false) := by
  constructor
  · intro hnothing f project hmem hplain path bytes hpath
    exact mem_files_iff_without hnothing hmem hplain hpath
  · intro hfiles directory rest hentry hdirectory
    by_contra hunmatched
    let names := namesOf (directory ++ '/' :: rest)
    have hmem : pattern ∈ (excluding pattern).excludes := mem_singleton_self pattern
    have hplain : Plain (alone names) := plain_alone (isEntryName_of_mem_namesOf hentry)
    have hall : (directory ++ '/' :: rest, some .empty) ∈
        files ((excluding pattern).without pattern) ⟨"", alone names⟩ := by
      rw [mem_files hplain]
      refine ⟨names, fileAt_alone (namesOf_ne_nil _), (pathOf_namesOf _).symm,
        isExcluded_excluding_without _ _ _, ?_⟩
      exact fun _ _ _ _ _ => isExcluded_excluding_without _ _ _
    have hfound := (hfiles _ ⟨"", alone names⟩ hmem hplain _ _ hentry.1).mpr
      ⟨hall, Bool.eq_false_iff.mpr hunmatched⟩
    obtain ⟨others, hothers, hpath, hshown⟩ := (mem_files hplain).mp hfound
    have hsame : others = namesOf directory ++ namesOf rest := by
      rw [← namesOf_append]
      apply pathOf_injective (hothers.isEntryName hplain) (isEntryName_of_mem_namesOf hentry)
        hothers.ne_nil (namesOf_ne_nil _)
      rw [← hpath, pathOf_namesOf]
    -- the only file was found, so the directory on the way to it was not passed over
    have hentered := hshown.folders _ _ hsame (namesOf_ne_nil _) (namesOf_ne_nil _)
    rw [pathOf_namesOf, Filter.isExcluded_eq_without hmem, if_pos rfl, hdirectory,
      Bool.or_true] at hentered
    cases hentered

/-- What a pattern does to directories and to what is below them. Where it loses nothing, passing
over directories changes nothing, and whether it does so is told by the way it ends. Some patterns
match everything below a directory that they match, and most patterns match no directory. In between
there are those that match directories by a star or by nothing after a last slash. -/
structure PruningSpec (pattern p : List Char) : Prop where
  found : Glob.LosesNothing pattern ↔
    ∀ (f : Filter) (project : Project), pattern ∈ f.excludes → Plain project.items →
      ∀ path bytes, '\n' ∉ path → ((path, bytes) ∈ files f project ↔
        (path, bytes) ∈ files (f.without pattern) project ∧ Glob.matchesPath path pattern = false)
  covered : Glob.Covers p → Glob.LosesNothing pattern
  below : ∀ base, p = base ++ ['/', '*', '*'] → '*' ∉ base → ∀ directory rest,
    Glob.matchesPath (directory ++ ['/']) pattern = true →
      Glob.matchesPath (directory ++ '/' :: rest) pattern = true
  within : ∀ q, p = q ++ ['/', '*'] → ¬ ['*', '*'] <:+ q →
    (∀ directory, '\n' ∉ directory →
      (Glob.matchesPath (directory ++ ['/']) pattern = true ↔ directory ∈ Glob.language q)) ∧
    (Glob.LosesNothing pattern ↔ ∀ directory more, IsEntryPath (directory ++ '/' :: more) →
      directory ∈ Glob.language q → directory ++ '/' :: more ∈ Glob.language q)
  slash : p.getLast? = some '/' → ∃ q, Glob.tokens p = Glob.tokens q ++ [.char '/'] ∨
    Glob.tokens p = Glob.tokens q ++ [.directories]
  itself : ∀ q, Glob.tokens p = Glob.tokens q ++ [.char '/'] →
    (∀ directory, '\n' ∉ directory →
      (Glob.matchesPath (directory ++ ['/']) pattern = true ↔ directory ∈ Glob.language q)) ∧
    (Glob.LosesNothing pattern ↔
      ∀ directory, IsEntryPath directory → directory ∉ Glob.language q)
  onTheWay : ∀ q, Glob.tokens p = Glob.tokens q ++ [.directories] →
    (∀ directory, '\n' ∉ directory → (Glob.matchesPath (directory ++ ['/']) pattern = true ↔
      ∃ front ∈ Glob.language q, front <+: directory ++ ['/'])) ∧
    (Glob.LosesNothing pattern ↔ ∀ directory rest, IsEntryPath (directory ++ '/' :: rest) →
      (∃ front ∈ Glob.language q, front <+: directory ++ ['/']) →
        directory ++ '/' :: rest ∈ Glob.language q)
  other : '/' ∈ p → ¬ ['/'] <:+ p → ¬ ['/', '*'] <:+ p → ¬ ['*', '*'] <:+ p →
    ∀ directory, '\n' ∉ directory → Glob.matchesPath (directory ++ ['/']) pattern = false

theorem prunes (h : Glob.Trims pattern p) : PruningSpec pattern p where
  found := losesNothing_iff
  covered hcovers := Glob.losesNothing_of_covers h hcovers
  below _ hp hbase _ rest hdirectory :=
    Glob.matchesPath_below_of_directory h hp hbase hdirectory rest
  within := by
    rintro q rfl hapart
    exact ⟨fun _ => Glob.matchesPath_directory_within_iff h hapart,
      Glob.losesNothing_within_iff h hapart⟩
  slash := Glob.tokens_of_slash
  itself _ htokens := ⟨fun _ => Glob.matchesPath_directory_itself_iff h htokens,
    Glob.losesNothing_itself_iff h htokens⟩
  onTheWay _ htokens := ⟨fun _ => Glob.matchesPath_directory_onTheWay_iff h htokens,
    Glob.losesNothing_onTheWay_iff h htokens⟩
  other hslash hlast hfiles hstars _ hdirectory :=
    Glob.matchesPath_directory_of_other h hslash hlast hfiles hstars hdirectory

/-- A project with one file, two folders below the top. -/
def nested : Project :=
  ⟨"demo", [("src", .folder false [("app", .folder false [("main.py", .file (some ⟨#[120]⟩))])])]⟩

theorem plain_nested : Plain nested.items := by
  have hnames : IsEntryName "src" ∧ IsEntryName "app" ∧ IsEntryName "main.py" := by decide
  simp [nested, plain_cons, plain_nil, hnames]

theorem prunes_nested :
    Glob.Trims " /src/**/* ".toList "src/**/*".toList ∧ Glob.Covers "src/**/*".toList ∧
      '\n' ∉ "src/app/main.py".toList ∧ Plain nested.items ∧
      Glob.matchesPath "src/".toList " /src/**/* ".toList = true ∧
      Glob.matchesPath "src/app/main.py".toList " /src/**/* ".toList = true ∧
      ("src/app/main.py".toList, some ⟨#[120]⟩) ∉
        files (excluding " /src/**/* ".toList) nested := by
  have htrims : Glob.Trims " /src/**/* ".toList "src/**/*".toList := Glob.trims_iff.mpr (by decide)
  have hcovers : Glob.Covers "src/**/*".toList := Or.inr (Or.inr (by decide))
  have hfeed : '\n' ∉ "src/app/main.py".toList := by decide
  have hdirectory : Glob.matchesPath "src/".toList " /src/**/* ".toList = true := by decide
  have hnothing := (prunes htrims).covered hcovers
  have hmatched : Glob.matchesPath "src/app/main.py".toList " /src/**/* ".toList = true :=
    hnothing "src".toList "app/main.py".toList ⟨hfeed, by decide⟩ hdirectory
  have hfiles := (prunes htrims).found.mp hnothing (excluding " /src/**/* ".toList) nested
    (mem_singleton_self _) plain_nested _ (some ⟨#[120]⟩) hfeed
  refine ⟨htrims, hcovers, hfeed, plain_nested, hdirectory, hmatched, fun hfound => ?_⟩
  have hunmatched := (hfiles.mp hfound).2
  rw [hmatched] at hunmatched
  cases hunmatched

/-- A directory is left out because a star stands for nothing after it, and a file two levels below
it is lost: the pattern does not match the file. -/
theorem unmatched_file_lost :
    Glob.matchesPath "src/".toList "src/*".toList = true ∧
      Glob.matchesPath "src/app/main.py".toList "src/*".toList = false ∧
      ("src/app/main.py".toList, some ⟨#[120]⟩) ∈
        files ((excluding "src/*".toList).without "src/*".toList) nested ∧
      files (excluding "src/*".toList) nested = [] :=
  ⟨by decide, by decide, mem_cons_self, rfl⟩

end Discovery

end SourceDigest
