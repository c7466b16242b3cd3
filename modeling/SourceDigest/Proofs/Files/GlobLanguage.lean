import Mathlib.Computability.Language
import SourceDigest.Files.Glob
import SourceDigest.Proofs.Path.Segments
import SourceDigest.Proofs.Text.Cutting

/-! The language of a glob pattern. A pattern denotes a set of texts, with one factor for each of
its wildcards and characters from left to right, and the matcher accepts the texts of that set.
Together with the rules for `base/**` and for patterns without a slash that says which paths a
pattern matches. -/

namespace SourceDigest.Glob

open List

/-! ## Texts that a pattern stands for -/

/-- Any directories or none: nothing, or a text that ends in a slash. -/
def directories : Language Char :=
  {text | text = [] ∨ ∃ front, text = front ++ ['/']}

/-- Texts of any length from characters of a kind. -/
def runs (p : Char → Prop) : Language Char :=
  {text | ∀ c ∈ text, p c}

def singles (p : Char → Prop) : Language Char :=
  {text | ∃ c, p c ∧ text = [c]}

def language : (pattern : List Char) → Language Char
  | '*' :: '*' :: '/' :: rest => directories * language rest
  | '*' :: '*' :: rest => runs (fun _ => True) * language rest
  | '*' :: rest => runs (· ≠ '/') * language rest
  | '?' :: rest => singles (· ≠ '/') * language rest
  | c :: rest => singles (· = c) * language rest
  | [] => 1

theorem mem_mul_iff {first second : Language Char} {text : List Char} :
    text ∈ first * second ↔ ∃ front rest, text = front ++ rest ∧ front ∈ first ∧ rest ∈ second := by
  rw [Language.mem_mul]
  constructor
  · rintro ⟨front, hfront, rest, hrest, rfl⟩
    exact ⟨front, rest, rfl, hfront, hrest⟩
  · rintro ⟨front, rest, rfl, hfront, hrest⟩
    exact ⟨front, hfront, rest, hrest, rfl⟩

theorem mem_singles_mul_iff {p : Char → Prop} {second : Language Char} {text : List Char} :
    text ∈ singles p * second ↔ ∃ c rest, text = c :: rest ∧ p c ∧ rest ∈ second := by
  rw [mem_mul_iff]
  constructor
  · rintro ⟨_, rest, rfl, ⟨c, hc, rfl⟩, hrest⟩
    exact ⟨c, rest, rfl, hc, hrest⟩
  · rintro ⟨c, rest, rfl, hc, hrest⟩
    exact ⟨[c], rest, rfl, ⟨c, hc, rfl⟩, hrest⟩

/-! ## Texts that tokens accept -/

section Continuations

variable {p : Char → Bool} {accepted : List Char → Bool} {text : List Char}

theorem afterRun_iff : afterRun p accepted text = true ↔
    ∃ front rest, text = front ++ rest ∧ (∀ c ∈ front, p c = true) ∧ accepted rest = true := by
  induction text with
  | nil =>
    constructor
    · intro h
      exact ⟨[], [], rfl, by simp, h⟩
    · rintro ⟨front, rest, htext, -, h⟩
      obtain ⟨-, rfl⟩ := append_eq_nil_iff.mp htext.symm
      exact h
  | cons c text ih =>
    rw [afterRun, Bool.or_eq_true, Bool.and_eq_true, ih]
    constructor
    · rintro (h | ⟨hc, front, rest, rfl, hfront, h⟩)
      · exact ⟨[], c :: text, rfl, by simp, h⟩
      · exact ⟨c :: front, rest, rfl, forall_mem_cons.mpr ⟨hc, hfront⟩, h⟩
    · rintro ⟨front, rest, htext, hfront, h⟩
      cases front with
      | nil => exact Or.inl (by rwa [htext])
      | cons d front =>
        obtain ⟨rfl, rfl⟩ := cons.inj htext
        obtain ⟨hc, hfront⟩ := forall_mem_cons.mp hfront
        exact Or.inr ⟨hc, front, rest, rfl, hfront, h⟩

theorem afterSlash_iff : afterSlash accepted text = true ↔
    ∃ front rest, text = front ++ '/' :: rest ∧ '\n' ∉ front ∧ accepted rest = true := by
  induction text with
  | nil => simp [afterSlash]
  | cons c text ih =>
    rw [afterSlash, Bool.or_eq_true, Bool.and_eq_true, Bool.and_eq_true, ih, beq_iff_eq,
      bne_iff_ne]
    constructor
    · rintro (⟨rfl, h⟩ | ⟨hc, front, rest, rfl, hfront, h⟩)
      · exact ⟨[], text, rfl, not_mem_nil, h⟩
      · exact ⟨c :: front, rest, rfl, by simp [hfront, Ne.symm hc], h⟩
    · rintro ⟨front, rest, htext, hfront, h⟩
      cases front with
      | nil =>
        obtain ⟨rfl, rfl⟩ := cons.inj htext
        exact Or.inl ⟨rfl, h⟩
      | cons d front =>
        obtain ⟨rfl, rfl⟩ := cons.inj htext
        obtain ⟨hc, hfront⟩ := not_or.mp (mt mem_cons.mpr hfront)
        exact Or.inr ⟨Ne.symm hc, front, rest, rfl, hfront, h⟩

variable {texts : Language Char}
  (h : ∀ front rest, text = front ++ rest → (accepted rest = true ↔ rest ∈ texts))

include h

theorem afterRun_iff_mem {kind : Char → Prop} (hp : ∀ c ∈ text, p c = true ↔ kind c) :
    afterRun p accepted text = true ↔ text ∈ runs kind * texts := by
  rw [afterRun_iff, mem_mul_iff]
  constructor
  · rintro ⟨front, rest, htext, hfront, hrest⟩
    have hkind : ∀ c ∈ front, kind c := fun c hc =>
      (hp c (htext ▸ mem_append_left _ hc)).mp (hfront c hc)
    exact ⟨front, rest, htext, hkind, (h front rest htext).mp hrest⟩
  · rintro ⟨front, rest, htext, hfront, hrest⟩
    have hp : ∀ c ∈ front, p c = true := fun c hc =>
      (hp c (htext ▸ mem_append_left _ hc)).mpr (hfront c hc)
    exact ⟨front, rest, htext, hp, (h front rest htext).mpr hrest⟩

theorem afterSlash_iff_mem (hfeed : '\n' ∉ text) :
    (accepted text || afterSlash accepted text) = true ↔ text ∈ directories * texts := by
  rw [Bool.or_eq_true, afterSlash_iff, mem_mul_iff]
  constructor
  · rintro (hall | ⟨front, rest, htext, -, hrest⟩)
    · exact ⟨[], text, rfl, Or.inl rfl, (h [] text rfl).mp hall⟩
    · rw [append_cons] at htext
      exact ⟨front ++ ['/'], rest, htext, Or.inr ⟨front, rfl⟩, (h _ rest htext).mp hrest⟩
  · rintro ⟨front, rest, htext, hfront, hrest⟩
    have hrest := (h front rest htext).mpr hrest
    rcases hfront with rfl | ⟨front, rfl⟩
    · exact Or.inl (htext ▸ hrest)
    · rw [← append_cons] at htext
      have hfront : '\n' ∉ front := fun hmem => hfeed (htext ▸ mem_append_left _ hmem)
      exact Or.inr ⟨front, rest, htext, hfront, hrest⟩

end Continuations

def Token.texts : Token → Language Char
  | directories => Glob.directories
  | anything => runs fun _ => True
  | segment => runs (· ≠ '/')
  | single => singles (· ≠ '/')
  | char c => singles (· = c)

theorem language_eq_prod (pattern : List Char) :
    language pattern = ((tokens pattern).map Token.texts).prod := by
  induction pattern using language.induct with
  | case1 rest ih => rw [language, tokens, map_cons, prod_cons, ih, Token.texts]
  | case2 rest _ ih => rw [language, tokens, map_cons, prod_cons, ih, Token.texts] <;> assumption
  | case3 rest _ _ ih => rw [language, tokens, map_cons, prod_cons, ih, Token.texts] <;> assumption
  | case4 rest ih => rw [language, tokens, map_cons, prod_cons, ih, Token.texts]
  | case5 c rest _ _ _ _ ih =>
    rw [language, tokens, map_cons, prod_cons, ih, Token.texts] <;> assumption
  | case6 => rfl

/-- The matcher finds a match where there is one, and no others. Line feeds are left out, since it
treats them apart. -/
theorem accepts_iff {ts : List Token} {text : List Char} (hfeed : '\n' ∉ text) :
    accepts ts text = true ↔ text ∈ (ts.map Token.texts).prod := by
  induction ts generalizing text with
  | nil =>
    have hne : text ≠ ['\n'] := by
      rintro rfl
      exact hfeed mem_cons_self
    simp [accepts, hne]
  | cons token ts ih =>
    have hrest : ∀ front rest, text = front ++ rest →
        (accepts ts rest = true ↔ rest ∈ (ts.map Token.texts).prod) :=
      fun _ _ htext => ih fun hmem => hfeed (htext ▸ mem_append_right _ hmem)
    rw [map_cons, prod_cons]
    cases token with
    | directories => exact afterSlash_iff_mem hrest hfeed
    | anything =>
      apply afterRun_iff_mem hrest
      intro c hc
      have hne : c ≠ '\n' := fun h => hfeed (h ▸ hc)
      simp [hne]
    | segment =>
      apply afterRun_iff_mem hrest
      simp
    | single =>
      rw [Token.texts, mem_singles_mul_iff]
      cases text with
      | nil => simp [accepts]
      | cons c text => simp [accepts, hrest [c] text rfl]
    | char d =>
      rw [Token.texts, mem_singles_mul_iff]
      cases text with
      | nil => simp [accepts]
      | cons c text => simp [accepts, hrest [c] text rfl]

theorem matchesWhole_iff {pattern text : List Char} (hfeed : '\n' ∉ text) :
    matchesWhole pattern text = true ↔ text ∈ language pattern := by
  rw [matchesWhole, accepts_iff hfeed, language_eq_prod]

/-! ## Paths that a pattern matches -/

/-- What a pattern comes to: white space around it does not count, and slashes at the start of
what is left do not count either. -/
def Trims (pattern p : List Char) : Prop :=
  ∃ slashes, Text.Strips Text.isBlank pattern (slashes ++ p) ∧ (∀ c ∈ slashes, c = '/') ∧
    p.head? ≠ some '/'

theorem trims_iff {pattern p : List Char} :
    Trims pattern p ↔ (Text.strip pattern).dropWhile (· == '/') = p := by
  constructor
  · rintro ⟨slashes, hstrips, hslashes, hhead⟩
    have hpass : ∀ c ∈ slashes, (c == '/') = true := fun c hc => beq_iff_eq.mpr (hslashes c hc)
    have hstop : ∀ c ∈ p.head?, (c == '/') = false := by
      intro c hc
      exact beq_eq_false_iff_ne.mpr fun h => hhead (h ▸ Option.mem_def.mp hc)
    rw [Text.strip, hstrips.eq, dropWhile_append_of_pos hpass,
      Text.dropWhile_eq_self_of_head hstop]
  · rintro rfl
    refine ⟨(Text.strip pattern).takeWhile (· == '/'), ?_, ?_, ?_⟩
    · rw [takeWhile_append_dropWhile]
      exact Text.strips_stripBy Text.isBlank pattern
    · intro c hc
      exact beq_iff_eq.mp (mem_takeWhile_imp hc :)
    · intro hhead
      have hnot := Text.head_dropWhile (· == '/') (Text.strip pattern) '/' hhead
      simp at hnot

/-- When a path is matched by a pattern that is already trimmed. An empty pattern matches nothing.
One that names all of a directory matches what has that directory among its own. Of any other
pattern the language decides, on the whole path or, without a slash, on its last name. -/
structure MatchSpec (p path : List Char) (matched : Bool) : Prop where
  empty : p = [] → matched = false
  directory : ∀ base, p = base ++ ['/', '*', '*'] → '*' ∉ base →
    (matched = true ↔ '/' :: base ++ ['/'] <:+: '/' :: path)
  whole : '/' ∈ p → (∀ base, p = base ++ ['/', '*', '*'] → '*' ∈ base) →
    (matched = true ↔ path ∈ language p)
  last : p ≠ [] → '/' ∉ p → ∀ name, '/' ∉ name →
    (path = name ∨ ∃ front, path = front ++ '/' :: name) →
    (matched = true ↔ name ∈ language p)

theorem directoryBase_eq_some_iff {p base : List Char} :
    directoryBase? p = some base ↔ p = base ++ ['/', '*', '*'] ∧ '*' ∉ base := by
  have hend : "/**".toList = ['/', '*', '*'] := rfl
  rw [directoryBase?, hend]
  constructor
  · intro h
    split at h
    · rename_i hsuffix
      obtain ⟨front, rfl⟩ := isSuffixOf_iff_suffix.mp hsuffix
      have hfront : '*' ∉ front ∧ front = base := by simpa using h
      exact ⟨hfront.2 ▸ rfl, hfront.2 ▸ hfront.1⟩
    · cases h
  · rintro ⟨rfl, hbase⟩
    simp [hbase]

section Trimmed

variable {pattern p : List Char} (h : Trims pattern p) (path : List Char)

include h

theorem matchesPath_of_nil (hp : p = []) : matchesPath path pattern = false := by
  rw [matchesPath, trims_iff.mp h, hp]
  rfl

theorem matchesPath_of_directory {base : List Char} (hp : p = base ++ ['/', '*', '*'])
    (hbase : '*' ∉ base) :
    matchesPath path pattern = true ↔ '/' :: base ++ ['/'] <:+: '/' :: path := by
  have hne : p.isEmpty = false := by simp [hp]
  rw [matchesPath, trims_iff.mp h]
  simp only [hne, directoryBase_eq_some_iff.mpr ⟨hp, hbase⟩, Bool.false_eq_true, if_false,
    Bool.or_eq_true, isPrefixOf_iff_prefix, Text.contains_iff_infix]
  constructor
  · rintro (hstart | hinside)
    · exact (cons_prefix_cons.mpr ⟨rfl, hstart⟩).isInfix
    · exact hinside
  · exact Or.inr

theorem matchesPath_of_glob (hp : p ≠ [])
    (hbase : ∀ base, p = base ++ ['/', '*', '*'] → '*' ∈ base) :
    matchesPath path pattern =
      matchesWhole p (if '/' ∈ p then path else Path.baseName path) := by
  have hnone : directoryBase? p = none := by
    rw [Option.eq_none_iff_forall_ne_some]
    intro base hsome
    obtain ⟨hp, hnot⟩ := directoryBase_eq_some_iff.mp hsome
    exact hnot (hbase base hp)
  rw [matchesPath, trims_iff.mp h]
  simp only [isEmpty_eq_false_iff.mpr hp, hnone, Bool.false_eq_true, if_false, contains_iff_mem]
  exact (apply_ite (matchesWhole p) _ _ _).symm

end Trimmed

/-- Every pattern has one trimmed form, which decides about every path without line feeds. -/
theorem matchesPath_decides (pattern path : List Char) (hpath : '\n' ∉ path) :
    (∃! p, Trims pattern p) ∧
      ∀ p, Trims pattern p → MatchSpec p path (matchesPath path pattern) := by
  constructor
  · simp only [trims_iff]
    exact ⟨_, rfl, fun _ h => h.symm⟩
  · intro p h
    refine ⟨matchesPath_of_nil h path, fun _ => matchesPath_of_directory h path, ?_, ?_⟩
    · intro hslash hbase
      rw [matchesPath_of_glob h path (ne_nil_of_mem hslash) hbase, if_pos hslash,
        matchesWhole_iff hpath]
    · intro hne hslash name hname hend
      have hbase : ∀ base, p = base ++ ['/', '*', '*'] → '*' ∈ base := by
        rintro base rfl
        exact absurd (by simp) hslash
      have hlast : Path.baseName path = name := by
        rcases hend with rfl | ⟨front, rfl⟩
        · exact Path.baseName_of_notMem hname
        · exact Path.baseName_append_cons hname
      have hfeed : '\n' ∉ name := by
        rcases hend with rfl | ⟨front, rfl⟩
        · exact hpath
        · exact fun hmem => hpath (by simp [hmem])
      rw [matchesPath_of_glob h path hne hbase, if_neg hslash, hlast, matchesWhole_iff hfeed]

theorem matchesPath_decides_nested :
    '\n' ∉ "src/a/b/test1.ts".toList ∧
      Trims " /src/**/t?st*.ts ".toList "src/**/t?st*.ts".toList ∧
      "src/a/b/test1.ts".toList ∈ language "src/**/t?st*.ts".toList := by
  have hpath : '\n' ∉ "src/a/b/test1.ts".toList := by decide
  have htrims : Trims " /src/**/t?st*.ts ".toList "src/**/t?st*.ts".toList :=
    trims_iff.mpr (by decide)
  have hmatched : matchesPath "src/a/b/test1.ts".toList " /src/**/t?st*.ts ".toList = true := by
    decide
  obtain ⟨-, hdecides⟩ := matchesPath_decides " /src/**/t?st*.ts ".toList _ hpath
  refine ⟨hpath, htrims, ((hdecides _ htrims).whole (by decide) ?_).mp hmatched⟩
  intro base hbase
  have hend := congrArg getLast? hbase
  simp at hend

end SourceDigest.Glob
