import Mathlib.Data.List.Forall2
import SourceDigest.Proofs.Files.GlobLanguage

/-! Parts of a glob pattern. Where no run of stars reaches over the joint, the language of two
patterns in a row is the product of their languages. A pattern without stars stands for texts of its
own length, and the last character of a pattern tells how its texts can end. -/

namespace SourceDigest.Glob

open List

variable {c : Char} {p q rest text : List Char}

/-! ## Patterns in a row -/

/-- No wildcard reaches over the joint of two patterns: a star at the end of the first one does not
meet another star, nor do two of them meet a slash. -/
structure Apart (q rest : List Char) : Prop where
  star : q.getLast? = some '*' → rest.head? ≠ some '*'
  slash : ['*', '*'] <:+ q → rest.head? ≠ some '/'

theorem Apart.of_cons (h : Apart (c :: q) rest) : Apart q rest := by
  refine ⟨fun hlast => h.star ?_, fun hstars => h.slash (hstars.trans (suffix_cons c q))⟩
  rw [getLast?_cons, hlast, Option.getD_some]

theorem apart_of_getLast (h : q.getLast? ≠ some '*') : Apart q rest := by
  refine ⟨fun hlast => absurd hlast h, fun hstars => absurd ?_ h⟩
  obtain ⟨front, rfl⟩ := hstars
  simp

theorem apart_slash (h : ¬ ['*', '*'] <:+ q) : Apart q ('/' :: rest) :=
  ⟨fun _ => by simp, fun hstars => absurd hstars h⟩

theorem tokens_cons (hstar : c ≠ '*') (hmark : c ≠ '?') :
    tokens (c :: rest) = .char c :: tokens rest := by
  rw [tokens] <;> simp [hstar, hmark]

theorem tokens_append (h : Apart q rest) : tokens (q ++ rest) = tokens q ++ tokens rest := by
  induction q using tokens.induct with
  | case1 q ih => simp only [cons_append, tokens, ih h.of_cons.of_cons.of_cons]
  | case2 q hq ih =>
    have hnext : ∀ r, q ++ rest ≠ '/' :: r := by
      intro r hr
      cases q with
      | nil => exact h.slash suffix_rfl (by simpa using congrArg head? hr)
      | cons d q => exact hq q (by rw [(cons.inj hr).1])
    simp only [cons_append]
    rw [tokens, tokens, ih h.of_cons.of_cons, cons_append]
    · exact hq
    · exact hnext
  | case3 q hq hq' ih =>
    have hnext : ∀ r, q ++ rest ≠ '*' :: r := by
      intro r hr
      cases q with
      | nil => exact h.star rfl (by simpa using congrArg head? hr)
      | cons d q => exact hq' q (by rw [(cons.inj hr).1])
    rw [cons_append, tokens, tokens, ih h.of_cons, cons_append]
    · exact fun r hr => hq r hr
    · exact hq'
    · exact fun r hr => hnext _ hr
    · exact hnext
  | case4 q ih => simp only [cons_append, tokens, ih h.of_cons]
  | case5 c q _ _ hstar hmark ih =>
    rw [cons_append, tokens_cons hstar hmark, tokens_cons hstar hmark, ih h.of_cons, cons_append]
  | case6 => rfl

theorem language_of_tokens {ts : List Token} (h : tokens p = tokens q ++ ts) :
    language p = language q * (ts.map Token.texts).prod := by
  rw [language_eq_prod, h, map_append, prod_append, ← language_eq_prod]

theorem language_append (h : Apart q rest) :
    language (q ++ rest) = language q * language rest := by
  rw [language_of_tokens (tokens_append h), ← language_eq_prod]

/-! ## Patterns without stars -/

/-- What a character of a pattern without stars stands for: a question mark for any character
other than a slash, any other one for itself. -/
def Stands (c d : Char) : Prop :=
  if c = '?' then d ≠ '/' else d = c

theorem stands_self (c : Char) : Stands c c := by
  unfold Stands
  split
  · rename_i hc
    rw [hc]
    decide
  · rfl

theorem language_cons (hc : c ≠ '*') :
    language (c :: rest) = singles (Stands c) * language rest := by
  by_cases hmark : c = '?'
  · subst hmark
    rw [language]
    rfl
  · have hstands : Stands c = (· = c) := funext fun d => if_neg hmark
    rw [language, hstands] <;> simp [hc, hmark]

/-- The texts of a pattern without stars are those that agree with it character by character. -/
theorem mem_language_iff_forall₂ (hstar : '*' ∉ p) :
    text ∈ language p ↔ Forall₂ Stands p text := by
  induction p generalizing text with
  | nil => rw [language, Language.mem_one, forall₂_nil_left_iff]
  | cons c p ih =>
    obtain ⟨hc, hp⟩ := not_or.mp (mt mem_cons.mpr hstar)
    rw [language_cons (Ne.symm hc), mem_singles_mul_iff, forall₂_cons_left_iff]
    simp only [ih hp]
    constructor
    · rintro ⟨d, rest, rfl, hd, hrest⟩
      exact ⟨d, rest, hd, hrest, rfl⟩
    · rintro ⟨d, rest, hd, hrest, rfl⟩
      exact ⟨d, rest, rfl, hd, hrest⟩

theorem mem_language_self (hstar : '*' ∉ p) : p ∈ language p :=
  (mem_language_iff_forall₂ hstar).mpr (forall₂_same.mpr fun c _ => stands_self c)

/-- Without question marks either, a pattern stands for itself alone. -/
theorem mem_language_iff_eq (hstar : '*' ∉ p) (hmark : '?' ∉ p) :
    text ∈ language p ↔ text = p := by
  rw [mem_language_iff_forall₂ hstar]
  constructor
  · intro h
    induction h with
    | nil => rfl
    | cons hstands _ ih =>
      obtain ⟨hc, hp⟩ := not_or.mp (mt mem_cons.mpr hmark)
      rw [Stands, if_neg (Ne.symm hc)] at hstands
      rw [hstands, ih (fun h => hstar (mem_cons_of_mem _ h)) hp]
  · rintro rfl
    exact forall₂_same.mpr fun c _ => stands_self c

/-- What stands for itself alone is in every text. -/
theorem mem_of_mem_language (hstar : '*' ∉ p) (hc : c ∈ p) (hmark : c ≠ '?')
    (h : text ∈ language p) : c ∈ text := by
  rw [mem_language_iff_forall₂ hstar] at h
  induction h with
  | nil => exact hc
  | cons hstands _ ih =>
    rcases mem_cons.mp hc with rfl | hc
    · rw [Stands, if_neg hmark] at hstands
      exact mem_cons.mpr (Or.inl hstands.symm)
    · exact mem_cons_of_mem _ (ih (fun h => hstar (mem_cons_of_mem _ h)) hc)

/-! ## Directories -/

/-- Directories and what follows them: what stands after some slash, where one more slash is put
before the text. -/
theorem mem_directories_mul_iff {texts : Language Char} :
    text ∈ directories * texts ↔
      ∃ front back, '/' :: text = front ++ '/' :: back ∧ back ∈ texts := by
  rw [mem_mul_iff]
  constructor
  · rintro ⟨_, back, rfl, rfl | ⟨front, rfl⟩, hback⟩
    · exact ⟨[], back, rfl, hback⟩
    · exact ⟨'/' :: front, back, by simp, hback⟩
  · rintro ⟨front, back, htext, hback⟩
    cases front with
    | nil =>
      obtain rfl := (cons.inj htext).2
      exact ⟨[], text, rfl, Or.inl rfl, hback⟩
    | cons d front =>
      obtain ⟨rfl, rfl⟩ := cons.inj htext
      exact ⟨front ++ ['/'], back, by simp, Or.inr ⟨front, rfl⟩, hback⟩

/-! ## Stars -/

theorem nil_mem_mul_iff {first second : Language Char} :
    [] ∈ first * second ↔ [] ∈ first ∧ [] ∈ second := by
  rw [mem_mul_iff]
  constructor
  · rintro ⟨front, back, hnil, hfront, hback⟩
    obtain ⟨rfl, rfl⟩ := append_eq_nil_iff.mp hnil.symm
    exact ⟨hfront, hback⟩
  · rintro ⟨hfirst, hsecond⟩
    exact ⟨[], [], rfl, hfirst, hsecond⟩

theorem nil_mem_runs (p : Char → Prop) : [] ∈ runs p :=
  fun _ hc => absurd hc not_mem_nil

theorem nil_notMem_singles_mul (p : Char → Prop) (texts : Language Char) :
    [] ∉ singles p * texts := by
  rw [mem_singles_mul_iff]
  rintro ⟨_, _, h, -⟩
  cases h

/-- Of the patterns without slashes, those that are made of stars stand for the empty text. -/
theorem nil_mem_language_iff (hslash : '/' ∉ p) : [] ∈ language p ↔ ∀ c ∈ p, c = '*' := by
  induction p using language.induct with
  | case1 p _ => simp at hslash
  | case2 p hp ih =>
    rw [language, nil_mem_mul_iff, ih (by simpa using hslash)]
    · simp [nil_mem_runs]
    · exact hp
  | case3 p hp hp' ih =>
    rw [language, nil_mem_mul_iff, ih (by simpa using hslash)]
    · simp [nil_mem_runs]
    · exact hp
    · exact hp'
  | case4 p _ => simp [language_cons, nil_notMem_singles_mul]
  | case5 c p _ _ hstar _ _ =>
    have hc : c ≠ '*' := hstar
    simp [language_cons hc, nil_notMem_singles_mul, hc]
  | case6 => simp [language]

theorem mem_runs_mul {texts : Language Char} (h : [] ∈ texts) (text : List Char) :
    text ∈ runs (fun _ => True) * texts :=
  mem_mul_iff.mpr ⟨text, [], (append_nil text).symm, fun _ _ => trivial, h⟩

/-- Two stars stand for every text. -/
theorem mem_language_stars (text : List Char) : text ∈ language ['*', '*'] :=
  show text ∈ runs (fun _ => True) * 1 from mem_runs_mul Language.nil_mem_one text

theorem mem_language_star_iff : text ∈ language ['*'] ↔ '/' ∉ text := by
  have hstar : language ['*'] = runs (· ≠ '/') * 1 := rfl
  rw [hstar, mul_one]
  constructor
  · intro h hslash
    exact h '/' hslash rfl
  · intro h c hc heq
    exact h (heq ▸ hc)

/-- Stars alone stand for every name. -/
theorem mem_language_of_stars (hne : p ≠ []) (hstars : ∀ c ∈ p, c = '*') (hname : '/' ∉ text) :
    text ∈ language p := by
  have hslash : '/' ∉ p := fun h => absurd (hstars _ h) (by decide)
  have hnil := (nil_mem_language_iff hslash).mpr hstars
  match p with
  | [c] =>
    obtain rfl := hstars c mem_cons_self
    exact mem_language_star_iff.mpr hname
  | c :: d :: rest =>
    obtain rfl := hstars c mem_cons_self
    obtain rfl := hstars d (mem_cons_of_mem _ mem_cons_self)
    have hrest : ∀ r, rest ≠ '/' :: r := fun r h => hslash (by simp [h])
    rw [language] at hnil ⊢
    · exact mem_runs_mul (nil_mem_mul_iff.mp hnil).2 text
    · exact hrest
    · exact hrest

/-! ## Ends -/

def Token.last : Token → Char
  | directories => '/'
  | anything => '*'
  | segment => '*'
  | single => '?'
  | char c => c

theorem getLast_map_last (p : List Char) : ((tokens p).map Token.last).getLast? = p.getLast? := by
  induction p using tokens.induct with
  | case1 p ih => simp [tokens, getLast?_cons, ih, Token.last]
  | case2 p _ ih =>
    rw [tokens]
    · simp [getLast?_cons, ih, Token.last]
    · assumption
  | case3 p _ _ ih =>
    rw [tokens]
    · simp [getLast?_cons, ih, Token.last]
    · assumption
    · assumption
  | case4 p ih => simp [tokens, getLast?_cons, ih, Token.last]
  | case5 c p _ _ hstar hmark ih =>
    rw [tokens_cons hstar hmark]
    simp [getLast?_cons, ih, Token.last]
  | case6 => rfl

theorem getLast_of_tokens {ts : List Token} {token : Token} (h : tokens p = ts ++ [token]) :
    p.getLast? = some token.last := by
  rw [← getLast_map_last, h, map_append, map_singleton, getLast?_concat]

/-- The last token of a pattern follows the tokens of a pattern at its start. -/
theorem exists_tokens_concat (hne : p ≠ []) :
    ∃ q token, q <+: p ∧ tokens p = tokens q ++ [token] := by
  induction p using tokens.induct with
  | case1 p ih =>
    rcases eq_or_ne p [] with rfl | hne
    · exact ⟨[], .directories, nil_prefix, rfl⟩
    · obtain ⟨q, token, hq, htokens⟩ := ih hne
      refine ⟨'*' :: '*' :: '/' :: q, token, by simpa using hq, ?_⟩
      rw [tokens, tokens, htokens, cons_append]
  | case2 p hp ih =>
    rcases eq_or_ne p [] with rfl | hne
    · exact ⟨[], .anything, nil_prefix, rfl⟩
    · obtain ⟨q, token, ⟨more, rfl⟩, htokens⟩ := ih hne
      refine ⟨'*' :: '*' :: q, token, by simp, ?_⟩
      rw [tokens, tokens, htokens, cons_append]
      · exact fun r hr => hp (r ++ more) (by rw [hr, cons_append])
      · exact hp
  | case3 p hp hp' ih =>
    rcases eq_or_ne p [] with rfl | hne
    · exact ⟨[], .segment, nil_prefix, rfl⟩
    · obtain ⟨q, token, ⟨more, rfl⟩, htokens⟩ := ih hne
      refine ⟨'*' :: q, token, by simp, ?_⟩
      rw [tokens, tokens, htokens, cons_append]
      · exact fun r hr => hp (r ++ more) (by rw [hr, cons_append, cons_append])
      · exact fun r hr => hp' (r ++ more) (by rw [hr, cons_append])
      · exact hp
      · exact hp'
  | case4 p ih =>
    rcases eq_or_ne p [] with rfl | hne
    · exact ⟨[], .single, nil_prefix, rfl⟩
    · obtain ⟨q, token, hq, htokens⟩ := ih hne
      refine ⟨'?' :: q, token, by simpa using hq, ?_⟩
      rw [tokens, tokens, htokens, cons_append]
  | case5 c p _ _ hstar hmark ih =>
    rcases eq_or_ne p [] with rfl | hne
    · exact ⟨[], .char c, nil_prefix, tokens_cons hstar hmark⟩
    · obtain ⟨q, token, hq, htokens⟩ := ih hne
      refine ⟨c :: q, token, by simpa using hq, ?_⟩
      rw [tokens_cons hstar hmark, tokens_cons hstar hmark, htokens, cons_append]
  | case6 => exact absurd rfl hne

/-- A slash at the end is read by itself, or together with two stars before it. -/
theorem tokens_of_slash (h : p.getLast? = some '/') :
    ∃ q, tokens p = tokens q ++ [.char '/'] ∨ tokens p = tokens q ++ [.directories] := by
  have hne : p ≠ [] := by
    rintro rfl
    cases h
  obtain ⟨q, token, -, htokens⟩ := exists_tokens_concat hne
  have hlast := (getLast_of_tokens htokens).symm.trans h
  refine ⟨q, ?_⟩
  cases token with
  | directories => exact Or.inr htokens
  | char c =>
    obtain rfl : c = '/' := Option.some.inj hlast
    exact Or.inl htokens
  | anything => cases hlast
  | segment => cases hlast
  | single => cases hlast

/-- Only patterns that end in a star or in a slash have texts that end in a slash. -/
theorem last_of_mem_language (h : text ∈ language p) (hlast : text.getLast? = some '/') :
    p.getLast? = some '*' ∨ p.getLast? = some '/' := by
  rw [language_eq_prod] at h
  rw [← getLast_map_last]
  obtain hnil | ⟨ts, token, htokens⟩ := eq_nil_or_concat (tokens p)
  · rw [hnil] at h
    obtain rfl := Language.mem_one _ |>.mp h
    cases hlast
  · rw [concat_eq_append] at htokens
    rw [htokens, map_append, prod_append, map_singleton, prod_singleton] at h
    rw [htokens, map_append, map_singleton, getLast?_concat]
    obtain ⟨front, back, rfl, -, hback⟩ := mem_mul_iff.mp h
    cases token with
    | directories => exact Or.inr rfl
    | anything => exact Or.inl rfl
    | segment => exact Or.inl rfl
    | single =>
      obtain ⟨c, hc, rfl⟩ := hback
      rw [getLast?_concat] at hlast
      exact absurd (Option.some.inj hlast) hc
    | char d =>
      obtain ⟨c, rfl, rfl⟩ := hback
      rw [getLast?_concat] at hlast
      exact Or.inr hlast

/-- A pattern that ends in another one can be cut before it, or else one star before. -/
def EndsIn (p q : List Char) : Prop :=
  ∃ ts, tokens p = ts ++ tokens q ∨ tokens p = ts ++ tokens ('*' :: q)

theorem EndsIn.cons {token : Token} (h : EndsIn p q) (hcons : tokens rest = token :: tokens p) :
    EndsIn rest q := by
  obtain ⟨ts, hts | hts⟩ := h
  · exact ⟨token :: ts, Or.inl (by rw [hcons, hts, cons_append])⟩
  · exact ⟨token :: ts, Or.inr (by rw [hcons, hts, cons_append])⟩

theorem endsIn_of_suffix (hstar : q.head? = some '*') (h : q <:+ p) : EndsIn p q := by
  induction p using tokens.induct with
  | case1 p ih =>
    simp only [suffix_cons_iff] at h
    obtain rfl | rfl | rfl | h := h
    · exact ⟨[], Or.inl rfl⟩
    · exact ⟨[], Or.inr rfl⟩
    · cases hstar
    · exact (ih h).cons (by rw [tokens])
  | case2 p hp ih =>
    simp only [suffix_cons_iff] at h
    obtain rfl | rfl | h := h
    · exact ⟨[], Or.inl rfl⟩
    · exact ⟨[], Or.inr rfl⟩
    · exact (ih h).cons (by rw [tokens]; exact hp)
  | case3 p hp hp' ih =>
    obtain rfl | h := suffix_cons_iff.mp h
    · exact ⟨[], Or.inl rfl⟩
    · exact (ih h).cons (by rw [tokens] <;> assumption)
  | case4 p ih =>
    obtain rfl | h := suffix_cons_iff.mp h
    · cases hstar
    · exact (ih h).cons (by rw [tokens])
  | case5 c p _ _ hc hmark ih =>
    obtain rfl | h := suffix_cons_iff.mp h
    · exact absurd (Option.some.inj hstar) hc
    · exact (ih h).cons (tokens_cons hc hmark)
  | case6 =>
    obtain rfl := suffix_nil.mp h
    cases hstar

end SourceDigest.Glob
