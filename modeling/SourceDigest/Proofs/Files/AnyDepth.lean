import SourceDigest.Proofs.Files.GlobParts
import SourceDigest.Proofs.Files.IgnoreRules
import SourceDigest.Proofs.Text.Words

/-! Two ways to write an ignore rule for names. A pattern without slashes is looked for among the
names of a path, and the same pattern after `**/` is matched against the path and all that leads to
it. Place by place both ask the same: the first names of a path match the longer pattern where the
last of them matches the shorter one. -/

namespace SourceDigest

open List

/-! ## Patterns for single names -/

namespace Glob

variable {p text : List Char}

/-- Without a slash and without two stars in a row a pattern stands for names. -/
theorem slash_notMem_of_mem_language (hslash : '/' ∉ p) (hstars : ¬['*', '*'] <:+: p)
    (h : text ∈ language p) : '/' ∉ text := by
  induction p using language.induct generalizing text with
  | case1 p _ => exact absurd (by simp) hslash
  | case2 p _ _ => exact absurd (prefix_append ['*', '*'] p).isInfix hstars
  | case3 p hp hp' ih =>
    rw [language] at h
    · obtain ⟨front, rest, rfl, hfront, hrest⟩ := mem_mul_iff.mp h
      have hnone := ih (by simpa using hslash) (mt (infix_cons ·) hstars) hrest
      rw [mem_append, not_or]
      exact ⟨fun hmem => hfront '/' hmem rfl, hnone⟩
    · exact hp
    · exact hp'
  | case4 p ih =>
    obtain ⟨c, rest, rfl, hc, hrest⟩ := mem_singles_mul_iff.mp h
    have hnone := ih (by simpa using hslash) (mt (infix_cons ·) hstars) hrest
    exact not_mem_cons_of_ne_of_not_mem (Ne.symm hc) hnone
  | case5 c p _ _ hstar hmark ih =>
    rw [language_cons hstar, mem_singles_mul_iff] at h
    obtain ⟨d, rest, rfl, hd, hrest⟩ := h
    rw [Stands, if_neg hmark] at hd
    have hnone := ih (mt (mem_cons_of_mem c) hslash) (mt (infix_cons ·) hstars) hrest
    refine not_mem_cons_of_ne_of_not_mem ?_ hnone
    rintro rfl
    exact hslash (hd ▸ mem_cons_self)
  | case6 =>
    obtain rfl := (Language.mem_one _).mp h
    exact not_mem_nil

/-- After `**/` such a pattern stands for the paths whose last name it stands for. -/
theorem mem_language_lastName_iff (hslash : '/' ∉ p) (hstars : ¬['*', '*'] <:+: p) :
    text ∈ language ('*' :: '*' :: '/' :: p) ↔ Path.baseName text ∈ language p := by
  rw [language, mem_directories_mul_iff]
  constructor
  · rintro ⟨front, last, htext, hlast⟩
    have hname := slash_notMem_of_mem_language hslash hstars hlast
    cases front with
    | nil =>
      obtain rfl := (cons.inj htext).2
      rwa [Path.baseName_of_notMem hname]
    | cons c front =>
      rw [cons_append] at htext
      rwa [(cons.inj htext).2, Path.baseName_append_cons hname]
  · intro h
    by_cases htext : '/' ∈ text
    · obtain ⟨front, last, rfl, hlast⟩ := Path.exists_last_slash htext
      rw [Path.baseName_append_cons hlast] at h
      exact ⟨'/' :: front, last, rfl, h⟩
    · rw [Path.baseName_of_notMem htext] at h
      exact ⟨[], text, rfl, h⟩

theorem accepts_lastName (hslash : '/' ∉ p) (hstars : ¬['*', '*'] <:+: p) (hfeed : '\n' ∉ text) :
    accepts (tokens ('*' :: '*' :: '/' :: p)) text =
      accepts (tokens p) (Path.baseName text) := by
  have hname : '\n' ∉ Path.baseName text := mt ((Path.baseName_suffix text).subset ·) hfeed
  rw [Bool.eq_iff_iff]
  exact (matchesWhole_iff hfeed).trans
    ((mem_language_lastName_iff hslash hstars).trans (matchesWhole_iff hname).symm)

end Glob

namespace Ignore

variable {parts : List (List Char)} {path body line place : List Char} {last : Bool}

/-! ## Places -/

theorem baseName_join_concat (front : List (List Char)) {last : List Char} (hlast : '/' ∉ last) :
    Path.baseName (Text.join ['/'] (front ++ [last])) = last := by
  have hcases : Text.join ['/'] (front ++ [last]) = last ∨
      ∃ base, Text.join ['/'] (front ++ [last]) = base ++ '/' :: last := by
    induction front with
    | nil => exact Or.inl (by simp [Text.join])
    | cons first front ih =>
      refine Or.inr ?_
      rw [cons_append, Text.join_cons, if_neg (by simp)]
      rcases ih with h | ⟨base, h⟩
      · exact ⟨first, by rw [h, singleton_append]⟩
      · exact ⟨first ++ '/' :: base, by simp [h]⟩
  rcases hcases with h | ⟨base, h⟩
  · rw [h, Path.baseName_of_notMem hlast]
  · rw [h, Path.baseName_append_cons hlast]

/-- The names of a path are the last names of all that leads to it. -/
theorem names_eq_map_leading (hslash : ∀ part ∈ parts, '/' ∉ part) :
    names parts = (leading parts).map fun place => (Path.baseName place.1, place.2) := by
  rw [names, leading, map_map, ← filterMap_eq_map]
  apply filterMap_congr
  intro i hi
  have hi : i < parts.length := mem_range.mp hi
  have htake : parts.take (i + 1) = parts.take i ++ [parts[i]] := (take_append_getElem hi).symm
  have hlast := baseName_join_concat (parts.take i) (hslash _ (getElem_mem hi))
  simp only [getElem?_eq_getElem hi, Option.map_some, Function.comp_apply, htake, hlast]

theorem join_prefix_join (front back : List (List Char)) :
    Text.join ['/'] front <+: Text.join ['/'] (front ++ back) := by
  induction front with
  | nil => exact nil_prefix
  | cons first front ih =>
    rw [cons_append, Text.join_cons, Text.join_cons]
    by_cases hfront : front = []
    · subst hfront
      rw [if_pos rfl]
      split
      · exact prefix_rfl
      · exact prefix_append _ _
    · rw [if_neg hfront, if_neg (by simp [hfront]), prefix_append_right_inj,
        prefix_append_right_inj]
      exact ih

/-- What leads to a path is the start of it. -/
theorem prefix_of_mem_leading (h : (place, last) ∈ leading (Text.split '/' path)) :
    place <+: path := by
  obtain ⟨front, back, hsplit, -, rfl, -⟩ := mem_leading_iff.mp h
  have hpath : Text.join ['/'] (front ++ back) = path := by
    rw [← hsplit]
    exact intercalate_splitOn '/'
  exact hpath ▸ join_prefix_join front back

/-- A rule for names applies where the rule for whole paths does that has the same pattern after
`**/`. -/
theorem appliesTo_anyDepth (hslash : '/' ∉ body) (hstars : ¬['*', '*'] <:+: body)
    (hpath : '\n' ∉ path) (directoryOnly isDirectory : Bool) :
    Rule.appliesTo ⟨body, false, directoryOnly⟩ path isDirectory =
      Rule.appliesTo ⟨'*' :: '*' :: '/' :: body, true, directoryOnly⟩ path isDirectory := by
  simp only [Rule.appliesTo, Bool.false_eq_true, if_false, if_true]
  rw [names_eq_map_leading fun _ h => Path.notMem_of_mem_split h, any_map, Bool.eq_iff_iff,
    any_eq_true, any_eq_true]
  refine exists_congr fun place => and_congr_right fun hplace => ?_
  have hfeed : '\n' ∉ place.1 := mt ((prefix_of_mem_leading hplace).subset ·) hpath
  rw [Function.comp_apply, Glob.accepts_lastName hslash hstars hfeed]

/-! ## Lines -/

/-- A line with a pattern for names: no slash, other than one at its end, and no two stars in a
row. It has no white space around it, and is neither empty nor a comment nor taken back. -/
structure IsNameLine (line : List Char) : Prop where
  body : ∃ body, (line = body ∨ line = body ++ ['/']) ∧ '/' ∉ body ∧ ¬['*', '*'] <:+: body
  ne_nil : line ≠ []
  head_blank : ∀ c ∈ line.head?, Text.isBlank c = false
  last_blank : ∀ c ∈ line.getLast?, Text.isBlank c = false
  not_comment : line.head? ≠ some '#'
  not_negation : line.head? ≠ some '!'

theorem stripEnd_slash (hline : line = body ∨ line = body ++ ['/'])
    (hlast : body.getLast? ≠ some '/') : Text.stripEnd (· == '/') line = body := by
  have hstop : ∀ c ∈ body.reverse.head?, (c == '/') = false := by
    intro c hc
    rw [head?_reverse] at hc
    exact beq_eq_false_iff_ne.mpr fun h => hlast (h ▸ Option.mem_def.mp hc)
  have hbody : body.reverse.dropWhile (· == '/') = body.reverse :=
    Text.dropWhile_eq_self_of_head hstop
  rcases hline with rfl | rfl
  · rw [Text.stripEnd, hbody, reverse_reverse]
  · have hdrop : (body ++ ['/']).reverse.dropWhile (· == '/') = body.reverse := by
      rw [reverse_append]
      exact hbody
    rw [Text.stripEnd, hdrop, reverse_reverse]

/-- The rule of a line that is neither blank nor a comment nor taken back. -/
theorem ofLine?_eq (hstrip : Text.strip line = line) (hne : line ≠ [])
    (hcomment : line.head? ≠ some '#') (hnegation : line.head? ≠ some '!') :
    Rule.ofLine? line =
      some ⟨(Text.stripEnd (· == '/') line).dropWhile (· == '/'),
        (Text.stripEnd (· == '/') line).contains '/', line.getLast? = some '/'⟩ := by
  unfold Rule.ofLine?
  rw [hstrip]
  split
  · exact absurd rfl hne
  · exact absurd rfl hcomment
  · exact absurd rfl hnegation
  · rfl

/-- A line for names and the same line after `**/` have rules that are the same but for that. -/
theorem IsNameLine.exists_rules (h : IsNameLine line) (hline : line ≠ ['/']) :
    ∃ body directoryOnly, '/' ∉ body ∧ ¬['*', '*'] <:+: body ∧
      Rule.ofLine? line = some ⟨body, false, directoryOnly⟩ ∧
      Rule.ofLine? ("**/".toList ++ line) =
        some ⟨'*' :: '*' :: '/' :: body, true, directoryOnly⟩ := by
  obtain ⟨body, hbody, hslash, hstars⟩ := h.body
  have hne : body ≠ [] := by
    rintro rfl
    rcases hbody with hbody | hbody
    · exact h.ne_nil hbody
    · exact hline hbody
  have hlast : body.getLast? ≠ some '/' := fun hlast => hslash (mem_of_getLast? hlast)
  refine ⟨body, line.getLast? = some '/', hslash, hstars, ?_, ?_⟩
  · have hstop : ∀ c ∈ body.head?, (c == '/') = false := by
      intro c hc
      exact beq_eq_false_iff_ne.mpr fun h => hslash (h ▸ mem_of_mem_head? hc)
    rw [ofLine?_eq (Text.strip_eq_self h.head_blank h.last_blank) h.ne_nil h.not_comment
      h.not_negation, stripEnd_slash hbody hlast, Text.dropWhile_eq_self_of_head hstop]
    simp [hslash]
  · have hdeep : "**/".toList = ['*', '*', '/'] := rfl
    have hdeeper : ['*', '*', '/'] ++ line = ['*', '*', '/'] ++ body ∨
        ['*', '*', '/'] ++ line = ['*', '*', '/'] ++ body ++ ['/'] := by
      rwa [append_assoc, append_cancel_left_eq, append_cancel_left_eq]
    have hend : (['*', '*', '/'] ++ line).getLast? = line.getLast? :=
      getLast?_append_of_ne_nil _ h.ne_nil
    have hbodyEnd : (['*', '*', '/'] ++ body).getLast? = body.getLast? :=
      getLast?_append_of_ne_nil _ hne
    have hstrip : Text.strip (['*', '*', '/'] ++ line) = ['*', '*', '/'] ++ line :=
      Text.strip_eq_self (by simp; decide) (by rw [hend]; exact h.last_blank)
    rw [hdeep, ofLine?_eq hstrip (by simp) (by simp) (by simp),
      stripEnd_slash hdeeper (by rwa [hbodyEnd]), hend]
    rfl

/-- In every ignore file a line for names may stand after `**/` as well. -/
theorem ignores_anyDepth (h : IsNameLine line) (hline : line ≠ ['/'])
    (before after : List (List Char)) (hpath : '\n' ∉ path) (isDirectory : Bool) :
    ignores (rules (before ++ line :: after)) path isDirectory =
      ignores (rules (before ++ ("**/".toList ++ line) :: after)) path isDirectory := by
  obtain ⟨body, directoryOnly, hslash, hstars, hrule, hdeep⟩ := h.exists_rules hline
  simp only [ignores, rules, filterMap_append, filterMap_cons, hrule, hdeep, any_append, any_cons]
  rw [appliesTo_anyDepth hslash hstars hpath]

/-- A rule for folders of builds applies wherever they lie. -/
theorem ignores_anyDepth_builds :
    IsNameLine "build-?*/".toList ∧ "build-?*/".toList ≠ ['/'] ∧
      '\n' ∉ "apps/web/build-2/out.js".toList ∧
      ignores (rules ["**/build-?*/".toList]) "apps/web/build-2/out.js".toList false = true := by
  have hline : IsNameLine "build-?*/".toList :=
    ⟨⟨"build-?*".toList, Or.inr (by decide), by decide, by decide⟩, by decide,
      by simp [Text.isBlank], by simp [Text.isBlank], by decide, by decide⟩
  have hne : "build-?*/".toList ≠ ['/'] := by decide
  have hpath : '\n' ∉ "apps/web/build-2/out.js".toList := by decide
  refine ⟨hline, hne, hpath, ?_⟩
  have hdeep := ignores_anyDepth hline hne [] [] hpath false
  exact hdeep.symm.trans (by decide)

/-- A line of a single slash names nothing, and after `**/` it is a rule for all directories. -/
theorem ignores_slash_differs :
    IsNameLine ['/'] ∧ '\n' ∉ ['a'] ∧ ignores (rules [['/']]) ['a'] true = false ∧
      ignores (rules ["**/".toList ++ ['/']]) ['a'] true = true := by
  have hline : IsNameLine ['/'] :=
    ⟨⟨[], Or.inr rfl, by decide, by decide⟩, by decide, by simp [Text.isBlank],
      by simp [Text.isBlank], by decide, by decide⟩
  exact ⟨hline, by decide, by decide, by decide⟩

end Ignore

end SourceDigest
