import Mathlib.Data.List.TakeWhile
import SourceDigest.Path

/-! Paths as their segments. Segments are evaluated from a top that cannot be left: an empty
segment and a dot stay where they are, two dots leave the last segment, every other segment is
entered. The normal form of a path without a root is what its segments come to; where they
leave the top it starts with two dots. -/

namespace SourceDigest.Path

open List

/-! ## Names -/

/-- A segment that names something. -/
def IsName (segment : List Char) : Prop :=
  '/' ∉ segment ∧ segment ≠ [] ∧ segment ≠ ['.'] ∧ segment ≠ ['.', '.']

instance (segment : List Char) : Decidable (IsName segment) :=
  inferInstanceAs (Decidable (_ ∧ _))

/-- A path that is made of names alone, without a backslash in any. -/
def Canonical (path : List Char) : Prop :=
  (∀ segment ∈ Text.split '/' path, IsName segment) ∧ '\\' ∉ path

instance (path : List Char) : Decidable (Canonical path) :=
  inferInstanceAs (Decidable (_ ∧ _))

/-! ## Cutting at slashes -/

theorem split_append_cons (before after : List Char) :
    Text.split '/' (before ++ '/' :: after) = Text.split '/' before ++ Text.split '/' after :=
  splitOn_append_cons_self before after

theorem split_of_notMem {path : List Char} (h : '/' ∉ path) : Text.split '/' path = [path] :=
  splitOn_eq_singleton h

theorem split_join {segments : List (List Char)} (h : ∀ segment ∈ segments, '/' ∉ segment)
    (hne : segments ≠ []) : Text.split '/' (Text.join ['/'] segments) = segments :=
  splitOn_intercalate '/' h hne

theorem notMem_of_mem_split {path segment : List Char} (h : segment ∈ Text.split '/' path) :
    '/' ∉ segment := by
  induction path generalizing segment with
  | nil =>
    obtain rfl := mem_singleton.mp h
    exact not_mem_nil
  | cons c path ih =>
    rw [Text.split, splitOn_cons_eq_if_modifyHead] at h
    split at h
    · rcases mem_cons.mp h with rfl | h
      · exact not_mem_nil
      · exact ih h
    · rename_i hc
      have hne : '/' ≠ c := by
        rintro rfl
        exact hc (beq_self_eq_true _)
      have hih : ∀ s ∈ path.splitOn '/', '/' ∉ s := fun s hs => ih hs
      cases hsplit : path.splitOn '/' with
      | nil => exact absurd hsplit (splitOn_ne_nil _ _)
      | cons first rest =>
        rw [hsplit] at h hih
        rcases mem_cons.mp h with rfl | h
        · simp [hne, hih first mem_cons_self]
        · exact hih segment (mem_cons_of_mem _ h)

/-! A path without empty segments neither starts nor ends with a slash. -/

section Solid

variable {path : List Char} (h : ∀ segment ∈ Text.split '/' path, segment ≠ [])

include h

theorem ne_nil_of_split : path ≠ [] := by
  rintro rfl
  exact h [] mem_cons_self rfl

theorem head_ne_of_split : path.head? ≠ some '/' := by
  intro hhead
  obtain ⟨rest, rfl⟩ := head?_eq_some_iff.mp hhead
  have hsplit := split_append_cons [] rest
  rw [nil_append] at hsplit
  exact h [] (hsplit ▸ mem_cons_self) rfl

theorem getLast_ne_of_split : path.getLast? ≠ some '/' := by
  intro hlast
  obtain ⟨front, rfl⟩ := getLast?_eq_some_iff.mp hlast
  have hsplit := split_append_cons front []
  exact h [] (hsplit ▸ mem_append_right _ mem_cons_self) rfl

end Solid

/-! ## Last names -/

private theorem ne_slash_of_mem {last : List Char} (h : '/' ∉ last) :
    ∀ c ∈ last.reverse, (c != '/') = true := by
  intro c hc
  have hne : c ≠ '/' := by
    rintro rfl
    exact h (mem_reverse.mp hc)
  exact bne_iff_ne.mpr hne

theorem baseName_of_notMem {path : List Char} (h : '/' ∉ path) : baseName path = path := by
  rw [baseName, takeWhile_eq_self_iff.mpr (ne_slash_of_mem h), reverse_reverse]

theorem baseName_append_cons {base last : List Char} (h : '/' ∉ last) :
    baseName (base ++ '/' :: last) = last := by
  rw [baseName, reverse_append, reverse_cons, append_assoc,
    takeWhile_append_of_pos (ne_slash_of_mem h)]
  simp

theorem baseName_suffix (path : List Char) : baseName path <:+ path := by
  have hprefix : path.reverse.takeWhile (· != '/') <+: path.reverse := takeWhile_prefix _
  rwa [← reverse_suffix, reverse_reverse] at hprefix

theorem notMem_baseName (path : List Char) : '/' ∉ baseName path := by
  intro h
  have hne := mem_takeWhile_imp (mem_reverse.mp h)
  simp at hne

/-! ## Directories -/

theorem directory_of_notMem {path : List Char} (h : '/' ∉ path) : directory path = [] := by
  have hdrop : path.reverse.dropWhile (· != '/') = [] :=
    dropWhile_eq_nil_iff.mpr (ne_slash_of_mem h)
  rw [directory, hdrop]
  rfl

theorem directory_append_cons {base last : List Char} (hlast : '/' ∉ last)
    (hbase : ∀ segment ∈ Text.split '/' base, segment ≠ []) :
    directory (base ++ '/' :: last) = base := by
  have hdrop : (base ++ '/' :: last).reverse.dropWhile (· != '/') = '/' :: base.reverse := by
    rw [reverse_append, reverse_cons, append_assoc,
      dropWhile_append_of_pos (ne_slash_of_mem hlast)]
    simp
  have hall : ¬ (base ++ ['/']).all (· == '/') = true := by
    intro hall
    cases base with
    | nil => exact ne_nil_of_split hbase rfl
    | cons c base =>
      have hc : c = '/' := by simpa using (all_eq_true.mp hall) c (by simp)
      exact head_ne_of_split hbase (by rw [hc]; rfl)
  have hstrip : base.reverse.dropWhile (· == '/') = base.reverse := by
    have hlast := getLast_ne_of_split hbase
    rw [getLast?_eq_head?_reverse] at hlast
    cases hrev : base.reverse with
    | nil => rfl
    | cons c rest =>
      have hc : c ≠ '/' := by simpa [hrev] using hlast
      exact dropWhile_cons_of_neg (by simpa using hc)
  rw [directory, hdrop]
  simp only [reverse_cons, reverse_reverse, if_neg hall, Text.stripEnd, reverse_append]
  simp [hstrip]

theorem join_of_solid {base path : List Char}
    (hbase : ∀ segment ∈ Text.split '/' base, segment ≠ []) (hpath : path.head? ≠ some '/') :
    join base path = base ++ '/' :: path := by
  rw [join, if_neg hpath, if_neg]
  simp [ne_nil_of_split hbase, getLast_ne_of_split hbase]

theorem exists_last_slash {path : List Char} (h : '/' ∈ path) :
    ∃ front last, path = front ++ '/' :: last ∧ '/' ∉ last := by
  obtain ⟨last, front, hrev, hlast⟩ := eq_append_cons_of_mem (mem_reverse.mpr h)
  refine ⟨front.reverse, last.reverse, ?_, mt mem_reverse.mp hlast⟩
  simpa using congrArg reverse hrev

/-- A path seen from the directory of a file has the segments of both. -/
theorem split_join_directory {file path : List Char}
    (hfile : ∀ segment ∈ Text.split '/' file, segment ≠ []) (hpath : path.head? ≠ some '/') :
    Text.split '/' (join (directory file) path) =
        (Text.split '/' file).dropLast ++ Text.split '/' path ∧
      (join (directory file) path).head? ≠ some '/' := by
  by_cases hslash : '/' ∈ file
  · obtain ⟨front, last, rfl, hlast⟩ := exists_last_slash hslash
    have hsplit := split_append_cons front last
    rw [split_of_notMem hlast] at hsplit
    have hfront : ∀ segment ∈ Text.split '/' front, segment ≠ [] := by
      intro segment hs
      exact hfile segment (hsplit ▸ mem_append_left _ hs)
    rw [directory_append_cons hlast hfront, join_of_solid hfront hpath, hsplit, dropLast_concat,
      split_append_cons]
    have hhead := head_ne_of_split hfront
    obtain ⟨c, rest, rfl⟩ := exists_cons_of_ne_nil (ne_nil_of_split hfront)
    exact ⟨rfl, hhead⟩
  · have hjoin : join [] path = path := by
      rw [join, if_neg hpath]
      rfl
    rw [directory_of_notMem hslash, hjoin, split_of_notMem hslash]
    exact ⟨rfl, hpath⟩

/-! ## Evaluating segments -/

/-- Goes on from a place by one more segment, unless that leaves the top. -/
def enter (place : List (List Char)) (segment : List Char) : Option (List (List Char)) :=
  if segment = [] ∨ segment = ['.'] then some place
  else if segment = ['.', '.'] then if place = [] then none else some place.dropLast
  else some (place ++ [segment])

/-- The place that segments lead to from the top, if they never leave it. -/
def evaluate (segments : List (List Char)) : Option (List (List Char)) :=
  segments.foldlM enter []

theorem enter_name {segment : List Char} (h : IsName segment) (place : List (List Char)) :
    enter place segment = some (place ++ [segment]) := by
  obtain ⟨-, hempty, hdot, hdots⟩ := h
  simp [enter, hempty, hdot, hdots]

theorem enter_dots_concat (place : List (List Char)) (last : List Char) :
    enter (place ++ [last]) ['.', '.'] = some place := by
  simp [enter]

/-- Segments that lead from every place back to it can be left out. -/
theorem evaluate_insert {detour : List (List Char)}
    (h : ∀ place, detour.foldlM enter place = some place) (before after : List (List Char)) :
    evaluate (before ++ detour ++ after) = evaluate (before ++ after) := by
  simp only [evaluate, foldlM_append, h, Option.bind_eq_bind, Option.bind_assoc, Option.bind_some]

theorem isName_of_enter {place next : List (List Char)} {segment : List Char}
    (hslash : '/' ∉ segment) (hplace : ∀ s ∈ place, IsName s)
    (h : enter place segment = some next) : ∀ s ∈ next, IsName s := by
  unfold enter at h
  split at h
  · obtain rfl := Option.some.inj h
    exact hplace
  · rename_i hstay
    obtain ⟨hempty, hdot⟩ := not_or.mp hstay
    split at h
    · split at h
      · cases h
      · obtain rfl := Option.some.inj h
        exact fun s hs => hplace s (dropLast_subset place hs)
    · rename_i hdots
      obtain rfl := Option.some.inj h
      intro s hs
      rcases mem_append.mp hs with hs | hs
      · exact hplace s hs
      · rw [mem_singleton.mp hs]
        exact ⟨hslash, hempty, hdot, hdots⟩

/-! ## Normal forms -/

/-- The segments of a normal form agree with the place while there is one. -/
theorem push_of_enter {place next : List (List Char)} {segment : List Char}
    (hplace : ∀ s ∈ place, IsName s) (h : enter place segment = some next) :
    push false place.reverse segment = next.reverse := by
  unfold enter at h
  unfold push
  split at h
  · rename_i hstay
    obtain rfl := Option.some.inj h
    rw [if_pos hstay]
  · rename_i hstay
    rw [if_neg hstay]
    split at h
    · rename_i hdots
      split at h
      · cases h
      · rename_i hne
        obtain rfl := Option.some.inj h
        rw [if_neg (not_not_intro hdots)]
        obtain ⟨front, last, rfl⟩ := (eq_nil_or_concat place).resolve_left hne
        have hlast := (hplace last (by simp)).2.2.2
        simp [hlast]
    · rename_i hdots
      obtain rfl := Option.some.inj h
      simp [hdots]

theorem push_of_enter_eq_none {place : List (List Char)} {segment : List Char}
    (h : enter place segment = none) : push false place.reverse segment = [['.', '.']] := by
  unfold enter at h
  split at h
  · cases h
  · rename_i hstay
    split at h
    · rename_i hdots
      split at h
      · rename_i hne
        rw [hne, hdots]
        rfl
      · cases h
    · cases h

/-- Once at the bottom, two dots stay there. -/
theorem getLast_push {done : List (List Char)} (h : done.getLast? = some ['.', '.'])
    (segment : List Char) : (push false done segment).getLast? = some ['.', '.'] := by
  cases done with
  | nil => cases h
  | cons last rest =>
    have hcons : (segment :: last :: rest).getLast? = some ['.', '.'] := by
      rwa [getLast?_cons_cons]
    simp only [push]
    split
    · exact h
    · split
      · exact hcons
      · split
        · exact hcons
        · rename_i hne
          cases rest with
          | nil => exact absurd (Option.some.inj h) hne
          | cons _ _ => rwa [getLast?_cons_cons] at h

theorem getLast_foldl_push {done : List (List Char)} (h : done.getLast? = some ['.', '.'])
    (segments : List (List Char)) :
    (segments.foldl (push false) done).getLast? = some ['.', '.'] := by
  induction segments generalizing done with
  | nil => exact h
  | cons segment segments ih => exact ih (getLast_push h segment)

/-- The segments of a normal form, the last one first: those of the place, or two dots at the
bottom where there is no place. -/
theorem foldl_push {segments place : List (List Char)}
    (hslash : ∀ segment ∈ segments, '/' ∉ segment) (hplace : ∀ s ∈ place, IsName s) :
    match segments.foldlM enter place with
    | some next => segments.foldl (push false) place.reverse = next.reverse ∧
        ∀ s ∈ next, IsName s
    | none => (segments.foldl (push false) place.reverse).getLast? = some ['.', '.'] := by
  induction segments generalizing place with
  | nil => exact ⟨rfl, hplace⟩
  | cons segment segments ih =>
    rw [foldlM_cons, foldl_cons]
    cases henter : enter place segment with
    | none =>
      rw [push_of_enter_eq_none henter]
      exact getLast_foldl_push rfl segments
    | some next =>
      rw [push_of_enter hplace henter]
      exact ih (fun s hs => hslash s (mem_cons_of_mem _ hs))
        (isName_of_enter (hslash segment mem_cons_self) hplace henter)

/-- Segments as the text of a path; that of none is a dot. -/
def written (segments : List (List Char)) : List Char :=
  let text := Text.join ['/'] segments
  if text.isEmpty then ['.'] else text

theorem rootSlashes_of_head_ne {path : List Char} (h : path.head? ≠ some '/') :
    rootSlashes path = 0 := by
  cases path with
  | nil => rfl
  | cons c path =>
    have hc : c ≠ '/' := by simpa using h
    simp [rootSlashes, hc]

theorem normalise_eq {path : List Char} (hroot : path.head? ≠ some '/') :
    normalise path = written ((Text.split '/' path).foldl (push false) []).reverse := by
  rw [normalise, rootSlashes_of_head_ne hroot]
  rfl

theorem split_join_names {place : List (List Char)} (h : ∀ s ∈ place, IsName s)
    (hne : place ≠ []) : Text.split '/' (Text.join ['/'] place) = place :=
  split_join (fun s hs => (h s hs).1) hne

theorem written_names {place : List (List Char)} (h : ∀ s ∈ place, IsName s)
    (hne : place ≠ []) : written place = Text.join ['/'] place := by
  have htext : Text.join ['/'] place ≠ [] := by
    apply ne_nil_of_split
    rw [split_join_names h hne]
    exact fun s hs => (h s hs).2.1
  rw [written]
  exact if_neg (mt List.isEmpty_iff.mp htext)

/-- What the segments of a path come to, once as a place and once as a normal form. -/
theorem foldl_push_split (path : List Char) :
    match evaluate (Text.split '/' path) with
    | some place => (Text.split '/' path).foldl (push false) [] = place.reverse ∧
        ∀ s ∈ place, IsName s
    | none => ((Text.split '/' path).foldl (push false) []).getLast? = some ['.', '.'] :=
  foldl_push (fun _ hs => notMem_of_mem_split hs) (fun _ hs => absurd hs not_mem_nil)

theorem isName_of_evaluate {path : List Char} {place : List (List Char)}
    (h : evaluate (Text.split '/' path) = some place) : ∀ s ∈ place, IsName s := by
  have hfold := foldl_push_split path
  rw [h] at hfold
  exact hfold.2

theorem normalise_of_some {path : List Char} {place : List (List Char)}
    (hroot : path.head? ≠ some '/') (h : evaluate (Text.split '/' path) = some place) :
    normalise path = written place := by
  have hfold := foldl_push_split path
  rw [h] at hfold
  rw [normalise_eq hroot, hfold.1, reverse_reverse]

theorem normalise_of_none {path : List Char} (hroot : path.head? ≠ some '/')
    (h : evaluate (Text.split '/' path) = none) :
    normalise path = ['.', '.'] ∨ ∃ rest, normalise path = ['.', '.', '/'] ++ rest := by
  have hfold := foldl_push_split path
  rw [h] at hfold
  rw [getLast?_eq_head?_reverse] at hfold
  obtain ⟨rest, hrest⟩ := head?_eq_some_iff.mp hfold
  rw [normalise_eq hroot, hrest]
  cases rest with
  | nil => exact Or.inl rfl
  | cons next rest =>
    refine Or.inr ⟨Text.join ['/'] (next :: rest), ?_⟩
    rw [written, Text.join, intercalate_cons_cons]
    rfl

/-! ## Slashes at the end -/

/-- Where a path starts is told by what comes before its first dot. -/
theorem rootSlashes_append_dot (base rest other : List Char) :
    rootSlashes (base ++ '.' :: rest) = rootSlashes (base ++ '.' :: other) := by
  match base with
  | [] => rfl
  | [a] => by_cases ha : a = '/' <;> simp [rootSlashes, ha]
  | [a, b] => by_cases ha : a = '/' <;> by_cases hb : b = '/' <;> simp [rootSlashes, ha, hb]
  | a :: b :: c :: _ =>
    by_cases ha : a = '/' <;> by_cases hb : b = '/' <;> by_cases hc : c = '/' <;>
      simp [rootSlashes, ha, hb, hc]

/-- A slash at the end adds an empty segment, which names nothing. -/
theorem normalise_concat_slash {path : List Char}
    (hroot : rootSlashes (path ++ ['/']) = rootSlashes path) :
    normalise (path ++ ['/']) = normalise path := by
  have hsplit : Text.split '/' (path ++ ['/']) = Text.split '/' path ++ [[]] :=
    split_append_cons path []
  have hpush (rooted : Bool) (done : List (List Char)) : push rooted done [] = done :=
    if_pos (Or.inl rfl)
  rw [normalise, normalise, hroot, hsplit, foldl_append, foldl_cons, foldl_nil,
    hpush]

theorem join_append {path : List Char} (hne : path ≠ []) (base more : List Char) :
    join base (path ++ more) = join base path ++ more := by
  have hhead : (path ++ more).head? = path.head? := by
    obtain ⟨c, rest, rfl⟩ := exists_cons_of_ne_nil hne
    rfl
  unfold join
  rw [hhead]
  split
  · rfl
  · split
    · rw [append_assoc]
    · rw [append_assoc, cons_append]

end SourceDigest.Path
