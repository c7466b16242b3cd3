import Mathlib
import SourceDigest.Proofs.Text.Utf8
import SourceDigest.Proofs.Text.Lines
import SourceDigest.Toml.Document

/-! Documents that set one key, to a text or to a list of texts. Every text can be written between
double quotes, where what has a meaning there is given by its number, and is read back as it
was. -/

namespace SourceDigest.Toml

open List

variable {c : Char} {text rest key : List Char} {fuel : Nat} {v : Value}

/-! ## Strings -/

def isMarked (c : Char) : Bool :=
  c == '"' || c == '\\' || isControl c

/-- A character as it is written between double quotes. -/
def written (c : Char) : List Char :=
  if isMarked c then ['\\', 'u', '0', '0', (c.toNat / 16).digitChar, (c.toNat % 16).digitChar]
  else [c]

/-- A text between double quotes. -/
def quotedText (text : List Char) : List Char :=
  '"' :: (text.flatMap written ++ ['"'])

theorem toNat_lt_of_isMarked (h : isMarked c = true) : c.toNat < 128 := by
  simp only [isMarked, isControl, Bool.or_eq_true, Bool.and_eq_true, beq_iff_eq,
    decide_eq_true_eq] at h
  rcases h with (rfl | rfl) | ⟨h, -⟩ | h
  · decide
  · decide
  · omega
  · omega

theorem hexValue?_digitChar {n : Nat} (h : n < 16) : hexValue? n.digitChar = some n := by
  revert n
  decide

theorem hexChar?_number (h : c.toNat < 256) (rest : List Char) :
    hexChar? 4 ('0' :: '0' :: (c.toNat / 16).digitChar :: (c.toNat % 16).digitChar :: rest) =
      some (c, rest) := by
  have hzero : hexValue? '0' = some 0 := by decide
  have hhigh : hexValue? (c.toNat / 16).digitChar = some (c.toNat / 16) :=
    hexValue?_digitChar (by omega)
  have hlow : hexValue? (c.toNat % 16).digitChar = some (c.toNat % 16) :=
    hexValue?_digitChar (by omega)
  have hnumber : c.toNat / 16 * 16 + c.toNat % 16 = c.toNat := by omega
  have hvalid : c.toNat.isValidChar := c.valid
  simp [hexChar?, hzero, hhigh, hlow, hnumber, hvalid]

theorem basicString?_written (c : Char) (fuel : Nat) (done rest : List Char) :
    basicString? false (fuel + 1) done (written c ++ rest) =
      basicString? false fuel (c :: done) rest := by
  unfold written
  split
  · rename_i hmarked
    have hnumber := hexChar?_number ((toNat_lt_of_isMarked hmarked).trans (by decide)) rest
    simp [basicString?, hnumber]
  · rename_i hplain
    simp only [isMarked, Bool.or_eq_true, beq_iff_eq, not_or, Bool.not_eq_true] at hplain
    obtain ⟨⟨hquote, hbackslash⟩, hcontrol⟩ := hplain
    simp [basicString?, hbackslash, hcontrol]

theorem basicString?_close (fuel : Nat) (done rest : List Char) :
    basicString? false (fuel + 1) done ('"' :: rest) = some (done.reverse, rest) := by
  rw [basicString?.eq_def]
  simp

theorem basicString?_flatMap_written (text done rest : List Char) (h : text.length < fuel) :
    basicString? false fuel done (text.flatMap written ++ '"' :: rest) =
      some (done.reverse ++ text, rest) := by
  obtain ⟨fuel, rfl⟩ : ∃ more, fuel = more + 1 := ⟨fuel - 1, by omega⟩
  induction text generalizing fuel done with
  | nil => rw [flatMap_nil, nil_append, basicString?_close, append_nil]
  | cons c text ih =>
    obtain ⟨fuel, rfl⟩ : ∃ more, fuel = more + 1 := ⟨fuel - 1, by rw [length_cons] at h; omega⟩
    rw [flatMap_cons, append_assoc, basicString?_written, ih _ _ (by simpa using h), reverse_cons,
      append_assoc, singleton_append]

theorem written_ne_nil (c : Char) : written c ≠ [] := by
  unfold written
  split <;> simp

theorem length_le_flatMap_written (text : List Char) :
    text.length ≤ (text.flatMap written).length := by
  induction text with
  | nil => exact le_rfl
  | cons c text ih =>
    have := length_pos_iff.mpr (written_ne_nil c)
    rw [flatMap_cons, length_append, length_cons]
    omega

/-- A text that is not empty starts with no second quote, so it is no string of several lines. -/
theorem exists_flatMap_written (h : text ≠ []) :
    ∃ first more, text.flatMap written = first :: more ∧ first ≠ '"' := by
  obtain ⟨c, text, rfl⟩ := exists_cons_of_ne_nil h
  by_cases hmarked : isMarked c = true
  · exact ⟨_, _, by rw [flatMap_cons, written, if_pos hmarked]; rfl, by decide⟩
  · refine ⟨c, text.flatMap written, by rw [flatMap_cons, written, if_neg hmarked]; rfl, ?_⟩
    rintro rfl
    exact hmarked (by decide)

theorem string?_quotedText (h : text ≠ []) (rest : List Char) :
    string? (quotedText text ++ rest) = some (String.ofList text, rest) := by
  obtain ⟨first, more, hfirst, hquote⟩ := exists_flatMap_written h
  have hlength := length_le_flatMap_written text
  have hread : basicString? false ((text.flatMap written ++ '"' :: rest).length + 1) []
      (text.flatMap written ++ '"' :: rest) = some (text, rest) := by
    rw [basicString?_flatMap_written text [] rest (by rw [length_append]; omega)]
    rfl
  have hquoted : quotedText text ++ rest = '"' :: (text.flatMap written ++ '"' :: rest) := by
    simp [quotedText]
  have hsingle : string? ('"' :: first :: (more ++ '"' :: rest)) =
      (basicString? false ((first :: (more ++ '"' :: rest)).length + 1) []
        (first :: (more ++ '"' :: rest))).map fun r => (String.ofList r.1, r.2) := by
    unfold string?
    split
    · rename_i heq
      exact absurd (cons.inj (cons.inj heq).2).1 hquote
    · rename_i heq
      cases heq
      rfl
    · rename_i heq
      cases heq
    · rename_i heq
      cases heq
    · rename_i hother _ _
      exact absurd rfl (hother _)
  rw [hquoted]
  rw [hfirst] at hread ⊢
  exact hsingle.trans (congrArg (Option.map _) hread)

/-! ## Values -/

/-- A text that is read as a value, whatever follows it, and that may stand in a document. -/
structure SpellsValue (text : List Char) (v : Value) : Prop where
  head : ∃ c rest, text = c :: rest ∧ isSpace c = false
  no_return : '\r' ∉ text
  read : ∀ fuel rest, text.length ≤ fuel → value? fuel (text ++ rest) = some (v, rest)

def listText (texts : List (List Char)) : List Char :=
  '[' :: (Text.join [','] (texts.map quotedText) ++ [']'])

theorem value?_quotedText (h : text ≠ []) (fuel : Nat) (rest : List Char) :
    value? (fuel + 1) (quotedText text ++ rest) = some (.text (String.ofList text), rest) := by
  have hread := string?_quotedText h rest
  rw [quotedText, cons_append] at hread ⊢
  rw [value?, hread]
  rfl

theorem skipBetween?_solid (hspace : isSpace c = false) (hfeed : c ≠ '\n') (hcomment : c ≠ '#')
    (fuel : Nat) (rest : List Char) :
    skipBetween? (fuel + 1) (c :: rest) = some (c :: rest) := by
  have hstay : (c :: rest).dropWhile (fun c => isSpace c || c == '\n') = c :: rest := by
    simp [hspace, hfeed]
  rw [skipBetween?, hstay]
  split
  · rename_i heq
    exact absurd (cons.inj heq).1 hcomment
  · rfl

/-- The items after one that was read, by the character that follows it. -/
theorem items?_of_value {after : List Char} (hspace : isSpace c = false) (hfeed : c ≠ '\n')
    (hcomment : c ≠ '#') (hclose : c ≠ ']') (hvalue : value? fuel (c :: rest) = some (v, after))
    (done : List Value) :
    items? (fuel + 1) done (c :: rest) =
      match skipBetween? (after.length + 1) after with
      | some (']' :: rest) => some ((v :: done).reverse, rest)
      | some (',' :: rest) => items? fuel (v :: done) rest
      | _ => none := by
  rw [items?, skipBetween?_solid hspace hfeed hcomment]
  split
  · rename_i heq
    cases heq
  · rename_i heq
    exact absurd (cons.inj (Option.some.inj heq)).1 hclose
  · rename_i heq
    obtain rfl := Option.some.inj heq
    exact hvalue ▸ rfl

theorem items?_next (h : text ≠ []) (fuel : Nat) (done : List Value) (rest : List Char) :
    items? (fuel + 2) done (quotedText text ++ ',' :: rest) =
      items? (fuel + 1) (.text (String.ofList text) :: done) rest := by
  have hvalue := value?_quotedText h fuel (',' :: rest)
  rw [quotedText, cons_append] at hvalue ⊢
  rw [items?_of_value (by decide) (by decide) (by decide) (by decide) hvalue,
    skipBetween?_solid (by decide) (by decide) (by decide)]
  rfl

theorem items?_last (h : text ≠ []) (fuel : Nat) (done : List Value) (rest : List Char) :
    items? (fuel + 2) done (quotedText text ++ ']' :: rest) =
      some ((.text (String.ofList text) :: done).reverse, rest) := by
  have hvalue := value?_quotedText h fuel (']' :: rest)
  rw [quotedText, cons_append] at hvalue ⊢
  rw [items?_of_value (by decide) (by decide) (by decide) (by decide) hvalue,
    skipBetween?_solid (by decide) (by decide) (by decide)]
  rfl

def textValues (texts : List (List Char)) : List Value :=
  texts.map fun text => .text (String.ofList text)

theorem items?_join {texts : List (List Char)} (hne : texts ≠ []) (h : ∀ text ∈ texts, text ≠ [])
    (hfuel : texts.length < fuel) (done : List Value) (rest : List Char) :
    items? fuel done (Text.join [','] (texts.map quotedText) ++ ']' :: rest) =
      some (done.reverse ++ textValues texts, rest) := by
  induction texts generalizing fuel done with
  | nil => exact absurd rfl hne
  | cons text more ih =>
    obtain ⟨htext, hmore⟩ := forall_mem_cons.mp h
    obtain ⟨fuel, rfl⟩ : ∃ left, fuel = left + 2 :=
      ⟨fuel - 2, by rw [length_cons] at hfuel; omega⟩
    rw [map_cons, Text.join_cons]
    split
    · rename_i hlast
      obtain rfl := map_eq_nil_iff.mp hlast
      rw [items?_last htext, reverse_cons]
      rfl
    · rename_i hnext
      rw [append_assoc, singleton_append, cons_append, items?_next htext,
        ih (mt (congrArg _) hnext) hmore (by simpa using hfuel), reverse_cons, append_assoc]
      rfl

/-! ## What spells a value -/

theorem no_return_written (c : Char) : '\r' ∉ written c := by
  have hdigit : ∀ n < 16, '\r' ≠ n.digitChar := by decide
  unfold written
  split
  · rename_i hmarked
    have hlt := toNat_lt_of_isMarked hmarked
    simp [hdigit (c.toNat / 16) (by omega), hdigit (c.toNat % 16) (by omega)]
  · rename_i hplain
    rw [mem_singleton]
    rintro rfl
    exact hplain (by decide)

theorem no_return_quotedText (text : List Char) : '\r' ∉ quotedText text := by
  simp [quotedText, no_return_written]

theorem spells_quotedText (h : text ≠ []) :
    SpellsValue (quotedText text) (.text (String.ofList text)) where
  head := ⟨_, _, rfl, by decide⟩
  no_return := no_return_quotedText text
  read fuel rest hfuel := by
    obtain ⟨fuel, rfl⟩ : ∃ left, fuel = left + 1 :=
      ⟨fuel - 1, by rw [quotedText, length_cons] at hfuel; omega⟩
    exact value?_quotedText h fuel rest

theorem length_le_join (texts : List (List Char)) :
    texts.length ≤ (Text.join [','] (texts.map quotedText)).length := by
  induction texts with
  | nil => exact le_rfl
  | cons text more ih =>
    rw [map_cons, Text.join_cons]
    split
    · rename_i hlast
      obtain rfl := map_eq_nil_iff.mp hlast
      simp [quotedText]
    · simp only [length_append, length_cons, length_nil]
      omega

theorem no_return_join (texts : List (List Char)) :
    '\r' ∉ Text.join [','] (texts.map quotedText) :=
  Text.notMem_join (by decide) (forall_mem_map.mpr fun text _ => no_return_quotedText text)

theorem spells_listText {texts : List (List Char)} (hne : texts ≠ [])
    (h : ∀ text ∈ texts, text ≠ []) : SpellsValue (listText texts) (.list (textValues texts)) where
  head := ⟨_, _, rfl, by decide⟩
  no_return := by
    have hjoin : '\r' ∉ Text.join [','] (texts.map quotedText) := no_return_join texts
    simp [listText, hjoin]
  read fuel rest hfuel := by
    have hlength := length_le_join texts
    have hbound : texts.length + 2 ≤ fuel := by
      simp only [listText, length_cons, length_append, length_nil] at hfuel
      omega
    obtain ⟨fuel, rfl⟩ : ∃ left, fuel = left + 1 := ⟨fuel - 1, by omega⟩
    rw [listText, cons_append, append_assoc, singleton_append, value?,
      items?_join hne h (by omega)]
    rfl

/-! ## Documents -/

/-- A document of one line, which sets a key to what a text spells. -/
def keyLine (key text : List Char) : List Char :=
  key ++ ' ' :: '=' :: ' ' :: (text ++ ['\n'])

/-- A key that may stand without quotes. -/
structure IsBareKey (key : List Char) : Prop where
  ne_nil : key ≠ []
  bare : ∀ c ∈ key, isBare c = true

/-- A line that starts with such a key starts with none of the characters that keys cannot have. -/
theorem IsBareKey.append_ne (hkey : IsBareKey key) (hc : isBare c = false) (rest more : List Char) :
    key ++ rest ≠ c :: more := by
  obtain ⟨first, tail, rfl⟩ := exists_cons_of_ne_nil hkey.ne_nil
  intro heq
  have hfirst := hkey.bare first mem_cons_self
  rw [(cons.inj heq).1, hc] at hfirst
  cases hfirst

theorem key?_bare (hkey : IsBareKey key) (rest : List Char) :
    key? (key ++ ' ' :: '=' :: rest) = some ([String.ofList key], '=' :: rest) := by
  have hrun : (key ++ ' ' :: '=' :: rest).takeWhile isBare = key := by
    rw [takeWhile_append_of_pos hkey.bare]
    simp [isBare]
  have hpart : keyPart? (key ++ ' ' :: '=' :: rest) =
      some (String.ofList key, ' ' :: '=' :: rest) := by
    unfold keyPart?
    split
    · rename_i heq
      exact absurd heq (hkey.append_ne (by decide) _ _)
    · rename_i heq
      exact absurd heq (hkey.append_ne (by decide) _ _)
    · have hne : key.isEmpty = false := isEmpty_eq_false_iff.mpr hkey.ne_nil
      simp only [hrun, hne, drop_left]
      rfl
  rw [key?, hpart]
  rfl

theorem skipSpace_of_spells (h : SpellsValue text v) (rest : List Char) :
    skipSpace (' ' :: (text ++ rest)) = text ++ rest := by
  obtain ⟨c, more, rfl, hc⟩ := h.head
  have hspace : isSpace ' ' = true := by decide
  rw [skipSpace, dropWhile_cons_of_pos hspace, cons_append, dropWhile_cons_of_neg (by simp [hc])]

theorem setKey?_keyLine (hkey : IsBareKey key) (h : SpellsValue text v) :
    ∃ s, setKey? ⟨[], Closed.none, []⟩ (keyLine key text) = some (s, ['\n']) ∧
      s.data = [(String.ofList key, v)] := by
  have hvalue := h.read (2 * (' ' :: (text ++ ['\n'])).length + 2) ['\n']
    (by simp only [length_cons, length_append]; omega)
  rw [setKey?, keyLine, key?_bare hkey]
  simp only [skipSpace_of_spells h, hvalue]
  exact ⟨_, rfl, rfl⟩

theorem statement?_keyLine (hkey : IsBareKey key) (s : State) (text : List Char) :
    statement? s (keyLine key text) = setKey? s (keyLine key text) := by
  unfold statement?
  split
  · rename_i heq
    exact absurd heq (hkey.append_ne (by decide) _ _)
  · rename_i heq
    exact absurd heq (hkey.append_ne (by decide) _ _)
  · rename_i heq
    exact absurd heq (hkey.append_ne (by decide) _ _)
  · rfl

theorem skipSpace_keyLine (hkey : IsBareKey key) (text : List Char) :
    skipSpace (keyLine key text) = keyLine key text := by
  apply Text.dropWhile_eq_self_of_head
  intro c hc
  obtain ⟨more, hmore⟩ := head?_eq_some_iff.mp (Option.mem_def.mp hc)
  by_contra hspace
  have hbare : isBare c = false := by
    simp only [isSpace, Bool.or_eq_true, beq_iff_eq, Bool.not_eq_false] at hspace
    rcases hspace with rfl | rfl <;> decide
  exact hkey.append_ne hbare _ _ hmore

theorem go_of_no_return (done : List Char) (h : '\r' ∉ text) :
    unifyLineEnds.go done text = done.reverse ++ text := by
  induction text generalizing done with
  | nil => rw [unifyLineEnds.go, append_nil]
  | cons c text ih =>
    rw [mem_cons, not_or] at h
    rw [unifyLineEnds.go, ih _ h.2, reverse_cons, append_assoc, singleton_append]
    exact fun _ hc _ => h.1 hc.symm

theorem unifyLineEnds_eq (h : '\r' ∉ text) : unifyLineEnds text = text :=
  go_of_no_return [] h

/-- A document of one line is the table of its key. -/
theorem document?_keyLine (hkey : IsBareKey key) (h : SpellsValue text v) :
    document? (keyLine key text) = some [(String.ofList key, v)] := by
  have hreturn : '\r' ∉ keyLine key text := by
    have hbare : '\r' ∉ key := fun hmem => absurd (hkey.bare _ hmem) (by decide)
    simp [keyLine, hbare, h.no_return]
  obtain ⟨s, hset, hdata⟩ := setKey?_keyLine hkey h
  rw [document?, unifyLineEnds_eq hreturn, statements?]
  rw [skipSpace_keyLine hkey]
  split
  · rename_i heq
    exact absurd heq (by simp [keyLine])
  · rename_i heq
    exact absurd heq (hkey.append_ne (by decide) _ _)
  · have hrest : skipComment? (skipSpace ['\n']) = some ['\n'] := by decide
    have hlength : 0 < (keyLine key text).length := by simp [keyLine]
    obtain ⟨fuel, hfuel⟩ := Nat.exists_eq_add_one.mpr hlength
    rw [statement?_keyLine hkey, hset, hfuel]
    simp only [hrest]
    rw [statements?]
    simp [skipSpace, hdata]

theorem ofBytes?_keyLine (hkey : IsBareKey key) (h : SpellsValue text v) :
    ofBytes? (String.ofList (keyLine key text)).toUTF8 = some [(String.ofList key, v)] := by
  have hdecode : Utf8.decode (String.ofList (keyLine key text)).toUTF8 =
      .ok (keyLine key text) := by
    rw [Utf8.decode_eq_ok_iff]
    rfl
  rw [ofBytes?, hdecode]
  exact document?_keyLine hkey h

end SourceDigest.Toml
