import SourceDigest.Text.Matcher

/-! What matchers pass over and what they yield. A match takes a text off the start of what follows
its cursor; the texts of a sequence are those of its parts one after the other. Whatever every
match of a pattern yields, a scan collects nothing else. -/

namespace SourceDigest

def Cursor.behind (c : Cursor) (text rest : List Char) : Cursor :=
  ⟨c.passed + text.length, text.getLast?.or c.last, rest⟩

namespace Matcher

variable {β γ : Type} {m : Matcher β} {f : β → Matcher γ} {c d : Cursor}

/-! ## Matches -/

theorem run_pure (b : β) (c : Cursor) : (pure b : Matcher β).run c = [(b, c)] :=
  rfl

theorem run_bind (m : Matcher β) (f : β → Matcher γ) (c : Cursor) :
    (m >>= f).run c = (m.run c).flatMap fun r => (f r.1).run r.2 :=
  rfl

theorem run_orElse (m n : Matcher β) (c : Cursor) : (m <|> n).run c = m.run c ++ n.run c :=
  rfl

theorem mem_run_bind {r : γ × Cursor} :
    r ∈ (m >>= f).run c ↔ ∃ s ∈ m.run c, r ∈ (f s.1).run s.2 :=
  List.mem_flatMap

theorem run_bind_ne_nil {r : β × Cursor} (hr : r ∈ m.run c) (h : (f r.1).run r.2 ≠ []) :
    (m >>= f).run c ≠ [] := by
  obtain ⟨t, ht⟩ := List.exists_mem_of_ne_nil _ h
  exact List.ne_nil_of_mem (mem_run_bind.mpr ⟨r, hr, ht⟩)

theorem mem_run_here {p : Cursor → Bool} {r : Unit × Cursor} :
    r ∈ (here p).run c ↔ p c = true ∧ r.2 = c := by
  unfold here
  dsimp only
  split
  · rename_i h
    simp [h, Prod.ext_iff]
  · rename_i h
    simp [h]

theorem after?_eq_some_iff {text : List Char} :
    after? (· == ·) text c = some d ↔ ∃ rest, c.rest = text ++ rest ∧ d = c.behind text rest := by
  induction text generalizing c with
  | nil => simp [after?, Cursor.behind, eq_comm]
  | cons expected text ih =>
    obtain ⟨passed, last, rest⟩ := c
    cases rest with
    | nil => simp [after?]
    | cons ch rest =>
      by_cases hsame : expected = ch
      · subst hsame
        have hbehind : Cursor.behind ⟨passed + 1, some expected, rest⟩ text =
            Cursor.behind ⟨passed, last, expected :: rest⟩ (expected :: text) := by
          funext after
          simp only [Cursor.behind, List.length_cons, List.getLast?_cons, Cursor.mk.injEq, and_true]
          refine ⟨by omega, ?_⟩
          cases text.getLast? <;> rfl
        rw [after?, if_pos (beq_self_eq_true expected), ih, hbehind]
        simp
      · simp [after?, hsame, Ne.symm hsame]

theorem mem_run_lit {key : String} {r : Unit × Cursor} :
    r ∈ (lit key).run c ↔ ∃ rest, c.rest = key.toList ++ rest ∧ r.2 = c.behind key.toList rest := by
  rw [← after?_eq_some_iff]
  unfold lit spell
  dsimp only
  cases after? (· == ·) key.toList c with
  | none => simp
  | some d => simp [Prod.ext_iff, eq_comm]

/-! ## Texts passed over -/

/-- Between two cursors of one text lies a text of a kind. -/
def Passed (texts : List Char → Prop) (c d : Cursor) : Prop :=
  ∃ text, texts text ∧ c.rest = text ++ d.rest ∧ d.passed = c.passed + text.length

/-- Every match passes over a text of a kind. -/
def Passes (m : Matcher β) (texts : List Char → Prop) : Prop :=
  ∀ c, ∀ r ∈ m.run c, Passed texts c r.2

/-- Texts of one kind followed by texts of another. -/
def Followed (first second : List Char → Prop) (text : List Char) : Prop :=
  ∃ u v, text = u ++ v ∧ first u ∧ second v

theorem Passed.refl {texts : List Char → Prop} (h : texts []) (c : Cursor) : Passed texts c c :=
  ⟨[], h, rfl, rfl⟩

theorem Passed.mono {texts more : List Char → Prop} {c d : Cursor} (h : Passed texts c d)
    (hmore : ∀ text, texts text → more text) : Passed more c d := by
  obtain ⟨text, htext, hcursor⟩ := h
  exact ⟨text, hmore text htext, hcursor⟩

theorem Passed.cons {texts more : List Char → Prop} {passed : Nat} {ch : Char}
    {rest : List Char} {d : Cursor} (h : Passed texts ⟨passed + 1, some ch, rest⟩ d)
    (hmore : ∀ text, texts text → more (ch :: text)) (last : Option Char) :
    Passed more ⟨passed, last, ch :: rest⟩ d := by
  obtain ⟨text, htext, hrest, hpassed⟩ := h
  refine ⟨ch :: text, hmore text htext, congrArg (ch :: ·) hrest, ?_⟩
  simp only [List.length_cons] at hpassed ⊢
  omega

theorem Passed.trans {first second : List Char → Prop} {c d e : Cursor}
    (hcd : Passed first c d) (hde : Passed second d e) : Passed (Followed first second) c e := by
  obtain ⟨u, hu, hrest, hpassed⟩ := hcd
  obtain ⟨v, hv, hrest', hpassed'⟩ := hde
  refine ⟨u ++ v, ⟨u, v, rfl, hu, hv⟩, ?_, ?_⟩
  · rw [hrest, hrest', List.append_assoc]
  · rw [hpassed', hpassed, List.length_append]
    omega

theorem Passed.textTo {texts : List Char → Prop} {c d : Cursor} (h : Passed texts c d) :
    texts (c.textTo d) := by
  obtain ⟨text, htext, hrest, hpassed⟩ := h
  have hlength : d.passed - c.passed = text.length := by omega
  rwa [Cursor.textTo, hrest, hlength, List.take_left]

theorem Passes.mono {texts more : List Char → Prop} (h : m.Passes texts)
    (hmore : ∀ text, texts text → more text) : m.Passes more :=
  fun c r hr => (h c r hr).mono hmore

theorem Passes.any {texts : List Char → Prop} (h : m.Passes texts) : m.Passes fun _ => True :=
  h.mono fun _ _ => trivial

theorem passes_pure (b : β) : (pure b : Matcher β).Passes (· = []) := by
  intro c r hr
  rw [List.mem_singleton.mp hr]
  exact ⟨[], rfl, rfl, rfl⟩

theorem passes_bind {first second : List Char → Prop} (hm : m.Passes first)
    (hf : ∀ b, (f b).Passes second) : (m >>= f).Passes (Followed first second) := by
  intro c r hr
  obtain ⟨s, hs, hr⟩ := List.mem_flatMap.mp hr
  exact (hm c s hs).trans (hf s.1 s.2 r hr)

theorem passes_one (p : Char → Bool) :
    (one p).Passes fun text => ∃ ch, text = [ch] ∧ p ch = true := by
  intro c r hr
  obtain ⟨passed, last, rest⟩ := c
  cases rest with
  | nil => simp [one] at hr
  | cons ch rest =>
    by_cases hp : p ch = true
    · obtain rfl : r = _ := by simpa [one, hp] using hr
      exact ⟨[ch], ⟨ch, rfl, hp⟩, rfl, rfl⟩
    · simp [one, hp] at hr

theorem passed_pass (p : Char → Bool) (passed : Nat) (last : Option Char) (rest : List Char) :
    Passed (fun text => ∀ ch ∈ text, p ch = true) ⟨passed, last, rest⟩
      (pass p passed last rest) := by
  induction rest generalizing passed last with
  | nil => exact Passed.refl (by simp) _
  | cons ch rest ih =>
    unfold pass
    split
    · rename_i hp
      refine (ih (passed + 1) (some ch)).cons ?_ last
      intro text htext
      simpa [hp] using htext
    · exact Passed.refl (by simp) _

theorem passes_all (p : Char → Bool) : (all p).Passes fun text => ∀ ch ∈ text, p ch = true := by
  intro c r hr
  obtain rfl := List.mem_singleton.mp hr
  exact passed_pass p c.passed c.last c.rest

theorem passes_all1 (p : Char → Bool) :
    (all1 p).Passes fun text => text ≠ [] ∧ ∀ ch ∈ text, p ch = true := by
  apply (passes_bind (passes_one p) fun _ => passes_all p).mono
  rintro text ⟨_, v, rfl, ⟨ch, rfl, hp⟩, hv⟩
  simpa [hp] using hv

theorem passes_lit (text : String) : (lit text).Passes (· = text.toList) := by
  intro c r hr
  obtain ⟨rest, hrest, hcursor⟩ := mem_run_lit.mp hr
  rw [hcursor]
  exact ⟨text.toList, rfl, hrest, rfl⟩

theorem passes_captured {m : Matcher Unit} {texts : List Char → Prop} (hm : m.Passes texts) :
    (captured m).Passes texts := by
  intro c r hr
  obtain ⟨s, hs, rfl⟩ := List.mem_map.mp hr
  exact hm c s hs

/-- Any number of matches pass over any number of their texts. -/
theorem passes_star {m : Matcher Unit} {texts all : List Char → Prop} (h : m.Advances)
    (hm : m.Passes texts) (hnil : all []) (hmore : ∀ u v, texts u → all v → all (u ++ v)) :
    (star m h).Passes all := by
  intro c
  change ∀ r ∈ star.starFrom m h c, Passed all c r.2
  -- on how much of the text is left, as every round passes over something
  induction hn : c.rest.length using Nat.strongRecOn generalizing c with
  | ind n ih =>
    subst hn
    intro r hr
    rw [star.starFrom, List.mem_append, List.mem_flatMap] at hr
    rcases hr with ⟨⟨s, hs⟩, -, hr⟩ | hr
    · have hrest := ih _ (h c s hs) s.2 rfl r hr
      apply ((hm c s hs).trans hrest).mono
      rintro _ ⟨u, v, rfl, hu, hv⟩
      exact hmore u v hu hv
    · rw [List.mem_singleton.mp hr]
      exact Passed.refl hnil c

/-! ## Values -/

/-- Every match yields a value of a kind. -/
def Yields (m : Matcher β) (values : β → Prop) : Prop :=
  ∀ c, ∀ r ∈ m.run c, values r.1

theorem yields_any (m : Matcher β) : m.Yields fun _ => True :=
  fun _ _ _ => trivial

theorem yields_pure {values : β → Prop} {b : β} (h : values b) :
    (pure b : Matcher β).Yields values := by
  intro c r hr
  rw [List.mem_singleton.mp hr]
  exact h

theorem yields_bind {first : β → Prop} {second : γ → Prop} (hm : m.Yields first)
    (hf : ∀ b, first b → (f b).Yields second) : (m >>= f).Yields second := by
  intro c r hr
  obtain ⟨s, hs, hr⟩ := List.mem_flatMap.mp hr
  exact hf s.1 (hm c s hs) s.2 r hr

/-- A captured text is one that was passed over. -/
theorem yields_captured {m : Matcher Unit} {texts : List Char → Prop} (hm : m.Passes texts) :
    (captured m).Yields texts := by
  intro c r hr
  obtain ⟨s, hs, rfl⟩ := List.mem_map.mp hr
  exact (hm c s hs).textTo

theorem mem_scan {values : β → Prop} (hm : m.Yields values) {skip passed : Nat}
    {last : Option Char} {found : List β} {text : List Char} (hfound : ∀ b ∈ found, values b) :
    ∀ b ∈ scan m skip passed last found text, values b := by
  induction text generalizing skip passed last found with
  | nil =>
    intro b hb
    exact hfound b (List.mem_reverse.mp hb)
  | cons ch rest ih =>
    cases skip with
    | succ skip => exact ih hfound
    | zero =>
      unfold scan
      dsimp only
      cases hrun : m.run ⟨passed, last, ch :: rest⟩ with
      | nil => exact ih hfound
      | cons r more =>
        have hvalue : values r.1 := hm ⟨passed, last, ch :: rest⟩ r (by simp [hrun])
        refine ih fun b hb => ?_
        rcases List.mem_cons.mp hb with rfl | hb
        · exact hvalue
        · exact hfound b hb

theorem mem_findAll {values : β → Prop} (hm : m.Yields values) {text : List Char} :
    ∀ b ∈ findAll m text, values b :=
  mem_scan hm fun _ hb => absurd hb List.not_mem_nil

end Matcher

end SourceDigest
