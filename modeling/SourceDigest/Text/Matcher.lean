import SourceDigest.Text.Word
import SourceDigest.Text.Blank

/-!
Patterns over text. A matcher lists every way to match from a cursor on, the preferred one first:
a repetition prefers more, a choice its first branch. The match of a pattern is the head of that
list, and a scan collects the matches from left to right without overlap.
-/

namespace SourceDigest

/-- A place in a text: how many characters have passed, the last of them, and what follows. -/
structure Cursor where
  passed : Nat
  last : Option Char
  rest : List Char

namespace Cursor

/-- The characters between a cursor and a later one of the same text. -/
def textTo (c d : Cursor) : List Char :=
  c.rest.take (d.passed - c.passed)

end Cursor

/-- All matches from a cursor on, each with its value and the cursor after it, in order of
preference. -/
structure Matcher (β : Type) where
  run : Cursor → List (β × Cursor)

namespace Matcher

variable {β γ : Type}

instance : Monad Matcher where
  pure b := ⟨fun c => [(b, c)]⟩
  bind m f := ⟨fun c => (m.run c).flatMap fun r => (f r.1).run r.2⟩

instance : OrElse (Matcher β) where
  orElse m n := ⟨fun c => m.run c ++ (n ()).run c⟩

def one (p : Char → Bool) : Matcher Unit where
  run c :=
    match c.rest with
    | ch :: rest => if p ch then [((), ⟨c.passed + 1, some ch, rest⟩)] else []
    | [] => []

/-- The cursors after the runs of a kind that start here, the longest run first. -/
def runs (p : Char → Bool) (passed : Nat) (last : Option Char) (found : List (Unit × Cursor)) :
    List Char → List (Unit × Cursor)
  | [] => ((), ⟨passed, last, []⟩) :: found
  | ch :: rest =>
    let found := ((), ⟨passed, last, ch :: rest⟩) :: found
    if p ch then runs p (passed + 1) (some ch) found rest else found

def many (p : Char → Bool) : Matcher Unit where
  run c := runs p c.passed c.last [] c.rest

/-- The cursors after each `final` that only characters of a kind stand before, the last one
first. -/
def endings (p : Char → Bool) (final : Char) (passed : Nat) (found : List (Unit × Cursor)) :
    List Char → List (Unit × Cursor)
  | [] => found
  | ch :: rest =>
    let found := if ch == final then ((), ⟨passed + 1, some ch, rest⟩) :: found else found
    if p ch then endings p final (passed + 1) found rest else found

def upTo (p : Char → Bool) (final : Char) : Matcher Unit where
  run c := endings p final c.passed [] c.rest

/-- The cursor after the longest run of a kind. -/
def pass (p : Char → Bool) (passed : Nat) (last : Option Char) : List Char → Cursor
  | [] => ⟨passed, last, []⟩
  | ch :: rest =>
    if p ch then pass p (passed + 1) (some ch) rest else ⟨passed, last, ch :: rest⟩

/-- All characters of a kind that follow, and no fewer. Where no match can go on inside such a run
this has the same matches as `many`. -/
def all (p : Char → Bool) : Matcher Unit where
  run c := [((), pass p c.passed c.last c.rest)]

def all1 (p : Char → Bool) : Matcher Unit := do
  one p
  all p

/-- The cursor after a text, if the text follows; `same` is given the character expected first. -/
def after? (same : Char → Char → Bool) : List Char → Cursor → Option Cursor
  | [], c => some c
  | expected :: more, ⟨passed, _, ch :: rest⟩ =>
    if same expected ch then after? same more ⟨passed + 1, some ch, rest⟩ else none
  | _ :: _, ⟨_, _, []⟩ => none

/-- The characters of a text, compared by `same`. -/
def spell (same : Char → Char → Bool) (text : List Char) : Matcher Unit where
  run c :=
    match after? same text c with
    | some d => [((), d)]
    | none => []

/-- Exactly this text. -/
def lit (text : String) : Matcher Unit :=
  spell (· == ·) text.toList

/-- One of several, the earlier ones preferred. -/
def oneOf (choices : List (Matcher β)) : Matcher β where
  run c := choices.flatMap fun m => m.run c

/-- Where a condition on the place holds. -/
def here (p : Cursor → Bool) : Matcher Unit where
  run c := if p c then [((), c)] else []

def textStart : Matcher Unit :=
  here fun c => c.last.isNone

/-- The start of the text, and after every line feed. -/
def lineStart : Matcher Unit :=
  here fun c =>
    match c.last with
    | none => true
    | some ch => ch == '\n'

/-- The end of the text, and before one line feed that ends it. -/
def textEnd : Matcher Unit :=
  here fun c =>
    match c.rest with
    | [] => true
    | [ch] => ch == '\n'
    | _ => false

/-- Where exactly one of the two neighbouring characters is a word character. -/
def wordEdge : Matcher Unit :=
  here fun c =>
    let before := match c.last with
      | some ch => Text.isWord ch
      | none => false
    let after := match c.rest with
      | ch :: _ => Text.isWord ch
      | [] => false
    before != after

def word (text : String) : Matcher Unit := do
  wordEdge
  lit text
  wordEdge

/-- The text that a matcher passes over. -/
def captured (m : Matcher Unit) : Matcher (List Char) where
  run c := (m.run c).map fun r => (c.textTo r.2, r.2)

/-- A matcher that always passes over something. -/
def Advances (m : Matcher Unit) : Prop :=
  ∀ c, ∀ r ∈ m.run c, r.2.rest.length < c.rest.length

/-- Any number of matches one after the other, more of them preferred. -/
def star (m : Matcher Unit) (h : m.Advances) : Matcher Unit where
  run := starFrom
where
  starFrom (c : Cursor) : List (Unit × Cursor) :=
    ((m.run c).attach.flatMap fun ⟨r, hr⟩ =>
      have : r.2.rest.length < c.rest.length := h c r hr
      starFrom r.2) ++ [((), c)]
  termination_by c.rest.length

theorem one_advances (p : Char → Bool) : (one p).Advances := by
  intro c r hr
  unfold one at hr
  simp only at hr
  split at hr
  · rename_i ch rest hc
    split at hr
    · simp only [List.mem_singleton] at hr
      simp [hr, hc]
    · simp at hr
  · simp at hr

theorem length_after? {same : Char → Char → Bool} {text : List Char} {c d : Cursor}
    (h : after? same text c = some d) : d.rest.length + text.length = c.rest.length := by
  induction text generalizing c with
  | nil =>
    obtain rfl := Option.some.inj h
    exact Nat.add_zero _
  | cons expected more ih =>
    obtain ⟨passed, last, rest⟩ := c
    cases rest with
    | nil => exact absurd h (by simp [after?])
    | cons ch rest =>
      by_cases hs : same expected ch
      · have := ih ((if_pos hs).symm.trans h)
        simp only [List.length_cons] at this ⊢
        omega
      · exact absurd ((if_neg hs).symm.trans h) (by simp)

theorem spell_advances (same : Char → Char → Bool) {text : List Char} (h : text ≠ []) :
    (spell same text).Advances := by
  intro c r hr
  unfold spell at hr
  simp only at hr
  split at hr
  · rename_i d hd
    have := length_after? hd
    have := List.length_pos_iff.2 h
    rw [List.mem_singleton.1 hr]
    show d.rest.length < c.rest.length
    omega
  · simp at hr

theorem length_pass_le (p : Char → Bool) (text : List Char) (passed : Nat) (last : Option Char) :
    (pass p passed last text).rest.length ≤ text.length := by
  induction text generalizing passed last with
  | nil => exact Nat.le_refl _
  | cons ch rest ih =>
    unfold pass
    split
    · exact Nat.le_succ_of_le (ih _ _)
    · exact Nat.le_refl _

theorem advances_bind {m : Matcher Unit} {f : Unit → Matcher Unit} (hm : m.Advances)
    (hf : ∀ c, ∀ r ∈ (f ()).run c, r.2.rest.length ≤ c.rest.length) : (m >>= f).Advances := by
  intro c r hr
  obtain ⟨s, hs, hr⟩ := List.mem_flatMap.1 hr
  exact Nat.lt_of_le_of_lt (hf s.2 r hr) (hm c s hs)

theorem all1_advances (p : Char → Bool) : (all1 p).Advances :=
  advances_bind (one_advances p) fun c r hr => by
    rw [List.mem_singleton.1 hr]
    exact length_pass_le p c.rest c.passed c.last

/-- Scans from left to right. `skip` characters still belong to the last match. -/
def scan (m : Matcher β) (skip passed : Nat) (last : Option Char) (found : List β) :
    List Char → List β
  | [] => found.reverse
  | ch :: rest =>
    match skip with
    | skip + 1 => scan m skip (passed + 1) (some ch) found rest
    | 0 =>
      match m.run ⟨passed, last, ch :: rest⟩ with
      | [] => scan m 0 (passed + 1) (some ch) found rest
      | (b, after) :: _ =>
        scan m (after.passed - passed - 1) (passed + 1) (some ch) (b :: found) rest

/-- The values of all matches in a text, from left to right and without overlap. -/
def findAll (m : Matcher β) (text : List Char) : List β :=
  scan m 0 0 none [] text

def count (m : Matcher β) (text : List Char) : Nat :=
  (findAll m text).length

/-- Whether a match starts at a cursor or further on. -/
def occursFrom (m : Matcher β) (passed : Nat) (last : Option Char) : List Char → Bool
  | [] => !(m.run ⟨passed, last, []⟩).isEmpty
  | ch :: rest =>
    !(m.run ⟨passed, last, ch :: rest⟩).isEmpty || occursFrom m (passed + 1) (some ch) rest

def occurs (m : Matcher β) (text : List Char) : Bool :=
  occursFrom m 0 none text

end Matcher

end SourceDigest
