import Mathlib.Data.List.Basic
import Mathlib.Data.List.TakeWhile
import Mathlib.Logic.Function.Iterate
import SourceDigest.Digest.Basic

/-! The lines of an outline. The stack of a listing always holds what is left of the recursive
listing, in which the entries of a directory follow it, one level further in, so that each turn
writes one line of it. Names that do not start with a blank and hold no slash can be read back off
their lines, and what is below an entry are the lines after it that do start with a blank: outlines
with the same lines have the same entries. -/

namespace SourceDigest

open List

/-! ## Outlines without paths -/

namespace Outline

/-- What holds of no entries, and of entries from what is below the first one and from the others,
holds of all entries. -/
@[elab_as_elim]
theorem entries_induction {motive : List Outline → Prop} (nil : motive [])
    (cons : ∀ name path isDirectory children rest, motive children → motive rest →
      motive (.mk name path isDirectory children :: rest)) : ∀ entries, motive entries
  | [] => nil
  | .mk name path isDirectory children :: rest =>
    cons name path isDirectory children rest (entries_induction nil cons children)
      (entries_induction nil cons rest)
  termination_by entries => sizeOf entries

mutual

/-- An entry and all below it, by names and kinds alone. -/
def withoutPath : Outline → Outline
  | .mk name _ isDirectory children => .mk name "" isDirectory (withoutPaths children)

def withoutPaths : List Outline → List Outline
  | [] => []
  | entry :: rest => withoutPath entry :: withoutPaths rest

end

/-- A name that can be read back off a line. -/
def IsLineName (name : String) : Prop :=
  name ≠ "" ∧ '/' ∉ name.toList ∧ name.toList.head? ≠ some ' '

instance (name : String) : Decidable (IsLineName name) :=
  inferInstanceAs (Decidable (_ ∧ _))

/-- An entry that has such a name, as has all that is below it. -/
inductive Readable : Outline → Prop
  | mk {name path isDirectory children} (hname : IsLineName name)
      (hchildren : ∀ child ∈ children, Readable child) :
      Readable (.mk name path isDirectory children)

end Outline

namespace Digest

open Outline

/-! ## The recursive listing -/

/-- A name as it stands on its line. -/
def heading (name : String) (isDirectory : Bool) : String :=
  name ++ (if isDirectory then "/" else "")

/-- A line one level further in. -/
def indented (line : String) : String :=
  "  " ++ line

mutual

/-- An entry, and after it all that is below it, one level further in. -/
def preorder : Outline → List String
  | .mk name _ isDirectory children =>
    heading name isDirectory :: (preorderAll children).map indented

def preorderAll : List Outline → List String
  | [] => []
  | entry :: rest => preorder entry ++ preorderAll rest

end

theorem preorder_eq (o : Outline) :
    preorder o = heading o.name o.isDirectory :: (preorderAll o.children).map indented := by
  cases o
  rw [preorder]
  rfl

theorem preorderAll_eq (entries : List Outline) :
    preorderAll entries = entries.flatMap preorder := by
  induction entries with
  | nil => rw [preorderAll, flatMap_nil]
  | cons entry rest ih => rw [preorderAll, ih, flatMap_cons]

theorem iterate_indented (depth : Nat) (line : String) :
    indented^[depth] line = String.ofList (replicate (2 * depth) ' ') ++ line := by
  induction depth with
  | zero => simp
  | succ depth ih =>
    have hdeeper : "  " ++ String.ofList (replicate (2 * depth) ' ') =
        String.ofList (replicate (2 * (depth + 1)) ' ') := by
      apply String.ext
      simp only [String.toList_append, String.toList_ofList]
      rfl
    rw [Function.iterate_succ_apply', ih, indented, ← String.append_assoc, hdeeper]

theorem lineOf_eq (o : Outline) (depth : Nat) :
    lineOf o depth = indented^[depth] (heading o.name o.isDirectory) := by
  rw [iterate_indented, lineOf, heading, String.append_assoc]

/-! ## Turns of a listing -/

def linesOn (stack : List Pending) : List String :=
  stack.flatMap fun pending => (preorder pending.1).map indented^[pending.2]

/-- The entries below the top of a stack take its place, one level further in. -/
theorem linesOn_cons (o : Outline) (depth : Nat) (stack : List Pending) :
    linesOn ((o, depth) :: stack) =
      lineOf o depth :: linesOn (o.children.map (fun child => (child, depth + 1)) ++ stack) := by
  have hbelow : (preorderAll o.children).map (indented^[depth] ∘ indented) =
      linesOn (o.children.map fun child => (child, depth + 1)) := by
    rw [linesOn, preorderAll_eq, map_flatMap, flatMap_map]
    rfl
  rw [linesOn, flatMap_cons, preorder_eq, map_cons, map_map, hbelow, ← lineOf_eq, linesOn, linesOn,
    flatMap_append]
  rfl

theorem linesOn_eq_nil {stack : List Pending} : linesOn stack = [] ↔ stack = [] := by
  cases stack with
  | nil => simp [linesOn]
  | cons pending stack => simp [linesOn_cons pending.1 pending.2 stack]

/-- One turn: the top of the stack is listed, and the entries below it take its place. -/
def turn : List String × List Pending → List String × List Pending
  | (done, []) => (done, [])
  | (done, (o, depth) :: stack) =>
    (lineOf o depth :: done, o.children.map (fun child => (child, depth + 1)) ++ stack)

/-- A turn writes the first of the lines and leaves the others. -/
theorem turn_spec (done : List String) (stack : List Pending) :
    linesOn (turn (done, stack)).2 = (linesOn stack).drop 1 ∧
      (turn (done, stack)).1.reverse = done.reverse ++ (linesOn stack).take 1 := by
  cases stack with
  | nil => simp [turn, linesOn]
  | cons pending stack =>
    obtain ⟨o, depth⟩ := pending
    simp [turn, linesOn_cons]

/-- After some turns as many lines have been written, and the stack holds the others. -/
theorem iterate_turn_spec (turns : Nat) (done : List String) (stack : List Pending) :
    linesOn (turn^[turns] (done, stack)).2 = (linesOn stack).drop turns ∧
      (turn^[turns] (done, stack)).1.reverse = done.reverse ++ (linesOn stack).take turns := by
  induction turns with
  | zero => simp
  | succ turns ih =>
    obtain ⟨hleft, hwritten⟩ := ih
    have hstep := turn_spec (turn^[turns] (done, stack)).1 (turn^[turns] (done, stack)).2
    rw [Function.iterate_succ_apply', hstep.1, hstep.2, hleft, hwritten]
    constructor
    · rw [drop_drop]
    · rw [take_add, append_assoc]

/-- A listing can go on after any number of turns. -/
theorem listFrom_iterate_turn (turns : Nat) (s : List String × List Pending) :
    listFrom (turn^[turns] s).1 (turn^[turns] s).2 = listFrom s.1 s.2 := by
  induction turns with
  | zero => rfl
  | succ turns ih =>
    rw [Function.iterate_succ_apply', ← ih]
    obtain ⟨done, stack⟩ := turn^[turns] s
    cases stack with
    | nil => rfl
    | cons pending stack => exact (listFrom.eq_2 ..).symm

/-- The stack is empty after a turn for each line. -/
theorem stack_iterate_turn (done : List String) (stack : List Pending) :
    (turn^[(linesOn stack).length] (done, stack)).2 = [] := by
  apply linesOn_eq_nil.mp
  rw [(iterate_turn_spec _ done stack).1, drop_length]

/-- A listing writes the lines of its stack. -/
theorem listFrom_eq (done : List String) (stack : List Pending) :
    listFrom done stack = done.reverse ++ linesOn stack := by
  have hlist := listFrom_iterate_turn (linesOn stack).length (done, stack)
  have hwritten := (iterate_turn_spec (linesOn stack).length done stack).2
  rw [stack_iterate_turn, listFrom, hwritten, take_length] at hlist
  exact hlist.symm

def startOf (o : Outline) : List Pending :=
  o.children.map fun child => (child, 0)

theorem linesOn_startOf (o : Outline) : linesOn (startOf o) = preorderAll o.children := by
  rw [linesOn, startOf, preorderAll_eq, flatMap_map]
  simp

theorem listing_eq (o : Outline) : listing o = preorderAll o.children := by
  rw [listing, listFrom_eq, ← startOf, linesOn_startOf]
  rfl

/-! ## Reading lines back -/

theorem head_indented (line : String) : (indented line).toList.head? = some ' ' := by
  rw [indented, String.toList_append]
  rfl

theorem indented_injective : Function.Injective indented := by
  intro line other h
  have hlist := congrArg String.toList h
  rw [indented, indented, String.toList_append, String.toList_append] at hlist
  exact String.ext (append_cancel_left hlist)

theorem head_heading {name : String} (h : IsLineName name) (isDirectory : Bool) :
    (heading name isDirectory).toList.head? ≠ some ' ' := by
  obtain ⟨hne, -, hblank⟩ := h
  have hlist : name.toList ≠ [] := by simpa using hne
  rwa [heading, String.toList_append, head?_append_of_ne_nil _ hlist]

/-- A slash at the end tells a directory from a file. -/
theorem heading_inj {name other : String} {isDirectory isOther : Bool} (hname : IsLineName name)
    (hother : IsLineName other) (h : heading name isDirectory = heading other isOther) :
    name = other ∧ isDirectory = isOther := by
  have hlist := congrArg String.toList h
  have hslash : "/".toList = ['/'] := rfl
  cases isDirectory <;> cases isOther <;>
    simp only [heading, String.toList_append, hslash, if_true, if_false, Bool.false_eq_true,
      String.toList_empty, append_nil] at hlist
  · exact ⟨String.ext hlist, rfl⟩
  · exact absurd (by simp [hlist]) hname.2.1
  · exact absurd (by simp [← hlist]) hother.2.1
  · exact ⟨String.ext (append_cancel_right hlist), rfl⟩

/-- Lines that start with no blank end those that do. -/
theorem indented_append_inj {below below' after after' : List String}
    (hafter : ∀ line ∈ after.head?, line.toList.head? ≠ some ' ')
    (hafter' : ∀ line ∈ after'.head?, line.toList.head? ≠ some ' ')
    (h : below.map indented ++ after = below'.map indented ++ after') :
    below = below' ∧ after = after' := by
  have hcut : ∀ below after : List String,
      (∀ line ∈ after.head?, line.toList.head? ≠ some ' ') →
      (below.map indented ++ after).takeWhile (fun line => line.toList.head? == some ' ') =
        below.map indented := by
    intro below after hafter
    rw [takeWhile_append_of_pos]
    · cases after with
      | nil => simp
      | cons line after =>
        have hline : line.toList.head? ≠ some ' ' := hafter line rfl
        rw [takeWhile_cons_of_neg (by simpa using hline), append_nil]
    · intro line hline
      obtain ⟨line, -, rfl⟩ := mem_map.mp hline
      rw [head_indented, beq_self_eq_true]
  have hbelow : below.map indented = below'.map indented := by
    rw [← hcut below after hafter, h, hcut below' after' hafter']
  rw [hbelow] at h
  exact ⟨map_injective_iff.mpr indented_injective hbelow, append_cancel_left h⟩

theorem head_preorderAll {entries : List Outline} (h : ∀ entry ∈ entries, Readable entry) :
    ∀ line ∈ (preorderAll entries).head?, line.toList.head? ≠ some ' ' := by
  cases entries with
  | nil => simp [preorderAll]
  | cons entry rest =>
    obtain ⟨hname, -⟩ := h entry mem_cons_self
    intro line hline
    rw [preorderAll, preorder, cons_append, head?_cons, Option.mem_some_iff] at hline
    subst hline
    exact head_heading hname _

theorem withoutPaths_eq_of_preorderAll_eq {entries others : List Outline}
    (hentries : ∀ entry ∈ entries, Readable entry) (hothers : ∀ entry ∈ others, Readable entry)
    (h : preorderAll entries = preorderAll others) :
    withoutPaths entries = withoutPaths others := by
  induction entries using entries_induction generalizing others with
  | nil =>
    cases others with
    | nil => rfl
    | cons other rest => simp [preorderAll, preorder_eq] at h
  | cons name path isDirectory children rest ihchildren ihrest =>
    cases others with
    | nil => simp [preorderAll, preorder_eq] at h
    | cons other more =>
      obtain ⟨hname, hchildren⟩ := hentries _ mem_cons_self
      obtain ⟨hname', hchildren'⟩ := hothers _ mem_cons_self
      have hrest := fun entry hentry => hentries entry (mem_cons_of_mem _ hentry)
      have hmore := fun entry hentry => hothers entry (mem_cons_of_mem _ hentry)
      rw [preorderAll, preorderAll, preorder, preorder, cons_append, cons_append] at h
      obtain ⟨hheading, hlines⟩ := cons.inj h
      obtain ⟨rfl, rfl⟩ := heading_inj hname hname' hheading
      obtain ⟨hbelow, hafter⟩ :=
        indented_append_inj (head_preorderAll hrest) (head_preorderAll hmore) hlines
      rw [withoutPaths, withoutPaths, withoutPath, withoutPath, ihrest hrest hmore hafter,
        ihchildren hchildren hchildren' hbelow]

theorem preorderAll_withoutPaths (entries : List Outline) :
    preorderAll (withoutPaths entries) = preorderAll entries := by
  induction entries using entries_induction with
  | nil => rw [withoutPaths]
  | cons name path isDirectory children rest ihchildren ihrest =>
    rw [withoutPaths, withoutPath, preorderAll, preorderAll, preorder, preorder, ihchildren, ihrest]

/-- A listing ends after one turn for each line, its lines are those of the recursive listing, and
they are the lines of outlines with the same entries and of no others. -/
structure FaithfulListing (o : Outline) : Prop where
  ends : turn^[(listing o).length] ([], startOf o) = ((listing o).reverse, [])
  lines : listing o = preorderAll o.children
  determines : (∀ child ∈ o.children, Readable child) → ∀ other : Outline,
    (∀ child ∈ other.children, Readable child) →
    (listing o = listing other ↔ withoutPaths o.children = withoutPaths other.children)

theorem listing_determines (o : Outline) : FaithfulListing o where
  ends := by
    have hlines : listing o = linesOn (startOf o) := by rw [listing_eq, linesOn_startOf]
    have hwritten := (iterate_turn_spec (linesOn (startOf o)).length [] (startOf o)).2
    rw [take_length, reverse_nil, nil_append, reverse_eq_iff] at hwritten
    rw [hlines]
    exact Prod.ext hwritten (stack_iterate_turn [] (startOf o))
  lines := listing_eq o
  determines hreadable other hother := by
    rw [listing_eq, listing_eq]
    constructor
    · exact withoutPaths_eq_of_preorderAll_eq hreadable hother
    · intro h
      rw [← preorderAll_withoutPaths, h, preorderAll_withoutPaths]

/-- A folder with an empty one and a file in it. -/
def besideEmpty : Outline :=
  .mk "demo" "" true
    [.mk "src" "src" true
      [.mk "lib" "src/lib" true [], .mk "main.ts" "src/main.ts" false []]]

/-- The same names with the file in the inner folder. -/
def insideInner : Outline :=
  .mk "demo" "" true
    [.mk "src" "src" true
      [.mk "lib" "src/lib" true [.mk "main.ts" "src/lib/main.ts" false []]]]

theorem listing_determines_folders :
    (∀ child ∈ besideEmpty.children, Readable child) ∧
      (∀ child ∈ insideInner.children, Readable child) ∧
      listing besideEmpty = ["src/", "  lib/", "  main.ts"] ∧
      listing insideInner = ["src/", "  lib/", "    main.ts"] ∧
      withoutPaths besideEmpty.children ≠ withoutPaths insideInner.children := by
  have hnames : IsLineName "src" ∧ IsLineName "lib" ∧ IsLineName "main.ts" := by decide
  obtain ⟨hsrc, hlib, hmain⟩ := hnames
  have hbeside : ∀ child ∈ besideEmpty.children, Readable child :=
    forall_mem_singleton.mpr (.mk hsrc (by simp [Readable.mk hlib, Readable.mk hmain]))
  have hinside : ∀ child ∈ insideInner.children, Readable child :=
    forall_mem_singleton.mpr (.mk hsrc (by simp [Readable.mk hlib, Readable.mk hmain]))
  have hfirst := (listing_determines besideEmpty).lines.trans
    (show preorderAll besideEmpty.children = ["src/", "  lib/", "  main.ts"] by decide)
  have hsecond := (listing_determines insideInner).lines.trans
    (show preorderAll insideInner.children = ["src/", "  lib/", "    main.ts"] by decide)
  refine ⟨hbeside, hinside, hfirst, hsecond, fun hsame => ?_⟩
  have hlines := ((listing_determines besideEmpty).determines hbeside insideInner hinside).mpr hsame
  rw [hfirst, hsecond] at hlines
  revert hlines
  decide

end Digest

end SourceDigest
