import Mathlib.Data.List.Forall2
import Mathlib.Logic.Function.Basic
import SourceDigest.Analysis.Analyzer

/-! A chain of strategies where metrics are objects in a memory. A list stands in a place of its
own that several objects may name, a strategy changes the object it is handed before it returns
one, gives up or raises, and what it changed stays changed. The chain catches what is raised and
hands a new copy of the template to each strategy. What comes of it is what comes of the chain on
values, so that nothing of a failed strategy is ever read. -/

namespace SourceDigest.Strategy

open List Function

variable {α : Type}

/-! ## Memory -/

/-- A metrics object with the places of its lists. What `own` has of lists does not count. -/
structure Object (α : Type) where
  own : Metrics α
  dependencies : Nat
  exports : Nat
  frameworks : Nat

def Object.places (o : Object α) : List Nat :=
  [o.dependencies, o.exports, o.frameworks]

/-- Objects and lists by place; those from `objects` and `lists` on are still to be made. -/
structure Memory (α : Type) where
  objects : Nat
  lists : Nat
  object : Nat → Object α
  list : Nat → List String

namespace Memory

/-- The metrics of an object. -/
def read (mem : Memory α) (place : Nat) : Metrics α :=
  let o := mem.object place
  { o.own with
    dependencies := mem.list o.dependencies
    exports := mem.list o.exports
    frameworks := mem.list o.frameworks }

/-- Memory with one more object, whose lists are new ones too. -/
def make (mem : Memory α) (m : Metrics α) : Memory α where
  objects := mem.objects + 1
  lists := mem.lists + 3
  object := update mem.object mem.objects ⟨m, mem.lists, mem.lists + 1, mem.lists + 2⟩
  list := update (update (update mem.list mem.lists m.dependencies) (mem.lists + 1) m.exports)
    (mem.lists + 2) m.frameworks

/-- Memory after an object and the lists it names are written over. -/
def write (mem : Memory α) (place : Nat) (m : Metrics α) : Memory α :=
  let o := mem.object place
  { mem with
    object := update mem.object place { o with own := m }
    list := update (update (update mem.list o.dependencies m.dependencies) o.exports m.exports)
      o.frameworks m.frameworks }

/-- Memory after an object got the name of a strategy. -/
def rename (mem : Memory α) (place : Nat) (name : String) : Memory α :=
  let o := mem.object place
  { mem with object := update mem.object place { o with own := { o.own with strategy := name } } }

/-- The object and its lists have been made. -/
structure HasMade (mem : Memory α) (place : Nat) : Prop where
  object : place < mem.objects
  lists : ∀ l ∈ (mem.object place).places, l < mem.lists

/-- The lists of the object stand in different places, so that each can be written alone. -/
def Separate (mem : Memory α) (place : Nat) : Prop :=
  (mem.object place).places.Nodup

/-- Of what was there before nothing but one object and its lists has changed. -/
structure Keeps (before : Memory α) (place : Nat) (after : Memory α) : Prop where
  objects : before.objects ≤ after.objects
  lists : before.lists ≤ after.lists
  object : ∀ p < before.objects, p ≠ place → after.object p = before.object p
  list : ∀ l < before.lists, l ∉ (before.object place).places → after.list l = before.list l

theorem read_congr {mem mem' : Memory α} {place : Nat}
    (hobject : mem'.object place = mem.object place)
    (hlists : ∀ l ∈ (mem.object place).places, mem'.list l = mem.list l) :
    mem'.read place = mem.read place := by
  simp only [Object.places, forall_mem_cons] at hlists
  obtain ⟨hdependencies, hexports, hframeworks, -⟩ := hlists
  rw [read, read, hobject, hdependencies, hexports, hframeworks]

theorem read_rename (mem : Memory α) (place : Nat) (name : String) :
    (mem.rename place name).read place = { mem.read place with strategy := name } := by
  simp [read, rename]

/-! ### A new object -/

theorem read_make (mem : Memory α) (m : Metrics α) : (mem.make m).read mem.objects = m := by
  simp [read, make]

theorem places_make (mem : Memory α) (m : Metrics α) :
    ((mem.make m).object mem.objects).places = [mem.lists, mem.lists + 1, mem.lists + 2] := by
  simp [make, Object.places]

theorem hasMade_make (mem : Memory α) (m : Metrics α) : (mem.make m).HasMade mem.objects := by
  refine ⟨Nat.lt_succ_self _, fun l hl => ?_⟩
  rw [places_make] at hl
  simp only [make, mem_cons, not_mem_nil, or_false] at hl ⊢
  omega

theorem separate_make (mem : Memory α) (m : Metrics α) : (mem.make m).Separate mem.objects := by
  simp [Separate, places_make]

variable {mem : Memory α} {place : Nat}

theorem object_make (h : place < mem.objects) (m : Metrics α) :
    (mem.make m).object place = mem.object place :=
  update_of_ne (Nat.ne_of_lt h) _ _

theorem list_make {l : Nat} (h : l < mem.lists) (m : Metrics α) :
    (mem.make m).list l = mem.list l := by
  simp only [make]
  rw [update_of_ne (by omega), update_of_ne (by omega), update_of_ne (by omega)]

theorem HasMade.make (h : mem.HasMade place) (m : Metrics α) : (mem.make m).HasMade place := by
  refine ⟨Nat.lt_succ_of_lt h.object, fun l hl => ?_⟩
  rw [object_make h.object] at hl
  exact Nat.lt_add_right 3 (h.lists l hl)

theorem HasMade.read_make (h : mem.HasMade place) (m : Metrics α) :
    (mem.make m).read place = mem.read place :=
  read_congr (object_make h.object m) fun l hl => list_make (h.lists l hl) m

/-- A new object shares no list with those that are there already. -/
theorem HasMade.notMem_places_make (h : mem.HasMade place) (m : Metrics α) :
    ∀ l ∈ ((mem.make m).object place).places,
      l ∉ ((mem.make m).object mem.objects).places := by
  intro l hl hnew
  rw [object_make h.object] at hl
  rw [places_make] at hnew
  have hlt := h.lists l hl
  simp only [mem_cons, not_mem_nil, or_false] at hnew
  omega

/-! ### A changed object -/

/-- A change of one object is not seen in another one that shares no list with it. -/
theorem HasMade.keeps {after : Memory α} {other : Nat} (h : mem.HasMade other)
    (hkeeps : mem.Keeps place after) (hne : other ≠ place)
    (happart : ∀ l ∈ (mem.object other).places, l ∉ (mem.object place).places) :
    after.HasMade other ∧ after.read other = mem.read other := by
  have hobject : after.object other = mem.object other := hkeeps.object other h.object hne
  refine ⟨⟨Nat.lt_of_lt_of_le h.object hkeeps.objects, fun l hl => ?_⟩, ?_⟩
  · rw [hobject] at hl
    exact Nat.lt_of_lt_of_le (h.lists l hl) hkeeps.lists
  · exact read_congr hobject fun l hl => hkeeps.list l (h.lists l hl) (happart l hl)

theorem keeps_write (mem : Memory α) (place : Nat) (m : Metrics α) :
    mem.Keeps place (mem.write place m) := by
  refine ⟨Nat.le_refl _, Nat.le_refl _, fun _ _ hne => update_of_ne hne _ _, fun l _ hl => ?_⟩
  simp only [Object.places, mem_cons, not_mem_nil, or_false, not_or] at hl
  obtain ⟨hdependencies, hexports, hframeworks⟩ := hl
  simp only [write]
  rw [update_of_ne hframeworks, update_of_ne hexports, update_of_ne hdependencies]

theorem read_write (h : mem.Separate place) (m : Metrics α) :
    (mem.write place m).read place = m := by
  simp only [Separate, Object.places, nodup_cons, mem_cons, not_mem_nil, or_false, not_or] at h
  obtain ⟨⟨hde, hdf⟩, hef, -⟩ := h
  simp [read, write, hde, hdf, hef]

end Memory

/-! ## Actions -/

/-- What runs on memory and may raise; what it did before stays done. -/
abbrev Action (α β : Type) :=
  ExceptT Crash (StateM (Memory α)) β

namespace Action

variable {β γ : Type}

theorem run_bind (first : Action α β) (next : β → Action α γ) (mem : Memory α) :
    (first >>= next).run mem =
      match first.run mem with
      | (.ok b, after) => (next b).run after
      | (.error raised, after) => (.error raised, after) := by
  simp only [ExceptT.run, bind, ExceptT.bind, ExceptT.mk, StateT.bind]
  rcases first mem with ⟨raised | b, after⟩ <;> rfl

/-- Catching what an action raises does not undo what it did. -/
theorem run_caught (action : Action α (Option β)) (mem : Memory α) :
    (tryCatch action fun _ => return none).run mem =
      match action.run mem with
      | (.ok b, after) => (.ok b, after)
      | (.error _, after) => (.ok none, after) := by
  simp only [tryCatch, tryCatchThe, MonadExceptOf.tryCatch, ExceptT.tryCatch, ExceptT.run,
    ExceptT.mk, bind, StateT.bind]
  rcases action mem with ⟨raised | b, after⟩ <;> rfl

end Action

/-! ## Strategies on memory -/

/-- A strategy on memory: it is handed the place of an object and gives the place of one that it
returns. -/
structure Step (α : Type) where
  name : String
  act : (path content : String) → (place : Nat) → Action α (Option Nat)

/-- How an action on the object at a place ends that does in memory what an attempt says. -/
inductive EndsAs (place : Nat) :
    Attempt α → Except Crash (Option Nat) × Memory α → Prop where
  | returns (found : Nat) (mem : Memory α) :
      EndsAs place (.returns (mem.read found)) (.ok (some found), mem)
  | givesUp (mem : Memory α) : EndsAs place (.givesUp (mem.read place)) (.ok none, mem)
  | fails (crash : Crash) (mem : Memory α) :
      EndsAs place (.fails (mem.read place) crash) (.error crash, mem)

/-- A step does on an object what a strategy does on its metrics, and touches no other object. -/
structure Step.Follows (step : Step α) (s : Strategy α) : Prop where
  name : step.name = s.name
  act : ∀ path content place mem, mem.HasMade place → mem.Separate place →
    EndsAs place (s.analyze path content (mem.read place)) ((step.act path content place).run mem) ∧
      mem.Keeps place ((step.act path content place).run mem).2

/-- The step that leaves what a strategy makes of metrics in the very object it is handed and in
the lists of that object. -/
def inPlace (s : Strategy α) : Step α where
  name := s.name
  act path content place := do
    let mem ← get
    match s.analyze path content (mem.read place) with
    | .returns m => do
      set (mem.write place m)
      return some place
    | .givesUp left => do
      set (mem.write place left)
      return none
    | .fails left crash => do
      set (mem.write place left)
      throw crash

theorem run_inPlace (s : Strategy α) (path content : String) (place : Nat) (mem : Memory α) :
    (s.inPlace.act path content place).run mem =
      match s.analyze path content (mem.read place) with
      | .returns m => (.ok (some place), mem.write place m)
      | .givesUp left => (.ok none, mem.write place left)
      | .fails left crash => (.error crash, mem.write place left) := by
  have hget : (get : Action α (Memory α)).run mem = (.ok mem, mem) := rfl
  simp only [inPlace, Action.run_bind, hget]
  cases s.analyze path content (mem.read place) <;> rfl

theorem inPlace_follows (s : Strategy α) : s.inPlace.Follows s := by
  refine ⟨rfl, fun path content place mem _ hseparate => ?_⟩
  have hread := Memory.read_write hseparate
  rw [run_inPlace]
  cases s.analyze path content (mem.read place) with
  | returns m =>
    refine ⟨?_, Memory.keeps_write mem place m⟩
    have hends : EndsAs place _ _ := .returns place (mem.write place m)
    rwa [hread m] at hends
  | givesUp left =>
    refine ⟨?_, Memory.keeps_write mem place left⟩
    have hends : EndsAs place _ _ := .givesUp (mem.write place left)
    rwa [hread left] at hends
  | fails left crash =>
    refine ⟨?_, Memory.keeps_write mem place left⟩
    have hends : EndsAs place _ _ := .fails crash (mem.write place left)
    rwa [hread left] at hends

/-- Every chain of strategies is followed by a chain of steps. -/
theorem forall₂_inPlace (chain : List (Strategy α)) :
    Forall₂ Step.Follows (chain.map inPlace) chain := by
  induction chain with
  | nil => exact .nil
  | cons s chain ih => exact .cons s.inPlace_follows ih

/-! ## Chains on memory -/

variable [Scalar α]

/-- A new object with the character that an object has and nothing else. -/
def freshCopy (template : Nat) : Action α Nat :=
  modifyGet fun mem => (mem.objects, mem.make (mem.read template).fresh)

/-- The object that the first step returns, under the step's name; each step is handed a copy of
the template. If none returns one, another copy. -/
def runSteps (template : Nat) (path content : String) : List (Step α) → Action α Nat
  | [] => do
    let place ← freshCopy template
    modify (·.rename place "none")
    return place
  | step :: steps => do
    let place ← freshCopy template
    match ← tryCatch (step.act path content place) fun _ => return none with
    | some found => do
      modify (·.rename found step.name)
      return found
    | none => runSteps template path content steps

theorem run_runSteps_nil (template : Nat) (path content : String) (mem : Memory α) :
    (runSteps template path content []).run mem =
      (.ok mem.objects, (mem.make (mem.read template).fresh).rename mem.objects "none") :=
  rfl

theorem run_runSteps_cons (template : Nat) (path content : String) (step : Step α)
    (steps : List (Step α)) (mem : Memory α) :
    (runSteps template path content (step :: steps)).run mem =
      match (step.act path content mem.objects).run (mem.make (mem.read template).fresh) with
      | (.ok (some found), after) => (.ok found, after.rename found step.name)
      | (.ok none, after) => (runSteps template path content steps).run after
      | (.error _, after) => (runSteps template path content steps).run after := by
  have hcopy : (freshCopy template : Action α Nat).run mem =
      (.ok mem.objects, mem.make (mem.read template).fresh) := rfl
  simp only [runSteps, Action.run_bind, Action.run_caught, hcopy]
  rcases (step.act path content mem.objects).run (mem.make (mem.read template).fresh)
    with ⟨raised | _ | found, after⟩ <;> rfl

/-- A chain of steps raises nothing and ends with an object that reads as what the strategies they
follow come to on values. -/
theorem runSteps_eq {steps : List (Step α)} {chain : List (Strategy α)}
    (h : Forall₂ Step.Follows steps chain) {mem : Memory α} {template : Nat}
    (hmem : mem.HasMade template) (path content : String) :
    ∃ found after, (runSteps template path content steps).run mem = (.ok found, after) ∧
      after.read found = runChain (mem.read template) path content chain := by
  induction h generalizing mem with
  | nil =>
    refine ⟨_, _, run_runSteps_nil template path content mem, ?_⟩
    rw [Memory.read_rename, Memory.read_make]
    rfl
  | @cons step s steps chain hstep _ ih =>
    have hread := hmem.read_make (mem.read template).fresh
    obtain ⟨hends, hkeeps⟩ := hstep.act path content mem.objects _
      (Memory.hasMade_make mem (mem.read template).fresh) (Memory.separate_make mem _)
    -- whatever the step did to its copy, the template is read as before
    obtain ⟨hafter, hread'⟩ := (hmem.make _).keeps hkeeps (Nat.ne_of_lt hmem.object)
      (hmem.notMem_places_make _)
    rw [Memory.read_make] at hends
    rw [run_runSteps_cons, runChain]
    generalize s.analyze path content (mem.read template).fresh = attempt at hends ⊢
    generalize (step.act path content mem.objects).run _ = ending at hends hafter hread' ⊢
    cases hends with
    | returns found after =>
      refine ⟨found, _, rfl, ?_⟩
      rw [Memory.read_rename, hstep.name]
    | givesUp after =>
      rw [← hread, ← hread']
      exact ih hafter
    | fails crash after =>
      rw [← hread, ← hread']
      exact ih hafter

end SourceDigest.Strategy
