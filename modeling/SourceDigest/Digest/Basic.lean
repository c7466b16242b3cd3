import SourceDigest.Ranking
import SourceDigest.Tokens

/-!
A digest: the ranked files of a project with its structure and a summary, ready to be rendered,
and the token budget that a rendering has to keep.
-/

namespace SourceDigest

/-- Everything that is rendered. `extra` entries are added to a JSON rendering. -/
structure Digest where
  name : String
  files : List (RankedFile Float)
  outline : Option Outline
  summary : String
  usedStructure : Value
  extra : List (String × Value)

/-- A limit on tokens, and how it is written. -/
structure Budget where
  limit : Amount
  shown : String
  deriving DecidableEq, Repr

namespace Budget

def ofInt (n : Int) : Budget :=
  ⟨.exact n, Value.intText n⟩

/-- The budget that an option stands for; nothing means no limit. -/
def ofValue? (v : Value) : Except Options.Fault (Option Budget) :=
  match v with
  | .null => .ok none
  | v =>
    match Amount.ofValue? v with
    | some limit => .ok (some ⟨limit, v.shown⟩)
    | none => .error (Options.incomparable ">" "int" v.typeName)

def isExceededBy (b : Budget) (tokens : Int) : Bool :=
  b.limit.below tokens

/-- The files from the start of a list that fit when so many tokens are used already. The first
file that does not fit ends the list. -/
def keepFrom {β : Type} (b : Budget) (cost : β → Int) (used : Int) : List β → List β
  | [] => []
  | file :: rest =>
    let used := used + cost file
    if b.isExceededBy used then [] else file :: keepFrom b cost used rest

/-- The files that fit into a budget; without one all do. -/
def keep {β : Type} (b : Option Budget) (cost : β → Int) (used : Int) (files : List β) : List β :=
  match b with
  | none => files
  | some b => b.keepFrom cost used files

end Budget

namespace Digest

/-- The languages of files, sorted, each once. -/
def languages (files : List (RankedFile Float)) : List String :=
  (files.map (·.language)).eraseDups.mergeSort fun a b => !decide (b < a)

/-- A paragraph on the files: their number, languages and size, and with structural analysis what
was counted in them. -/
def summarise (files : List (RankedFile Float)) (usedStructure : Bool) : String :=
  let languages := languages files
  let size := Scalar.floatOfInt (files.foldr (fun f n => f.size + n) 0) / 1024.0
  let counts :=
    "Project contains " ++ toString files.length ++ " files in " ++ toString languages.length ++
      " different languages (" ++ ", ".intercalate languages ++ "). Total size: " ++
      Number.fixed 2 size ++ " KB."
  let analyzed := files.filterMap (·.metrics)
  if usedStructure && !analyzed.isEmpty then
    let total (count : Metrics Float → Int) : String :=
      Value.intText (analyzed.foldr (fun m n => count m + n) 0)
    counts ++ " AST Analysis: " ++ total (·.exportCount) ++ " exports, " ++
      total (·.functionCount) ++ " functions, " ++ total (·.classCount) ++ " classes across " ++
      toString analyzed.length ++ " analyzed files."
  else counts

/-- Entries of an outline that are still to be listed, each with its depth. -/
abbrev Pending := Outline × Nat

noncomputable def weight : List Pending → Nat
  | [] => 0
  | (o, _) :: stack => sizeOf o + weight stack

theorem weight_children_lt (o : Outline) (depth : Nat) (stack : List Pending) :
    weight (o.children.map (fun child => (child, depth)) ++ stack) < sizeOf o + weight stack := by
  cases o with
  | mk name path isDirectory children =>
    have h (xs : List Outline) :
        weight (xs.map (fun child => (child, depth)) ++ stack) < sizeOf xs + weight stack := by
      induction xs with
      | nil => simp [List.nil.sizeOf_spec]
      | cons x xs ih =>
        simp only [List.map_cons, List.cons_append, weight, List.cons.sizeOf_spec]
        omega
    have := h children
    simp only [Outline.children, Outline.mk.sizeOf_spec]
    omega

def lineOf (o : Outline) (depth : Nat) : String :=
  String.ofList (List.replicate (2 * depth) ' ') ++ o.name ++ (if o.isDirectory then "/" else "")

/-- Lines for the entries on a stack and all below them; `done` holds the lines so far, the last
one first. -/
def listFrom (done : List String) : List Pending → List String
  | [] => done.reverse
  | (o, depth) :: stack =>
    listFrom (lineOf o depth :: done) (o.children.map (fun child => (child, depth + 1)) ++ stack)
  termination_by stack => weight stack
  decreasing_by
    exact weight_children_lt o (depth + 1) stack

/-- The entries below an outline, one a line, indented by two blanks for each level. -/
def listing (o : Outline) : List String :=
  listFrom [] (o.children.map fun child => (child, 0))

end Digest

end SourceDigest
