import SourceDigest.Metrics
import SourceDigest.Text.Matcher

/-!
Metrics from the surface of a text, without a parser. One strategy knows the import,
function and class lines of one language; the general one counts what looks like imports,
functions, classes and decisions in any language, each pattern for itself, so that one construct
may count twice.
-/

namespace SourceDigest.Surface

open Matcher

variable {α : Type} [Scalar α]

def countAll (patterns : List (Matcher Unit)) (content : List Char) : Nat :=
  patterns.foldr (fun m n => m.count content + n) 0

/-- White space, at least one character. -/
def gap : Matcher Unit :=
  all1 Text.isBlank

def optionalGap : Matcher Unit :=
  all Text.isBlank

def name : Matcher Unit :=
  all1 Text.isWord

theorem dotName_advances : (do lit "."; name).Advances :=
  advances_bind (spell_advances _ (by decide)) fun c r hr =>
    Nat.le_of_lt (all1_advances Text.isWord c r hr)

def dottedName : Matcher Unit := do
  name
  star (do lit "."; name) dotName_advances

namespace Python

/-- A line that imports a module, or names from a module without points in its name. -/
def importLine : Matcher Unit := do
  lineStart
  (do lit "import"; gap; name) <|> (do lit "from"; gap; name; gap; lit "import")

/-- The module that a line takes names from. -/
def fromImport : Matcher (List Char) := do
  lineStart
  lit "from"
  gap
  let source ← captured dottedName
  gap
  lit "import"
  return source

/-- The module that a line imports. -/
def directImport : Matcher (List Char) := do
  lineStart
  lit "import"
  gap
  captured dottedName

def functionLine : Matcher Unit := do
  lineStart
  lit "def"
  gap
  name
  optionalGap
  lit "("

def classLine : Matcher Unit := do
  lineStart
  lit "class"
  gap
  name

/-- Words that count for one point of complexity each. -/
def keywords : List String :=
  ["if", "elif", "else", "for", "while", "try", "except", "and", "or"]

/-- Sets the counts of imports, functions and classes; adds dependencies and complexity. -/
def analyze (content : String) (m : Metrics α) : Metrics α :=
  let text := content.toList
  let modules := findAll fromImport text ++ findAll directImport text
  { m with
    importCount := importLine.count text
    dependencies := m.dependencies ++ modules.map String.ofList
    functionCount := functionLine.count text
    classCount := classLine.count text }.addComplexity (countAll (keywords.map word) text)

end Python

/-- A word at the start of a line, followed by white space. -/
def lineWord (text : String) : Matcher Unit := do
  lineStart
  lit text
  gap

/-- A word followed by a name. -/
def introduces (text : String) : Matcher Unit := do
  wordEdge
  lit text
  gap
  name

def imports : List (Matcher Unit) :=
  [lineWord "#include",
   lineWord "import",
   do lineStart; lit "from"; gap; name; gap; lit "import",
   lineWord "use",
   do lineStart; lit "require"; optionalGap; lit "(",
   do lineStart; optionalGap; lit "@import"]

def functions : List (Matcher Unit) :=
  [introduces "function",
   introduces "def",
   introduces "fn",
   do name; optionalGap; lit "("; all (· != ')'); lit ")"; optionalGap; lit "\x7b",
   do wordEdge; lit "public"; gap; name; gap; name; optionalGap; lit "("]

def classes : List (Matcher Unit) :=
  [introduces "class", introduces "struct", introduces "interface", introduces "trait"]

/-- What looks like a decision. A question mark counts once with the last colon of its line. -/
def decisions : List (Matcher Unit) :=
  ["if", "else", "elseif", "elif", "for", "while", "do", "switch", "match", "try", "catch",
    "except"].map word ++
  [do lit "?"; upTo (· != '\n') ':',
   lit "&&" <|> lit "||"]

/-- Adds to all four counts and never fails. -/
def analyze (content : String) (m : Metrics α) : Metrics α :=
  let text := content.toList
  { m with
    importCount := m.importCount + countAll imports text
    functionCount := m.functionCount + countAll functions text
    classCount := m.classCount + countAll classes text }.addComplexity (countAll decisions text)

end SourceDigest.Surface
