import SourceDigest.Number.Scalar

/-!
What structural analysis says about one file.
-/

namespace SourceDigest

/-- Counts and complexity derived from one file's syntax, and the file's character. The
`dependencies` are import strings as written, before resolution. -/
structure Metrics (α : Type) where
  importCount : Int
  exportCount : Int
  functionCount : Int
  classCount : Int
  interfaceCount : Int
  typeCount : Int
  publicMethods : Int
  complexity : α
  dependencies : List String
  exports : List String
  frameworks : List String
  isEntryPoint : Bool
  isTestFile : Bool
  isConfigFile : Bool
  strategy : String
  deriving DecidableEq, Repr

namespace Metrics

variable {α : Type} [Scalar α]

def empty : Metrics α where
  importCount := 0
  exportCount := 0
  functionCount := 0
  classCount := 0
  interfaceCount := 0
  typeCount := 0
  publicMethods := 0
  complexity := 0.0
  dependencies := []
  exports := []
  frameworks := []
  isEntryPoint := false
  isTestFile := false
  isConfigFile := false
  strategy := ""

instance : Inhabited (Metrics α) :=
  ⟨empty⟩

/-- Empty metrics that keep the file's character alone. -/
def fresh (m : Metrics α) : Metrics α :=
  { (empty : Metrics α) with
    frameworks := m.frameworks
    isEntryPoint := m.isEntryPoint
    isTestFile := m.isTestFile
    isConfigFile := m.isConfigFile }

/-- A file without functions, classes, exports and complexity is taken for generated. -/
def isGenerated (m : Metrics α) : Bool :=
  m.functionCount == 0 && m.classCount == 0 && m.exportCount == 0 && m.complexity == (0.0 : α)

def addComplexity (m : Metrics α) (points : Int) : Metrics α :=
  { m with complexity := m.complexity + Scalar.ofInt points }

end Metrics

end SourceDigest
