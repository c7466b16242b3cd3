import SourceDigest.Analysis.Traits
import SourceDigest.Number.Scalar

/-!
Importance of a file from its name and its text alone, and the blend with the structural score.
-/

namespace SourceDigest.Score

variable {α : Type} [Scalar α]

open Scalar

def manifests : List String :=
  ["package.json", "requirements.txt", "cargo.toml", "pom.xml", "build.gradle"]

/-- Files a reader opens first. -/
def entryFiles : List String :=
  ["main.py", "index.js", "app.py", "server.js", "main.js"]

/-- Words that introduce something other files can use. -/
def keywords : List String :=
  ["class", "function", "def", "interface", "type", "export", "import"]

open Matcher in
def keyword : Matcher Unit := do
  wordEdge
  oneOf (keywords.map lit)
  wordEdge

/-- Whether the name of a file holds one of the parts that are favoured, in any case. -/
def isPrioritized (prioritized : List String) (path : String) : Bool :=
  let name := Traits.fileName path.toList
  prioritized.any fun part => Text.contains (Text.lower part.toList) name

/-- Importance from the name of a file and the length of its text. -/
def nameAndSize (path : String) (length : Nat) (prioritized : List String) : α :=
  let name := Traits.fileName path.toList
  let score : α := 1.0
  let score := if isPrioritized prioritized path then score + 10.0 else score
  let score := if manifests.any fun m => m.toList == name then score + 8.0 else score
  let score := if entryFiles.any fun m => m.toList == name then score + 7.0 else score
  let score := if Traits.mentions name ["readme", "doc"] then score + 6.0 else score
  let score := if Traits.mentions path.toList ["test", "spec"] then score - 2.0 else score
  if length < 1000 then score + 2.0
  else if 10000 < length then score - 1.0
  else score

/-- A tenth of a point for every keyword of a text, up to three points. -/
def keywordTerm (content : String) : α :=
  least (ofNat (keyword.count content.toList) / 10.0) 3.0

/-- Importance from name and text, never below zero. -/
def heuristic (path content : String) (prioritized : List String) : α :=
  most (nameAndSize path content.toList.length prioritized + keywordTerm content) 0.0

/-- The weighted mean of both scores; `weight` is the share of the structural one. -/
def blend (heuristic structural weight : α) : α :=
  heuristic * (1.0 - weight) + structural * weight

end SourceDigest.Score
