import SourceDigest.Digest.Basic
import SourceDigest.Json
import SourceDigest.Keyed

/-!
A digest as a JSON record, with the same order of files as the document.
-/

namespace SourceDigest

def Metrics.toValue (m : Metrics Float) : Value :=
  .table
    [("import_count", .int m.importCount), ("export_count", .int m.exportCount),
     ("function_count", .int m.functionCount), ("class_count", .int m.classCount),
     ("interface_count", .int m.interfaceCount), ("type_count", .int m.typeCount),
     ("public_methods", .int m.publicMethods), ("complexity", .float m.complexity),
     ("dependencies", .ofTexts m.dependencies), ("exports", .ofTexts m.exports),
     ("frameworks", .ofTexts m.frameworks), ("is_entry_point", .bool m.isEntryPoint),
     ("is_test_file", .bool m.isTestFile), ("is_config_file", .bool m.isConfigFile),
     ("strategy", .text m.strategy)]

namespace RankedFile

/-- The entries of a file that stand before its content. Scores are rounded. -/
def facts (f : RankedFile Float) : List (String × Value) :=
  let own :=
    [("path", .text f.path), ("language", .text f.language), ("size", .int f.size),
     ("importance", .float (Number.round 4 f.importance))]
  match f.metrics with
  | none => own
  | some m =>
    let centrality := match f.centrality with
      | some x => .float (Number.round 6 x)
      | none => .null
    own ++ [("structural_metrics", m.toValue), ("centrality", centrality)]

def toValue (f : RankedFile Float) (withContent : Bool) : Value :=
  .table (f.facts ++ if withContent then [("content", .text f.content)] else [])

end RankedFile

mutual

/-- An outline by name of its parts. Only directories have children. -/
def Outline.toValue : Outline → Value
  | .mk name path isDirectory children =>
    .table
      ([("name", .text name), ("path", .text path),
        ("type", .text (if isDirectory then "directory" else "file"))] ++
        if isDirectory then [("children", .list (Outline.toValues children))] else [])

def Outline.toValues : List Outline → List Value
  | [] => []
  | o :: rest => o.toValue :: Outline.toValues rest

end

namespace Digest

/-- The entry of a file: all of it, or path and content alone. -/
def fileEntry (withMetadata : Bool) (f : RankedFile Float) : Value :=
  if withMetadata then f.toValue true
  else .table [("path", .text f.path), ("content", .text f.content)]

/-- The files that fit into a budget, of which contents alone count. -/
def keptFiles (estimate : String → Int) (d : Digest) (budget : Option Budget) :
    List (RankedFile Float) :=
  Budget.keep budget (fun f => estimate f.content) 0 d.files

/-- The record. Extra entries take the place of those of the same name. -/
def record (estimate : String → Int) (d : Digest) (withMetadata : Bool)
    (budget : Option Budget) : Value :=
  let files := keptFiles estimate d budget
  let entries :=
    [("name", .text d.name), ("summary", .text d.summary), ("used_ast_analysis", d.usedStructure),
     ("files", .list (files.map (fileEntry withMetadata))),
     ("omitted_files", .int (d.files.length - files.length : Nat))] ++
    (d.outline.map fun o => ("structure", o.toValue)).toList
  .table (d.extra.foldl (fun entries e => Keyed.insert entries e.1 e.2) entries)

def json (estimate : String → Int) (d : Digest) (withMetadata : Bool)
    (budget : Option Budget) : Except Json.Fault String :=
  Json.pretty (record estimate d withMetadata budget)

end Digest

end SourceDigest
