import SourceDigest.Digest.Basic

/-!
A digest as a Markdown document: a header with summary and structure, and a section for each file
with its content in a fence that the content cannot close.
-/

namespace SourceDigest.Digest

def fenceMark : Char :=
  '\x60'

/-- The length of the longest run of a character. -/
def longestRun (mark : Char) (longest current : Nat) : List Char → Nat
  | [] => max longest current
  | c :: rest =>
    if c = mark then longestRun mark longest (current + 1) rest
    else longestRun mark (max longest current) 0 rest

/-- The shortest fence of three marks or more that the content does not hold. -/
def fenceFor (content : List Char) : List Char :=
  List.replicate (max 3 (longestRun fenceMark 0 0 content + 1)) fenceMark

def metadata (f : RankedFile Float) : String :=
  let lines :=
    "- Language: " ++ f.language ++ "\n- Size: " ++ Value.intText f.size ++
      " bytes\n- Importance: " ++ Number.fixed 2 f.importance
  match f.metrics with
  | none => lines
  | some m =>
    let lines :=
      lines ++ "\n- Structure: " ++ Value.intText m.exportCount ++ " exports, " ++
        Value.intText m.functionCount ++ " functions, " ++ Value.intText m.classCount ++
        " classes, complexity " ++ Number.general m.complexity
    if m.frameworks.isEmpty then lines
    else lines ++ "\n- Frameworks: " ++ ", ".intercalate m.frameworks

/-- The content between its fences. A content that does not end with a line feed gets one. -/
def fenced (f : RankedFile Float) : String :=
  let content := f.content.toList
  let fence := String.ofList (fenceFor content)
  let language := if f.language = "text" then "" else f.language
  let body := if content.getLast? = some '\n' then f.content else f.content ++ "\n"
  fence ++ language ++ "\n" ++ body ++ fence

def fileSection (withMetadata : Bool) (f : RankedFile Float) : String :=
  let lines :=
    ["### " ++ f.path, ""] ++ (if withMetadata then [metadata f, ""] else []) ++ [fenced f, ""]
  "\n".intercalate lines

def header (d : Digest) : String :=
  let tree := match d.outline with
    | some o =>
      let mark := String.ofList Tokens.fence
      ["## Structure", "", mark] ++ listing o ++ [mark, ""]
    | none => []
  "\n".intercalate
    (["# " ++ d.name, "", "## Summary", "", d.summary, ""] ++ tree ++ ["## Files", ""])

/-- The sections that fit into a budget. The header counts too. -/
def keptSections (estimate : String → Int) (d : Digest) (withMetadata : Bool)
    (budget : Option Budget) : List String :=
  Budget.keep budget estimate (estimate d.header) (d.files.map (fileSection withMetadata))

def omissionNote (omitted : Nat) (budget : Option Budget) : List String :=
  match budget with
  | some b =>
    if omitted = 0 then []
    else
      ["_" ++ toString omitted ++ " lower-ranked files omitted to fit " ++ b.shown ++ " tokens._\n"]
  | none => []

/-- The document. With a budget the least important files are left out, as far as an estimate of
the tokens asks for it. -/
def markdown (estimate : String → Int) (d : Digest) (withMetadata : Bool)
    (budget : Option Budget) : String :=
  let sections := keptSections estimate d withMetadata budget
  let note := omissionNote (d.files.length - sections.length) budget
  d.header ++ "\n" ++ "\n".intercalate (sections ++ note)

end SourceDigest.Digest
