import SourceDigest.Digest.Markdown
import SourceDigest.Digest.Record

/-!
The digest of a directory: discovery, ranking and summary in one run, as its options ask for it.
-/

namespace SourceDigest

/-- Why a directory gives no digest. -/
inductive Digest.Fault where
  | project (path : String) (fault : Project.Fault)
  | options (fault : Options.Fault)
  | ranking (fault : Ranking.Fault)
  deriving Inhabited

/-- What options leave out of a project. A pattern that is no text is a fault where a path comes to
it: an entry of the project itself for what is excluded, a file that is not excluded for what is
included. -/
def Filter.ofOptions (o : Options) (project : Project) : Except Options.Fault Filter := do
  let (excludes, badExclude) := Options.textItems o.excludePatterns
  let (includes, badInclude) := Options.textItems o.includePatterns
  let f : Filter :=
    { showHidden := o.includeHidden.isSet
      excludes := excludes.map String.toList
      includes := includes.map String.toList
      ignored := if o.respectGitignore.isSet then Discovery.ignoreRules project else []
      tooLarge := fun size =>
        match Amount.ofValue? o.maxFileSize with
        | some limit => limit.below size
        | none => false }
  if let some fault := badExclude then
    if project.items.any fun e => !f.isExcluded e.1.toList e.2.isFolder then throw fault
  if let some fault := badInclude then
    if (Discovery.files f project).any fun file => !f.isIncluded file.1 then throw fault
  return f

namespace Digest

def findProject (w : World) (path : String) : Except Fault Project :=
  let shown := String.ofList (Path.tidy path.toList)
  (w.project shown).mapError (.project shown)

/-- The digest of the project at a path, and its ranking. -/
def ofProject (w : World) (o : Options) (parser : Option Parser) (path : String) :
    Except Fault (Digest × Ranking Float) := do
  let project ← findProject w path
  let f ← (Filter.ofOptions o project).mapError .options
  let ranking ← (Ranking.ofFiles o parser (Discovery.scan f project)).mapError .ranking
  let digest : Digest :=
    { name := project.name
      files := ranking.files
      outline := some (Discovery.outline f project)
      summary := summarise ranking.files ranking.usedStructure.isSet
      usedStructure := ranking.usedStructure
      extra := [] }
  return (digest, ranking)

def Fault.notice? : Fault → Option Notice
  | .project _ (.unreachable _) => none
  | .project path fault => some (.ofPath path (fault.message path))
  | .options fault => fault.notice?
  | .ranking (.options fault) => fault.notice?
  | .ranking (.graph _) => none

end Digest

end SourceDigest
