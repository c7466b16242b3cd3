import SourceDigest.Path
import SourceDigest.Text.Lower
import SourceDigest.Text.Matcher

/-!
The character of a file, read off its path and its raw text: the frameworks it mentions, and
whether it looks like an entry point, a test or a configuration file. Nothing here parses.
-/

namespace SourceDigest.Traits

/-- Frameworks in reporting order, each with the texts that give it away. -/
def frameworkVocabulary : List (String × List String) :=
  [("react", ["react", "React", "jsx"]),
   ("vue", ["vue", "Vue"]),
   ("angular", ["angular", "Angular", "@angular"]),
   ("svelte", ["svelte", "Svelte"]),
   ("express", ["express", "Express"]),
   ("fastify", ["fastify", "Fastify"]),
   ("koa", ["koa", "Koa"]),
   ("nestjs", ["nestjs", "@nestjs"]),
   ("jest", ["jest", "Jest"]),
   ("mocha", ["mocha", "Mocha"]),
   ("cypress", ["cypress", "Cypress"]),
   ("webpack", ["webpack", "Webpack"]),
   ("vite", ["vite", "Vite"]),
   ("mongoose", ["mongoose", "Mongoose"]),
   ("prisma", ["prisma", "Prisma"]),
   ("typeorm", ["typeorm", "TypeORM"])]

def frontend : List String :=
  ["react", "vue", "angular"]

def backend : List String :=
  ["express", "fastify", "nestjs"]

def entryNames : List String :=
  ["main.js", "main.ts", "index.js", "index.ts", "app.js", "app.ts", "server.js", "server.ts"]

def mainMarkers : List String :=
  ["function main(", "const main =", "app.listen(", "server.listen(",
   "if __name__ == \"__main__\""]

def testDirectories : List String :=
  ["test", "tests", "__tests__"]

/-- Texts that stand in tests, wherever they occur. -/
def testMarkers : List String :=
  ["describe(", "it(", "test(", "expect(", "assert(", "beforeEach(", "afterEach("]

/-- Tools whose name in a file's name makes it a configuration file. -/
def configTools : List String :=
  ["webpack", "babel", "eslint", "prettier", "jest", "tsconfig", "vite", "rollup"]

def mentions (content : List Char) (marks : List String) : Bool :=
  marks.any fun mark => Text.contains mark.toList content

def frameworks (content : List Char) : List String :=
  (frameworkVocabulary.filter fun entry => mentions content entry.2).map (·.1)

/-- The last name of a path, in small letters. -/
def fileName (path : List Char) : List Char :=
  Text.lower (Path.baseName (Path.withSlashes path))

def isEntryPoint (path content : List Char) : Bool :=
  entryNames.any (fun name => name.toList == fileName path) || mentions content mainMarkers

def isTestFile (path content : List Char) : Bool :=
  mentions (fileName path) ["test", "spec"] ||
    (Text.split '/' (Path.withSlashes path)).dropLast.any (fun part =>
      testDirectories.any fun name => name.toList == Text.lower part) ||
    mentions content testMarkers

/-- Whether a character stands for a small letter or sign when case does not count. Besides the
capital letter these are the long s, the dotless and the dotted i and the kelvin sign. -/
def sameLetter (expected actual : Char) : Bool :=
  actual == expected || actual.toLower == expected ||
    (expected == 's' && actual == 'ſ') ||
    (expected == 'i' && (actual == 'ı' || actual == 'İ')) ||
    (expected == 'k' && actual == '\u212a')

/-- A text in which case does not count. -/
def loose (text : String) : Matcher Unit :=
  .spell sameLetter text.toList

def looseOneOf (texts : List String) : Matcher Unit :=
  .oneOf (texts.map loose)

open Matcher in
def configNames : List (Matcher Unit) :=
  [do loose "."; looseOneOf ["config", "rc"]; loose "."
      looseOneOf ["js", "ts", "json", "yml", "yaml"]; textEnd,
   do textStart
      looseOneOf ["webpack", "babel", "eslint", "prettier", "jest", "tsconfig", "vite", "rollup",
        "tailwind"]
      loose ".config.",
   do textStart; loose "."; many (· != '\n'); loose "rc"; loose "." <|> textEnd,
   do textStart
      looseOneOf ["package", "composer", "cargo", "requirements"]
      loose ".json"
      textEnd,
   do textStart; loose "requirements.txt"; textEnd,
   do textStart; loose "dockerfile"; textEnd,
   do textStart; loose "docker-compose.",
   do textStart; loose ".env"]

def isConfigFile (path : List Char) : Bool :=
  configNames.any (fun m => m.occurs (fileName path)) || mentions (fileName path) configTools

end SourceDigest.Traits
