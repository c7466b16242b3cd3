import SourceDigest.Path
import SourceDigest.Text.Lower

/-!
What the name of a file says about it: its language, and whether it holds text at all.
-/

namespace SourceDigest.Language

def bySuffix : List (String × String) :=
  [(".js", "javascript"), (".mjs", "javascript"), (".cjs", "javascript"), (".jsx", "jsx"),
   (".ts", "typescript"), (".mts", "typescript"), (".cts", "typescript"), (".tsx", "tsx"),
   (".py", "python"), (".java", "java"), (".c", "c"), (".cpp", "cpp"), (".cc", "cpp"),
   (".cxx", "cpp"), (".h", "c"), (".hpp", "cpp"), (".cs", "csharp"), (".php", "php"),
   (".rb", "ruby"), (".go", "go"), (".rs", "rust"), (".swift", "swift"), (".kt", "kotlin"),
   (".scala", "scala"), (".sh", "bash"), (".bash", "bash"), (".zsh", "zsh"), (".fish", "fish"),
   (".ps1", "powershell"), (".sql", "sql"), (".html", "html"), (".css", "css"),
   (".scss", "scss"), (".sass", "sass"), (".less", "less"), (".xml", "xml"), (".json", "json"),
   (".yaml", "yaml"), (".yml", "yaml"), (".toml", "toml"), (".ini", "ini"), (".cfg", "ini"),
   (".conf", "ini"), (".md", "markdown"), (".markdown", "markdown"), (".txt", "text"),
   (".dockerfile", "dockerfile"), (".vue", "vue"), (".svelte", "svelte")]

def binarySuffixes : List String :=
  [".png", ".jpg", ".jpeg", ".gif", ".bmp", ".tiff", ".webp", ".svg", ".ico",
   ".mp4", ".avi", ".mov", ".wmv", ".flv", ".webm", ".mkv",
   ".mp3", ".wav", ".ogg", ".flac", ".aac", ".m4a",
   ".zip", ".tar", ".gz", ".rar", ".7z", ".bz2", ".xz",
   ".pdf", ".doc", ".docx", ".xls", ".xlsx", ".ppt", ".pptx",
   ".exe", ".dmg", ".app", ".deb", ".rpm", ".msi",
   ".ttf", ".woff", ".woff2", ".eot", ".otf",
   ".bin", ".dat", ".db", ".sqlite", ".sqlite3"]

/-- The suffix of a path in small letters. -/
def suffix (path : List Char) : String :=
  String.ofList (Text.lower (Path.suffix path))

/-- The language of a file by its name, plain text where nothing else is known. -/
def ofPath (path : List Char) : String :=
  if Text.lower (Path.name path) = "dockerfile".toList then "dockerfile"
  else (bySuffix.lookup (suffix path)).getD "text"

def isBinaryName (path : List Char) : Bool :=
  binarySuffixes.contains (suffix path)

/-- Controls that stand in no text. -/
def isControl (c : Char) : Bool :=
  c.toNat ≤ 8 || (14 ≤ c.toNat && c.toNat ≤ 31) || c.toNat == 127

/-- Whether a content looks like no text: it holds a zero, or more than three in ten of its
characters are controls. -/
def looksBinary (content : List Char) : Bool :=
  content.contains '\x00' || 3 * content.length < 10 * content.countP isControl

end SourceDigest.Language
