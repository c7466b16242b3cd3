import SourceDigest.Notice
import SourceDigest.Number.Amount

/-!
The options of a run. A value is kept as it was given, and `check` says which combinations are
accepted; the first rule that is broken decides the fault.
-/

namespace SourceDigest

/-- Patterns that are always excluded. -/
def defaultExcludes : List String :=
  ["node_modules/**", ".git/**", "dist/**", "build/**", "__pycache__/**", ".venv/**", "venv/**",
   "*.log",
   "package-lock.json", "yarn.lock", "pnpm-lock.yaml", "bun.lockb", "Pipfile.lock", "poetry.lock",
   "Cargo.lock", "composer.lock", "Gemfile.lock", "go.sum", "mix.lock",
   "*.png", "*.jpg", "*.jpeg", "*.gif", "*.bmp", "*.tiff", "*.webp", "*.svg",
   "*.mp4", "*.avi", "*.mov", "*.wmv", "*.flv", "*.webm",
   "*.mp3", "*.wav", "*.ogg", "*.flac", "*.aac",
   "*.pdf", "*.doc", "*.docx", "*.xls", "*.xlsx", "*.ppt", "*.pptx",
   "*.zip", "*.tar", "*.gz", "*.rar", "*.7z",
   "*.exe", "*.dmg", "*.app", "*.deb", "*.rpm",
   "*.ico", "*.ttf", "*.woff", "*.woff2", "*.eot"]

/-- Names that the heuristic score favours by default. -/
def defaultPrioritized : List String :=
  ["README.md", "package.json", "requirements.txt", "main.py", "index.js"]

/-- All options, each with its default. -/
structure Options where
  includeHidden : Value := .bool false
  maxFileSize : Value := .int 1048576
  excludePatterns : Value := .ofTexts defaultExcludes
  includePatterns : Value := .ofTexts ["**/*"]
  respectGitignore : Value := .bool true
  useStructure : Value := .bool false
  prioritizeFiles : Value := .ofTexts defaultPrioritized
  structureWeight : Value := .float 0.7
  scoringPolicy : Value := .text "additive"
  centralityDamping : Value := .float 0.85
  centralityRounds : Value := .int 10
  outputFormat : Value := .text "markdown"
  includeMetadata : Value := .bool true
  maxTokens : Value := .null
  verbosity : Value := .text "normal"
  deriving Inhabited

inductive Options.Fault where
  /-- A value that breaks a rule. -/
  | refused (key : String) (value : Value) (reason : String)
  /-- A value of a type that the rule cannot be applied to. -/
  | mismatched (message : String)
  /-- Something in a list of texts that is no text. -/
  | noText (typeName : String)
  /-- Something in a list of patterns that has too many digits to be shown. -/
  | unshowable
  deriving Inhabited

namespace Options

/-- The notice of a fault of options. One of types has none, nor has a value that cannot be
shown. -/
def Fault.notice? : Fault → Option Notice
  | .refused key v reason =>
    if v.isShowable then some (.ofSetting key v.shown reason) else none
  | .mismatched _ => none
  | .noText _ => none
  | .unshowable => none

/-- Option names in order, and how each option is read and written. -/
def fields : List (String × (Options → Value) × (Options → Value → Options)) :=
  [("include_hidden", (·.includeHidden), fun o v => { o with includeHidden := v }),
   ("max_file_size", (·.maxFileSize), fun o v => { o with maxFileSize := v }),
   ("exclude_patterns", (·.excludePatterns), fun o v => { o with excludePatterns := v }),
   ("include_patterns", (·.includePatterns), fun o v => { o with includePatterns := v }),
   ("respect_gitignore", (·.respectGitignore), fun o v => { o with respectGitignore := v }),
   ("use_ast_analysis", (·.useStructure), fun o v => { o with useStructure := v }),
   ("prioritize_files", (·.prioritizeFiles), fun o v => { o with prioritizeFiles := v }),
   ("ast_weight", (·.structureWeight), fun o v => { o with structureWeight := v }),
   ("scoring_policy", (·.scoringPolicy), fun o v => { o with scoringPolicy := v }),
   ("centrality_damping", (·.centralityDamping), fun o v => { o with centralityDamping := v }),
   ("centrality_iterations", (·.centralityRounds), fun o v => { o with centralityRounds := v }),
   ("output_format", (·.outputFormat), fun o v => { o with outputFormat := v }),
   ("include_metadata", (·.includeMetadata), fun o v => { o with includeMetadata := v }),
   ("max_tokens", (·.maxTokens), fun o v => { o with maxTokens := v }),
   ("verbosity", (·.verbosity), fun o v => { o with verbosity := v })]

def names : List String :=
  fields.map (·.1)

def toTable (o : Options) : List (String × Value) :=
  fields.map fun field => (field.1, field.2.1 o)

/-- Sets one option by name; an unknown name sets nothing. -/
def set (o : Options) (name : String) (v : Value) : Options :=
  match fields.lookup name with
  | some (_, write) => write o v
  | none => o

def heuristicWeight (o : Options) : Float :=
  1.0 - (o.structureWeight.toScalar : Float)

/-- A comparison that has no meaning for the types of its sides. -/
def incomparable (sign left right : String) : Fault :=
  .mismatched ("'" ++ sign ++ "' not supported between instances of '" ++ left ++ "' and '" ++
    right ++ "'")

/-- The rule for a number. What is no number is not refused but cannot be compared. -/
def requireNumber (key : String) (v : Value) (mismatch : Fault) (keeps : Amount → Bool)
    (reason : String) : Except Fault Unit :=
  match Amount.ofValue? v with
  | none => .error mismatch
  | some a => if keeps a then .ok () else .error (.refused key v reason)

def requireSize (v : Value) : Except Fault Unit :=
  requireNumber "max_file_size" v (incomparable "<=" v.typeName "int") (!·.atMost 0)
    "must be positive"

/-- A share is compared with zero first, which then stands on the left. -/
def requireShare (key : String) (v : Value) : Except Fault Unit :=
  requireNumber key v (incomparable "<=" "float" v.typeName) (fun a => a.atLeast 0 && a.atMost 1)
    "must be between 0.0 and 1.0"

def requireAtLeastOne (key : String) (v : Value) : Except Fault Unit :=
  requireNumber key v (incomparable "<" v.typeName "int") (!·.below 1) "must be at least 1"

/-- The number of tokens may be left open. -/
def requireTokens : Value → Except Fault Unit
  | .null => .ok ()
  | v => requireAtLeastOne "max_tokens" v

def requireOneOf (key : String) (v : Value) (choices : List String) (reason : String) :
    Except Fault Unit :=
  match v with
  | .text s => if choices.contains s then .ok () else .error (.refused key v reason)
  | _ => .error (.refused key v reason)

def requireIncluded (v : Value) : Except Fault Unit :=
  if v.isSet then .ok () else .error (.refused "include_patterns" v "must not be empty")

/-- The rules that options have to keep, in the order in which they are looked at. -/
def check (o : Options) : Except Fault Unit := do
  requireSize o.maxFileSize
  requireShare "ast_weight" o.structureWeight
  requireShare "centrality_damping" o.centralityDamping
  requireAtLeastOne "centrality_iterations" o.centralityRounds
  requireOneOf "output_format" o.outputFormat ["markdown", "json"] "expected markdown or json"
  requireOneOf "scoring_policy" o.scoringPolicy ["additive", "legacy"] "expected additive or legacy"
  requireOneOf "verbosity" o.verbosity ["quiet", "normal", "verbose"]
    "expected quiet, normal or verbose"
  requireTokens o.maxTokens
  requireIncluded o.includePatterns

/-- Options from named values; the names are known ones. -/
def ofTable (table : List (String × Value)) : Except Fault Options := do
  let o := table.foldl (fun o entry => o.set entry.1 entry.2) {}
  o.check
  return o

end Options

end SourceDigest
