import SourceDigest.Number.Amount
import SourceDigest.Text.Cut

/-!
A rough count of the tokens of a text, from its length alone, and what it means for the context
windows of some models.
-/

namespace SourceDigest.Tokens

def fence : List Char :=
  List.replicate 3 '\x60'

/-- The number of characters when runs of white space count once and not at the ends. -/
def normalLength (text : List Char) : Nat :=
  (Text.strip (Text.squeeze text)).length

/-- Three and a half characters make a token, and fenced code adds a tenth. Both steps round up. -/
def estimateChars (α : Type) [Scalar α] (text : List Char) : Int :=
  let base := Scalar.ceil (Scalar.ofNat (normalLength text) / 3.5 : α)
  let factor : α := if Text.contains fence text then 1.1 else 1.0
  Scalar.ceil (Scalar.ofInt base * factor)

def estimate (α : Type) [Scalar α] (text : String) : Int :=
  estimateChars α text.toList

/-- A model with its context window. -/
structure Model where
  name : String
  window : Int
  provider : String
  deriving DecidableEq, Repr, Inhabited

/-- Models in the order in which equal windows are listed. -/
def models : List Model :=
  [⟨"GPT-5", 400000, "OpenAI"⟩,
   ⟨"Gemini 2.5 Pro", 1000000, "Google"⟩,
   ⟨"Claude Opus 4.1", 200000, "Anthropic"⟩,
   ⟨"Claude Sonnet 4", 200000, "Anthropic"⟩,
   ⟨"Grok-4", 200000, "xAI"⟩,
   ⟨"Llama 3.1", 128000, "Meta"⟩,
   ⟨"Mistral Large 2", 128000, "Mistral"⟩,
   ⟨"Command R+", 128000, "Cohere"⟩,
   ⟨"Phi-3 Medium", 128000, "Microsoft"⟩,
   ⟨"GPT-4o", 128000, "OpenAI"⟩,
   ⟨"Claude Haiku", 200000, "Anthropic"⟩]

/-- What a number of tokens means: the models it fits, those it does not fit, and advice. -/
structure Usage where
  tokens : Int
  compatible : List Model
  incompatible : List Model
  advice : List String
  deriving DecidableEq, Repr

/-- Models with the largest window first. -/
def byWindow (ms : List Model) : List Model :=
  ms.mergeSort fun a b => b.window ≤ a.window

def fitAdvice (tokens : Int) (compatible incompatible : List Model) : List String :=
  if compatible.isEmpty then
    ["Output too large for every listed model; filter the project to shrink it.",
     "Try: --exclude '**/*.test.*,**/*.spec.*,coverage/**'",
     "Or lower the file size limit: --max-size 51200"]
  else if compatible.length ≤ 3 then
    "Limited model compatibility; reduce the output for broader support." ::
      match incompatible.getLast? with
      | some smallest =>
        let excess := Scalar.floatOfInt (tokens - smallest.window) / Scalar.floatOfInt tokens
        let percent := Scalar.ceilFloat (excess * 100.0)
        ["Reduce by ~" ++ Value.intText percent ++ "% to fit " ++ smallest.name]
      | none => []
  else
    "Fits most listed models." ::
      if 50000 < tokens then ["Consider splitting into smaller chunks for faster processing."]
      else []

def sizeAdvice (tokens : Int) : String :=
  if 500000 < tokens then "Ultra-large codebase: use project filtering."
  else if 200000 < tokens then "Large codebase: needs a long-context model."
  else if 50000 < tokens then "Medium codebase: fits most models comfortably."
  else "Small codebase: fits every listed model."

def usage (tokens : Int) : Usage :=
  let compatible := byWindow (models.filter fun m => tokens ≤ m.window)
  let incompatible := byWindow (models.filter fun m => m.window < tokens)
  { tokens
    compatible
    incompatible
    advice := fitAdvice tokens compatible incompatible ++ [sizeAdvice tokens] }

end SourceDigest.Tokens
