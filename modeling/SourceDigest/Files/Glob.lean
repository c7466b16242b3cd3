import SourceDigest.Path

/-!
Glob patterns over slash-separated paths. A pattern is read from left to right into tokens:
`**/` stands for any directories or none, `**` for any text, `*` for any text without a slash, `?`
for one character other than a slash. What stands for any text may not hold a line feed, and one
line feed at the end of the path is passed over.
-/

namespace SourceDigest.Glob

inductive Token where
  | directories
  | anything
  | segment
  | single
  | char (c : Char)
  deriving DecidableEq, Repr

def tokens : List Char → List Token
  | '*' :: '*' :: '/' :: rest => .directories :: tokens rest
  | '*' :: '*' :: rest => .anything :: tokens rest
  | '*' :: rest => .segment :: tokens rest
  | '?' :: rest => .single :: tokens rest
  | c :: rest => .char c :: tokens rest
  | [] => []

/-- Whether a continuation accepts the text after some number of characters of a kind. -/
def afterRun (p : Char → Bool) (accepts : List Char → Bool) : List Char → Bool
  | [] => accepts []
  | c :: rest => accepts (c :: rest) || (p c && afterRun p accepts rest)

/-- Whether a continuation accepts the text after some slash on its first line. -/
def afterSlash (accepts : List Char → Bool) : List Char → Bool
  | [] => false
  | c :: rest => (c == '/' && accepts rest) || (c != '\n' && afterSlash accepts rest)

/-- Whether tokens match a whole text. -/
def accepts : List Token → List Char → Bool
  | [], text => text == [] || text == ['\n']
  | .directories :: ts, text => accepts ts text || afterSlash (accepts ts) text
  | .anything :: ts, text => afterRun (· != '\n') (accepts ts) text
  | .segment :: ts, text => afterRun (· != '/') (accepts ts) text
  | .single :: ts, text =>
    match text with
    | c :: rest => c != '/' && accepts ts rest
    | [] => false
  | .char d :: ts, text =>
    match text with
    | c :: rest => c == d && accepts ts rest
    | [] => false

def matchesWhole (pattern text : List Char) : Bool :=
  accepts (tokens pattern) text

/-- The directory that a pattern `base/**` without other stars names. -/
def directoryBase? (pattern : List Char) : Option (List Char) :=
  if "/**".toList.isSuffixOf pattern then
    let base := pattern.take (pattern.length - 3)
    if base.contains '*' then none else some base
  else none

/-- Whether a path matches a pattern as in a list of excluded or included files. `base/**` matches
what lies in a directory `base` at any depth, a pattern without a slash matches the last name, and
any other pattern the whole path. White space around a pattern and slashes at its start do not
count, and an empty pattern matches nothing. -/
def matchesPath (path pattern : List Char) : Bool :=
  let pattern := (Text.strip pattern).dropWhile (· == '/')
  if pattern.isEmpty then false
  else
    match directoryBase? pattern with
    | some base =>
      (base ++ ['/']).isPrefixOf path || Text.contains ('/' :: base ++ ['/']) ('/' :: path)
    | none =>
      if pattern.contains '/' then matchesWhole pattern path
      else matchesWhole pattern (Path.baseName path)

end SourceDigest.Glob
