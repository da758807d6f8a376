/-! # Shell words

Splitting a text into words as a shell would, and quoting a word so that splitting gives it back.
Blanks separate words; single quotes keep everything between them; double quotes keep everything
but a backslash before a dollar sign, a backquote, a double quote, a backslash or a line feed; a
number sign where a word could begin starts a comment that runs to the end of the line.

Splitting runs a machine over the characters. `Mode` says where in the text it stands. -/

namespace HostDaemon.ShellWord

/-- Where the machine stands. -/
inductive Mode where
  /-- Between two words. -/
  | between
  /-- After a backslash with which a word may begin. -/
  | escapedStart
  /-- Inside a word and outside of quotes. -/
  | bare
  /-- After a backslash inside a word and outside of quotes. -/
  | escapedBare
  /-- Between single quotes. -/
  | single
  /-- Between double quotes. -/
  | double
  /-- After a backslash between double quotes. -/
  | escapedDouble
  /-- In a comment. -/
  | comment
deriving Repr, DecidableEq

/-- Does the character separate words? -/
def isSeparator (c : Char) : Bool := c == ' ' || c == '\t' || c == '\n'

/-- Does a backslash between double quotes disappear before the character? -/
def isEscapable (c : Char) : Bool := c == '$' || c == '`' || c == '"' || c == '\\'

/-- The words of the characters that are left. `word` holds what has been read of the current
    word, last character first. `none`: a quote is never closed. -/
def splitFrom (mode : Mode) (word : List Char) : List Char → Option (List (List Char))
  | [] =>
    match mode with
    | .between | .comment => some []
    | .bare => some [word.reverse]
    | .escapedStart | .escapedBare => some [('\\' :: word).reverse]
    | .single | .double | .escapedDouble => none
  | c :: cs =>
    match mode with
    | .between =>
      if c = '\'' then splitFrom .single word cs
      else if c = '"' then splitFrom .double word cs
      else if c = '\\' then splitFrom .escapedStart word cs
      else if isSeparator c then splitFrom .between word cs
      else if c = '#' then splitFrom .comment word cs
      else splitFrom .bare (c :: word) cs
    | .escapedStart =>
      if c = '\n' then splitFrom .between word cs else splitFrom .bare (c :: word) cs
    | .bare =>
      if c = '\'' then splitFrom .single word cs
      else if c = '"' then splitFrom .double word cs
      else if c = '\\' then splitFrom .escapedBare word cs
      else if isSeparator c then (splitFrom .between [] cs).map (word.reverse :: ·)
      else splitFrom .bare (c :: word) cs
    | .escapedBare =>
      if c = '\n' then splitFrom .bare word cs else splitFrom .bare (c :: word) cs
    | .single =>
      if c = '\'' then splitFrom .bare word cs else splitFrom .single (c :: word) cs
    | .double =>
      if c = '"' then splitFrom .bare word cs
      else if c = '\\' then splitFrom .escapedDouble word cs
      else splitFrom .double (c :: word) cs
    | .escapedDouble =>
      if c = '\n' then splitFrom .double word cs
      else if isEscapable c then splitFrom .double (c :: word) cs
      else splitFrom .double (c :: '\\' :: word) cs
    | .comment =>
      if c = '\n' then splitFrom .between word cs else splitFrom .comment word cs

/-- The words of a text, or `none` where a quote is never closed. -/
def split? (s : String) : Option (List String) :=
  (splitFrom .between [] s.toList).map (·.map String.ofList)

/-- Does the character ask for quotes around the word it stands in? -/
def isSpecial (c : Char) : Bool :=
  ['|', '&', ';', '<', '>', '(', ')', '$', '`', '\\', '"', ' ', '\t', '*', '?', '[', '#', '~',
    '=', '%', '\n', '\''].contains c

/-- A character inside single quotes; a single quote closes them, stands alone after a backslash,
    and opens them again. -/
def quoteChar (c : Char) : List Char := if c = '\'' then ['\'', '\\', '\'', '\''] else [c]

/-- A word as the shell has to see it. A word without special characters stays as it is. -/
def quoteChars (cs : List Char) : List Char :=
  if cs.isEmpty || cs.any isSpecial then '\'' :: cs.flatMap quoteChar ++ ['\''] else cs

/-- A word as the shell has to see it. -/
def quote (s : String) : String := String.ofList (quoteChars s.toList)

end HostDaemon.ShellWord
