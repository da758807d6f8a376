import HostDaemon.ShellWord
import HostDaemon.Text.Basic
import HostDaemon.Text.Blank
import HostDaemon.Text.Lowercase

/-! # Options of a hosting request

A hosting request carries a line of shell words of the form `key=value`. Reading it gives ordered
pairs with lowercase keys; a key that occurs twice rejects the whole line. -/

namespace HostDaemon

/-- Ordered pairs of an option's key, in lowercase, and its value. -/
abbrev OptionList := List (String × String)

/-- Why a line of options is rejected. -/
inductive OptionsError where
  /-- A quote is never closed. -/
  | unclosedQuote
  /-- A word has no equals sign. -/
  | missingValue (word : String)
  /-- Nothing but blanks stands before the equals sign. -/
  | emptyKey (word : String)
  /-- The key occurs a second time. -/
  | duplicateKey (key : String)
deriving Repr, DecidableEq

/-- The text of the error. -/
def OptionsError.message : OptionsError → String
  | .unclosedQuote => "failed to parse options: missing closing quote"
  | .missingValue word => s!"expected key=value, got `{word}`"
  | .emptyKey word => s!"empty option name in `{word}`"
  | .duplicateKey key => s!"duplicate option `{key}`"

namespace OptionList

/-- The pair of one word: the key before the first equals sign, trimmed and in lowercase, and the
    trimmed rest. -/
def pairOfWord (word : String) : Except OptionsError (String × String) :=
  match Text.cutAt? (· == '=') word.toList with
  | none => .error (.missingValue word)
  | some (key, value) =>
    let key := Text.lowercase (Text.trim (String.ofList key))
    if key = "" then .error (.emptyKey word)
    else .ok (key, Text.trim (String.ofList value))

/-- The pairs of the words, where `seen` holds the keys of the words before them. The first word
    that is wrong decides the error. -/
def ofWords (seen : List String) : List String → Except OptionsError OptionList
  | [] => .ok []
  | word :: words => do
    let (key, value) ← pairOfWord word
    if key ∈ seen then .error (.duplicateKey key)
    let pairs ← ofWords (key :: seen) words
    return (key, value) :: pairs

/-- Read a line of options. -/
def parse (line : String) : Except OptionsError OptionList :=
  match ShellWord.split? line with
  | none => .error .unclosedQuote
  | some words => ofWords [] words

end OptionList

namespace OptionValue

/-- Is the value one of the words for yes? Every other value means no. -/
def isOn (value : String) : Bool :=
  ["on", "true", "yes", "enable", "1"].contains (Text.lowercase (Text.trim value))

/-- The items of a list separated by commas, trimmed and without the empty ones. -/
def items (value : String) : List String :=
  ((Text.pieces (· == ',') value.toList).map fun item => Text.trim (String.ofList item)).filter
    (· ≠ "")

end OptionValue

end HostDaemon
