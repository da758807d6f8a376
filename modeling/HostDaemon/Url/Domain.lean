import HostDaemon.Text.Composition
import HostDaemon.Text.Joining
import HostDaemon.Text.Utf8
import HostDaemon.Url.Domain.Direction
import HostDaemon.Url.Domain.Mapping
import HostDaemon.Url.Punycode

/-! # Domain names

Bringing a domain name to ASCII. Its characters are replaced by plain ones and composed, its labels
are checked, and those with characters beyond ASCII are encoded. A label that is encoded already is
decoded for the checks and has to hold what encoding could have been applied to. -/

namespace HostDaemon.Url.Domain

/-- The mark of an encoded label. -/
def encodedMark : List Char := ['x', 'n', '-', '-']

/-- How many characters an encoded label may have after its mark. -/
def encodedLimit : Nat := 2000

/-- How many characters a label may have that is still to be encoded. -/
def plainLimit : Nat := 1000

/-- Is the character ASCII? -/
def isAscii (c : Char) : Bool := c.toNat < 0x80

/-- Does a name hold the character as it is? -/
def isSteady (c : Char) : Bool := mapChar? c == some [c]

/-- Is the label one that is left alone by replacing and composing? -/
def isNormal (label : List Char) : Bool := label.all isSteady && Text.compose label == label

/-! ### Joiners -/

/-- The combining class of the marks that take the vowel from a letter. -/
def vowelKiller : Nat := 9

/-- May a mark that keeps letters apart or joins them stand between the characters `before`, the
    nearest one first, and `after`? Both may stand after a mark that takes the vowel from a letter;
    the one that keeps letters apart may also stand between two that would join. -/
def mayJoin (joiner : Char) (before after : List Char) : Bool :=
  match before with
  | [] => false
  | c :: _ =>
    Text.combiningClass c == vowelKiller ||
      (joiner == '\u200C' &&
        ((before.dropWhile Text.isTransparent).head?.any Text.joinsNext) &&
        ((after.dropWhile Text.isTransparent).head?.any Text.joinsPrevious))

/-- Do all marks that join letters or keep them apart stand where they may? `before` holds the
    characters already passed, the nearest one first. -/
def joinersFit (before : List Char) : List Char → Bool
  | [] => true
  | c :: cs =>
    (if c == '\u200C' || c == '\u200D' then mayJoin c before cs else true) &&
      joinersFit (c :: before) cs

/-! ### Labels -/

/-- The label that an encoded one stands for; any other stands for itself. -/
def decodeLabel? (label : List Char) : Option (List Char) :=
  match Text.after? encodedMark label with
  | none => if label.all isAscii || label.length ≤ plainLimit then some label else none
  | some rest =>
    if rest.isEmpty || rest.getLast? == some '-' || encodedLimit < rest.length ||
        !rest.all isAscii then none
    else (Punycode.decode? rest).filter isNormal

/-- Is the label in order, apart from its direction? It does not begin with a mark. -/
def isFit (label : List Char) : Bool := !label.head?.any Text.isMark && joinersFit [] label

/-- The labels of a name with those that are encoded decoded, where all are in order. -/
def decodeLabels? (labels : List (List Char)) : Option (List (List Char)) := do
  let plain ← labels.mapM decodeLabel?
  if plain.all isFit &&
      (!(plain.any fun label => label.any needsDirection) || plain.all keepsDirection) then
    return plain
  else none

/-! ### Names -/

/-- Characters that no domain name may hold. -/
def isForbidden (c : Char) : Bool :=
  c.toNat ≤ 0x20 || c.toNat == 0x7F ||
    ['%', '#', '/', ':', '<', '>', '?', '@', '[', '\\', ']', '^', '|'].contains c

/-- A name in ASCII. -/
def toAscii? (name : List Char) : Option (List Char) := do
  let mapped ← name.mapM mapChar?
  let labels := Text.pieces (· == '.') (Text.compose mapped.flatten)
  let _ ← decodeLabels? labels
  let domain := List.intercalate ['.'] (labels.map Punycode.encodeLabel)
  if domain.any isForbidden then none else return domain

/-- The name that bytes in UTF-8 write, in ASCII. -/
def ofBytes? (bytes : List UInt8) : Option (List Char) :=
  (Text.Utf8.decode? bytes).bind toAscii?

end HostDaemon.Url.Domain
