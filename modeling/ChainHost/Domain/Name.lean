/-
  Host names of any script.

  A name is read from UTF-8, its characters are folded, and dots part it into
  labels, whose characters are composed.  A label after `xn--` is the coded form
  of another one, which has to be worth the code: something beyond ASCII, as
  folding and composing would have left it.
-/
import ChainHost.Domain.Character
import ChainHost.Domain.Composition
import ChainHost.Domain.Joiner
import ChainHost.Text.Punycode
import ChainHost.Text.Utf8

set_option autoImplicit false

namespace ChainHost.Domain

/-- A part of a name. -/
abbrev Label := List Char

/-- Whether a character is in ASCII. -/
def isPlain (c : Char) : Bool := c.toNat < 128

/-- The most characters that a label may have if it is written in code. -/
def lengthLimit : Nat := 1000

/-- The most characters that the code of a label may have. -/
def codeLimit : Nat := 2000

/-- The label that a code stands for. -/
def Label.ofCode? (code : List Char) : Option Label :=
  if codeLimit < code.length ∨ ¬ code.all isPlain then none
  else
    (Punycode.decode? code).filter fun label =>
      !label.all isPlain && label.all isStable && Composition.normalize label == label

/-- The label of a folded text. -/
def Label.ofFolded? (text : List Char) : Option Label :=
  match Composition.normalize text with
  | 'x' :: 'n' :: '-' :: '-' :: code => Label.ofCode? code
  | label => if lengthLimit < label.length ∧ ¬ label.all isPlain then none else some label

/-- Whether a label holds nothing that is denied, and has its marks and joiners
in place. -/
def Label.isSound (label : Label) : Bool :=
  !label.any isDenied && !label.head?.any isMark && joinersFit [] label

/-- The labels of a name. -/
def read? (text : Bytes) : Option (List Label) := do
  let text ← Utf8.decode? text
  let folded ← text.toList.mapM fold?
  let labels ← (Text.splitAt '.' folded.flatten).mapM Label.ofFolded?
  if labels.all Label.isSound && areLegible labels then some labels else none

/-- A name in UTF-8. -/
def write (labels : List Label) : Bytes :=
  Bytes.ofText (String.ofList (List.intercalate ['.'] labels))

end ChainHost.Domain
