import GrantProbe.Domain.Label

/-!
# Domain names

A domain name is a sequence of labels between dots. It is sent in ASCII.

* `isForbidden`: ASCII characters that no domain name has;
* `labelsOf`: the labels of a text;
* `toAscii?`: the name that a text stands for, in ASCII.
-/

namespace GrantProbe.Domain

/-- A character of ASCII that no domain name has: a control, a blank, or a mark of web addresses. -/
def isForbidden (c : Char) : Bool :=
  c.toNat ≤ 0x20 || c.toNat == 0x7F ||
    ['#', '/', ':', '<', '>', '?', '@', '[', '\\', ']', '^', '|', '%'].contains c

/-- The labels of a name. -/
def labelsOf (name : List Char) : List (List Char) := Text.splitAtEach '.' name

/-- The name of labels. -/
def joined (labels : List (List Char)) : List Char := ['.'].intercalate labels

/-- **The name that a text stands for,** in ASCII. -/
def toAscii? (s : List Char) : Option (List Char) := do
  let name := Text.composed (← fold? s)
  if name.any isForbidden then none
  else
    let labels ← (labelsOf name).mapM readLabel?
    if labels.any (·.any turns) && !labels.all hasOneDirection then none
    else return joined (← labels.mapM writeLabel?)

end GrantProbe.Domain
