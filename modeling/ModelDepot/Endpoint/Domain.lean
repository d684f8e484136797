import ModelDepot.Endpoint.Domain.Joining
import ModelDepot.Endpoint.Percent
import ModelDepot.Endpoint.Punycode
import ModelDepot.Text.Composed
import ModelDepot.Text.Lossy

/-!
# Domains in ASCII

A domain is labels with dots between them. Labels with characters outside ASCII have a form in
ASCII, marked in front; they are checked in either form.
-/

namespace ModelDepot.Endpoint

def labels (cs : List Char) : List (List Char) :=
  Text.pieces (· == '.') cs

namespace Domain

/-- The ASCII characters that no domain has, besides the controls. -/
def forbidden : String := " %#/:<>?@[\\]^|\x7f"

def isAllowed (c : Char) : Bool :=
  0x20 ≤ c.toNat && !forbidden.toList.contains c

def isAscii (c : Char) : Bool :=
  c.toNat < 0x80

/-- What stands in front of the ASCII form of a label. -/
def codedMark : List Char := "xn--".toList

/-- How long a label outside ASCII may be. -/
def longestLabel : Nat := 1000

/-- How long the ASCII form of a label may be behind its mark when it is read. -/
def longestCode : Nat := 2000

/-- The domain can be taken as it stands, but for the case of its letters. -/
def isPlain (cs : List Char) : Bool :=
  cs.all isAscii && (labels (cs.map Char.toLower)).all fun l => !codedMark.isPrefixOf l

/-- The spelling of a text in domains, composed. -/
def respell (cs : List Char) : Option (List Char) :=
  (cs.mapM spelling).map fun spelled => Text.composed spelled.flatten

/-- The characters of a label. The ASCII form is only for labels that need it, and for no other
spelling of them. -/
def readLabel (label : List Char) : Option (List Char) :=
  if codedMark.isPrefixOf label then do
    let code := label.drop codedMark.length
    if !code.all isAscii || longestCode < code.length then none
    else
      let read ← Punycode.decode code
      if read.all isAscii || respell read != some read then none else return read
  else some label

/-- Nothing in the label leans on what is beside it, and it is not too long. Labels in ASCII may be
of any length. -/
def isSound (label : List Char) : Bool :=
  label.all isAscii ||
    (label.length ≤ longestLabel && !(label.head?.any isMark) && joinersFit [] label)

/-- The ASCII form of a label. -/
def writeLabel (label : List Char) : List Char :=
  if label.all isAscii then label else codedMark ++ Punycode.encode label

/-- The ASCII form of a domain outside ASCII. -/
def encoded (cs : List Char) : Option (List Char) := do
  let read ← (labels (← respell cs)).mapM readLabel
  if read.all isSound && (!read.any isMixing || read.all keepsDirection) then
    return (['.'] : List Char).intercalate (read.map writeLabel)
  else none

def toAscii (s : String) : Option (List Char) :=
  let cs := s.toList
  (if isPlain cs then some (cs.map Char.toLower) else encoded cs).filter fun name =>
    name.all isAllowed

end Domain

end ModelDepot.Endpoint
