/-
# ScrapeFleet.Url.Domain — domain names

A domain name is looked up in ASCII. Its characters are brought into one form, and then label by label
those with other characters are checked and written in Punycode behind a mark of their own. A label that
comes with the mark has to be one that would be written so.

In some scripts a letter takes another form beside another letter, and two characters without a form of
their own ask for it or against it. A domain name has them only where they make a difference: behind a
mark that silences a vowel, or, to keep letters apart, between two that would join. Marks between the
letters do not count. Ranges of the tables may run over characters that occur in no domain name.
-/
import ScrapeFleet.Text.Composed
import ScrapeFleet.Text.Letter
import ScrapeFleet.Url.Address
import ScrapeFleet.Url.Direction
import ScrapeFleet.Url.Mapping
import ScrapeFleet.Url.Punycode

namespace ScrapeFleet.Url

open Text (RangeTable)

/-! ## Joiners -/

/-- Letters that join on both sides. -/
def joiningTable : RangeTable := .parse
  "620 626 628 62a-62e 633-63f 641-647 649-64a 66e-66f 679-687 69a-6bf 6c1-6c2 6cc 6ce 6d0-6d1
  6fa-6fc 6ff 712-714 71a-71d 71f-727 729 72b 72d-72e 74e-758 75c-76a 76d-770 772 775-777 77a-77f
  7ca-7ea 841-845 848 84a-853 855 860 862-865 868 886 889-88d 88f 8a0-8a9 8af-8b0 8b3-8b8 8ba-8c8
  1807 1820-1878 1887-18a8 18aa a840-a871 10ac0-10ac4 10ad3-10ad6 10ad8-10adc 10ade-10ae0
  10aeb-10aee 10b80 10b82 10b86-10b88 10b8a-10b8b 10b8d 10b90 10bad-10bae 10d01-10d21 10d23
  10ec3-10ec4 10ec6-10ec7 10f30-10f32 10f34-10f44 10f51-10f53 10f70-10f73 10f76-10f81 10fb0
  10fb2-10fb3 10fb8 10fbb-10fbc 10fbe-10fbf 10fc1 10fc4 10fca 1e922-1e943"

/-- Letters that join only the letter before them. -/
def joiningBackTable : RangeTable := .parse
  "622-625 627 629 62f-632 648 671-673 688-699 6c0 6c3-6cb 6cd 6cf 6d2-6d3 6d5 6ee-6ef 710 715-719
  71e 728 72a 72c 72f 74d 759-75b 76b-76c 771 773-774 778-779 840 846-847 849 854 856-858 867
  869-882 88e 8aa-8ac 8ae 8b1-8b2 8b9 10ac5 10ac7 10ac9-10aca 10ace-10ad2 10add 10ae1 10ae4 10aef
  10b81 10b83-10b85 10b89 10b8c 10b8e-10b8f 10b91 10ba9-10bac 10d22 10ec2 10f33 10f54 10f74-10f75
  10fb4-10fb6 10fb9-10fba 10fbd 10fc2-10fc3 10fc9"

/-- Letters that join only the letter after them. -/
def joiningOnTable : RangeTable := .parse "a872 10acd 10ad7 10d00 10fcb"

/-- A letter that joins the one after it. -/
def joinsOn (c : Char) : Bool := joiningTable.contains c || joiningOnTable.contains c

/-- A letter that joins the one before it. -/
def joinsBack (c : Char) : Bool := joiningTable.contains c || joiningBackTable.contains c

/-- A mark that silences the vowel of a letter. -/
def silences (c : Char) : Bool := Text.markClass c == 9

/-- A joiner may stand between the characters before it, the nearest first, and those after it. -/
def mayJoin (joiner : Char) (before after : List Char) : Bool :=
  before.head?.any silences
    || joiner == '\u200c'
      && (before.find? (direction · != .mark)).any joinsOn
      && (after.find? (direction · != .mark)).any joinsBack

/-- All joiners of a label stand where they may; `before` are the characters before the label. -/
def joinersFit (before : List Char) : List Char → Bool
  | [] => true
  | c :: cs =>
    (if c == '\u200c' || c == '\u200d' then mayJoin c before cs else true) && joinersFit (c :: before) cs

/-! ## Labels and names -/

/-- An ASCII character that no domain name has. -/
def isForbidden (c : Char) : Bool :=
  c.val ≤ 0x20 || c.val == 0x7f || "%#/:<>?@[\\]^|".toList.contains c

/-- A character of ASCII. -/
def isPlain (c : Char) : Bool := c.val < 0x80

/-- The characters that a label stands for, when it has the mark of labels that are not plain. Labels are
limited in length, since reading takes time that grows with its square. -/
def spelledOut? : List Char → Option (List Char)
  | 'x' :: 'n' :: '-' :: '-' :: cs => do
    guard (cs.length ≤ 2000)
    let label ← Punycode.decode? cs
    guard (!label.all isPlain && label.all standsForItself && Text.composed label == label)
    return label
  | cs => some cs

/-- A label that a domain name can have. -/
def isLabel (label : List Char) : Bool :=
  label.all isPlain || !label.head?.any Text.isMark && joinersFit [] label

/-- A label as it is looked up. -/
def labelToAscii? (label : List Char) : Option (List Char) :=
  if label.all isPlain then some label
  else if label.length ≤ 1000 then some ("xn--".toList ++ Punycode.encode label)
  else none

/-- The form of a domain name in which it is looked up. -/
def domainToAscii? (bytes : List UInt8) : Option String := do
  let s ← String.fromUTF8? ⟨bytes.toArray⟩
  let cs := Text.composed (← s.toList.mapM mapped?).flatten
  let labels ← (splitAt '.' cs).mapM spelledOut?
  guard (labels.all fun label => !label.any isForbidden && isLabel label)
  guard (!labels.any (·.any isRightward) || labels.all runsOneWay)
  let labels ← labels.mapM labelToAscii?
  return ".".intercalate (labels.map String.ofList)

end ScrapeFleet.Url
