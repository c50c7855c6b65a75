import UrlMatch.Regex.Segmentation
import UrlMatch.Text

/-!
# Classes with names

The classes that a regular expression can call by name: the one-letter classes for digits, blanks
and words, the ASCII classes in brackets and colons, and the properties of characters. A general
category, a script and a property that a character has or has not are called by their names alone;
the values of other properties together with the name of the property.
-/

namespace UrlMatch.Regex

namespace CharClass

/-- Decimal digits; only the ASCII ones unless `unicode`. -/
def digit (unicode : Bool) : CharClass :=
  if unicode then table Unicode.digitSpans else range 0x30 0x39

/-- Blanks; only the ASCII ones unless `unicode`. -/
def blank (unicode : Bool) : CharClass :=
  if unicode then ofRanges Unicode.blankRanges else ofRanges [(0x9, 0xD), (0x20, 0x20)]

/-- Characters of words; only the ASCII ones unless `unicode`. -/
def word (unicode : Bool) : CharClass :=
  if unicode then
    union (table Unicode.alphabeticSpans) (union (table Unicode.markSpans)
      (union (table Unicode.digitSpans) (union (table Unicode.connectorSpans)
        (range 0x200C 0x200D))))
  else ofRanges [(0x30, 0x39), (0x41, 0x5A), (0x5F, 0x5F), (0x61, 0x7A)]

/-- The ASCII classes by name. -/
def asciiClasses : List (String × List (Nat × Nat)) := [
  ("alnum", [(0x30, 0x39), (0x41, 0x5A), (0x61, 0x7A)]),
  ("alpha", [(0x41, 0x5A), (0x61, 0x7A)]),
  ("ascii", [(0x00, 0x7F)]),
  ("blank", [(0x09, 0x09), (0x20, 0x20)]),
  ("cntrl", [(0x00, 0x1F), (0x7F, 0x7F)]),
  ("digit", [(0x30, 0x39)]),
  ("graph", [(0x21, 0x7E)]),
  ("lower", [(0x61, 0x7A)]),
  ("print", [(0x20, 0x7E)]),
  ("punct", [(0x21, 0x2F), (0x3A, 0x40), (0x5B, 0x60), (0x7B, 0x7E)]),
  ("space", [(0x09, 0x0D), (0x20, 0x20)]),
  ("upper", [(0x41, 0x5A)]),
  ("word", [(0x30, 0x39), (0x41, 0x5A), (0x5F, 0x5F), (0x61, 0x7A)]),
  ("xdigit", [(0x30, 0x39), (0x41, 0x46), (0x61, 0x66)])]

/-- The ASCII class with a name. -/
def ofAsciiName? (name : Text) : Option CharClass :=
  (asciiClasses.lookup (String.ofList name)).map ofRanges

/-- Names are compared without case, blanks, hyphens and underscores. -/
def foldName (name : Text) : Text :=
  (name.filter fun c => c.val < 0x80 && c != ' ' && c != '_' && c != '-').map Char.toLower

/-- A leading `is` is no part of a name, unless the name is just `isc`. -/
def looseName (name : Text) : Text :=
  match name with
  | i :: s :: rest =>
    if i.toLower = 'i' ∧ s.toLower = 's' then
      if foldName rest = ['c'] then ['i', 's', 'c'] else foldName rest
    else foldName name
  | _ => foldName name

/-- Compares a name with the spelling of a standard. -/
def isNamed (name : Text) (standard : String) : Bool := name == foldName standard.toList

/-- The unions of general categories that have names of their own. -/
def categoryGroups : List (String × String × List String) := [
  ("LC", "Cased_Letter", ["Lu", "Ll", "Lt"]),
  ("L", "Letter", ["Lu", "Ll", "Lt", "Lm", "Lo"]),
  ("M", "Mark", ["Mn", "Mc", "Me"]),
  ("M", "Combining_Mark", ["Mn", "Mc", "Me"]),
  ("N", "Number", ["Nd", "Nl", "No"]),
  ("Nd", "digit", ["Nd"]),
  ("P", "Punctuation", ["Pc", "Pd", "Ps", "Pe", "Pi", "Pf", "Po"]),
  ("P", "punct", ["Pc", "Pd", "Ps", "Pe", "Pi", "Pf", "Po"]),
  ("S", "Symbol", ["Sm", "Sc", "Sk", "So"]),
  ("Z", "Separator", ["Zs", "Zl", "Zp"]),
  ("Cc", "cntrl", ["Cc"])]

/-- The class with a name in a list of classes. -/
def named? (classes : List (List String × CharClass)) (name : Text) : Option CharClass :=
  (classes.find? fun c => c.1.any (isNamed name)).map (·.2)

/-- The class of a general category, or of one of their unions. -/
def ofCategory? (name : Text) : Option CharClass :=
  if isNamed name "Any" then some any
  else if isNamed name "Assigned" then some (table Unicode.categorySpans)
  else if isNamed name "ASCII" then some ascii
  else if isNamed name "Cn" || isNamed name "Unassigned" then some unassigned
  else if isNamed name "C" || isNamed name "Other" then
    some (compl (table (Unicode.categorySpans.filter fun s => s.tag < 25)))
  else
    match categoryGroups.find? fun g => isNamed name g.1 || isNamed name g.2.1 with
    | some g => some (categories g.2.2)
    | .none =>
      (Unicode.categoryNames.find? fun g => isNamed name g.1 || isNamed name g.2).map fun g =>
        categories [g.1]

/-- The short name of the script with a name. -/
def scriptNamed? (name : Text) : Option String :=
  ((Unicode.scriptNames.find? fun s => isNamed name s.1 || isNamed name s.2).map (·.1)).or
    ((Unicode.scriptAliases.find? fun s => isNamed name s.1).map (·.2))

/-- The class of a script. -/
def ofScript? (name : Text) : Option CharClass := (scriptNamed? name).map fun s => scripts [s]

/-- The class of the characters that a script uses. -/
def ofScriptExtension? (name : Text) : Option CharClass := (scriptNamed? name).map scriptExtension

/-- The class of the characters of a version of the standard. -/
def ofAge? (name : Text) : Option CharClass :=
  (Unicode.ageNames.findIdx? fun a => isNamed name a.1 || isNamed name a.2).map age

/-- The class that a name alone stands for. -/
def ofName? (name : Text) : Option CharClass :=
  let name := looseName name
  (named? properties name).or ((ofCategory? name).or (ofScript? name))

/-- The properties that take a value, with their names and the classes of their values. -/
def valuedProperties : List (List String × (Text → Option CharClass)) := [
  (["General_Category", "gc"], ofCategory?),
  (["Script", "sc"], ofScript?),
  (["Script_Extensions", "scx"], ofScriptExtension?),
  (["Age"], ofAge?),
  (["Grapheme_Cluster_Break", "GCB"], named? graphemeBreaks),
  (["Word_Break", "WB"], named? wordBreaks),
  (["Sentence_Break", "SB"], named? sentenceBreaks)]

/-- The class that the name of a property and one of its values stand for. -/
def ofNameValue? (name value : Text) : Option CharClass :=
  (valuedProperties.find? fun p => p.1.any (isNamed (looseName name))).bind fun p =>
    p.2 (looseName value)

end CharClass

end UrlMatch.Regex
