import ViewPreview.Text.Blank

/-!
# Occurrences of a Text in a Text

Removing a known beginning or end, splitting at a character, and replacing every occurrence of one
text by another.  Occurrences are found from the left and do not overlap; an empty text occurs
before every character and at the end.
-/

namespace ViewPreview.Text

/-- What follows `start` in a text that begins with it. -/
def dropStart? : (start text : List Char) → Option (List Char)
  | [], text => some text
  | _ :: _, [] => none
  | p :: start, c :: text => if p = c then dropStart? start text else none

/-- What precedes `finish` in a text that ends with it. -/
def dropFinish? (finish text : List Char) : Option (List Char) :=
  (dropStart? finish.reverse text.reverse).map List.reverse

/-- Whether a text begins with a given word. -/
def startsWith (word : String) (text : List Char) : Bool :=
  word.toList.isPrefixOf text

/-- Whether a text ends with a given word. -/
def endsWith (word : String) (text : List Char) : Bool :=
  word.toList.isSuffixOf text

/-- Whether `needle` occurs in a text. -/
def occursIn (needle : List Char) : List Char → Bool
  | [] => needle.isEmpty
  | c :: text => needle.isPrefixOf (c :: text) || occursIn needle text

/-- The text before and after the first occurrence of a separator. -/
def splitFirst? (separator : Char) : List Char → Option (List Char × List Char)
  | [] => none
  | c :: text =>
    if c = separator then some ([], text)
    else (splitFirst? separator text).map fun parts ↦ (c :: parts.1, parts.2)

/-- The parts of a text between the occurrences of a separator; there is always one part. -/
def splitAll (separator : Char) : List Char → List (List Char)
  | [] => [[]]
  | c :: text =>
    if c = separator then [] :: splitAll separator text
    else match splitAll separator text with
      | [] => [[c]]
      | part :: parts => (c :: part) :: parts

/-- Replace the occurrences of a nonempty needle, after passing over `skip` characters that belong
to an occurrence already replaced. -/
def replaceFrom (needle replacement : List Char) : (skip : Nat) → List Char → List Char
  | _, [] => []
  | skip + 1, _ :: text => replaceFrom needle replacement skip text
  | 0, c :: text =>
    if needle.isPrefixOf (c :: text) then
      replacement ++ replaceFrom needle replacement (needle.length - 1) text
    else
      c :: replaceFrom needle replacement 0 text

/-- Replace every occurrence of `needle`. -/
def replaceAll (needle replacement text : List Char) : List Char :=
  if needle.isEmpty then replacement ++ text.flatMap fun c ↦ c :: replacement
  else replaceFrom needle replacement 0 text

/-- Replace every occurrence of `needle` in a string. -/
def replaceString (needle replacement text : String) : String :=
  String.ofList (replaceAll needle.toList replacement.toList text.toList)

/-- Join texts with a separator between neighbours. -/
def joinWith (separator : String) (parts : List String) : String :=
  separator.intercalate parts

/-- An ASCII capital letter as a small letter, any other character as it is. -/
def lowerChar (c : Char) : Char :=
  if 'A' ≤ c && c ≤ 'Z' then Char.ofNat (c.toNat + 32) else c

/-- A string with its ASCII capital letters made small. -/
def lower (text : String) : String :=
  String.ofList (text.toList.map lowerChar)

end ViewPreview.Text
