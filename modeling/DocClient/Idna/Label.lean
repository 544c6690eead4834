import DocClient.Idna.Repertoire
import DocClient.Idna.Context
import DocClient.Idna.Direction
import DocClient.Idna.Punycode
/-!
Internationalized domain names and their labels (RFC 5891): label validity, and the ASCII
form of a label, itself or `xn--` and its Punycode form, at most 63 characters.
-/
namespace DocClient

namespace Idna

/-- The longest label. -/
def maxLabelLength : Nat := 63

/-- Whether the hyphens of a label are where they may be. -/
def hyphensFit (cs : List Char) : Bool :=
  (cs.drop 2).take 2 != ['-', '-'] && cs.head? != some '-' && cs.getLast? != some '-'

/-- Whether each character of a label fits it. -/
def charactersFit (before : List Char) : List Char → Bool
  | [] => true
  | c :: after =>
    (isValid c || (isJoiner c && joinerFits before.reverse c after) ||
      (isContextual c && contextFits before.reverse c after)) &&
    charactersFit (c :: before) after

/-- Whether a label is valid. -/
def labelValid (cs : List Char) : Bool :=
  !cs.isEmpty && cs.length ≤ 254 && isComposed cs && hyphensFit cs &&
    !(cs.head?.any isMark) && charactersFit [] cs && bidiRuleHolds cs

/-- The ASCII form of a label, if it has one. -/
def labelToAscii? (cs : List Char) : Option String :=
  if cs.all (·.toNat < 0x80) then
    let fits : Bool := match cs.map Char.toLower with
      | 'x' :: 'n' :: '-' :: '-' :: rest =>
        !rest.isEmpty && rest.getLast? != some '-' &&
          (Punycode.decode rest).any labelValid
      | lowered => labelValid lowered
    if fits && cs.length ≤ maxLabelLength then some (String.ofList cs) else none
  else if labelValid cs then
    let a := "xn--" ++ String.ofList (Punycode.encode cs)
    if a.length ≤ maxLabelLength then some a else none
  else none

theorem labelValid_nil : labelValid [] = false := rfl

theorem labelToAscii?_nil : labelToAscii? [] = none := by
  simp [labelToAscii?, labelValid_nil]

/-! ### Domain names

A name is split into labels at full stops, ideographic full stops, fullwidth full stops and
halfwidth ideographic full stops; an empty last label stands for a trailing dot. Every label
must have an ASCII form, and the forms are joined with full stops. The name has at most 254
characters, and its ASCII form at most 253, or 254 with the trailing dot. -/

/-- Whether a character separates labels. -/
def isLabelSeparator (c : Char) : Bool :=
  c = '.' || c = '。' || c = '．' || c = '｡'

/-- The labels of a name. -/
def labels (cs : List Char) : List (List Char) :=
  (cs.map fun c => if isLabelSeparator c then '.' else c).splitOn '.'

/-- The longest ASCII form of a name, with and without a trailing dot. -/
def maxNameLength (trailingDot : Bool) : Nat := if trailingDot then 254 else 253

/-- The ASCII form of a domain name, if it has one. -/
def toAscii? (cs : List Char) : Option String :=
  if 254 < cs.length then none
  else
    match labels cs with
    | [[]] => none
    | ls =>
      let trailingDot := ls.getLast? == some []
      let body := if trailingDot then ls.dropLast else ls
      match body.mapM labelToAscii? with
      | none => none
      | some parts =>
        let text := ".".intercalate (parts ++ if trailingDot then [""] else [])
        if text.length ≤ maxNameLength trailingDot then some text else none

theorem toAscii?_nil : toAscii? [] = none := by
  simp [toAscii?, labels]

end Idna

end DocClient
