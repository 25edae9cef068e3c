import SyntheticRows.Text.Blank
/-!
Cutting a text at the first or last place where a character or a short text stands, and replacing
one text by another.
-/

namespace SyntheticRows.Text

/-- What stands before and after the first occurrence of a character. -/
def cutFirst (mark : Char) : List Char → Option (List Char × List Char)
  | [] => none
  | c :: rest =>
      if c = mark then some ([], rest)
      else (cutFirst mark rest).map fun (before, after) => (c :: before, after)

/-- What stands before and after the last occurrence of a character. -/
def cutLast (mark : Char) : List Char → Option (List Char × List Char)
  | [] => none
  | c :: rest =>
      match cutLast mark rest with
      | some (before, after) => some (c :: before, after)
      | none => if c = mark then some ([], rest) else none

/-- The parts between the occurrences of a character: always at least one. -/
def splitAtEach (mark : Char) (text : List Char) : List (List Char) :=
  splitWhere (· == mark) text

/-- What follows `start` in a text that begins with it. -/
def after? : (start text : List Char) → Option (List Char)
  | [], text => some text
  | _ :: _, [] => none
  | s :: start, c :: text => if s = c then after? start text else none

/-- What precedes `ending` in a text that ends with it. -/
def before? (ending text : List Char) : Option (List Char) :=
  (after? ending.reverse text.reverse).map List.reverse

/-- What stands before and after the first occurrence of a text. -/
def cutFirstText (mark : List Char) : List Char → Option (List Char × List Char)
  | [] => if mark.isEmpty then some ([], []) else none
  | c :: rest =>
      match after? mark (c :: rest) with
      | some after => some ([], after)
      | none => (cutFirstText mark rest).map fun (before, after) => (c :: before, after)

/-- Copies a text, skipping the first `skip` characters and replacing each occurrence of `old` that
does not overlap an earlier one. -/
def replaceFrom (old new : List Char) : (skip : Nat) → List Char → List Char
  | _, [] => []
  | skip + 1, _ :: rest => replaceFrom old new skip rest
  | 0, c :: rest =>
      if (after? old (c :: rest)).isSome then new ++ replaceFrom old new (old.length - 1) rest
      else c :: replaceFrom old new 0 rest

/-- Replaces the occurrences of a non-empty text, found from left to right without overlap. -/
def replaceText (old new text : List Char) : List Char :=
  replaceFrom old new 0 text

end SyntheticRows.Text
