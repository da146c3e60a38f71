import Subshell.Text.CaseTable
import Subshell.Text.CaseContext
/-!
Letter case of whole texts.

Both directions use the full mappings, in which one letter may become several characters. A sigma
in lower case takes its final form at the end of a word.
-/

namespace Subshell.Text

/-- The other case of a character by a table of rows and a table of expansions. -/
def caseForm (rows : List CaseRow) (expansions : List (Nat × List Nat)) (c : Char) : Text :=
  match expansions.lookup c.toNat with
  | some form => form.map Char.ofNat
  | none =>
    match rows.find? (·.holds c.toNat) with
    | some row => [Char.ofNat (c.toNat + row.offset).toNat]
    | none => [c]

/-- A character in upper case. -/
def upperForm (c : Char) : Text := caseForm upperRows upperExpansions c

/-- A character in lower case, apart from its place in the text. -/
def lowerForm (c : Char) : Text := caseForm lowerRows lowerExpansions c

/-- Whether the first character that is not looked through is a cased letter. -/
def meetsCased (text : Text) : Bool :=
  match text.find? (!inRanges transparentRanges ·.toNat) with
  | some c => inRanges casedRanges c.toNat
  | none => false

/-- The text in upper case. -/
def upper (text : Text) : Text := text.flatMap upperForm

/-- The text in lower case after the characters `before`, which are given latest first. A capital
sigma takes its final form after a cased letter unless one follows. -/
def lowerAfter (before : Text) : Text → Text
  | [] => []
  | c :: rest =>
    let form :=
      if c = 'Σ' then
        if meetsCased before && !meetsCased rest then ['ς'] else ['σ']
      else lowerForm c
    form ++ lowerAfter (c :: before) rest

/-- The text in lower case. -/
def lower (text : Text) : Text := lowerAfter [] text

end Subshell.Text
