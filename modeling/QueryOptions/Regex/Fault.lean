import QueryOptions.Text.Quoted
import QueryOptions.Decimal.Notation

/-!
# QueryOptions.Regex.Fault

Why a text is no regular expression, and how this is said. A fault has a reason and mostly a
position, counted in characters of the text. If the text has several lines, the line and the
column are added.
-/

namespace QueryOptions
namespace Regex

/-- Reasons why a text is no regular expression. -/
inductive Reason where
  | unterminatedSet
  | unterminatedGroup
  | unterminatedComment
  | unterminatedName (terminator : Char)
  | missing (what : String)
  | unbalanced
  | nothingToRepeat
  | multipleRepeat
  | repeatOrder
  | badRange (low high : String)
  | badEscape (text : String)
  | danglingEscape
  | incompleteEscape (text : String)
  | octalRange (text : String)
  | unknownCharacterName (name : String)
  | badGroupName (name : String)
  | redefinedGroup (name : String) (index previous : Nat)
  | unknownGroup (name : String)
  | badGroupNumber
  | invalidReference (index : Nat)
  | openGroup
  | groupOfSameBehind
  | unknownExtension (text : String)
  | unexpectedEnd
  | manyBranches
  | unknownFlag
  | localeFlag
  | incompatibleAlphabets
  | alphabetOff
  | globalFlagOn
  | globalFlagOff
  | flagOnAndOff
  | globalFlagsNotFirst
  | variableBehind
  | templateRepeat (kind : String)
deriving DecidableEq, Repr

def Reason.text : Reason → String
  | .unterminatedSet => "unterminated character set"
  | .unterminatedGroup => "missing ), unterminated subpattern"
  | .unterminatedComment => "missing ), unterminated comment"
  | .unterminatedName c => "missing " ++ String.ofList [c] ++ ", unterminated name"
  | .missing what => "missing " ++ what
  | .unbalanced => "unbalanced parenthesis"
  | .nothingToRepeat => "nothing to repeat"
  | .multipleRepeat => "multiple repeat"
  | .repeatOrder => "min repeat greater than max repeat"
  | .badRange low high => "bad character range " ++ low ++ "-" ++ high
  | .badEscape text => "bad escape " ++ text
  | .danglingEscape => "bad escape (end of pattern)"
  | .incompleteEscape text => "incomplete escape " ++ text
  | .octalRange text => "octal escape value " ++ text ++ " outside of range 0-0o377"
  | .unknownCharacterName name => "undefined character name " ++ Text.quote name
  | .badGroupName name => "bad character in group name " ++ Text.quote name
  | .redefinedGroup name index previous =>
    "redefinition of group name " ++ Text.quote name ++ " as group " ++ Decimal.natText index
      ++ "; was group " ++ Decimal.natText previous
  | .unknownGroup name => "unknown group name " ++ Text.quote name
  | .badGroupNumber => "bad group number"
  | .invalidReference index => "invalid group reference " ++ Decimal.natText index
  | .openGroup => "cannot refer to an open group"
  | .groupOfSameBehind => "cannot refer to group defined in the same lookbehind subpattern"
  | .unknownExtension text => "unknown extension ?" ++ text
  | .unexpectedEnd => "unexpected end of pattern"
  | .manyBranches => "conditional backref with more than two branches"
  | .unknownFlag => "unknown flag"
  | .localeFlag => "bad inline flags: cannot use 'L' flag with a str pattern"
  | .incompatibleAlphabets => "bad inline flags: flags 'a', 'u' and 'L' are incompatible"
  | .alphabetOff => "bad inline flags: cannot turn off flags 'a', 'u' and 'L'"
  | .globalFlagOn => "bad inline flags: cannot turn on global flag"
  | .globalFlagOff => "bad inline flags: cannot turn off global flag"
  | .flagOnAndOff => "bad inline flags: flag turned on and off"
  | .globalFlagsNotFirst => "global flags not at the start of the expression"
  | .variableBehind => "look-behind requires fixed-width pattern"
  | .templateRepeat kind => "internal: unsupported template operator " ++ kind

/-- A reason and the place where it was found. -/
structure Fault where
  reason : Reason
  position : Option Nat
deriving DecidableEq, Repr

/-- Why no regular expression comes out of a text. -/
inductive Problem where
  /-- The text breaks the grammar. -/
  | fault (f : Fault)
  /-- A number of repetitions is beyond the limit. -/
  | tooManyRepeats
  /-- The options ask for both alphabets. -/
  | twoAlphabets
deriving DecidableEq, Repr

def lineEnds (cs : List Char) : Nat := cs.count '\n'

/-- Number of characters after the last line end. -/
def lastLineLength (cs : List Char) : Nat := (cs.reverse.takeWhile (fun c => c != '\n')).length

def Fault.message (f : Fault) (source : String) : String :=
  match f.position with
  | none => f.reason.text
  | some position =>
    let chars := source.toList
    let before := chars.take position
    let place := f.reason.text ++ " at position " ++ Decimal.natText position
    if chars.contains '\n' then
      place ++ " (line " ++ Decimal.natText (lineEnds before + 1) ++ ", column "
        ++ Decimal.natText (lastLineLength before + 1) ++ ")"
    else place

end Regex
end QueryOptions
