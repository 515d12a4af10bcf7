import OpcachePreload.Text.Integer
import OpcachePreload.Text.Line
import OpcachePreload.Text.Quoted

/-!
# What is wrong with a pattern

The causes for which a text is not a pattern, the place each was noticed at, and their wording.
-/

namespace OpcachePreload.Pattern

/-- Why a text is not a pattern. -/
inductive Problem where
  | badEscapeAtEnd
  | badEscape (escape : String)
  | incompleteEscape (escape : String)
  | octalTooLarge (escape : String)
  | missingBrace
  | unknownCharacterName (name : String)
  | unterminatedCharset
  | badRange (range : String)
  | nothingToRepeat
  | multipleRepeat
  | leastAboveMost
  | unterminatedSubpattern
  | unterminatedComment
  | unbalancedParenthesis
  | unexpectedEnd
  | unknownExtension (extension : String)
  | missingName (what : String)
  | unterminatedName (terminator : Char)
  | badGroupName (name : String)
  | unknownGroupName (name : String)
  | redefinedGroup (name : String) (index earlier : Nat)
  | badGroupNumber
  | invalidGroup (index : Nat)
  | openGroup
  | groupOfSameLookbehind
  | tooManyBranches
  | variableLookbehind
  | flagsNotAtStart
  | unknownFlag
  | missing (what : String)
  | localeFlag
  | incompatibleFlags
  | fixedFlagOff
  | globalFlagOn
  | globalFlagOff
  | flagOnAndOff
  deriving DecidableEq, Repr

/-- The wording of a problem. -/
def Problem.message : Problem → String
  | badEscapeAtEnd => "bad escape (end of pattern)"
  | badEscape escape => "bad escape " ++ escape
  | incompleteEscape escape => "incomplete escape " ++ escape
  | octalTooLarge escape => "octal escape value " ++ escape ++ " outside of range 0-0o377"
  | missingBrace => "missing \x7b"
  | unknownCharacterName name => "undefined character name " ++ Text.quoted name
  | unterminatedCharset => "unterminated character set"
  | badRange range => "bad character range " ++ range
  | nothingToRepeat => "nothing to repeat"
  | multipleRepeat => "multiple repeat"
  | leastAboveMost => "min repeat greater than max repeat"
  | unterminatedSubpattern => "missing ), unterminated subpattern"
  | unterminatedComment => "missing ), unterminated comment"
  | unbalancedParenthesis => "unbalanced parenthesis"
  | unexpectedEnd => "unexpected end of pattern"
  | unknownExtension extension => "unknown extension ?" ++ extension
  | missingName what => "missing " ++ what
  | unterminatedName terminator => "missing " ++ terminator.toString ++ ", unterminated name"
  | badGroupName name => "bad character in group name " ++ Text.quoted name
  | unknownGroupName name => "unknown group name " ++ Text.quoted name
  | redefinedGroup name index earlier =>
    "redefinition of group name " ++ Text.quoted name ++ " as group " ++ toString index ++
      "; was group " ++ toString earlier
  | badGroupNumber => "bad group number"
  | invalidGroup index => "invalid group reference " ++ toString index
  | openGroup => "cannot refer to an open group"
  | groupOfSameLookbehind => "cannot refer to group defined in the same lookbehind subpattern"
  | tooManyBranches => "conditional backref with more than two branches"
  | variableLookbehind => "look-behind requires fixed-width pattern"
  | flagsNotAtStart => "global flags not at the start of the expression"
  | unknownFlag => "unknown flag"
  | missing what => "missing " ++ what
  | localeFlag => "bad inline flags: cannot use 'L' flag with a str pattern"
  | incompatibleFlags => "bad inline flags: flags 'a', 'u' and 'L' are incompatible"
  | fixedFlagOff => "bad inline flags: cannot turn off flags 'a', 'u' and 'L'"
  | globalFlagOn => "bad inline flags: cannot turn on global flag"
  | globalFlagOff => "bad inline flags: cannot turn off global flag"
  | flagOnAndOff => "bad inline flags: flag turned on and off"

/-- Why a text is rejected as a pattern. -/
inductive Rejection where
  /-- It is not well formed; most problems have a place. -/
  | malformed (problem : Problem) (position : Option Nat)
  /-- A repetition count is out of range. -/
  | countTooLarge
  /-- A repetition count has too many digits to be read. -/
  | countTooLong (digits : Nat)
  /-- Global flags ask for ASCII and for Unicode classes. -/
  | contradictoryFlags
  deriving DecidableEq, Repr

/-- The wording of a rejection of the text `pattern`. A place in a text of several lines is given by
line and column as well. -/
def Rejection.message (pattern : String) : Rejection → String
  | malformed problem none => problem.message
  | malformed problem (some position) =>
    let text := pattern.toList
    let place := problem.message ++ " at position " ++ toString position
    if text.contains '\n' then
      place ++ " (line " ++ toString (Text.lineOf text position) ++
        ", column " ++ toString (Text.columnOf text position) ++ ")"
    else place
  | countTooLarge => "the repetition number is too large"
  | countTooLong digits => Text.tooManyDigitsMessage digits
  | contradictoryFlags => "ASCII and UNICODE flags are incompatible"

end OpcachePreload.Pattern
