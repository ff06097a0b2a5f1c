import PatternGrammar.Regex.Pattern
import PatternGrammar.Unicode.Word

/-!
# Tests of places

A place in a text is the gap in front of the character with its index; the place after the last
character is the end. `Look.holds` says which tests hold at a place. Places past the end do not
occur.
-/

namespace PatternGrammar.Regex

/-- Whether a word character stands at an index. -/
def isWordAt (ascii : Bool) (text : Array Char) (i : Nat) : Bool :=
  match text[i]? with
  | some c =>
    if ascii || c.toNat < 0x80 then Unicode.asciiWord.contains c else Unicode.word.contains c
  | none => false

/-- Whether a word character stands in front of a place. -/
def isWordBefore (ascii : Bool) (text : Array Char) (i : Nat) : Bool :=
  0 < i && isWordAt ascii text (i - 1)

/-- Whether a place is the start of a line. With `crlf` a carriage return ends a line too, alone or
with the newline after it. -/
def isLineStart (crlf : Bool) (text : Array Char) (i : Nat) : Bool :=
  i == 0 || text[i - 1]? == some '\n'
    || (crlf && text[i - 1]? == some '\r' && text[i]? != some '\n')

/-- Whether a place is the end of a line. -/
def isLineStop (crlf : Bool) (text : Array Char) (i : Nat) : Bool :=
  i == text.size
    || (if crlf then
          text[i]? == some '\r'
            || (text[i]? == some '\n' && !(0 < i && text[i - 1]? == some '\r'))
        else text[i]? == some '\n')

/-- Whether a test holds at a place. -/
def Look.holds (text : Array Char) (i : Nat) : Look → Bool
  | .start => i == 0
  | .stop => i == text.size
  | .lineStart crlf => isLineStart crlf text i
  | .lineStop crlf => isLineStop crlf text i
  | .wordBoundary ascii => isWordBefore ascii text i != isWordAt ascii text i
  | .notWordBoundary ascii => isWordBefore ascii text i == isWordAt ascii text i
  | .wordStart ascii => !isWordBefore ascii text i && isWordAt ascii text i
  | .wordStop ascii => isWordBefore ascii text i && !isWordAt ascii text i
  | .wordStartHalf ascii => !isWordBefore ascii text i
  | .wordStopHalf ascii => !isWordAt ascii text i

end PatternGrammar.Regex
