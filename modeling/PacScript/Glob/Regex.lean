import PacScript.Glob.Basic

/-!
# Regular expressions of shell expressions

A shell expression as the text of a regular expression that is anchored at both ends.
-/

namespace PacScript.Glob

/-- The characters that are written with a backslash in a regular expression. -/
def specialChars : List Char := "()[]\x7b\x7d?*+-|^$\\.&~# \t\n\r\x0b\x0c".toList

/-- A character that stands for itself. -/
def escapeChar (c : Char) : List Char := if specialChars.contains c then ['\\', c] else [c]

/-- A character inside a set. -/
def setChar (c : Char) : List Char := if c == '\\' || c == '[' then ['\\', c] else [c]

def Member.regex : Member → List Char
  | .single c => setChar c
  | .range low high => setChar low ++ '-' :: setChar high

def Token.regex : Token → List Char
  | .anyRun => ['.', '*']
  | .anyOne => ['.']
  | .literal c => escapeChar c
  | .set negated members =>
    '[' :: (if negated then ['^'] else []) ++ members.flatMap Member.regex ++ [']']

/-- The regular expression of a row of tokens. -/
def regexOfTokens (ts : List Token) : List Char := '^' :: ts.flatMap Token.regex ++ ['\\', 'Z']

/-- The regular expression of a shell expression, which is not trimmed. -/
def regex (expression : String) : String :=
  String.ofList (regexOfTokens (tokens expression.toList))

end PacScript.Glob
