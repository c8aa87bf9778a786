import ScriptHost.Number.Decimal
import ScriptHost.Text.Unprintable
/-!
# Quoted text and inspection records

The inspection form of text is a double-quoted literal in which the quote, the backslash and the common
control characters are escaped, and unprintable characters are named by their number.  Inspection forms
of compound things list named fields in braces.
-/

namespace ScriptHost

def escapeChar (c : Char) : List Char :=
  match c with
  | '"' => ['\\', '"']
  | '\\' => ['\\', '\\']
  | '\n' => ['\\', 'n']
  | '\t' => ['\\', 't']
  | '\r' => ['\\', 'r']
  | '\x00' => ['\\', '0']
  | c =>
    if isUnprintable c then
      ['\\', 'u', Char.ofNat 0x7B] ++ Nat.toDigits 16 c.toNat ++ [Char.ofNat 0x7D]
    else [c]

/-- A double-quoted literal. -/
def quoted (s : String) : String := String.ofList ('"' :: s.toList.flatMap escapeChar ++ ['"'])

/-- Texts joined by commas in square brackets. -/
def bracketed (items : List String) : String := "[" ++ ", ".intercalate items ++ "]"

/-- A record of named fields in braces; an open record ends by showing that fields are left out. -/
def braced (name : String) (fields : List (String × String)) (isOpen : Bool) : String :=
  let shown := fields.map fun (field, text) => field ++ ": " ++ text
  let all := if isOpen then shown ++ [".."] else shown
  name ++ " \x7b " ++ ", ".intercalate all ++ " \x7d"

/-- The inspection form of an optional thing. -/
def optionText (inner : Option String) : String :=
  match inner with
  | none => "None"
  | some text => "Some(" ++ text ++ ")"

def boolText (b : Bool) : String := if b then "true" else "false"

end ScriptHost
