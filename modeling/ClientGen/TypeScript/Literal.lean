import ClientGen.Text.Search

/-!
Literals of the target language: strings, keys of objects, templates of URLs and comments.
-/

set_option autoImplicit false

namespace ClientGen.TypeScript

def quotedChar (char : Char) : List Char :=
  if char = '\\' then ['\\', '\\'] else if char = '"' then ['\\', '"'] else [char]

def quotedChars (chars : List Char) : List Char := '"' :: (chars.flatMap quotedChar ++ ['"'])

def quoted (text : String) : String := String.ofList (quotedChars text.toList)

def startsIdentifier (char : Char) : Bool := char.isAlpha || char == '_' || char == '$'

def continuesIdentifier (char : Char) : Bool := startsIdentifier char || char.isDigit

def isIdentifier (text : String) : Bool :=
  match text.toList with
  | [] => false
  | first :: rest => startsIdentifier first && rest.all continuesIdentifier

/-- A name as the key of an object, quoted unless it is an identifier. -/
def propertyKey (name : String) : String := if isIdentifier name then name else quoted name

def templateChar (char : Char) : List Char := if char = '`' then ['\\', '`'] else [char]

def variableExpression (name : List Char) : List Char :=
  "$\x7bencodeURIComponent(String(params[".toList ++ quotedChars name ++ "]))\x7d".toList

/-- The body of a template literal for a URL. A variable reaches from an opening brace to the next
closing one; `name` holds what was read of it, last character first. -/
def templateChars (name : Option (List Char)) : List Char → List Char
  | [] =>
      match name with
      | none => []
      | some read => ('\x7b' :: read.reverse).flatMap templateChar
  | char :: rest =>
      match name with
      | none =>
          if char = '\x7b' then templateChars (some []) rest
          else templateChar char ++ templateChars none rest
      | some read =>
          if char = '\x7d' then variableExpression read.reverse ++ templateChars none rest
          else templateChars (some (char :: read)) rest

def urlTemplate (url : String) : String := String.ofList (templateChars none url.toList)

def commentText (text : String) : String :=
  String.ofList (Text.replaceAll ['*', '/'] ['*', '\\', '/'] text.toList)

end ClientGen.TypeScript
