import ClientGen.Method
import ClientGen.Text.Blank
import ClientGen.Text.Percent
import ClientGen.Text.Search
import ClientGen.Text.Words

/-!
Names of definitions and operations: the name that a reference points at, the base of a generic
name, placeholders, and names made of an owner and a part of it.
-/

set_option autoImplicit false

namespace ClientGen.Names

/-- The name after the last slash of a reference, without percent-encoding and pointer escapes. -/
def ofReference (reference : String) : String :=
  let last := Text.percentDecoded (Text.afterLast '/' reference.toList)
  String.ofList
    (Text.replaceAll ['~', '0'] ['~'] (Text.replaceAll ['~', '1'] ['/'] last))

def isOpening (char : Char) : Bool := char == '<' || char == '«'

def isClosing (char : Char) : Bool := char == '>' || char == '»'

def base (name : String) : String :=
  if name.toList.any isOpening then
    String.ofList (Text.trimEnd (name.toList.takeWhile fun char => !isOpening char))
  else name

/-- The placeholder for the type argument at a position: `T`, `K`, `U`, `T1`, `K1`, and so on. -/
def placeholder (index : Nat) : String :=
  let letter := match index % 3 with
    | 0 => "T"
    | 1 => "K"
    | _ => "U"
  if index < 3 then letter else letter ++ toString (index / 3)

/-- The name of an inline structure: the owner's name and the property's in Pascal case. -/
def synthesized (owner property : String) : String := owner ++ Text.pascalCase property

/-- The first of `name2`, `name3`, … that is not taken. One of the first numbers is free, because
there are more of them than names that are taken. -/
def firstFree (taken : List String) (name : String) : String :=
  let candidates := (List.range (taken.length + 1)).map fun index => name ++ toString (index + 2)
  (candidates.find? fun candidate => !taken.contains candidate).getD name

def startsWithMethod (name : String) : Bool :=
  Method.all.any fun method =>
    match Text.afterStart? method.key.toList name.toList with
    | none => false
    | some [] => true
    | some (next :: _) => Text.isUppercase next || !Text.isAlphabetic next

end ClientGen.Names
