import ClientGen.Text.Case
import ClientGen.Text.Letter

/-!
The words of an identifier, and the identifiers built from them: `user_By_id` has the words `user`,
`By` and `id`, and reads `userById` in camel case, `UserById` in Pascal case and `user-by-id` in
kebab case. Digits never separate words.
-/

set_option autoImplicit false

namespace ClientGen.Text

/-- What is known of the word being read: the case of its last cased character. -/
inductive LastCase where
  | none
  | lower
  | upper
  deriving DecidableEq, Repr

/-- Splits a run of letters and numerals. A word ends before a capital that follows a small letter,
and before the last of several capitals when a small letter follows it. `current` is the word being
read, last character first. -/
def splitRun (mode : LastCase) (current : List Char) : List Char → List (List Char)
  | [] => if current.isEmpty then [] else [current.reverse]
  | [char] => [(char :: current).reverse]
  | char :: next :: rest =>
      let after :=
        if isLowercase char then LastCase.lower
        else if isUppercase char then LastCase.upper
        else mode
      if after == .lower && isUppercase next then
        (char :: current).reverse :: splitRun .none [] (next :: rest)
      else if mode == .upper && isUppercase char && isLowercase next then
        current.reverse :: splitRun .none [char] (next :: rest)
      else splitRun after (char :: current) (next :: rest)

/-- The maximal runs of letters and numerals. `current` is the run being read, last character
first. -/
def runs (current : List Char) : List Char → List (List Char)
  | [] => if current.isEmpty then [] else [current.reverse]
  | char :: rest =>
      if isAlphanumeric char then runs (char :: current) rest
      else if current.isEmpty then runs [] rest
      else current.reverse :: runs [] rest

def words (chars : List Char) : List (List Char) :=
  (runs [] chars).flatMap (splitRun .none [])

/-- A word in lower case. A capital sigma that ends it takes its final form. -/
def lowerWord : List Char → List Char
  | [] => []
  | ['Σ'] => ['ς']
  | char :: rest => lowerChar char ++ lowerWord rest

/-- A word with its first character in upper case and the rest in lower case. -/
def capitalWord : List Char → List Char
  | [] => []
  | char :: rest => upperChar char ++ lowerWord rest

def camelCase (text : String) : String :=
  match words text.toList with
  | [] => ""
  | first :: rest => String.ofList (lowerWord first ++ rest.flatMap capitalWord)

def pascalCase (text : String) : String :=
  String.ofList ((words text.toList).flatMap capitalWord)

def kebabCase (text : String) : String :=
  String.ofList (List.intercalate ['-'] ((words text.toList).map lowerWord))

end ClientGen.Text
