import Scaffold.Text.Cluster
import Scaffold.Text.Letter
import Scaffold.Text.LetterCase
import Scaffold.Text.Search
import Scaffold.Text.Space

/-!
# Names of a page

A page has one free-form name, written `snake_case`, `kebab-case`, `PascalCase` or as plain words.
From it come

* `compact`, its segments capitalised and run together,
* `identifier`, the compact name reduced to what a declaration may contain,
* `segment`, lower-case words joined by hyphens,
* `title`, capitalised words.
-/

namespace Scaffold.PageName

open Text

def isSeparator (c : Char) : Bool := c == '-' || c == '_' || isSpace c

/-- Upper-cases the first character, possibly to several, and keeps the rest. -/
def capitalize : List Char → List Char
  | [] => []
  | c :: rest => upper c ++ rest

/-- The segments between separators, each capitalised: `auth_login` gives `AuthLogin`. -/
def compact (name : String) : String :=
  String.ofList ((splitOn isSeparator name.toList).flatMap capitalize)

def isIdentifierChar (c : Char) : Bool := isAlphanumeric c || c == '_' || c == '$'

/-- The compact name without the characters that no identifier contains, after `Page` when it
would not start with a letter: `404 page` gives `Page404Page`. -/
def identifier (name : String) : String :=
  let kept := (compact name).toList.filter isIdentifierChar
  if kept.head?.any isAlphabetic then String.ofList kept else String.ofList ("Page".toList ++ kept)

/-! ### Path segments -/

/-- A hyphen at every hump, where an ASCII capital follows an ASCII small letter. -/
def splitHumps : List Char → List Char
  | a :: b :: rest =>
    if a.isLower && b.isUpper then a :: '-' :: splitHumps (b :: rest)
    else a :: splitHumps (b :: rest)
  | cs => cs

def isBlankOrUnderscore (c : Char) : Bool := isSpace c || c == '_'

/-- One hyphen for every run of white space and underscores; `inRun` tells that the run going on
has its hyphen already. -/
def collapseRuns (inRun : Bool) : List Char → List Char
  | [] => []
  | c :: rest =>
    if isBlankOrUnderscore c then
      if inRun then collapseRuns true rest else '-' :: collapseRuns true rest
    else
      c :: collapseRuns false rest

/-- Lower-case words joined by hyphens: `CrudTable` and `crud_table` give `crud-table`. -/
def segment (name : String) : String :=
  String.ofList (lowercase (collapseRuns false (splitHumps name.toList)))

/-! ### Titles -/

def isUpperCluster (cluster : List Char) : Bool :=
  uppercase cluster != lowercase cluster && cluster == uppercase cluster

def isLowerCluster (cluster : List Char) : Bool :=
  uppercase cluster != lowercase cluster && cluster == lowercase cluster

def isDigitCluster (cluster : List Char) : Bool := cluster.all Char.isDigit

def isDelimiter (cluster : List Char) : Bool :=
  cluster == ['_'] || cluster == ['-'] || cluster == [' ']

/-- Whether a word ends between `previous` and `cluster`: at a hump, at a change between letters
and digits, and before the last capital of a run that a small letter follows. -/
def startsWord (previous cluster : List Char) (next : Option (List Char)) : Bool :=
  (isLowerCluster previous && isUpperCluster cluster)
    || (isUpperCluster previous && isDigitCluster cluster)
    || (isDigitCluster previous && isUpperCluster cluster)
    || (isDigitCluster previous && isLowerCluster cluster)
    || (isLowerCluster previous && isDigitCluster cluster)
    || (isUpperCluster previous && isUpperCluster cluster && next.any isLowerCluster)

/-- The words of a text of which `previous` and the unfinished word `word` have been read. -/
def wordsAfter (previous word : List Char) : List (List Char) → List (List Char)
  | [] => [word]
  | cluster :: rest =>
    if isDelimiter cluster then word :: wordsAfter cluster [] rest
    else if startsWord previous cluster rest.head? then word :: wordsAfter cluster cluster rest
    else wordsAfter cluster (word ++ cluster) rest

def words : List (List Char) → List (List Char)
  | [] => []
  | cluster :: rest =>
    (wordsAfter cluster (if isDelimiter cluster then [] else cluster) rest).filter (! ·.isEmpty)

/-- Capitalises a word and lower-cases the rest of it. -/
def titleWord : List Char → List Char
  | [] => []
  | c :: rest => upper c ++ lowercase rest

/-- The words of the name, capitalised and separated by one space: `crud_table` gives `Crud
Table`. -/
def title (name : String) : String :=
  String.ofList ([' '].intercalate ((words (clusters name.toList)).map titleWord))

end Scaffold.PageName
