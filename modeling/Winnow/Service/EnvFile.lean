/-
EnvFile — environment variables from the text of a file.

A line binds a name to a value.  The value stands alone up to a comment, or between quotation marks,
where it may go over several lines and hold escapes.  References to other variables are replaced in
every value.  A line that cannot be read is skipped.
-/
import Winnow.Service.Settings
import Winnow.Text.Blank

namespace Winnow.EnvFile

/-- A name with its value; a name may stand without one. -/
structure Binding where
  name : List Char
  value : Option (List Char)
deriving DecidableEq, Repr

/-! ## The pieces of a line -/

/-- An end of line. -/
def isBreak (c : Char) : Bool := c = '\n' || c = '\r'

/-- White space within a line. -/
def isGap (c : Char) : Bool := Text.isBlank c && !isBreak c

/-- What follows the word "export" and white space, if that is how a text starts. -/
def dropExport (cs : List Char) : List Char :=
  let word := "export".toList
  let rest := cs.drop word.length
  if word.isPrefixOf cs && rest.head?.any isGap then rest.dropWhile isGap else cs

/-- A name, between apostrophes or up to a blank, a hash sign or an equals sign. -/
def takeName? : List Char → Option (List Char × List Char)
  | '\'' :: cs => match Text.cutAt '\'' cs with
    | ([], _) => none
    | (_, none) => none
    | (name, some rest) => some (name, rest)
  | cs =>
    match Text.splitBefore (fun c => c = '=' || c = '#' || Text.isBlank c) cs with
    | ([], _) => none
    | split => some split

/-- A text up to its closing mark, and what follows it.  The character after a backslash closes
nothing. -/
def takeQuoted? (mark : Char) : List Char → Option (List Char × List Char)
  | '\\' :: c :: rest => do
    let (value, after) ← takeQuoted? mark rest
    return ('\\' :: c :: value, after)
  | c :: rest =>
    if c = mark then some ([], rest)
    else if c = '\\' then none
    else do
      let (value, after) ← takeQuoted? mark rest
      return (c :: value, after)
  | [] => none

/-- The character of an escape between double quotation marks. -/
def doubleEscape? : Char → Option Char
  | '\\' => some '\\'
  | '\'' => some '\''
  | '"' => some '"'
  | 'a' => some '\x07'
  | 'b' => some '\x08'
  | 'f' => some '\x0c'
  | 'n' => some '\n'
  | 'r' => some '\r'
  | 't' => some '\t'
  | 'v' => some '\x0b'
  | _ => none

/-- The character of an escape between apostrophes. -/
def singleEscape? : Char → Option Char
  | '\\' => some '\\'
  | '\'' => some '\''
  | _ => none

/-- A text with its escapes resolved; an unknown one stays as it is. -/
def unescape (escape? : Char → Option Char) : List Char → List Char
  | '\\' :: c :: rest => match escape? c with
    | some d => d :: unescape escape? rest
    | none => '\\' :: unescape escape? (c :: rest)
  | c :: rest => c :: unescape escape? rest
  | [] => []

/-- A hash sign follows, after at least one blank. -/
def startsComment (cs : List Char) : Bool :=
  cs.head?.any Text.isBlank && (cs.dropWhile Text.isBlank).head? = some '#'

/-- A text up to a comment. -/
def dropComment : List Char → List Char
  | [] => []
  | c :: rest => if startsComment (c :: rest) then [] else c :: dropComment rest

/-- A value after the equals sign: quoted, or the rest of the line up to a comment.  A comment may
take the place of the value if there is a gap before it. -/
def takeValue? (cs : List Char) : Option (List Char × List Char) :=
  match cs.dropWhile isGap with
  | '\'' :: rest => (takeQuoted? '\'' rest).map fun (v, rest) => (unescape singleEscape? v, rest)
  | '"' :: rest => (takeQuoted? '"' rest).map fun (v, rest) => (unescape doubleEscape? v, rest)
  | _ =>
    let (line, rest) := Text.splitBefore isBreak cs
    some (Text.strip (dropComment line), rest)

/-- What follows an end of line. -/
def dropBreak : List Char → List Char
  | '\r' :: '\n' :: rest => rest
  | c :: rest => if isBreak c then rest else c :: rest
  | [] => []

/-- What follows the end of a line, with a comment before it or not. -/
def takeLineEnd? (cs : List Char) : Option (List Char) :=
  let rest := cs.dropWhile isGap
  let rest := if rest.head? = some '#' then (Text.splitBefore isBreak rest).2 else rest
  if rest.head?.all isBreak then some (dropBreak rest) else none

/-- What follows the current line; of the two characters of an end of line the second stays. -/
def skipLine (cs : List Char) : List Char := (Text.splitBefore isBreak cs).2.drop 1

/-! ## Lines -/

/-- A binding, or none for a line that has only a comment, and the rest of the text after it.
Where a line cannot be read, the outcome is the rest of the text at the fault. -/
def takeBinding (cs : List Char) : Except (List Char) (Option Binding × List Char) := do
  let cs := dropExport cs
  let (name, rest) ← match cs with
    | '#' :: _ => pure (none, cs)
    | cs => match takeName? cs with
      | some (name, rest) => pure (some name, rest)
      | none => throw cs
  let rest := rest.dropWhile isGap
  let (value, rest) ← match rest with
    | '=' :: afterSign =>
      match takeValue? afterSign with
      | some (v, rest) => pure (some v, rest)
      | none => throw (afterSign.dropWhile isGap)
    | rest => pure (none, rest)
  match takeLineEnd? rest with
  | some after => return (name.map (⟨·, value⟩), after)
  | none => throw rest

/-- The bindings of a text; the first argument bounds the number of lines. -/
def bindingsWithin : (lines : Nat) → List Char → List Binding
  | 0, _ => []
  | lines + 1, cs =>
    match cs.dropWhile Text.isBlank with
    | [] => []
    | cs => match takeBinding cs with
      | .ok (some b, rest) => b :: bindingsWithin lines rest
      | .ok (none, rest) => bindingsWithin lines rest
      | .error rest => bindingsWithin lines (skipLine rest)

/-- The text without a byte order mark at its start. -/
def dropMark : List Char → List Char
  | '\uFEFF' :: rest => rest
  | cs => cs

/-- The bindings of a text, in order; a text has no more lines than characters. -/
def bindings (cs : List Char) : List Binding := bindingsWithin (cs.length + 1) (dropMark cs)

/-! ## References -/

/-- A reference after a dollar sign and a brace: the name, the default after a colon and a hyphen,
and what follows the closing brace. -/
def takeReference? (cs : List Char) : Option (List Char × Option (List Char) × List Char) :=
  match Text.splitBefore (fun c => c = '\x7d' || c = ':') cs with
  | (name, '\x7d' :: rest) => some (name, none, rest)
  | (name, ':' :: '-' :: rest) => match Text.cutAt '\x7d' rest with
    | (default, some rest) => some (name, some default, rest)
    | _ => none
  | _ => none

/-- A piece of a value: a character that stands for itself, or a reference to a variable. -/
inductive Piece where
  | character (c : Char)
  | reference (name : List Char) (default : Option (List Char))
deriving DecidableEq, Repr

/-- The pieces of a text; the first argument bounds their number. -/
def piecesWithin : (size : Nat) → List Char → List Piece
  | 0, _ => []
  | _, [] => []
  | size + 1, '$' :: '\x7b' :: cs => match takeReference? cs with
    | some (name, default, rest) => .reference name default :: piecesWithin size rest
    | none => .character '$' :: piecesWithin size ('\x7b' :: cs)
  | size + 1, c :: cs => .character c :: piecesWithin size cs

/-- The pieces of a text, of which there are no more than characters. -/
def pieces (cs : List Char) : List Piece := piecesWithin cs.length cs

/-- What a piece stands for; a name that is not known stands for its default. -/
def Piece.text (lookup : List Char → Option (List Char)) : Piece → List Char
  | .character c => [c]
  | .reference name default => (lookup name).getD (default.getD [])

/-- The value of a text with its references replaced. -/
def expand (lookup : List Char → Option (List Char)) (cs : List Char) : List Char :=
  (pieces cs).flatMap (·.text lookup)

/-- The name that a piece refers to. -/
def Piece.name? : Piece → Option (List Char)
  | .character _ => none
  | .reference name _ => some name

/-- The variable that says whether files are left aside. -/
def disablingName : String := "PYTHON_DOTENV_DISABLED"

/-- The names of the variables that the text of a file depends on or binds. -/
def names (text : String) : List String :=
  disablingName :: ((bindings text.toList).flatMap fun b =>
    b.name :: (pieces (b.value.getD [])).filterMap Piece.name?).map String.ofList

/-! ## The environment -/

/-- The variables of a file so far; a variable may be known without a value. -/
abbrev Variables := List (String × Option String)

/-- Sets a variable: a known one keeps its place. -/
def put (vars : Variables) (name : String) (value : Option String) : Variables :=
  match vars with
  | [] => [(name, value)]
  | (n, v) :: rest => if n = name then (n, value) :: rest else (n, v) :: put rest name value

/-- The value behind a name in a reference: the environment comes first, then the file so far.  A
variable without a value is empty. -/
def resolve (env : Environment) (vars : Variables) (name : List Char) : Option (List Char) :=
  match env.lookup (String.ofList name) with
  | some v => some v.toList
  | none => (vars.lookup (String.ofList name)).map fun v => (v.getD "").toList

/-- The variables of bindings. -/
def variablesFrom (env : Environment) (vars : Variables) : List Binding → Variables
  | [] => vars
  | b :: rest =>
    let value := b.value.map fun cs => String.ofList (expand (resolve env vars) cs)
    variablesFrom env (put vars (String.ofList b.name) value) rest

/-- A variable can be set: its name has no equals sign, and neither name nor value holds the null
character. -/
def isSettable (name value : String) : Bool :=
  !name.toList.contains '=' && !name.toList.contains '\x00' && !value.toList.contains '\x00'

/-- The environment with the variables of a file that it does not have yet.  A variable that cannot
be set makes the whole file unusable. -/
def extend? (env : Environment) : Variables → Option Environment
  | [] => some env
  | (name, some value) :: rest =>
    if (env.lookup name).isSome then extend? env rest
    else if isSettable name value then extend? (env ++ [(name, value)]) rest
    else none
  | (_, none) :: rest => extend? env rest

/-- Files are left aside: the variable for that agrees, in any case. -/
def isDisabled (env : Environment) : Bool :=
  match env.lookup disablingName with
  | some v => ["1", "TRUE", "T", "YES", "Y"].contains (String.ofList (Text.upper v.toList))
  | none => false

/-- The environment with the variables in the text of a file. -/
def load? (env : Environment) (text : String) : Option Environment :=
  if isDisabled env then some env
  else extend? env (variablesFrom env [] (bindings text.toList))

end Winnow.EnvFile
