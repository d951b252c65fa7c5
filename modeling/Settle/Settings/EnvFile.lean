import Settle.Ledger
import Settle.Text.Blank

/-!
# Environment files

An environment file binds names to texts, one binding a line. A value may be bare, in which
case a comment after a blank ends it, or in single or double quotation marks, in which case
it may go over several lines and hold escapes. A line that cannot be read is skipped. A name
without a value is bound to nothing. References of the form dollar, brace, name are replaced
by the value bound so far, or by their default. A byte-order mark at the front is no part of
the text.

The readers take their part off the front of the text and return the rest.
-/

namespace Settle.EnvFile

open Text

/-- Line ends of every kind become newlines. -/
def normalLines : List Char → List Char
  | '\r' :: '\n' :: rest => '\n' :: normalLines rest
  | '\r' :: rest => '\n' :: normalLines rest
  | c :: rest => c :: normalLines rest
  | [] => []

/-- Does the character end a line? -/
def isLineEnd (c : Char) : Bool := c == '\n' || c == '\r'

/-- Drop the rest of the line and its end. -/
def skipLine (cs : List Char) : List Char := (cs.dropWhile fun c => !isLineEnd c).drop 1

/-- Drop the word that marks a binding for export. -/
def skipExport (cs : List Char) : List Char :=
  match cs with
  | 'e' :: 'x' :: 'p' :: 'o' :: 'r' :: 't' :: c :: rest =>
    if isGap c then rest.dropWhile isGap else cs
  | _ => cs

/-! ### Quoted values -/

/-- The text between marks, whose opening one is already taken, with its escapes: a
backslash belongs to the character after it, whatever that is. Without a closing mark there
is no such text. -/
def takeQuoted? (mark : Char) : List Char → Option (List Char × List Char)
  | [] => none
  | '\\' :: c :: rest => (takeQuoted? mark rest).map fun r => ('\\' :: c :: r.1, r.2)
  | c :: rest =>
    if c = mark then some ([], rest) else (takeQuoted? mark rest).map fun r => (c :: r.1, r.2)

/-- What an escape in a value stands for; `full` allows the letters. -/
def escape? (full : Bool) (c : Char) : Option Char :=
  match c with
  | '\\' => some '\\'
  | '\'' => some '\''
  | '"' => if full then some '"' else none
  | 'a' => if full then some (Char.ofNat 7) else none
  | 'b' => if full then some (Char.ofNat 8) else none
  | 'f' => if full then some (Char.ofNat 12) else none
  | 'n' => if full then some '\n' else none
  | 'r' => if full then some '\r' else none
  | 't' => if full then some '\t' else none
  | 'v' => if full then some (Char.ofNat 11) else none
  | _ => none

/-- Replace the escapes of a value. -/
def unescape (full : Bool) : List Char → List Char
  | '\\' :: c :: rest =>
    match escape? full c with
    | some e => e :: unescape full rest
    | none => '\\' :: unescape full (c :: rest)
  | c :: rest => c :: unescape full rest
  | [] => []
termination_by cs => cs.length

/-! ### Bare values -/

/-- A bare value ends at a blank that a comment follows. -/
def beforeComment : List Char → List Char
  | [] => []
  | c :: rest =>
    if isBlank c && (rest.dropWhile isBlank).head? == some '#' then []
    else c :: beforeComment rest

/-- Take a bare value off. The blanks around it are no part of it, but the ones before it
may begin a comment. -/
def takeBare (cs : List Char) : List Char × List Char :=
  (trimBy isBlank (beforeComment (cs.takeWhile fun c => !isLineEnd c)),
   cs.dropWhile fun c => !isLineEnd c)

/-! ### Bindings -/

/-- Take a value off, after the equality sign. -/
def takeValue? (cs : List Char) : Option (List Char × List Char) :=
  match cs.dropWhile isGap with
  | '\'' :: rest => (takeQuoted? '\'' rest).map fun r => (unescape false r.1, r.2)
  | '"' :: rest => (takeQuoted? '"' rest).map fun r => (unescape true r.1, r.2)
  | _ => some (takeBare cs)

/-- Take a name off; a comment has none. -/
def takeName? (cs : List Char) : Option (Option (List Char) × List Char) :=
  match cs with
  | '#' :: _ => some (none, cs)
  | '\'' :: rest =>
    match rest.span (· != '\'') with
    | (name, '\'' :: rest) => if name.isEmpty then none else some (some name, rest)
    | _ => none
  | _ =>
    let p := fun c => c != '=' && c != '#' && !isBlank c
    let name := cs.takeWhile p
    if name.isEmpty then none else some (some name, cs.dropWhile p)

/-- Take the equality sign and the value off, if there is an equality sign. -/
def takeAssigned? (cs : List Char) : Option (Option (List Char) × List Char) :=
  match cs with
  | '=' :: rest => (takeValue? rest).map fun r => (some r.1, r.2)
  | _ => some (none, cs)

/-- Take a comment and the end of the line off; nothing else may stand there. -/
def takeEnd? (cs : List Char) : Option (List Char) :=
  let cs := cs.dropWhile isGap
  let cs := if cs.head? = some '#' then cs.dropWhile fun c => !isLineEnd c else cs
  match cs.dropWhile isGap with
  | [] => some []
  | c :: rest => if isLineEnd c then some rest else none

/-- A name with its value, if it has one. -/
abbrev Binding := String × Option String

/-- Take one binding off. A line that cannot be read is dropped from where the trouble
is. -/
def takeBinding (cs : List Char) : Option Binding × List Char :=
  let cs := skipExport cs
  match takeName? cs with
  | none => (none, skipLine cs)
  | some (name, rest) =>
    let rest := rest.dropWhile isGap
    match takeAssigned? rest with
    | none => (none, skipLine rest)
    | some (value, rest) =>
      match takeEnd? rest with
      | none => (none, skipLine rest)
      | some rest =>
        (name.map fun n => (String.ofList n, value.map String.ofList), rest)

/-- All bindings, with a budget of one for each. -/
def bindingsWithin : Nat → List Char → List Binding
  | 0, _ => []
  | budget + 1, cs =>
    match cs.dropWhile isBlank with
    | [] => []
    | cs =>
      match takeBinding cs with
      | (some b, rest) => b :: bindingsWithin budget rest
      | (none, rest) => bindingsWithin budget rest

/-- Drop a byte-order mark at the front. -/
def skipMark : List Char → List Char
  | c :: rest => if c.toNat = 65279 then rest else c :: rest
  | [] => []

/-- All bindings of a file, in order. -/
def bindings (text : String) : List Binding :=
  let cs := normalLines (skipMark text.toList)
  bindingsWithin (cs.length + 1) cs

/-! ### References -/

/-- Take a reference off, after its dollar sign and opening brace: its name and default. -/
def takeReference? (cs : List Char) : Option (List Char × List Char × List Char) :=
  let stop := fun c => c != '\x7d' && c != ':'
  let name := cs.takeWhile stop
  match cs.dropWhile stop with
  | '\x7d' :: rest => some (name, [], rest)
  | ':' :: '-' :: rest =>
    match rest.span (· != '\x7d') with
    | (default, '\x7d' :: rest) => some (name, default, rest)
    | _ => none
  | _ => none

/-- Replace the references of a value, with a budget of one for each character. -/
def expandWithin (lookup : String → Option String) : Nat → List Char → List Char
  | 0, cs => cs
  | _, [] => []
  | budget + 1, '$' :: '\x7b' :: rest =>
    match takeReference? rest with
    | some (name, default, rest) =>
      ((lookup (String.ofList name)).getD (String.ofList default)).toList
        ++ expandWithin lookup budget rest
    | none => '$' :: expandWithin lookup budget ('\x7b' :: rest)
  | budget + 1, c :: rest => c :: expandWithin lookup budget rest

/-- The values of a file with their references replaced. A name bound in the file goes
before one of the environment. -/
def resolve (environment : List (String × String)) :
    List Binding → Ledger String (Option String) → Ledger String (Option String)
  | [], bound => bound
  | (name, value) :: rest, bound =>
    let lookup := fun n =>
      match bound.get? n with
      | some v => some (v.getD "")
      | none => Ledger.get? environment n
    let value := value.map fun v =>
      String.ofList (expandWithin lookup v.length v.toList)
    resolve environment rest (bound.put name value)

/-- The names that a file binds, with their values. -/
def read (environment : List (String × String)) (text : String) :
    Ledger String (Option String) :=
  resolve environment (bindings text) []

end Settle.EnvFile
