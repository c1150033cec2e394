import RowScope.Toml.Scalar

/-!
# Settings files in lines

A file is a list of lines: `name = value`, a table header, or nothing; a comment
may end any of them.  Lines are read one after the other into a tree of tables,
which refuses to give one name twice and to reopen what is complete.

* `readLines?` reads the lines and `read?` the whole file.
* `Members.add`, `openTable` and `openList` are what one line does to the tree.
-/

namespace RowScope.Toml

/-! ## The tree -/

/-- How a table came about, which decides who may add to it. -/
inductive Origin
  /-- As part of the way to another table. -/
  | passing
  /-- By a header of its own. -/
  | header
  /-- By a dotted name. -/
  | dotted
deriving DecidableEq

/-- What a name stands for in the tree. -/
inductive Node
  | item (i : Item)
  | table (origin : Origin) (entries : List (String × Node))
  | tables (items : List (List (String × Node)))

/-- The contents of a table. -/
abbrev Members := List (String × Node)

namespace Members

/-- What a name stands for. -/
def get? (name : String) (es : Members) : Option Node := (es.find? fun e => e.1 = name).map Prod.snd

/-- Lets a name that is there stand for something else. -/
def replace (name : String) (n : Node) (es : Members) : Members :=
  es.map fun e => if e.1 = name then (name, n) else e

/-- Changes a list at its last element. -/
def changeLast (f : Members → Option Members) : List Members → Option (List Members)
  | [] => none
  | [t] => (f t).map fun t => [t]
  | t :: ts => (changeLast f ts).map fun ts => t :: ts

/-- Adds a value under a dotted name, unless the name is taken or leads through a
value or a table of a header.  On its way the name may pass through the last table
of a list, but it adds nothing to that table itself. -/
def add : List String → Item → Members → Option Members
  | [], _, _ => none
  | [name], i, es =>
    match get? name es with
    | some _ => none
    | none => some (es ++ [(name, .item i)])
  | name :: names, i, es =>
    match get? name es with
    | none => (add names i []).map fun sub => es ++ [(name, .table .dotted sub)]
    | some (.table origin sub) =>
      if origin = .header then none
      else (add names i sub).map fun sub => replace name (.table .dotted sub) es
    | some (.tables ts) =>
      if names.length ≤ 1 then none
      else (changeLast (add names i) ts).map fun ts => replace name (.tables ts) es
    | some (.item _) => none

/-- Changes the table that a way leads to; `last` is what happens at its last
name. -/
def along (last : String → Members → Option Members) : List String → Members → Option Members
  | [], _ => none
  | [name], es => last name es
  | name :: names, es =>
    match get? name es with
    | none => (along last names []).map fun sub => es ++ [(name, .table .passing sub)]
    | some (.table origin sub) =>
      (along last names sub).map fun sub => replace name (.table origin sub) es
    | some (.tables ts) =>
      (changeLast (along last names) ts).map fun ts => replace name (.tables ts) es
    | some (.item _) => none

/-- Opens the table of a header, which has none yet. -/
def openTable (name : String) (es : Members) : Option Members :=
  match get? name es with
  | none => some (es ++ [(name, .table .header [])])
  | some (.table .passing sub) => some (replace name (.table .header sub) es)
  | some _ => none

/-- Opens one more table in a list of tables. -/
def openList (name : String) (es : Members) : Option Members :=
  match get? name es with
  | none => some (es ++ [(name, .tables [[]])])
  | some (.tables ts) => some (replace name (.tables (ts ++ [[]])) es)
  | some _ => none

/-- Adds a value to the table that is open. -/
def addAt (path names : List String) (i : Item) (es : Members) : Option Members :=
  match path with
  | [] => add names i es
  | path => along (fun name es =>
      match get? name es with
      | some (.table origin sub) =>
        (add names i sub).map fun sub => replace name (.table origin sub) es
      | some (.tables ts) =>
        (changeLast (add names i) ts).map fun ts => replace name (.tables ts) es
      | _ => none) path es

end Members

/-- What a name of the outermost table gives. -/
def Node.toItem : Node → Item
  | .item i => i
  | .table .. => .table
  | .tables _ => .list

/-! ## Names and values -/

/-- Whether a character may stand in a name without quotes. -/
def isNameChar (c : Char) : Bool := c.isAlphanum || c = '_' || c = '-'

/-- Reads one part of a name. -/
def readPart? (cs : List Char) : Option (String × List Char) :=
  match cs with
  | [] => none
  | c :: _ =>
    if c = '"' ∨ c = '\'' then
      (readLineText? cs).map fun (name, rest) => (String.ofList name, rest)
    else
      match cs.takeWhile isNameChar with
      | [] => none
      | name => some (String.ofList name, cs.dropWhile isNameChar)

/-- Reads a name of at most so many parts with points between them. -/
def readParts? : Nat → List Char → Option (List String × List Char)
  | 0, _ => none
  | bound + 1, cs => do
    let (name, rest) ← readPart? (skipBlanks cs)
    match skipBlanks rest with
    | '.' :: rest =>
      let (names, rest) ← readParts? bound rest
      pure (name :: names, rest)
    | rest => pure ([name], rest)

/-- How many parts a name may have, and how many lists and tables may stand
inside each other. -/
def maxDepth : Nat := 80

/-- Reads a name. -/
def readNames? (cs : List Char) : Option (List String × List Char) := readParts? maxDepth cs

/-- Leaves out a comment, if there is one; a character that no comment may hold
stays. -/
def skipComment : List Char → List Char
  | '#' :: rest => rest.dropWhile isPlain
  | cs => cs

/-- Leaves out blanks, comments and line ends. -/
def skipSpace : Nat → List Char → List Char
  | 0, cs => cs
  | bound + 1, cs =>
    let cs := skipComment (skipBlanks cs)
    match newline? cs with
    | some rest => skipSpace bound rest
    | none => cs

mutual

/-- Reads a value with at most `depth` lists and tables inside each other. -/
def readValue? : Nat → Nat → List Char → Option (Item × List Char)
  | 0, _, _ => none
  | bound + 1, depth, cs =>
    match cs with
    | [] => none
    | '[' :: rest =>
      if depth = 0 then none
      else (readItems? bound (depth - 1) rest).map fun rest => (.list, rest)
    | '{' :: rest =>
      if depth = 0 then none
      else (readMembers? bound (depth - 1) [] rest).map fun rest => (.table, rest)
    | c :: rest =>
      if c = '"' ∨ c = '\'' then
        (readText? (c :: rest)).map fun (s, rest) => (.text (String.ofList s), rest)
      else
        let (word, rest) := splitWord (c :: rest)
        (wordItem? word).map fun i => (i, rest)

/-- Reads the rest of a list. -/
def readItems? : Nat → Nat → List Char → Option (List Char)
  | 0, _, _ => none
  | bound + 1, depth, cs =>
    match skipSpace cs.length cs with
    | ']' :: rest => some rest
    | cs =>
      match readValue? bound depth cs with
      | none => none
      | some (_, rest) =>
        match skipSpace rest.length rest with
        | ',' :: rest => readItems? bound depth rest
        | ']' :: rest => some rest
        | _ => none

/-- Reads the rest of a table between braces, given what stands in it so far.
Lines may end anywhere but inside a name. -/
def readMembers? : Nat → Nat → Members → List Char → Option (List Char)
  | 0, _, _, _ => none
  | bound + 1, depth, es, cs =>
    match skipSpace cs.length cs with
    | '}' :: rest => some rest
    | cs =>
      match readNames? cs with
      | none => none
      | some (names, rest) =>
        match skipSpace rest.length rest with
        | '=' :: rest =>
          match readValue? bound depth (skipSpace rest.length rest) with
          | none => none
          | some (i, rest) =>
            match Members.add names i es with
            | none => none
            | some es =>
              match skipSpace rest.length rest with
              | ',' :: rest => readMembers? bound depth es rest
              | '}' :: rest => some rest
              | _ => none
        | _ => none

end

/-! ## Lines -/

/-- What a line is. -/
inductive Line
  | entry (names : List String) (value : Item)
  | tableHeader (names : List String)
  | listHeader (names : List String)

/-- Reads a line that is not empty, up to its end or its comment. -/
def readLine? (bound : Nat) (cs : List Char) : Option (Line × List Char) :=
  match cs with
  | '[' :: '[' :: rest =>
    match readNames? rest with
    | some (names, ']' :: ']' :: rest) => some (.listHeader names, rest)
    | _ => none
  | '[' :: rest =>
    match readNames? rest with
    | some (names, ']' :: rest) => some (.tableHeader names, rest)
    | _ => none
  | cs =>
    match readNames? cs with
    | some (names, '=' :: rest) =>
      (readValue? bound maxDepth (skipBlanks rest)).map fun (i, rest) => (.entry names i, rest)
    | _ => none

/-- Reads all lines. -/
def readLines? : Nat → List Char → Option (List Line)
  | 0, _ => none
  | bound + 1, cs =>
    match skipSpace (cs.length + 1) cs with
    | [] => some []
    | cs =>
      match readLine? (2 * cs.length + 2) cs with
      | none => none
      | some (line, rest) =>
        match skipComment (skipBlanks rest) with
        | [] => some [line]
        | rest =>
          match newline? rest with
          | some rest => (readLines? bound rest).map fun lines => line :: lines
          | none => none

/-- What one line does to the tree and to the way to the open table. -/
def apply (tree : List String × Members) : Line → Option (List String × Members)
  | .entry names i => (Members.addAt tree.1 names i tree.2).map fun es => (tree.1, es)
  | .tableHeader names => (Members.along Members.openTable names tree.2).map fun es => (names, es)
  | .listHeader names => (Members.along Members.openList names tree.2).map fun es => (names, es)

/-- The names of the outermost table of a file and what they stand for. -/
def read? (s : String) : Option (List (String × Item)) := do
  let lines ← readLines? (s.length + 1) s.toList
  let tree ← lines.foldl (fun tree line => tree.bind fun t => apply t line) (some ([], []))
  pure (tree.2.map fun (name, n) => (name, n.toItem))

end RowScope.Toml
