import SchemaScript.Toml.Scalar

/-! Reading TOML text.

Text is read line by line; what a line adds to the document is the document's affair
(`Document.append`). A carriage return counts only before a line feed, and no other control
character but the tab may stand anywhere. -/
namespace SchemaScript.Toml

/-! ### Blanks and comments -/

def isSpace (c : Char) : Bool := c = ' ' || c = '\t'

def skipSpace (cs : List Char) : List Char := cs.dropWhile isSpace

/-- Characters that comments and text may hold. -/
def isPlain (c : Char) : Bool := c = '\t' || (decide (0x20 ≤ c.toNat) && c.toNat != 0x7f)

/-- What follows the end of a line, after an optional comment. The text may end there, too. -/
def afterLine (cs : List Char) : Option (List Char) :=
  let rest :=
    match skipSpace cs with
    | '#' :: rest => rest.dropWhile isPlain
    | rest => rest
  match rest with
  | [] => some []
  | '\n' :: rest => some rest
  | '\r' :: '\n' :: rest => some rest
  | _ => none

/-- What follows blanks, line ends and comments inside an array. -/
def skipLayout (inComment : Bool) : List Char → Option (List Char)
  | [] => some []
  | '\n' :: rest => skipLayout false rest
  | '\r' :: '\n' :: rest => skipLayout false rest
  | c :: rest =>
    if inComment then if isPlain c then skipLayout true rest else none
    else if c = '#' then skipLayout true rest
    else if isSpace c then skipLayout false rest
    else some (c :: rest)

/-! ### Text -/

def simpleEscape? (c : Char) : Option Char :=
  if c = '\x22' || c = '\\' then some c
  else if c = 'b' then some '\x08'
  else if c = 't' then some '\t'
  else if c = 'n' then some '\n'
  else if c = 'f' then some '\x0c'
  else if c = 'r' then some '\r'
  else none

/-- The character with a number written in digits of base sixteen. -/
def charOf? (ds : List Char) : Option Char :=
  (Text.hexCode? ds).bind fun n => if n.isValidChar then some (Char.ofNat n) else none

/-- Text in double quotes on one line, from after the opening quote; `done` is what has been read,
last first. -/
def readBasic (done : List Char) : List Char → Option (String × List Char)
  | [] => none
  | '\x22' :: rest => some (String.ofList done.reverse, rest)
  | '\\' :: 'u' :: a :: b :: c :: d :: rest => do
    let x ← charOf? [a, b, c, d]
    readBasic (x :: done) rest
  | '\\' :: 'U' :: a :: b :: c :: d :: e :: f :: g :: h :: rest => do
    let x ← charOf? [a, b, c, d, e, f, g, h]
    readBasic (x :: done) rest
  | '\\' :: c :: rest => do
    let x ← simpleEscape? c
    readBasic (x :: done) rest
  | c :: rest => if isPlain c then readBasic (c :: done) rest else none

/-- Text in single quotes on one line. -/
def readLiteral (cs : List Char) : Option (String × List Char) :=
  match cs.dropWhile fun c => isPlain c && c != '\x27' with
  | '\x27' :: rest => some (String.ofList (cs.takeWhile fun c => isPlain c && c != '\x27'), rest)
  | _ => none

/-- The end of a text over several lines: up to two of the closing quotes belong to the text. -/
def closeText (quote : Char) (done rest : List Char) : String × List Char :=
  let extra := ((rest.takeWhile (· == quote)).take 2).length
  (String.ofList (done.reverse ++ List.replicate extra quote), rest.drop extra)

/-- Where a reader stands after a backslash at the end of a line. -/
inductive Fold where
  | none
  /-- Only blanks may come before the end of the line. -/
  | due
  /-- Blanks and line ends are passed over. -/
  | on
  deriving DecidableEq

/-- Text in double quotes over several lines. -/
def readBasicLines (fold : Fold) (done : List Char) : List Char → Option (String × List Char)
  | [] => none
  | '\n' :: rest =>
    if fold = .none then readBasicLines .none ('\n' :: done) rest else readBasicLines .on done rest
  | '\r' :: '\n' :: rest =>
    if fold = .none then readBasicLines .none ('\n' :: '\r' :: done) rest
    else readBasicLines .on done rest
  | '\x22' :: '\x22' :: '\x22' :: rest =>
    if fold = .due then none else some (closeText '\x22' done rest)
  | '\\' :: 'u' :: a :: b :: c :: d :: rest =>
    if fold = .due then none
    else do
      let x ← charOf? [a, b, c, d]
      readBasicLines .none (x :: done) rest
  | '\\' :: 'U' :: a :: b :: c :: d :: e :: f :: g :: h :: rest =>
    if fold = .due then none
    else do
      let x ← charOf? [a, b, c, d, e, f, g, h]
      readBasicLines .none (x :: done) rest
  | '\\' :: c :: rest =>
    if fold = .due then none
    else if c = '\n' then readBasicLines .on done rest
    else if c = '\r' then if rest.head? = some '\n' then readBasicLines .on done rest else none
    else if isSpace c then readBasicLines .due done rest
    else do
      let x ← simpleEscape? c
      readBasicLines .none (x :: done) rest
  | c :: rest =>
    if fold ≠ .none && isSpace c then readBasicLines fold done rest
    else if fold = .due || !isPlain c then none
    else readBasicLines .none (c :: done) rest

/-- Text in single quotes over several lines. -/
def readLiteralLines (done : List Char) : List Char → Option (String × List Char)
  | [] => none
  | '\n' :: rest => readLiteralLines ('\n' :: done) rest
  | '\r' :: '\n' :: rest => readLiteralLines ('\n' :: '\r' :: done) rest
  | '\x27' :: '\x27' :: '\x27' :: rest => some (closeText '\x27' done rest)
  | c :: rest => if isPlain c then readLiteralLines (c :: done) rest else none

/-- The line end right after the opening quotes is not part of the text. -/
def dropFirstLineEnd : List Char → List Char
  | '\n' :: rest => rest
  | '\r' :: '\n' :: rest => rest
  | cs => cs

/-- How deep arrays and tables in braces may be nested, and how many keys may stand in a row. -/
def maxDepth : Nat := 80

/-! ### Keys -/

def isKeyChar (c : Char) : Bool := c.isAlphanum || c = '_' || c = '-'

def readSimpleKey : List Char → Option (String × List Char)
  | '\x22' :: rest => readBasic [] rest
  | '\x27' :: rest => readLiteral rest
  | cs =>
    match cs.takeWhile isKeyChar with
    | [] => none
    | key => some (String.ofList key, cs.dropWhile isKeyChar)

/-- Keys with dots between them, with room for so many; `done` holds those before, last first. The
last key stands apart in the result. -/
def readKeys : Nat → List String → List Char → Option (List String × String × List Char)
  | 0, _, _ => none
  | room + 1, done, cs => do
    let (key, rest) ← readSimpleKey (skipSpace cs)
    match skipSpace rest with
    | '.' :: rest => readKeys room (key :: done) rest
    | rest => pure (done.reverse, key, rest)

/-- A key of at most `maxDepth` simple ones: those that lead to it, and the last. -/
def readKey (cs : List Char) : Option (List String × String × List Char) :=
  readKeys maxDepth [] cs

/-! ### Values -/

def readWordNode (cs : List Char) : Option (Node × List Char) :=
  let (word, rest) := readWord cs
  (wordNode? word).map (·, rest)

def textNode (r : String × List Char) : Node × List Char := (.text r.1, r.2)

mutual

/-- A value, with room for `depth` more levels of nesting. -/
def readNode : Nat → Nat → List Char → Option (Node × List Char)
  | 0, _, _ => none
  | budget + 1, depth, cs =>
    match cs with
    | '\x22' :: '\x22' :: '\x22' :: rest =>
      (readBasicLines .none [] (dropFirstLineEnd rest)).map textNode
    | '\x22' :: rest => (readBasic [] rest).map textNode
    | '\x27' :: '\x27' :: '\x27' :: rest =>
      (readLiteralLines [] (dropFirstLineEnd rest)).map textNode
    | '\x27' :: rest => (readLiteral rest).map textNode
    | '[' :: rest => if depth = 0 then none else readItems budget (depth - 1) [] rest
    | '\x7b' :: rest =>
      if depth = 0 then none
      else match skipSpace rest with
        | '\x7d' :: rest => some (.table .inline [], rest)
        | rest => readPairs budget (depth - 1) [] rest
    | cs => readWordNode cs

/-- The items up to the closing bracket; the last may have a comma after it. -/
def readItems : Nat → Nat → List Node → List Char → Option (Node × List Char)
  | 0, _, _, _ => none
  | budget + 1, depth, done, cs => do
    match ← skipLayout false cs with
    | ']' :: rest => pure (.array done.reverse, rest)
    | cs =>
      let (n, rest) ← readNode budget depth cs
      match ← skipLayout false rest with
      | ',' :: rest => readItems budget depth (n :: done) rest
      | ']' :: rest => pure (.array (n :: done).reverse, rest)
      | _ => none

/-- The pairs up to the closing brace, all on one line and without a comma after the last. -/
def readPairs : Nat → Nat → Entries → List Char → Option (Node × List Char)
  | 0, _, _, _ => none
  | budget + 1, depth, done, cs => do
    let (path, key, rest) ← readKey cs
    match rest with
    | '=' :: rest =>
      let (n, rest) ← readNode budget depth (skipSpace rest)
      let done ← done.assign path key n .header
      match skipSpace rest with
      | ',' :: rest => readPairs budget depth done rest
      | '\x7d' :: rest => pure (.table .inline done, rest)
      | _ => none
    | _ => none

end

/-! ### Documents -/

/-- Enough calls to read anything from so many characters. -/
def budgetFor (cs : List Char) : Nat := 2 * cs.length + 2

/-- One line, and what follows it. -/
def readLine (cs : List Char) : Option (Line × List Char) := do
  match skipSpace cs with
  | '[' :: '[' :: rest =>
    let (path, key, rest) ← readKey rest
    match rest with
    | ']' :: ']' :: rest => (afterLine rest).map (Line.next path key, ·)
    | _ => none
  | '[' :: rest =>
    let (path, key, rest) ← readKey rest
    match rest with
    | ']' :: rest => (afterLine rest).map (Line.table path key, ·)
    | _ => none
  | rest =>
    match afterLine rest with
    | some rest => pure (.blank, rest)
    | none =>
      let (path, key, rest) ← readKey rest
      match rest with
      | '=' :: rest =>
        let (n, rest) ← readNode (budgetFor cs) maxDepth (skipSpace rest)
        (afterLine rest).map (Line.pair path key n, ·)
      | _ => none

def readLines : Nat → Document → List Char → Option Document
  | 0, _, _ => none
  | _ + 1, d, [] => some d
  | budget + 1, d, cs => do
    let (line, rest) ← readLine cs
    let d ← d.append line
    readLines budget d rest

/-- A byte order mark in front of the text is no part of it. -/
def dropMark : List Char → List Char
  | '\ufeff' :: cs => cs
  | cs => cs

/-- The document that a text is. -/
def Document.read? (text : String) : Option Document :=
  let cs := dropMark text.toList
  readLines (budgetFor cs) {} cs

end SchemaScript.Toml
