import LogBrowser.Toml.Scan

/-!
# Reading TOML documents

A document is read line by line into a tree of tables, following the rules that decide when a
table may be defined:

* a key may be set once per table;
* a dotted key makes (or extends) tables marked `dotted`; a header `[a.b]` makes the missing
  parents of `b` as `implicit` tables;
* a header may define a table that so far was only implicit, but not one defined by a header or
  by dotted keys, nor a key that holds a value;
* `[[a]]` appends a table to the array of tables `a`;
* dotted keys cannot reach into a value, an inline table included.

The table under the latest header is kept apart while its lines are read and put into the
document at the next header (`finish`); the header's table is looked up (and taken out, when
implicit) as soon as the header is read, so a redefinition is reported at its header.
-/

namespace LogBrowser.Toml

/-- The deepest nesting of arrays and inline tables. -/
def nestingLimit : Nat := 80

/-- A key set twice, without naming the table. -/
def duplicateKey (k : String) : String := "duplicate key `" ++ k ++ "`"

/-- A key set twice in the table at `path`. -/
def duplicateKeyIn (k : String) (path : List String) : String :=
  if path.isEmpty then duplicateKey k ++ " in document root"
  else duplicateKey k ++ " in table `" ++ ".".intercalate path ++ "`"

/-- A dotted key that reaches into a value; `i` is the index of the part naming the value. -/
def extendsNonTable (path : List String) (i : Nat) (kind : String) : String :=
  "dotted key `" ++ ".".intercalate (path.take (i + 1)) ++
    "` attempted to extend non-table type (" ++ kind ++ ")"

/-- The failure a value starting with a letter gets when it is not the expected word. -/
def notAString : Failure :=
  (Failure.soft.within "string").expecting [charItem '"', charItem '\'']

/-- Reads a fixed word. -/
def readWord (w : List Char) (v : Value) (cs : List Char) : Except Failure (Value × List Char) :=
  if w.isPrefixOf cs then .ok (v, cs.drop w.length) else .error notAString

/-- Reads a number or date-time: a date-time, else a float, else an integer. -/
def readNumeric (cs : List Char) : Except Failure (Value × List Char) :=
  match readDateTime cs with
  | .ok ((), r) => .ok (.datetime (String.ofList (cs.take (cs.length - r.length))), r)
  | .error f =>
    if f.cut then .error f
    else match readFloat cs with
      | .ok (x, r) => .ok (.float x, r)
      | .error f =>
        if f.cut then .error f
        else match readInteger cs with
          | .ok (n, r) => .ok (.integer n, r)
          | .error f => .error f

/-- Puts a value at a dotted path of an inline table: `key` under the tables named by `path`,
made (as dotted tables) where missing. `dotted` is the mark of the table reached so far. -/
def insertInline (path : List String) (key : String) (v : Value) :
    Nat → List String → Bool → List (String × Value) → Except String (List (String × Value))
  | _, [], dotted, es =>
    if dotted == path.isEmpty then .error (duplicateKey key)
    else if (lookup key es).isSome then .error (duplicateKey key)
    else .ok (es ++ [(key, v)])
  | i, k :: ks, _, es =>
    match lookup k es with
    | none => do
      let sub ← insertInline path key v (i + 1) ks true []
      pure (es ++ [(k, .inline true sub)])
    | some (.inline d sub) => do
      let sub ← insertInline path key v (i + 1) ks d sub
      pure (replaceKey k (.inline d sub) es)
    | some other => .error (extendsNonTable path i other.typeName)

/-- Builds an inline table from its key paths and values, in order. -/
def inlineOf (pairs : List (List String × Value)) : Except String (List (String × Value)) :=
  pairs.foldlM (fun es (keys, v) =>
    insertInline keys.dropLast (keys.getLast?.getD "") v 0 keys.dropLast false es) []

mutual

/-- Reads a value; `depth` counts the arrays and inline tables around it. -/
def readValue : Nat → Nat → List Char → Except Failure (Value × List Char)
  | 0, _, _ => .error Failure.hard
  | fuel + 1, depth, cs =>
    match cs with
    | '"' :: _ | '\'' :: _ => (readString cs).map fun (s, r) => (.string s, r)
    | '[' :: rest =>
      if nestingLimit ≤ depth + 1 then .error (Failure.hard.because "recursion limit exceeded")
      else readArray fuel (depth + 1) rest
    | '{' :: rest =>
      if nestingLimit ≤ depth + 1 then .error (Failure.hard.because "recursion limit exceeded")
      else readInline fuel (depth + 1) rest
    | c :: _ =>
      if c = '+' || c = '-' || c.isDigit then readNumeric cs
      else if c = '_' then
        match readDecInt cs with
        | .ok (ds, r) => .ok (.integer (decimalValue ds), r)
        | .error f => .error (f.expecting ["leading digit"])
      else if c = '.' then
        match readFloat cs with
        | .ok (x, r) => .ok (.float x, r)
        | .error f => .error (f.expecting ["leading digit"])
      else if c = 't' then readWord ['t', 'r', 'u', 'e'] (.boolean true) cs
      else if c = 'f' then readWord ['f', 'a', 'l', 's', 'e'] (.boolean false) cs
      else if c = 'i' then readWord ['i', 'n', 'f'] (.float (.infinite false)) cs
      else if c = 'n' then readWord ['n', 'a', 'n'] (.float .nan) cs
      else .error notAString
    | [] => .error Failure.soft

/-- Reads one item of an array with the blank space, line ends and comments around it. -/
def readArrayItem : Nat → Nat → List Char → Except Failure (Value × List Char)
  | 0, _, _ => .error Failure.hard
  | fuel + 1, depth, cs =>
    match skipWsCommentNewline cs with
    | none => .error Failure.soft
    | some r =>
      match readValue fuel depth r with
      | .error f => .error f
      | .ok (v, r') =>
        match skipWsCommentNewline r' with
        | none => .error Failure.soft
        | some r'' => .ok (v, r'')

/-- Reads the items of an array after a first one, each after a comma. -/
def readMoreItems : Nat → Nat → List Char → Except Failure ((List Value) × List Char)
  | 0, _, cs => .ok ([], cs)
  | fuel + 1, depth, cs =>
    match cs with
    | ',' :: rest =>
      match readArrayItem fuel depth rest with
      | .ok (v, r) =>
        match readMoreItems fuel depth r with
        | .ok (vs, r') => .ok (v :: vs, r')
        | .error f => .error f
      | .error f => if f.cut then .error f else .ok ([], cs)
    | _ => .ok ([], cs)

/-- Reads an array after its opening bracket. A trailing comma is allowed after an item. -/
def readArray : Nat → Nat → List Char → Except Failure (Value × List Char)
  | 0, _, _ => .error Failure.hard
  | fuel + 1, depth, cs => do
    let (items, rest) ← match readArrayItem fuel depth cs with
      | .error f => if f.cut then Except.error f else pure ([], cs)
      | .ok (v, r) => do
        let (vs, r') ← readMoreItems fuel depth r
        let r' := match r' with
          | ',' :: r'' => r''
          | _ => r'
        pure (v :: vs, r')
    match skipWsCommentNewline rest with
    | none => throw Failure.hard
    | some (']' :: r) => pure (.array items, r)
    | some _ => throw ((Failure.hard.within "array").expecting [charItem ']'])

/-- Reads `key = value` inside an inline table; a missing key is a soft failure. -/
def readInlinePair : Nat → Nat → List Char → Except Failure ((List String × Value) × List Char)
  | 0, _, _ => .error Failure.hard
  | fuel + 1, depth, cs => do
    let (keys, r) ← readKey cs
    match r with
    | '=' :: r =>
      match readValue fuel depth (skipWs r) with
      | .ok (v, r') => pure ((keys, v), skipWs r')
      | .error f => throw f.commit
    | _ => throw (Failure.hard.expecting [charItem '.', charItem '='])

/-- Reads the pairs of an inline table after a first one, each after a comma. -/
def readMorePairs : Nat → Nat → List Char → Except Failure ((List (List String × Value)) × List Char)
  | 0, _, cs => .ok ([], cs)
  | fuel + 1, depth, cs =>
    match cs with
    | ',' :: rest =>
      match readInlinePair fuel depth rest with
      | .ok (p, r) =>
        match readMorePairs fuel depth r with
        | .ok (ps, r') => .ok (p :: ps, r')
        | .error f => .error f
      | .error f => if f.cut then .error f else .ok ([], cs)
    | _ => .ok ([], cs)

/-- Reads an inline table after its opening brace. -/
def readInline : Nat → Nat → List Char → Except Failure (Value × List Char)
  | 0, _, _ => .error Failure.hard
  | fuel + 1, depth, cs => do
    let (pairs, rest) ← match readInlinePair fuel depth cs with
      | .error f => if f.cut then Except.error f else pure ([], cs)
      | .ok (p, r) => do
        let (ps, r') ← readMorePairs fuel depth r
        pure (p :: ps, r')
    let entries ← match inlineOf pairs with
      | .ok es => pure es
      | .error msg => throw (Failure.hard.because msg)
    match skipWs rest with
    | '}' :: r => pure (.inline false entries, r)
    | _ => throw ((Failure.hard.within "inline table").expecting [charItem '}'])

end

/-- Changes the table at `path` below a table, making missing tables on the way (marked
`implicit`, and `dotted` as given). `f` gets the `dotted` mark and the entries of the table it
changes. The table reached through an array of tables is its last table. `full` and `i` name the
path for messages. -/
def modifyAt (full : List String) (dotted : Bool) (f : Bool → Entries → Except String (Entries × α)) :
    Nat → List String → Bool → Entries → Except String (Entries × α)
  | _, [], mark, es => f mark es
  | i, k :: ks, _, es =>
    match lookup k es with
    | none => do
      let (sub, a) ← modifyAt full dotted f (i + 1) ks dotted []
      pure (es ++ [(k, .table true dotted sub)], a)
    | some (.value v) => .error (extendsNonTable full i v.typeName)
    | some (.tables ts) => do
      let (t, a) ← modifyAt full dotted f (i + 1) ks false (ts.getLast?.getD [])
      pure (replaceKey k (.tables (ts.dropLast ++ [t])) es, a)
    | some (.table imp dot sub) => do
      let (sub, a) ← modifyAt full dotted f (i + 1) ks dot sub
      pure (replaceKey k (.table imp dot sub) es, a)

/-- A document being read: its finished tables, and the table under the latest header. -/
structure DocState where
  root : Entries := []
  current : Entries := []
  path : List String := []
  isArray : Bool := false

namespace DocState

/-- Sets a key (maybe dotted) in the current table. -/
def setKey (st : DocState) (keys : List String) (v : Value) : Except String DocState := do
  let parent := keys.dropLast
  let key := keys.getLast?.getD ""
  let (current, ()) ← modifyAt parent true (fun mark es =>
    if mark == parent.isEmpty then .error (duplicateKey key)
    else if (lookup key es).isSome then .error (duplicateKeyIn key st.path)
    else .ok (es ++ [(key, .value v)], ())) 0 parent false st.current
  pure { st with current := current }

/-- Puts the current table into the document. -/
def finish (st : DocState) : Except String DocState := do
  if st.path.isEmpty then return { st with root := st.current, current := [] }
  let parent := st.path.dropLast
  let key := st.path.getLast?.getD ""
  let dup := duplicateKeyIn key parent
  let (root, ()) ← modifyAt parent false (fun _ es =>
    match lookup key es, st.isArray with
    | none, true => .ok (es ++ [(key, .tables [st.current])], ())
    | some (.tables ts), true => .ok (replaceKey key (.tables (ts ++ [st.current])) es, ())
    | none, false => .ok (es ++ [(key, .table false false st.current)], ())
    | some (.table true _ _), false => .ok (replaceKey key (.table false false st.current) es, ())
    | _, _ => .error dup) 0 parent false st.root
  pure { root := root, current := [], path := [], isArray := false }

/-- Starts the table of a header `[path]`, taking over an implicit table of that name. -/
def startTable (st : DocState) (path : List String) : Except String DocState := do
  let st ← st.finish
  let parent := path.dropLast
  let key := path.getLast?.getD ""
  let (root, taken) ← modifyAt parent false (fun _ es =>
    match lookup key es with
    | none => .ok (es, [])
    | some (.table true false sub) => .ok (removeKey key es, sub)
    | some _ => .error (duplicateKeyIn key parent)) 0 parent false st.root
  pure { root := root, current := taken, path := path, isArray := false }

/-- Starts a new table of a header `[[path]]`. -/
def startArrayTable (st : DocState) (path : List String) : Except String DocState := do
  let st ← st.finish
  let parent := path.dropLast
  let key := path.getLast?.getD ""
  let (root, ()) ← modifyAt parent false (fun _ es =>
    match lookup key es with
    | none => .ok (es ++ [(key, .tables [])], ())
    | some (.tables _) => .ok (es, ())
    | some _ => .error (duplicateKeyIn key parent)) 0 parent false st.root
  pure { root := root, current := [], path := path, isArray := true }

end DocState

/-- Reads `key = value` and what ends its line. -/
def readKeyValue (st : DocState) (cs : List Char) : Except Failure (DocState × List Char) := do
  let (keys, r) ← readKey cs
  match r with
  | '=' :: r =>
    let (v, r) ← match readValue r.length 0 (skipWs r) with
      | .ok x => pure x
      | .error f => throw f.commit
    match readLineTrailing r with
    | none => throw (Failure.hard.expecting [charItem '\n', charItem '#'])
    | some r =>
      match st.setKey keys v with
      | .ok st => pure (st, r)
      | .error msg => throw (Failure.hard.because msg)
  | _ => throw (Failure.hard.expecting [charItem '.', charItem '='])

/-- Reads a header `[key]` or `[[key]]` and what ends its line. -/
def readHeader (st : DocState) (cs : List Char) : Except Failure (DocState × List Char) :=
  let attempt : Except Failure (DocState × List Char) := do
    let (isArray, body) := match cs with
      | '[' :: '[' :: r => (true, r)
      | _ => (false, cs.drop 1)
    let (keys, r) ← readKey body
    let r ← match isArray, r with
      | true, ']' :: ']' :: r => pure r
      | false, ']' :: r => pure r
      | _, _ => throw (Failure.hard.expecting [charItem '.', charItem ']'])
    match readLineTrailing r with
    | none => throw (Failure.hard.expecting [charItem '\n', charItem '#'])
    | some r =>
      let started := if isArray then st.startArrayTable keys else st.startTable keys
      match started with
      | .ok st => pure (st, r)
      | .error msg => throw (Failure.hard.because msg)
  match attempt with
  | .ok v => .ok v
  | .error f => .error (f.commit.within "table header")

/-- Reads the lines of a document. -/
def readLines : Nat → DocState → List Char → Except Failure DocState
  | 0, st, _ => .ok st
  | fuel + 1, st, cs =>
    match skipWs cs with
    | [] => .ok st
    | '#' :: rest =>
      match readLineEnding (skipComment ('#' :: rest)) with
      | some r => readLines fuel st r
      | none => .error Failure.hard
    | '[' :: rest => do
      let (st, r) ← readHeader st ('[' :: rest)
      readLines fuel st r
    | '\n' :: r => readLines fuel st r
    | '\r' :: '\n' :: r => readLines fuel st r
    | '\r' :: _ => .error Failure.hard
    | r => do
      let (st, r) ← readKeyValue st r
      readLines fuel st r

/-- Reads a TOML document into the entries of its root table, or the message of the first
error. A byte order mark in front is skipped. -/
def readDocument (s : String) : Except String Entries :=
  let cs := match s.toList with
    | c :: rest => if c.toNat = 0xFEFF then rest else c :: rest
    | [] => []
  match readLines (cs.length + 1) {} cs with
  | .error f => .error f.message
  | .ok st =>
    match st.finish with
    | .ok st => .ok st.root
    | .error msg => .error msg

end LogBrowser.Toml
