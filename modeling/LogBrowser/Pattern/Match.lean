import LogBrowser.Pattern.Parse
import LogBrowser.Pattern.Footprint

/-!
# Matching patterns

A pattern is compiled into a program of instructions: consume a character or a character of a
set, test an assertion, split into two threads, jump, or accept. Repetitions are unrolled, with a
loop for an unbounded tail. A search runs every thread at once over the text, starting a fresh
thread at every position, so a pattern matches somewhere exactly when some thread reaches
`accept`; the closure of a position marks each instruction once, so the run is bounded by the
length of the text times the size of the program.

A pattern is refused when the automata it compiles to would exceed the size limit, as
`LogBrowser.Pattern.Footprint` counts them.
-/

namespace LogBrowser.Pattern

/-- An instruction of a compiled pattern. -/
inductive Instr where
  | char (c : Char) (next : Nat)
  | set (t : CharTable) (next : Nat)
  | look (a : Assertion) (next : Nat)
  | split (a b : Nat)
  | jump (a : Nat)
  | accept
  deriving Inhabited

/-- Appends an instruction and returns its position. -/
def emit (i : Instr) : StateM (Array Instr) Nat :=
  modifyGet fun prog => (prog.size, prog.push i)

/-- Emits `count` copies of a program part, one after another, ending at `next`. -/
def emitCopies (part : Nat → StateM (Array Instr) Nat) : Nat → Nat → StateM (Array Instr) Nat
  | 0, next => pure next
  | k + 1, next => do
    let after ← emitCopies part k next
    part after

/-- Emits `count` optional copies: each copy may be skipped, ending the repetition. -/
def emitOptional (part : Nat → StateM (Array Instr) Nat) (exit : Nat) :
    Nat → Nat → StateM (Array Instr) Nat
  | 0, next => pure next
  | k + 1, next => do
    let after ← emitOptional part exit k next
    let body ← part after
    emit (.split body exit)

/-- Emits splits that try the entries in order; no entry continues at `next`. -/
def chainSplits : List Nat → Nat → StateM (Array Instr) Nat
  | [], next => pure next
  | [e], _ => pure e
  | e :: es, next => do
    let rest ← chainSplits es next
    emit (.split e rest)

mutual

/-- Compiles a pattern that continues at `next`; returns its entry. -/
def compileNode : Node → Nat → StateM (Array Instr) Nat
  | .empty, next => pure next
  | .literal c, next => emit (.char c next)
  | .set s, next => emit (.set s.toTable next)
  | .look a, next => emit (.look a next)
  | .capture n, next => compileNode n next
  | .concat ns, next => compileSeq ns next
  | .alt ns, next => do
    let entries ← compileAlts ns next
    chainSplits entries next
  | .repeat n lo none, next => do
    let loop ← emit (.jump 0)
    let body ← compileNode n loop
    modify fun prog => prog.setIfInBounds loop (.split body next)
    emitCopies (compileNode n) lo loop
  | .repeat n lo (some hi), next => do
    let tail ← emitOptional (compileNode n) next (hi - lo) next
    emitCopies (compileNode n) lo tail

/-- Compiles patterns one after another. -/
def compileSeq : List Node → Nat → StateM (Array Instr) Nat
  | [], next => pure next
  | n :: ns, next => do
    let after ← compileSeq ns next
    compileNode n after

/-- Compiles alternatives that all continue at `next`; returns their entries. -/
def compileAlts : List Node → Nat → StateM (Array Instr) (List Nat)
  | [], _ => pure []
  | n :: ns, next => do
    let e ← compileNode n next
    let es ← compileAlts ns next
    return e :: es

end

/-- A compiled pattern: its source text, its program and the program's entry. -/
structure Regex where
  source : String
  program : Array Instr
  start : Nat

/-- Compiles a pattern, or gives why it is refused. -/
def Regex.compile? (s : String) : Except PatternError Regex := do
  let n ← readPattern s
  if !(Shape.ofNode n).fits then throw .sizeLimitExceeded
  let (start, prog) := ((do
    let acc ← emit .accept
    compileNode n acc) : StateM (Array Instr) Nat).run #[]
  return { source := s, program := prog, start := start }

/-- The table of Unicode word characters. -/
def unicodeWordTable : CharTable := unicodeWord.toTable

/-- Whether a character is a word character, in Unicode or in ASCII. -/
def isWordChar (unicode : Bool) : Option Char → Bool
  | none => false
  | some c => if unicode then unicodeWordTable.contains c else asciiWord.containsNat c.toNat

/-- Whether an assertion holds between the characters `prev` and `next`. -/
def Assertion.holds (prev next : Option Char) : Assertion → Bool
  | .textStart => prev.isNone
  | .textEnd => next.isNone
  | .lineStart false => prev.isNone || prev = some '\n'
  | .lineEnd false => next.isNone || next = some '\n'
  | .lineStart true => prev.isNone || prev = some '\n' || (prev = some '\r' && next ≠ some '\n')
  | .lineEnd true => next.isNone || next = some '\r' || (next = some '\n' && prev ≠ some '\r')
  | .wordBoundary u => isWordChar u prev != isWordChar u next
  | .notWordBoundary u => isWordChar u prev == isWordChar u next
  | .wordStart u => !isWordChar u prev && isWordChar u next
  | .wordEnd u => isWordChar u prev && !isWordChar u next
  | .wordStartHalf u => !isWordChar u prev
  | .wordEndHalf u => !isWordChar u next

/-- Follows splits, jumps and assertions from the pending positions, marking each instruction
once; collects the instructions that consume or accept. -/
def closure (prog : Array Instr) (prev next : Option Char) :
    Nat → List Nat → Array Bool → Array Nat → Array Bool × Array Nat
  | 0, _, seen, out => (seen, out)
  | _, [], seen, out => (seen, out)
  | fuel + 1, pc :: stack, seen, out =>
    if seen[pc]?.getD true then closure prog prev next fuel stack seen out
    else
      let seen := seen.setIfInBounds pc true
      match prog[pc]? with
      | some (.split a b) => closure prog prev next fuel (a :: b :: stack) seen out
      | some (.jump a) => closure prog prev next fuel (a :: stack) seen out
      | some (.look a n) =>
        if a.holds prev next then closure prog prev next fuel (n :: stack) seen out
        else closure prog prev next fuel stack seen out
      | some _ => closure prog prev next fuel stack seen (out.push pc)
      | none => closure prog prev next fuel stack seen out

/-- The positions a set of threads reaches by consuming the character `c`. -/
def advanceThreads (prog : Array Instr) (c : Char) (threads : Array Nat) : List Nat :=
  threads.toList.filterMap fun pc =>
    match (prog[pc]? : Option Instr) with
    | some (.char d n) => if c = d then some n else none
    | some (.set t n) => if t.contains c then some n else none
    | _ => none

/-- Runs the threads over the rest of the text; `prev` is the character before it. -/
def search (prog : Array Instr) (start : Nat) : Option Char → List Nat → List Char → Bool
  | prev, pending, rest =>
    let fuel := 3 * prog.size + 3
    let (_, threads) := closure prog prev rest.head? fuel (pending ++ [start])
      (Array.replicate prog.size false) #[]
    if threads.any (fun pc => match (prog[pc]? : Option Instr) with | some .accept => true | _ => false) then true
    else match rest with
      | [] => false
      | c :: cs => search prog start (some c) (advanceThreads prog c threads) cs

/-- Whether the pattern matches somewhere in the text. -/
def Regex.isMatch (r : Regex) (text : String) : Bool :=
  search r.program r.start none [] text.toList

end LogBrowser.Pattern
