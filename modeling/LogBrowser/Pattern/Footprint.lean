import Std.Data.HashMap
import LogBrowser.Pattern.Shape

/-!
# The room a compiled pattern takes

A pattern is compiled into two automata over bytes: one that reads forwards, with a pair of
states around every capture group and around the whole pattern, and one that reads backwards,
without them. The pattern is refused when either automaton takes more than `sizeLimit` bytes.
This module counts that room state by state, in the order the states are made.

* Every state takes 32 bytes. A state with several byte ranges takes 8 bytes more for each range,
  and a branching state 4 bytes more for each branch.
* A literal is one state per byte. A class of ASCII code points is an end state and one state
  holding all its ranges. Any other class is read as its UTF-8 byte sequences
  (`LogBrowser.Pattern.ByteSequences`): forwards, they go through a minimising compiler that
  shares equal states; backwards, each sequence is a chain of single-range states, chains that
  start alike sharing their start, under one branching state.
* Both sharings look states up in fixed tables of 10000 and 1000 buckets, hashed with FNV-1a from
  the state numbers; a bucket keeps the last state put in it, so which states are shared depends
  on the exact numbering, and the count follows it.
* An alternation of literals is compiled as a trie of their bytes, which keeps the order in which
  the alternatives are tried.
* Unless every match is anchored at the side where reading starts, the automaton begins with a
  loop over any byte.

Memory only grows while an automaton is built, so the pattern fits exactly when the final count
is within the limit; the count stops as soon as it is over, which bounds the work by the limit.
-/

namespace LogBrowser.Pattern

/-- The largest automaton, in bytes, that a pattern may compile to. -/
def sizeLimit : Nat := 10 * Nat.pow 2 20

/-- The bytes every state takes. -/
def stateBytes : Nat := 32

/-- The room taken so far: the number of states, and the bytes that their ranges and branches
hold beyond the states themselves. States are numbered in order, from zero. -/
structure Tally where
  states : Nat := 0
  held : Nat := 0
  deriving Repr, Inhabited

/-- The bytes of a tally. -/
def Tally.bytes (t : Tally) : Nat := stateBytes * t.states + t.held

/-- Building an automaton: a tally, and a stop once it is over the limit. -/
abbrev BuildM := StateT Tally (Except Unit)

/-- Adds a state holding `held` bytes beyond its own, and answers its number. -/
def addState (held : Nat) : BuildM Nat := fun t =>
  let t' : Tally := { states := t.states + 1, held := t.held + held }
  if sizeLimit < t'.bytes then .error () else .ok (t.states, t')

/-- Adds a branch to a branching state. -/
def addBranch : BuildM Unit := fun t =>
  let t' : Tally := { t with held := t.held + 4 }
  if sizeLimit < t'.bytes then .error () else .ok ((), t')

/-- Joins the last state of a part to what follows it: a branch more when that state branches.
Every compiled part answers whether its last state branches. -/
def joinExit (branching : Bool) : BuildM Unit :=
  if branching then addBranch else pure ()

/-- A part of one state that does not branch. -/
def plainState : BuildM Bool := do
  let _ ← addState 0
  return false

/-- FNV-1a over a list of numbers taken as 64-bit words. -/
def fnv (xs : List Nat) : UInt64 :=
  xs.foldl (fun h x => (h ^^^ x.toUInt64) * 1099511628211) 14695981039346656037

/-- A class of ASCII code points, or of none, with `n` ranges: an end state and one state holding
the ranges. -/
def asciiClass (n : Nat) : BuildM Bool := do
  let _ ← addState 0
  let _ ← addState (8 * n)
  return false

/-- A state of the minimising compiler not yet built: its byte ranges with their targets, and the
range whose target is still open. -/
structure OpenState where
  edges : Array (Nat × Nat × Nat) := #[]
  pending : Option ByteRange := none
  deriving Inhabited

/-- Closes the open range of a state towards `next`. -/
def OpenState.close (s : OpenState) (next : Nat) : OpenState :=
  match s.pending with
  | some (a, b) => { edges := s.edges.push (a, b, next), pending := none }
  | none => s

/-- The minimising compiler: the states not yet built along the last sequence (the first state
first), the states built so far by hash bucket, and the end state of the class. -/
structure Minimiser where
  stack : Array OpenState
  built : Std.HashMap Nat (Array (Nat × Nat × Nat) × Nat)
  target : Nat

/-- The number of buckets of the minimiser's table. -/
def builtBuckets : Nat := 10000

/-- The hash bucket of a state's edges. -/
def edgeBucket (edges : Array (Nat × Nat × Nat)) : Nat :=
  (fnv (edges.toList.flatMap fun (a, b, c) => [a, b, c])).toNat % builtBuckets

/-- Builds a state with the given edges, unless its bucket holds a state with the same edges. -/
def Minimiser.build (m : Minimiser) (edges : Array (Nat × Nat × Nat)) : BuildM (Nat × Minimiser) := do
  let key := edgeBucket edges
  match m.built[key]? with
  | some (e, id) =>
    if e == edges then return (id, m)
    else
      let id ← addState (8 * edges.size)
      return (id, { m with built := m.built.insert key (edges, id) })
  | none =>
    let id ← addState (8 * edges.size)
    return (id, { m with built := m.built.insert key (edges, id) })

/-- Builds the open states past the first `keep + 1`, the deepest first, each pointing at the
one built before, and closes the open range of the last state kept towards the last one built. -/
def Minimiser.buildFrom (keep : Nat) : Nat → Minimiser → Nat → BuildM Minimiser
  | 0, m, _ => pure m
  | fuel + 1, m, next =>
    if keep + 1 < m.stack.size then
      match m.stack.back? with
      | some top => do
        let (id, m') ← Minimiser.build { m with stack := m.stack.pop } (top.close next).edges
        Minimiser.buildFrom keep fuel m' id
      | none => pure m
    else pure { m with stack := m.stack.modify (m.stack.size - 1) (·.close next) }

/-- How many leading ranges of a sequence are the open ranges of the states along the last one. -/
def sharedStart : List ByteRange → List OpenState → Nat
  | r :: rs, s :: ss => if s.pending == some r then sharedStart rs ss + 1 else 0
  | _, _ => 0

/-- Adds a byte sequence, which comes after every sequence added before. -/
def Minimiser.add (m : Minimiser) (seq : List ByteRange) : BuildM Minimiser := do
  let keep := sharedStart seq m.stack.toList
  let m ← Minimiser.buildFrom keep (m.stack.size + 1) m m.target
  match seq.drop keep with
  | [] => pure m
  | r :: rs =>
    let stack := m.stack.modify (m.stack.size - 1) fun s => { s with pending := some r }
    pure { m with stack := rs.foldl (fun st r => st.push { pending := some r }) stack }

/-- Builds what is left open, the first state last. -/
def Minimiser.finish (m : Minimiser) : BuildM Unit := do
  let m ← Minimiser.buildFrom 0 (m.stack.size + 1) m m.target
  match m.stack[0]? with
  | some root =>
    let _ ← Minimiser.build m root.edges
    pure ()
  | none => pure ()

/-- The byte sequences of the code points of sorted ranges, in order. -/
def classSequences (rs : List (Nat × Nat)) : List (List ByteRange) :=
  rs.flatMap fun (a, b) => byteSequences a b

/-- A class read forwards: an end state, then the states of the minimising compiler. -/
def forwardClass (rs : List (Nat × Nat)) : BuildM Bool := do
  let target ← addState 0
  let m ← (classSequences rs).foldlM Minimiser.add { stack := #[{}], built := {}, target := target }
  m.finish
  return false

/-- The number of buckets of the table of shared chain starts. -/
def suffixBuckets : Nat := 1000

/-- The table of shared chain starts: by bucket, the state a range leads to and the range, and the
state of that range. -/
abbrev SuffixTable := Std.HashMap Nat ((Nat × Nat × Nat) × Nat)

/-- Adds the state for one range of a chain that leads to `next`, unless its bucket holds it. -/
def suffixStep (acc : Nat × SuffixTable) (r : ByteRange) : BuildM (Nat × SuffixTable) := do
  let (next, table) := acc
  let key := (next, r.1, r.2)
  let bucket := (fnv [next, r.1, r.2]).toNat % suffixBuckets
  match table[bucket]? with
  | some (k, id) =>
    if k == key then return (id, table)
    else
      let id ← addState 0
      return (id, table.insert bucket (key, id))
  | none =>
    let id ← addState 0
    return (id, table.insert bucket (key, id))

/-- A class read backwards: a branching state and an end state, then one chain per sequence, the
branching state gaining a branch for each. -/
def reverseClass (rs : List (Nat × Nat)) : BuildM Bool := do
  let _ ← addState 0
  let stop ← addState 0
  let _ ← (classSequences rs).foldlM (fun (table : SuffixTable) seq => do
    let (_, table) ← seq.foldlM suffixStep (stop, table)
    addBranch
    pure table) {}
  return false

/-- A class: ASCII classes (and the class of no code point) take one state for all their ranges;
others are read as byte sequences. -/
def classPart (rev : Bool) (rs : List (Nat × Nat)) : BuildM Bool :=
  if rs.all (·.2 ≤ 0x7F) then asciiClass rs.length
  else if rev then reverseClass rs
  else forwardClass rs

/-- A state of a trie of literals: its edges by byte to other states of the trie, and the bounds
of the runs of edges recorded before each literal that ends here. Edges after the last run form
the active run, which new edges join in byte order. -/
structure TrieState where
  edges : List (Nat × Nat) := []
  runs : Array (Nat × Nat) := #[]
  deriving Inhabited

/-- Where the active run of a trie state starts. -/
def TrieState.activeStart (s : TrieState) : Nat := (s.runs.back?.map (·.2)).getD 0

/-- Marks a literal ending at a trie state: the edges so far close a run, unless the state has no
edges and already ends a literal. -/
def TrieState.markEnd (s : TrieState) : TrieState :=
  if s.edges.isEmpty && !s.runs.isEmpty then s
  else { s with runs := s.runs.push (s.activeStart, s.edges.length) }

/-- Follows the edge for byte `b` from trie state `i` in its active run, adding a state and an
edge when there is none. -/
def trieStep (t : Array TrieState) (i b : Nat) : Array TrieState × Nat :=
  let s := t[i]?.getD {}
  let start := s.activeStart
  let active := s.edges.drop start
  match active.find? (·.1 == b) with
  | some (_, next) => (t, next)
  | none =>
    let pos := start + (active.filter (·.1 < b)).length
    let next := t.size
    let edges := s.edges.take pos ++ (b, next) :: s.edges.drop pos
    ((t.setIfInBounds i { s with edges := edges }).push {}, next)

/-- Adds a literal to a trie. -/
def trieAdd (t : Array TrieState) (bs : List Nat) : Array TrieState :=
  let (t, last) := bs.foldl (fun (t, i) b => trieStep t i b) (t, 0)
  t.setIfInBounds last ((t[last]?.getD {}).markEnd)

/-- The runs of a trie state: the recorded ones, then the active one. -/
def TrieState.runEdges (s : TrieState) : List (List (Nat × Nat)) :=
  s.runs.toList.map (fun (a, b) => (s.edges.drop a).take (b - a)) ++ [s.edges.drop s.activeStart]

/-- Builds the states of one run of a trie state: the states below it, then one state holding
the run's edges (none for an empty run); answers whether that state was made. -/
def trieRun (t : Array TrieState) (below : Nat → BuildM Unit) (run : List (Nat × Nat)) :
    BuildM Bool := do
  for (_, child) in run do
    if !(t[child]?.getD {}).edges.isEmpty then below child
  if run.isEmpty then return false
  let _ ← addState (if run.length = 1 then 0 else 8 * run.length)
  return true

/-- Builds a trie state and the states below it: for each run, the states below and a state for
the run, then a branching state with a branch for each run state and for each literal ending
between runs. -/
def trieBuild (t : Array TrieState) : Nat → Nat → BuildM Unit
  | 0, _ => pure ()
  | fuel + 1, i => do
    let runs := (t[i]?.getD {}).runEdges
    let mut branches := runs.length - 1
    for run in runs do
      if (← trieRun t (trieBuild t fuel) run) then branches := branches + 1
    let _ ← addState (4 * branches)

/-- An alternation of literals, compiled as a trie of their bytes (read backwards for the
automaton that reads backwards): an end state, then the trie's states. -/
def literalTrie (rev : Bool) (lits : List (List Nat)) : BuildM Bool := do
  let t := lits.foldl (fun t bs => trieAdd t (if rev then bs.reverse else bs)) #[{}]
  let _ ← addState 0
  trieBuild t ((lits.map List.length).foldl max 0 + 1) 0
  return false

/-- The literal of a shape, if it is one. -/
def literal? : Shape → Option (List Nat)
  | .bytes bs => some bs
  | _ => none

/-- Chains `n` more copies of a part after one whose last state branches as `last` says. -/
def chainCopies (part : BuildM Bool) : Nat → Bool → BuildM Bool
  | 0, last => pure last
  | n + 1, last => fun t =>
    match (do let b ← part; joinExit last; pure b) t with
    | .error e => .error e
    | .ok (b, t') => chainCopies part n b t'

/-- `n` copies of a part one after another; no copy at all is one empty state. -/
def copies (part : BuildM Bool) : Nat → BuildM Bool
  | 0 => plainState
  | n + 1 => do
    let b ← part
    chainCopies part n b

/-- Adds `n` optional copies after a part whose last state branches as `last` says: each copy
comes with a branching state that may skip to the common end. -/
def optionalCopies (part : BuildM Bool) : Nat → Bool → BuildM Bool
  | 0, last => pure last
  | n + 1, last => fun t =>
    match (do
        let _ ← addState 0
        let b ← part
        joinExit last
        addBranch
        addBranch
        pure b) t with
    | .error e => .error e
    | .ok (b, t') => optionalCopies part n b t'

/-- Parts one after another. -/
def chainParts : List (BuildM Bool) → BuildM Bool
  | [] => plainState
  | p :: ps => do
    let first ← p
    ps.foldlM (fun last q => do
      let b ← q
      joinExit last
      pure b) first

/-- A part or nothing: a branching state, the part, and an end state. -/
def zeroOrOne (part : BuildM Bool) : BuildM Bool := do
  let _ ← addState 0
  let b ← part
  let _ ← addState 0
  addBranch
  addBranch
  joinExit b
  return false

/-- A part repeated at least `n` times; `minLen` is the least length of the part. -/
def atLeast (part : BuildM Bool) (minLen : Option Nat) : Nat → BuildM Bool
  | 0 =>
    if minLen.any (fun k => 0 < k) then do
      let _ ← addState 0
      let b ← part
      addBranch
      joinExit b
      return true
    else do
      let b ← part
      let _ ← addState 0
      joinExit b
      addBranch
      let _ ← addState 0
      let _ ← addState 0
      addBranch
      addBranch
      addBranch
      return false
  | 1 => do
    let b ← part
    let _ ← addState 0
    joinExit b
    addBranch
    return true
  | n + 2 => do
    let p ← copies part (n + 1)
    let b ← part
    let _ ← addState 0
    joinExit p
    joinExit b
    addBranch
    return true

/-- A part repeated from `lo` to `hi` times, `lo < hi`. -/
def bounded (part : BuildM Bool) (lo hi : Nat) : BuildM Bool := do
  let p ← copies part lo
  let _ ← addState 0
  let b ← optionalCopies part (hi - lo) p
  joinExit b
  return false

/-- Alternatives that are not all literals: the first two, a branching state and an end state,
then the others, each joined to both. -/
def alternatives (parts : List (BuildM Bool)) : BuildM Bool :=
  match parts with
  | [] => plainState
  | [p] => p
  | p :: q :: rest => do
    let a ← p
    let b ← q
    let _ ← addState 0
    let _ ← addState 0
    addBranch
    joinExit a
    addBranch
    joinExit b
    for r in rest do
      let c ← r
      addBranch
      joinExit c
    return false

/-- Compiles a shape, reading forwards or backwards (`rev`); capture groups take a state at each
end only forwards. The fuel is the height of the shape. -/
def compileShape : Nat → Bool → Shape → BuildM Bool
  | 0, _, _ => plainState
  | fuel + 1, rev, s =>
    match s with
    | .empty => plainState
    | .bytes bs => chainParts (bs.map fun _ => plainState)
    | .chars rs => classPart rev rs
    | .look _ => plainState
    | .capture s =>
      if rev then compileShape fuel rev s
      else do
        let _ ← addState 0
        let b ← compileShape fuel rev s
        let _ ← addState 0
        joinExit b
        return false
    | .concat ss =>
      chainParts ((if rev then ss.reverse else ss).map (compileShape fuel rev))
    | .alt ss =>
      match ss.mapM literal? with
      | some lits => if 2 ≤ lits.length then literalTrie rev lits
        else alternatives (ss.map (compileShape fuel rev))
      | none => alternatives (ss.map (compileShape fuel rev))
    | .repeat s lo hi =>
      let part := compileShape fuel rev s
      match lo, hi with
      | 0, some 1 => zeroOrOne part
      | n, none => atLeast part s.minLen n
      | n, some m => if n = m then copies part n else bounded part n m

/-- The whole automaton of a shape, reading forwards or backwards: the loop over any byte unless
every match is anchored where reading starts, the pattern inside its capture states (forwards),
and the final state. -/
def automaton (rev : Bool) (s : Shape) : BuildM Unit := do
  let anchored := if rev then s.endsAnchored else s.startsAnchored
  let loop ← if anchored then plainState
    else do
      let _ ← addState 0
      let _ ← asciiClass 1
      addBranch
      pure true
  let b ← if rev then compileShape (s.height + 1) true s
    else do
      let _ ← addState 0
      let b ← compileShape (s.height + 1) false s
      let _ ← addState 0
      joinExit b
      pure false
  let _ ← addState 0
  joinExit b
  joinExit loop

/-- Whether building an automaton stays within the limit. -/
def withinLimit (m : BuildM Unit) : Bool :=
  match m.run {} with
  | .ok _ => true
  | .error _ => false

/-- Whether both automata of a shape stay within the size limit. -/
def Shape.fits (s : Shape) : Bool :=
  withinLimit (automaton false s) && withinLimit (automaton true s)

end LogBrowser.Pattern
