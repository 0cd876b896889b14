import ClassMetrics.Pattern.Expr
import ClassMetrics.Pattern.ByteSequence
import Std.Data.HashMap

/-!
The size of the automata a pattern compiles to, and the limit on it. A pattern is compiled to a
byte-level automaton twice, once to run forwards and once backwards, and each must stay within
`sizeLimit` bytes: every state takes `stateBytes`, every byte range a state lists
`transitionBytes`, and every alternative of a fork `alternateBytes`.

The construction is the classical one from an expression to an automaton with forks. Literals are
chains of byte states; a class of ASCII characters is one state listing its ranges; any other
class is first split into the byte-range sequences of its UTF-8 encodings. Run forwards, those
sequences are merged into a minimal automaton as they come, states with the same transitions being
shared as far as a table of `minimizerSlots` places remembers them; run backwards, each sequence is
a chain of its own, where chains sharing their first bytes share states as far as a table of
`suffixSlots` places remembers them. Both tables place a key by its FNV-1a hash. Repetitions are
unrolled, an alternation of literals becomes a trie, capturing groups add two states each when
running forwards, and a search that may start anywhere is led by a loop over every byte.
-/

namespace ClassMetrics.Pattern

/-- The bytes a state takes. -/
def stateBytes : Nat := 32

/-- The bytes a state takes for each byte range it lists. -/
def transitionBytes : Nat := 8

/-- The bytes a fork takes for each of its alternatives. -/
def alternateBytes : Nat := 4

/-- The most bytes each automaton of a pattern may take. -/
def sizeLimit : Nat := 10 * 2 ^ 20

/-- The places of the table that shares states running forwards. -/
def minimizerSlots : Nat := 10000

/-- The places of the table that shares states running backwards. -/
def suffixSlots : Nat := 1000

/-- An automaton being built, as far as its size goes: how many states it has and how many
bytes they take. -/
structure Tally where
  states : Nat := 0
  bytes : Nat := 0

/-- A step of building an automaton; it fails once the automaton passes the limit. -/
abbrev TallyM := StateT Tally (Except Unit)

/-- Takes some bytes more, failing past the limit. -/
def grow (n : Nat) : TallyM Unit := do
  let t ← get
  if t.bytes + n > sizeLimit then throw ()
  set { t with bytes := t.bytes + n }

/-- Adds a state that lists `extra` bytes of ranges or alternatives, and gives its number. -/
def addState (extra : Nat) : TallyM Nat := do
  let t ← get
  grow (stateBytes + extra)
  modify fun t' => { t' with states := t.states + 1 }
  pure t.states

/-- A piece of automaton, as far as linking on from it goes: whether its last state is a fork,
which gains an alternative when it is linked on. -/
structure Piece where
  lastFork : Bool

/-- Links the last state of a piece on to what follows. -/
def Piece.link (p : Piece) : TallyM Unit := if p.lastFork then grow alternateBytes else pure ()

/-- A piece of one new state. -/
def single : TallyM Piece := do
  discard (addState 0)
  pure ⟨false⟩

/-- One round of the FNV-1a hash. -/
def fnvMix (h : UInt64) (x : Nat) : UInt64 := (h ^^^ x.toUInt64) * 1099511628211

/-- The FNV-1a offset basis. -/
def fnvBasis : UInt64 := 14695981039346656037

/-- A transition of a state: a range of bytes and the state it leads to. -/
abbrev Transition := Nat × Nat × Nat

/-- The place of a list of transitions in the forward table. -/
def transitionsSlot (ts : List Transition) : Nat :=
  (ts.foldl (fun h (a, b, n) => fnvMix (fnvMix (fnvMix h a) b) n) fnvBasis).toNat % minimizerSlots

/-- A state of the forward merge not yet added: its transitions, and the range of its last
transition whose target is not known yet. -/
structure OpenState where
  transitions : List Transition
  pending : Option (Nat × Nat)

/-- The transitions of a state with its pending transition led to a target. -/
def OpenState.close (s : OpenState) (target : Nat) : List Transition :=
  s.transitions ++ match s.pending with
    | some (a, b) => [(a, b, target)]
    | none => []

/-- The forward merge of byte sequences: the state all sequences end in, the open states along
the last sequence, and the table of states added. -/
structure Merge where
  target : Nat
  states : Array OpenState
  table : Std.HashMap Nat (List Transition × Nat)

/-- Adds a state with some transitions, or finds it in the table. -/
def Merge.intern (m : Merge) (ts : List Transition) : TallyM (Merge × Nat) := do
  let slot := transitionsSlot ts
  match m.table[slot]? with
  | some (key, s) => if key == ts then return (m, s)
  | none => pure ()
  let s ← addState (transitionBytes * ts.length)
  pure ({ m with table := m.table.insert slot (ts, s) }, s)

/-- Adds the open states above position `keep`, deepest first, and leads the one at `keep` to
the last state added. -/
def Merge.closeFrom (keep : Nat) : Nat → Merge → Nat → TallyM Merge
  | 0, m, _ => pure m
  | fuel + 1, m, next =>
    if keep + 1 < m.states.size then
      match m.states.back? with
      | some s => do
        let (m, id) ← { m with states := m.states.pop }.intern (s.close next)
        Merge.closeFrom keep fuel m id
      | none => pure m
    else
      pure { m with states := m.states.modify (m.states.size - 1) fun s => ⟨s.close next, none⟩ }

/-- Adds one byte sequence; the sequences come in increasing order. -/
def Merge.add (m : Merge) (seq : List (Nat × Nat)) : TallyM Merge := do
  let shared := ((seq.zip m.states.toList).takeWhile fun (r, s) => s.pending == some r).length
  let m ← Merge.closeFrom shared (m.states.size + 1) m m.target
  let rest := seq.drop shared
  let top := m.states.size - 1
  let m := { m with states := m.states.modify top fun s => { s with pending := rest.head? } }
  pure { m with states := m.states ++ (rest.drop 1).toArray.map fun r => ⟨[], some r⟩ }

/-- The byte sequences of a class. -/
def CharClass.utf8Sequences (c : CharClass) : List (List (Nat × Nat)) :=
  c.ranges.flatMap fun (lo, hi) => byteSequences lo hi

/-- The piece of a class of characters beyond ASCII, built to run forwards. -/
def forwardClass (c : CharClass) : TallyM Piece := do
  let target ← addState 0
  let m ← c.utf8Sequences.foldlM Merge.add ⟨target, #[⟨[], none⟩], {}⟩
  let m ← Merge.closeFrom 0 (m.states.size + 1) m target
  discard (m.intern ((m.states[0]?.map (·.transitions)).getD []))
  pure ⟨false⟩

/-- A link of a backward chain: the state it leads to and its byte range. -/
abbrev Link := Nat × Nat × Nat

/-- The place of a link in the backward table. -/
def linkSlot (l : Link) : Nat :=
  (fnvMix (fnvMix (fnvMix fnvBasis l.1) l.2.1) l.2.2).toNat % suffixSlots

/-- Adds the chain of one byte sequence, built to run backwards, ending in `next`; links already
in the table are shared. -/
def backwardChain (table : Std.HashMap Nat (Link × Nat)) (next : Nat) :
    List (Nat × Nat) → TallyM (Std.HashMap Nat (Link × Nat))
  | [] => pure table
  | (a, b) :: rest => do
    let slot := linkSlot (next, a, b)
    match table[slot]? with
    | some (key, s) => if key == (next, a, b) then return ← backwardChain table s rest
    | none => pure ()
    let s ← addState 0
    backwardChain (table.insert slot ((next, a, b), s)) s rest

/-- The piece of a class of characters beyond ASCII, built to run backwards: a fork to one chain
per byte sequence. -/
def backwardClass (c : CharClass) : TallyM Piece := do
  discard (addState 0)
  let last ← addState 0
  discard <| c.utf8Sequences.foldlM (fun table seq => do
    let table ← backwardChain table last seq
    grow alternateBytes
    pure table) ({} : Std.HashMap Nat (Link × Nat))
  pure ⟨false⟩

/-- The piece of a class of characters. -/
def classPiece (backward : Bool) (c : CharClass) : TallyM Piece := do
  if c.isAscii then
    discard (addState 0)
    discard (addState (transitionBytes * c.ranges.length))
    pure ⟨false⟩
  else if backward then backwardClass c
  else forwardClass c

/-- The piece of some bytes in a row, one state each (one for none at all). -/
def bytesPiece (bytes : List Nat) : TallyM Piece := do
  for _ in [0:Nat.max bytes.length 1] do
    discard (addState 0)
  pure ⟨false⟩

/-- A state of a trie of literals: its transitions by byte, in byte order within each chunk,
and the chunks, each ended by a match. -/
structure TrieNode where
  transitions : Array (Nat × Nat) := #[]
  chunks : Array (Nat × Nat) := #[]
  deriving Inhabited

/-- Where the transitions after the last match begin. -/
def TrieNode.activeStart (s : TrieNode) : Nat := (s.chunks.back?.map (·.2)).getD 0

/-- Marks a match at a node, ending its active chunk, unless the node is a marked leaf: a literal
given again below a node with transitions ends another, empty chunk. -/
def TrieNode.markMatch (s : TrieNode) : TrieNode :=
  if !s.chunks.isEmpty && s.transitions.isEmpty then s
  else { s with chunks := s.chunks.push (s.activeStart, s.transitions.size) }

/-- Follows or adds the transition on a byte from a node, among those after its last match. -/
def trieStep (nodes : Array TrieNode) (at_ b : Nat) : Array TrieNode × Nat :=
  let s := nodes.getD at_ {}
  let start := s.activeStart
  let active := s.transitions.extract start s.transitions.size
  match active.find? (·.1 == b) with
  | some (_, next) => (nodes, next)
  | none =>
    let next := nodes.size
    let pos := start + (active.filter (·.1 < b)).size
    let s := { s with transitions := s.transitions.insertIdxIfInBounds pos (b, next) }
    ((nodes.set! at_ s).push {}, next)

/-- The trie of some literals, in order. -/
def trieOf (literals : List (List Nat)) : Array TrieNode :=
  literals.foldl (fun nodes bytes =>
    let (nodes, last) := bytes.foldl (fun (nodes, at_) b => trieStep nodes at_ b) (nodes, 0)
    nodes.modify last TrieNode.markMatch) #[{}]

/-- The states and the listed bytes of the automaton of a trie beyond its final state: each node
with transitions has a state for each chunk with transitions (listing them when more than one)
and a fork over those states and the matches between chunks. -/
def trieCost (nodes : Array TrieNode) : Nat × Nat :=
  nodes.foldl (fun (states, bytes) s =>
    if s.transitions.isEmpty then (states, bytes)
    else
      let chunks := s.chunks.toList.map (fun (a, b) => b - a) ++ [s.transitions.size - s.activeStart]
      let filled := chunks.filter (· > 0)
      let listed := (filled.filter (· > 1)).sum
      (states + filled.length + 1,
        bytes + transitionBytes * listed + alternateBytes * (filled.length + chunks.length - 1)))
    (0, 0)

/-- The piece of an alternation of literals, as a trie. -/
def triePiece (backward : Bool) (literals : List (List Char)) : TallyM Piece := do
  discard (addState 0)
  let bytes := literals.map fun cs => if backward then (utf8EncodeAll cs).reverse else utf8EncodeAll cs
  let (states, extra) := trieCost (trieOf bytes)
  grow (stateBytes * states + extra)
  modify fun t => { t with states := t.states + states }
  pure ⟨false⟩

/-- The literals of branches that are all literals. -/
def allLiterals : List Expr → Option (List (List Char))
  | [] => some []
  | .literal cs :: rest => (allLiterals rest).map (cs :: ·)
  | _ => none

/-- Pieces built one after the other and linked in a row. -/
def chainPieces : List (TallyM Piece) → TallyM Piece
  | [] => single
  | [b] => b
  | b :: rest => do
    let p ← b
    let q ← chainPieces rest
    p.link
    pure q

/-- A fork to pieces built one after the other, each linked on to a common end: the first two
pieces come before the fork and its end. -/
def forkPieces : List (TallyM Piece) → TallyM Piece
  | [] => single
  | [b] => b
  | b :: c :: rest => do
    let p ← b
    let q ← c
    discard (addState 0)
    discard (addState 0)
    grow alternateBytes
    p.link
    grow alternateBytes
    q.link
    for d in rest do
      let r ← d
      grow alternateBytes
      r.link
    pure ⟨false⟩

/-- After a piece, `n` more copies of a piece, each linked on from the one before; gives the
last. Each round is a tail call, so long rows take no stack. -/
def copiesAfter (build : TallyM Piece) : Nat → Piece → Tally → Except Unit (Piece × Tally)
  | 0, p, t => .ok (p, t)
  | n + 1, p, t =>
    match build.run t with
    | .ok (q, t) =>
      match p.link.run t with
      | .ok (_, t) => copiesAfter build n q t
      | .error e => .error e
    | .error e => .error e

/-- `n` copies of a piece in a row. -/
def copies (build : TallyM Piece) : Nat → TallyM Piece
  | 0 => single
  | n + 1 => do
    let first ← build
    fun t => copiesAfter build n first t

/-- After a piece, `n` more optional copies of a piece, each behind a fork that may skip to the
common end; gives the last copy. -/
def optionals (build : TallyM Piece) : Nat → Piece → Tally → Except Unit (Piece × Tally)
  | 0, prev, t => .ok (prev, t)
  | n + 1, prev, t =>
    let step : TallyM Piece := do
      discard (addState 0)
      let p ← build
      prev.link
      grow (2 * alternateBytes)
      pure p
    match step.run t with
    | .ok (p, t) => optionals build n p t
    | .error e => .error e

/-- A piece at most once. -/
def zeroOrOne (build : TallyM Piece) : TallyM Piece := do
  discard (addState 0)
  let p ← build
  discard (addState 0)
  grow (2 * alternateBytes)
  p.link
  pure ⟨false⟩

/-- At least `n` copies of a piece; `nonEmpty` tells whether every match of it has a byte. -/
def atLeast (build : TallyM Piece) (nonEmpty : Bool) : Nat → TallyM Piece
  | 0 =>
    if nonEmpty then do
      discard (addState 0)
      let p ← build
      grow alternateBytes
      p.link
      pure ⟨true⟩
    else do
      let p ← build
      discard (addState 0)
      p.link
      grow alternateBytes
      discard (addState 0)
      discard (addState 0)
      grow (3 * alternateBytes)
      pure ⟨false⟩
  | 1 => do
    let p ← build
    discard (addState 0)
    p.link
    grow alternateBytes
    pure ⟨true⟩
  | n + 2 => do
    let pre ← copies build (n + 1)
    let p ← build
    discard (addState 0)
    pre.link
    p.link
    grow alternateBytes
    pure ⟨true⟩

/-- Between `m` and `n` copies of a piece, `m < n`. -/
def between (build : TallyM Piece) (m n : Nat) : TallyM Piece := do
  let pre ← copies build m
  discard (addState 0)
  let last ← fun t => optionals build (n - m) pre t
  last.link
  pure ⟨false⟩

/-- A capturing group around a piece, built to run forwards. -/
def captured (build : TallyM Piece) : TallyM Piece := do
  discard (addState 0)
  let p ← build
  discard (addState 0)
  p.link
  pure ⟨false⟩

/-- The piece of an expression; running backwards, concatenations are built from their end and
capturing groups add nothing. -/
def Expr.piece (backward : Bool) : Expr → TallyM Piece
  | .empty => single
  | .literal cs => bytesPiece (utf8EncodeAll cs)
  | .chars c _ => classPiece backward c
  | .look _ => single
  | .capture _ sub =>
    let build := sub.piece backward
    if backward then build else captured build
  | .concat items =>
    let builds := items.map fun e => e.piece backward
    chainPieces (if backward then builds.reverse else builds)
  | .alternation branches =>
    match allLiterals branches with
    | some lits => triePiece backward lits
    | none => forkPieces (branches.map fun e => e.piece backward)
  | .repetition min max _ sub =>
    let build := sub.piece backward
    match min, max with
    | 0, some 1 => zeroOrOne build
    | n, none => atLeast build (sub.minLen.any (· != 0)) n
    | m, some n => if m == n then copies build n else between build m n

/-- The automaton of a pattern, built to run forwards or backwards, within the limit. A search
that may start anywhere is led by a loop over every byte; running forwards, the whole pattern is
a capturing group; a final state accepts. -/
def Expr.automaton (backward : Bool) (e : Expr) : TallyM Unit := do
  let anchored := if backward then e.anchoredEnd else e.anchoredStart
  let lead ← if anchored then single
    else do
      discard (addState 0)
      discard (addState 0)
      discard (addState transitionBytes)
      grow alternateBytes
      pure ⟨true⟩
  let body ← if backward then e.piece backward else captured (e.piece backward)
  discard (addState 0)
  body.link
  lead.link

/-- Whether both automata of a pattern stay within the limit. -/
def Expr.fitsLimit (e : Expr) : Bool :=
  match (e.automaton false).run {}, (e.automaton true).run {} with
  | .ok _, .ok _ => true
  | _, _ => false

/-- The bytes the automaton of a pattern takes, when within the limit. -/
def Expr.footprint (backward : Bool) (e : Expr) : Option Nat :=
  match (e.automaton backward).run {} with
  | .ok (_, t) => some t.bytes
  | .error _ => none

end ClassMetrics.Pattern
