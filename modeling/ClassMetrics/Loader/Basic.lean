import ClassMetrics.Graph.Hierarchy
import ClassMetrics.ClassFile.Decode
import ClassMetrics.Classpath.Source
import ClassMetrics.Resource.Key

/-!
Loading classes into the structural graph on demand. A class is read from its source at the
detail level asked for, added with its members, and its supertypes are loaded at the structure
level. A class already in the graph at a lower level is read again at the higher one. A class
that no source has, or whose bytes cannot be read, becomes an unresolved placeholder, unless it
is one of the classes to analyse: then the load fails.
-/

namespace ClassMetrics

open ClassFile

/-- Why an analysis cannot go on. -/
inductive AnalysisError
  /-- A class to analyse has bytes that are no well-formed class file. -/
  | parse (cls : String) (cause : FormatError)
  /-- No source has a class to analyse. -/
  | missingClass (cls : String)
  deriving Repr

namespace AnalysisError

/-- The kind of failure, by name. -/
def kind : AnalysisError → String
  | .parse .. => "Parse"
  | .missingClass _ => "MissingClass"

/-- The sentence that reports the failure. -/
def message : AnalysisError → String
  | .parse c _ => "failed to parse analyzable class `" ++ c ++ "`"
  | .missingClass c => "analyzable class `" ++ c ++ "` not found on the classpath"

end AnalysisError

/-- Classes loaded so far, with what was decoded ahead and the files not yet taken. -/
structure Loader where
  source : ClassSource
  /-- The classes to analyse: for these a missing or unreadable class file is an error. -/
  analyzable : List String
  graph : StructuralGraph := {}
  /-- Outcomes decoded ahead of time, each with its level, kept for the next load. -/
  prefetched : List (String × DetailLevel × Except FormatError ClassInfo) := []
  /-- The latest decoded file of each class node. -/
  files : List (Nat × ClassInfo) := []

/-- A step of loading; a failure keeps the changes made before it. -/
abbrev Load := ExceptT AnalysisError (StateM Loader)

namespace Loader

/-- Whether a class is one to analyse. -/
def isAnalyzable (p : Loader) (name : String) : Bool := p.analyzable.contains name

/-- Enough fuel for any chain of loads: each link of a chain adds a class that the source
reads, and no class twice. -/
def fuel (p : Loader) : Nat := p.source.size + 1

/-- Decodes the names the source has at a level, and keeps each outcome for the next load of
that name. -/
def prefetch (p : Loader) (names : List String) (level : DetailLevel) : Loader :=
  names.foldl (fun p n =>
    match p.source.resolve n with
    | some bytes => { p with prefetched :=
        (n, level, ClassInfo.decode bytes level) :: p.prefetched.filter (·.1 != n) }
    | none => p) p

/-- Removes and returns the latest decoded file of a node. -/
def takeFile (p : Loader) (i : Nat) : Option ClassInfo × Loader :=
  ((p.files.find? (·.1 == i)).map (·.2), { p with files := p.files.filter (·.1 != i) })

end Loader

/-- Changes the graph. -/
def modifyGraph (f : StructuralGraph → StructuralGraph) : Load Unit :=
  modify fun p => { p with graph := f p.graph }

/-- Adds a resource to the graph and returns its node. -/
def addResource (r : Resource) : Load Nat :=
  modifyGet fun p => let (g, i) := p.graph.addResource r; (i, { p with graph := g })

/-- Keeps a decoded file for a node, in place of any before it. -/
def storeFile (i : Nat) (file : ClassInfo) : Load Unit :=
  modify fun p => { p with files := (i, file) :: p.files.filter (·.1 != i) }

/-- What reading a name at a level gives: a file, nothing, or a failure for a class to
analyse. -/
def readOutcome (name : String) (analyzable : Bool) :
    Option (Except FormatError ClassInfo) → Except AnalysisError (Option ClassInfo)
  | some (.ok file) => .ok (some file)
  | some (.error e) => if analyzable then .error (.parse name e) else .ok none
  | none => if analyzable then .error (.missingClass name) else .ok none

/-- What a read of `name` at `level` finds: an outcome decoded ahead at that level or a higher
one, or else the source's bytes decoded now. -/
def Loader.outcome (p : Loader) (name : String) (level : DetailLevel) :
    Option (Except FormatError ClassInfo) :=
  match p.prefetched.find? (·.1 == name) with
  | some (_, l, r) => if level ≤ l then some r else (p.source.resolve name).map (ClassInfo.decode · level)
  | none => (p.source.resolve name).map (ClassInfo.decode · level)

/-- Reads a class at a level. An outcome decoded ahead is used up, and serves when it was
decoded at that level or a higher one. -/
def decode (name : String) (level : DetailLevel) : Load (Option ClassInfo) := do
  let p ← get
  set { p with prefetched := p.prefetched.filter (·.1 != name) }
  MonadExcept.ofExcept (readOutcome name (p.isAnalyzable name) (p.outcome name level))

namespace StructuralGraph

/-- Declares a field of a class file: a field node with its key is marked declared and takes
the file's access and descriptor; otherwise a declared field is added. -/
def declareField (g : StructuralGraph) (owner : Nat) (cls : String) (f : FieldInfo) :
    StructuralGraph :=
  let key := Key.field cls f.name
  match g.get? key with
  | some j => g.modifyField j fun x =>
    { x with declared := true, access := f.access, descriptor := f.descriptor }
  | none => (g.addResource (.field ⟨key, owner, f.name, f.descriptor, f.access, true⟩)).1

/-- Declares a method of a class file: a method node with its key is marked declared, takes
the file's access and whether it has a body, and its shape when the body was read; otherwise a
declared method is added. -/
def declareMethod (g : StructuralGraph) (owner : Nat) (cls : String) (m : MethodInfo) :
    StructuralGraph :=
  let key := Key.method cls m.name m.descriptor
  let shape := m.code.map (·.shape)
  match g.get? key with
  | some j => g.modifyMethod j fun x =>
    { x with declared := true, access := m.access, hasBody := m.hasCode,
             shape := if shape.isSome then shape else x.shape }
  | none =>
    (g.addResource (.method ⟨key, owner, m.name, m.descriptor, m.access, true, m.hasCode, shape,
      []⟩)).1

/-- Declares the fields, then the methods, of a class file on its class node. -/
def declareMembers (g : StructuralGraph) (owner : Nat) (cls : String) (file : ClassInfo) :
    StructuralGraph :=
  let g := file.fields.foldl (fun g f => g.declareField owner cls f) g
  file.methods.foldl (fun g m => g.declareMethod owner cls m) g

end StructuralGraph

/-- Reads a class in the graph again at a higher level: its level is raised, its members are
declared again and the file is kept. Nothing changes when the class cannot be read. -/
def escalate (i : Nat) (name : String) (level : DetailLevel) : Load Unit := do
  match ← decode name level with
  | none => pure ()
  | some file =>
    modifyGraph fun g =>
      (g.modifyClass i fun c => { c with level := some file.level }).declareMembers i name file
    storeFile i file

mutual

/-- The node of a class loaded at a level at least: a node with the name is returned, raised
to the level if it is a resolved class below it; a new name is read, or becomes a
placeholder. -/
def getClass (fuel : Nat) (name : String) (level : DetailLevel) : Load Nat :=
  match fuel with
  | 0 => addResource (.cls (ClassNode.unresolved name))
  | fuel + 1 => do
    let p ← get
    match p.graph.get? name with
    | some i =>
      match (p.graph.classNode? i).bind (·.level) with
      | some current => if current < level then escalate i name level
      | none => pure ()
      pure i
    | none =>
      match ← decode name level with
      | some file => insert fuel name file
      | none => addResource (.cls (ClassNode.unresolved name))
termination_by (fuel, 0)

/-- Adds a decoded class with its members, then loads its superclass and interfaces at the
structure level. A supertype that is the class itself is dropped, and so is a repeated
interface. -/
def insert (fuel : Nat) (name : String) (file : ClassInfo) : Load Nat := do
  let i ← addResource (.cls ⟨name, file.access, some file.level, none, [], [], []⟩)
  modifyGraph (·.declareMembers i name file)
  let sup ← match file.superClass with
    | some s => some <$> getClass fuel s .structureOnly
    | none => pure none
  let ifaces ← file.interfaces.foldlM (fun acc n => do
    let q ← getClass fuel n .structureOnly
    pure (if q == i || acc.contains q then acc else acc ++ [q])) []
  modifyGraph (·.modifyClass i fun c =>
    { c with superClass := sup.filter (· != i), interfaces := ifaces })
  storeFile i file
  pure i
termination_by (fuel, 1)

end

/-- The access of a member known only from a use: static or not. -/
def useAccess (isStatic : Bool) : Nat := if isStatic then Access.static else 0

/-- The method a reference names: found in its owner's hierarchy, or else added to the
owner as a method that is not declared. -/
def resolveMethod (fuel : Nat) (m : MemberRef) (isStatic : Bool) : Load Nat := do
  let owner ← getClass fuel m.owner .structureOnly
  match (← get).graph.findMethod owner m.name m.descriptor with
  | some found => pure found
  | none => addResource (.method ⟨Key.method m.owner m.name m.descriptor, owner, m.name,
      m.descriptor, useAccess isStatic, false, false, none, []⟩)

/-- The field a reference names: found in its owner's hierarchy, or else added to the owner
as a field that is not declared. -/
def resolveField (fuel : Nat) (m : MemberRef) (isStatic : Bool) : Load Nat := do
  let owner ← getClass fuel m.owner .structureOnly
  match (← get).graph.findField owner m.name with
  | some found => pure found
  | none => addResource (.field ⟨Key.field m.owner m.name, owner, m.name, m.descriptor,
      useAccess isStatic, false⟩)

/-- Loads a class with enough fuel for its source. -/
def loadClass (name : String) (level : DetailLevel) : Load Nat := do
  getClass (← get).fuel name level

end ClassMetrics
