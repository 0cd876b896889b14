import ClassMetrics.Loader.Basic
import ClassMetrics.ClassFile.Signature

/-!
Building the structural graph of the classes to analyse. Each is loaded with its method bodies,
then every type its members name and every member its code uses becomes an edge from the member
to that resource, counted once per place that names it. Last, each class gets an edge to its
superclass and to each of its interfaces.
-/

namespace ClassMetrics

open ClassFile

/-- Keeps the first of each name, in order. -/
def firstOfEach (names : List String) : List String :=
  names.foldl (fun acc n => if acc.contains n then acc else acc ++ [n]) []

/-- A descriptor or signature that cannot be read fails the class being wired. -/
def liftFormat {α : Type} (cls : String) : Except FormatError α → Load α
  | .ok a => pure a
  | .error e => throw (.parse cls e)

/-- Records a use from a node to another. -/
def addUse (source target : Nat) (usage : Usage) : Load Unit :=
  modifyGraph fun g => (g.addEdge source target usage).1

/-- An edge from a node to the class of each name, once per name given. -/
def typeEdges (fuel : Nat) (source : Nat) (names : List String) : Load Unit :=
  names.forM fun n => do addUse source (← getClass fuel n .structureOnly) .uses

/-- The edge for one reference in a method body. A call on an array goes to its element class,
or nowhere for an array of a primitive type. -/
def codeEdge (fuel : Nat) (source : Nat) : CodeRef → Load Unit
  | .type n => do addUse source (← getClass fuel n .structureOnly) .uses
  | .method m isStatic =>
    if m.owner.startsWith "[" then
      match Descriptor.elementClass m.owner with
      | some e => do addUse source (← getClass fuel e .structureOnly) .uses
      | none => pure ()
    else do addUse source (← resolveMethod fuel m isStatic) .uses
  | .field m _ isStatic => do addUse source (← resolveField fuel m isStatic) .uses

/-- The classes a descriptor and an optional signature name, the first of each. -/
def typesOf (cls descriptor : String) (signature : Option String) : Load (List String) := do
  let types ← liftFormat cls (Descriptor.referencedClasses descriptor)
  let more ← match signature with
    | some s => liftFormat cls (Signature.referencedClasses s)
    | none => pure []
  pure (firstOfEach (types ++ more))

/-- The edges from a class to its superclass, as an extension, and to each of its interfaces. -/
def wireSupertypes (i : Nat) (usage : Usage) : Load Unit := do
  let node := (← get).graph.classNode? i
  match node.bind (·.superClass) with
  | some t => addUse i t .extends
  | none => pure ()
  for t in (node.map (·.interfaces)).getD [] do
    addUse i t usage

/-- The edges of one class of a decoded file: from each field, from each method, from the class
for the types of its signature that are not its supertypes, and to its supertypes. -/
def wireClass (fuel : Nat) (cls : String) (i : Nat) (file : ClassInfo) : Load Unit := do
  let key := (← get).graph.key i
  for f in file.fields do
    match (← get).graph.get? (Key.field key f.name) with
    | none => pure ()
    | some src => typeEdges fuel src (← typesOf cls f.descriptor f.signature)
  for m in file.methods do
    match (← get).graph.get? (Key.method key m.name m.descriptor) with
    | none => pure ()
    | some src =>
      typeEdges fuel src (← typesOf cls m.descriptor m.signature)
      typeEdges fuel src m.exceptions
      match m.code with
      | none => pure ()
      | some code =>
        code.references.forM (codeEdge fuel src)
        typeEdges fuel src code.catchTypes
        typeEdges fuel src code.localVariableTypes
  match file.signature with
  | none => pure ()
  | some s =>
    let types ← liftFormat cls (Signature.referencedClasses s)
    typeEdges fuel i (firstOfEach (types.filter fun t =>
      file.superClass != some t && !file.interfaces.contains t))
  wireSupertypes i (if Access.has file.access Access.interface then Usage.extends else .implements)

/-- Loads the classes to analyse with their bodies, wires each, and indexes the hierarchy.
Names are taken sorted, each once. -/
def buildGraph (source : ClassSource) (analyzable : List String) :
    Except AnalysisError StructuralGraph :=
  let names := sortedDistinct analyzable
  let start : Loader := ({ source, analyzable := names } : Loader).prefetch names .structureAndCalls
  let run : Load Unit := do
    let fuel := (← get).fuel
    let loaded ← names.mapM fun n => getClass fuel n .structureAndCalls
    for (n, i) in names.zip loaded do
      let file ← modifyGet fun p => p.takeFile i
      match file with
      | some file => wireClass fuel n i file
      | none => pure ()
  match (run.run).run start with
  | (.ok (), p) => .ok p.graph.indexHierarchy
  | (.error e, _) => .error e

end ClassMetrics
