import Abiscope.TypeGraph.Basic
import Abiscope.TypeGraph.Trail

/-!
# Names of types

A type is named the way it is written, from the inside out. Records, enumerations, aliases and builtin
types stand under their own names, so only circles of other types could go on for ever; such a circle is
cut with a mark where it closes.
-/

namespace Abiscope.TypeGraph

/-- What stands where a circle of types without names closes. -/
def circleMark : String := "<cycle>"

/-- A function type, with what stands between its result and its parameters. -/
def functionName (declarator result : String) (parameters : List String) (isVariadic : Bool) :
    String :=
  let listed := if isVariadic then parameters ++ ["..."] else parameters
  s!"{result} {declarator}(" ++ ", ".intercalate listed ++ ")"

/-- A qualified type. Qualifiers follow a pointer or reference and precede any other type. -/
def qualifiedName (base : TypeNode) (name : String) (qualifiers : Qualifiers) : String :=
  match base with
  | .pointer _ | .reference .. => name ++ " " ++ qualifiers.spelling
  | _ => qualifiers.spelling ++ " " ++ name

/-- The name of a type on a walk that has entered the types of a trail. -/
def nameOn (graph : TypeGraph) (trail : Trail graph.size) (id : Nat) : String :=
  if entered : id ∈ trail.nodes then circleMark
  else if inside : id < graph.size then
    let trail' := trail.enter id entered inside
    match graph.node id with
    | .void => "void"
    | .builtin name _ => name
    | .typeAlias name _ _ => name
    | .record record => record.kind.keyword ++ " " ++ record.name
    | .enumeration enumeration => "enum " ++ enumeration.name
    | .pointer target =>
      match graph.node target with
      | .function function =>
        functionName "(*)" (nameOn graph trail' function.result)
          (function.parameters.map fun parameter => nameOn graph trail' parameter)
          function.isVariadic
      | _ => nameOn graph trail' target ++ "*"
    | .reference target isRvalue => nameOn graph trail' target ++ (if isRvalue then "&&" else "&")
    | .qualified base qualifiers =>
      qualifiedName (graph.node base) (nameOn graph trail' base) qualifiers
    | .array element count =>
      match count with
      | some count => nameOn graph trail' element ++ s!"[{count}]"
      | none => nameOn graph trail' element ++ "[]"
    | .function function =>
      functionName "" (nameOn graph trail' function.result)
        (function.parameters.map fun parameter => nameOn graph trail' parameter)
        function.isVariadic
  else "void"
termination_by trail.room
decreasing_by all_goals exact trail.room_enter entered inside

/-- The name of a type. -/
def name (graph : TypeGraph) (id : Nat) : String := graph.nameOn Trail.start id

/-- A declaration of a function. -/
def signature (graph : TypeGraph) (function : String) (result : Nat) (parameters : List Nat) :
    String :=
  s!"{graph.name result} {function}(" ++ ", ".intercalate (parameters.map graph.name) ++ ")"

end Abiscope.TypeGraph
