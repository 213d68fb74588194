import LexicalModel.Path.Basic

/-!
# Normal forms and portable references

A path is normalised without looking at any file: `.` disappears and `..` takes back the name
before it.  Authors refer to files by *portable references*, whose parts are separated by `/` or by
`\`; such a reference is always read below the directory it is given for.

* `Path.normalize` : the normal form of a path
* `Path.resolve` : the path a reference denotes
* `Reference.fileName` : the last part of a reference
-/

namespace LexicalModel

namespace Path

/-- Adds a component to a normal form, which is kept last component first. -/
def pushNormal (acc : List Component) : Component → List Component
  | .current => acc
  | .parent =>
    match acc with
    | .name _ :: rest => rest
    | .root :: _ => acc
    | _ => .parent :: acc
  | c => c :: acc

/-- The normal form of components. -/
def normalComponents (cs : List Component) : List Component :=
  (cs.foldl pushNormal []).reverse

/-- The normal form of a path. -/
def normalize (p : Path) : Path := ofComponents (normalComponents p.components)

end Path

namespace Reference

/-- A character that separates the parts of a reference. -/
def isSeparator (c : Char) : Bool := c = '/' || c = '\\'

/-- The non-empty parts of a reference. -/
def parts (reference : String) : List (List Char) :=
  (reference.toList.splitOnP isSeparator).filter (· ≠ [])

/-- The last non-empty part of a reference, the reference itself where there is none. -/
def fileName (reference : String) : String :=
  match (parts reference).getLast? with
  | some part => String.ofList part
  | none => reference

end Reference

/-- The path that a portable reference denotes below `base`, in normal form. -/
def Path.resolve (base : Path) (reference : String) : Path :=
  ofComponents (normalComponents
    (base.components ++ (Reference.parts reference).map Component.ofChars))

end LexicalModel
