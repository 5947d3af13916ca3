import CurvePnl.JsonForm
import CurvePnl.Store.File

/-! # The store of curve specifications

Specifications are loaded from a JSON array. Of several for one curve the last counts.
-/

namespace CurvePnl

/-- The specifications of a file, in file order. -/
structure SpecificationStore where
  specifications : List CurveSpecification
  deriving Repr, DecidableEq

namespace SpecificationStore

def empty : SpecificationStore := ⟨[]⟩

/-- Loads a decoded file in place of what the store holds; an error leaves it as it was, and so
does a missing file. -/
def reload (s : SpecificationStore)
    (file : Option (Except (Halt SourceError) (List CurveSpecification))) :
    Except (Halt SourceError) Unit × SpecificationStore :=
  match file with
  | none => (.ok (), s)
  | some (.error h) => (.error h, s)
  | some (.ok specifications) => (.ok (), ⟨specifications⟩)

/-- The specification of a curve. -/
def specification (s : SpecificationStore) (curve : CurveName) :
    Except SourceError CurveSpecification :=
  match s.specifications.reverse.find? (·.curve == curve) with
  | some x => .ok x
  | none => .error ⟨.notFound, "curve specification " ++ curve⟩

end SpecificationStore

namespace FileEntry

/-- The specifications of a file, if there is a file. -/
def specifications (f : FileEntry) : Option (Except (Halt SourceError) (List CurveSpecification)) :=
  if f.isMissing then none else some (f.decoded (Decode.list CurveSpecification.ofJson))

end FileEntry

end CurvePnl
