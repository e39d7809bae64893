import WireSchema.Name.Case
import WireSchema.Schema.Record
import WireSchema.Wire.Shape

/-!
Shapes from schemas. A field of structure type has the members declared inline in it, or else those of the
structure of that name. The guard of a member assumes that the version lies in the range of its structure.
-/

namespace WireSchema.Wire

open WireSchema.Schema WireSchema.Version

/-- The structure that a field refers to by `name`. -/
def referredRecord (m : Message) (f : Field) (name : String) : Option Record :=
  if f.fields.isEmpty then m.records.find? (·.name == name) else some ⟨name, f.fields, f.versions⟩

/-- The members of a structure, if structures are nested to less than `depth`. -/
def membersOf (m : Message) : (depth : Nat) → Record → Option Members
  | 0, _ => none
  | depth + 1, r =>
    r.fields.foldr (fun f rest => do
      let rest ← rest
      let element ←
        match f.type.element with
        | .primitive p => some (Shape.primitive p)
        | .struct name => do
          let inner ← referredRecord m f name
          let members ← membersOf m depth inner
          some (.struct name members)
      let shape := if f.type.isArray then .array element else element
      some (.cons (Name.snake f.name) (Condition.within f.versions r.versions) f.default shape rest))
      (some .nil)

/-- The shape of a structure of a message. A chain of structures that is longer than their number repeats
one of them, and then there is no shape. -/
def shapeOf (m : Message) (r : Record) : Option Shape :=
  (membersOf m (m.records.length + 1) r).map (.struct r.name ·)

end WireSchema.Wire
