import EnclaveRegistry.Text.Hex
import EnclaveRegistry.Text.Base64

/-! # Shapes of exchanged data

Every record that is stored or exchanged has a shape, which fixes its values, its JSON form and its
binary form at once. The carrier of a shape is the plain type of its values; a domain type is tied
to the carrier of its shape by a bijection.
-/
namespace EnclaveRegistry.Schema

inductive ByteForm where
  | hex
  | base64
  deriving DecidableEq, Inhabited

inductive Width where
  | four
  | eight
  deriving DecidableEq, Inhabited

mutual

/-- The shape of a value. A `strict` record refuses members that it does not know. -/
inductive Shape where
  | bytes (form : ByteForm)
  | text
  | flag
  | natural (width : Width)
  | choice (names : List String)
  | optional (item : Shape)
  | list (item : Shape)
  | record (name : String) (strict : Bool) (fields : Fields)

inductive Fields where
  | nil
  | cons (name : String) (shape : Shape) (rest : Fields)

end

@[reducible] def Width.Carrier : Width → Type
  | four => UInt32
  | eight => UInt64

mutual

@[reducible] def Shape.Carrier : Shape → Type
  | .bytes _ => Bytes
  | .text => String
  | .flag => Bool
  | .natural width => width.Carrier
  | .choice names => Fin names.length
  | .optional item => Option (Shape.Carrier item)
  | .list item => List (Shape.Carrier item)
  | .record _ _ fields => Fields.Carrier fields

@[reducible] def Fields.Carrier : Fields → Type
  | .nil => Unit
  | .cons _ shape rest => Shape.Carrier shape × Fields.Carrier rest

end

def Fields.names : Fields → List String
  | .nil => []
  | .cons name _ rest => name :: rest.names

/-- A type whose values are in bijection with the carrier of a shape. -/
class Described (α : Type) where
  shape : Shape
  view : α → shape.Carrier
  build : shape.Carrier → α
  build_view : ∀ a, build (view a) = a
  view_build : ∀ c, view (build c) = c

variable {α : Type} [Described α]

abbrev shapeOf (α : Type) [Described α] : Shape := Described.shape α

instance : Described (Option α) where
  shape := .optional (shapeOf α)
  view a := a.map Described.view
  build c := c.map Described.build
  build_view a := by cases a <;> simp [Described.build_view]
  view_build c := by cases c <;> simp [Described.view_build]

instance : Described (List α) where
  shape := .list (shapeOf α)
  view a := a.map Described.view
  build c := c.map Described.build
  build_view a := by simp [Function.comp_def, Described.build_view]
  view_build c := by simp [Function.comp_def, Described.view_build]

instance : Described Bool where
  shape := .flag
  view a := a
  build c := c
  build_view _ := rfl
  view_build _ := rfl

instance : Described String where
  shape := .text
  view a := a
  build c := c
  build_view _ := rfl
  view_build _ := rfl

instance : Described UInt32 where
  shape := .natural .four
  view a := a
  build c := c
  build_view _ := rfl
  view_build _ := rfl

instance : Described UInt64 where
  shape := .natural .eight
  view a := a
  build c := c
  build_view _ := rfl
  view_build _ := rfl

end EnclaveRegistry.Schema
