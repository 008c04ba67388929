import CaseSynthesis.Program.Lowering

/-! Enums with further cases. The strings that stood for raw values are gone from them, since they
are no discriminants. -/

namespace CaseSynthesis.Grammar

def Variant.withoutString (variant : Variant) : Variant :=
  match variant.discriminant with
  | some (_, value) =>
    if value.string?.isSome then { variant with discriminant := none } else variant
  | none => variant

def Variant.ofIdent (span : Span) (ident : Ident) : Variant where
  attributes := []
  name := ⟨.ident ident, span⟩
  fields := []
  discriminant := none

def commaBetween {α : Type} (span : Span) : List α → Parser.Separated α
  | [] => []
  | [last] => [(last, [])]
  | phrase :: rest => (phrase, [⟨.punct ',' false, span⟩]) :: commaBetween span rest

namespace EnumItem

def ownVariants (item : EnumItem) : List Variant := item.variants.map Prod.fst

/-- The enum with a variant for each name after its own. What is added stands where the name of the
enum does. -/
def withCases (item : EnumItem) (names : List Ident) : EnumItem :=
  let span := item.name.span
  { item with
    variants := commaBetween span
      (item.ownVariants.map Variant.withoutString ++ names.map (Variant.ofIdent span)) }

end EnumItem

end CaseSynthesis.Grammar
