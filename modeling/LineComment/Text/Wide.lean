import LineComment.Text.Units

namespace LineComment

@[ext]
structure Wide where
  units : List Nat
  deriving DecidableEq

namespace Wide

def ofString (s : String) : Wide :=
  ⟨Text.units s.toList⟩

instance : Coe String Wide :=
  ⟨ofString⟩

instance : Append Wide :=
  ⟨fun a b => ⟨a.units ++ b.units⟩⟩

def isEmpty (w : Wide) : Bool :=
  w.units.isEmpty

def intercalate (separator : Wide) (parts : List Wide) : Wide :=
  ⟨separator.units.intercalate (parts.map units)⟩

/-- The text with a replacement character for each half of a pair that stands alone. -/
def text (w : Wide) : String :=
  .ofList (Text.ofUnits w.units)

@[simp] theorem units_ofString (s : String) : (ofString s).units = Text.units s.toList := rfl

@[simp] theorem units_append (a b : Wide) : (a ++ b).units = a.units ++ b.units := rfl

@[simp] theorem text_ofString (s : String) : (ofString s).text = s := by
  simp [text]

@[simp] theorem ofString_append (s t : String) :
    ofString (s ++ t) = ofString s ++ ofString t := by
  ext1
  simp [Text.units_append]

end Wide

end LineComment
