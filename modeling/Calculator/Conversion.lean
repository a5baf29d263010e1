import Calculator.Double.Arithmetic
import Calculator.Decimal
import Calculator.Text.Quoted

/-!
# Unit conversion

Lengths and weights are converted by the ratio of the two units to the base unit of their category,
temperatures by way of degrees Celsius.
-/

namespace Calculator

/-- What a unit measures. -/
inductive Category where
  | length
  | weight
  | temperature
deriving DecidableEq, Repr

namespace Category

/-- All categories. -/
def all : List Category := [.length, .weight, .temperature]

/-- The name of a category. -/
def name : Category → String
  | .length => "length"
  | .weight => "weight"
  | .temperature => "temperature"

/-- The category of a name. -/
def ofName? (name : String) : Option Category := all.find? (·.name = name)

/-- A category is found by its name. -/
theorem ofName?_name (category : Category) : ofName? category.name = some category := by
  cases category <;> rfl

end Category

/-! ### Units -/

/-- A scale of temperature. -/
inductive TemperatureScale where
  | celsius
  | fahrenheit
  | kelvin
deriving DecidableEq, Repr

/-- How a unit measures. -/
inductive Measure where
  /-- As a multiple of the base unit. -/
  | factor (ratio : Double)
  /-- On a scale of temperature. -/
  | scale (scale : TemperatureScale)

/-- A unit. -/
structure MeasureUnit where
  name : String
  measure : Measure

namespace Category

/-- A unit that is the given decimal multiple of the base unit. -/
def linear (name : String) (coefficient : Nat) (exponent : Int) : MeasureUnit :=
  ⟨name, .factor (Decimal.toDouble false ⟨coefficient, exponent⟩)⟩

/-- The units of a category in the order in which they are offered. -/
def units : Category → List MeasureUnit
  | .length => [linear "m" 1 0, linear "km" 1000 0, linear "cm" 1 (-2), linear "mm" 1 (-3)]
  | .weight =>
    [linear "kg" 1 0, linear "g" 1 (-3), linear "lb" 453592 (-6), linear "oz" 283495 (-7)]
  | .temperature => [⟨"C", .scale .celsius⟩, ⟨"F", .scale .fahrenheit⟩, ⟨"K", .scale .kelvin⟩]

/-- The names of the units of a category. -/
def unitNames (category : Category) : List String := category.units.map (·.name)

/-- The unit of a name within a category. -/
def unit? (category : Category) (name : String) : Option MeasureUnit :=
  category.units.find? (·.name = name)

end Category

/-! ### Temperatures -/

/-- The zero of the Celsius scale in kelvins. -/
def iceInKelvin : Double := Decimal.toDouble false ⟨27315, -2⟩

namespace TemperatureScale

/-- A temperature on a scale in degrees Celsius. -/
def toCelsius (scale : TemperatureScale) (x : Double) : Double :=
  match scale with
  | .celsius => x
  | .fahrenheit => (x - 32) * 5 / 9
  | .kelvin => x - iceInKelvin

/-- A temperature in degrees Celsius on a scale. -/
def ofCelsius (scale : TemperatureScale) (x : Double) : Double :=
  match scale with
  | .celsius => x
  | .fahrenheit => x * 9 / 5 + 32
  | .kelvin => x + iceInKelvin

end TemperatureScale

/-! ### Conversion -/

/-- A quantity in another unit. Units of different kinds, which no category holds together, leave it
as it is. -/
def Measure.convert (x : Double) : Measure → Measure → Double
  | .factor a, .factor b => x * a / b
  | .scale a, .scale b => b.ofCelsius (a.toCelsius x)
  | _, _ => x

/-- A unit that is not in the category. -/
structure UnknownUnit where
  category : Category
  name : String
deriving DecidableEq, Repr

/-- What is said of a unit that is not in the category. -/
def UnknownUnit.message (e : UnknownUnit) : String :=
  "Unknown " ++ e.category.name ++ " unit: " ++ Text.quotedString e.name ++
    " (choose from " ++ ", ".intercalate e.category.unitNames ++ ")"

/-- The quantity converted between two units of a category. Of two unknown units the first is
reported. -/
def convert (x : Double) (category : Category) (source target : String) :
    Except UnknownUnit Double :=
  match category.unit? source with
  | none => .error ⟨category, source⟩
  | some a =>
    match category.unit? target with
    | none => .error ⟨category, target⟩
    | some b => .ok (a.measure.convert x b.measure)

end Calculator
