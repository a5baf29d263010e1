import Calculator.Conversion
import Calculator.Proofs.Double.Bounds

/-!
# The range of conversions

A conversion is compared with the exact one in rational numbers (`MeasureUnit.exact`). It can leave
the range of doubles although the exact result does not: a product that is formed on the way may be
larger than the result. Where these products are in range as well (`MeasureUnit.InReach`), the
conversion stays in range (`MeasureUnit.isFinite_convert`).

For every unit of length and weight this is decided for the greatest product that can be in reach,
and for temperatures for the greatest value: what is smaller is converted to what is smaller.
-/

namespace Calculator

/-! ### Exact conversion -/

/-- How the figures of the units are read: as the decimals that are written for them, or as the
doubles nearest to these. -/
inductive Figures where
  | decimal
  | binary

/-- The zero of the Celsius scale in kelvins. -/
def Figures.ice : Figures → ℚ
  | decimal => 27315 / 100
  | binary => iceInKelvin.toRat

/-- The doubles that stand for the sizes of units exceed the figures at most by this factor. -/
def Figures.excess : Figures → ℚ
  | decimal => 1 + 3 / 2 ^ 57
  | binary => 1

namespace TemperatureScale

/-- The exact temperature in degrees Celsius. -/
def exactToCelsius (ice : ℚ) (scale : TemperatureScale) (x : ℚ) : ℚ :=
  match scale with
  | .celsius => x
  | .fahrenheit => (x - 32) * 5 / 9
  | .kelvin => x - ice

/-- The exact temperature on a scale. -/
def exactOfCelsius (ice : ℚ) (scale : TemperatureScale) (x : ℚ) : ℚ :=
  match scale with
  | .celsius => x
  | .fahrenheit => x * 9 / 5 + 32
  | .kelvin => x + ice

end TemperatureScale

namespace MeasureUnit

/-- The sizes of the units of length in metres and of the units of weight in kilograms. -/
def decimalSizes : List (String × ℚ) :=
  [("m", 1), ("km", 1000), ("cm", 1 / 100), ("mm", 1 / 1000),
    ("kg", 1), ("g", 1 / 1000), ("lb", 453592 / 1000000), ("oz", 283495 / 10000000)]

/-- The size of a unit in base units. -/
def size (f : Figures) (u : MeasureUnit) : ℚ :=
  match f, u.measure with
  | .decimal, _ => (decimalSizes.lookup u.name).getD 0
  | .binary, .factor ratio => ratio.toRat
  | .binary, .scale _ => 0

/-- The exact value of a quantity in another unit. -/
def exact (f : Figures) (s t : MeasureUnit) (x : ℚ) : ℚ :=
  match s.measure, t.measure with
  | .factor _, .factor _ => x * s.size f / t.size f
  | .scale a, .scale b => b.exactOfCelsius f.ice (a.exactToCelsius f.ice x)
  | _, _ => x

/-- The exact values of the products that are formed on the way to another unit: the quantity in
base units, and temperatures multiplied by five and by nine where they are read from and given in
degrees Fahrenheit. -/
def products (f : Figures) (s t : MeasureUnit) (x : ℚ) : List ℚ :=
  match s.measure, t.measure with
  | .factor _, .factor _ => [x * s.size f]
  | .scale a, .scale b =>
    (if a = .fahrenheit then [(x - 32) * 5] else []) ++
      (if b = .fahrenheit then [a.exactToCelsius f.ice x * 9] else [])
  | _, _ => []

/-- The exact result of a conversion and the products on the way are at most the largest double. -/
structure InReach (f : Figures) (s t : MeasureUnit) (x : ℚ) : Prop where
  result : |s.exact f t x| ≤ Double.largest
  products : ∀ p ∈ s.products f t x, |p| ≤ Double.largest

/-! ### Units of a category -/

/-- A unit is found by its name. -/
lemma unit?_name {category : Category} {u : MeasureUnit} (h : u ∈ category.units) :
    category.unit? u.name = some u := by
  cases category <;>
    simp only [Category.units, List.mem_cons, List.not_mem_nil, or_false] at h <;>
    rcases h with rfl | rfl | rfl | rfl <;> rfl

/-- Units of temperature are scales. -/
lemma exists_scale {u : MeasureUnit} (h : u ∈ Category.temperature.units) :
    ∃ scale, u.measure = .scale scale := by
  simp only [Category.units, List.mem_cons, List.not_mem_nil, or_false] at h
  rcases h with rfl | rfl | rfl <;> exact ⟨_, rfl⟩

/-- What is known of a unit that is a multiple of its base unit: its ratio is near its size and not
below a thousandth, it is not larger than the base unit unless it is a kilometre, and the greatest
product that is in reach of a conversion to this unit can be divided by the ratio. -/
structure IsMultiple (f : Figures) (u : MeasureUnit) (ratio : Double) : Prop where
  measure : u.measure = .factor ratio
  size_pos : 0 < u.size f
  thousandth_le : 1 / 1000 ≤ ratio.toRat
  ratio_le : ratio.toRat ≤ u.size f * f.excess
  size_le : u.name = "km" ∨ u.size f ≤ 1
  isFinite_div :
    (Double.rounded (Double.largest * min 1 (u.size f) * f.excess) / ratio).isFinite = true

/-- The other units are multiples of their base unit. -/
lemma exists_isMultiple (f : Figures) {category : Category} (hc : category ≠ .temperature)
    {u : MeasureUnit} (h : u ∈ category.units) : ∃ ratio, u.IsMultiple f ratio := by
  cases category with
  | temperature => exact absurd rfl hc
  | length =>
    simp only [Category.units, List.mem_cons, List.not_mem_nil, or_false] at h
    cases f <;> rcases h with rfl | rfl | rfl | rfl <;>
      exact ⟨_, rfl, by decide +kernel, by decide +kernel, by decide +kernel, by decide +kernel,
        by decide +kernel⟩
  | weight =>
    simp only [Category.units, List.mem_cons, List.not_mem_nil, or_false] at h
    cases f <;> rcases h with rfl | rfl | rfl | rfl <;>
      exact ⟨_, rfl, by decide +kernel, by decide +kernel, by decide +kernel, by decide +kernel,
        by decide +kernel⟩

/-! ### Lengths and weights -/

/-- A ratio is a finite positive number. -/
lemma IsMultiple.ratio_pos {f : Figures} {u : MeasureUnit} {ratio : Double}
    (h : u.IsMultiple f ratio) : 0 < ratio.toRat :=
  lt_of_lt_of_le (by norm_num) h.thousandth_le

/-- A quantity in reach is converted in range. -/
lemma IsMultiple.isFinite_convert {f : Figures} {s t : MeasureUnit} {a b x : Double}
    (hs : s.IsMultiple f a) (ht : t.IsMultiple f b) (hx : x.isFinite = true)
    (h : s.InReach f t x.toRat) : (s.measure.convert x t.measure).isFinite = true := by
  obtain ⟨hresult, hproducts⟩ := h
  simp only [MeasureUnit.exact, hs.measure, ht.measure] at hresult
  simp only [MeasureUnit.products, hs.measure, ht.measure, List.mem_singleton, forall_eq]
    at hproducts
  rw [abs_div, abs_of_pos ht.size_pos, div_le_iff₀ ht.size_pos] at hresult
  have hexact : |x.toRat * s.size f| ≤ Double.largest * min 1 (t.size f) := by
    rcases min_choice 1 (t.size f) with hmin | hmin <;> rw [hmin]
    · rwa [mul_one]
    · exact hresult
  have hexcess : 0 ≤ f.excess := by cases f <;> norm_num [Figures.excess]
  have hproduct : |x.toRat * a.toRat| ≤ Double.largest * min 1 (t.size f) * f.excess := by
    calc |x.toRat * a.toRat| = |x.toRat| * a.toRat := by rw [abs_mul, abs_of_pos hs.ratio_pos]
      _ ≤ |x.toRat| * (s.size f * f.excess) :=
        mul_le_mul_of_nonneg_left hs.ratio_le (abs_nonneg _)
      _ = |x.toRat * s.size f| * f.excess := by
        rw [abs_mul, abs_of_pos hs.size_pos, mul_assoc]
      _ ≤ Double.largest * min 1 (t.size f) * f.excess :=
        mul_le_mul_of_nonneg_right hexact hexcess
  have ha : a.isFinite = true := Double.isFinite_of_toRat_ne hs.ratio_pos.ne'
  have hwithin := (Double.rounds_mul hx ha).within hproduct (Double.isFinite_of_div ht.isFinite_div)
  rw [hs.measure, ht.measure]
  exact (hwithin.div ht.ratio_pos ht.isFinite_div).isFinite

/-- The product of a quantity with the size of its unit does not matter, unless kilometres are
converted to kilometres: it is not larger than the quantity or not larger than the result. -/
lemma inReach_of_exact {f : Figures} {category : Category} (hc : category ≠ .temperature)
    {s t : MeasureUnit} (hs : s ∈ category.units) (ht : t ∈ category.units)
    (hkm : s.name ≠ "km" ∨ t.name ≠ "km") {x : Double} (hx : x.isFinite = true)
    (h : |s.exact f t x.toRat| ≤ Double.largest) : s.InReach f t x.toRat := by
  obtain ⟨a, hsource⟩ := exists_isMultiple f hc hs
  obtain ⟨b, htarget⟩ := exists_isMultiple f hc ht
  refine ⟨h, ?_⟩
  simp only [exact, hsource.measure, htarget.measure] at h
  simp only [MeasureUnit.products, hsource.measure, htarget.measure, List.mem_singleton, forall_eq]
  have hsmall : s.size f ≤ 1 ∨ t.size f ≤ 1 := by
    rcases hkm with hkm | hkm
    · exact Or.inl (hsource.size_le.resolve_left hkm)
    · exact Or.inr (htarget.size_le.resolve_left hkm)
  rcases hsmall with hsize | hsize
  · have hlargest : |x.toRat| ≤ Double.largest := Double.isGreatest_largest.2 ⟨x, hx, rfl⟩
    rw [abs_mul, abs_of_pos hsource.size_pos]
    exact (mul_le_of_le_one_right (abs_nonneg _) hsize).trans hlargest
  · rw [abs_div, abs_of_pos htarget.size_pos] at h
    exact (le_div_self (abs_nonneg _) htarget.size_pos hsize).trans h

end MeasureUnit

/-! ### Temperatures -/

/-- The double that stands for the zero of the Celsius scale is near 273 kelvins. -/
lemma iceInKelvin_bounds : 273 ≤ iceInKelvin.toRat ∧ iceInKelvin.toRat ≤ 2732 / 10 := by
  decide +kernel

/-- The zero of the Celsius scale is a bound of itself. -/
lemma iceInKelvin_within : iceInKelvin.Within iceInKelvin := by
  have hpos : 0 < iceInKelvin.toRat := lt_of_lt_of_le (by norm_num) iceInKelvin_bounds.1
  exact Double.within_self (Double.isFinite_of_toRat_ne hpos.ne') hpos.le

/-- The zero of the Celsius scale is below 274 kelvins. -/
lemma Figures.abs_ice_le (f : Figures) : |f.ice| ≤ 274 := by
  have hbounds := iceInKelvin_bounds
  rw [abs_le]
  cases f <;> simp only [Figures.ice] <;> constructor <;> linarith

namespace TemperatureScale

open Double

/-- A bound of temperatures in degrees Celsius: sums stand in place of differences. -/
def celsiusBound (scale : TemperatureScale) (b : Double) : Double :=
  match scale with
  | .celsius => b
  | .fahrenheit => (b + 32) * 5 / 9
  | .kelvin => b + iceInKelvin

/-- A temperature in degrees Celsius stays below the bound where the bound is in range. -/
lemma toCelsius_within {scale : TemperatureScale} {x b : Double} (hx : x.Within b)
    (h : (scale.celsiusBound b).isFinite = true) :
    (scale.toCelsius x).Within (scale.celsiusBound b) := by
  cases scale with
  | celsius => exact hx
  | kelvin => exact hx.add iceInKelvin_within.neg h
  | fahrenheit =>
    have hproduct : ((b + 32) * 5).isFinite = true := isFinite_of_div h
    have hsum : (b + 32).isFinite = true := (isFinite_of_mul hproduct).1
    have hthirtyTwo : Within 32 32 := within_ofNat (by norm_num)
    have hfive : Within 5 5 := within_ofNat (by norm_num)
    have hnine : (9 : Double).toRat = 9 := toRat_ofNat (by norm_num)
    have hdifference : (x - 32).Within (b + 32) := hx.add hthirtyTwo.neg hsum
    exact (hdifference.mul hfive hproduct).div (by rw [hnine]; norm_num) h

/-- A temperature on a scale stays below the bound where the bound is in range. -/
lemma ofCelsius_within {scale : TemperatureScale} {x b : Double} (hx : x.Within b)
    (h : (scale.ofCelsius b).isFinite = true) :
    (scale.ofCelsius x).Within (scale.ofCelsius b) := by
  cases scale with
  | celsius => exact hx
  | kelvin => exact hx.add iceInKelvin_within h
  | fahrenheit =>
    have hquotient : (b * 9 / 5).isFinite = true := (isFinite_of_add h).1
    have hproduct : (b * 9).isFinite = true := isFinite_of_div hquotient
    have hnine : Within 9 9 := within_ofNat (by norm_num)
    have hthirtyTwo : Within 32 32 := within_ofNat (by norm_num)
    have hfive : (5 : Double).toRat = 5 := toRat_ofNat (by norm_num)
    exact ((hx.mul hnine hproduct).div (by rw [hfive]; norm_num) hquotient).add hthirtyTwo h

/-- A bound in degrees Celsius is in range if what it is converted to is. -/
lemma isFinite_of_ofCelsius {scale : TemperatureScale} {b : Double}
    (h : (scale.ofCelsius b).isFinite = true) : b.isFinite = true := by
  cases scale with
  | celsius => exact h
  | kelvin => exact (isFinite_of_add h).1
  | fahrenheit => exact (isFinite_of_mul (isFinite_of_div (isFinite_of_add h).1)).1

/-- A bound of the temperatures that are in reach of a conversion. -/
def reach : TemperatureScale → TemperatureScale → ℚ
  | .fahrenheit, _ => largest / 5 + 32
  | _, .fahrenheit => largest / 9 + 274
  | _, _ => largest

/-- Temperatures in reach do not exceed the bound. -/
lemma abs_le_reach {f : Figures} {s t : MeasureUnit} {a b : TemperatureScale}
    (ha : s.measure = .scale a) (hb : t.measure = .scale b) {x : Double} (hx : x.isFinite = true)
    (h : s.InReach f t x.toRat) : |x.toRat| ≤ a.reach b := by
  have hlargest : |x.toRat| ≤ largest := isGreatest_largest.2 ⟨x, hx, rfl⟩
  obtain ⟨-, hproducts⟩ := h
  simp only [MeasureUnit.products, ha, hb, List.mem_append] at hproducts
  have hscaled : ∀ {q k : ℚ}, 0 < k → |q * k| ≤ largest → |q| ≤ largest / k := by
    intro q k hk hle
    rwa [abs_mul, abs_of_pos hk, ← le_div_iff₀ hk] at hle
  cases a with
  | fahrenheit =>
    have hfive : |x.toRat - 32| ≤ largest / 5 :=
      hscaled (by norm_num) (hproducts _ (Or.inl List.mem_cons_self))
    have hsub := abs_sub_abs_le_abs_sub x.toRat 32
    rw [abs_of_pos (by norm_num : (0 : ℚ) < 32)] at hsub
    rw [reach]
    linarith
  | celsius =>
    cases b with
    | celsius => exact hlargest
    | kelvin => exact hlargest
    | fahrenheit =>
      have hnine : |x.toRat| ≤ largest / 9 :=
        hscaled (by norm_num) (hproducts _ (Or.inr List.mem_cons_self))
      rw [reach]
      · linarith
      · exact nofun
  | kelvin =>
    cases b with
    | celsius => exact hlargest
    | kelvin => exact hlargest
    | fahrenheit =>
      have hnine : |x.toRat - f.ice| ≤ largest / 9 :=
        hscaled (by norm_num) (hproducts _ (Or.inr List.mem_cons_self))
      have hsub := abs_sub_abs_le_abs_sub x.toRat f.ice
      have hice := f.abs_ice_le
      rw [reach]
      · linarith
      · exact nofun

/-- The bound of the temperatures in reach is converted in range. -/
lemma isFinite_bound (a b : TemperatureScale) :
    (b.ofCelsius (a.celsiusBound (greatest (a.reach b)))).isFinite = true := by
  cases a <;> cases b <;> decide +kernel

/-- A temperature in reach is converted in range. -/
lemma isFinite_convert {f : Figures} {s t : MeasureUnit} {a b : TemperatureScale}
    (ha : s.measure = .scale a) (hb : t.measure = .scale b) {x : Double} (hx : x.isFinite = true)
    (h : s.InReach f t x.toRat) : (s.measure.convert x t.measure).isFinite = true := by
  have hbound := isFinite_bound a b
  have hwithin := within_greatest hx (abs_le_reach ha hb hx h)
  rw [ha, hb]
  exact (ofCelsius_within (toCelsius_within hwithin (isFinite_of_ofCelsius hbound)) hbound).isFinite

end TemperatureScale

/-! ### Conversion in range -/

/-- A quantity in reach is converted in range. -/
theorem MeasureUnit.isFinite_convert (f : Figures) {category : Category} {s t : MeasureUnit}
    (hs : s ∈ category.units) (ht : t ∈ category.units) {x : Double} (hx : x.isFinite = true)
    (h : s.InReach f t x.toRat) : (s.measure.convert x t.measure).isFinite = true := by
  by_cases hc : category = .temperature
  · subst hc
    obtain ⟨a, ha⟩ := exists_scale hs
    obtain ⟨b, hb⟩ := exists_scale ht
    exact TemperatureScale.isFinite_convert ha hb hx h
  · obtain ⟨a, hsource⟩ := exists_isMultiple f hc hs
    obtain ⟨b, htarget⟩ := exists_isMultiple f hc ht
    exact hsource.isFinite_convert htarget hx h

end Calculator
