import Calculator.Proofs.Conversion.Range

/-!
# Conversion to the same unit

A quantity that is converted to its own unit is what it was in metres, kilograms and degrees
Celsius. In every other unit it goes by way of these, and each operation on the way rounds: the
result is the quantity up to the tolerance of the unit (`MeasureUnit.tolerance`), if it is in range.
It need not be in range (`convert_leaves_range`), but it is where the products on the way are, and
so is the result in any other unit (`convert_faithful`).
-/

namespace Calculator

namespace Double

/-! ### Multiples of one -/

/-- A finite number times one is the number. -/
lemma mul_one_eq {x : Double} (hx : x.isFinite = true) : x * ofNat 1 = x := by
  obtain ⟨s, m, rfl⟩ := exists_eq_finite hx
  obtain ⟨unit, hunit, hsteps⟩ := ofNat_eq (n := 1) (by norm_num)
  rw [hunit, finite_mul_finite, Bool.bne_false, hsteps, ← ofSteps_steps s m]
  refine ofSteps_congr s Magnitude.one_pos Nat.one_pos ?_
  rw [Nat.mul_one, Nat.one_mul]

/-- A finite number over one is the number. -/
lemma div_one_eq {x : Double} (hx : x.isFinite = true) : x / ofNat 1 = x := by
  obtain ⟨s, m, rfl⟩ := exists_eq_finite hx
  obtain ⟨unit, hunit, hsteps⟩ := ofNat_eq (n := 1) (by norm_num)
  rw [Nat.one_mul] at hsteps
  rw [hunit, finite_div_finite, hsteps, if_neg Magnitude.one_pos.ne', Bool.bne_false,
    ← ofSteps_steps s m]
  exact ofSteps_congr s Magnitude.one_pos Nat.one_pos (Nat.mul_one _)

/-! ### There and back -/

/-- Half of a step is tiny. -/
lemma half_step_le : 1 / (2 * (Magnitude.one : ℚ)) ≤ 1 / 2 ^ 101 := by
  have hone : ((2 ^ 100 : ℕ) : ℚ) ≤ Magnitude.one :=
    Nat.cast_le.mpr (Nat.pow_le_pow_right (by decide) (by decide))
  rw [Nat.cast_pow, Nat.cast_ofNat] at hone
  exact one_div_le_one_div_of_le (by norm_num) (by linarith)

/-- A number that is multiplied and divided by a factor changes by at most one unit in the last
place, or by a step for each part into which the factor divides one. -/
lemma abs_mul_div_sub_le {x a : Double} (hx : x.isFinite = true) (ha : 1 / 1000 ≤ a.toRat)
    (h : (x * a / a).isFinite = true) :
    |(x * a / a).toRat - x.toRat| ≤ max (|x.toRat| / 2 ^ 52) (1000 / (Magnitude.one : ℚ)) := by
  have hpos : 0 < a.toRat := lt_of_lt_of_le (by norm_num) ha
  have hafinite := isFinite_of_toRat_ne hpos.ne'
  have hproduct : (x * a).isFinite = true := isFinite_of_div h
  have herror := (rounds_mul hx hafinite).error hproduct
  have hback := (rounds_div hproduct hafinite hpos.ne').abs_sub_le_twice h hx
  have hscale : (x * a).toRat / a.toRat - x.toRat =
      ((x * a).toRat - x.toRat * a.toRat) / a.toRat := by
    rw [sub_div, mul_div_cancel_right₀ _ hpos.ne']
  have hone := Magnitude.cast_one_pos
  rw [hscale, abs_div, abs_of_pos hpos, ← mul_div_assoc] at hback
  refine hback.trans ((div_le_iff₀ hpos).mpr ?_)
  rcases le_max_iff.mp herror with hrelative | hsmall
  · calc 2 * |(x * a).toRat - x.toRat * a.toRat| ≤ |x.toRat| / 2 ^ 52 * a.toRat := by
          rw [abs_mul, abs_of_pos hpos] at hrelative
          linarith
      _ ≤ max (|x.toRat| / 2 ^ 52) (1000 / (Magnitude.one : ℚ)) * a.toRat :=
          mul_le_mul_of_nonneg_right (le_max_left _ _) hpos.le
  · calc 2 * |(x * a).toRat - x.toRat * a.toRat| ≤ 2 * (1 / (2 * (Magnitude.one : ℚ))) :=
          mul_le_mul_of_nonneg_left hsmall (by norm_num)
      _ = 1000 / (Magnitude.one : ℚ) * (1 / 1000) := by field_simp
      _ ≤ 1000 / (Magnitude.one : ℚ) * a.toRat :=
          mul_le_mul_of_nonneg_left ha (div_nonneg (by norm_num) hone.le)
      _ ≤ max (|x.toRat| / 2 ^ 52) (1000 / (Magnitude.one : ℚ)) * a.toRat :=
          mul_le_mul_of_nonneg_right (le_max_right _ _) hpos.le

/-- A number from which another is taken and to which it is added again changes by at most one unit
in the last place of their difference. -/
lemma abs_sub_add_sub_le {x c : Double} (hx : x.isFinite = true) (hc : c.isFinite = true)
    (h : (x - c + c).isFinite = true) :
    |(x - c + c).toRat - x.toRat| ≤ |x.toRat - c.toRat| / 2 ^ 52 + 1 / 2 ^ 100 := by
  have hdifference : (x - c).isFinite = true := (isFinite_of_add h).1
  have herror := (rounds_sub hx hc).error hdifference
  have hback := (rounds_add hdifference hc).abs_sub_le_twice h hx
  have hshift : (x - c).toRat + c.toRat - x.toRat = (x - c).toRat - (x.toRat - c.toRat) := by ring
  have hstep := half_step_le
  rw [hshift] at hback
  have hnonneg : 0 ≤ |x.toRat - c.toRat| := abs_nonneg _
  rcases le_max_iff.mp herror with hrelative | hsmall <;> linarith

/-- A multiple that is rounded is as accurate as the number itself. -/
lemma Rounds.scaled_error {q : ℚ} {d : Double} (h : Rounds q d) (hd : d.isFinite = true) {k : ℚ}
    (hk : 1 / 2 ≤ k) : |d.toRat / k - q / k| ≤ |q / k| / 2 ^ 53 + 1 / 2 ^ 100 := by
  have hpos : 0 < k := lt_of_lt_of_le (by norm_num) hk
  have herror := h.error hd
  have hstep := half_step_le
  have hnonneg : 0 ≤ |q| := abs_nonneg q
  rw [← sub_div, abs_div, abs_div, abs_of_pos hpos, div_le_iff₀ hpos]
  have hsize : (|q| / k / 2 ^ 53 + 1 / 2 ^ 100) * k = |q| / 2 ^ 53 + 1 / 2 ^ 100 * k := by
    field_simp
  rw [hsize]
  rcases le_max_iff.mp herror with hrelative | hsmall <;> linarith

/-- Rounding an intermediate result takes it little further away from where it began. -/
lemma drift_step {k u z z' : ℚ} (hk : k ≤ 2 ^ 49) (h : |z - u| ≤ k * (|u| + 1) / 2 ^ 53)
    (hz : |z' - z| ≤ |z| / 2 ^ 53 + 1 / 2 ^ 100) :
    |z' - u| ≤ (k + 9 / 8) * (|u| + 1) / 2 ^ 53 := by
  have hsize : |z| ≤ |u| + |z - u| := by
    have htriangle := abs_sub_abs_le_abs_sub z u
    linarith
  have hpath := abs_sub_le z' z u
  have hone : 1 ≤ |u| + 1 := by linarith [abs_nonneg u]
  have hbound : k * (|u| + 1) ≤ 2 ^ 49 * (|u| + 1) :=
    mul_le_mul_of_nonneg_right hk (by linarith)
  linarith

/-- A number of degrees Fahrenheit by way of degrees Celsius: five operations round on the way there
and back, and one at the end. -/
lemma abs_fahrenheit_sub_le {x : Double} (hx : x.isFinite = true)
    (h : ((x - 32) * 5 / 9 * 9 / 5 + 32).isFinite = true) :
    |((x - 32) * 5 / 9 * 9 / 5 + 32).toRat - x.toRat| ≤ (|x.toRat| + 32) / 2 ^ 49 := by
  have hfiveRat : (5 : Double).toRat = 5 := toRat_ofNat (by norm_num)
  have hnineRat : (9 : Double).toRat = 9 := toRat_ofNat (by norm_num)
  have hthirtyTwoRat : (32 : Double).toRat = 32 := toRat_ofNat (by norm_num)
  have hfive : (5 : Double).isFinite = true := isFinite_ofNat (by norm_num)
  have hnine : (9 : Double).isFinite = true := isFinite_ofNat (by norm_num)
  have hthirtyTwo : (32 : Double).isFinite = true := isFinite_ofNat (by norm_num)
  have hlast : ((x - 32) * 5 / 9 * 9 / 5).isFinite = true := (isFinite_of_add h).1
  have hninefold : ((x - 32) * 5 / 9 * 9).isFinite = true := isFinite_of_div hlast
  have hcelsius : ((x - 32) * 5 / 9).isFinite = true := (isFinite_of_mul hninefold).1
  have hfivefold : ((x - 32) * 5).isFinite = true := isFinite_of_div hcelsius
  have hdifference : (x - 32).isFinite = true := (isFinite_of_mul hfivefold).1
  have h₁ := (rounds_sub hx hthirtyTwo).scaled_error hdifference (k := 1) (by norm_num)
  have h₂ := (rounds_mul hdifference hfive).scaled_error hfivefold (k := 5) (by norm_num)
  have h₃ := (rounds_div hfivefold hnine (by rw [hnineRat]; norm_num)).scaled_error hcelsius
    (k := 5 / 9) (by norm_num)
  have h₄ := (rounds_mul hcelsius hnine).scaled_error hninefold (k := 5) (by norm_num)
  have h₅ := (rounds_div hninefold hfive (by rw [hfiveRat]; norm_num)).scaled_error hlast
    (k := 1) (by norm_num)
  have hback := (rounds_add hlast hthirtyTwo).abs_sub_le_twice h hx
  -- In fifths and ninths of a degree every intermediate result is near the first difference.
  have hfifth : ∀ q : ℚ, q * 5 / 5 = q := fun q => by ring
  have hninth : ∀ q : ℚ, q / 9 / (5 / 9) = q / 5 := fun q => by ring
  have hfifths : ∀ q : ℚ, q * 9 / 5 = q / (5 / 9) := fun q => by ring
  rw [hthirtyTwoRat, div_one, div_one] at h₁
  rw [hfiveRat, hfifth] at h₂
  rw [hnineRat, hninth] at h₃
  rw [hnineRat, hfifths] at h₄
  rw [hfiveRat, div_one, div_one] at h₅
  have hstart : |(x.toRat - 32) - (x.toRat - 32)| ≤ 0 * (|x.toRat - 32| + 1) / 2 ^ 53 := by simp
  have hdrift := drift_step (by norm_num) (drift_step (by norm_num) (drift_step (by norm_num)
    (drift_step (by norm_num) (drift_step (by norm_num) hstart h₁) h₂) h₃) h₄) h₅
  have hshift : ((x - 32) * 5 / 9 * 9 / 5).toRat + 32 - x.toRat =
      ((x - 32) * 5 / 9 * 9 / 5).toRat - (x.toRat - 32) := by ring
  rw [hthirtyTwoRat, hshift] at hback
  have hsize : |x.toRat - 32| ≤ |x.toRat| + 32 := by
    have htriangle := abs_sub x.toRat 32
    rwa [abs_of_pos (by norm_num : (0 : ℚ) < 32)] at htriangle
  linarith [abs_nonneg x.toRat]

end Double

/-! ### The same unit -/

/-- The unit by way of which a category is converted. -/
def Category.base : Category → String
  | .length => "m"
  | .weight => "kg"
  | .temperature => "C"

namespace MeasureUnit

/-- How far a quantity may be from itself when it is converted to its own unit. -/
def tolerance (u : MeasureUnit) (x : ℚ) : ℚ :=
  match u.measure with
  | .factor _ => max (|x| / 2 ^ 52) (1000 / 2 ^ 1074)
  | .scale .celsius => 0
  | .scale .fahrenheit => (|x| + 32) / 2 ^ 49
  | .scale .kelvin => (|x| + 274) / 2 ^ 52

/-- A quantity in a base unit is converted to itself. -/
lemma convert_base {category : Category} {u : MeasureUnit} (hu : u ∈ category.units)
    (hbase : u.name = category.base) {x : Double} (hx : x.isFinite = true) :
    u.measure.convert x u.measure = x := by
  have hone : x * Decimal.toDouble false ⟨1, 0⟩ / Decimal.toDouble false ⟨1, 0⟩ = x := by
    have hunit : Decimal.toDouble false ⟨1, 0⟩ = Double.ofNat 1 := by
      simp [Decimal.toDouble, Double.ofNat]
    rw [hunit, Double.mul_one_eq hx, Double.div_one_eq hx]
  have hfound := unit?_name hu
  rw [hbase] at hfound
  cases category <;> cases hfound
  · exact hone
  · exact hone
  · rfl

/-- A quantity that is converted to its own unit in range keeps to the tolerance. -/
lemma abs_convert_self_sub_le {category : Category} {u : MeasureUnit} (hu : u ∈ category.units)
    {x : Double} (hx : x.isFinite = true) (h : (u.measure.convert x u.measure).isFinite = true) :
    |(u.measure.convert x u.measure).toRat - x.toRat| ≤ u.tolerance x.toRat := by
  by_cases hc : category = .temperature
  · subst hc
    obtain ⟨scale, hscale⟩ := exists_scale hu
    rw [tolerance]
    rw [hscale] at h ⊢
    cases scale with
    | celsius =>
      have hself : Measure.convert x (.scale .celsius) (.scale .celsius) = x := rfl
      rw [hself, sub_self, abs_zero]
    | fahrenheit => exact Double.abs_fahrenheit_sub_le hx h
    | kelvin =>
      have hice : iceInKelvin.isFinite = true := iceInKelvin_within.isFinite
      have hbound := Double.abs_sub_add_sub_le hx hice h
      have hsize : |iceInKelvin.toRat| ≤ 2732 / 10 :=
        (abs_of_nonneg iceInKelvin_within.nonneg).trans_le iceInKelvin_bounds.2
      have htriangle := abs_sub x.toRat iceInKelvin.toRat
      refine hbound.trans ?_
      linarith
  · obtain ⟨ratio, hratio⟩ := exists_isMultiple .binary hc hu
    have hone : (Magnitude.one : ℚ) = 2 ^ 1074 := by
      simp only [Magnitude.one, Magnitude.scale, Nat.cast_pow, Nat.cast_ofNat]
    rw [tolerance]
    rw [hratio.measure] at h ⊢
    rw [← hone]
    exact Double.abs_mul_div_sub_le hx hratio.thousandth_le h

end MeasureUnit

/-- A finite quantity is converted between two units of a category to a finite one, if the exact
result and the exact products on the way do not exceed the largest double; whether the figures of
the units are taken as decimals or as the doubles nearest to them. For lengths and weights only the
result counts, unless kilometres are converted to kilometres. Converted to its own unit, a quantity
is the same in a base unit, and in another one it keeps to the tolerance of the unit if it is
finite. -/
theorem convert_faithful (f : Figures) {category : Category} {s t : MeasureUnit}
    (hs : s ∈ category.units) (ht : t ∈ category.units) {x : Double} (hx : x.isFinite = true) :
    ∃ y, convert x category s.name t.name = .ok y ∧
      (s.InReach f t x.toRat → y.isFinite = true) ∧
      (category ≠ .temperature → s.name ≠ "km" ∨ t.name ≠ "km" →
        |s.exact f t x.toRat| ≤ Double.largest → y.isFinite = true) ∧
      (s.name = t.name →
        (s.name = category.base → y = x) ∧
        (y.isFinite = true → |y.toRat - x.toRat| ≤ s.tolerance x.toRat)) := by
  have hfinite := MeasureUnit.isFinite_convert f hs ht hx
  refine ⟨s.measure.convert x t.measure, ?_, hfinite, fun hc hkm hexact => ?_, ?_⟩
  · rw [convert, MeasureUnit.unit?_name hs, MeasureUnit.unit?_name ht]
  · exact hfinite (MeasureUnit.inReach_of_exact hc hs ht hkm hx hexact)
  · intro hname
    have hsame : s = t := by
      have hfound := MeasureUnit.unit?_name hs
      rw [hname, MeasureUnit.unit?_name ht] at hfound
      exact (Option.some.inj hfound).symm
    subst hsame
    exact ⟨fun hbase => MeasureUnit.convert_base hs hbase hx,
      MeasureUnit.abs_convert_self_sub_le hs hx⟩

/-- A temperature whose fivefold is nearly the largest double is converted to its own unit. -/
theorem convert_faithful_of_hot :
    let u : MeasureUnit := ⟨"F", .scale .fahrenheit⟩
    let x := Decimal.toDouble false ⟨35, 306⟩
    u ∈ Category.temperature.units ∧ x.isFinite = true ∧ u.InReach .decimal u x.toRat ∧
      ∃ y, convert x .temperature "F" "F" = .ok y ∧ y.isFinite = true ∧
        |y.toRat - x.toRat| ≤ (|x.toRat| + 32) / 2 ^ 49 := by
  intro u x
  have hu : u ∈ Category.temperature.units := List.mem_cons_of_mem _ List.mem_cons_self
  have hx : x.isFinite = true := by decide +kernel
  have hreach : u.InReach .decimal u x.toRat := ⟨by decide +kernel, by decide +kernel⟩
  obtain ⟨y, hconvert, hfinite, -, hself⟩ := convert_faithful .decimal hu hu hx
  exact ⟨hu, hx, hreach, y, hconvert, hfinite hreach, (hself rfl).2 (hfinite hreach)⟩

/-- In kilometres, a number below the largest double is out of range when it is converted to
kilometres, and so is a temperature that is converted to degrees Fahrenheit, although the exact
results are in range. And seven centimetres are not exactly seven centimetres. -/
theorem convert_leaves_range :
    (let km : MeasureUnit := ⟨"km", .factor (Decimal.toDouble false ⟨1000, 0⟩)⟩
      let x := Decimal.toDouble false ⟨1, 308⟩
      x.isFinite = true ∧ (∀ f, |km.exact f km x.toRat| < Double.largest) ∧
        convert x .length "km" "km" = .ok (.infinite false)) ∧
    (let celsius : MeasureUnit := ⟨"C", .scale .celsius⟩
      let fahrenheit : MeasureUnit := ⟨"F", .scale .fahrenheit⟩
      let x := Decimal.toDouble false ⟨9, 307⟩
      x.isFinite = true ∧ (∀ f, |celsius.exact f fahrenheit x.toRat| < Double.largest) ∧
        convert x .temperature "C" "F" = .ok (.infinite false)) ∧
    convert 7 .length "cm" "cm" ≠ .ok 7 := by
  refine ⟨⟨by decide +kernel, fun f => ?_, by decide +kernel⟩,
    ⟨by decide +kernel, fun f => ?_, by decide +kernel⟩, by decide +kernel⟩
  · cases f <;> decide +kernel
  · cases f <;> decide +kernel

end Calculator
