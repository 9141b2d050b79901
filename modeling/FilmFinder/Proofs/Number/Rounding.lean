import FilmFinder.Number.Binary64

/-!
# Rounding to binary64

A quotient is rounded on the grid of the binary64 numbers of its size. Rounding keeps the order of
the quotients with one denominator, leaves the numbers of a grid alone, and forgets a rest of less
than half a gap. A rounded magnitude below the bound of the finite numbers is the magnitude of a
finite number; any other is infinite.
-/
namespace FilmFinder

/-- The whole number nearest to a quotient is the one below it or the next. -/
theorem roundHalfEven_bounds (numerator denominator : Nat) :
    numerator / denominator ≤ roundHalfEven numerator denominator ∧
      roundHalfEven numerator denominator ≤ numerator / denominator + 1 := by
  unfold roundHalfEven
  dsimp only
  split
  · omega
  · split <;> omega

/-- Of two quotients with one denominator, the larger is not rounded below the smaller. -/
theorem roundHalfEven_mono {smaller larger : Nat} (ordered : smaller ≤ larger)
    (denominator : Nat) :
    roundHalfEven smaller denominator ≤ roundHalfEven larger denominator := by
  have floors : smaller / denominator ≤ larger / denominator := Nat.div_le_div_right ordered
  rcases Nat.lt_or_eq_of_le floors with apart | same
  · have below := (roundHalfEven_bounds smaller denominator).2
    have above := (roundHalfEven_bounds larger denominator).1
    omega
  · have rests : smaller % denominator ≤ larger % denominator := by
      have smallerParts := Nat.div_add_mod smaller denominator
      have largerParts := Nat.div_add_mod larger denominator
      rw [same] at smallerParts
      omega
    unfold roundHalfEven
    rw [same]
    dsimp only
    split <;> split <;> (try split) <;> (try split) <;> omega

/-- A whole number and less than half of the denominator are rounded to the whole number. -/
theorem roundHalfEven_of_near (whole : Nat) {rest denominator : Nat}
    (near : 2 * rest < denominator) :
    roundHalfEven (whole * denominator + rest) denominator = whole := by
  have floor : (whole * denominator + rest) / denominator = whole := by
    rw [Nat.mul_comm, Nat.mul_add_div (by omega), Nat.div_eq_of_lt (by omega), Nat.add_zero]
  have remainder : (whole * denominator + rest) % denominator = rest := by
    rw [Nat.mul_comm, Nat.mul_add_mod, Nat.mod_eq_of_lt (by omega)]
  unfold roundHalfEven
  rw [floor, remainder]
  exact if_pos near

namespace Binary64

/-- The gap between the binary64 numbers at a scale. -/
def gapAt (scale : Nat) : Nat := Nat.pow 2 scale

/-- A gap is never empty. -/
theorem gapAt_pos (scale : Nat) : 0 < gapAt scale := Nat.two_pow_pos scale

/-- The gap doubles from one scale to the next. -/
theorem gapAt_succ (scale : Nat) : gapAt (scale + 1) = 2 * gapAt scale := Nat.pow_succ'

/-- Gaps of added scales are multiplied. -/
theorem gapAt_add (left right : Nat) : gapAt (left + right) = gapAt left * gapAt right :=
  Nat.pow_add 2 left right

/-- The gap grows with the scale. -/
theorem gapAt_mono {finer coarser : Nat} (ordered : finer ≤ coarser) :
    gapAt finer ≤ gapAt coarser :=
  Nat.pow_le_pow_right (by decide) ordered

/-- Below a gap the scale is smaller. -/
theorem lt_of_gapAt_lt {finer coarser : Nat} (smaller : gapAt finer < gapAt coarser) :
    finer < coarser :=
  Nat.lt_of_not_le fun ordered => Nat.not_lt.mpr (gapAt_mono ordered) smaller

/-- The leading bit is the gap 52 scales up. -/
theorem leadingBit_mul_gapAt (scale : Nat) : leadingBit * gapAt scale = gapAt (52 + scale) :=
  (gapAt_add 52 scale).symm

/-- Twice the leading bit is the leading bit one scale up. -/
theorem carry_mul_gapAt (scale : Nat) :
    2 * leadingBit * gapAt scale = leadingBit * gapAt (scale + 1) := by
  rw [gapAt_succ]
  ac_rfl

/-- The number of units in one is a gap. -/
theorem unitsPerOne_eq : unitsPerOne = gapAt 1074 := by
  decide +kernel

/-- The scale of the binary64 numbers around a quotient. -/
def scaleOf (quotient : Nat) : Nat := quotient.log2 - 52

/-- A quotient is less than twice the leading bit in gaps of its scale. -/
theorem lt_of_scaleOf (quotient : Nat) :
    quotient < 2 * leadingBit * gapAt (scaleOf quotient) := by
  have bounded : quotient < gapAt (quotient.log2 + 1) := Nat.lt_log2_self
  rw [carry_mul_gapAt, leadingBit_mul_gapAt]
  exact Nat.lt_of_lt_of_le bounded (gapAt_mono (by unfold scaleOf; omega))

/-- A quotient of a larger scale than the least is at least the leading bit in its gaps. -/
theorem le_of_scaleOf_ne_zero {quotient : Nat} (scaled : scaleOf quotient ≠ 0) :
    leadingBit * gapAt (scaleOf quotient) ≤ quotient := by
  have long : 52 < quotient.log2 := by
    unfold scaleOf at scaled
    omega
  have positive : quotient ≠ 0 := by
    rintro rfl
    exact absurd long (by decide)
  have reached : gapAt quotient.log2 ≤ quotient := Nat.log2_self_le positive
  have split : 52 + scaleOf quotient = quotient.log2 := by
    unfold scaleOf
    omega
  rwa [leadingBit_mul_gapAt, split]

/-- A quotient between the leading bit and twice that, in gaps of a scale, has that scale. -/
theorem scaleOf_eq {quotient scale : Nat} (reached : leadingBit * gapAt scale ≤ quotient)
    (bounded : quotient < 2 * leadingBit * gapAt scale) : scaleOf quotient = scale := by
  rw [carry_mul_gapAt, leadingBit_mul_gapAt] at bounded
  rw [leadingBit_mul_gapAt] at reached
  have positive : quotient ≠ 0 := Nat.ne_of_gt (Nat.lt_of_lt_of_le (gapAt_pos _) reached)
  have lower : gapAt quotient.log2 ≤ quotient := Nat.log2_self_le positive
  have upper : quotient < gapAt (quotient.log2 + 1) := Nat.lt_log2_self
  have short := lt_of_gapAt_lt (Nat.lt_of_le_of_lt lower bounded)
  have long := lt_of_gapAt_lt (Nat.lt_of_le_of_lt reached upper)
  unfold scaleOf
  omega

/-- The scale grows with the quotient. -/
theorem scaleOf_mono {smaller larger : Nat} (ordered : smaller ≤ larger) :
    scaleOf smaller ≤ scaleOf larger := by
  refine Nat.le_of_not_lt fun coarser => ?_
  have reached := le_of_scaleOf_ne_zero (Nat.ne_of_gt (Nat.zero_lt_of_lt coarser))
  have contrary : larger < smaller := calc
    larger < 2 * leadingBit * gapAt (scaleOf larger) := lt_of_scaleOf larger
    _ = leadingBit * gapAt (scaleOf larger + 1) := carry_mul_gapAt _
    _ ≤ leadingBit * gapAt (scaleOf smaller) := Nat.mul_le_mul_left _ (gapAt_mono coarser)
    _ ≤ smaller := reached
  exact Nat.not_lt.mpr ordered contrary

/-- The significand of a quotient, before a carry. -/
def significandOf (numerator denominator : Nat) : Nat :=
  roundHalfEven numerator (denominator * gapAt (scaleOf (numerator / denominator)))

/-- The magnitude that a quotient is rounded to, in the units of the quotient. -/
def roundedUnits (numerator denominator : Nat) : Nat :=
  significandOf numerator denominator * gapAt (scaleOf (numerator / denominator))

/-- The significand of a quotient does not pass twice the leading bit. -/
theorem significandOf_le (numerator denominator : Nat) :
    significandOf numerator denominator ≤ 2 * leadingBit := by
  have bounded := lt_of_scaleOf (numerator / denominator)
  have next := (roundHalfEven_bounds numerator
    (denominator * gapAt (scaleOf (numerator / denominator)))).2
  rw [← Nat.div_div_eq_div_mul] at next
  have floor := (Nat.div_lt_iff_lt_mul (gapAt_pos _)).mpr bounded
  unfold significandOf
  omega

/-- The significand of a quotient of a larger scale than the least has full length. -/
theorem le_significandOf (numerator denominator : Nat)
    (scaled : scaleOf (numerator / denominator) ≠ 0) :
    leadingBit ≤ significandOf numerator denominator := by
  have reached := le_of_scaleOf_ne_zero scaled
  have floor := (roundHalfEven_bounds numerator
    (denominator * gapAt (scaleOf (numerator / denominator)))).1
  rw [← Nat.div_div_eq_div_mul] at floor
  exact Nat.le_trans ((Nat.le_div_iff_mul_le (gapAt_pos _)).mpr reached) floor

/-- Of two quotients with one denominator, the larger is not rounded below the smaller. -/
theorem roundedUnits_mono {smaller larger : Nat} (ordered : smaller ≤ larger)
    (denominator : Nat) :
    roundedUnits smaller denominator ≤ roundedUnits larger denominator := by
  have scales : scaleOf (smaller / denominator) ≤ scaleOf (larger / denominator) :=
    scaleOf_mono (Nat.div_le_div_right ordered)
  unfold roundedUnits
  rcases Nat.lt_or_eq_of_le scales with finer | same
  · -- On a coarser grid the larger quotient is at least the power of two between the grids.
    have bounded := significandOf_le smaller denominator
    have full := le_significandOf larger denominator (by omega)
    calc
      significandOf smaller denominator * gapAt (scaleOf (smaller / denominator))
          ≤ 2 * leadingBit * gapAt (scaleOf (smaller / denominator)) :=
        Nat.mul_le_mul_right _ bounded
      _ = leadingBit * gapAt (scaleOf (smaller / denominator) + 1) := carry_mul_gapAt _
      _ ≤ leadingBit * gapAt (scaleOf (larger / denominator)) :=
        Nat.mul_le_mul_left _ (gapAt_mono finer)
      _ ≤ significandOf larger denominator * gapAt (scaleOf (larger / denominator)) :=
        Nat.mul_le_mul_right _ full
  · unfold significandOf
    rw [same]
    exact Nat.mul_le_mul_right _ (roundHalfEven_mono ordered _)

/-- A magnitude is on a grid when it is a multiple of a gap by at most twice the leading bit. -/
def OnGrid (units : Nat) : Prop :=
  ∃ significand scale, significand ≤ 2 * leadingBit ∧ units = significand * gapAt scale

/-- A rounded magnitude is on a grid. -/
theorem roundedUnits_onGrid (numerator denominator : Nat) :
    OnGrid (roundedUnits numerator denominator) :=
  ⟨_, _, significandOf_le numerator denominator, rfl⟩

/-- A magnitude on a grid is a multiple of the gap at its own scale. -/
theorem OnGrid.gapAt_dvd {units : Nat} (grid : OnGrid units) : gapAt (scaleOf units) ∣ units := by
  obtain ⟨significand, scale, bounded, multiple⟩ := grid
  by_cases finer : scaleOf units ≤ scale
  · obtain ⟨more, apart⟩ := Nat.exists_eq_add_of_le finer
    rw [apart, gapAt_add, Nat.mul_left_comm] at multiple
    exact ⟨significand * gapAt more, multiple⟩
  · -- Only a significand that carries reaches past its scale, and then it is a power of two.
    have reached : leadingBit * gapAt (scaleOf units) ≤ units := le_of_scaleOf_ne_zero (by omega)
    have carried : units ≤ leadingBit * gapAt (scaleOf units) := calc
      units = significand * gapAt scale := multiple
      _ ≤ 2 * leadingBit * gapAt scale := Nat.mul_le_mul_right _ bounded
      _ = leadingBit * gapAt (scale + 1) := carry_mul_gapAt _
      _ ≤ leadingBit * gapAt (scaleOf units) :=
        Nat.mul_le_mul_left _ (gapAt_mono (Nat.lt_of_not_le finer))
    exact ⟨leadingBit, by rw [Nat.mul_comm]; exact Nat.le_antisymm carried reached⟩

/-- Less than a gap on top of a magnitude on a grid does not change the scale. -/
theorem OnGrid.scaleOf_add {units extra : Nat} (grid : OnGrid units)
    (within : extra < gapAt (scaleOf units)) : scaleOf (units + extra) = scaleOf units := by
  by_cases unscaled : scaleOf units = 0
  · have none : extra = 0 := by
      rw [unscaled] at within
      exact Nat.lt_one_iff.mp within
    rw [none, Nat.add_zero]
  · obtain ⟨significand, multiple⟩ := grid.gapAt_dvd
    rw [Nat.mul_comm] at multiple
    have reached := le_of_scaleOf_ne_zero unscaled
    have bounded := lt_of_scaleOf units
    have short : significand < 2 * leadingBit :=
      Nat.lt_of_mul_lt_mul_right (Nat.lt_of_le_of_lt (Nat.le_of_eq multiple.symm) bounded)
    refine scaleOf_eq (Nat.le_trans reached (Nat.le_add_right _ _)) ?_
    calc
      units + extra < significand * gapAt (scaleOf units) + gapAt (scaleOf units) :=
        Nat.add_lt_add_of_le_of_lt (Nat.le_of_eq multiple) within
      _ = (significand + 1) * gapAt (scaleOf units) := (Nat.succ_mul _ _).symm
      _ ≤ 2 * leadingBit * gapAt (scaleOf units) := Nat.mul_le_mul_right _ short

/-- A magnitude on a grid and less than half a gap are rounded to the magnitude. -/
theorem OnGrid.roundedUnits_add {units rest denominator : Nat} (grid : OnGrid units)
    (near : 2 * rest < denominator * gapAt (scaleOf units)) :
    roundedUnits (units * denominator + rest) denominator = units := by
  have positive : 0 < denominator := Nat.pos_of_mul_pos_right (Nat.zero_lt_of_lt near)
  have within : rest / denominator < gapAt (scaleOf units) := by
    rw [Nat.div_lt_iff_lt_mul positive, Nat.mul_comm]
    omega
  have scale : scaleOf ((units * denominator + rest) / denominator) = scaleOf units := by
    rw [Nat.mul_comm, Nat.mul_add_div positive]
    exact grid.scaleOf_add within
  obtain ⟨significand, multiple⟩ := grid.gapAt_dvd
  have counted : units * denominator = significand * (denominator * gapAt (scaleOf units)) := by
    conv => lhs; rw [multiple]
    ac_rfl
  unfold roundedUnits significandOf
  rw [scale, counted, roundHalfEven_of_near significand near, Nat.mul_comm]
  exact multiple.symm

/-- A magnitude on a grid is rounded to itself. -/
theorem OnGrid.roundedUnits_mul {units denominator : Nat} (grid : OnGrid units)
    (positive : 0 < denominator) : roundedUnits (units * denominator) denominator = units := by
  have near : 2 * 0 < denominator * gapAt (scaleOf units) := Nat.mul_pos positive (gapAt_pos _)
  have kept := grid.roundedUnits_add near
  rwa [Nat.add_zero] at kept

/-- A quotient up to a magnitude on a grid is not rounded past it. -/
theorem OnGrid.roundedUnits_le {units numerator denominator : Nat} (grid : OnGrid units)
    (positive : 0 < denominator) (below : numerator ≤ units * denominator) :
    roundedUnits numerator denominator ≤ units := by
  rw [← grid.roundedUnits_mul positive]
  exact roundedUnits_mono below denominator

/-- A quotient from a magnitude on a grid on is not rounded below it. -/
theorem OnGrid.le_roundedUnits {units numerator denominator : Nat} (grid : OnGrid units)
    (positive : 0 < denominator) (above : units * denominator ≤ numerator) :
    units ≤ roundedUnits numerator denominator := by
  rw [← grid.roundedUnits_mul positive]
  exact roundedUnits_mono above denominator

/-- The magnitude past all finite numbers. -/
def finiteBound : Nat := leadingBit * gapAt 2046

/-- The least magnitude past the finite numbers is on a grid. -/
theorem finiteBound_onGrid : OnGrid finiteBound := ⟨leadingBit, 2046, by decide, rfl⟩

/-- A number has a sign and a magnitude: that of a finite number, or any past all of them. -/
inductive Magnitude (negative : Bool) : Binary64 → Nat → Prop
  /-- A finite number has its own magnitude. -/
  | finite {value : Finite} (signed : value.negative = negative) :
    Magnitude negative (.finite value) value.units
  /-- An infinite number stands for every magnitude past the finite ones. -/
  | infinite {units : Nat} (past : finiteBound ≤ units) :
    Magnitude negative (.infinite negative) units

/-- A finite number stays below the bound of the finite numbers. -/
theorem Finite.units_lt (value : Finite) : value.units < finiteBound := calc
  value.units < 2 * leadingBit * gapAt value.scale :=
    Nat.mul_lt_mul_of_pos_right value.canonical.1 (gapAt_pos _)
  _ = leadingBit * gapAt (value.scale + 1) := carry_mul_gapAt _
  _ ≤ leadingBit * gapAt 2046 :=
    Nat.mul_le_mul_left _ (gapAt_mono (Nat.succ_le_succ value.canonical.2.1))
  _ = finiteBound := by rw [finiteBound]

/-- A magnitude below the bound of the finite numbers is that of a finite number. -/
theorem Magnitude.exists_finite {negative : Bool} {number : Binary64} {units : Nat}
    (magnitude : Magnitude negative number units) (small : units < finiteBound) :
    ∃ value, number = .finite value ∧ value.negative = negative ∧ value.units = units := by
  cases magnitude with
  | @finite value signed => exact ⟨value, rfl, signed, rfl⟩
  | infinite past => exact absurd small (Nat.not_lt.mpr past)

/-- A magnitude from the bound of the finite numbers on is infinite. -/
theorem Magnitude.eq_infinite {negative : Bool} {number : Binary64} {units : Nat}
    (magnitude : Magnitude negative number units) (past : finiteBound ≤ units) :
    number = .infinite negative := by
  cases magnitude with
  | @finite value signed => exact absurd value.units_lt (Nat.not_lt.mpr past)
  | infinite past => rfl

/-- A finite number is zero when its significand is. -/
theorem Finite.units_eq_zero_iff {value : Finite} : value.units = 0 ↔ value.significand = 0 := by
  have gap := gapAt_pos value.scale
  change value.significand * gapAt value.scale = 0 ↔ _
  rw [Nat.mul_eq_zero]
  omega

/-- A significand of full length, or at the least scale, makes a finite number as long as the scale
is not too large. -/
theorem canonical_magnitude (negative : Bool) {significand scale : Nat}
    (short : significand < 2 * leadingBit) (full : leadingBit ≤ significand ∨ scale = 0) :
    Magnitude negative
      (if canonical : Canonical significand scale then
        .finite ⟨negative, significand, scale, canonical⟩ else .infinite negative)
      (significand * gapAt scale) := by
  by_cases small : scale ≤ 2045
  · rw [dif_pos ⟨short, small, full⟩]
    exact .finite rfl
  · rw [dif_neg fun canonical => small canonical.2.1]
    have past : gapAt 2046 ≤ gapAt scale := gapAt_mono (Nat.lt_of_not_le small)
    refine .infinite ?_
    calc
      finiteBound = leadingBit * gapAt 2046 := by rw [finiteBound]
      _ ≤ leadingBit * gapAt scale := Nat.mul_le_mul_left _ past
      _ ≤ significand * gapAt scale := Nat.mul_le_mul_right _ (full.resolve_right (by omega))

/-- The number nearest to a quotient has the rounded magnitude. -/
theorem ofUnits_magnitude (negative : Bool) (numerator denominator : Nat) :
    Magnitude negative (ofUnits negative numerator denominator)
      (roundedUnits numerator denominator) := by
  have bounded := significandOf_le numerator denominator
  have full := le_significandOf numerator denominator
  unfold roundedUnits
  unfold ofUnits
  change Magnitude negative
    (let carried := if significandOf numerator denominator = 2 * leadingBit
        then (leadingBit, scaleOf (numerator / denominator) + 1)
        else (significandOf numerator denominator, scaleOf (numerator / denominator));
      if canonical : Canonical carried.1 carried.2 then
        .finite ⟨negative, carried.1, carried.2, canonical⟩ else .infinite negative) _
  generalize significandOf numerator denominator = significand at bounded full ⊢
  generalize scaleOf (numerator / denominator) = scale at full ⊢
  by_cases carried : significand = 2 * leadingBit
  · have moved : significand * gapAt scale = leadingBit * gapAt (scale + 1) := by
      rw [carried, carry_mul_gapAt]
    rw [moved]
    simp only [if_pos carried]
    exact canonical_magnitude negative (by decide) (.inl (Nat.le_refl _))
  · simp only [if_neg carried]
    exact canonical_magnitude negative (by omega) (by omega)

end Binary64

end FilmFinder
