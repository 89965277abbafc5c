import Component.Lib.Rounding
import Component.NetworkMonitor.Model

/-!
# What is shown of a figure

`NetworkStatusView` shows each figure of the monitor in a label: as a text with two decimals and a
unit, and with a background color for slow, middling and fast. On its way to the label the figure is
converted from `uint32_t` to `float` and back, which leaves 24 binary digits of it. So the color is
chosen by the rounded figure, and the text shows the rounded figure. The color nevertheless agrees
with the figure itself and with the unit in the text, and the number in the text is off by no more
than the two roundings (`label_shows`). The unit is the one for the size of the rounded figure, so
`2 ^ 30 - 1` is shown in the unit for `2 ^ 30`. Figures close to `2 ^ 32` are rounded to a float
that cannot be converted back.

A `float` or `double` that is a natural number is modelled as one. The quotients in
`formatNetworkSpeed:` are exact, since the divisors are powers of two.
-/

namespace Component.NetworkMonitor

open Component.Lib.Rounding

/-! ## The model -/

/-- The units of a speed. -/
inductive SpeedUnit where
  | b
  | k
  | m
  | g
  deriving DecidableEq, Repr

/-- The divisor for a unit. -/
def SpeedUnit.scale : SpeedUnit → Nat
  | .b => 1
  | .k => 1024
  | .m => 1024 * 1024
  | .g => 1024 * 1024 * 1024

/-- The end of the text for a unit. -/
def SpeedUnit.suffix : SpeedUnit → List Char
  | .b => [' ', 'b', '/', 's']
  | .k => [' ', 'k', '/', 's']
  | .m => [' ', 'm', '/', 's']
  | .g => [' ', 'g', '/', 's']

/-- The decimal digits of a number of hundredths, as `%.2f` prints them. -/
def twoDecimals (hundredths : Nat) : List Char :=
  Nat.toDigits 10 (hundredths / 100) ++
    ['.', Nat.digitChar (hundredths / 10 % 10), Nat.digitChar (hundredths % 10)]

/-- `stringWithFormat:` with the quotient of a number by the divisor of a unit. The exact quotient
is rounded to hundredths. -/
def stringWithFormat (flow : UInt32) (unit : SpeedUnit) : List Char :=
  twoDecimals (nearest (100 * flow.toNat) unit.scale) ++ unit.suffix

/-- `formatNetworkSpeed:`, which the monitor and the view both have. -/
def formatNetworkSpeed (flow : UInt32) : List Char :=
  if flow ≥ 1024 * 1024 * 1024 then stringWithFormat flow .g
  else if flow ≥ 1024 * 1024 then stringWithFormat flow .m
  else if flow ≥ 1024 then stringWithFormat flow .k
  else stringWithFormat flow .b

/-- The background colors of the label. -/
inductive UIColor where
  | red
  | orange
  | green
  deriving DecidableEq, Repr

/-- The label `lb_network`. -/
structure Label where
  backgroundColor : UIColor
  text : List Char
  deriving DecidableEq, Repr

/-- The conversion of a `uint32_t` to `float`, whose significand has 24 binary digits. -/
def toFloat (value : UInt32) : Nat := roundTo 24 value.toNat

/-- The conversion of a `float` to `uint32_t`, which is undefined from `2 ^ 32` on. -/
def toUInt32 (value : Nat) : Option UInt32 :=
  if value < 2 ^ 32 then some (UInt32.ofNat value) else none

/-- The choice of the color in `startMonitor`. -/
def backgroundColor (inStream : Nat) : UIColor :=
  if inStream < 1024 then .red
  else if inStream < 1024 * 1024 then .orange
  else .green

/-- The block that `startMonitor` hands to the monitor. -/
def startMonitorBlock (inStream : Nat) : Option Label :=
  (toUInt32 inStream).map fun flow => ⟨backgroundColor inStream, formatNetworkSpeed flow⟩

/-- What the monitor passes to the block. -/
def showFigure (figure : UInt32) : Option Label := startMonitorBlock (toFloat figure)

/-! ## Rounding -/

/-- A figure of few digits is its float. -/
theorem to_float_of_lt {figure : UInt32} (h : figure.toNat < 2 ^ 24) :
    toFloat figure = figure.toNat := round_to_of_lt h

/-- The conversion to a float does not go below a power of two. -/
theorem le_to_float_of_le {figure : UInt32} {k : Nat} (h : 2 ^ k ≤ figure.toNat) :
    2 ^ k ≤ toFloat figure := two_pow_le_round_to (by norm_num) h

/-- A small power of two is on the same side of the figure and of its float. -/
theorem to_float_lt_iff (figure : UInt32) {k : Nat} (hk : k ≤ 24) :
    toFloat figure < 2 ^ k ↔ figure.toNat < 2 ^ k := by
  constructor
  · intro h
    by_contra hle
    exact absurd (le_to_float_of_le (not_lt.mp hle)) (not_le.mpr h)
  · intro h
    have hpow : 2 ^ k ≤ 2 ^ 24 := Nat.pow_le_pow_right (by norm_num) hk
    rwa [to_float_of_lt (h.trans_le hpow)]

/-- The float of a figure is `2 ^ 32` for the last 128 figures only. -/
theorem to_float_lt_two_pow_iff (figure : UInt32) :
    toFloat figure < 2 ^ 32 ↔ figure.toNat < 2 ^ 32 - 128 := by
  have hlt := figure.toNat_lt
  unfold toFloat
  rcases Nat.lt_or_ge figure.toNat (2 ^ 31) with hsmall | hlarge
  · have herror := (round_to_error 24 figure.toNat).2
    omega
  · -- the last place of numbers with 32 digits is 256
    have hsize : figure.toNat.size = 32 :=
      le_antisymm (Nat.size_le.mpr hlt) (Nat.lt_size.mpr hlarge)
    have hround : roundTo 24 figure.toNat = nearest figure.toNat 256 * 256 := by
      rw [roundTo, lastPlace, hsize, show 2 ^ (32 - 24) = 256 by norm_num]
    rw [hround, nearest]
    split
    · omega
    · split
      · omega
      · split <;> omega

/-! ## The label -/

/-- The color that belongs to a figure. -/
def colorOf (figure : Nat) : UIColor :=
  if figure < 2 ^ 10 then .red else if figure < 2 ^ 20 then .orange else .green

/-- The color that belongs to a unit. -/
def SpeedUnit.color : SpeedUnit → UIColor
  | .b => .red
  | .k => .orange
  | .m | .g => .green

/-- The unit for numbers of this size: the number is at least one of the unit and less than one of
the next unit. -/
def SpeedUnit.Fits (unit : SpeedUnit) (number : Nat) : Prop :=
  (unit = .b ∨ unit.scale ≤ number) ∧ (unit = .g ∨ number < 1024 * unit.scale)

/-- The label shows a figure: its color is that of the figure and of the unit in the text, the unit
is the one for the size of the figure rounded to 24 binary digits, and the number in the text is off
by no more than half a hundredth and a part in `2 ^ 24` of the figure. -/
structure Label.Shows (label : Label) (figure : Nat) (hundredths : Nat) (unit : SpeedUnit) :
    Prop where
  text : label.text = twoDecimals hundredths ++ unit.suffix
  figureColor : label.backgroundColor = colorOf figure
  unitColor : label.backgroundColor = unit.color
  unitFits : unit.Fits (roundTo 24 figure)
  error : 2 ^ 25 * |(hundredths * unit.scale : Int) - 100 * figure| ≤
    2 ^ 24 * unit.scale + 200 * figure

/-- The unit that the text of a figure has. -/
def unitOf (flow : Nat) : SpeedUnit :=
  if 2 ^ 30 ≤ flow then .g else if 2 ^ 20 ≤ flow then .m else if 2 ^ 10 ≤ flow then .k else .b

/-- The text is the number in the unit that its size asks for. -/
theorem format_network_speed_eq (flow : UInt32) :
    formatNetworkSpeed flow = stringWithFormat flow (unitOf flow.toNat) := by
  -- the thresholds are compared as words
  have hgiga : flow ≥ 1024 * 1024 * 1024 ↔ 2 ^ 30 ≤ flow.toNat := UInt32.le_iff_toNat_le
  have hmega : flow ≥ 1024 * 1024 ↔ 2 ^ 20 ≤ flow.toNat := UInt32.le_iff_toNat_le
  have hkilo : flow ≥ 1024 ↔ 2 ^ 10 ≤ flow.toNat := UInt32.le_iff_toNat_le
  unfold formatNetworkSpeed unitOf
  simp only [hgiga, hmega, hkilo]
  split
  · rfl
  · split
    · rfl
    · split <;> rfl

/-- The unit is the one for numbers of this size. -/
theorem fits_unit_of (flow : Nat) : (unitOf flow).Fits flow := by
  unfold unitOf SpeedUnit.Fits
  split
  · exact ⟨.inr (by simpa [SpeedUnit.scale]), .inl rfl⟩
  · split
    · exact ⟨.inr (by simpa [SpeedUnit.scale]), .inr (by simp [SpeedUnit.scale]; omega)⟩
    · split
      · exact ⟨.inr (by simpa [SpeedUnit.scale]), .inr (by simp [SpeedUnit.scale]; omega)⟩
      · exact ⟨.inl rfl, .inr (by simp [SpeedUnit.scale]; omega)⟩

/-- The color for a unit is the one that the rounded figure is given. -/
theorem color_unit_of (flow : Nat) : (unitOf flow).color = colorOf flow := by
  unfold unitOf colorOf
  split
  · rw [if_neg (by omega), if_neg (by omega)]
    rfl
  · split
    · rw [if_neg (by omega), if_neg (by omega)]
      rfl
    · split
      · rw [if_neg (by omega), if_pos (by omega)]
        rfl
      · rw [if_pos (by omega)]
        rfl

/-- The thresholds have few digits, so rounding does not change the color. -/
theorem color_of_to_float (figure : UInt32) : colorOf (toFloat figure) = colorOf figure.toNat := by
  unfold colorOf
  simp only [to_float_lt_iff figure (show 10 ≤ 24 by norm_num),
    to_float_lt_iff figure (show 20 ≤ 24 by norm_num)]

/-- The two roundings, that of the figure to a float and that of the quotient to hundredths. -/
theorem hundredths_error (figure scale : Nat) (hscale : 0 < scale) :
    2 ^ 25 * |(nearest (100 * roundTo 24 figure) scale * scale : Int) - 100 * figure| ≤
      2 ^ 24 * scale + 200 * figure := by
  obtain ⟨hlow, hhigh⟩ := nearest_error (100 * roundTo 24 figure) hscale
  obtain ⟨hdown, hup⟩ := round_to_error 24 figure
  generalize nearest (100 * roundTo 24 figure) scale = shown at *
  have hproduct : ((shown : Int) * scale) = ((shown * scale : Nat) : Int) := by push_cast; rfl
  rw [hproduct]
  generalize shown * scale = product at *
  rcases abs_cases ((product : Int) - 100 * figure) with ⟨habs, _⟩ | ⟨habs, _⟩
  · rw [habs]
    omega
  · rw [habs]
    omega

/-- Every figure below `2 ^ 32 - 128` is shown with the color that belongs to it and to the unit in
the text, with the unit for the size of the rounded figure, and with a number that is off by no more
than the roundings. For the others the conversion of the float to the argument of
`formatNetworkSpeed:` is undefined. -/
theorem label_shows (figure : UInt32) :
    (figure.toNat < 2 ^ 32 - 128 →
      ∃ label hundredths unit, showFigure figure = some label ∧
        label.Shows figure.toNat hundredths unit) ∧
    (2 ^ 32 - 128 ≤ figure.toNat → showFigure figure = none) := by
  constructor
  · intro hfigure
    have hrange : toFloat figure < 2 ^ 32 := (to_float_lt_two_pow_iff figure).mpr hfigure
    have hflow : (UInt32.ofNat (toFloat figure)).toNat = toFloat figure :=
      UInt32.toNat_ofNat_of_lt' hrange
    have hcolor : backgroundColor (toFloat figure) = colorOf (toFloat figure) := by
      norm_num [backgroundColor, colorOf]
    refine ⟨⟨backgroundColor (toFloat figure), formatNetworkSpeed (UInt32.ofNat (toFloat figure))⟩,
      nearest (100 * toFloat figure) (unitOf (toFloat figure)).scale, unitOf (toFloat figure),
      ?_, ?_, ?_, ?_, fits_unit_of _, ?_⟩
    · rw [showFigure, startMonitorBlock, toUInt32, if_pos hrange, Option.map_some]
    · rw [format_network_speed_eq, stringWithFormat, hflow]
    · rw [hcolor, color_of_to_float]
    · rw [hcolor, color_unit_of]
    · refine hundredths_error figure.toNat _ ?_
      cases unitOf (toFloat figure) <;> decide
  · intro hfigure
    have hrange : ¬ toFloat figure < 2 ^ 32 := by
      rw [to_float_lt_two_pow_iff]
      omega
    rw [showFigure, startMonitorBlock, toUInt32, if_neg hrange]
    rfl

/-- One and a half thousand bytes are shown in the second unit. -/
theorem label_shows_sample :
    showFigure 1536 = some ⟨.orange, "1.50 k/s".toList⟩ ∧
      ∃ label hundredths unit, showFigure 1536 = some label ∧
        label.Shows (1536 : UInt32).toNat hundredths unit :=
  ⟨by decide +kernel, (label_shows 1536).1 (by decide)⟩

end Component.NetworkMonitor
