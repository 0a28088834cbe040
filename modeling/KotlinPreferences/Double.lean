import KotlinPreferences.Text

/-!
# Numbers of double precision

A number that JSON writes with a point or an exponent is read as the nearest binary number of 53
digits. It is shown with the fewest decimal digits that are read as the same number.

* `Double`, `Double.Fits`: the multiples of `2 ^ -1074` that are doubles;
* `Double.roundUnits`, `Double.ofDecimal`: the nearest double, a half going to the even one;
* `Double.fits_roundUnits`: what is rounded is a double unless it is too great for one;
* `Double.whole?`: the whole number that a double is;
* `Double.shortest`, `Double.text`: a double in decimal digits.
-/

namespace KotlinPreferences

namespace Double

/-- So many times the least positive double make one. -/
def one : Nat := 1 <<< 1074

/-- So many times the least positive double make `2 ^ 1024`, which is too great for a double. -/
def limit : Nat := 1 <<< 2098

/-- What so many times the least positive double make is a double: it has no more than 53 binary
digits that count, and it is below the limit. -/
def Fits (units : Nat) : Prop := units % (1 <<< (units.log2 - 52)) = 0 ∧ units < limit

end Double

/-- A binary number of double precision. Zero has a sign, too. -/
inductive Double where
  /-- So many times the least positive double. -/
  | finite (negative : Bool) (units : Nat) (fits : Double.Fits units)
  | infinite (negative : Bool)
  | notNumber
  deriving DecidableEq

namespace Double

/-- The double zero, and nothing else, counts as missing. -/
def truthy : Double → Bool
  | finite _ units _ => units != 0
  | infinite _ => true
  | notNumber => true

/-- The whole number that a double is. -/
def whole? : Double → Option Int
  | finite negative units _ =>
    if units % one = 0 then some (if negative then -(units / one : Nat) else (units / one : Nat))
    else none
  | infinite _ => none
  | notNumber => none

/-! ### Rounding -/

/-- The whole number nearest to a quotient, the even one of two. -/
def roundHalfEven (num den : Nat) : Nat :=
  let q := num / den
  if 2 * (num % den) < den ∨ 2 * (num % den) = den ∧ q % 2 = 0 then q else q + 1

/-- A quotient, rounded to 53 binary digits and to a whole number. -/
def roundUnits (num den : Nat) : Nat :=
  let places := (num / den).log2 - 52
  roundHalfEven num (den <<< places) <<< places

theorem roundHalfEven_le (num den : Nat) : roundHalfEven num den ≤ num / den + 1 := by
  unfold roundHalfEven
  simp only
  split
  · omega
  · omega

/-- At most `2 ^ 53` times a power of two has no more than 53 binary digits that count. -/
theorem shiftLeft_mod_log2 {m : Nat} (h : m ≤ 1 <<< 53) (k : Nat) :
    (m <<< k) % (1 <<< ((m <<< k).log2 - 52)) = 0 := by
  rw [Nat.one_shiftLeft] at h
  rw [Nat.one_shiftLeft, Nat.shiftLeft_eq]
  rcases Nat.eq_zero_or_pos m with rfl | hpos
  · simp
  · have hne : m * 2 ^ k ≠ 0 := Nat.ne_of_gt (Nat.mul_pos hpos (Nat.two_pow_pos k))
    apply Nat.mod_eq_zero_of_dvd
    rcases Nat.lt_or_eq_of_le h with hlt | rfl
    · have hlog : (m * 2 ^ k).log2 < 53 + k := by
        rw [Nat.log2_lt hne, Nat.pow_add]
        exact Nat.mul_lt_mul_of_pos_right hlt (Nat.two_pow_pos k)
      exact Nat.dvd_trans (Nat.pow_dvd_pow 2 (by omega)) (Nat.dvd_mul_left _ _)
    · rw [← Nat.pow_add, Nat.log2_two_pow]
      exact Nat.pow_dvd_pow 2 (by omega)

/-- A rounded quotient is a double unless it is too great. -/
theorem fits_roundUnits {num den : Nat} (h : roundUnits num den < limit) :
    Fits (roundUnits num den) := by
  refine ⟨shiftLeft_mod_log2 ?_ _, h⟩
  have hle := roundHalfEven_le num (den <<< ((num / den).log2 - 52))
  have hlt : num / (den <<< ((num / den).log2 - 52)) < 1 <<< 53 := by
    rw [Nat.shiftLeft_eq, Nat.one_shiftLeft, ← Nat.div_div_eq_div_mul]
    rw [Nat.div_lt_iff_lt_mul (Nat.two_pow_pos _), ← Nat.pow_add]
    exact Nat.lt_of_lt_of_le Nat.lt_log2_self (Nat.pow_le_pow_right (by omega) (by omega))
  omega

/-- The number `digits * 10 ^ place`, rounded. -/
def unitsOfDecimal (digits : Nat) (place : Int) : Nat :=
  roundUnits (digits * Nat.pow 10 place.toNat * one) (Nat.pow 10 (-place).toNat)

/-- The double nearest to `digits * 10 ^ place`; a number too great for one is infinite. -/
def ofDecimal (negative : Bool) (digits : Nat) (place : Int) : Double :=
  if h : unitsOfDecimal digits place < limit then
    .finite negative (unitsOfDecimal digits place) (fits_roundUnits h)
  else .infinite negative

/-! ### Digits -/

/-- The place of the first decimal digit of a number that is not zero. -/
def firstPlace (units : Nat) : Int := (Nat.toDigits 10 (units * Nat.pow 10 330 / one)).length - 331

/-- The digits up to a place that are read as the number, if there are any; the nearest of them. -/
def digitsTo? (units : Nat) (place : Int) : Option (Nat × Int) :=
  let num := units * Nat.pow 10 (-place).toNat
  let den := one * Nat.pow 10 place.toNat
  ([roundHalfEven num den, num / den, num / den + 1].find? fun digits =>
    unitsOfDecimal digits place = units).map fun digits => (digits, place)

/-- The fewest digits that are read as the number, with the place of the last one. -/
def shortest (units : Nat) : Nat × Int :=
  ((List.range 17).findSome? fun (further : Nat) =>
    digitsTo? units (firstPlace units - further)).getD (0, 0)

/-- Digits around a point that stands behind the first `before` of them. -/
def pointed (digits : List Char) (before : Nat) : List Char :=
  let whole := digits.take before ++ List.replicate (before - digits.length) '0'
  let part := digits.drop before
  whole ++ '.' :: (if part.isEmpty then ['0'] else part)

/-- Digits behind a point, the first one at the place `-place`. -/
def small (digits : List Char) (place : Nat) : List Char :=
  '0' :: '.' :: List.replicate (place - 1) '0' ++ digits

/-- Digits with an exponent of at least two digits. -/
def scientific (digits : List Char) (place : Int) : List Char :=
  let exponent := Nat.toDigits 10 place.natAbs
  digits.take 1 ++ (if digits.length = 1 then [] else '.' :: digits.drop 1) ++
    'e' :: (if place < 0 then '-' else '+') :: List.replicate (2 - exponent.length) '0' ++ exponent

/-- The text of `digits * 10 ^ place`. An exponent is written for numbers below `10 ^ -4` and from
`10 ^ 16` on. -/
def decimalChars (digits : Nat) (place : Int) : List Char :=
  let all := Nat.toDigits 10 digits
  let first := place + all.length - 1
  let kept := (all.reverse.dropWhile (· == '0')).reverse
  if first < -4 ∨ 16 ≤ first then scientific kept first
  else if first < 0 then small kept first.natAbs
  else pointed kept (first.toNat + 1)

/-- The sign in front of a number. -/
def sign (negative : Bool) : Text := if negative then "-" else ""

/-- A double as it is shown. -/
def text : Double → Text
  | finite negative units _ =>
    sign negative ++
      (if units = 0 then ("0.0" : Text)
        else .ofList ((decimalChars (shortest units).1 (shortest units).2).map .scalar))
  | infinite negative => sign negative ++ "inf"
  | notNumber => "nan"

example : (ofDecimal false 1 16).text = "1e+16" := by decide +kernel

example : (ofDecimal false 1 (-400)).truthy = false := by decide +kernel

end Double

end KotlinPreferences
