import OxyRoute.Lib.Rounding
import OxyRoute.Lib.Text
import Mathlib.Data.Rat.Floor

/-!
# Double-precision numbers

IEEE doubles as the rationals they stand for, with infinities and the not-a-number value. There
is no negative zero: a result that would be `-0.0`, a literal of it too, is the one zero here, which
counts as positive. The two zeros compare equal; a program that looks at the sign of a zero, by
writing it out or by dividing by it, is not covered.

## Main definitions

- `F64` — the numbers
- `F64.ofRat` — the double nearest to a number
- `F64.add`, `F64.mul`, `F64.div` and the others — the operations, each rounded once
- `F64.parse` — `f64::from_str`
-/

/-- A double: a finite number, an infinity, or not a number. -/
inductive F64
  | nan
  | inf (neg : Bool)
  | finite (q : ℚ)
  deriving DecidableEq, Repr

namespace F64

/-- The nearest number with 53 digits and no digit below `2 ^ -1074`. -/
def round (q : ℚ) : ℚ := Rounding.round 53 (-1074) q

/-- Half a unit above the largest double. -/
def overflow : ℚ := 2 ^ 1024 - 2 ^ 970

/-- The nearest double, infinite from the overflow on. -/
def ofRat (q : ℚ) : F64 :=
  if overflow ≤ |q| then .inf (decide (q < 0)) else .finite (round q)

/-- `n as f64`. -/
def ofNat (n : ℕ) : F64 := ofRat n

/-- `x <= 0.0`; a comparison with not-a-number is false. -/
def nonPositive : F64 → Bool
  | .nan => false
  | .inf neg => neg
  | .finite q => q ≤ 0

/-- `x <= y`. -/
def le : F64 → F64 → Bool
  | .nan, _ => false
  | _, .nan => false
  | .inf neg, y => neg || y = .inf false
  | x, .inf neg => !neg || x = .inf true
  | .finite a, .finite b => a ≤ b

/-- `f64::min`, which ignores not-a-number. -/
def min (x y : F64) : F64 :=
  if x = .nan then y else if y = .nan then x else if x.le y then x else y

/-- `f64::max`, which ignores not-a-number. -/
def max (x y : F64) : F64 :=
  if x = .nan then y else if y = .nan then x else if x.le y then y else x

/-- `x + y`. -/
def add : F64 → F64 → F64
  | .nan, _ => .nan
  | _, .nan => .nan
  | .inf a, .inf b => if a = b then .inf a else .nan
  | .inf a, .finite _ => .inf a
  | .finite _, .inf b => .inf b
  | .finite a, .finite b => ofRat (a + b)

/-- `-x`. -/
def neg : F64 → F64
  | .nan => .nan
  | .inf a => .inf (!a)
  | .finite a => .finite (-a)

/-- `x - y`. -/
def sub (x y : F64) : F64 := x.add y.neg

/-- The sign of a number that is not zero. -/
def negative : F64 → Bool
  | .nan => false
  | .inf a => a
  | .finite a => a < 0

/-- `x * y`. -/
def mul (x y : F64) : F64 :=
  if x = .nan ∨ y = .nan then .nan
  else match x, y with
    | .finite a, .finite b => ofRat (a * b)
    | x, y => if x = .finite 0 ∨ y = .finite 0 then .nan else .inf (x.negative != y.negative)

/-- `x / y`. -/
def div : F64 → F64 → F64
  | .nan, _ => .nan
  | _, .nan => .nan
  | .inf _, .inf _ => .nan
  | .inf a, .finite b => .inf (a != decide (b < 0))
  | .finite _, .inf _ => .finite 0
  | .finite a, .finite b =>
    if b = 0 then (if a = 0 then .nan else .inf (decide (a < 0))) else ofRat (a / b)

/-- `f64::floor`. -/
def floor : F64 → F64
  | .finite q => .finite ⌊q⌋
  | x => x

/-- `f64::ceil`. -/
def ceil : F64 → F64
  | .finite q => .finite ⌈q⌉
  | x => x

/-- `x as u64`, which saturates. -/
def asU64 : F64 → ℕ
  | .nan => 0
  | .inf neg => if neg then 0 else 2 ^ 64 - 1
  | .finite q => Nat.min ⌊q⌋₊ (2 ^ 64 - 1)

@[simp] theorem round_zero : round 0 = 0 := Rounding.round_zero

theorem round_mono {x y : ℚ} (hx : 0 ≤ x) (h : x ≤ y) : round x ≤ round y :=
  Rounding.round_mono (by decide) hx h

theorem round_nonneg {x : ℚ} (hx : 0 ≤ x) : 0 ≤ round x :=
  Rounding.round_nonneg (by decide) hx

theorem round_natCast {n : ℕ} (h : n ≤ 2 ^ 53) : round n = n :=
  Rounding.round_natCast (by decide) (by decide) h

theorem round_round {x : ℚ} (hx : 0 ≤ x) : round (round x) = round x :=
  Rounding.round_round (by decide) hx

theorem lt_overflow : (2 ^ 64 : ℚ) < overflow := by decide +kernel

theorem ofRat_of_lt {q : ℚ} (h0 : 0 ≤ q) (h : q < overflow) :
    ofRat q = .finite (round q) := by
  rw [ofRat, abs_of_nonneg h0, if_neg (not_le.mpr h)]

theorem ofRat_of_le {q : ℚ} (h : overflow ≤ q) : ofRat q = .inf false := by
  have hpos : 0 < q := (lt_trans (by norm_num) lt_overflow).trans_le h
  rw [ofRat, abs_of_pos hpos, if_pos h, decide_eq_false (not_lt.mpr hpos.le)]

theorem round_le_of_u64 {q : ℚ} (h0 : 0 ≤ q) (h : q ≤ 2 ^ 64) : round q ≤ 2 ^ 64 := by
  have hpow : round (2 ^ 64 : ℚ) = 2 ^ 64 := by decide +kernel
  exact (round_mono h0 h).trans_eq hpow

/-- A `u64` is a finite double. -/
theorem ofNat_of_u64 {n : ℕ} (h : n < 2 ^ 64) : ofNat n = .finite (round n) := by
  have hn : (n : ℚ) < 2 ^ 64 := by exact_mod_cast h
  exact ofRat_of_lt (Nat.cast_nonneg n) (hn.trans lt_overflow)

theorem round_two_zpow {i : ℤ} (hi : -1074 ≤ i) : round (2 ^ i) = 2 ^ i := by
  have hround := Rounding.round_mul_two_zpow (K := ℚ) (p := 53) (n := 1) (by decide) (by decide) hi
  rwa [Nat.cast_one, one_mul] at hround

/-- No finite double exceeds the overflow by much. -/
theorem le_of_ofRat {q q' : ℚ} (h : ofRat q' = .finite q) : q ≤ 2 ^ (1024 : ℤ) := by
  unfold ofRat at h
  split at h
  · cases h
  · next hlt =>
    obtain rfl := finite.inj h
    rcases le_total q' 0 with hneg | hpos
    · exact (Rounding.round_nonpos hneg).trans (zpow_pos two_pos _).le
    · rw [abs_of_nonneg hpos, not_le] at hlt
      have hover : overflow ≤ 2 ^ (1024 : ℤ) := by decide +kernel
      have hround := round_two_zpow (i := 1024) (by decide)
      exact (round_mono hpos (hlt.le.trans hover)).trans_eq hround

/-- The quotient of a positive count and a finite double does not vanish. -/
theorem round_div_pos {a q : ℚ} (ha : 1 ≤ a) (hq : 0 < q) (h : q ≤ 2 ^ (1024 : ℤ)) :
    0 < round (a / q) := by
  have hle : (2 : ℚ) ^ (-1024 : ℤ) ≤ a / q := by
    rw [le_div_iff₀ hq, zpow_neg]
    have hone : ((2 : ℚ) ^ (1024 : ℤ))⁻¹ * q ≤ 1 := by
      rw [inv_mul_le_iff₀ (zpow_pos two_pos _), mul_one]
      exact h
    exact hone.trans ha
  have hmono := round_mono (zpow_pos two_pos _).le hle
  rw [round_two_zpow (i := -1024) (by decide)] at hmono
  exact (zpow_pos two_pos _).trans_le hmono

/-- The smaller one of a number and a finite one, if it is at least one. -/
theorem exists_finite_of_le_min {x : F64} {a b : ℚ} (h : F64.le (.finite a) (x.min (.finite b))) :
    ∃ q, x.min (.finite b) = .finite q ∧ a ≤ q ∧ q ≤ b := by
  cases x with
  | nan => exact ⟨b, rfl, of_decide_eq_true h, le_rfl⟩
  | inf neg =>
    cases neg with
    | true => cases h
    | false => exact ⟨b, rfl, of_decide_eq_true h, le_rfl⟩
  | finite c =>
    have hmin : (F64.finite c).min (.finite b) = if c ≤ b then .finite c else .finite b := by
      by_cases hcb : c ≤ b <;> simp [min, le, hcb]
    rw [hmin] at h ⊢
    by_cases hcb : c ≤ b
    · rw [if_pos hcb] at h ⊢
      exact ⟨c, rfl, of_decide_eq_true h, hcb⟩
    · rw [if_neg hcb] at h ⊢
      exact ⟨b, rfl, of_decide_eq_true h, le_rfl⟩

/-- One less, for numbers between one and the largest `u64`. -/
theorem sub_one {q : ℚ} (h1 : 1 ≤ q) (h : q ≤ 2 ^ 64) :
    (F64.finite q).sub (.finite 1) = .finite (round (q - 1)) := by
  have hle : q - 1 ≤ 2 ^ 64 := (sub_le_self q zero_le_one).trans h
  rw [← ofRat_of_lt (sub_nonneg.mpr h1) (hle.trans_lt lt_overflow), sub_eq_add_neg]
  rfl

/-- The characters of an exponent, signed. -/
def parseExponent : List Char → Option ℤ
  | '-' :: s => if s ≠ [] ∧ s.all Char.isDigit then some (-(Text.digitsValue s : ℤ)) else none
  | '+' :: s => if s ≠ [] ∧ s.all Char.isDigit then some (Text.digitsValue s : ℤ) else none
  | s => if s ≠ [] ∧ s.all Char.isDigit then some (Text.digitsValue s : ℤ) else none

/-- Digits with at most one point, at least one digit, and an optional exponent. -/
def parseNumber (s : List Char) : Option ℚ :=
  let (mantissa, exponent) := match Text.splitOnce (fun c => c == 'e' || c == 'E') s with
    | some (a, b) => (a, parseExponent b)
    | none => (s, some 0)
  let (whole, frac) := (Text.splitOnce (· == '.') mantissa).getD (mantissa, [])
  if (whole ++ frac) ≠ [] ∧ (whole ++ frac).all Char.isDigit then
    exponent.map fun e =>
      (Text.digitsValue (whole ++ frac) : ℚ) * (10 : ℚ) ^ (e - (frac.length : ℤ))
  else none

/-- `f64::from_str`. -/
def parse (s : String) : Option F64 :=
  let (neg, rest) := match s.toList with
    | '-' :: rest => (true, rest)
    | '+' :: rest => (false, rest)
    | rest => (false, rest)
  let lower := rest.map Char.toLower
  if lower = "nan".toList then some .nan
  else if lower = "inf".toList ∨ lower = "infinity".toList then some (.inf neg)
  else (parseNumber rest).map fun q => ofRat (if neg then -q else q)

theorem le_of_parse {s : String} {q : ℚ} (h : parse s = some (.finite q)) :
    q ≤ 2 ^ (1024 : ℤ) := by
  obtain ⟨neg, rest, hrest⟩ : ∃ (neg : Bool) (rest : List Char),
      (if rest.map Char.toLower = "nan".toList then some .nan
      else if rest.map Char.toLower = "inf".toList ∨ rest.map Char.toLower = "infinity".toList then
        some (.inf neg)
      else (parseNumber rest).map fun q => ofRat (if neg then -q else q)) = some (.finite q) :=
    ⟨_, _, h⟩
  split at hrest
  · cases hrest
  · split at hrest
    · cases hrest
    · obtain ⟨q', -, hq⟩ := Option.map_eq_some_iff.mp hrest
      exact le_of_ofRat hq

end F64
