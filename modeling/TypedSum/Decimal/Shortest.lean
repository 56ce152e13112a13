/-! Shortest decimal forms of binary floating-point numbers.  A positive number `m * 2 ^ (e - 1074)`
is read back from every decimal number that is nearer to it than to its neighbours.  Counted in
units of `10 ^ (-1076)` the number and both ends of that interval are natural numbers, so the search
for the decimal number of fewest digits in the interval is exact: decimal grids are tried from the
coarsest to the finest, and the first grid with a point in the interval wins. -/

namespace TypedSum.Decimal

/-- A double-precision number by its sign and size; a positive size is
`significand * 2 ^ (exponent - 1074)`. -/
inductive Binary64 where
  | nan
  | infinite (negative : Bool)
  | zero (negative : Bool)
  | finite (negative : Bool) (significand exponent : Nat)
  deriving DecidableEq

/-- The leading bit of a significand, which is not stored. -/
def hiddenBit : Nat := 0x10000000000000

/-- The number that 64 bits stand for: sign, eleven bits of exponent, fifty-two of fraction. -/
def Binary64.ofBits (bits : Nat) : Binary64 :=
  let negative := bits / hiddenBit / 2048 % 2 == 1
  let exponent := bits / hiddenBit % 2048
  let fraction := bits % hiddenBit
  if exponent = 2047 then
    if fraction = 0 then .infinite negative else .nan
  else if exponent = 0 then
    if fraction = 0 then .zero negative else .finite negative fraction 0
  else .finite negative (hiddenBit + fraction) (exponent - 1)

/-- So many decimal places hold every end of an interval exactly. -/
def places : Nat := 1076

/-- A natural number among others that are rounded to it. -/
structure Interval where
  low : Nat
  value : Nat
  high : Nat
  closed : Bool

namespace Interval

/-- A quarter of `2 ^ (e - 1074)`, in units of `10 ^ (-1076)`. -/
def unit (e : Nat) : Nat := Nat.pow 2 e * Nat.pow 5 places

theorem unit_pos (e : Nat) : 0 < unit e := by
  have h (n : Nat) : 0 < Nat.pow 5 n := Nat.pow_pos (by decide)
  exact Nat.mul_pos (Nat.two_pow_pos e) (h places)

/-- The distance between neighbours on a decimal grid. -/
def spacing (j : Nat) : Nat := Nat.pow 10 j

theorem spacing_pos (j : Nat) : 0 < spacing j := Nat.pow_pos (by decide)

/-- The numbers read back as `m * 2 ^ (e - 1074)`, in units of `10 ^ (-1076)`.  Below the least
significand of a binade the neighbour is only half as far away, and ties are read as even. -/
def around (m e : Nat) : Interval :=
  let below := if m = hiddenBit ∧ e ≠ 0 then 1 else 2
  { low := (4 * m - below) * unit e
    value := 4 * m * unit e
    high := (4 * m + 2) * unit e
    closed := m % 2 == 0 }

def contains (r : Interval) (n : Nat) : Bool :=
  if r.closed then decide (r.low ≤ n ∧ n ≤ r.high) else decide (r.low < n ∧ n < r.high)

theorem contains_value_around {m : Nat} (e : Nat) (h : 0 < m) :
    (around m e).contains (around m e).value = true := by
  have hu := unit_pos e
  have hl : (4 * m - if m = hiddenBit ∧ e ≠ 0 then 1 else 2) * unit e < 4 * m * unit e :=
    Nat.mul_lt_mul_of_pos_right (by split <;> omega) hu
  have hh : 4 * m * unit e < (4 * m + 2) * unit e := Nat.mul_lt_mul_of_pos_right (by omega) hu
  cases hm : m % 2 == 0 with
  | true =>
    simp only [contains, around, hm, ↓reduceIte]
    exact decide_eq_true ⟨Nat.le_of_lt hl, Nat.le_of_lt hh⟩
  | false =>
    simp only [contains, around, hm, Bool.false_eq_true, ↓reduceIte]
    exact decide_eq_true ⟨hl, hh⟩

/-- The point of grid `j` in the interval, counted in the grid's spacing, that is nearest to the value.
Halfway between two points the upper one is taken. -/
def nearest? (r : Interval) (j : Nat) : Option Nat :=
  let below := r.value / spacing j
  match r.contains (below * spacing j), r.contains ((below + 1) * spacing j) with
  | true, true =>
    if 2 * r.value < (2 * below + 1) * spacing j then some below else some (below + 1)
  | true, false => some below
  | false, true => some (below + 1)
  | false, false => none

theorem contains_of_nearest? {r : Interval} {j d : Nat} (h : r.nearest? j = some d) :
    r.contains (d * spacing j) = true := by
  simp only [nearest?] at h
  split at h
  · split at h <;> cases h <;> assumption
  · cases h; assumption
  · cases h; assumption
  · cases h

/-- An interval has no gaps. -/
theorem contains_of_between {r : Interval} {a b n : Nat} (ha : r.contains a = true)
    (hb : r.contains b = true) (han : a ≤ n) (hnb : n ≤ b) : r.contains n = true := by
  unfold contains at *
  split <;> simp_all <;> omega

/-- Where a grid has a point in the interval, one of the value's two neighbours on it is such. -/
theorem nearest?_ne_none {r : Interval} (hv : r.contains r.value = true) {j n : Nat}
    (hn : r.contains (n * spacing j) = true) : r.nearest? j ≠ none := by
  have hp := spacing_pos j
  have hb : r.value / spacing j * spacing j ≤ r.value := Nat.div_mul_le_self ..
  have ha : r.value ≤ (r.value / spacing j + 1) * spacing j := by
    rw [Nat.mul_comm]
    exact Nat.le_of_lt (Nat.lt_mul_div_succ r.value hp)
  have h : r.contains (r.value / spacing j * spacing j) = true ∨
      r.contains ((r.value / spacing j + 1) * spacing j) = true := by
    by_cases hle : n ≤ r.value / spacing j
    · exact .inl (contains_of_between hn hv (Nat.mul_le_mul_right _ hle) hb)
    · exact .inr (contains_of_between hv hn ha (Nat.mul_le_mul_right _ (by omega)))
  simp only [nearest?]
  split <;> simp_all
  split <;> simp

/-- How far apart two numbers are. -/
def distance (a b : Nat) : Nat := (a - b) + (b - a)

/-- No other point of the grid that lies in the interval is nearer to the value. -/
theorem distance_nearest?_le {r : Interval} (hv : r.contains r.value = true) {j d n : Nat}
    (hd : r.nearest? j = some d) (hn : r.contains (n * spacing j) = true) :
    distance r.value (d * spacing j) ≤ distance r.value (n * spacing j) := by
  have hle : r.value / spacing j * spacing j ≤ r.value := Nat.div_mul_le_self ..
  have hlt : r.value < (r.value / spacing j + 1) * spacing j := by
    rw [Nat.mul_comm]
    exact Nat.lt_mul_div_succ r.value (spacing_pos j)
  simp only [nearest?] at hd
  generalize r.value / spacing j = below at hle hlt hd
  have hmid : (2 * below + 1) * spacing j = 2 * (below * spacing j) + spacing j := by
    rw [Nat.succ_mul, Nat.mul_assoc]
  have hnext : (below + 1) * spacing j = below * spacing j + spacing j := Nat.succ_mul ..
  -- A point that is not one of the value's two neighbours lies behind one of them.
  have hside : n * spacing j ≤ below * spacing j ∨ (below + 1) * spacing j ≤ n * spacing j := by
    rcases Nat.lt_or_ge below n with h | h
    · exact .inr (Nat.mul_le_mul_right _ h)
    · exact .inl (Nat.mul_le_mul_right _ h)
  unfold distance
  split at hd
  next =>
    rw [hmid] at hd
    split at hd <;> cases hd <;> omega
  next _ habove =>
    cases hd
    rcases hside with h | h
    · omega
    · rw [contains_of_between hv hn (Nat.le_of_lt hlt) h] at habove
      cases habove
  next hbelow _ =>
    cases hd
    rcases hside with h | h
    · rw [contains_of_between hn hv h hle] at hbelow
      cases hbelow
    · omega
  next => cases hd

/-- The search on the grids `spacing j`, …, `10 ^ 1`, and the value itself when none of them has a
point in the interval: a number of grid points and the exponent of the grid. -/
def shortestFrom (r : Interval) : Nat → Nat × Nat
  | 0 => (r.value, 0)
  | j + 1 =>
    match r.nearest? (j + 1) with
    | some d => (d, j + 1)
    | none => r.shortestFrom j

theorem contains_shortestFrom {r : Interval} (h : r.contains r.value = true) (j : Nat) :
    r.contains ((r.shortestFrom j).1 * spacing (r.shortestFrom j).2) = true := by
  induction j with
  | zero => simpa [shortestFrom, spacing] using h
  | succ j ih =>
    unfold shortestFrom
    split
    next d hd => exact contains_of_nearest? hd
    next => exact ih

theorem distance_shortestFrom_le {r : Interval} (hv : r.contains r.value = true) {j n : Nat}
    (hn : r.contains (n * spacing (r.shortestFrom j).2) = true) :
    distance r.value ((r.shortestFrom j).1 * spacing (r.shortestFrom j).2) ≤
      distance r.value (n * spacing (r.shortestFrom j).2) := by
  induction j with
  | zero => simp [shortestFrom, spacing, distance]
  | succ j ih =>
    unfold shortestFrom at hn ⊢
    split
    next d hd =>
      rw [hd] at hn
      exact distance_nearest?_le hv hd hn
    next hd =>
      rw [hd] at hn
      exact ih hn

/-- No grid between the one that was found and the one that was tried first has a point in the
interval. -/
theorem not_contains_of_coarser {r : Interval} (hv : r.contains r.value = true) {i j n : Nat}
    (hi : (r.shortestFrom j).2 < i) (hij : i ≤ j) : r.contains (n * spacing i) = false := by
  induction j with
  | zero => omega
  | succ j ih =>
    unfold shortestFrom at hi
    split at hi
    · omega
    next hnone =>
      by_cases h : i = j + 1
      · subst h
        exact Bool.eq_false_iff.mpr fun hn => nearest?_ne_none hv hn hnone
      · exact ih hi (by omega)

/-- A grid that lies above every point of the interval. -/
def coarsest (r : Interval) : Nat := Nat.log2 r.high / 3 + 1

theorem high_lt_coarsest (r : Interval) : r.high < spacing r.coarsest := by
  calc
    r.high < Nat.pow 2 (Nat.log2 r.high + 1) := Nat.lt_log2_self
    _ ≤ Nat.pow 2 (3 * r.coarsest) := Nat.pow_le_pow_right (by decide) (by unfold coarsest; omega)
    _ = Nat.pow (Nat.pow 2 3) r.coarsest := Nat.pow_mul ..
    _ ≤ spacing r.coarsest := Nat.pow_le_pow_left (by decide) _

/-- Grids that are coarser still have no point in the interval, which lies above zero. -/
theorem not_contains_of_coarsest_lt {r : Interval} (hlow : 0 < r.low) {i : Nat}
    (hi : r.coarsest < i) (n : Nat) : r.contains (n * spacing i) = false := by
  have hhigh := r.high_lt_coarsest
  have hgrid : spacing r.coarsest ≤ spacing i := Nat.pow_le_pow_right (by decide) (Nat.le_of_lt hi)
  have hout : n * spacing i < r.low ∨ r.high < n * spacing i := by
    cases n with
    | zero => exact .inl (by omega)
    | succ n =>
      have hpoint : spacing i ≤ (n + 1) * spacing i := Nat.le_mul_of_pos_left _ (Nat.succ_pos n)
      exact .inr (by omega)
  unfold contains
  split <;> simp only [decide_eq_false_iff_not] <;> omega

/-- A number of grid points and the exponent of the grid. -/
def shortest (r : Interval) : Nat × Nat := r.shortestFrom r.coarsest

/-- The point lies in the interval, no grid that is coarser has such a point, and no such point of its own
grid is nearer to the value. -/
structure Shortest (r : Interval) (digits grid : Nat) : Prop where
  contains : r.contains (digits * spacing grid) = true
  coarser : ∀ i n, grid < i → r.contains (n * spacing i) = false
  nearest : ∀ n, r.contains (n * spacing grid) = true →
    distance r.value (digits * spacing grid) ≤ distance r.value (n * spacing grid)

theorem shortest_spec {r : Interval} (hv : r.contains r.value = true) (hlow : 0 < r.low) :
    r.Shortest r.shortest.1 r.shortest.2 where
  contains := contains_shortestFrom hv r.coarsest
  coarser i n hi := by
    rcases Nat.lt_or_ge r.coarsest i with hc | hc
    · exact not_contains_of_coarsest_lt hlow hc n
    · exact not_contains_of_coarser hv hi hc
  nearest _ hn := distance_shortestFrom_le hv hn

theorem low_around_pos {m : Nat} (e : Nat) (h : 0 < m) : 0 < (around m e).low :=
  Nat.mul_pos (by split <;> omega) (unit_pos e)

end Interval

/-- The decimal number `digits * 10 ^ exponent`. -/
structure Number where
  digits : Nat
  exponent : Int
  deriving DecidableEq

/-- So many points of a grid, counted in units of `10 ^ (-1076)`. -/
def Number.onGrid (point : Nat × Nat) : Number := ⟨point.1, point.2 - places⟩

/-- The decimal number of fewest digits that is read back as `m * 2 ^ (e - 1074)`, and among those
the nearest to it. -/
def shortest (m e : Nat) : Number := .onGrid (Interval.around m e).shortest

theorem Number.onGrid_shortest {r : Interval} (hv : r.contains r.value = true) (hlow : 0 < r.low) :
    ∃ grid : Nat, (onGrid r.shortest).exponent = grid - places ∧
      r.Shortest (onGrid r.shortest).digits grid :=
  ⟨r.shortest.2, rfl, Interval.shortest_spec hv hlow⟩

/-- What is found for a positive size is read back as this size, and is the nearest to it with so few
digits. -/
theorem shortest_reads_back {m : Nat} (e : Nat) (h : 0 < m) :
    ∃ grid : Nat, (shortest m e).exponent = grid - places ∧
      (Interval.around m e).Shortest (shortest m e).digits grid :=
  Number.onGrid_shortest (Interval.contains_value_around e h) (Interval.low_around_pos e h)

end TypedSum.Decimal
