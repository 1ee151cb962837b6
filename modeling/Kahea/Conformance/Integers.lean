import Kahea.Conformance.Generation
import Mathlib.Algebra.Order.Ring.Int
import Mathlib.Data.Rat.Cast.Order

/-!
# Generated Integers

What a schema of type `integer` admits, and when the generator finds it.

The bounds of a schema are numbers of any kind. The generator reads those that
are signed 64-bit integers, has -100 and 100 for a `minimum` and a `maximum`
that are not, and passes over an exclusive bound and a `multipleOf` that are
not. Among the integers it searches it finds the least, the greatest and the
one nearest to zero, by rounding to a multiple in 64-bit arithmetic.

## Main definitions

* `Number.toRat`: The value of a number.
* `AdmitsInteger`: An integer satisfies the schema.
* `Searched`: An integer is within the bounds as the generator reads them.
* `ExactInteger`: The generator does what it should.
* `BoundsRead`: The bounds are read as they are declared.

## Theorems

* `generateInteger_searched`: What is generated when there is something to find.
* `generateInteger_exact_iff`: When the generator is exact.
* `DeclaredInI64.boundsRead`: Schemas with 64-bit bounds on both sides.
-/

namespace Kahea

/-! ### The value of a number -/

/-- The number some digits stand for. -/
def digitsValue (digits : Str) : Nat :=
  digits.foldl (fun n c => 10 * n + (c.toNat - '0'.toNat)) 0

/-- A decimal fraction without its sign: the digits before and behind the
    point, and an exponent. -/
def unsignedValue (text : Str) : ℚ :=
  let mantissa := text.takeWhile (fun c => c ≠ 'e' && c ≠ 'E')
  let exponent := (text.dropWhile (fun c => c ≠ 'e' && c ≠ 'E')).drop 1
  let whole := mantissa.takeWhile (· ≠ '.')
  let fraction := (mantissa.dropWhile (· ≠ '.')).drop 1
  let value : ℚ := digitsValue (whole ++ fraction) / 10 ^ fraction.length
  match exponent with
  | '-' :: digits => value / 10 ^ digitsValue digits
  | '+' :: digits => value * 10 ^ digitsValue digits
  | digits => value * 10 ^ digitsValue digits

/-- The value of a number. -/
def Number.toRat : Number → ℚ
  | .posInt n => n
  | .negInt n => -(n + 1)
  | .float ('-' :: text) => -unsignedValue text
  | .float text => unsignedValue text

/-- The value of a number, if it is one. -/
def Value.asRat : Value → Option ℚ
  | .number n => some n.toRat
  | _ => none

/-! ### What a schema admits -/

/-- A number a schema declares. -/
def declared (schema : Value) (key : Str) : Option ℚ := (schema.get key).bind Value.asRat

/-- An integer is within the bounds a schema declares, whichever dialect its
    exclusive bounds are in. -/
structure WithinDeclared (schema : Value) (n : Int) : Prop where
  minimum : ∀ b, declared schema "minimum" = some b →
    b ≤ n ∧ (schema.get "exclusiveMinimum" = some (.bool true) → b < n)
  maximum : ∀ b, declared schema "maximum" = some b →
    n ≤ b ∧ (schema.get "exclusiveMaximum" = some (.bool true) → n < b)
  exclusiveMinimum : ∀ b, declared schema "exclusiveMinimum" = some b → b < n
  exclusiveMaximum : ∀ b, declared schema "exclusiveMaximum" = some b → n < b

/-- An integer is a multiple of what the schema declares. -/
def MultipleDeclared (schema : Value) (n : Int) : Prop :=
  ∀ k, declared schema "multipleOf" = some k → ∃ z : Int, (n : ℚ) = z * k

/-- An integer satisfies a schema. -/
structure AdmitsInteger (schema : Value) (n : Int) : Prop where
  within : WithinDeclared schema n
  multiple : MultipleDeclared schema n

/-- A negative integer that a JSON reader makes fits 64 bits; a longer one is
    read as a float. -/
def SignedFit (schema : Value) : Prop :=
  ∀ key n, schema.get key = some (.number (.negInt n)) → n < 2 ^ 63

/-! ### What the generator reads -/

/-- A number of a schema that is a signed 64-bit integer. -/
def readI64 (schema : Value) (key : Str) : Option Int := (schema.get key).bind Value.asI64

/-- The generator takes an integer to be large enough. -/
structure ReadLower (schema : Value) (n : Int) : Prop where
  minimum : (readI64 schema "minimum").getD (-100) ≤ n
  exclusive : ∀ e, readI64 schema "exclusiveMinimum" = some e → e < n
  flagged : schema.get "exclusiveMinimum" = some (.bool true) →
    (readI64 schema "minimum").getD (-100) < n

/-- The generator takes an integer to be small enough. -/
structure ReadUpper (schema : Value) (n : Int) : Prop where
  maximum : n ≤ (readI64 schema "maximum").getD 100
  exclusive : ∀ e, readI64 schema "exclusiveMaximum" = some e → n < e
  flagged : schema.get "exclusiveMaximum" = some (.bool true) →
    n < (readI64 schema "maximum").getD 100

/-- An integer the generator searches. -/
structure Searched (schema : Value) (n : Int) : Prop where
  lower : ReadLower schema n
  upper : ReadUpper schema n
  multiple : ∀ k, readI64 schema "multipleOf" = some k → k ∣ n

/-- The integer a variant selects among those that are searched. -/
structure Chosen (schema : Value) (variant : Nat) (n : Int) : Prop where
  searched : Searched schema n
  least : variant % 3 = 0 → ∀ s, Searched schema s → n ≤ s
  greatest : variant % 3 = 1 → ∀ s, Searched schema s → s ≤ n
  nearest : variant % 3 = 2 → ∀ s, Searched schema s → n.natAbs ≤ s.natAbs

/-! ### Exactness -/

/-- A signed 64-bit integer. -/
def InI64 (n : Int) : Prop := -2 ^ 63 ≤ n ∧ n ≤ 2 ^ 63 - 1

/-- The bound a variant starts from. -/
def integerChoice (schema : Value) (variant : Nat) : Int :=
  let (minimum, maximum) := integerBounds schema
  [minimum, maximum, max minimum (min 0 maximum)].getD (variant % 3) 0

/-- The product with the multiple, the only sum or product of `generate_integer`
    that is not saturating, is a signed 64-bit integer. -/
def NoOverflow (schema : Value) (variant : Nat) : Prop :=
  (integerBounds schema).1 ≤ (integerBounds schema).2 →
    ∀ k, readI64 schema "multipleOf" = some k → 0 < k →
      InI64 (integerChoice schema variant / k * k)

/-- The generator is exact for a schema and a variant: what it returns satisfies
    the schema, an error means that nothing does, and nothing overflows. -/
structure ExactInteger (schema : Value) (variant : Nat) (path : Str) : Prop where
  sound : ∀ value, generateInteger schema variant path = .ok value →
    ∃ n, value = jsonInt n ∧ AdmitsInteger schema n
  complete : ∀ e, generateInteger schema variant path = .error e → ∀ n, ¬ AdmitsInteger schema n
  noOverflow : NoOverflow schema variant

/-- The generator reads the bounds of a schema as they are declared. -/
structure BoundsRead (schema : Value) : Prop where
  /-- What is searched is within the declared bounds. -/
  bounds : ∀ n, Searched schema n → WithinDeclared schema n
  /-- A declared multiple that is not read divides the integers that are chosen. -/
  multiple : readI64 schema "multipleOf" = none →
    ∀ variant n, Chosen schema variant n → MultipleDeclared schema n
  /-- When nothing is searched, the schema admits nothing. -/
  nothing : (∀ n, ¬ Searched schema n) → ∀ n, ¬ AdmitsInteger schema n
  /-- When nothing is searched, the bounds keep away from the ends of the range. -/
  ends : (∀ n, ¬ Searched schema n) →
    ¬ ReadLower schema (-2 ^ 63) ∧ ¬ ReadUpper schema (2 ^ 63 - 1)
  /-- There is a multiple below the searched integers. -/
  floor : ∃ n, -2 ^ 63 ≤ n ∧ (∀ k, readI64 schema "multipleOf" = some k → k ∣ n) ∧
    ∀ s, ReadLower schema s → ReadUpper schema s → n ≤ s

/-! ### Bounds in 64 bits -/

section

variable {schema : Value} {n : Int}

theorem asI64_toRat {value : Value} {i : Int} (h : value.asI64 = some i) :
    value.asRat = some (i : ℚ) := by
  unfold Value.asI64 at h
  split at h
  · split at h
    · cases h
      rfl
    · cases h
  · cases h
    simp only [Value.asRat, Number.toRat]
    push_cast
    rfl
  · cases h

/-- A bound that is read is declared. -/
theorem declared_of_read {key : Str} {i : Int} (h : readI64 schema key = some i) :
    declared schema key = some (i : ℚ) := by
  rcases Option.bind_eq_some_iff.mp h with ⟨value, hvalue, hi⟩
  exact Option.bind_eq_some_iff.mpr ⟨value, hvalue, asI64_toRat hi⟩

/-- What is read is a signed 64-bit integer. -/
theorem readI64_range (hfit : SignedFit schema) {key : Str} {i : Int}
    (h : readI64 schema key = some i) : InI64 i := by
  rcases Option.bind_eq_some_iff.mp h with ⟨value, hvalue, hi⟩
  unfold Value.asI64 at hi
  unfold InI64
  split at hi
  · split at hi
    · cases hi
      omega
    · cases hi
  · rename_i m
    have hm := hfit key m hvalue
    cases hi
    omega
  · cases hi

theorem readI64_getD_range (hfit : SignedFit schema) {key : Str} {i : Int} (hi : InI64 i) :
    InI64 ((readI64 schema key).getD i) := by
  cases h : readI64 schema key with
  | none => exact hi
  | some j => exact readI64_range hfit h

/-- The bounds are signed 64-bit integers. -/
theorem integerBounds_range (hfit : SignedFit schema) :
    InI64 (integerBounds schema).1 ∧ InI64 (integerBounds schema).2 := by
  have hmin : InI64 ((readI64 schema "minimum").getD (-100)) :=
    readI64_getD_range hfit ⟨by decide, by decide⟩
  have hmax : InI64 ((readI64 schema "maximum").getD 100) :=
    readI64_getD_range hfit ⟨by decide, by decide⟩
  -- Saturated values lie in the range, and so do minimum and maximum of two that do.
  have hsaturate : ∀ i, InI64 (saturateI64 i) := by
    intro i
    unfold InI64 saturateI64
    omega
  have hpair : ∀ {i j : Int}, InI64 i → InI64 j → InI64 (max i j) ∧ InI64 (min i j) := by
    unfold InI64
    omega
  unfold integerBounds
  -- A bound is exclusive by a number, by a flag, or not at all.
  constructor
  · dsimp only
    split
    · exact (hpair hmin (hsaturate _)).1
    · split
      · exact hsaturate _
      · exact hmin
  · dsimp only
    split
    · exact (hpair hmax (hsaturate _)).2
    · split
      · exact hsaturate _
      · exact hmax

/-- The lower bound admits what the generator reads. -/
theorem le_of_readLower (hfit : SignedFit schema) (h : ReadLower schema n) :
    (integerBounds schema).1 ≤ n := by
  have hmin : InI64 ((readI64 schema "minimum").getD (-100)) :=
    readI64_getD_range hfit ⟨by decide, by decide⟩
  have hle := h.minimum
  unfold InI64 at hmin
  unfold integerBounds
  dsimp only
  -- The bound is exclusive by a number, by a flag, or not at all.
  split
  · rename_i e he
    have hlt := h.exclusive e he
    have hrange := readI64_range hfit he
    unfold InI64 at hrange
    unfold saturateI64
    change max ((readI64 schema "minimum").getD (-100)) _ ≤ n
    omega
  · split
    · rename_i hflag
      have hlt := h.flagged hflag
      change saturateI64 ((readI64 schema "minimum").getD (-100) + 1) ≤ n
      unfold saturateI64
      omega
    · exact hle

/-- What the lower bound admits is read so, but for the end of the range. -/
theorem readLower_of_le (h : (integerBounds schema).1 ≤ n) (hn : n < 2 ^ 63 - 1) :
    ReadLower schema n := by
  unfold integerBounds at h
  dsimp only at h
  -- The same three cases; below the end of the range nothing saturates.
  split at h
  · rename_i e he
    change max ((readI64 schema "minimum").getD (-100)) _ ≤ n at h
    unfold saturateI64 at h
    refine ⟨by omega, fun e' he' => ?_, fun hflag => ?_⟩
    · have hsame : e' = e := Option.some.inj (he'.symm.trans he)
      omega
    · rw [hflag] at he
      cases he
  · rename_i hnone
    have hno : ∀ e, readI64 schema "exclusiveMinimum" = some e → e < n := by
      intro e he
      exact absurd (he.symm.trans hnone) nofun
    split at h
    · change saturateI64 ((readI64 schema "minimum").getD (-100) + 1) ≤ n at h
      unfold saturateI64 at h
      exact ⟨by omega, hno, fun _ => by omega⟩
    · rename_i hflag
      exact ⟨h, hno, fun h => absurd h hflag⟩

/-- The upper bound admits what the generator reads. -/
theorem le_of_readUpper (hfit : SignedFit schema) (h : ReadUpper schema n) :
    n ≤ (integerBounds schema).2 := by
  have hmax : InI64 ((readI64 schema "maximum").getD 100) :=
    readI64_getD_range hfit ⟨by decide, by decide⟩
  have hle := h.maximum
  unfold InI64 at hmax
  unfold integerBounds
  dsimp only
  -- The bound is exclusive by a number, by a flag, or not at all.
  split
  · rename_i e he
    have hlt := h.exclusive e he
    have hrange := readI64_range hfit he
    unfold InI64 at hrange
    unfold saturateI64
    change n ≤ min ((readI64 schema "maximum").getD 100) _
    omega
  · split
    · rename_i hflag
      have hlt := h.flagged hflag
      change n ≤ saturateI64 ((readI64 schema "maximum").getD 100 - 1)
      unfold saturateI64
      omega
    · exact hle

/-- What the upper bound admits is read so, but for the end of the range. -/
theorem readUpper_of_le (h : n ≤ (integerBounds schema).2) (hn : -2 ^ 63 < n) :
    ReadUpper schema n := by
  unfold integerBounds at h
  dsimp only at h
  -- The same three cases; above the start of the range nothing saturates.
  split at h
  · rename_i e he
    change n ≤ min ((readI64 schema "maximum").getD 100) _ at h
    unfold saturateI64 at h
    refine ⟨by omega, fun e' he' => ?_, fun hflag => ?_⟩
    · have hsame : e' = e := Option.some.inj (he'.symm.trans he)
      omega
    · rw [hflag] at he
      cases he
  · rename_i hnone
    have hno : ∀ e, readI64 schema "exclusiveMaximum" = some e → n < e := by
      intro e he
      exact absurd (he.symm.trans hnone) nofun
    split at h
    · change n ≤ saturateI64 ((readI64 schema "maximum").getD 100 - 1) at h
      unfold saturateI64 at h
      exact ⟨by omega, hno, fun _ => by omega⟩
    · rename_i hflag
      exact ⟨h, hno, fun h => absurd h hflag⟩

theorem ReadLower.mono {m : Int} (h : ReadLower schema m) (hle : m ≤ n) : ReadLower schema n :=
  ⟨h.minimum.trans hle, fun e he => (h.exclusive e he).trans_le hle,
    fun hflag => (h.flagged hflag).trans_le hle⟩

theorem ReadUpper.mono {m : Int} (h : ReadUpper schema m) (hle : n ≤ m) : ReadUpper schema n :=
  ⟨hle.trans h.maximum, fun e he => hle.trans_lt (h.exclusive e he),
    fun hflag => hle.trans_lt (h.flagged hflag)⟩

theorem Searched.mem_bounds (hfit : SignedFit schema) (h : Searched schema n) :
    (integerBounds schema).1 ≤ n ∧ n ≤ (integerBounds schema).2 :=
  ⟨le_of_readLower hfit h.lower, le_of_readUpper hfit h.upper⟩

/-- When something is searched, everything between the bounds is read so. -/
theorem read_of_bounds (hfit : SignedFit schema) {s : Int} (hs : Searched schema s)
    (hlower : (integerBounds schema).1 ≤ n) (hupper : n ≤ (integerBounds schema).2) :
    ReadLower schema n ∧ ReadUpper schema n := by
  have hmem := hs.mem_bounds hfit
  rcases integerBounds_range hfit with ⟨hlow, hhigh⟩
  unfold InI64 at hlow hhigh
  -- An integer at an end of the range is beyond the one that is searched.
  constructor
  · by_cases hlt : n < s
    · exact readLower_of_le hlower (by omega)
    · exact hs.lower.mono (by omega)
  · by_cases hlt : s < n
    · exact readUpper_of_le hupper (by omega)
    · exact hs.upper.mono (by omega)

theorem searched_of_bounds (hfit : SignedFit schema) {s : Int} (hs : Searched schema s)
    (hlower : (integerBounds schema).1 ≤ n) (hupper : n ≤ (integerBounds schema).2)
    (hmultiple : ∀ k, readI64 schema "multipleOf" = some k → k ∣ n) : Searched schema n :=
  ⟨(read_of_bounds hfit hs hlower hupper).1, (read_of_bounds hfit hs hlower hupper).2, hmultiple⟩

/-- There is one multiple to be read. -/
theorem dvd_of_read {k : Int} (hread : readI64 schema "multipleOf" = some k) (h : k ∣ n) :
    ∀ k', readI64 schema "multipleOf" = some k' → k' ∣ n := by
  intro k' hk'
  rw [Option.some.inj (hk'.symm.trans hread)]
  exact h

/-- A bound that is read is a lower bound. -/
theorem minimum_le_bounds (hfit : SignedFit schema) :
    (readI64 schema "minimum").getD (-100) ≤ (integerBounds schema).1 := by
  have hmin : InI64 ((readI64 schema "minimum").getD (-100)) :=
    readI64_getD_range hfit ⟨by decide, by decide⟩
  unfold InI64 at hmin
  unfold integerBounds
  dsimp only
  split
  · exact le_max_left _ _
  · split
    · change _ ≤ saturateI64 ((readI64 schema "minimum").getD (-100) + 1)
      unfold saturateI64
      omega
    · exact le_rfl

theorem bounds_le_maximum (hfit : SignedFit schema) :
    (integerBounds schema).2 ≤ (readI64 schema "maximum").getD 100 := by
  have hmax : InI64 ((readI64 schema "maximum").getD 100) :=
    readI64_getD_range hfit ⟨by decide, by decide⟩
  unfold InI64 at hmax
  unfold integerBounds
  dsimp only
  split
  · exact min_le_left _ _
  · split
    · change saturateI64 ((readI64 schema "maximum").getD 100 - 1) ≤ _
      unfold saturateI64
      omega
    · exact le_rfl

/-- A multiple that is read is the declared one. -/
theorem multipleDeclared_of_dvd {k : Int} (hread : readI64 schema "multipleOf" = some k)
    (h : k ∣ n) : MultipleDeclared schema n := by
  intro k' hk'
  rw [← Option.some.inj ((declared_of_read hread).symm.trans hk')]
  rcases h with ⟨z, rfl⟩
  refine ⟨z, ?_⟩
  rw [Int.cast_mul, mul_comm]

theorem dvd_of_multipleDeclared {k : Int} (hread : readI64 schema "multipleOf" = some k)
    (h : MultipleDeclared schema n) : k ∣ n := by
  rcases h k (declared_of_read hread) with ⟨z, hz⟩
  have hinteger : n = z * k := by exact_mod_cast hz
  exact ⟨z, hinteger.trans (mul_comm _ _)⟩

/-- An admitted integer between the bounds is searched: what the generator
    reads is part of what the schema declares. -/
theorem searched_of_admits (hfit : SignedFit schema) (h : AdmitsInteger schema n)
    (hlower : (integerBounds schema).1 ≤ n) (hupper : n ≤ (integerBounds schema).2) :
    Searched schema n := by
  rcases h with ⟨hwithin, hmultiple⟩
  refine ⟨⟨(minimum_le_bounds hfit).trans hlower, fun e he => ?_, fun hflag => ?_⟩,
    ⟨hupper.trans (bounds_le_maximum hfit), fun e he => ?_, fun hflag => ?_⟩, fun k hk => ?_⟩
  · exact_mod_cast hwithin.exclusiveMinimum e (declared_of_read he)
  · cases hmin : readI64 schema "minimum" with
    | some b => exact_mod_cast (hwithin.minimum b (declared_of_read hmin)).2 hflag
    | none =>
        -- The default bound is moved by the flag.
        have hbound : (integerBounds schema).1 = saturateI64 (-100 + 1) := by
          have hread : (schema.get "minimum").bind Value.asI64 = none := hmin
          simp only [integerBounds, hflag, hread, if_true, Option.getD_none]
          rfl
        rw [hbound] at hlower
        unfold saturateI64 at hlower
        change (-100 : Int) < n
        omega
  · exact_mod_cast hwithin.exclusiveMaximum e (declared_of_read he)
  · cases hmax : readI64 schema "maximum" with
    | some b => exact_mod_cast (hwithin.maximum b (declared_of_read hmax)).2 hflag
    | none =>
        have hbound : (integerBounds schema).2 = saturateI64 (100 - 1) := by
          have hread : (schema.get "maximum").bind Value.asI64 = none := hmax
          simp only [integerBounds, hflag, hread, if_true, Option.getD_none]
          rfl
        rw [hbound] at hupper
        unfold saturateI64 at hupper
        change n < (100 : Int)
        omega
  · exact dvd_of_multipleDeclared hk hmultiple

/-! ### Rounding to a multiple -/

/-- The multiple a bound is rounded to: the next one below, unless that is below
    the bounds. -/
def roundedWithin (k minimum c : Int) : Int :=
  if c / k * k < minimum then saturateI64 (c / k * k + k) else c / k * k

/-- The multiple below an integer: there is none between the two, and the next
    one is above. -/
theorem floor_spec {k : Int} (hk : 0 < k) (c : Int) :
    k ∣ c / k * k ∧ c / k * k ≤ c ∧ c < c / k * k + k ∧
      (∀ s, k ∣ s → s ≤ c → s ≤ c / k * k) ∧ ∀ s, k ∣ s → c / k * k < s → c / k * k + k ≤ s := by
  have hmod := Int.emod_add_mul_ediv c k
  have hnonneg := Int.emod_nonneg c (ne_of_gt hk)
  have hlt := Int.emod_lt_of_pos c hk
  have hcomm : k * (c / k) = c / k * k := mul_comm _ _
  refine ⟨⟨c / k, mul_comm _ _⟩, by omega, by omega, ?_, ?_⟩
  · rintro s ⟨z, rfl⟩ hle
    have hz : z ≤ c / k := (Int.le_ediv_iff_mul_le hk).mpr (by rw [mul_comm]; exact hle)
    rw [mul_comm]
    exact Int.mul_le_mul_of_nonneg_right hz hk.le
  · rintro s ⟨z, rfl⟩ hlt'
    have hz : c / k < z := by
      rw [mul_comm k z] at hlt'
      exact lt_of_mul_lt_mul_right hlt' hk.le
    have hnext := Int.mul_le_mul_of_nonneg_right (Int.add_one_le_of_lt hz) hk.le
    rw [Int.add_mul, Int.one_mul] at hnext
    rw [mul_comm k z]
    exact hnext

theorem integerChoice_spec (hle : (integerBounds schema).1 ≤ (integerBounds schema).2)
    (variant : Nat) :
    (integerBounds schema).1 ≤ integerChoice schema variant ∧
      integerChoice schema variant ≤ (integerBounds schema).2 ∧
      (variant % 3 = 0 → integerChoice schema variant = (integerBounds schema).1) ∧
      (variant % 3 = 1 → integerChoice schema variant = (integerBounds schema).2) ∧
      (variant % 3 = 2 → integerChoice schema variant =
        max (integerBounds schema).1 (min 0 (integerBounds schema).2)) := by
  have hchoice : integerChoice schema variant = [(integerBounds schema).1, (integerBounds schema).2,
      max (integerBounds schema).1 (min 0 (integerBounds schema).2)].getD (variant % 3) 0 := rfl
  have hthree : variant % 3 = 0 ∨ variant % 3 = 1 ∨ variant % 3 = 2 := by omega
  rcases hthree with h | h | h
  · rw [hchoice, h]
    refine ⟨le_rfl, hle, fun _ => rfl, nofun, nofun⟩
  · rw [hchoice, h]
    refine ⟨hle, le_rfl, nofun, fun _ => rfl, nofun⟩
  · rw [hchoice, h]
    refine ⟨?_, ?_, nofun, nofun, fun _ => rfl⟩
    · exact le_max_left _ _
    · exact max_le hle (min_le_right _ _)

variable {variant : Nat} {path : Str}

theorem generateInteger_of_lt (h : (integerBounds schema).2 < (integerBounds schema).1) :
    generateInteger schema variant path = .error (generation path "minimum exceeds maximum") :=
  if_pos h

theorem generateInteger_of_none (hle : (integerBounds schema).1 ≤ (integerBounds schema).2)
    (h : readI64 schema "multipleOf" = none) :
    generateInteger schema variant path = .ok (jsonInt (integerChoice schema variant)) := by
  have hread : (schema.get "multipleOf").bind Value.asI64 = none := h
  unfold generateInteger
  dsimp only
  rw [if_neg (by omega), hread]
  rfl

/-- Without overflow the choice is rounded. -/
theorem generateInteger_of_some (hle : (integerBounds schema).1 ≤ (integerBounds schema).2) {k : Int}
    (h : readI64 schema "multipleOf" = some k) (hk : 0 < k)
    (hrange : InI64 (integerChoice schema variant / k * k)) :
    generateInteger schema variant path =
      if (integerBounds schema).2 <
          roundedWithin k (integerBounds schema).1 (integerChoice schema variant) then
        .error (generation path "no multipleOf value exists within bounds")
      else .ok (jsonInt
        (roundedWithin k (integerBounds schema).1 (integerChoice schema variant))) := by
  have hread : (schema.get "multipleOf").bind Value.asI64 = some k := h
  -- Within the range the wrapping changes nothing.
  have hwrap : wrapI64 (integerChoice schema variant / k * k) =
      integerChoice schema variant / k * k := by
    unfold InI64 at hrange
    unfold wrapI64
    omega
  have hstep : generateInteger schema variant path =
      (let floor := wrapI64 (integerChoice schema variant / k * k)
      let selected := if floor < (integerBounds schema).1 then saturateI64 (floor + k) else floor
      if (integerBounds schema).2 < selected then
        .error (generation path "no multipleOf value exists within bounds")
      else .ok (jsonInt selected)) := by
    unfold generateInteger
    dsimp only
    rw [if_neg (by omega), hread]
    dsimp only
    rw [if_neg (by omega)]
    rfl
  rw [hstep, hwrap]
  rfl

variable (path) in
/-- When something is searched, what is generated is chosen from it. -/
theorem generateInteger_searched (hfit : SignedFit schema)
    (hpositive : ∀ k, readI64 schema "multipleOf" = some k → 0 < k) {s : Int}
    (hs : Searched schema s) (hno : NoOverflow schema variant) :
    ∃ n, generateInteger schema variant path = .ok (jsonInt n) ∧ Chosen schema variant n := by
  have hmem := hs.mem_bounds hfit
  have hle : (integerBounds schema).1 ≤ (integerBounds schema).2 := hmem.1.trans hmem.2
  rcases integerChoice_spec hle variant with ⟨hlow, hhigh, hleast, hgreatest, hnearest⟩
  cases hread : readI64 schema "multipleOf" with
  | none =>
      refine ⟨_, generateInteger_of_none hle hread, ?_, ?_, ?_, ?_⟩
      · exact searched_of_bounds hfit hs hlow hhigh (fun k hk => absurd (hk.symm.trans hread) nofun)
      · intro h t ht
        rw [hleast h]
        exact (ht.mem_bounds hfit).1
      · intro h t ht
        rw [hgreatest h]
        exact (ht.mem_bounds hfit).2
      · intro h t ht
        have hbounds := ht.mem_bounds hfit
        rw [hnearest h]
        omega
  | some k =>
      have hk := hpositive k hread
      have hrange := hno hle k hread hk
      rcases integerBounds_range hfit with ⟨hfirst, hsecond⟩
      unfold InI64 at hfirst hsecond
      have hdvd : ∀ t, Searched schema t → k ∣ t := fun t ht => ht.multiple k hread
      rw [generateInteger_of_some hle hread hk hrange]
      unfold roundedWithin
      rcases floor_spec hk (integerChoice schema variant) with ⟨hfloor, hbelow, hnext, hbest, hafter⟩
      have hzero := hbest 0 (dvd_zero k)
      have hsbest := hbest s (hdvd s hs)
      have hsafter := hafter s (hdvd s hs)
      generalize integerChoice schema variant / k * k = f at *
      by_cases hlt : f < (integerBounds schema).1
      · -- The multiple below is below the bounds, and the next one is the least.
        have hnoclip : saturateI64 (f + k) = f + k := by
          unfold saturateI64
          omega
        rw [if_pos hlt, hnoclip, if_neg (by omega)]
        have hnew : k ∣ f + k := Int.dvd_add hfloor (dvd_refl k)
        refine ⟨_, rfl, searched_of_bounds hfit hs (by omega) (by omega) (dvd_of_read hread hnew), ?_, ?_, ?_⟩
        · intro h t ht
          have hbounds := ht.mem_bounds hfit
          have htafter := hafter t (hdvd t ht)
          omega
        · intro h t ht
          have hchoice := hgreatest h
          omega
        · intro h t ht
          have hbounds := ht.mem_bounds hfit
          have hchoice := hnearest h
          have htafter := hafter t (hdvd t ht)
          omega
      · rw [if_neg hlt, if_neg (by omega)]
        refine ⟨_, rfl, searched_of_bounds hfit hs (by omega) (by omega) (dvd_of_read hread hfloor), ?_, ?_, ?_⟩
        · intro h t ht
          have hbounds := ht.mem_bounds hfit
          have hchoice := hleast h
          omega
        · intro h t ht
          have hbounds := ht.mem_bounds hfit
          have hchoice := hgreatest h
          have htbest := hbest t (hdvd t ht)
          omega
        · intro h t ht
          have hbounds := ht.mem_bounds hfit
          have hchoice := hnearest h
          have htbest := hbest t (hdvd t ht)
          omega

/-! ### When the generator is exact -/

variable (path) in
/-- When nothing is searched, only the ends of the range lead to a value. -/
theorem generateInteger_unsearched (hfit : SignedFit schema)
    (hpositive : ∀ k, readI64 schema "multipleOf" = some k → 0 < k)
    (hnothing : ∀ n, ¬ Searched schema n) (hno : NoOverflow schema variant)
    (hends : ¬ ReadLower schema (-2 ^ 63) ∧ ¬ ReadUpper schema (2 ^ 63 - 1)) :
    ∃ e, generateInteger schema variant path = .error e := by
  -- Crossed bounds are reported before anything is generated.
  by_cases hle : (integerBounds schema).1 ≤ (integerBounds schema).2
  swap
  · exact ⟨_, generateInteger_of_lt (by omega)⟩
  rcases integerBounds_range hfit with ⟨hfirst, hsecond⟩
  unfold InI64 at hfirst hsecond
  -- A bound at the end of the range would have been read from the schema.
  have hlow : -2 ^ 63 < (integerBounds schema).1 := by
    by_contra hend
    exact hends.1 (readLower_of_le (by omega) (by omega))
  have hhigh : (integerBounds schema).2 < 2 ^ 63 - 1 := by
    by_contra hend
    exact hends.2 (readUpper_of_le (by omega) (by omega))
  -- Every integer between the bounds meets them, so none is a multiple.
  have hunsearched : ∀ n, (integerBounds schema).1 ≤ n → n ≤ (integerBounds schema).2 →
      ¬ ∀ k, readI64 schema "multipleOf" = some k → k ∣ n :=
    fun n hn hn' hmultiple => hnothing n
      ⟨readLower_of_le hn (by omega), readUpper_of_le hn' (by omega), hmultiple⟩
  rcases integerChoice_spec hle variant with ⟨hfrom, hto, _⟩
  cases hread : readI64 schema "multipleOf" with
  | none =>
      exact absurd (fun k hk => absurd (hk.symm.trans hread) nofun) (hunsearched _ hfrom hto)
  | some k =>
      have hk := hpositive k hread
      have hrange := hno hle k hread hk
      rw [generateInteger_of_some hle hread hk hrange]
      unfold roundedWithin
      -- The multiple below the choice is below the lower bound, the next one above the upper.
      rcases floor_spec hk (integerChoice schema variant) with ⟨hfloor, hbelow, hnext, _, _⟩
      generalize integerChoice schema variant / k * k = f at *
      have hlt : f < (integerBounds schema).1 := by
        by_contra hge
        exact hunsearched f (by omega) (by omega) (dvd_of_read hread hfloor)
      have habove : (integerBounds schema).2 < f + k := by
        by_contra hwithin
        exact hunsearched (f + k) (by omega) (by omega)
          (dvd_of_read hread (Int.dvd_add hfloor (dvd_refl k)))
      -- Saturation does not bring it back, since the upper bound is not the end of the range.
      have hclip : (integerBounds schema).2 < saturateI64 (f + k) := by
        unfold saturateI64
        omega
      rw [if_pos hlt, if_pos hclip]
      exact ⟨_, rfl⟩

/-- What is generated is between the bounds. -/
theorem generateInteger_mem (hfit : SignedFit schema)
    (hpositive : ∀ k, readI64 schema "multipleOf" = some k → 0 < k) (hno : NoOverflow schema variant)
    {value : Value} (h : generateInteger schema variant path = .ok value) :
    ∃ n, value = jsonInt n ∧ (integerBounds schema).1 ≤ n ∧ n ≤ (integerBounds schema).2 := by
  -- Crossed bounds are an error.
  by_cases hle : (integerBounds schema).1 ≤ (integerBounds schema).2
  swap
  · rw [generateInteger_of_lt (by omega)] at h
    cases h
  rcases integerBounds_range hfit with ⟨hfirst, hsecond⟩
  unfold InI64 at hfirst hsecond
  rcases integerChoice_spec hle variant with ⟨hfrom, hto, _⟩
  -- Without a multiple the choice is taken, with one it is rounded and checked.
  cases hread : readI64 schema "multipleOf" with
  | none =>
      rw [generateInteger_of_none hle hread] at h
      exact ⟨_, (Except.ok.inj h).symm, hfrom, hto⟩
  | some k =>
      have hk := hpositive k hread
      rw [generateInteger_of_some hle hread hk (hno hle k hread hk)] at h
      split at h
      · cases h
      · rename_i hwithin
        refine ⟨_, (Except.ok.inj h).symm, ?_, by omega⟩
        rcases floor_spec hk (integerChoice schema variant) with ⟨_, hbelow, hnext, _, _⟩
        unfold roundedWithin saturateI64
        split <;> omega

variable (path) in
/-- When an end of the range is within its bound, the least choice leads to a
    value. -/
theorem generateInteger_at_ends (hfit : SignedFit schema)
    (hpositive : ∀ k, readI64 schema "multipleOf" = some k → 0 < k) (hno : NoOverflow schema 0)
    (hend : ReadLower schema (-2 ^ 63) ∨ ReadUpper schema (2 ^ 63 - 1)) :
    ∃ value, generateInteger schema 0 path = .ok value := by
  rcases integerBounds_range hfit with ⟨hfirst, hsecond⟩
  unfold InI64 at hfirst hsecond
  have hreach : (integerBounds schema).1 = -2 ^ 63 ∨ (integerBounds schema).2 = 2 ^ 63 - 1 := by
    rcases hend with h | h
    · have hbound := le_of_readLower hfit h
      exact Or.inl (by omega)
    · have hbound := le_of_readUpper hfit h
      exact Or.inr (by omega)
  have hle : (integerBounds schema).1 ≤ (integerBounds schema).2 := by omega
  rcases integerChoice_spec hle 0 with ⟨hfrom, hto, _⟩
  cases hread : readI64 schema "multipleOf" with
  | none => exact ⟨_, generateInteger_of_none hle hread⟩
  | some k =>
      have hk := hpositive k hread
      have hrange := hno hle k hread hk
      rw [generateInteger_of_some hle hread hk hrange]
      rcases floor_spec hk (integerChoice schema 0) with ⟨_, hbelow, _, _, _⟩
      unfold InI64 at hrange
      unfold roundedWithin saturateI64
      -- Rounding stops at the end of the range, which is within the bounds.
      generalize integerChoice schema 0 / k * k = f at *
      have hwithin : ¬ (integerBounds schema).2 < if f < (integerBounds schema).1 then
          max (-2 ^ 63) (min (f + k) (2 ^ 63 - 1)) else f := by
        split <;> omega
      rw [if_neg hwithin]
      exact ⟨_, rfl⟩

end

section

variable {schema : Value}

/-- The product stays within the range for every variant when there is a multiple
    below the bounds. -/
theorem BoundsRead.noOverflow (hfit : SignedFit schema) (h : BoundsRead schema) (variant : Nat) :
    NoOverflow schema variant := by
  intro hle k hread hk
  rcases integerBounds_range hfit with ⟨hfirst, hsecond⟩
  unfold InI64 at hfirst hsecond ⊢
  rcases h.floor with ⟨n, hrange, hdvd, hbelow⟩
  have hleast : n ≤ (integerBounds schema).1 := by
    by_cases hsome : ∃ s, Searched schema s
    · rcases hsome with ⟨s, hs⟩
      rcases read_of_bounds hfit hs le_rfl hle with ⟨hlower, hupper⟩
      exact hbelow _ hlower hupper
    · -- Away from the ends of the range the bounds are read exactly.
      rcases h.ends (not_exists.mp hsome) with ⟨hlow, hhigh⟩
      have hnotLow : -2 ^ 63 < (integerBounds schema).1 := by
        by_contra hend
        exact hlow (readLower_of_le (by omega) (by omega))
      have hnotHigh : (integerBounds schema).2 < 2 ^ 63 - 1 := by
        by_contra hend
        exact hhigh (readUpper_of_le (by omega) (by omega))
      exact hbelow _ (readLower_of_le le_rfl (by omega)) (readUpper_of_le hle (by omega))
  rcases integerChoice_spec hle variant with ⟨hfrom, hto, _⟩
  rcases floor_spec hk (integerChoice schema variant) with ⟨_, hfloor, _, hbest, _⟩
  have hmultiple := hbest n (hdvd k hread) (by omega)
  omega

theorem BoundsRead.exact (hfit : SignedFit schema)
    (hpositive : ∀ k, readI64 schema "multipleOf" = some k → 0 < k) (h : BoundsRead schema)
    (variant : Nat) (path : Str) : ExactInteger schema variant path := by
  have hno := h.noOverflow hfit variant
  by_cases hsome : ∃ s, Searched schema s
  · rcases hsome with ⟨s, hs⟩
    rcases generateInteger_searched path hfit hpositive hs hno with ⟨n, hgenerate, hchosen⟩
    refine ⟨fun value hvalue => ⟨n, ?_, h.bounds n hchosen.searched, ?_⟩, fun e he => ?_, hno⟩
    · exact (Except.ok.inj (hgenerate.symm.trans hvalue)).symm
    · cases hread : readI64 schema "multipleOf" with
      | none => exact h.multiple hread variant n hchosen
      | some k => exact multipleDeclared_of_dvd hread (hchosen.searched.multiple k hread)
    · exact absurd (hgenerate.symm.trans he) nofun
  · have hnothing := not_exists.mp hsome
    rcases generateInteger_unsearched path hfit hpositive hnothing hno (h.ends hnothing) with
      ⟨e, hgenerate⟩
    refine ⟨fun value hvalue => ?_, fun _ _ => h.nothing hnothing, hno⟩
    exact absurd (hgenerate.symm.trans hvalue) nofun

theorem jsonInt_injective {m n : Int} (h : jsonInt m = jsonInt n) : m = n := by
  cases m with
  | ofNat a =>
      cases n with
      | ofNat b =>
          cases h
          rfl
      | negSucc b => cases h
  | negSucc a =>
      cases n with
      | ofNat b => cases h
      | negSucc b =>
          cases h
          rfl

/-- The declared bounds admit what is between two integers they admit. -/
theorem WithinDeclared.between {a b n : Int} (ha : WithinDeclared schema a)
    (hb : WithinDeclared schema b) (han : a ≤ n) (hnb : n ≤ b) : WithinDeclared schema n := by
  have hfirst : (a : ℚ) ≤ n := by exact_mod_cast han
  have hlast : (n : ℚ) ≤ b := by exact_mod_cast hnb
  refine ⟨fun c hc => ?_, fun c hc => ?_, fun c hc => ?_, fun c hc => ?_⟩
  · rcases ha.minimum c hc with ⟨hle, hflag⟩
    exact ⟨hle.trans hfirst, fun h => (hflag h).trans_le hfirst⟩
  · rcases hb.maximum c hc with ⟨hle, hflag⟩
    exact ⟨hlast.trans hle, fun h => hlast.trans_lt (hflag h)⟩
  · exact (ha.exclusiveMinimum c hc).trans_le hfirst
  · exact hlast.trans_lt (hb.exclusiveMaximum c hc)

/-- A variant chooses one integer, but for its sign. -/
theorem Chosen.natAbs_eq {variant : Nat} {m n : Int} (hm : Chosen schema variant m)
    (hn : Chosen schema variant n) : m.natAbs = n.natAbs := by
  have hthree : variant % 3 = 0 ∨ variant % 3 = 1 ∨ variant % 3 = 2 := by omega
  rcases hthree with h | h | h
  · have hmn := hm.least h n hn.searched
    have hnm := hn.least h m hm.searched
    omega
  · have hmn := hm.greatest h n hn.searched
    have hnm := hn.greatest h m hm.searched
    omega
  · have hmn := hm.nearest h n hn.searched
    have hnm := hn.nearest h m hm.searched
    omega

theorem MultipleDeclared.of_natAbs {m n : Int} (h : MultipleDeclared schema m)
    (hsame : m.natAbs = n.natAbs) : MultipleDeclared schema n := by
  intro k hk
  rcases h k hk with ⟨z, hz⟩
  rcases Int.natAbs_eq_natAbs_iff.mp hsame with rfl | rfl
  · exact ⟨z, hz⟩
  · refine ⟨-z, ?_⟩
    push_cast at hz ⊢
    rw [neg_mul, ← hz, neg_neg]

/-- Without overflow there is a multiple below what is searched. -/
theorem exists_floor (hfit : SignedFit schema)
    (hpositive : ∀ k, readI64 schema "multipleOf" = some k → 0 < k) (hno : NoOverflow schema 0) :
    ∃ n, -2 ^ 63 ≤ n ∧ (∀ k, readI64 schema "multipleOf" = some k → k ∣ n) ∧
      ∀ s, ReadLower schema s → ReadUpper schema s → n ≤ s := by
  by_cases hle : (integerBounds schema).1 ≤ (integerBounds schema).2
  swap
  · -- Nothing is between the bounds.
    refine ⟨0, by omega, fun k _ => dvd_zero k, fun s hlower hupper => ?_⟩
    have hfrom := le_of_readLower hfit hlower
    have hto := le_of_readUpper hfit hupper
    omega
  have hleast : integerChoice schema 0 = (integerBounds schema).1 :=
    (integerChoice_spec hle 0).2.2.1 rfl
  cases hread : readI64 schema "multipleOf" with
  | none =>
      refine ⟨(integerBounds schema).1, (integerBounds_range hfit).1.1, nofun, fun s hlower _ => ?_⟩
      exact le_of_readLower hfit hlower
  | some k =>
      have hk := hpositive k hread
      have hrange := hno hle k hread hk
      rcases floor_spec hk (integerChoice schema 0) with ⟨hfloor, hbelow, _⟩
      refine ⟨_, hrange.1, fun k' hk' => ?_, fun s hlower _ => ?_⟩
      · rw [← Option.some.inj hk']
        exact hfloor
      · have hfrom := le_of_readLower hfit hlower
        omega

/-- For a schema with a positive multiple, the generator is exact for every
    variant if and only if it reads the bounds as they are declared. -/
theorem generateInteger_exact_iff (hfit : SignedFit schema)
    (hpositive : ∀ k, declared schema "multipleOf" = some k → 0 < k) :
    (∀ variant path, ExactInteger schema variant path) ↔ BoundsRead schema := by
  have hread : ∀ k, readI64 schema "multipleOf" = some k → 0 < k :=
    fun k hk => by exact_mod_cast hpositive k (declared_of_read hk)
  refine ⟨fun h => ?_, fun h variant path => h.exact hfit hread variant path⟩
  have hno : ∀ variant, NoOverflow schema variant := fun variant => (h variant []).noOverflow
  have hfound : ∀ {s : Int}, Searched schema s → ∀ variant, ∃ n, AdmitsInteger schema n ∧
      Chosen schema variant n := by
    intro s hs variant
    rcases generateInteger_searched [] hfit hread hs (hno variant) with
      ⟨n, hgenerate, hchosen⟩
    rcases (h variant []).sound _ hgenerate with ⟨m, hm, hadmits⟩
    rw [← jsonInt_injective hm] at hadmits
    exact ⟨n, hadmits, hchosen⟩
  have hunsound : ∀ {value : Value}, generateInteger schema 0 [] = .ok value →
      ∃ m, Searched schema m := by
    intro value hgenerate
    rcases generateInteger_mem hfit hread (hno 0) hgenerate with ⟨m, rfl, hlower, hupper⟩
    rcases (h 0 []).sound _ hgenerate with ⟨m', hm, hadmits⟩
    rw [← jsonInt_injective hm] at hadmits
    exact ⟨m, searched_of_admits hfit hadmits hlower hupper⟩
  refine ⟨fun n hn => ?_, fun _ variant n hn => ?_, fun hnothing n hadmits => ?_,
    fun hnothing => ?_, ?_⟩
  · rcases hfound hn 0 with ⟨a, ha, hleast⟩
    rcases hfound hn 1 with ⟨b, hb, hgreatest⟩
    exact ha.within.between hb.within (hleast.least rfl n hn) (hgreatest.greatest rfl n hn)
  · rcases hfound hn.searched variant with ⟨m, hm, hchosen⟩
    exact hm.multiple.of_natAbs (hchosen.natAbs_eq hn)
  · -- Without a searched integer nothing sound is generated.
    cases hgenerate : generateInteger schema 0 [] with
    | error e => exact (h 0 []).complete e hgenerate n hadmits
    | ok value =>
        rcases hunsound hgenerate with ⟨m, hm⟩
        exact hnothing m hm
  · by_contra hends
    rw [← not_or, not_not] at hends
    rcases generateInteger_at_ends [] hfit hread (hno 0) hends with ⟨value, hgenerate⟩
    rcases hunsound hgenerate with ⟨m, hm⟩
    exact hnothing m hm
  · exact exists_floor hfit hread (hno 0)

/-- Every bound a schema declares is a signed 64-bit integer, and it has a
    `minimum` and a `maximum`. -/
structure DeclaredInI64 (schema : Value) : Prop where
  read : ∀ key b, declared schema key = some b → ∃ i : Int, readI64 schema key = some i ∧ b = i
  minimum : (readI64 schema "minimum").isSome
  maximum : (readI64 schema "maximum").isSome

/-- For such a schema the generator searches what is admitted. -/
theorem DeclaredInI64.searched_iff (h : DeclaredInI64 schema) (n : Int) :
    Searched schema n ↔ AdmitsInteger schema n := by
  rcases Option.isSome_iff_exists.mp h.minimum with ⟨low, hlow⟩
  rcases Option.isSome_iff_exists.mp h.maximum with ⟨high, hhigh⟩
  constructor
  -- What is read is what is declared, bound by bound.
  · rintro ⟨⟨hmin, hexmin, hminflag⟩, ⟨hmax, hexmax, hmaxflag⟩, hmultiple⟩
    rw [hlow, Option.getD_some] at hmin hminflag
    rw [hhigh, Option.getD_some] at hmax hmaxflag
    refine ⟨⟨fun b hb => ?_, fun b hb => ?_, fun b hb => ?_, fun b hb => ?_⟩, fun k hk => ?_⟩
    · rw [← Option.some.inj ((declared_of_read hlow).symm.trans hb)]
      exact ⟨by exact_mod_cast hmin, fun hflag => by exact_mod_cast hminflag hflag⟩
    · rw [← Option.some.inj ((declared_of_read hhigh).symm.trans hb)]
      exact ⟨by exact_mod_cast hmax, fun hflag => by exact_mod_cast hmaxflag hflag⟩
    · rcases h.read _ b hb with ⟨i, hi, rfl⟩
      exact_mod_cast hexmin i hi
    · rcases h.read _ b hb with ⟨i, hi, rfl⟩
      exact_mod_cast hexmax i hi
    · rcases h.read _ k hk with ⟨i, hi, rfl⟩
      exact multipleDeclared_of_dvd hi (hmultiple i hi) i hk
  -- And the other way, a bound that is there being read.
  · rintro ⟨⟨hmin, hmax, hexmin, hexmax⟩, hmultiple⟩
    have hminimum := hmin low (declared_of_read hlow)
    have hmaximum := hmax high (declared_of_read hhigh)
    refine ⟨⟨?_, fun e he => ?_, fun hflag => ?_⟩, ⟨?_, fun e he => ?_, fun hflag => ?_⟩,
      fun k hk => ?_⟩
    · rw [hlow]
      exact_mod_cast hminimum.1
    · exact_mod_cast hexmin e (declared_of_read he)
    · rw [hlow]
      exact_mod_cast hminimum.2 hflag
    · rw [hhigh]
      exact_mod_cast hmaximum.1
    · exact_mod_cast hexmax e (declared_of_read he)
    · rw [hhigh]
      exact_mod_cast hmaximum.2 hflag
    · exact dvd_of_multipleDeclared hk hmultiple

/-- For such a schema only the ends of the range are left to fail at. -/
theorem DeclaredInI64.boundsRead (h : DeclaredInI64 schema)
    (hends : (∀ n, ¬ AdmitsInteger schema n) →
      ¬ ReadLower schema (-2 ^ 63) ∧ ¬ ReadUpper schema (2 ^ 63 - 1))
    (hfloor : ∃ n, -2 ^ 63 ≤ n ∧ (∀ k, readI64 schema "multipleOf" = some k → k ∣ n) ∧
      ∀ s, ReadLower schema s → ReadUpper schema s → n ≤ s) : BoundsRead schema := by
  refine ⟨fun n hn => ((h.searched_iff n).mp hn).within,
    fun _ _ n hn => ((h.searched_iff n).mp hn.searched).multiple,
    fun hnothing n hn => hnothing n ((h.searched_iff n).mpr hn), fun hnothing => ?_, hfloor⟩
  exact hends (fun n hn => hnothing n ((h.searched_iff n).mpr hn))

end

/-! ### Schemas -/

/-- A schema with these members. -/
def integerSchema (members : List (Str × Value)) : Value :=
  .object (("type".toList, .string "integer") :: members)

theorem signedFit_of_members {members : List (Str × Value)}
    (h : ∀ member ∈ members, ∀ n, member.2 ≠ .number (.negInt n)) :
    SignedFit (integerSchema members) := by
  intro key n hget
  have hlookup : lookup key (("type".toList, .string "integer") :: members) =
      some (.number (.negInt n)) := hget
  rcases List.mem_cons.mp (lookup_mem hlookup) with hfirst | hmem
  · cases hfirst
  · exact absurd rfl (h _ hmem n)

/-- The multiples of three from one to ten. -/
def threes : Value := integerSchema
  [("minimum".toList, jsonInt 1), ("maximum".toList, jsonInt 10), ("multipleOf".toList, jsonInt 3)]

theorem threes_signedFit : SignedFit threes :=
  signedFit_of_members (by simp [jsonInt])

theorem threes_multiple : ∀ k, declared threes "multipleOf" = some k → 0 < k := by
  intro k hk
  have hthree : declared threes "multipleOf" = some ((3 : Int) : ℚ) :=
    declared_of_read (by decide +kernel)
  rw [hthree] at hk
  rw [← Option.some.inj hk]
  norm_num

/-- Their bounds and their multiple are read as they are declared. -/
theorem threes_declared : DeclaredInI64 threes := by
  refine ⟨fun key b hb => ?_, by decide, by decide⟩
  rcases Option.bind_eq_some_iff.mp hb with ⟨value, hvalue, hrat⟩
  have hlookup : lookup key [("type".toList, .string "integer"), ("minimum".toList, jsonInt 1),
      ("maximum".toList, jsonInt 10), ("multipleOf".toList, jsonInt 3)] = some value := hvalue
  have hread : ∀ i : Int, value.asI64 = some i → ∃ i : Int, readI64 threes key = some i ∧ b = i :=
    fun i hi => ⟨i, Option.bind_eq_some_iff.mpr ⟨value, hvalue, hi⟩,
      Option.some.inj (hrat.symm.trans (asI64_toRat hi))⟩
  have hmem := lookup_mem hlookup
  simp only [List.mem_cons, Prod.mk.injEq, List.not_mem_nil, or_false] at hmem
  rcases hmem with ⟨_, rfl⟩ | ⟨_, rfl⟩ | ⟨_, rfl⟩ | ⟨_, rfl⟩
  · cases hrat
  · exact hread 1 (by decide)
  · exact hread 10 (by decide)
  · exact hread 3 (by decide)

theorem threes_boundsRead : BoundsRead threes := by
  have hmin : readI64 threes "minimum" = some 1 := by decide +kernel
  have hmax : readI64 threes "maximum" = some 10 := by decide +kernel
  have hmultiple : readI64 threes "multipleOf" = some 3 := by decide +kernel
  have hexmin : readI64 threes "exclusiveMinimum" = none := by decide +kernel
  have hexmax : readI64 threes "exclusiveMaximum" = none := by decide +kernel
  -- The number 3 is one of them, and 0 is a multiple below.
  have hthree : Searched threes 3 := by
    refine ⟨⟨?_, ?_, fun hflag => ?_⟩, ⟨?_, ?_, fun hflag => ?_⟩, fun k hk => ?_⟩
    · rw [hmin, Option.getD_some]
      decide
    · rw [hexmin]
      exact nofun
    · exact absurd hflag (by decide +kernel)
    · rw [hmax, Option.getD_some]
      decide
    · rw [hexmax]
      exact nofun
    · exact absurd hflag (by decide +kernel)
    · rw [hmultiple] at hk
      exact dvd_of_eq (Option.some.inj hk).symm
  refine threes_declared.boundsRead (fun hnone => ?_) ⟨0, by decide, fun k _ => dvd_zero k, ?_⟩
  · exact absurd ((threes_declared.searched_iff 3).mp hthree) (hnone 3)
  · intro s hlower _
    have hle := hlower.minimum
    rw [hmin, Option.getD_some] at hle
    omega

/-- The generator is exact for the multiples of three. -/
theorem generateInteger_exact_threes : SignedFit threes ∧
    (∀ k, declared threes "multipleOf" = some k → 0 < k) ∧
    ∀ variant path, ExactInteger threes variant path :=
  ⟨threes_signedFit, threes_multiple,
    (generateInteger_exact_iff threes_signedFit threes_multiple).mpr threes_boundsRead⟩

/-- A schema whose `minimum` is 200 and that has no `maximum`. -/
def twoHundred : Value := integerSchema [("minimum".toList, jsonInt 200)]

/-- The generator is not exact for every schema: it finds nothing from 200 on,
    since the default for a `maximum` is 100. -/
theorem generateInteger_not_exact : ¬ ∀ schema : Value, SignedFit schema →
    (∀ k, declared schema "multipleOf" = some k → 0 < k) →
      ∀ variant path, ExactInteger schema variant path := by
  intro h
  -- A lower bound above the default upper one.
  have hfit : SignedFit twoHundred := signedFit_of_members (by simp [jsonInt])
  have hnone : ∀ key : Str, twoHundred.get key = none → declared twoHundred key = none := by
    intro key hkey
    rw [declared, hkey]
    rfl
  have hmultiple : declared twoHundred "multipleOf" = none := hnone _ (by decide +kernel)
  have hexact := h twoHundred hfit (fun k hk => absurd (hk.symm.trans hmultiple) nofun) 0 []
  -- The generator sees crossed bounds.
  have herror : generateInteger twoHundred 0 [] =
      .error (generation [] "minimum exceeds maximum") := generateInteger_of_lt (by decide +kernel)
  -- The value 200 is admitted all the same.
  refine hexact.complete _ herror 200 ⟨⟨?_, ?_, ?_, ?_⟩, ?_⟩
  · intro b hb
    have hminimum : declared twoHundred "minimum" = some ((200 : Int) : ℚ) :=
      declared_of_read (by decide +kernel)
    rw [← Option.some.inj (hminimum.symm.trans hb)]
    exact ⟨le_rfl, fun hflag => absurd hflag (by decide +kernel)⟩
  · exact fun b hb => absurd (hb.symm.trans (hnone _ (by decide +kernel))) nofun
  · exact fun b hb => absurd (hb.symm.trans (hnone _ (by decide +kernel))) nofun
  · exact fun b hb => absurd (hb.symm.trans (hnone _ (by decide +kernel))) nofun
  · exact fun k hk => absurd (hk.symm.trans hmultiple) nofun

end Kahea
