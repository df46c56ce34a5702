import Mathlib.Algebra.Field.Rat
import Mathlib.Algebra.Order.Ring.Rat
import Mathlib.Data.Int.Cast.Lemmas
import QueryOptions.Value.Key

/-!
# QueryOptions.Proofs.KeyEquality

When two keys of a mapping are one key. Numbers are compared by their exact size, a rational number
or one beyond all others (`Size`), whatever type they have. A key has an identity (`identity?`) that
leaves the type of a number out, and two keys are equal if they have the same identity
(`same_iff_identity`). The identity of an undefined double, which has no size, is its bits.

* `Decimal.Fraction.toInt?_eq_some_iff`: which doubles stand for a whole number;
* `compareNumbers_eq_iff`: numbers are equal if they have one size;
* `Value.same_refl`, `Value.same_symm`, `Value.same_trans`: equality of keys.
-/

namespace QueryOptions

/-! ## Sizes -/

inductive Size where
  | finite (q : ℚ)
  /-- Beyond all rational numbers. -/
  | infinite (negative : Bool)
deriving DecidableEq

namespace Decimal

theorem cast_twoTo (n : Nat) : (twoTo n : ℚ) = 2 ^ n := Nat.cast_pow 2 n

namespace Fraction

def size (f : Fraction) : ℚ := f.signed * 2 ^ f.exponent

/-- A power of two with an exponent that is not negative is whole. -/
theorem zpow_eq_twoTo {e : Int} (h : 0 ≤ e) : (2 : ℚ) ^ e = twoTo e.toNat := by
  rw [cast_twoTo, ← zpow_natCast, Int.toNat_of_nonneg h]

theorem compareTo_eq_iff (f g : Fraction) : f.compareTo g = .eq ↔ f.size = g.size := by
  have hpos (e : Int) : (2 : ℚ) ^ e ≠ 0 := zpow_ne_zero e two_ne_zero
  unfold compareTo size
  split
  · rename_i he
    have hg : (2 : ℚ) ^ g.exponent = twoTo (g.exponent - f.exponent).toNat * 2 ^ f.exponent := by
      rw [← zpow_eq_twoTo (by omega), ← zpow_add₀ two_ne_zero, Int.sub_add_cancel]
    rw [hg, ← mul_assoc, mul_left_inj' (hpos _), compare_eq_iff_eq]
    exact_mod_cast Iff.rfl
  · rename_i he
    have hf : (2 : ℚ) ^ f.exponent = twoTo (f.exponent - g.exponent).toNat * 2 ^ g.exponent := by
      rw [← zpow_eq_twoTo (by omega), ← zpow_add₀ two_ne_zero, Int.sub_add_cancel]
    rw [hf, ← mul_assoc, mul_left_inj' (hpos _), compare_eq_iff_eq]
    exact_mod_cast Iff.rfl

theorem compareInt_eq_iff (f : Fraction) (n : Int) : f.compareInt n = .eq ↔ f.size = n := by
  unfold compareInt size
  split
  · rename_i he
    rw [zpow_eq_twoTo he, compare_eq_iff_eq]
    exact_mod_cast Iff.rfl
  · rename_i he
    have hone : (2 : ℚ) ^ f.exponent * 2 ^ (-f.exponent) = 1 := by
      rw [← zpow_add₀ two_ne_zero, Int.add_right_neg, zpow_zero]
    rw [compare_eq_iff_eq, ← mul_left_inj' (zpow_ne_zero (-f.exponent) (two_ne_zero (α := ℚ))),
      mul_assoc, hone, mul_one, zpow_eq_twoTo (by omega)]
    exact_mod_cast Iff.rfl

theorem natAbs_signed (f : Fraction) : f.signed.natAbs = f.mantissa := by
  unfold signed
  cases f.negative <;> simp

/-- A fraction passes for a whole number just if it has the size of one. -/
theorem toInt?_eq_some_iff (f : Fraction) (n : Int) : f.toInt? = some n ↔ f.size = n := by
  rw [← compareInt_eq_iff]
  unfold toInt? compareInt
  by_cases he : 0 ≤ f.exponent
  · simp only [if_pos he, Option.some.injEq, compare_eq_iff_eq]
  · simp only [if_neg he, compare_eq_iff_eq]
    have hscale : (twoTo (-f.exponent).toNat : Int) ≠ 0 :=
      Int.natCast_ne_zero.mpr (Nat.two_pow_pos _).ne'
    generalize twoTo (-f.exponent).toNat = scale at hscale ⊢
    split
    · rename_i hmod
      have hm : (f.mantissa : Int) = (f.mantissa / scale : Nat) * scale := by
        exact_mod_cast (Nat.div_mul_cancel (Nat.dvd_of_mod_eq_zero hmod)).symm
      have hs : f.signed
          = (if f.negative then -((f.mantissa / scale : Nat) : Int) else (f.mantissa / scale : Nat))
            * scale := by
        unfold signed
        split
        · rw [Int.neg_mul, ← hm]
        · exact hm
      rw [hs, Option.some.injEq, Int.mul_eq_mul_right_iff hscale]
    · rename_i hmod
      refine iff_of_false (fun h => ?_) fun h => hmod ?_
      · cases h
      · rw [← natAbs_signed f, h, Int.natAbs_mul, Int.natAbs_natCast]
        exact Nat.mul_mod_left _ _

end Fraction

def Reading.size? : Reading → Option Size
  | .finite f => some (.finite f.size)
  | .infinite negative => some (.infinite negative)
  | .undefined => none

theorem wholeOf?_eq_some_iff (x : Float) (n : Int) :
    wholeOf? x = some n ↔ (readDouble x).size? = some (.finite n) := by
  unfold wholeOf?
  cases readDouble x with
  | finite f => simp [Reading.size?, Fraction.toInt?_eq_some_iff]
  | infinite negative => simp [Reading.size?]
  | undefined => simp [Reading.size?]

theorem compareDoubleInt_eq_iff (x : Float) (n : Int) :
    compareDoubleInt x n = some .eq ↔ (readDouble x).size? = some (.finite n) := by
  unfold compareDoubleInt
  cases readDouble x with
  | finite f => simp [Reading.size?, Fraction.compareInt_eq_iff]
  | infinite negative => cases negative <;> simp [Reading.size?]
  | undefined => simp [Reading.size?]

theorem compareDoubles_eq_iff (x y : Float) :
    compareDoubles x y = some .eq ↔
      ∃ s, (readDouble x).size? = some s ∧ (readDouble y).size? = some s := by
  unfold compareDoubles
  cases readDouble x with
  | finite f =>
    cases readDouble y with
    | finite g => simp [Reading.size?, Fraction.compareTo_eq_iff, eq_comm (a := g.size)]
    | infinite negative => cases negative <;> simp [Reading.size?]
    | undefined => simp [Reading.size?]
  | infinite a =>
    cases readDouble y with
    | finite g => cases a <;> simp [Reading.size?]
    | infinite b => cases a <;> cases b <;> simp [Reading.size?]
    | undefined => simp [Reading.size?]
  | undefined => simp [Reading.size?]

end Decimal

namespace Value

def size? : Value → Option Size
  | .float x => (Decimal.readDouble x).size?
  | v => v.int?.map fun n : Int => .finite n

/-- Numbers are equal if they have one size; what is no number has none. -/
theorem compareNumbers_eq_iff (a b : Value) :
    compareNumbers a b = some .eq ↔ ∃ s, a.size? = some s ∧ b.size? = some s := by
  cases a with
  | float x =>
    cases b with
    | float y => exact Decimal.compareDoubles_eq_iff x y
    | bool _ | int _ => simp [compareNumbers, int?, size?, Decimal.compareDoubleInt_eq_iff]
    | _ => simp [compareNumbers, int?, size?]
  | bool _ | int _ =>
    cases b with
    | float y => simp [compareNumbers, int?, size?, Decimal.compareDoubleInt_eq_iff]
    | bool _ | int _ =>
      simp only [compareNumbers, int?, size?, Option.map_some, Option.some.injEq,
        compare_eq_iff_eq, exists_eq_left', Size.finite.injEq, Int.cast_inj]
      exact eq_comm
    | _ => simp [compareNumbers, int?, size?]
  | _ => cases b <;> simp [compareNumbers, int?, size?]

/-! ## Identities -/

/-- What makes a key the key that it is. -/
inductive Identity where
  | null
  | number (s : Size)
  | undefined (bits : UInt64)
  | text (s : String)
  | bytes (bs : List UInt8)
  | tuple (items : List Identity)
  | regex (source : String) (flags : Regex.Flags)
  | callback (number : Nat)
  | function (name : String)

/-- The identity of a double: its size, or its bits if it is undefined. -/
def doubleIdentity (x : Float) : Identity :=
  match Decimal.readDouble x with
  | .finite f => .number (.finite f.size)
  | .infinite negative => .number (.infinite negative)
  | .undefined => .undefined x.toBits

mutual

def identity? : Value → Option Identity
  | .null => some .null
  | .bool b => some (.number (.finite (if b then 1 else 0)))
  | .int n => some (.number (.finite n))
  | .float x => some (doubleIdentity x)
  | .text s => some (.text s)
  | .bytes bs => some (.bytes bs)
  | .list _ => none
  | .tuple items => (identities? items).map .tuple
  | .dict _ => none
  | .regex r => some (.regex r.source r.flags)
  | .callback number _ => some (.callback number)
  | .function name => some (.function name)

def identities? : List Value → Option (List Identity)
  | [] => some []
  | v :: rest => (identity? v).bind fun i => (identities? rest).map (i :: ·)

end

/-- A double shares its identity with numbers only. -/
theorem doubleIdentity_ne {i : Identity} (hnumber : ∀ s, i ≠ .number s)
    (hundefined : ∀ bits, i ≠ .undefined bits) (x : Float) : doubleIdentity x ≠ i := by
  unfold doubleIdentity
  split
  · exact (hnumber _).symm
  · exact (hnumber _).symm
  · exact (hundefined _).symm

theorem identity?_eq_number_iff (v : Value) (s : Size) :
    v.identity? = some (.number s) ↔ v.size? = some s := by
  cases v with
  | float x =>
    simp only [identity?, doubleIdentity, size?]
    cases Decimal.readDouble x <;> simp [Decimal.Reading.size?]
  | _ => simp [identity?, size?, int?]

/-- A number other than an undefined double is equal to what has its size. -/
theorem compareNumbers_iff_identity {a : Value} {s : Size} (ha : a.size? = some s) (b : Value) :
    (compareNumbers a b == some .eq) = true ↔ b.identity? = some (.number s) := by
  rw [beq_iff_eq, compareNumbers_eq_iff, ha, identity?_eq_number_iff]
  simp

theorem sameDouble_iff (x y : Float) :
    Decimal.sameDouble x y = true ↔ doubleIdentity x = doubleIdentity y := by
  have hsizes := Decimal.compareDoubles_eq_iff x y
  unfold Decimal.sameDouble doubleIdentity
  cases hx : Decimal.readDouble x <;> cases hy : Decimal.readDouble y <;>
    simp [hx, hy, hsizes, Decimal.Reading.size?]
  all_goals exact eq_comm

/-- A double is the key that its identity says, whatever it is compared with. -/
theorem same_float_iff (x : Float) (b : Value) :
    (float x).same b = true ↔ b.identity? = some (doubleIdentity x) := by
  cases b with
  | float y =>
    simp only [same, identity?, Option.some.injEq]
    exact (sameDouble_iff x y).trans eq_comm
  | bool _ | int _ =>
    simp only [same, beq_iff_eq, compareNumbers_eq_iff, identity?, doubleIdentity, size?, int?]
    cases Decimal.readDouble x <;> simp [Decimal.Reading.size?, eq_comm]
  | _ => simp [same, compareNumbers, int?, identity?, doubleIdentity] <;> split <;> simp

mutual

/-- Two keys are equal if they have one identity. -/
theorem same_iff_identity : ∀ {a : Value}, a.isKey = true → ∀ b : Value,
    (a.same b = true ↔ ∃ i, a.identity? = some i ∧ b.identity? = some i)
  | .null, _, b => by cases b <;> simp [same, identity?, doubleIdentity_ne, compareNumbers, int?]
  | .bool x, _, b => by
    have hsame : (bool x).same b = (compareNumbers (bool x) b == some .eq) := by
      cases b <;> rfl
    rw [hsame, compareNumbers_iff_identity rfl]
    cases x <;> simp [identity?]
  | .int n, _, b => by
    have hsame : (int n).same b = (compareNumbers (int n) b == some .eq) := by
      cases b <;> rfl
    rw [hsame, compareNumbers_iff_identity rfl]
    simp [identity?]
  | .float x, _, b => by
    rw [same_float_iff]
    simp [identity?]
  | .text s, _, b => by
    cases b <;> simp [same, identity?, doubleIdentity_ne, compareNumbers, int?, eq_comm (a := s)]
  | .bytes bs, _, b => by
    cases b <;> simp [same, identity?, doubleIdentity_ne, compareNumbers, int?, eq_comm (a := bs)]
  | .list items, h, _ => by cases h
  | .tuple items, h, b => by
    cases b with
    | tuple others =>
      have ih := sameItems_iff_identities h others
      simp only [same, identity?, ih]
      cases identities? items <;> simp
    | float y =>
      have hne (is : List Identity) : Identity.tuple is ≠ doubleIdentity y :=
        (doubleIdentity_ne (by simp) (by simp) y).symm
      simp [same, identity?, hne, compareNumbers, int?]
    | _ => simp [same, identity?, compareNumbers, int?]
  | .dict entries, h, _ => by cases h
  | .regex r, _, b => by
    cases b <;> simp [same, identity?, doubleIdentity_ne, compareNumbers, int?,
      eq_comm (a := r.source), eq_comm (a := r.flags)]
  | .callback m _, _, b => by
    cases b <;> simp [same, identity?, doubleIdentity_ne, compareNumbers, int?, eq_comm (a := m)]
  | .function s, _, b => by
    cases b <;> simp [same, identity?, doubleIdentity_ne, compareNumbers, int?, eq_comm (a := s)]

theorem sameItems_iff_identities : ∀ {as : List Value}, areKeys as = true → ∀ bs : List Value,
    (sameItems as bs = true ↔ ∃ is, identities? as = some is ∧ identities? bs = some is)
  | [], _, bs => by
    cases bs with
    | nil => simp [sameItems, identities?]
    | cons b bs => cases hb : b.identity? <;> simp [sameItems, identities?, hb]
  | a :: as, h, bs => by
    cases bs with
    | nil => cases ha : a.identity? <;> simp [sameItems, identities?, ha]
    | cons b bs =>
      obtain ⟨ha, has⟩ := Bool.and_eq_true_iff.mp h
      have iha := same_iff_identity ha b
      have ihas := sameItems_iff_identities has bs
      simp only [sameItems, identities?, Bool.and_eq_true, iha, ihas]
      cases a.identity? <;> cases identities? as <;> cases b.identity? <;> cases identities? bs <;>
        simp

end

mutual

theorem isKey_of_identity? : ∀ {v : Value} {i : Identity}, v.identity? = some i → v.isKey = true
  | .list _, _, h => by cases h
  | .dict _, _, h => by cases h
  | .tuple items, _, h => by
    obtain ⟨is, his, -⟩ := Option.map_eq_some_iff.mp h
    show areKeys items = true
    exact areKeys_of_identities? his
  | .null, _, _ | .bool _, _, _ | .int _, _, _ | .float _, _, _ | .text _, _, _ | .bytes _, _, _
  | .regex _, _, _ | .callback _ _, _, _ | .function _, _, _ => rfl

theorem areKeys_of_identities? : ∀ {as : List Value} {is : List Identity},
    identities? as = some is → areKeys as = true
  | [], _, _ => rfl
  | a :: as, _, h => by
    obtain ⟨i, hi, hrest⟩ := Option.bind_eq_some_iff.mp h
    obtain ⟨more, hmore, -⟩ := Option.map_eq_some_iff.mp hrest
    exact Bool.and_eq_true_iff.mpr ⟨isKey_of_identity? hi, areKeys_of_identities? hmore⟩

end

mutual

/-- Every key has an identity. -/
theorem isSome_identity? : ∀ {v : Value}, v.isKey = true → v.identity?.isSome = true
  | .list _, h => by cases h
  | .dict _, h => by cases h
  | .tuple items, h => by
    rw [identity?, Option.isSome_map]
    exact isSome_identities? h
  | .null, _ | .bool _, _ | .int _, _ | .float _, _ | .text _, _ | .bytes _, _ | .regex _, _
  | .callback _ _, _ | .function _, _ => rfl

theorem isSome_identities? : ∀ {as : List Value}, areKeys as = true →
    (identities? as).isSome = true
  | [], _ => rfl
  | a :: as, h => by
    obtain ⟨ha, has⟩ := Bool.and_eq_true_iff.mp h
    obtain ⟨i, hi⟩ := Option.isSome_iff_exists.mp (isSome_identity? ha)
    obtain ⟨is, his⟩ := Option.isSome_iff_exists.mp (isSome_identities? has)
    simp [identities?, hi, his]

end

/-- Every key is the key that it is, an undefined double as well. -/
theorem same_refl {a : Value} (ha : a.isKey = true) : a.same a = true := by
  obtain ⟨i, hi⟩ := Option.isSome_iff_exists.mp (isSome_identity? ha)
  exact (same_iff_identity ha a).mpr ⟨i, hi, hi⟩

theorem isKey_of_same {a b : Value} (ha : a.isKey = true) (h : a.same b = true) :
    b.isKey = true := by
  obtain ⟨i, -, hi⟩ := (same_iff_identity ha b).mp h
  exact isKey_of_identity? hi

theorem same_symm {a b : Value} (ha : a.isKey = true) (h : a.same b = true) :
    b.same a = true := by
  obtain ⟨i, hi, hj⟩ := (same_iff_identity ha b).mp h
  exact (same_iff_identity (isKey_of_same ha h) a).mpr ⟨i, hj, hi⟩

theorem same_trans {a b c : Value} (ha : a.isKey = true) (hab : a.same b = true)
    (hbc : b.same c = true) : a.same c = true := by
  obtain ⟨i, hi, hj⟩ := (same_iff_identity ha b).mp hab
  obtain ⟨j, hj', hk⟩ := (same_iff_identity (isKey_of_same ha hab) c).mp hbc
  obtain rfl : i = j := Option.some.inj (hj.symm.trans hj')
  exact (same_iff_identity ha c).mpr ⟨i, hi, hk⟩

end Value
end QueryOptions
