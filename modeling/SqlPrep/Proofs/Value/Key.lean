import Mathlib.Algebra.Order.Field.Power
import Mathlib.Data.Rat.Cast.Order
import Mathlib.Tactic.Tauto
import SqlPrep.Value.Basic

/-!
# Keys

Two values are the same key when both can be keys and both are told by the same thing: a number by
its exact value, whatever its kind, a text and a choice by characters, a moment by the instant that
it denotes, a tuple by its parts, and what is no number by the object that holds it. So the relation
is symmetric and transitive, and every value that can be a key is the same as itself.

A mapping therefore finds the same under each of two keys that are the same, and an assignment
changes what is found under its own key only.
-/

namespace SqlPrep

open Number

/-- What a key is told by. All collections that are no keys are told by one thing. -/
inductive KeyClass where
  | collection
  | null
  | number (value : ℚ)
  | infinite (negative : Bool)
  | nan (object : Nat)
  | text (s : String)
  | day (d : Day)
  | moment (hasOffset : Bool) (ticks : Int)
  | bytes (b : List UInt8)
  | tuple (parts : List KeyClass)

/-! ## Numbers and moments -/

/-- A power is the power of the base as a number, one for a negative exponent. -/
theorem cast_power (base : Nat) (exponent : Int) :
    ((power base exponent : Nat) : ℚ) = (base : ℚ) ^ exponent.toNat := by
  rw [power, Nat.pow_eq, Nat.cast_pow]

/-- Two scaled integers are equal when they are after both have been brought to the lower
exponent. -/
theorem mul_power_eq_iff (a b e f : Int) :
    a * (power 2 (e - f) : Nat) = b * (power 2 (f - e) : Nat) ↔
      (a : ℚ) * 2 ^ e = (b : ℚ) * 2 ^ f := by
  have hcast : a * (power 2 (e - f) : Nat) = b * (power 2 (f - e) : Nat) ↔
      (a : ℚ) * 2 ^ (e - f).toNat = (b : ℚ) * 2 ^ (f - e).toNat := by
    rw [← Int.cast_inj (α := ℚ)]
    simp only [Int.cast_mul, Int.cast_natCast, cast_power, Nat.cast_ofNat]
  have hscale (i j : Int) : (2 : ℚ) ^ (i - j).toNat * 2 ^ min i j = 2 ^ i := by
    rw [← zpow_natCast, ← zpow_add₀ two_ne_zero]
    congr 1
    omega
  have hlow : (2 : ℚ) ^ min e f ≠ 0 := zpow_ne_zero _ two_ne_zero
  rw [hcast, ← mul_left_inj' hlow, mul_assoc, mul_assoc, hscale e f, min_comm e f, hscale f e]

namespace Number.Binary64

/-- What a double is told by as a key. -/
def keyClass : Binary64 → KeyClass
  | .finite s m e => .number (signed s m * 2 ^ e)
  | .infinite s => .infinite s
  | .nan object => .nan object

/-- A factor passes the sign. -/
theorem signed_mul (negative : Bool) (m k : Nat) :
    signed negative (m * k) = signed negative m * k := by
  cases negative <;> simp [signed]

/-- Doubles are one key when they are told by the same thing. -/
theorem sameKey_iff (x y : Binary64) : x.sameKey y = true ↔ x.keyClass = y.keyClass := by
  cases x <;> cases y <;>
    simp [Binary64.sameKey, equals, Binary64.keyClass, signed_mul, mul_power_eq_iff]

/-- A double is an integer when it is told by that number. -/
theorem equalsInt_iff (x : Binary64) (n : Int) :
    x.equalsInt n = true ↔ x.keyClass = .number n := by
  cases x with
  | finite s m e =>
    have h := mul_power_eq_iff (signed s m) n e 0
    simpa [equalsInt, Binary64.keyClass, signed_mul] using h
  | infinite s => simp [equalsInt, Binary64.keyClass]
  | nan object => simp [equalsInt, Binary64.keyClass]

end Number.Binary64

namespace Moment

/-- What a moment is told by as a key: the instant, or the fields of a local one. -/
def keyClass (m : Moment) : KeyClass :=
  .moment m.offset.isSome (m.ticks - m.offset.getD 0 * 60000000)

/-- Moments are the same when they are told by the same thing. -/
theorem same_iff (m n : Moment) : m.same n = true ↔ m.keyClass = n.keyClass := by
  cases hm : m.offset <;> cases hn : n.offset <;> simp [same, keyClass, hm, hn]

end Moment

/-! ## All values -/

namespace Value

mutual

/-- What a value is told by as a key. -/
def keyClass : Value → KeyClass
  | .null => .null
  | .bool b => .number (if b then 1 else 0)
  | .int n => .number n
  | .float x => x.keyClass
  | .str s => .text s
  | .choice c => .text c.keyword
  | .day d => .day d
  | .moment m => m.keyClass
  | .bytes b => .bytes b
  | .tuple items => .tuple (keyClasses items)
  | .list _ | .map _ | .set _ => .collection

/-- What values are told by as keys, one by one. -/
def keyClasses : List Value → List KeyClass
  | [] => []
  | v :: rest => v.keyClass :: keyClasses rest

end

mutual

/-- Values are one key when both can be keys and both are told by the same thing. -/
theorem sameKey_iff (a b : Value) :
    a.sameKey b = true ↔ a.isHashable ∧ b.isHashable ∧ a.keyClass = b.keyClass := by
  cases a with
  | tuple as =>
    cases b with
    | tuple bs => simp [sameKey, sameKeys_iff as bs, keyClass, isHashable]
    | float x => cases x <;> simp [sameKey, keyClass, isHashable, toInt?, Binary64.keyClass]
    | _ => simp [sameKey, keyClass, isHashable, toInt?, text?, Moment.keyClass]
  | float x =>
    cases b with
    | float y => simp [sameKey, keyClass, isHashable, Binary64.sameKey_iff]
    | bool c => cases c <;> simp [sameKey, keyClass, isHashable, toInt?, Binary64.equalsInt_iff]
    | int n => simp [sameKey, keyClass, isHashable, toInt?, Binary64.equalsInt_iff]
    | _ =>
      cases x <;>
        simp [sameKey, keyClass, isHashable, toInt?, Binary64.keyClass, Moment.keyClass]
  | bool c =>
    cases b with
    | float y =>
      cases c <;> simp [sameKey, keyClass, isHashable, toInt?, Binary64.equalsInt_iff,
        @eq_comm _ (KeyClass.number _)]
    | bool d => cases c <;> cases d <;> simp [sameKey, keyClass, isHashable, toInt?]
    | int n =>
      cases c <;> simp [sameKey, keyClass, isHashable, toInt?, ← Int.cast_inj (α := ℚ)]
    | _ => simp [sameKey, keyClass, isHashable, toInt?, text?, Moment.keyClass]
  | int m =>
    cases b with
    | float y =>
      simp [sameKey, keyClass, isHashable, toInt?, Binary64.equalsInt_iff,
        @eq_comm _ (KeyClass.number _)]
    | bool d => cases d <;> simp [sameKey, keyClass, isHashable, toInt?]
    | _ => simp [sameKey, keyClass, isHashable, toInt?, text?, Moment.keyClass]
  | _ =>
    cases b with
    | float y =>
      cases y <;>
        simp [sameKey, keyClass, isHashable, toInt?, Binary64.keyClass, Moment.keyClass]
    | _ => simp [sameKey, keyClass, isHashable, toInt?, text?, Moment.same_iff, Moment.keyClass]

/-- Rows of values are the same keys when all can be keys and are told by the same things. -/
theorem sameKeys_iff (as bs : List Value) :
    sameKeys as bs = true ↔ allHashable as ∧ allHashable bs ∧ keyClasses as = keyClasses bs := by
  cases as with
  | nil => cases bs <;> simp [sameKeys, keyClasses, allHashable]
  | cons a as =>
    cases bs with
    | nil => simp [sameKeys, keyClasses]
    | cons b bs =>
      simp only [sameKeys, Bool.and_eq_true, keyClasses, allHashable, sameKey_iff a b,
        sameKeys_iff as bs, List.cons.injEq]
      tauto

end

/-- A value that can be a key is the same key as itself. -/
theorem sameKey_self {key : Value} (h : key.isHashable = true) : key.sameKey key = true :=
  (sameKey_iff key key).mpr ⟨h, h, rfl⟩

/-- The order of two keys does not matter. -/
theorem sameKey_symm {a b : Value} (h : a.sameKey b = true) : b.sameKey a = true := by
  obtain ⟨ha, hb, hclass⟩ := (sameKey_iff a b).mp h
  exact (sameKey_iff b a).mpr ⟨hb, ha, hclass.symm⟩

/-- Keys that are the same as one key are the same. -/
theorem sameKey_trans {a b c : Value} (hab : a.sameKey b = true) (hbc : b.sameKey c = true) :
    a.sameKey c = true := by
  obtain ⟨ha, -, hclass⟩ := (sameKey_iff a b).mp hab
  obtain ⟨-, hc, hclass'⟩ := (sameKey_iff b c).mp hbc
  exact (sameKey_iff a c).mpr ⟨ha, hc, hclass.trans hclass'⟩

/-- Keys that are the same are the same as the same keys. -/
theorem sameKey_congr {a b : Value} (h : a.sameKey b = true) (key : Value) :
    key.sameKey a = key.sameKey b :=
  Bool.eq_iff_iff.mpr ⟨fun ha => sameKey_trans ha h, fun hb => sameKey_trans hb (sameKey_symm h)⟩

end Value

/-! ## Looking up and assigning -/

namespace Entries

/-- Under keys that are the same a mapping finds the same. -/
theorem get?_congr {a b : Value} (h : a.sameKey b = true) (entries : Entries) :
    get? entries a = get? entries b := by
  induction entries with
  | nil => rfl
  | cons entry rest ih => rw [get?, get?, Value.sameKey_congr h, ih]

/-- An assignment changes what is found under its key, and nothing else. -/
theorem get?_put (entries : Entries) (key value other : Value) :
    get? (put entries key value) other =
      if key.sameKey other then some value else get? entries other := by
  induction entries with
  | nil => rfl
  | cons entry rest ih =>
    by_cases hkey : entry.1.sameKey key = true
    · have hother : entry.1.sameKey other = key.sameKey other :=
        Bool.eq_iff_iff.mpr ⟨fun h => Value.sameKey_trans (Value.sameKey_symm hkey) h,
          fun h => Value.sameKey_trans hkey h⟩
      rw [put, if_pos hkey, get?, hother, get?, hother]
      split <;> rfl
    · rw [put, if_neg hkey, get?, ih, get?]
      by_cases hother : entry.1.sameKey other = true
      · have hne : ¬ key.sameKey other = true := fun h =>
          hkey (Value.sameKey_trans hother (Value.sameKey_symm h))
        rw [if_pos hother, if_pos hother, if_neg hne]
      · rw [if_neg hother, if_neg hother]

/-- An assignment keeps the place of a key that is there, and adds one that is not at the end. -/
theorem keys_put (entries : Entries) (key value : Value) :
    keys (put entries key value) =
      keys entries ++ if (get? entries key).isNone then [key] else [] := by
  induction entries with
  | nil => rfl
  | cons entry rest ih =>
    by_cases hkey : entry.1.sameKey key = true
    · rw [put, if_pos hkey, get?, if_pos hkey]
      exact (List.append_nil _).symm
    · rw [put, if_neg hkey, get?, if_neg hkey]
      exact congrArg (entry.1 :: ·) ih

end Entries
end SqlPrep
