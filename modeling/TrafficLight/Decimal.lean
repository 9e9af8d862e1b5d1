import Mathlib.Algebra.Group.Nat.Defs
import Mathlib.Data.List.Basic
import Mathlib.Tactic.Common

namespace TrafficLight.Decimal

/-- The bytes of a text of ASCII characters. -/
def ascii (text : List Char) : List UInt8 :=
  text.map fun c => c.val.toUInt8

theorem ne_of_all {word : List UInt8} {b : UInt8} (h : (word.all fun c => decide (c ≠ b)) = true) :
    ∀ c ∈ word, c ≠ b :=
  fun c hc => of_decide_eq_true (List.all_eq_true.mp h c hc)

def digit (n : Nat) : UInt8 := UInt8.ofNat (48 + n)

def isDigit (c : UInt8) : Bool := 48 ≤ c ∧ c ≤ 57

def digitsUpTo : Nat → Nat → List UInt8
  | 0, _ => []
  | fuel + 1, n =>
      if n < 10 then [digit n] else digitsUpTo fuel (n / 10) ++ [digit (n % 10)]

/-- The numeral of a number, without leading zeros. -/
def decimal (n : Nat) : List UInt8 := digitsUpTo (n + 1) n

/-- Reads digits onto a number that was read already; fails at the first digit
that would exceed the maximum. -/
def readBounded (maximum : Nat) : Nat → List UInt8 → Option Nat
  | value, [] => some value
  | value, c :: text =>
      if isDigit c = false then none
      else
        let d := (c - 48).toNat
        if value > maximum / 10 ∨ (value = maximum / 10 ∧ d > maximum % 10) then none
        else readBounded maximum (value * 10 + d) text

theorem digitsUpTo_fuel {fuel fuel' n : Nat} (h : n < fuel) (h' : n < fuel') :
    digitsUpTo fuel n = digitsUpTo fuel' n := by
  induction fuel generalizing fuel' n with
  | zero => omega
  | succ fuel ih =>
      obtain ⟨fuel', rfl⟩ : ∃ k, fuel' = k + 1 := ⟨fuel' - 1, by omega⟩
      simp only [digitsUpTo]
      split
      · rfl
      · have hrest := @ih fuel' (n / 10) (by omega) (by omega)
        rw [hrest]

theorem decimal_eq (n : Nat) :
    decimal n = if n < 10 then [digit n] else decimal (n / 10) ++ [digit (n % 10)] := by
  rw [decimal, digitsUpTo]
  split
  · rfl
  · rw [decimal, digitsUpTo_fuel (by omega) (Nat.lt_succ_self _)]

theorem decimal_induction {p : Nat → Prop} (hdigit : ∀ n < 10, p n)
    (hstep : ∀ n, 10 ≤ n → p (n / 10) → p n) (n : Nat) : p n := by
  induction n using Nat.strongRecOn with
  | ind n ih =>
      by_cases h : n < 10
      · exact hdigit n h
      · exact hstep n (by omega) (ih (n / 10) (by omega))

theorem digit_toNat {n : Nat} (h : n < 10) : (digit n).toNat = 48 + n := by
  rw [digit, UInt8.toNat_ofNat']
  omega

theorem isDigit_digit {n : Nat} (h : n < 10) : isDigit (digit n) = true := by
  have hnat := digit_toNat h
  simp only [isDigit, decide_eq_true_eq, UInt8.le_iff_toNat_le, hnat]
  exact ⟨Nat.le_add_right _ _, by show 48 + n ≤ 57; omega⟩

theorem digit_sub {n : Nat} (h : n < 10) : (digit n - 48).toNat = n := by
  have hle : (48 : UInt8) ≤ digit n := by
    rw [UInt8.le_iff_toNat_le, digit_toNat h]
    exact Nat.le_add_right _ _
  rw [UInt8.toNat_sub_of_le _ _ hle, digit_toNat h]
  show 48 + n - 48 = n
  omega

theorem decimal_ne_nil (n : Nat) : decimal n ≠ [] := by
  rw [decimal_eq]
  split <;> simp

theorem isDigit_of_mem_decimal {n : Nat} : ∀ c ∈ decimal n, isDigit c = true := by
  induction n using decimal_induction with
  | hdigit n h =>
      rw [decimal_eq, if_pos h]
      simpa using isDigit_digit h
  | hstep n h ih =>
      rw [decimal_eq, if_neg (by omega)]
      intro c hc
      rcases List.mem_append.mp hc with hold | hnew
      · exact ih c hold
      · rw [List.mem_singleton.mp hnew]
        exact isDigit_digit (Nat.mod_lt n (by decide))

theorem head_decimal {n : Nat} (h : (decimal n).head? = some 48) : n = 0 := by
  induction n using decimal_induction with
  | hdigit n hn =>
      rw [decimal_eq, if_pos hn] at h
      have hnat := congrArg UInt8.toNat (Option.some.inj h)
      rw [digit_toNat hn] at hnat
      change 48 + n = 48 at hnat
      omega
  | hstep n hn ih =>
      rw [decimal_eq, if_neg (by omega), List.head?_append_of_ne_nil _ (decimal_ne_nil _)] at h
      have hzero := ih h
      omega

theorem length_decimal {n k : Nat} (h : n < 10 ^ (k + 1)) : (decimal n).length ≤ k + 1 := by
  induction k generalizing n with
  | zero =>
      rw [decimal_eq, if_pos (by simpa using h)]
      simp
  | succ k ih =>
      rw [decimal_eq]
      split
      · simp
      · have hrest := @ih (n / 10) (Nat.div_lt_of_lt_mul (by rw [Nat.pow_succ] at h; omega))
        simp only [List.length_append, List.length_singleton]
        omega

theorem sub_le_of_isDigit {c : UInt8} (h : isDigit c = true) : (c - 48).toNat ≤ 9 := by
  simp only [isDigit, decide_eq_true_eq, UInt8.le_iff_toNat_le] at h
  rw [UInt8.toNat_sub_of_le _ _ (UInt8.le_iff_toNat_le.mpr h.1)]
  have hmax : (57 : UInt8).toNat = 57 := rfl
  have hmin : (48 : UInt8).toNat = 48 := rfl
  omega

theorem readBounded_le {maximum value n : Nat} {text : List UInt8} (hvalue : value ≤ maximum)
    (h : readBounded maximum value text = some n) : n ≤ maximum := by
  induction text generalizing value with
  | nil =>
      obtain rfl := Option.some.inj h
      exact hvalue
  | cons c text ih =>
      simp only [readBounded] at h
      split at h
      · cases h
      · rename_i hdigit
        have hle := sub_le_of_isDigit (by simpa using hdigit)
        split at h
        · cases h
        · exact ih (by omega) h

theorem readBounded_append (maximum value : Nat) (text rest : List UInt8) :
    readBounded maximum value (text ++ rest) =
      (readBounded maximum value text).bind fun read => readBounded maximum read rest := by
  induction text generalizing value with
  | nil => rfl
  | cons c text ih =>
      simp only [List.cons_append, readBounded]
      split
      · rfl
      · split
        · rfl
        · exact ih _

theorem readBounded_digit {maximum value n : Nat} (hn : n < 10)
    (h : value * 10 + n ≤ maximum) :
    readBounded maximum value [digit n] = some (value * 10 + n) := by
  simp only [readBounded, isDigit_digit hn, digit_sub hn]
  have hfits : ¬ (value > maximum / 10 ∨ (value = maximum / 10 ∧ n > maximum % 10)) := by
    omega
  simp [hfits]

theorem readBounded_decimal {maximum n : Nat} (h : n ≤ maximum) :
    readBounded maximum 0 (decimal n) = some n := by
  induction n using decimal_induction with
  | hdigit n hn =>
      rw [decimal_eq, if_pos hn]
      have hread := @readBounded_digit maximum 0 n hn (by omega)
      simpa using hread
  | hstep n hn ih =>
      rw [decimal_eq, if_neg (by omega), readBounded_append, ih (by omega), Option.bind_some,
        readBounded_digit (Nat.mod_lt n (by decide)) (by omega)]
      congr 1
      omega

theorem digit_of_isDigit {c : UInt8} (h : isDigit c = true) : digit (c - 48).toNat = c := by
  simp only [isDigit, decide_eq_true_eq, UInt8.le_iff_toNat_le] at h
  have hmin : (48 : UInt8).toNat = 48 := rfl
  have hmax : (57 : UInt8).toNat = 57 := rfl
  have hsub := UInt8.toNat_sub_of_le c 48 (UInt8.le_iff_toNat_le.mpr h.1)
  apply UInt8.toNat_inj.mp
  rw [digit_toNat (by omega)]
  omega

theorem decimal_append_of_readBounded {maximum value n : Nat} {text : List UInt8}
    (hvalue : 0 < value) (h : readBounded maximum value text = some n) :
    decimal value ++ text = decimal n := by
  induction text generalizing value with
  | nil =>
      obtain rfl := Option.some.inj h
      exact List.append_nil _
  | cons c text ih =>
      simp only [readBounded] at h
      split at h
      · cases h
      · rename_i hdigit
        have hc : isDigit c = true := by simpa using hdigit
        have hle := sub_le_of_isDigit hc
        split at h
        · cases h
        · rw [← ih (by omega) h, decimal_eq (value * 10 + (c - 48).toNat), if_neg (by omega)]
          have hdiv : (value * 10 + (c - 48).toNat) / 10 = value := by omega
          have hmod : (value * 10 + (c - 48).toNat) % 10 = (c - 48).toNat := by omega
          rw [hdiv, hmod, digit_of_isDigit hc, List.append_assoc]
          rfl

theorem decimal_of_readBounded {maximum n : Nat} {c : UInt8} {text : List UInt8}
    (hlead : c = 48 → text = []) (h : readBounded maximum 0 (c :: text) = some n) :
    c :: text = decimal n := by
  simp only [readBounded] at h
  split at h
  · cases h
  · rename_i hdigit
    have hc : isDigit c = true := by simpa using hdigit
    have hle := sub_le_of_isDigit hc
    have hone : decimal (c - 48).toNat = [c] := by
      rw [decimal_eq, if_pos (by omega), digit_of_isDigit hc]
    split at h
    · cases h
    · rw [Nat.zero_mul, Nat.zero_add] at h
      by_cases hzero : (c - 48).toNat = 0
      · have hfirst : c = 48 := by
          have hspell := digit_of_isDigit hc
          rw [hzero] at hspell
          exact hspell.symm
        have hnil := hlead hfirst
        rw [hnil] at h ⊢
        obtain rfl := Option.some.inj h
        exact hone.symm
      · have hrest := decimal_append_of_readBounded (Nat.pos_of_ne_zero hzero) h
        rw [hone] at hrest
        exact hrest

end TrafficLight.Decimal
