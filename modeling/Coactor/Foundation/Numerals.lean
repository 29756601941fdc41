import Mathlib.Data.Nat.Digits.Lemmas

/-!
# Reading and printing numbers

A number is printed by its digits without leading zeros.  A reader takes all
digits at the front of a text; it can limit their number, turn leading zeros
down, and turns down what does not fit into the type it reads.
-/

namespace Coactor.Foundation

/-! ## Digits -/

/-- The value of a digit of radix sixteen; sixteen for any other character. -/
def digitValue (character : Char) : Nat :=
  if character.isDigit then character.toNat - 48
  else if 'a' ≤ character ∧ character ≤ 'f' then character.toNat - 87
  else if 'A' ≤ character ∧ character ≤ 'F' then character.toNat - 55
  else 16

/-- `char::to_digit`, for a radix up to sixteen. -/
def toDigit (radix : Nat) (character : Char) : Option Nat :=
  if digitValue character < radix then some (digitValue character) else none

/-- The digits at the front of a text, and the rest. -/
def spanDigits (radix : Nat) : List Char → List Nat × List Char
  | [] => ([], [])
  | character :: rest =>
      match toDigit radix character with
      | some digit => (digit :: (spanDigits radix rest).1, (spanDigits radix rest).2)
      | none => ([], character :: rest)

/-- The number that digits stand for, the most significant first. -/
def ofDigits (radix : Nat) (digits : List Nat) : Nat :=
  digits.foldl (fun value digit => value * radix + digit) 0

/-- Read a number below a bound. -/
def readNumber (radix : Nat) (maxDigits : Option Nat) (allowZeroPrefix : Bool) (bound : Nat)
    (input : List Char) : Option (Fin bound × List Char) :=
  let digits := (spanDigits radix input).1
  if digits = [] then none
  else if maxDigits.any fun most => decide (most < digits.length) then none
  else if !allowZeroPrefix && digits.head? == some 0 && decide (1 < digits.length) then none
  else if fits : ofDigits radix digits < bound then
    some (⟨ofDigits radix digits, fits⟩, (spanDigits radix input).2)
  else none

/-- The digits of a number, the most significant first. -/
def digitsOf (radix number : Nat) : List Nat :=
  if number = 0 then [0] else (radix.digits number).reverse

def printNumber (radix number : Nat) : List Char := (digitsOf radix number).map Nat.digitChar

/-- The text does not go on with a digit. -/
def Stops (radix : Nat) (text : List Char) : Prop :=
  ∀ character ∈ text.head?, toDigit radix character = none

variable {radix number bound : Nat} {input rest text : List Char} {character : Char}
  {digits : List Nat} {maxDigits : Option Nat} {allowZeroPrefix : Bool}

theorem toDigit_digitChar (small : radix ≤ 16) {digit : Nat} (below : digit < radix) :
    toDigit radix digit.digitChar = some digit := by
  have all : ∀ digit < 16, digitValue digit.digitChar = digit := by decide
  rw [toDigit, all digit (by omega), if_pos below]

theorem digitChar_of_toDigit {digit : Nat} (read : toDigit 10 character = some digit) :
    digit.digitChar = character := by
  unfold toDigit at read
  split at read
  · rename_i below
    obtain rfl := Option.some.inj read
    unfold digitValue at below ⊢
    split at below
    · rename_i decimal
      rw [if_pos decimal]
      refine Char.toNat_inj.mp ?_
      rw [Nat.toNat_digitChar_of_lt_ten below]
      have low : 48 ≤ character.toNat := by
        simp only [Char.isDigit, Bool.and_eq_true, decide_eq_true_eq] at decimal
        exact decimal.1
      omega
    · rename_i letter
      have least : ∀ {low : Char}, low ≤ character → low.toNat ≤ character.toNat := fun le => le
      split at below
      · rename_i range
        have := least range.1
        simp only [Char.reduceToNat] at this
        omega
      · split at below
        · rename_i range
          have := least range.1
          simp only [Char.reduceToNat] at this
          omega
        · omega
  · cases read

theorem spanDigits_append (same : text.map (toDigit radix) = digits.map some)
    (stops : Stops radix rest) : spanDigits radix (text ++ rest) = (digits, rest) := by
  induction text generalizing digits with
  | nil =>
      cases digits with
      | nil =>
          cases rest with
          | nil => rfl
          | cons character rest =>
              have none := stops character rfl
              simp only [List.nil_append, spanDigits, none]
      | cons digit digits => cases same
  | cons character text ih =>
      cases digits with
      | nil => cases same
      | cons digit digits =>
          simp only [List.map_cons, List.cons.injEq] at same
          simp only [List.cons_append, spanDigits, same.1, ih same.2]

/-- The digits at the front of a text, written back. -/
theorem spanDigits_spec (input : List Char) :
    ∃ text, input = text ++ (spanDigits radix input).2 ∧
      text.map (toDigit radix) = (spanDigits radix input).1.map some ∧
      Stops radix (spanDigits radix input).2 := by
  induction input with
  | nil => exact ⟨[], rfl, rfl, by rintro character ⟨⟩⟩
  | cons character rest ih =>
      obtain ⟨text, split, same, stops⟩ := ih
      cases read : toDigit radix character with
      | none =>
          simp only [spanDigits, read]
          refine ⟨[], rfl, rfl, ?_⟩
          rintro other ⟨⟩
          exact read
      | some digit =>
          simp only [spanDigits, read]
          refine ⟨character :: text, ?_, ?_, stops⟩
          · rw [List.cons_append, ← split]
          · simp only [List.map_cons, read, same]

/-! ## Printed numbers -/

theorem ofDigits_reverse (digits : List Nat) :
    ofDigits radix digits.reverse = Nat.ofDigits radix digits := by
  rw [ofDigits, List.foldl_reverse, Nat.ofDigits_eq_foldr]
  congr 1
  funext digit value
  rw [Nat.cast_id, Nat.mul_comm, Nat.add_comm]

theorem ofDigits_digitsOf : ofDigits radix (digitsOf radix number) = number := by
  unfold digitsOf
  split
  · rename_i zero
    rw [zero]
    simp [ofDigits]
  · rw [ofDigits_reverse, Nat.ofDigits_digits]

theorem digitsOf_ne_nil : digitsOf radix number ≠ [] := by
  unfold digitsOf
  split
  · exact List.cons_ne_nil 0 []
  · rename_i positive
    simpa [Nat.digits_ne_nil_iff_ne_zero] using positive

theorem lt_of_mem_digitsOf (wide : 1 < radix) {digit : Nat} (member : digit ∈ digitsOf radix number) :
    digit < radix := by
  unfold digitsOf at member
  split at member
  · rw [List.mem_singleton.mp member]
    omega
  · exact Nat.digits_lt_base wide (List.mem_reverse.mp member)

/-- A printed number has a leading zero only if it is zero. -/
theorem head_digitsOf (leads : (digitsOf radix number).head? = some 0) :
    (digitsOf radix number).length = 1 := by
  unfold digitsOf at leads ⊢
  split
  · rfl
  · rename_i positive
    rw [if_neg positive, List.head?_reverse, List.getLast?_eq_some_getLast
      (Nat.digits_ne_nil_iff_ne_zero.mpr positive)] at leads
    exact absurd (Option.some.inj leads) (Nat.getLast_digit_ne_zero radix positive)

theorem length_digitsOf {most : Nat} (wide : 1 < radix) (positive : 0 < most)
    (fits : number < radix ^ most) : (digitsOf radix number).length ≤ most := by
  unfold digitsOf
  split
  · exact positive
  · rw [List.length_reverse]
    exact (Nat.digits_length_le_iff wide number).mpr fits

theorem map_printNumber (wide : 1 < radix) (small : radix ≤ 16) :
    (printNumber radix number).map (toDigit radix) = (digitsOf radix number).map some := by
  rw [printNumber, List.map_map]
  refine List.map_congr_left fun digit member => ?_
  exact toDigit_digitChar small (lt_of_mem_digitsOf wide member)

theorem toDigit_of_mem_printNumber (wide : 1 < radix) (small : radix ≤ 16)
    (member : character ∈ printNumber radix number) : toDigit radix character ≠ none := by
  have listed := List.mem_map_of_mem (f := toDigit radix) member
  rw [map_printNumber wide small] at listed
  obtain ⟨digit, -, same⟩ := List.mem_map.mp listed
  exact same ▸ Option.some_ne_none digit

/-- A printed number is read back, up to what follows it. -/
theorem readNumber_printNumber (wide : 1 < radix) (small : radix ≤ 16) (stops : Stops radix rest)
    (number : Fin bound)
    (few : ∀ most ∈ maxDigits, 0 < most ∧ number.val < radix ^ most) :
    readNumber radix maxDigits allowZeroPrefix bound (printNumber radix number ++ rest) =
      some (number, rest) := by
  have spans := spanDigits_append (@map_printNumber radix number.val wide small) stops
  have short : (maxDigits.any fun most =>
      decide (most < (digitsOf radix number.val).length)) = false := by
    cases maxDigits with
    | none => rfl
    | some most =>
        obtain ⟨positive, fits⟩ := few most rfl
        have := length_digitsOf wide positive fits
        simpa using this
  have plain : (!allowZeroPrefix && (digitsOf radix number.val).head? == some 0 &&
      decide (1 < (digitsOf radix number.val).length)) = false := by
    by_cases leads : (digitsOf radix number.val).head? = some 0
    · simp [head_digitsOf leads]
    · simp [leads]
  unfold readNumber
  simp only [spans, digitsOf_ne_nil, if_false, short, plain, Bool.false_eq_true,
    ofDigits_digitsOf]
  rw [dif_pos number.isLt]

/-- Digits without a leading zero are the digits of their number. -/
theorem digitsOf_ofDigits (wide : 1 < radix) (below : ∀ digit ∈ digits, digit < radix)
    (nonempty : digits ≠ []) (plain : digits.head? = some 0 → digits.length = 1) :
    digitsOf radix (ofDigits radix digits) = digits := by
  by_cases leads : digits.head? = some 0
  · obtain ⟨digit, rfl⟩ := List.length_eq_one_iff.mp (plain leads)
    obtain rfl := Option.some.inj leads
    simp [ofDigits, digitsOf]
  · have number : ofDigits radix digits = Nat.ofDigits radix digits.reverse := by
      rw [← ofDigits_reverse, List.reverse_reverse]
    have back : radix.digits (ofDigits radix digits) = digits.reverse := by
      rw [number]
      refine Nat.digits_ofDigits radix wide digits.reverse
        (fun digit member => below digit (List.mem_reverse.mp member)) fun _ => ?_
      rw [List.getLast_reverse]
      intro zero
      exact leads (zero ▸ List.head?_eq_some_head nonempty)
    have positive : ofDigits radix digits ≠ 0 := by
      intro zero
      rw [zero, Nat.digits_zero] at back
      exact nonempty (List.reverse_eq_nil_iff.mp back.symm)
    rw [digitsOf, if_neg positive, back, List.reverse_reverse]

/-- Where leading zeros are turned down, a decimal number is read from its print
only. -/
theorem printNumber_of_readNumber {number : Fin bound}
    (read : readNumber 10 maxDigits false bound input = some (number, rest)) :
    input = printNumber 10 number ++ rest := by
  obtain ⟨text, split, same, -⟩ := @spanDigits_spec 10 input
  have below : ∀ digit ∈ (spanDigits 10 input).1, digit < 10 := by
    intro digit member
    have listed : some digit ∈ text.map (toDigit 10) := by
      rw [same]
      exact List.mem_map_of_mem member
    obtain ⟨character, -, digits⟩ := List.mem_map.mp listed
    unfold toDigit at digits
    split at digits
    · rename_i below
      rwa [Option.some.inj digits] at below
    · cases digits
  have written : ∀ {digits : List Nat}, text.map (toDigit 10) = digits.map some →
      text = digits.map Nat.digitChar := by
    clear split same
    induction text with
    | nil =>
        intro digits same
        rw [List.map_eq_nil_iff.mp same.symm, List.map_nil]
    | cons character text ih =>
        intro digits same
        cases digits with
        | nil => cases same
        | cons digit digits =>
            simp only [List.map_cons, List.cons.injEq] at same ⊢
            exact ⟨(digitChar_of_toDigit same.1).symm, ih same.2⟩
  unfold readNumber at read
  simp only at read
  split_ifs at read with empty many zero fits
  obtain ⟨rfl, rfl⟩ := Prod.mk.inj (Option.some.inj read)
  have plain : (spanDigits 10 input).1.head? = some 0 → (spanDigits 10 input).1.length = 1 := by
    intro leads
    have some' := List.length_pos_iff.mpr empty
    simp only [leads, Bool.not_false, Bool.true_and, beq_self_eq_true, decide_eq_true_eq] at zero
    omega
  calc input = text ++ (spanDigits 10 input).2 := split
    _ = printNumber 10 (ofDigits 10 (spanDigits 10 input).1) ++ (spanDigits 10 input).2 := by
        rw [printNumber, digitsOf_ofDigits (by decide) below empty plain, ← written same]

end Coactor.Foundation
