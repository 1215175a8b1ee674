import Mathlib.Data.List.TakeWhile
import Waymark.Json.Numeral
import Waymark.Proofs.Shortest

/-!
# Written numbers read back

The text of a number splits into the digits before its point, the digits behind it and an
exponent in one way only, and this numeral has the value of the decimal that was written. A
floating-point number always gets a point or an exponent, so it is never taken for an
integer, and an integer gets neither.
-/

namespace Waymark.Json.Numeral

/-! ## Digits -/

theorem ofDigits_eq_ofDigitChars (digits : List Char) :
    ofDigits digits = Nat.ofDigitChars 10 digits 0 := by
  rw [ofDigits, Nat.ofDigitChars]
  congr 1
  funext number digit
  rw [Nat.mul_comm]

theorem ofDigits_digitsOf (n : Nat) : ofDigits (DecimalStyle.digitsOf n) = n := by
  rw [ofDigits_eq_ofDigitChars]
  exact Nat.ofDigitChars_ten_toDigits

theorem ofDigits_append_replicate (digits : List Char) (zeros : Nat) :
    ofDigits (digits ++ List.replicate zeros '0') = ofDigits digits * 10 ^ zeros := by
  rw [ofDigits_eq_ofDigitChars, ofDigits_eq_ofDigitChars, Nat.ofDigitChars_append,
    Nat.ofDigitChars_replicate_zero, Nat.mul_comm]

theorem ofDigits_replicate_append (zeros : Nat) (digits : List Char) :
    ofDigits (List.replicate zeros '0' ++ digits) = ofDigits digits := by
  rw [ofDigits_eq_ofDigitChars, ofDigits_eq_ofDigitChars, Nat.ofDigitChars_append,
    Nat.ofDigitChars_replicate_zero, Nat.mul_zero]

theorem isDigit_of_mem_digitsOf {n : Nat} {c : Char} (mem : c ∈ DecimalStyle.digitsOf n) :
    c.isDigit = true :=
  Nat.isDigit_of_mem_toDigits (by decide) (by decide) mem

theorem isDigit_of_mem_zeros {count : Nat} {c : Char} (mem : c ∈ List.replicate count '0') :
    c.isDigit = true := by
  rw [List.eq_of_mem_replicate mem]
  rfl

/-- The digits of a positive number do not start with a zero. -/
theorem exists_digitsOf_eq_cons {n : Nat} (positive : 0 < n) :
    ∃ first others, DecimalStyle.digitsOf n = first :: others ∧ first ≠ '0' := by
  induction n using Nat.strongRecOn with
  | ind n inductionHypothesis =>
    rw [DecimalStyle.digitsOf, Nat.toDigits_eq_if (by decide)]
    split
    · exact ⟨n.digitChar, [], rfl, fun zero => positive.ne' (Nat.digitChar_eq_zero.1 zero)⟩
    · obtain ⟨first, others, digits, notZero⟩ :=
        inductionHypothesis (n / 10) (by omega) (by omega)
      rw [DecimalStyle.digitsOf] at digits
      exact ⟨first, others ++ [(n % 10).digitChar], by rw [digits, List.cons_append], notZero⟩

/-! ## Where the digits of a text end -/

/-- A text that does not go on with a digit. -/
def StopsDigits (rest : List Char) : Prop := ∀ c ∈ rest.head?, c.isDigit = false

theorem spanDigits_append {digits rest : List Char} (all : ∀ c ∈ digits, c.isDigit = true)
    (stops : StopsDigits rest) : spanDigits (digits ++ rest) = (digits, rest) := by
  rw [spanDigits, List.takeWhile_append_of_pos all, List.dropWhile_append_of_pos all]
  cases rest with
  | nil => simp
  | cons c rest =>
    have notDigit : c.isDigit = false := stops c rfl
    simp [notDigit]

/-- The digits before a point: a zero stands alone or does not come first. -/
def IsWhole (digits : List Char) : Prop :=
  (∀ c ∈ digits, c.isDigit = true) ∧
    (digits = ['0'] ∨ ∃ first others, digits = first :: others ∧ first ≠ '0')

theorem isWhole_digitsOf (n : Nat) : IsWhole (DecimalStyle.digitsOf n) := by
  refine ⟨fun _ => isDigit_of_mem_digitsOf, ?_⟩
  rcases Nat.eq_zero_or_pos n with rfl | positive
  · exact .inl rfl
  · exact .inr (exists_digitsOf_eq_cons positive)

theorem unsigned?_append (negative : Bool) {whole rest after : List Char}
    {fraction : Option (List Char)} {exponent : Option Int}
    (isWhole : IsWhole whole) (stops : StopsDigits rest)
    (fractionRead : fraction? rest = some (fraction, after))
    (exponentRead : exponent? after = some exponent) :
    unsigned? negative (whole ++ rest) = some { negative, whole, fraction, exponent } := by
  obtain ⟨all, alone⟩ := isWhole
  simp only [unsigned?, spanDigits_append all stops]
  rcases alone with rfl | ⟨first, others, rfl, notZero⟩
  · simp [fractionRead, exponentRead]
  · simp [notZero, fractionRead, exponentRead]

theorem stopsDigits_nil : StopsDigits [] := by
  intro c mem
  cases mem

theorem stopsDigits_cons {c : Char} (notDigit : c.isDigit = false) (rest : List Char) :
    StopsDigits (c :: rest) := by
  intro d mem
  cases mem
  exact notDigit

theorem fraction?_of_not_point {rest : List Char} (stops : ∀ c ∈ rest.head?, c ≠ '.') :
    fraction? rest = some (none, rest) := by
  unfold fraction?
  split
  · next others => exact absurd rfl (stops '.' rfl)
  · rfl

theorem fraction?_point {digits rest : List Char} (all : ∀ c ∈ digits, c.isDigit = true)
    (nonempty : digits ≠ []) (stops : StopsDigits rest) :
    fraction? ('.' :: (digits ++ rest)) = some (some digits, rest) := by
  obtain ⟨first, others, rfl⟩ := List.exists_cons_of_ne_nil nonempty
  simp only [fraction?, spanDigits_append all stops]

theorem signedDigits?_digitsOf (negative : Bool) (n : Nat) :
    signedDigits? negative (DecimalStyle.digitsOf n) =
      some (if negative then -(n : Int) else n) := by
  have split : spanDigits (DecimalStyle.digitsOf n ++ []) = (DecimalStyle.digitsOf n, []) :=
    spanDigits_append (fun _ => isDigit_of_mem_digitsOf) (by simp [StopsDigits])
  rw [List.append_nil] at split
  have value := ofDigits_digitsOf n
  obtain ⟨first, others, digits⟩ : ∃ first others, DecimalStyle.digitsOf n = first :: others :=
    List.exists_cons_of_ne_nil Nat.toDigits_ne_nil
  rw [digits] at split value ⊢
  simp only [signedDigits?, split, value]

theorem exponent?_exponentMark (exponent : Int) :
    exponent? ('e' :: ((if exponent < 0 then ['-'] else ['+']) ++
      DecimalStyle.digitsOf exponent.natAbs)) = some (some exponent) := by
  split
  case isTrue negative =>
    have value : -(exponent.natAbs : Int) = exponent := by omega
    simp only [exponent?, true_or, if_true, List.cons_append, List.nil_append,
      signedDigits?_digitsOf, Option.map_some, value]
  case isFalse positive =>
    have value : (exponent.natAbs : Int) = exponent := by omega
    simp only [exponent?, true_or, if_true, List.cons_append, List.nil_append,
      signedDigits?_digitsOf, Option.map_some, Bool.false_eq_true, if_false, value]

/-! ## The text of a decimal -/

/-- A text without sign is a numeral of a decimal's value, and not that of an integer. -/
def Spells (negative : Bool) (text : List Char) (decimal : Decimal) : Prop :=
  ∃ numeral, unsigned? negative text = some numeral ∧ numeral.negative = negative ∧
    numeral.integer? = none ∧ numeral.decimal.SameValue decimal

/-- Digits on both sides of a point. -/
theorem spells_point (negative : Bool) {whole fraction : List Char} {decimal : Decimal}
    (isWhole : IsWhole whole) (all : ∀ c ∈ fraction, c.isDigit = true)
    (nonempty : fraction ≠ [])
    (value : Decimal.SameValue ⟨ofDigits (whole ++ fraction), -(fraction.length : Int)⟩ decimal) :
    Spells negative (whole ++ '.' :: fraction) decimal := by
  have pointed : fraction? ('.' :: fraction) = some (some fraction, []) := by
    have read := fraction?_point all nonempty stopsDigits_nil
    rwa [List.append_nil] at read
  have read := unsigned?_append negative isWhole (stopsDigits_cons (by decide) _) pointed rfl
  refine ⟨_, read, rfl, rfl, ?_⟩
  rw [← Int.zero_sub] at value
  exact value

section Notation

variable (negative : Bool) {first : Char} {others : List Char} (exponent : Int)
  (all : ∀ c ∈ first :: others, c.isDigit = true) (notZero : first ≠ '0')

include all

theorem spells_positional_behind (behind : (first :: others).length + exponent ≤ 0) :
    Spells negative
      (DecimalStyle.json.positionalText (first :: others) ((first :: others).length + exponent))
      ⟨ofDigits (first :: others), exponent⟩ := by
  let zeros := List.replicate (-((first :: others).length + exponent)).toNat '0'
  have text : DecimalStyle.json.positionalText (first :: others)
      ((first :: others).length + exponent) = ['0'] ++ '.' :: (zeros ++ first :: others) := by
    rw [DecimalStyle.positionalText, if_pos behind]
    rfl
  have allBehind : ∀ c ∈ zeros ++ first :: others, c.isDigit = true :=
    List.forall_mem_append.2 ⟨fun _ => isDigit_of_mem_zeros, all⟩
  have places : -((zeros ++ first :: others).length : Int) = exponent := by
    simp only [zeros, List.length_append, List.length_replicate]
    omega
  have value : ofDigits (['0'] ++ (zeros ++ first :: others)) = ofDigits (first :: others) := by
    rw [← List.append_assoc]
    exact ofDigits_replicate_append (_ + 1) (first :: others)
  rw [text]
  apply spells_point negative ⟨by simp, .inl rfl⟩ allBehind (by simp)
  rw [places, value]
  exact .of_eq rfl

include notZero

theorem spells_positional_front (front : 0 ≤ exponent) :
    Spells negative
      (DecimalStyle.json.positionalText (first :: others) ((first :: others).length + exponent))
      ⟨ofDigits (first :: others), exponent⟩ := by
  let zeros := List.replicate exponent.toNat '0'
  have text : DecimalStyle.json.positionalText (first :: others)
      ((first :: others).length + exponent) = (first :: others ++ zeros) ++ '.' :: ['0'] := by
    have notBehind : ¬ ((first :: others).length + exponent ≤ 0) := by
      rw [List.length_cons]
      omega
    have padding : ((first :: others).length + exponent).toNat - (first :: others).length =
        exponent.toNat := by omega
    rw [DecimalStyle.positionalText, if_neg notBehind, if_pos (by omega), padding]
    rfl
  have allFront : ∀ c ∈ first :: others ++ zeros, c.isDigit = true :=
    List.forall_mem_append.2 ⟨all, fun _ => isDigit_of_mem_zeros⟩
  have value : ofDigits (first :: others ++ zeros ++ ['0']) =
      ofDigits (first :: others) * 10 ^ (exponent.toNat + 1) := by
    have padded : zeros ++ ['0'] = List.replicate (exponent.toNat + 1) '0' :=
      (List.replicate_succ' ..).symm
    rw [List.append_assoc, padded, ofDigits_append_replicate]
  have noPower : (-exponent).toNat = 0 := by omega
  rw [text]
  apply spells_point negative ⟨allFront, .inr ⟨first, others ++ zeros, rfl, notZero⟩⟩
    (by simp) (by simp)
  simp only [Decimal.SameValue, Decimal.num, Decimal.den, value, noPower, Nat.pow_eq]
  simp [Nat.pow_succ, Nat.mul_assoc]

theorem spells_positional_around (front : 0 < (first :: others).length + exponent)
    (behind : exponent < 0) :
    Spells negative
      (DecimalStyle.json.positionalText (first :: others) ((first :: others).length + exponent))
      ⟨ofDigits (first :: others), exponent⟩ := by
  obtain ⟨places, point⟩ : ∃ places : Nat, (first :: others).length + exponent = places + 1 :=
    ⟨((first :: others).length + exponent - 1).toNat, by omega⟩
  have text : DecimalStyle.json.positionalText (first :: others)
      ((first :: others).length + exponent) =
        (first :: others.take places) ++ '.' :: others.drop places := by
    rw [DecimalStyle.positionalText, if_neg (by omega), if_neg (by omega), point]
    rfl
  have length : -((others.drop places).length : Int) = exponent := by
    rw [List.length_drop]
    rw [List.length_cons] at point front
    omega
  have allFront : ∀ c ∈ first :: others.take places, c.isDigit = true := by
    intro c mem
    exact all c (List.cons_subset_cons first (List.take_subset places others) mem)
  have allBehind : ∀ c ∈ others.drop places, c.isDigit = true := by
    intro c mem
    exact all c (List.mem_cons_of_mem first (List.mem_of_mem_drop mem))
  rw [text]
  apply spells_point negative ⟨allFront, .inr ⟨first, others.take places, rfl, notZero⟩⟩ allBehind
  · intro empty
    rw [empty, List.length_nil] at length
    omega
  · rw [length, List.cons_append, List.take_append_drop]
    exact .of_eq rfl

theorem spells_exponential :
    Spells negative
      (DecimalStyle.json.exponentText (first :: others) ((first :: others).length + exponent - 1))
      ⟨ofDigits (first :: others), exponent⟩ := by
  have isWhole : IsWhole [first] :=
    ⟨fun c mem => all c (by simp_all), .inr ⟨first, [], rfl, notZero⟩⟩
  have marked := exponent?_exponentMark ((first :: others).length + exponent - 1)
  cases others with
  | nil =>
    have read := unsigned?_append negative isWhole (stopsDigits_cons (by decide) _)
      (fraction?_of_not_point (by simp)) marked
    refine ⟨_, read, rfl, rfl, .of_eq ?_⟩
    simp [decimal]
  | cons second others =>
    have read := unsigned?_append negative isWhole (stopsDigits_cons (by decide) _)
      (fraction?_point (fun c mem => all c (List.mem_cons_of_mem first mem)) (by simp)
        (stopsDigits_cons (by decide) _)) marked
    refine ⟨_, by simpa [DecimalStyle.exponentText, DecimalStyle.json] using read, rfl, rfl,
      .of_eq ?_⟩
    simp [decimal]
    omega

end Notation

theorem spells_decimalText (negative : Bool) {decimal : Decimal} (positive : 0 < decimal.digits) :
    Spells negative (DecimalStyle.json.decimalText decimal) decimal := by
  obtain ⟨first, others, digits, notZero⟩ := exists_digitsOf_eq_cons positive
  have all : ∀ c ∈ first :: others, c.isDigit = true :=
    digits ▸ fun c => isDigit_of_mem_digitsOf
  have value : decimal = ⟨ofDigits (first :: others), decimal.exponent⟩ := by
    rw [← digits, ofDigits_digitsOf]
  have style : DecimalStyle.json.positional = some (-5, 16) := rfl
  simp only [DecimalStyle.decimalText, style, digits]
  split
  case isTrue =>
    rw [value]
    -- The point is behind, in front of or among the digits.
    by_cases front : 0 ≤ decimal.exponent
    · exact spells_positional_front negative decimal.exponent all notZero front
    · by_cases behind : (first :: others).length + decimal.exponent ≤ 0
      · exact spells_positional_behind negative decimal.exponent all behind
      · exact spells_positional_around negative decimal.exponent all notZero
          (Int.not_le.1 behind) (Int.not_le.1 front)
  case isFalse =>
    rw [value]
    exact spells_exponential negative decimal.exponent all notZero

/-! ## The value of a written number -/

theorem value?_eq_float {numeral : Numeral} {rank : Nat} (marked : numeral.integer? = none)
    (read : numeral.decimal.rank .double = rank) (finite : rank < FloatFormat.double.infinity) :
    numeral.value? = some (.float (.ofRank numeral.negative rank finite.le)) := by
  subst read
  simp [value?, marked, Decimal.toBinary, Binary.isFinite, finite]

theorem exists_unsigned?_rankText (negative : Bool) {rank : Nat}
    (finite : rank < FloatFormat.double.infinity) :
    ∃ numeral, unsigned? negative (DecimalStyle.json.rankText .double rank) = some numeral ∧
      numeral.value? = some (.float (.ofRank negative rank finite.le)) := by
  rcases Nat.eq_zero_or_pos rank with rfl | positive
  · -- Zero has no shortest decimal: its one digit is written as it stands.
    let numeral : Numeral := ⟨negative, ['0'], some ['0'], none⟩
    have zero : numeral.decimal.rank .double = 0 := rfl
    exact ⟨numeral, rfl, value?_eq_float rfl zero finite⟩
  · rw [DecimalStyle.rankText, if_neg positive.ne']
    obtain ⟨numeral, read, rfl, marked, value⟩ :=
      spells_decimalText negative (Decimal.digits_shortest_pos .toEven positive)
    have rounds := Decimal.rank_of_sameValue_shortest (by decide) positive finite value
    exact ⟨numeral, read, value?_eq_float marked rounds finite⟩

theorem ofWord?_signed (negative : Bool) {text : List Char} {numeral : Numeral}
    (read : unsigned? negative text = some numeral) :
    ofWord? (if negative then '-' :: text else text) = some numeral := by
  cases negative with
  | true => exact read
  | false =>
    simp only [Bool.false_eq_true, if_false]
    unfold ofWord?
    split
    · next rest => simp [unsigned?, spanDigits] at read
    · exact read

/-- A finite floating-point number reads back from its text, sign of zero included. -/
theorem exists_ofWord?_float {number : Binary .double} (finite : number.isFinite = true) :
    ∃ numeral, ofWord? (DecimalStyle.json.text number).toList = some numeral ∧
      numeral.value? = some (.float number) := by
  cases number with
  | nan => cases finite
  | ofRank negative rank bounded =>
    have inside : rank < FloatFormat.double.infinity := of_decide_eq_true finite
    obtain ⟨numeral, read, value⟩ := exists_unsigned?_rankText negative inside
    refine ⟨numeral, ?_, value⟩
    simp only [DecimalStyle.text, inside.ne, if_false, String.toList_ofList]
    exact ofWord?_signed negative read

/-- An integer of 64 bits reads back from its digits. -/
theorem exists_ofWord?_int (value : Int64) :
    ∃ numeral, ofWord? (Value.intText value.toInt).toList = some numeral ∧
      numeral.value? = some (.int value) := by
  let negative := decide (value.toInt < 0)
  let digits := DecimalStyle.digitsOf value.toInt.natAbs
  have read : unsigned? negative (digits ++ []) = some ⟨negative, digits, none, none⟩ :=
    unsigned?_append negative (isWhole_digitsOf _) stopsDigits_nil rfl rfl
  rw [List.append_nil] at read
  refine ⟨⟨negative, digits, none, none⟩, ?_, ?_⟩
  · have signed := ofWord?_signed negative read
    simpa [Value.intText, negative] using signed
  · have magnitude : ofDigits digits = value.toInt.natAbs := ofDigits_digitsOf _
    have whole : integer? ⟨negative, digits, none, none⟩ = some value.toInt := by
      simp only [integer?, magnitude, negative, decide_eq_true_eq]
      split
      · rw [if_neg (by omega), Option.some.injEq]
        omega
      · rw [Option.some.injEq]
        omega
    simp only [value?, whole, value.minValue_le_toInt, value.toInt_le, and_self, if_true,
      Int64.ofInt_toInt]

/-! ## The characters of numerals -/

/-- A character that can stand in a numeral. -/
def IsNumeric (c : Char) : Prop := c.isDigit = true ∨ c ∈ ['.', 'e', 'E', '+', '-']

theorem eq_append_of_spanDigits {text digits rest : List Char}
    (split : spanDigits text = (digits, rest)) :
    text = digits ++ rest ∧ ∀ c ∈ digits, IsNumeric c := by
  rw [spanDigits, Prod.mk.injEq] at split
  obtain ⟨rfl, rfl⟩ := split
  exact ⟨List.takeWhile_append_dropWhile.symm, fun c mem => .inl (List.mem_takeWhile_imp mem)⟩

theorem isNumeric_of_signedDigits? {negative : Bool} {text : List Char} {exponent : Int}
    (read : signedDigits? negative text = some exponent) : ∀ c ∈ text, IsNumeric c := by
  unfold signedDigits? at read
  split at read
  case h_1 => cases read
  case h_2 digits split =>
    obtain ⟨rfl, numeric⟩ := eq_append_of_spanDigits split
    simpa using numeric
  case h_3 => cases read

theorem isNumeric_of_exponent? {text : List Char} {exponent : Option Int}
    (read : exponent? text = some exponent) : ∀ c ∈ text, IsNumeric c := by
  have digitsNumeric {negative : Bool} {digits : List Char}
      (value : (signedDigits? negative digits).map some = some exponent) :
      ∀ c ∈ digits, IsNumeric c := by
    obtain ⟨_, value, -⟩ := Option.map_eq_some_iff.1 value
    exact isNumeric_of_signedDigits? value
  unfold exponent? at read
  split at read
  case h_1 => simp
  case h_2 mark rest =>
    split at read
    case isFalse => cases read
    case isTrue marks =>
      have markNumeric : IsNumeric mark := by
        rcases marks with rfl | rfl
        · exact .inr (by decide)
        · exact .inr (by decide)
      have restNumeric : ∀ c ∈ rest, IsNumeric c := by
        split at read
        case h_1 => exact List.forall_mem_cons.2 ⟨.inr (by decide), digitsNumeric read⟩
        case h_2 => exact List.forall_mem_cons.2 ⟨.inr (by decide), digitsNumeric read⟩
        case h_3 => exact digitsNumeric read
      exact List.forall_mem_cons.2 ⟨markNumeric, restNumeric⟩

theorem isNumeric_of_fraction? {text rest : List Char} {fraction : Option (List Char)}
    (read : fraction? text = some (fraction, rest)) (numeric : ∀ c ∈ rest, IsNumeric c) :
    ∀ c ∈ text, IsNumeric c := by
  unfold fraction? at read
  split at read
  case h_1 =>
    split at read
    case h_1 => cases read
    case h_2 digits rest' _ split =>
      cases read
      obtain ⟨rfl, digitsNumeric⟩ := eq_append_of_spanDigits split
      have behind := List.forall_mem_append.2 ⟨digitsNumeric, numeric⟩
      exact List.forall_mem_cons.2 ⟨.inr (by decide), behind⟩
  case h_2 =>
    cases read
    exact numeric

theorem isNumeric_of_unsigned? {negative : Bool} {text : List Char} {numeral : Numeral}
    (read : unsigned? negative text = some numeral) : ∀ c ∈ text, IsNumeric c := by
  unfold unsigned? at read
  split at read
  case h_1 => cases read
  case h_2 => cases read
  case h_3 whole rest _ _ split =>
    split at read
    case h_1 => cases read
    case h_2 fraction after fractionRead =>
      obtain ⟨exponent, exponentRead, -⟩ := Option.map_eq_some_iff.1 read
      obtain ⟨rfl, wholeNumeric⟩ := eq_append_of_spanDigits split
      exact List.forall_mem_append.2
        ⟨wholeNumeric, isNumeric_of_fraction? fractionRead (isNumeric_of_exponent? exponentRead)⟩

/-- A numeral has no character that could end a word. -/
theorem isNumeric_of_ofWord? {word : List Char} {numeral : Numeral}
    (read : ofWord? word = some numeral) : ∀ c ∈ word, IsNumeric c := by
  unfold ofWord? at read
  split at read
  case h_1 =>
    exact List.forall_mem_cons.2 ⟨.inr (by decide), isNumeric_of_unsigned? read⟩
  case h_2 => exact isNumeric_of_unsigned? read

end Waymark.Json.Numeral
