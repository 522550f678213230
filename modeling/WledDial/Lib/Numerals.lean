/-
Texts that are written for the reader of Deserialize.lean.

`numeral n` is how an integer is printed; the reader takes it for `n`,
whatever follows it that is no part of a number (`parseVariant_numeral`).
An object with one member is read as that member, if its value is read as
a value (`deserializeJson_member`).
-/
import Mathlib.Data.List.TakeWhile
import WledDial.Lib.Deserialize

namespace Deserialize

-- ============================================================== numerals

/-- The text of an integer. -/
def numeral (n : Int) : Bytes := ascii (toString n)

theorem ascii_append (s t : String) : ascii (s ++ t) = ascii s ++ ascii t := by
  unfold ascii
  rw [String.toList_append, List.map_append]

/-- The text of a natural number, digit by digit. -/
def digits (n : Nat) : Bytes := (Nat.toDigits 10 n).map chr

theorem ascii_repr (n : Nat) : ascii n.repr = digits n := by
  unfold ascii digits
  rw [Nat.toList_repr]
  rfl

/-- A numeral is its digits, behind a sign if it needs one. -/
theorem numeral_eq (n : Int) :
    numeral n = if 0 ≤ n then digits n.toNat
      else chr '-' :: digits (-n).toNat := by
  unfold numeral
  rw [Int.toString_eq_repr, Int.repr_eq_if]
  split
  · exact ascii_repr _
  · rw [ascii_append, ascii_repr]
    rfl

/-- The code of a decimal digit. -/
theorem toNat_chr {c : Char} (h : c.isDigit = true) :
    (chr c).toNat = c.toNat ∧ 48 ≤ c.toNat ∧ c.toNat ≤ 57 := by
  have hrange : 48 ≤ c.toNat ∧ c.toNat ≤ 57 := by
    unfold Char.isDigit at h
    simp only [Bool.and_eq_true, decide_eq_true_eq] at h
    exact h
  refine ⟨?_, hrange⟩
  unfold chr
  rw [Nat.toUInt8, UInt8.toNat_ofNat']
  omega

theorem isDigit_digits {n : Nat} : ∀ b ∈ digits n, isDigit b = true := by
  intro b hb
  obtain ⟨c, hc, rfl⟩ := List.mem_map.mp hb
  have hdigit := Nat.isDigit_of_mem_toDigits (by decide) (by decide) hc
  obtain ⟨hcode, hlow, hhigh⟩ := toNat_chr hdigit
  unfold isDigit
  simp only [Bool.and_eq_true, decide_eq_true_eq, UInt8.le_iff_toNat_le, hcode]
  exact ⟨hlow, hhigh⟩

theorem digits_ne (n : Nat) : digits n ≠ [] := by
  unfold digits
  rw [ne_eq, List.map_eq_nil_iff]
  exact Nat.toDigits_ne_nil

/-- Digits are worth what the characters they come from are. -/
theorem digitsValue_map {cs : List Char} (h : ∀ c ∈ cs, c.isDigit = true) :
    digitsValue (cs.map chr) = Nat.ofDigitChars 10 cs 0 := by
  have hfold : ∀ n, (cs.map chr).foldl
      (fun n d => 10 * n + (d - chr '0').toNat) n
        = Nat.ofDigitChars 10 cs n := by
    induction cs with
    | nil => exact fun n => rfl
    | cons c cs ih =>
        intro n
        obtain ⟨hcode, hlow, hhigh⟩ := toNat_chr (h c (List.mem_cons_self ..))
        have hvalue : (chr c - chr '0').toNat = c.toNat - '0'.toNat := by
          have hzero : (chr '0').toNat = '0'.toNat := by decide
          have hle : chr '0' ≤ chr c := by
            rw [UInt8.le_iff_toNat_le, hcode, hzero]
            exact hlow
          rw [UInt8.toNat_sub_of_le _ _ hle, hcode, hzero]
        rw [List.map_cons, List.foldl_cons, hvalue,
          ih (fun x hx => h x (List.mem_cons_of_mem _ hx)),
          Nat.ofDigitChars_cons]
  exact hfold 0

theorem digitsValue_digits (n : Nat) : digitsValue (digits n) = n := by
  unfold digits
  rw [digitsValue_map fun c hc =>
    Nat.isDigit_of_mem_toDigits (by decide) (by decide) hc]
  exact Nat.ofDigitChars_ten_toDigits

/-- The first byte of some digits. -/
theorem isDigit_current (n : Nat) : isDigit (current (digits n)) = true := by
  cases hds : digits n with
  | nil => exact absurd hds (digits_ne n)
  | cons d ds =>
      exact isDigit_digits d (by rw [hds]; exact List.mem_cons_self ..)

theorem canBeInNumber_digit {b : UInt8} (h : isDigit b = true) :
    canBeInNumber b = true := by
  unfold canBeInNumber
  rw [h]
  rfl

/-- A byte of a kind is none that is not of it. -/
theorem beq_of_kind {kind : UInt8 → Bool} {b other : UInt8} (hb : kind b = true)
    (hother : kind other = false) : (b == other) = false := by
  refine beq_eq_false_iff_ne.mpr fun heq => ?_
  rw [heq, hother] at hb
  cases hb

/-- No digit is a sign. -/
theorem takeSign_digits (n : Nat) : takeSign (digits n) = (1, digits n) := by
  have hdigit := isDigit_current n
  unfold takeSign
  rw [beq_of_kind hdigit (by decide), beq_of_kind hdigit (by decide)]
  rfl

/-- What is read behind the sign. -/
theorem digits_taken (n : Nat) :
    (digits n).takeWhile isDigit = digits n
      ∧ (digits n).dropWhile isDigit = [] :=
  ⟨List.takeWhile_eq_self_iff.mpr isDigit_digits,
    List.dropWhile_eq_nil_iff.mpr isDigit_digits⟩

theorem parseNumber_numeral (n : Int) :
    parseNumber (numeral n) = some (n, 0) := by
  have hsigned : ∀ (sign : Int) (m : Nat) (s : Bytes),
      takeSign s = (sign, digits m) →
      parseNumber s = some (sign * m, 0) := by
    intro sign m s hs
    have hempty : (current ([] : Bytes) == chr '.') = false := by decide
    unfold parseNumber
    rw [hs]
    simp only [isDigit_current, Bool.true_or, if_true, (digits_taken m).1,
      (digits_taken m).2, hempty, Bool.false_eq_true, if_false,
      List.append_nil, digitsValue_digits]
    rfl
  rw [numeral_eq]
  split
  · next hpos =>
    rw [hsigned 1 n.toNat _ (takeSign_digits _), Int.one_mul,
      Int.toNat_of_nonneg hpos]
  · next hneg =>
    have hminus : takeSign (chr '-' :: digits (-n).toNat)
        = (-1, digits (-n).toNat) := rfl
    rw [hsigned (-1) _ _ hminus, Int.toNat_of_nonneg (by omega),
      Int.neg_mul_neg, Int.one_mul]

/-- Every byte of a numeral belongs to a number. -/
theorem canBeInNumber_numeral (n : Int) :
    ∀ b ∈ numeral n, canBeInNumber b = true := by
  intro b hb
  rw [numeral_eq] at hb
  split at hb
  · exact canBeInNumber_digit (isDigit_digits b hb)
  · rcases List.mem_cons.mp hb with rfl | hb
    · decide
    · exact canBeInNumber_digit (isDigit_digits b hb)

theorem numeral_ne (n : Int) : numeral n ≠ [] := by
  rw [numeral_eq]
  split
  · exact digits_ne _
  · exact List.cons_ne_nil _ _

/-- The reader takes a numeral for a number, and all of it. -/
theorem parseVariant_numeral (fuel nesting : Nat) (n : Int) {rest : Bytes}
    (hrest : canBeInNumber (current rest) = false) :
    parseVariant (fuel + 1) nesting (numeral n ++ rest)
      = ⟨.ok, .int n, rest⟩ := by
  have htake : (numeral n ++ rest).takeWhile canBeInNumber = numeral n
      ∧ (numeral n ++ rest).dropWhile canBeInNumber = rest := by
    have hstop : rest.takeWhile canBeInNumber = []
        ∧ rest.dropWhile canBeInNumber = rest := by
      cases rest with
      | nil => exact ⟨rfl, rfl⟩
      | cons b rest =>
          have hb : ¬ canBeInNumber b = true := Bool.eq_false_iff.mp hrest
          exact ⟨List.takeWhile_cons_of_neg hb, List.dropWhile_cons_of_neg hb⟩
    rw [List.takeWhile_append_of_pos (canBeInNumber_numeral n),
      List.dropWhile_append_of_pos (canBeInNumber_numeral n), hstop.1, hstop.2,
      List.append_nil]
    exact ⟨rfl, rfl⟩
  cases htext : numeral n with
  | nil => exact absurd htext (numeral_ne n)
  | cons b text =>
      have hb := canBeInNumber_numeral n b
        (by rw [htext]; exact List.mem_cons_self ..)
      -- so it starts nothing else
      have hno : ∀ {other : UInt8}, canBeInNumber other = false →
          (b == other) = false := beq_of_kind hb
      have hspace : isSpace b = false := by
        unfold isSpace
        rw [hno (by decide), hno (by decide), hno (by decide), hno (by decide)]
        rfl
      have hskip : skipSpaces (b :: text ++ rest) = b :: text ++ rest :=
        List.dropWhile_cons_of_neg (by rw [hspace]; decide)
      have hcurrent : current (b :: text ++ rest) = b := rfl
      have hnumber : parseNumericValue (b :: text ++ rest)
          = ⟨.ok, .int n, rest⟩ := by
        unfold parseNumericValue
        rw [← htext, htake.1, htake.2, parseNumber_numeral]
      unfold parseVariant
      simp only [hskip, hcurrent]
      rw [hno (by decide), hno (by decide), hno (by decide), hno (by decide),
        hno (by decide), hno (by decide), hno (by decide), hno (by decide)]
      exact hnumber

-- =============================================================== members

/-- The text of an object with one member. -/
def memberText (key text : Bytes) : Bytes :=
  openBrace :: doubleQuote :: (key ++ doubleQuote :: chr ':' :: text
    ++ [closeBrace])

/-- A name that can stand between quotes as it is. -/
def IsPlain (key : Bytes) : Prop :=
  ∀ b ∈ key, b ≠ doubleQuote ∧ b ≠ 0 ∧ b ≠ backslash

instance (key : Bytes) : Decidable (IsPlain key) :=
  List.decidableBAll (fun b => b ≠ doubleQuote ∧ b ≠ 0 ∧ b ≠ backslash) key

theorem parseQuotedString_plain {key : Bytes} (hkey : IsPlain key)
    (acc rest : Bytes) :
    parseQuotedString doubleQuote acc (key ++ doubleQuote :: rest)
      = (.ok, acc ++ key, rest) := by
  induction key generalizing acc with
  | nil =>
      rw [List.nil_append, List.append_nil]
      unfold parseQuotedString
      rw [if_pos (by decide)]
  | cons b key ih =>
      obtain ⟨hquote, hzero, hslash⟩ := hkey b (List.mem_cons_self ..)
      rw [List.cons_append]
      unfold parseQuotedString
      rw [if_neg (by simpa using hquote), if_neg (by simpa using hzero),
        if_neg (by simpa using hslash),
        ih fun x hx => hkey x (List.mem_cons_of_mem _ hx), List.append_assoc,
        List.singleton_append]

/-- A member, and the end of the object. -/
theorem parseMembers_member {fuel nesting : Nat} {key text : Bytes} {v : Json}
    (hkey : IsPlain key) (hvalue : parseVariant fuel nesting
      (text ++ [closeBrace]) = ⟨.ok, v, [closeBrace]⟩) :
    parseMembers (fuel + 1) nesting [] (doubleQuote ::
        (key ++ doubleQuote :: chr ':' :: text ++ [closeBrace]))
      = ⟨.ok, .obj [(key, v)], []⟩ := by
  have hparse : parseKey (doubleQuote ::
      (key ++ doubleQuote :: chr ':' :: text ++ [closeBrace]))
        = (.ok, key, chr ':' :: (text ++ [closeBrace])) := by
    have hquoted := parseQuotedString_plain hkey [] (chr ':' :: (text
      ++ [closeBrace]))
    unfold parseKey
    rw [if_pos (by rfl)]
    show parseQuotedString doubleQuote [] (key ++ _ ++ _) = _
    rw [List.append_assoc]
    exact hquoted
  have hcolon : skipSpaces (chr ':' :: (text ++ [closeBrace]))
      = chr ':' :: (text ++ [closeBrace]) := rfl
  unfold parseMembers
  simp only [hparse, hcolon, List.tail_cons, hvalue]
  rfl

/-- An object with one member is read as that member. -/
theorem deserializeJson_member {key text : Bytes} {v : Json}
    (hkey : IsPlain key) (hvalue : ∀ fuel nesting,
      parseVariant (fuel + 1) nesting (text ++ [closeBrace])
        = ⟨.ok, v, [closeBrace]⟩) :
    deserializeJson (memberText key text) = (.ok, .obj [(key, v)]) := by
  obtain ⟨fuel, hfuel⟩ : ∃ fuel, 2 * (memberText key text).length + 2
      = fuel + 3 := by
    refine ⟨2 * (memberText key text).length - 1, ?_⟩
    unfold memberText
    rw [List.length_cons]
    omega
  have hobject : parseVariant (fuel + 3) defaultNestingLimit
      (memberText key text) = ⟨.ok, .obj [(key, v)], []⟩ := by
    unfold parseVariant
    exact parseMembers_member hkey (hvalue fuel 9)
  unfold deserializeJson
  rw [hfuel, hobject]
  rfl

end Deserialize
