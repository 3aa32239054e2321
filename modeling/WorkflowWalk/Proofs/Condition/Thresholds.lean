import WorkflowWalk.Proofs.Condition.Laws
import WorkflowWalk.Proofs.Number.Rounding
import WorkflowWalk.Proofs.Number.Text

/-!
# Integer thresholds

An integer can be given in a context as a number or as a text, and stands in a condition as a text.
There are several texts of one integer: in decimal, and if it is not negative also with a prefix
that gives its base. However it is given, it is the same number in a comparison: the integer rounded
to a number of the format. Since rounding keeps the order, no comparison of integers comes out the
wrong way round, and those of integers that need no rounding are exact.
-/

namespace WorkflowWalk

open Text

/-!
## Texts of integers
-/

namespace Text

structure Digits (base : Nat) (cs : List Char) (n : Nat) : Prop where
  given : cs ≠ []
  read : ∃ digits, cs.mapM (digitInBase? base) = some digits ∧ ofDigits base digits = n

/-- An ASCII character that is printed and is no blank. -/
def IsVisible (c : Char) : Prop :=
  0x21 ≤ c.toNat ∧ c.toNat ≤ 0x7E

instance (c : Char) : Decidable (IsVisible c) :=
  inferInstanceAs (Decidable (_ ∧ _))

theorem isBlank_of_isVisible
    {c : Char} (visible : IsVisible c) :
    isBlank c = false := by
  unfold IsVisible at visible
  simp only [isBlank, Bool.or_eq_false_iff, Bool.and_eq_false_iff, decide_eq_false_iff_not,
    beq_eq_false_iff_ne]
  omega

theorem isVisible_of_digitInBase?
    {base digit : Nat} {c : Char} (read : digitInBase? base c = some digit) :
    IsVisible c := by
  unfold digitInBase? at read
  unfold IsVisible
  simp only [Option.filter_eq_some_iff] at read
  rcases read with ⟨value, _⟩
  split at value
  · omega
  split at value
  · omega
  split at value
  · omega
  · cases value

theorem digitInBase?_digitChar
    {base : Nat} (known : base ≤ 16) {digit : Nat} (below : digit < base) :
    digitInBase? base digit.digitChar = some digit := by
  have each : ∀ digit < 16, ∀ base ≤ 16, digit < base →
      digitInBase? base (Nat.digitChar digit) = some digit := by
    decide
  exact each digit (by omega) base known below

theorem digits_toDigits
    {base : Nat} (several : 2 ≤ base) (known : base ≤ 16) (n : Nat) :
    Digits base (Nat.toDigits base n) n := by
  rcases exists_digits_of_toDigits (digitInBase? base) several (digitInBase?_digitChar known) n with
    ⟨digits, _, read, value⟩
  exact ⟨Nat.toDigits_ne_nil, digits, read, value⟩

theorem digitInBase?_ten : digitInBase? 10 = asciiDigit? := by
  funext c
  unfold digitInBase? asciiDigit?
  simp only
  split
  · exact Option.filter_eq_some_iff.mpr ⟨rfl, decide_eq_true (by omega)⟩
  · simp only [Option.filter_eq_none_iff, decide_eq_true_eq]
    intro digit value
    split at value
    · cases value
      omega
    split at value
    · cases value
      omega
    · cases value

theorem results_of_mapM
    {α β : Type} {read? : α → Option β} {items : List α} {results : List β}
    (read : items.mapM read? = some results) :
    items.filterMap read? = results ∧ ∀ item ∈ items, ∃ result, read? item = some result := by
  induction items generalizing results with
  | nil =>
      cases read
      exact ⟨rfl, fun _ none => nomatch none⟩
  | cons first rest ih =>
      simp only [List.mapM_cons, Option.bind_eq_bind, Option.bind_eq_some_iff] at read
      rcases read with ⟨result, one, others, more, made⟩
      cases made
      rcases ih more with ⟨filtered, each⟩
      refine ⟨?_, List.forall_mem_cons.mpr ⟨⟨result, one⟩, each⟩⟩
      rw [List.filterMap_cons_some one, filtered]

theorem Digits.visible
    {base n : Nat} {cs : List Char} (digits : Digits base cs n) {c : Char} (member : c ∈ cs) :
    IsVisible c := by
  rcases digits.read with ⟨_, read, _⟩
  rcases (results_of_mapM read).2 c member with ⟨_, one⟩
  exact isVisible_of_digitInBase? one

theorem Digits.exists_taken
    {n : Nat} {cs : List Char} (digits : Digits 10 cs n) :
    ∃ taken, Numeral.takeAsciiDigits cs = (taken, []) ∧ taken ≠ [] ∧ ofDigits 10 taken = n := by
  rcases digits.read with ⟨taken, read, value⟩
  rw [digitInBase?_ten] at read
  rcases results_of_mapM read with ⟨filtered, each⟩
  have all : ∀ c ∈ cs, (asciiDigit? c).isSome = true := by
    intro c member
    rcases each c member with ⟨_, one⟩
    rw [one]
    rfl
  refine ⟨taken, ?_, ?_, value⟩
  · rw [Numeral.takeAsciiDigits, List.takeWhile_eq_self_iff.mpr all,
      List.dropWhile_eq_nil_iff.mpr all, filtered]
  · rintro rfl
    rcases List.exists_mem_of_ne_nil cs digits.given with ⟨c, member⟩
    rcases each c member with ⟨digit, one⟩
    have among : digit ∈ cs.filterMap asciiDigit? := List.mem_filterMap.mpr ⟨c, member, one⟩
    rw [filtered] at among
    cases among

end Text

/-!
## Integers in texts
-/

namespace Condition

/-- A text writes an integer: in decimal digits with or without a sign, or as a prefix and digits of
the base that it stands for. -/
inductive Writes : List Char → Int → Prop
  | plain {cs : List Char} {n : Nat} (digits : Digits 10 cs n) :
      Writes cs n
  | plus {cs : List Char} {n : Nat} (digits : Digits 10 cs n) :
      Writes ('+' :: cs) n
  | minus {cs : List Char} {n : Nat} (digits : Digits 10 cs n) :
      Writes ('-' :: cs) (-n)
  | based {letter : Char} {base : Nat} {cs : List Char} {n : Nat}
      (known : baseOf? letter = some base) (digits : Digits base cs n) :
      Writes ('0' :: letter :: cs) n

theorem writes_decimal (n : Int) :
    Writes (Numeral.decimal n).toList n := by
  have digits : Digits 10 (Nat.toDigits 10 n.natAbs) n.natAbs :=
    digits_toDigits (by decide) (by decide) n.natAbs
  rw [Numeral.toList_decimal]
  rcases Int.lt_or_le n 0 with negative | natural
  · have writes := Writes.minus digits
    rw [Int.ofNat_natAbs_of_nonpos (Int.le_of_lt negative), Int.neg_neg] at writes
    rw [if_pos negative]
    exact writes
  · have writes := Writes.plain digits
    rw [Int.natAbs_of_nonneg natural] at writes
    rw [if_neg (Int.not_lt.mpr natural)]
    exact writes

theorem le_of_baseOf?
    {letter : Char} {base : Nat} (known : baseOf? letter = some base) :
    2 ≤ base ∧ base ≤ 16 := by
  unfold baseOf? at known
  split at known <;> cases known <;> decide

def prefixed (letter : Char) (base n : Nat) : String :=
  String.ofList ('0' :: letter :: Nat.toDigits base n)

theorem writes_prefixed
    {letter : Char} {base : Nat} (known : baseOf? letter = some base) (n : Nat) :
    Writes (prefixed letter base n).toList n := by
  rcases le_of_baseOf? known with ⟨several, atMost⟩
  rw [prefixed, String.toList_ofList]
  exact .based known (digits_toDigits several atMost n)

theorem letter_of_baseOf?
    {letter : Char} {base : Nat} (known : baseOf? letter = some base) :
    letter = 'x' ∨ letter = 'X' ∨ letter = 'o' ∨ letter = 'O' ∨ letter = 'b' ∨ letter = 'B' := by
  unfold baseOf? at known
  split at known
  all_goals first | decide | cases known

theorem Writes.ne_nil
    {cs : List Char} {n : Int} (writes : Writes cs n) :
    cs ≠ [] := by
  cases writes with
  | plain digits =>
      exact digits.given
  | plus | minus | based =>
      exact List.cons_ne_nil _ _

theorem Writes.visible
    {cs : List Char} {n : Int} (writes : Writes cs n) {c : Char} (member : c ∈ cs) :
    IsVisible c := by
  cases writes with
  | plain digits =>
      exact digits.visible member
  | plus digits | minus digits =>
      rcases List.mem_cons.mp member with rfl | digit
      · decide
      · exact digits.visible digit
  | based known digits =>
      rcases List.mem_cons.mp member with rfl | behind
      · decide
      rcases List.mem_cons.mp behind with rfl | digit
      · rcases letter_of_baseOf? known with rfl | rfl | rfl | rfl | rfl | rfl <;> decide
      · exact digits.visible digit

theorem Writes.trim
    {cs : List Char} {n : Int} (writes : Writes cs n) :
    Text.trim cs = cs := by
  have solid : ∀ c ∈ cs, isBlank c = false :=
    fun _ member => isBlank_of_isVisible (writes.visible member)
  apply trim_of_trimmed
  constructor
  · intro c first
    exact solid c (List.mem_of_head? first)
  · intro c last
    exact solid c (List.mem_of_getLast? last)

theorem isLiteral_of_writes
    {text : String} {n : Int} (writes : Writes text.toList n) :
    IsLiteral text where
  given := ne_empty_iff.mpr writes.ne_nil
  stripped := by
    rw [strip, writes.trim, String.ofList_toList]
  oneLine := by
    intro member
    exact absurd (writes.visible member) (by decide)

/-!
## Integers as numbers
-/

theorem readDecimal?_of_digits
    {cs body : List Char} {negative : Bool} {n : Nat}
    (signs : Numeral.takeSign cs = (negative, body)) (digits : Digits 10 body n) :
    Numeral.readDecimal? cs = some (.ofDecimal negative n 0) := by
  rcases digits.exists_taken with ⟨taken, takes, some, value⟩
  have given : taken.isEmpty = false := List.isEmpty_eq_false_iff.mpr some
  unfold Numeral.readDecimal?
  simp only [signs, takes, given, Bool.false_and, Numeral.readExponent?, List.append_nil, value]
  rfl

theorem takeSign_of_digits
    {cs : List Char} {n : Nat} (digits : Digits 10 cs n) :
    Numeral.takeSign cs = (false, cs) := by
  have unsigned : ∀ c ∈ cs, c ≠ '-' ∧ c ≠ '+' := by
    intro c member
    rcases digits.read with ⟨_, read, _⟩
    rcases (results_of_mapM read).2 c member with ⟨digit, one⟩
    constructor
    · rintro rfl
      cases one
    · rintro rfl
      cases one
  unfold Numeral.takeSign
  split
  · exact absurd rfl (unsigned '-' List.mem_cons_self).1
  · exact absurd rfl (unsigned '+' List.mem_cons_self).2
  · rfl

theorem rank_ofDecimal (negative : Bool) (n : Nat) :
    (Binary64.ofDecimal negative n 0).rank? =
      some (Binary64.signed negative (Binary64.magnitude n)) := by
  unfold Binary64.ofDecimal
  by_cases nought : n = 0
  · rw [if_pos nought, nought, Binary64.magnitude_zero]
    rfl
  · rw [if_neg nought, if_neg (by decide), if_neg (by unfold Binary64.decimalReach; omega)]
    have one : n * Nat.pow 10 0 = n := Nat.mul_one n
    show (Binary64.ofRatio negative (n * Nat.pow 10 0) 1).rank? = _
    rw [one, Binary64.rank_ofRatio]

theorem readDecimal?_of_based
    {letter : Char} {base : Nat} (known : baseOf? letter = some base) (cs : List Char) :
    Numeral.readDecimal? ('0' :: letter :: cs) = none := by
  rcases letter_of_baseOf? known with rfl | rfl | rfl | rfl | rfl | rfl <;> rfl

theorem namedInfinity?_of_nought (cs : List Char) :
    namedInfinity? (String.ofList ('0' :: cs)) = none := by
  have differs (name : String) (first : name.toList.head? ≠ some '0') :
      String.ofList ('0' :: cs) ≠ name := by
    rintro rfl
    rw [String.toList_ofList] at first
    exact first rfl
  have plain := differs "Infinity" (by decide)
  have plus := differs "+Infinity" (by decide)
  have minus := differs "-Infinity" (by decide)
  rw [namedInfinity?, if_neg (not_or.mpr ⟨plain, plus⟩), if_neg minus]

theorem prefixed?_of_digits
    {letter : Char} {base : Nat} (known : baseOf? letter = some base) {cs : List Char} {n : Nat}
    (digits : Digits base cs n) :
    prefixed? ('0' :: letter :: cs) = some n := by
  rcases digits.read with ⟨taken, read, value⟩
  have given : cs.isEmpty = false := List.isEmpty_eq_false_iff.mpr digits.given
  simp only [prefixed?, known, given, read, Option.map_some, value]
  rfl

/-- How a text that writes an integer is read: as a decimal, or else as a number with a prefix. -/
theorem Writes.reading
    {cs : List Char} {n : Int} (writes : Writes cs n) :
    (∃ number, Numeral.readDecimal? cs = some number ∧
        number.rank? = some (Binary64.integerRank n)) ∨
      Numeral.readDecimal? cs = none ∧ namedInfinity? (String.ofList cs) = none ∧
        ∃ m : Nat, prefixed? cs = some m ∧ n = m := by
  cases writes with
  | plain digits =>
      refine Or.inl ⟨_, readDecimal?_of_digits (takeSign_of_digits digits) digits, ?_⟩
      rw [rank_ofDecimal, Binary64.integerRank_natCast, Binary64.signed_false]
  | plus digits =>
      refine Or.inl ⟨_, readDecimal?_of_digits rfl digits, ?_⟩
      rw [rank_ofDecimal, Binary64.integerRank_natCast, Binary64.signed_false]
  | minus digits =>
      refine Or.inl ⟨_, readDecimal?_of_digits rfl digits, ?_⟩
      rw [rank_ofDecimal, Binary64.integerRank_neg_natCast, Binary64.signed_true]
  | based known digits =>
      exact Or.inr ⟨readDecimal?_of_based known _, namedInfinity?_of_nought _, _,
        prefixed?_of_digits known digits, rfl⟩

theorem rank_textNumber
    {text : String} {n : Int} (writes : Writes text.toList n) :
    (textNumber text).rank? = some (Binary64.integerRank n) := by
  have given : text.toList.isEmpty = false := List.isEmpty_eq_false_iff.mpr writes.ne_nil
  rcases writes.reading with ⟨number, read, ranked⟩ | ⟨unread, unnamed, m, read, rfl⟩
  · have same : textNumber text = number := by
      simp only [textNumber, writes.trim, given, read, Bool.false_eq_true, if_false]
    rw [same, ranked]
  · have same : textNumber text = .ofInt m := by
      simp only [textNumber, writes.trim, given, unread, unnamed, read, Bool.false_eq_true,
        if_false]
    rw [same, Binary64.rank_ofInt]

/-- An integer is given by a value, as a number or as a text. -/
inductive Gives : Json → Int → Prop
  | number (n : Int) :
      Gives (.int n) n
  | text {text : String} {n : Int} (writes : Writes text.toList n) :
      Gives (.str text) n

theorem rank_asNumber
    {value : Json} {n : Int} (gives : Gives value n) :
    (asNumber value).rank? = some (Binary64.integerRank n) := by
  cases gives with
  | number =>
      exact Binary64.rank_ofInt n
  | text writes =>
      exact rank_textNumber writes

/-!
## Comparing integers
-/

theorem Gives.ne_null
    {value : Json} {n : Int} (gives : Gives value n) :
    value ≠ .null := by
  rintro rfl
  cases gives

theorem ordered_of_gives
    {field value : String} {context : Context} {actual : Json} {n k : Int} (word : IsWord field)
    (filed : context.get? field = some actual) (gives : Gives actual n)
    (writes : Writes value.toList k) :
    Ordered context field value (.ofInt n) (.ofInt k) := by
  have ordered := ordered_of_present word (isLiteral_of_writes writes)
    (present?_eq_some_iff.mpr ⟨filed, gives.ne_null⟩)
  have left : (asNumber actual).rank? = (Binary64.ofInt n).rank? := by
    rw [rank_asNumber gives, Binary64.rank_ofInt]
  have right : (asNumber (.str value)).rank? = (Binary64.ofInt k).rank? := by
    rw [rank_asNumber (.text writes), Binary64.rank_ofInt]
  constructor
  · rw [ordered.above, Binary64.lt_congr right left]
  · rw [ordered.below, Binary64.lt_congr left right]
  · rw [ordered.atLeast, Binary64.le_congr right left]
  · rw [ordered.atMost, Binary64.le_congr left right]

/-- An integer is the same number however it is given: rounded to the nearest number of the format,
to even in the middle, or infinite if it is too large. So comparing it with another one, which may
be written in several ways, has the same outcome each time. The outcome is exact as long as neither
has more than 53 bits, and the order is never reversed, however large the integers are. -/
theorem outcomes_of_integers {field : String} (word : IsWord field) (n k : Int) :
    Gives (.int n) n ∧ Gives (.str (Numeral.decimal n)) n ∧ Writes (Numeral.decimal k).toList k ∧
      (0 ≤ k → ∀ letter base, baseOf? letter = some base →
        Writes (prefixed letter base k.toNat).toList k) ∧
      (∀ value, Gives value n → Binary64.SameNumber (asNumber value) (asNumber (.int n))) ∧
      (∃ units, Binary64.IsNearest (n.natAbs * Binary64.unitsPerOne) 1 units ∧
        asNumber (.int n) =
          if units < Binary64.overflowUnits then .finite (decide (n < 0)) units
          else .infinite (decide (n < 0))) ∧
      ∃ above below atLeast atMost : Bool,
        (∀ context actual value, Context.get? context field = some actual → Gives actual n →
          Writes value.toList k →
            outcome context field ">" value = .ok above ∧
            outcome context field "<" value = .ok below ∧
            outcome context field ">=" value = .ok atLeast ∧
            outcome context field "<=" value = .ok atMost) ∧
        (n.natAbs ≤ 2 ^ 53 → k.natAbs ≤ 2 ^ 53 →
          above = decide (k < n) ∧ below = decide (n < k) ∧
            atLeast = decide (k ≤ n) ∧ atMost = decide (n ≤ k)) ∧
        (n ≤ k → atMost = true ∧ above = false) ∧
        (k ≤ n → atLeast = true ∧ below = false) := by
  refine ⟨.number n, .text (writes_decimal n), writes_decimal k, ?_, ?_, ?_, ?_⟩
  · intro natural letter base known
    have writes := writes_prefixed known k.toNat
    rwa [Int.toNat_of_nonneg natural] at writes
  · intro value gives
    exact ⟨_, rank_asNumber gives, Binary64.rank_ofInt n⟩
  · exact ⟨_, Binary64.roundUnits_isNearest _ Nat.one_pos, rfl⟩
  have left := Binary64.rank_ofInt n
  have right := Binary64.rank_ofInt k
  refine ⟨(Binary64.ofInt k).lt (.ofInt n), (Binary64.ofInt n).lt (.ofInt k),
    (Binary64.ofInt k).le (.ofInt n), (Binary64.ofInt n).le (.ofInt k), ?_, ?_, ?_, ?_⟩
  · intro context actual value filed gives writes
    have ordered := ordered_of_gives word filed gives writes
    exact ⟨ordered.above, ordered.below, ordered.atLeast, ordered.atMost⟩
  · intro few fewToo
    rw [Binary64.lt_of_ranks right left, Binary64.lt_of_ranks left right,
      Binary64.le_of_ranks right left, Binary64.le_of_ranks left right]
    simp only [Binary64.integerRank_lt_iff fewToo few, Binary64.integerRank_lt_iff few fewToo,
      Binary64.integerRank_le_iff fewToo few, Binary64.integerRank_le_iff few fewToo, and_self]
  · intro atMost
    have ranks := Binary64.integerRank_mono atMost
    rw [Binary64.le_of_ranks left right, Binary64.lt_of_ranks right left]
    exact ⟨decide_eq_true ranks, decide_eq_false (Int.not_lt.mpr ranks)⟩
  · intro atLeast
    have ranks := Binary64.integerRank_mono atLeast
    rw [Binary64.le_of_ranks right left, Binary64.lt_of_ranks left right]
    exact ⟨decide_eq_true ranks, decide_eq_false (Int.not_lt.mpr ranks)⟩

def huge (noughts : Nat) : Int :=
  (10 ^ (400 + noughts) : Nat)

theorem huge_mono
    {few more : Nat} (atMost : few ≤ more) :
    huge few ≤ huge more :=
  Int.ofNat_le.mpr (Nat.pow_le_pow_right (by decide) (Nat.add_le_add_left atMost 400))

/-- Thirty against thirty-one; two to the power 53 and one more against two to the power 53, to
which it is rounded; and two integers that are infinite. -/
theorem outcomes_of_integers_riskScore :
    IsWord "riskScore" ∧
      outcome [(.text "riskScore", .str "30")] "riskScore" "<" "0x1F" = .ok true ∧
      outcome [(.text "riskScore", .int 9007199254740993)] "riskScore" "<" "9007199254740992" =
        .ok false ∧
      outcome [(.text "riskScore", .int (huge 1))] "riskScore" ">=" (Numeral.decimal (huge 0)) =
        .ok true := by
  have word : IsWord "riskScore" := ⟨by decide, List.all_eq_true.mp (by decide)⟩
  have hexadecimal : baseOf? 'x' = some 16 := rfl
  have thirty : Gives (.str "30") 30 := .text (writes_decimal 30)
  have next : Writes "0x1F".toList 31 :=
    .based hexadecimal ⟨List.cons_ne_nil _ _, [1, 15], by decide, rfl⟩
  have below : outcome [(.text "riskScore", .str "30")] "riskScore" "<" "0x1F" = .ok true := by
    rcases outcomes_of_integers word 30 31 with
      ⟨_, _, _, _, _, _, _, _, _, _, outcomes, exactly, _, _⟩
    rw [(outcomes _ _ _ rfl thirty next).2.1, (exactly (by decide) (by decide)).2.1]
    rfl
  have kept {n k : Int} (atLeast : k ≤ n) :
      outcome [(.text "riskScore", .int n)] "riskScore" "<" (Numeral.decimal k) = .ok false ∧
        outcome [(.text "riskScore", .int n)] "riskScore" ">=" (Numeral.decimal k) = .ok true := by
    rcases outcomes_of_integers word n k with
      ⟨gives, _, writes, _, _, _, _, _, _, _, outcomes, _, _, order⟩
    have found := outcomes [(.text "riskScore", .int n)] _ _ rfl gives writes
    rw [(order atLeast).1, (order atLeast).2] at found
    exact ⟨found.2.1, found.2.2.1⟩
  have rounded : outcome [(.text "riskScore", .int 9007199254740993)] "riskScore" "<"
      "9007199254740992" = .ok false :=
    (kept (k := 9007199254740992) (by decide)).1
  have infinite := (kept (huge_mono (Nat.zero_le 1))).2
  exact ⟨word, below, rounded, infinite⟩

end Condition
end WorkflowWalk
