import WorkflowWalk.Condition.Parser
import WorkflowWalk.Proofs.Text.Blank

/-!
# The grammar of conditions

What a condition is, said without a parser: a text is cut into a field name, blanks, the sign of an
operator, blanks and the rest. A text can be cut in several ways, for blanks behind the sign may
count as a part of the rest and a sign may grow by an equals sign. The first does not change the
condition; of two signs the longer one is the one that is read.
-/

namespace WorkflowWalk
namespace Condition

open Text

/-!
## Characters

No character is both a blank and a part of a word, and blanks have no letter case.
-/

theorem toLower_of_isAsciiBlank
    {c : Char} (blank : isAsciiBlank c = true) :
    c.toLower = c := by
  have small : ¬(c.val ≥ 'A'.val ∧ c.val ≤ 'Z'.val) := by
    simp only [isAsciiBlank, Bool.or_eq_true, beq_iff_eq, Bool.and_eq_true,
      decide_eq_true_eq] at blank
    have code : c.toNat = c.val.toNat := rfl
    simp [UInt32.le_iff_toNat_le]
    omega
  unfold Char.toLower
  rw [dif_neg small]

theorem toNat_of_isAlphanum
    {c : Char} (solid : c.isAlphanum = true) :
    0x30 ≤ c.toNat ∧ c.toNat ≤ 0x7A := by
  have within {low high : Char} (lower : low.val ≤ c.val) (upper : c.val ≤ high.val)
      (first : 0x30 ≤ low.toNat) (last : high.toNat ≤ 0x7A) : 0x30 ≤ c.toNat ∧ c.toNat ≤ 0x7A :=
    ⟨Nat.le_trans first (UInt32.le_iff_toNat_le.mp lower),
      Nat.le_trans (UInt32.le_iff_toNat_le.mp upper) last⟩
  rcases (Bool.or_eq_true ..).mp solid with letter | digit
  · rcases (Bool.or_eq_true ..).mp letter with upper | lower
    · have bounds : 'A'.val ≤ c.val ∧ c.val ≤ 'Z'.val := of_decide_eq_true upper
      exact within bounds.1 bounds.2 (by decide) (by decide)
    · have bounds := (Bool.and_eq_true ..).mp lower
      exact @within 'a' 'z' (of_decide_eq_true bounds.1) (of_decide_eq_true bounds.2) (by decide)
        (by decide)
  · have bounds := (Bool.and_eq_true ..).mp digit
    exact @within '0' '9' (of_decide_eq_true bounds.1) (of_decide_eq_true bounds.2) (by decide)
      (by decide)

theorem not_isBlank_of_isWordChar
    {c : Char} (word : isWordChar c = true) :
    isBlank c = false := by
  rcases (Bool.or_eq_true ..).mp word with solid | underscore
  · have bounds := toNat_of_isAlphanum solid
    simp only [isBlank, Bool.or_eq_false_iff, Bool.and_eq_false_iff, decide_eq_false_iff_not,
      beq_eq_false_iff_ne]
    omega
  · rw [beq_iff_eq.mp underscore]
    decide

theorem not_isWordChar_of_isAsciiBlank
    {c : Char} (blank : isAsciiBlank c = true) :
    isWordChar c = false := by
  cases word : isWordChar c with
  | false =>
      rfl
  | true =>
      have solid := not_isBlank_of_isWordChar word
      rw [isBlank_of_isAsciiBlank blank] at solid
      cases solid

/-!
## Ways to cut a text
-/

/-- Between some blanks stands a spelling of an operator. The word has to be set apart by blanks. -/
def Spells (operator : Operator) (before sign after : List Char) : Prop :=
  match operator with
  | .equals => before ≠ [] ∧ sign.map Char.toLower = equalsWord ∧ after ≠ []
  | other => sign = other.symbol.toList

structure Cut (cs field before sign after rest : List Char) : Prop where
  whole : cs = field ++ before ++ sign ++ after ++ rest
  named : field ≠ []
  word : ∀ c ∈ field, isWordChar c = true
  blankBefore : ∀ c ∈ before, isAsciiBlank c = true
  blankAfter : ∀ c ∈ after, isAsciiBlank c = true
  given : rest ≠ []
  oneLine : '\n' ∉ rest

/-- Some way to cut the text gives this condition. -/
def Says (cs : List Char) (condition : Condition) : Prop :=
  ∃ before sign after rest, Cut cs condition.field.toList before sign after rest ∧
    Spells condition.operator before sign after ∧ condition.value = String.ofList (trim rest)

theorem spells_of_ne
    {operator : Operator} {before sign after : List Char} (signed : operator ≠ .equals) :
    Spells operator before sign after ↔ sign = operator.symbol.toList := by
  cases operator with
  | equals =>
      exact absurd rfl signed
  | _ =>
      exact Iff.rfl

/-!
## How operators begin

The first character of a spelling ends the field name and the blanks behind it, and it tells the
word from the signs.
-/

theorem exists_sign
    {operator : Operator} (signed : operator ≠ .equals) :
    ∃ c more, operator.symbol.toList = c :: more ∧ isAsciiBlank c = false ∧
      isWordChar c = false ∧ c.toLower ≠ 'e' := by
  cases operator with
  | equals =>
      exact absurd rfl signed
  | _ =>
      exact ⟨_, _, rfl, by decide, by decide, by decide⟩

theorem exists_letter
    {word : List Char} (spelt : word.map Char.toLower = equalsWord) :
    ∃ c more, word = c :: more ∧ isAsciiBlank c = false ∧ c.toLower = 'e' := by
  cases word with
  | nil =>
      cases spelt
  | cons c more =>
      rw [List.map_cons, equalsWord, List.cons.injEq] at spelt
      refine ⟨c, more, rfl, ?_, spelt.1⟩
      cases blank : isAsciiBlank c with
      | false =>
          rfl
      | true =>
          have same := toLower_of_isAsciiBlank blank
          rw [spelt.1] at same
          rw [← same] at blank
          exact absurd blank (by decide)

theorem exists_first
    {operator : Operator} {before sign after : List Char}
    (spells : Spells operator before sign after) :
    ∃ c more, sign = c :: more ∧ isAsciiBlank c = false ∧ (before = [] → isWordChar c = false) ∧
      (c.toLower = 'e' ↔ operator = .equals) := by
  by_cases spelt : operator = .equals
  · subst spelt
    rcases spells with ⟨apart, letters, _⟩
    rcases exists_letter letters with ⟨c, more, rfl, solid, letter⟩
    exact ⟨c, more, rfl, solid, fun none => absurd none apart, iff_of_true letter rfl⟩
  · rw [(spells_of_ne spelt).mp spells]
    rcases exists_sign spelt with ⟨c, more, written, solid, apart, letter⟩
    exact ⟨c, more, written, solid, fun _ => apart, iff_of_false letter spelt⟩

/-!
## What two ways to cut a text share
-/

namespace Cut

variable {cs field before sign after rest : List Char} {operator : Operator}
  {field' before' sign' after' rest' : List Char} {operator' : Operator}

theorem splits_field
    (cut : Cut cs field before sign after rest) (spells : Spells operator before sign after) :
    Splits isWordChar cs field (before ++ (sign ++ (after ++ rest))) where
  whole := by
    rw [cut.whole]
    simp only [List.append_assoc]
  inside := cut.word
  stop := by
    intro c first
    rcases exists_first spells with ⟨letter, more, rfl, _, apart, _⟩
    cases before with
    | nil =>
        cases first
        exact apart rfl
    | cons blank others =>
        cases first
        exact not_isWordChar_of_isAsciiBlank (cut.blankBefore _ List.mem_cons_self)

theorem splits_before
    (cut : Cut cs field before sign after rest) (spells : Spells operator before sign after) :
    Splits isAsciiBlank (before ++ (sign ++ (after ++ rest))) before (sign ++ (after ++ rest)) where
  whole := rfl
  inside := cut.blankBefore
  stop := by
    intro c first
    rcases exists_first spells with ⟨letter, more, rfl, solid, _⟩
    cases first
    exact solid

/-- Two ways to cut a text share the field name and what begins with the sign. -/
theorem agree
    (cut : Cut cs field before sign after rest) (spells : Spells operator before sign after)
    (cut' : Cut cs field' before' sign' after' rest')
    (spells' : Spells operator' before' sign' after') :
    field = field' ∧ sign ++ (after ++ rest) = sign' ++ (after' ++ rest') := by
  have one := cut.splits_field spells
  have two := cut'.splits_field spells'
  have tails := one.dropWhile_eq.symm.trans two.dropWhile_eq
  constructor
  · exact one.takeWhile_eq.symm.trans two.takeWhile_eq
  · rw [← (cut.splits_before spells).dropWhile_eq, tails,
      (cut'.splits_before spells').dropWhile_eq]

/-- A text cannot be cut both at the word and at a sign. -/
theorem alike
    (cut : Cut cs field before sign after rest) (spells : Spells operator before sign after)
    (cut' : Cut cs field' before' sign' after' rest')
    (spells' : Spells operator' before' sign' after') :
    operator = .equals ↔ operator' = .equals := by
  have same := (cut.agree spells cut' spells').2
  rcases exists_first spells with ⟨c, _, rfl, _, _, word⟩
  rcases exists_first spells' with ⟨d, _, rfl, _, _, word'⟩
  rw [← word, ← word', (List.cons.inj same).1]

theorem trim_ne_nil
    (cut : Cut cs field before sign after rest) (trimmed : Trimmed cs) :
    trim rest ≠ [] := by
  have final : rest.getLast? = some (rest.getLast cut.given) :=
    List.getLast?_eq_some_getLast cut.given
  apply Text.trim_ne_nil (List.getLast_mem cut.given)
  apply trimmed.last
  have whole := congrArg List.getLast? cut.whole
  rw [List.getLast?_append, final] at whole
  exact whole

end Cut

/-!
## Taking an operator

The reader takes a short sign only if it cannot take a longer one: if no equals sign follows, or
nothing behind it.
-/

/-- What may follow an operator for the reader to take it. -/
def Fits (operator : Operator) (rest : List Char) : Prop :=
  match operator with
  | .above | .below => ∀ more, rest = '=' :: more → more = []
  | .atLeast | .atMost => rest ≠ []
  | .equals | .same | .differs => True

theorem takeSign?_eq_some_iff
    {cs rest : List Char} {operator : Operator} :
    takeSign? cs = some (operator, rest) ↔
      operator ≠ .equals ∧ cs = operator.symbol.toList ++ rest ∧ Fits operator rest := by
  constructor
  · intro taken
    unfold takeSign? at taken
    split at taken
    case h_9 =>
      cases taken
    all_goals
      cases taken
      refine ⟨by decide, rfl, ?_⟩
      simp_all [Fits]
  · intro sound
    rcases sound with ⟨differs, rfl, fits⟩
    cases operator with
    | equals =>
        exact absurd rfl differs
    | same | differs =>
        rfl
    | above | below =>
        cases rest with
        | nil =>
            rfl
        | cons c more =>
            by_cases same : c = '='
            · subst same
              rw [fits more rfl]
              rfl
            · simp [takeSign?, Operator.symbol, same]
    | atLeast | atMost =>
        cases rest with
        | nil =>
            exact absurd rfl fits
        | cons c more =>
            rfl

theorem afterEquals?_of_spelt
    {tail before word back : List Char}
    (start : Splits isAsciiBlank tail before (word ++ back)) (apart : before ≠ [])
    (spelt : word.map Char.toLower = equalsWord) (blank : back.head?.any isAsciiBlank = true) :
    afterEquals? tail = some (back.dropWhile isAsciiBlank) := by
  have size : equalsWord.length = word.length := by
    rw [← spelt, List.length_map]
  have shorter : (word ++ back).length < tail.length := by
    have positive := List.length_pos_iff.mpr apart
    simp only [start.whole, List.length_append]
    omega
  simp only [afterEquals?, start.dropWhile_eq, size, List.take_left, List.drop_left]
  rw [if_pos ⟨shorter, spelt, blank⟩]

theorem afterEquals?_of_sign
    {tail before back : List Char} {c : Char}
    (start : Splits isAsciiBlank tail before (c :: back)) (other : c.toLower ≠ 'e') :
    afterEquals? tail = none := by
  simp only [afterEquals?, start.dropWhile_eq]
  rw [if_neg]
  intro spelt
  exact other (List.cons.inj spelt.2.1).1

theorem exists_of_afterEquals?
    {tail rest : List Char} (taken : afterEquals? tail = some rest) :
    ∃ before word after, tail = before ++ (word ++ (after ++ rest)) ∧
      (∀ c ∈ before, isAsciiBlank c = true) ∧ (∀ c ∈ after, isAsciiBlank c = true) ∧
      Spells .equals before word after := by
  simp only [afterEquals?, Option.ite_none_right_eq_some, Option.some.injEq] at taken
  rcases taken with ⟨⟨shorter, spelt, blank⟩, rfl⟩
  have start := splits_dropWhile isAsciiBlank tail
  have behind := splits_dropWhile isAsciiBlank
    ((tail.dropWhile isAsciiBlank).drop equalsWord.length)
  refine ⟨tail.takeWhile isAsciiBlank, (tail.dropWhile isAsciiBlank).take equalsWord.length,
    ((tail.dropWhile isAsciiBlank).drop equalsWord.length).takeWhile isAsciiBlank, ?_,
    start.inside, behind.inside, ?_, spelt, ?_⟩
  · rw [List.takeWhile_append_dropWhile, List.take_append_drop, List.takeWhile_append_dropWhile]
  · intro none
    have whole := start.whole
    rw [none, List.nil_append] at whole
    rw [← whole] at shorter
    exact Nat.lt_irrefl _ shorter
  · intro none
    have whole := behind.whole
    rw [none, List.nil_append] at whole
    rw [whole] at blank
    cases first : (((tail.dropWhile isAsciiBlank).drop equalsWord.length).dropWhile
        isAsciiBlank).head? with
    | none =>
        rw [first] at blank
        cases blank
    | some c =>
        rw [first, Option.any_some, behind.stop c first] at blank
        cases blank

theorem takeOperator?_of_spells
    {tail before sign after rest : List Char} {operator : Operator}
    (start : Splits isAsciiBlank tail before (sign ++ (after ++ rest)))
    (blanks : ∀ c ∈ after, isAsciiBlank c = true)
    (spells : Spells operator before sign after) (fits : Fits operator (after ++ rest)) :
    takeOperator? tail = some (operator, rest.dropWhile isAsciiBlank) := by
  have behind : (after ++ rest).dropWhile isAsciiBlank = rest.dropWhile isAsciiBlank :=
    List.dropWhile_append_of_pos blanks
  by_cases word : operator = .equals
  · subst word
    rcases spells with ⟨apart, spelt, separate⟩
    have blank : (after ++ rest).head?.any isAsciiBlank = true := by
      cases after with
      | nil =>
          exact absurd rfl separate
      | cons c more =>
          exact blanks c List.mem_cons_self
    rw [takeOperator?, afterEquals?_of_spelt start apart spelt blank, behind]
  · have written := (spells_of_ne word).mp spells
    rcases exists_sign word with ⟨c, more, first, _, _, other⟩
    have begun := start
    rw [written, first] at begun
    have taken : takeSign? (sign ++ (after ++ rest)) = some (operator, after ++ rest) :=
      takeSign?_eq_some_iff.mpr ⟨word, by rw [written], fits⟩
    rw [takeOperator?, afterEquals?_of_sign begun other, start.dropWhile_eq]
    simp only [taken, Option.map_some, behind]

theorem exists_of_takeOperator?
    {tail rest : List Char} {operator : Operator}
    (taken : takeOperator? tail = some (operator, rest)) :
    ∃ before sign after, tail = before ++ (sign ++ (after ++ rest)) ∧
      (∀ c ∈ before, isAsciiBlank c = true) ∧ (∀ c ∈ after, isAsciiBlank c = true) ∧
      Spells operator before sign after ∧ Fits operator (after ++ rest) := by
  unfold takeOperator? at taken
  split at taken
  · rename_i found
    cases taken
    rcases exists_of_afterEquals? found with ⟨before, word, after, whole, blanks, more, spells⟩
    exact ⟨before, word, after, whole, blanks, more, spells, trivial⟩
  · rcases Option.map_eq_some_iff.mp taken with ⟨⟨found, back⟩, sign, same⟩
    cases same
    rcases takeSign?_eq_some_iff.mp sign with ⟨other, whole, fits⟩
    have start := splits_dropWhile isAsciiBlank tail
    have behind := splits_dropWhile isAsciiBlank back
    refine ⟨_, operator.symbol.toList, back.takeWhile isAsciiBlank, ?_, start.inside,
      behind.inside, (spells_of_ne other).mpr rfl, ?_⟩
    · rw [← behind.whole, ← whole]
      exact start.whole
    · rw [← behind.whole]
      exact fits

/-!
## Whole conditions

A condition is read exactly if the text can be cut so that the operator fits.
-/

theorem ofTrimmed?_eq_some_iff
    {cs : List Char} {condition : Condition} :
    ofTrimmed? cs = some condition ↔
      ∃ rest, cs.takeWhile isWordChar = condition.field.toList ∧ condition.field.toList ≠ [] ∧
        takeOperator? (cs.dropWhile isWordChar) = some (condition.operator, rest) ∧
        rest ≠ [] ∧ '\n' ∉ rest ∧ condition.value = String.ofList (trim rest) := by
  constructor
  · intro read
    unfold ofTrimmed? at read
    simp only at read
    split at read
    · rename_i first more operator rest field taken
      split at read
      · cases read
      · rename_i sound
        cases read
        simp only [Bool.or_eq_true, List.isEmpty_iff, List.contains_iff_mem, not_or] at sound
        rw [String.toList_ofList]
        refine ⟨rest, rfl, ?_, taken, sound.1, sound.2, rfl⟩
        rw [field]
        exact List.cons_ne_nil _ _
    · cases read
  · intro parts
    rcases parts with ⟨rest, field, named, taken, given, oneLine, value⟩
    have sound : ¬((rest.isEmpty || rest.contains '\n') = true) := by
      simp [given, oneLine]
    unfold ofTrimmed?
    simp only [field, taken]
    cases letters : condition.field.toList with
    | nil =>
        exact absurd letters named
    | cons first more =>
        simp only
        rw [if_neg sound, ← letters, ← value, String.ofList_toList]

theorem exists_cut_of_ofTrimmed?
    {cs : List Char} {condition : Condition} (read : ofTrimmed? cs = some condition) :
    ∃ before sign after rest, Cut cs condition.field.toList before sign after rest ∧
      Spells condition.operator before sign after ∧ Fits condition.operator (after ++ rest) ∧
      condition.value = String.ofList (trim rest) := by
  rcases ofTrimmed?_eq_some_iff.mp read with ⟨rest, field, named, taken, given, oneLine, value⟩
  rcases exists_of_takeOperator? taken with
    ⟨before, sign, after, tail, blankBefore, blankAfter, spells, fits⟩
  have word := splits_dropWhile isWordChar cs
  rw [field, tail] at word
  refine ⟨before, sign, after, rest, ?_, spells, fits, value⟩
  exact {
    whole := by
      rw [word.whole]
      simp only [List.append_assoc]
    named
    word := word.inside
    blankBefore
    blankAfter
    given
    oneLine }

-- The blanks behind the sign may have been counted as a part of the rest, so what the reader takes
-- for the rest can be shorter than the rest of the cut.
theorem ofTrimmed?_of_cut
    {cs before sign after rest : List Char} {condition : Condition} (trimmed : Trimmed cs)
    (cut : Cut cs condition.field.toList before sign after rest)
    (spells : Spells condition.operator before sign after)
    (fits : Fits condition.operator (after ++ rest))
    (value : condition.value = String.ofList (trim rest)) :
    ofTrimmed? cs = some condition := by
  have word := cut.splits_field spells
  have given : rest.dropWhile isAsciiBlank ≠ [] := by
    intro none
    have kept := trim_dropWhile_isAsciiBlank rest
    rw [none] at kept
    exact cut.trim_ne_nil trimmed kept.symm
  rw [ofTrimmed?_eq_some_iff]
  refine ⟨rest.dropWhile isAsciiBlank, word.takeWhile_eq, cut.named, ?_, given, ?_, ?_⟩
  · rw [word.dropWhile_eq]
    exact takeOperator?_of_spells (cut.splits_before spells) cut.blankAfter spells fits
  · intro member
    exact cut.oneLine ((List.dropWhile_sublist _).mem member)
  · rw [value, trim_dropWhile_isAsciiBlank]

/-!
## Longer and shorter signs
-/

theorem exists_short
    {operator : Operator} (short : operator.symbol.length = 1) :
    operator ≠ .equals ∧ (∃ c, operator.symbol.toList = [c]) ∧
      ∀ {rest}, Fits operator rest → ∀ more, rest = '=' :: more → more = [] := by
  cases operator with
  | above | below =>
      exact ⟨by decide, ⟨_, rfl⟩, fun fits => fits⟩
  | equals | same | differs | atLeast | atMost =>
      exact absurd short (by decide)

theorem exists_long
    {operator : Operator} (signed : operator ≠ .equals) (long : operator.symbol.length ≠ 1) :
    ∃ c, operator.symbol.toList = [c, '='] := by
  cases operator with
  | equals =>
      exact absurd rfl signed
  | above | below =>
      exact absurd rfl long
  | same | differs | atLeast | atMost =>
      exact ⟨_, rfl⟩

namespace Cut

variable {cs field before sign after rest : List Char} {operator : Operator}
  {field' before' sign' after' rest' : List Char} {operator' : Operator}

/-- Behind a sign that could grow to one that the text does not say, nothing follows an equals
sign. -/
theorem fits_of_longer
    (cut : Cut cs field before operator.symbol.toList after rest) {longer : Operator}
    (grown : longer.symbol.toList = operator.symbol.toList ++ ['=']) (signed : longer ≠ .equals)
    (unsaid : ∀ other, Says cs other → other.operator ≠ longer) :
    ∀ more, after ++ rest = '=' :: more → more = [] := by
  intro more follows
  by_contra given
  cases after with
  | cons blank others =>
      rw [List.cons_append, List.cons.injEq] at follows
      have solid := cut.blankAfter blank List.mem_cons_self
      rw [follows.1] at solid
      exact absurd solid (by decide)
  | nil =>
      rw [List.nil_append] at follows
      have oneLine : '\n' ∉ more := fun member =>
        cut.oneLine (follows ▸ List.mem_cons_of_mem _ member)
      refine unsaid ⟨String.ofList field, longer, String.ofList (trim more)⟩
        ⟨before, longer.symbol.toList, [], more, ?_, (spells_of_ne signed).mpr rfl, rfl⟩ rfl
      rw [String.toList_ofList]
      exact {
        whole := by
          rw [cut.whole, grown, follows]
          simp only [List.append_assoc, List.nil_append, List.cons_append]
        named := cut.named
        word := cut.word
        blankBefore := cut.blankBefore
        blankAfter := cut.blankAfter
        given
        oneLine }

theorem fits
    (cut : Cut cs field before sign after rest) (spells : Spells operator before sign after)
    (short : operator.symbol.length = 1 →
      ∀ other, Says cs other → other.operator.symbol.length = 1) :
    Fits operator (after ++ rest) := by
  have unsaid (longer : Operator) (one : operator.symbol.length = 1)
      (two : longer.symbol.length ≠ 1) :
      ∀ other, Says cs other → other.operator ≠ longer := by
    intro other said same
    exact two (same ▸ short one other said)
  cases operator with
  | equals | same | differs =>
      trivial
  | atLeast | atMost =>
      intro none
      exact cut.given (List.append_eq_nil_iff.mp none).2
  | above =>
      subst spells
      exact cut.fits_of_longer rfl (by decide) (unsaid .atLeast rfl (by decide))
  | below =>
      subst spells
      exact cut.fits_of_longer rfl (by decide) (unsaid .atMost rfl (by decide))

theorem short_of_fits
    (cut : Cut cs field before sign after rest) (spells : Spells operator before sign after)
    (fits : Fits operator (after ++ rest)) (short : operator.symbol.length = 1)
    (cut' : Cut cs field' before' sign' after' rest')
    (spells' : Spells operator' before' sign' after') :
    operator'.symbol.length = 1 := by
  by_contra long
  rcases exists_short short with ⟨signed, ⟨c, written⟩, alone⟩
  have signed' : operator' ≠ .equals := by
    rw [Ne, ← cut.alike spells cut' spells']
    exact signed
  rcases exists_long signed' long with ⟨d, written'⟩
  have same := (cut.agree spells cut' spells').2
  rw [(spells_of_ne signed).mp spells, (spells_of_ne signed').mp spells', written,
    written'] at same
  have none : after' ++ rest' = [] := alone fits _ (List.cons.inj same).2
  exact cut'.given (List.append_eq_nil_iff.mp none).2

end Cut

/-!
## Reading exactly what a text says
-/

theorem parse?_eq_some_iff
    {text : String} {condition : Condition} :
    parse? text = some condition ↔
      Says (trim text.toList) condition ∧
        (condition.operator.symbol.length = 1 →
          ∀ other, Says (trim text.toList) other → other.operator.symbol.length = 1) := by
  unfold parse?
  constructor
  · intro read
    rcases exists_cut_of_ofTrimmed? read with ⟨before, sign, after, rest, cut, spells, fits, value⟩
    refine ⟨⟨before, sign, after, rest, cut, spells, value⟩, ?_⟩
    intro short other said
    rcases said with ⟨_, _, _, _, cut', spells', _⟩
    exact cut.short_of_fits spells fits short cut' spells'
  · intro best
    rcases best with ⟨⟨before, sign, after, rest, cut, spells, value⟩, short⟩
    exact ofTrimmed?_of_cut (trimmed_trim _) cut spells (cut.fits spells short) value

theorem parse?_eq_none_iff
    {text : String} :
    parse? text = none ↔ ∀ condition, ¬Says (trim text.toList) condition := by
  constructor
  · intro unread condition said
    have no : ∀ other, Says (trim text.toList) other → other.operator.symbol.length = 1 := by
      intro other also
      by_contra long
      have read := parse?_eq_some_iff.mpr ⟨also, fun short => absurd short long⟩
      rw [unread] at read
      cases read
    have read := parse?_eq_some_iff.mpr ⟨said, fun _ => no⟩
    rw [unread] at read
    cases read
  · intro silent
    rw [Option.eq_none_iff_forall_ne_some]
    intro condition read
    exact silent condition (parse?_eq_some_iff.mp read).1

theorem eq_nil_of_short
    {text : String} {condition : Condition} (read : parse? text = some condition)
    (short : condition.operator.symbol.length = 1) {before rest : List Char}
    (blanks : ∀ c ∈ before, isAsciiBlank c = true)
    (whole : trim text.toList =
      condition.field.toList ++ before ++ condition.operator.symbol.toList ++ '=' :: rest) :
    rest = [] := by
  rcases exists_cut_of_ofTrimmed? read with ⟨before', sign, after, last, cut, spells, fits, _⟩
  rcases exists_short short with ⟨signed, _, alone⟩
  rcases exists_sign signed with ⟨c, more, written, solid, _⟩
  have tails := cut.whole
  rw [whole] at tails
  simp only [List.append_assoc] at tails
  have start : Splits isAsciiBlank (before ++ (condition.operator.symbol.toList ++ '=' :: rest))
      before (condition.operator.symbol.toList ++ '=' :: rest) := {
    whole := rfl
    inside := blanks
    stop := by
      intro d first
      rw [written] at first
      cases first
      exact solid }
  have behind := start.dropWhile_eq
  rw [List.append_cancel_left tails, (cut.splits_before spells).dropWhile_eq,
    (spells_of_ne signed).mp spells] at behind
  exact alone fits _ (List.append_cancel_left behind)

/-!
## Conditions that are read again from their texts
-/

/-- A field name: letters, digits and underscores, at least one. -/
def IsWord (name : String) : Prop :=
  name ≠ "" ∧ ∀ c ∈ name.toList, isWordChar c = true

structure IsLiteral (value : String) : Prop where
  given : value ≠ ""
  stripped : strip value = value
  oneLine : '\n' ∉ value.toList

def WellFormed (condition : Condition) : Prop :=
  IsWord condition.field ∧ IsLiteral condition.value

theorem ne_empty_iff
    {text : String} :
    text ≠ "" ↔ text.toList ≠ [] := by
  rw [Ne, ← String.toList_inj, String.toList_empty]

theorem wellFormed_of_parse?
    {text : String} {condition : Condition} (read : parse? text = some condition) :
    condition.WellFormed := by
  rcases (parse?_eq_some_iff.mp read).1 with ⟨_, _, _, rest, cut, _, value⟩
  refine ⟨⟨ne_empty_iff.mpr cut.named, cut.word⟩, ?_, ?_, ?_⟩
  · rw [value, ne_empty_iff, String.toList_ofList]
    exact cut.trim_ne_nil (trimmed_trim _)
  · rw [value, strip, String.toList_ofList, trim_of_trimmed (trimmed_trim _)]
  · rw [value, String.toList_ofList]
    exact fun member => cut.oneLine ((trim_sublist rest).mem member)

theorem IsLiteral.trimmed
    {value : String} (literal : IsLiteral value) :
    Trimmed value.toList := by
  rw [← literal.stripped, strip, String.toList_ofList]
  exact trimmed_trim _

theorem trimmed_between
    {field value : String} (word : IsWord field) (literal : IsLiteral value) (cs : List Char) :
    Trimmed (field.toList ++ cs ++ value.toList) := by
  have named := ne_empty_iff.mp word.1
  have given := ne_empty_iff.mp literal.given
  constructor
  · intro c first
    rw [List.append_assoc, List.head?_append, List.head?_eq_some_head named] at first
    cases first
    exact not_isBlank_of_isWordChar (word.2 _ (List.head_mem named))
  · intro c last
    rw [List.getLast?_append, List.getLast?_eq_some_getLast given] at last
    apply literal.trimmed.last
    rw [List.getLast?_eq_some_getLast given]
    exact last

theorem parse?_written
    {field value sign : String} {operator : Operator} (word : IsWord field)
    (literal : IsLiteral value) (spells : Spells operator [' '] sign.toList [' ']) :
    parse? (field ++ " " ++ sign ++ " " ++ value) = some ⟨field, operator, value⟩ := by
  have whole : (field ++ " " ++ sign ++ " " ++ value).toList =
      field.toList ++ [' '] ++ sign.toList ++ [' '] ++ value.toList := by
    simp only [String.toList_append]
    rfl
  have cut : Cut (field ++ " " ++ sign ++ " " ++ value).toList field.toList [' '] sign.toList [' ']
      value.toList := {
    whole
    named := ne_empty_iff.mp word.1
    word := word.2
    blankBefore := List.forall_mem_singleton.mpr rfl
    blankAfter := List.forall_mem_singleton.mpr rfl
    given := ne_empty_iff.mp literal.given
    oneLine := literal.oneLine }
  have trimmed : Trimmed (field ++ " " ++ sign ++ " " ++ value).toList := by
    have between := trimmed_between word literal ([' '] ++ sign.toList ++ [' '])
    simp only [← List.append_assoc] at between
    rw [whole]
    exact between
  have fits : Fits operator ([' '] ++ value.toList) := by
    cases operator with
    | equals | same | differs =>
        trivial
    | above | below =>
        intro more follows
        exact absurd (List.cons.inj follows).1 (by decide)
    | atLeast | atMost =>
        exact List.cons_ne_nil _ _
  unfold parse?
  rw [trim_of_trimmed trimmed]
  apply ofTrimmed?_of_cut trimmed cut spells fits
  rw [trim_of_trimmed literal.trimmed, String.ofList_toList]

theorem spells_symbol (operator : Operator) :
    Spells operator [' '] operator.symbol.toList [' '] := by
  cases operator with
  | equals =>
      exact ⟨List.cons_ne_nil _ _, rfl, List.cons_ne_nil _ _⟩
  | _ =>
      exact rfl

theorem parse?_text
    {condition : Condition} (wellFormed : condition.WellFormed) :
    parse? condition.text = some condition :=
  parse?_written wellFormed.1 wellFormed.2 (spells_symbol condition.operator)

/-!
## The grammar
-/

/-- A text is read as a condition exactly if it can be cut into one, a sign of two characters goes
before a sign of one, and conditions that are read are the ones that are read from their own
texts. -/
theorem parse?_exact (text : String) :
    (∀ condition, parse? text = some condition ↔
      Says (trim text.toList) condition ∧
        (condition.operator.symbol.length = 1 →
          ∀ other, Says (trim text.toList) other → other.operator.symbol.length = 1)) ∧
    (∀ one other, Says (trim text.toList) one → Says (trim text.toList) other →
      (one.operator = .equals ↔ other.operator = .equals)) ∧
    ((∀ condition, ¬Says (trim text.toList) condition) → parse? text = none) ∧
    (∀ condition, parse? text = some condition →
      condition.WellFormed ∧ parse? condition.text = some condition ∧
        (condition.operator.symbol.length = 1 →
          ∀ before rest, (∀ c ∈ before, isAsciiBlank c = true) →
            trim text.toList =
              condition.field.toList ++ before ++ condition.operator.symbol.toList ++ '=' :: rest →
            rest = [])) ∧
    (∀ condition : Condition, condition.WellFormed → parse? condition.text = some condition) := by
  refine ⟨fun condition => parse?_eq_some_iff, ?_, parse?_eq_none_iff.mpr, ?_,
    fun condition => parse?_text⟩
  · intro one other said also
    rcases said with ⟨_, _, _, _, cut, spells, _⟩
    rcases also with ⟨_, _, _, _, cut', spells', _⟩
    exact cut.alike spells cut' spells'
  · intro condition read
    have wellFormed := wellFormed_of_parse? read
    refine ⟨wellFormed, parse?_text wellFormed, ?_⟩
    intro short before rest blanks whole
    exact eq_nil_of_short read short blanks whole

theorem parse?_exact_riskScore :
    Says (trim " riskScore>=30 ".toList) ⟨"riskScore", .atLeast, "30"⟩ ∧
      parse? "riskScore >= 30" = some ⟨"riskScore", .atLeast, "30"⟩ := by
  rcases parse?_exact " riskScore>=30 " with ⟨said, _, _, again, _⟩
  have read : parse? " riskScore>=30 " = some ⟨"riskScore", .atLeast, "30"⟩ := by decide
  exact ⟨((said _).mp read).1, (again _ read).2.1⟩

example : parse? "riskScore >= " = some ⟨"riskScore", .above, "="⟩ := by decide

end Condition
end WorkflowWalk
