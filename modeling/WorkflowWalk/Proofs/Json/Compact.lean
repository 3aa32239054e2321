import Mathlib.Data.List.Forall2
import WorkflowWalk.Proofs.Number.Text
import WorkflowWalk.Proofs.Text.Blank

/-!
# Reading compact texts

A compact text determines what it is the text of. Wherever a value ends, the text ends or a comma or
a closing bracket follows; a value that is not a string, a list or an object has no such character
in its text, and the others end where their own brackets or quotes are closed. So of two texts that
begin with values and go on with delimiters, if they are equal, the values have equal texts, and
those have equal parts.
-/

namespace WorkflowWalk

open Text

/-!
## Induction over the members of a value
-/

/-- What holds of a list if it holds of the items and of an object if it holds of the values of its
fields, holds of all values. -/
@[elab_as_elim]
theorem Json.membersInduction
    {P : Json → Prop} (null : P .null) (bool : ∀ value, P (.bool value))
    (int : ∀ value, P (.int value)) (float : ∀ value, P (.float value))
    (str : ∀ value, P (.str value)) (arr : ∀ items, (∀ item ∈ items, P item) → P (.arr items))
    (obj : ∀ fields, (∀ field ∈ fields, P field.2) → P (.obj fields)) (value : Json) :
    P value := by
  refine @Json.rec P (fun items => ∀ item ∈ items, P item)
    (fun fields => ∀ field ∈ fields, P field.2) (fun field => P field.2) null bool int float str
    arr obj ?_ ?_ ?_ ?_ ?_ value
  · intro item member
    cases member
  · intro item rest here later
    exact List.forall_mem_cons.mpr ⟨here, later⟩
  · intro field member
    cases member
  · intro field rest here later
    exact List.forall_mem_cons.mpr ⟨here, later⟩
  · intro key value here
    exact here

namespace Json

/-!
## Strings

No escape begins another one, so characters are read off one by one up to the closing quote.
-/

namespace Quoted

def escaped : List Char :=
  '"' :: '\\' :: (List.range 32).map Char.ofNat

theorem mem_escaped
    {c : Char} (special : isPlain c = false) :
    c ∈ escaped := by
  unfold isPlain at special
  simp only [Bool.and_eq_false_iff, decide_eq_false_iff_not, bne_eq_false_iff_eq] at special
  rcases special with (control | rfl) | rfl
  · refine List.mem_cons_of_mem _ (List.mem_cons_of_mem _ (List.mem_map.mpr ⟨c.toNat, ?_, ?_⟩))
    · rw [List.mem_range]
      omega
    · exact Char.ofNat_toNat c
  · exact List.mem_cons_self
  · exact List.mem_cons_of_mem _ List.mem_cons_self

theorem eq_of_escape_begins
    {c d : Char} (first : c ∈ escaped) (second : d ∈ escaped) (starts : escape c <+: escape d) :
    c = d := by
  have each : (escaped.all fun c => escaped.all fun d => decide (escape c <+: escape d → c = d)) =
      true := by
    decide +kernel
  have here := List.all_eq_true.mp (List.all_eq_true.mp each c first) d second
  exact of_decide_eq_true here starts

theorem exists_escape (c : Char) :
    ∃ code, escape c = '\\' :: code := by
  unfold escape unit
  split_ifs <;> exact ⟨_, rfl⟩

theorem char_of_plain
    {c : Char} (plain : isPlain c = true) :
    char c = [c] := by
  rw [char, if_pos plain]

theorem char_of_special
    {c : Char} (special : isPlain c = false) :
    char c = escape c := by
  rw [char, special, if_neg Bool.false_ne_true]

theorem isPlain_backslash : isPlain '\\' = false := by
  decide

theorem char_append_inj
    {c d : Char} {rest more : List Char} (same : char c ++ rest = char d ++ more) :
    c = d ∧ rest = more := by
  cases plain : isPlain c with
  | true =>
      rw [char_of_plain plain] at same
      cases other : isPlain d with
      | true =>
          rw [char_of_plain other] at same
          exact List.cons.inj same
      | false =>
          rcases exists_escape d with ⟨code, written⟩
          rw [char_of_special other, written] at same
          rw [(List.cons.inj same).1, isPlain_backslash] at plain
          cases plain
  | false =>
      rw [char_of_special plain] at same
      cases other : isPlain d with
      | true =>
          rcases exists_escape c with ⟨code, written⟩
          rw [char_of_plain other, written] at same
          rw [← (List.cons.inj same).1, isPlain_backslash] at other
          cases other
      | false =>
          rw [char_of_special other] at same
          have equal : c = d := by
            have one : escape c <+: escape c ++ rest := List.prefix_append _ _
            have two : escape d <+: escape c ++ rest := same ▸ List.prefix_append _ _
            rcases List.prefix_or_prefix_of_prefix one two with shorter | longer
            · exact eq_of_escape_begins (mem_escaped plain) (mem_escaped other) shorter
            · exact (eq_of_escape_begins (mem_escaped other) (mem_escaped plain) longer).symm
          subst equal
          exact ⟨rfl, List.append_cancel_left same⟩

theorem exists_char (c : Char) :
    ∃ first code, char c = first :: code ∧ first ≠ '"' := by
  cases plain : isPlain c with
  | true =>
      refine ⟨c, [], char_of_plain plain, ?_⟩
      intro quote
      rw [quote] at plain
      exact absurd plain (by decide)
  | false =>
      rcases exists_escape c with ⟨code, written⟩
      exact ⟨'\\', code, (char_of_special plain).trans written, by decide⟩

theorem flatMap_char_append_inj
    {cs ds rest more : List Char}
    (same : cs.flatMap char ++ '"' :: rest = ds.flatMap char ++ '"' :: more) :
    cs = ds ∧ rest = more := by
  induction cs generalizing ds with
  | nil =>
      cases ds with
      | nil =>
          exact ⟨rfl, (List.cons.inj same).2⟩
      | cons d others =>
          rcases exists_char d with ⟨first, code, written, differs⟩
          rw [List.flatMap_cons, written] at same
          exact absurd (List.cons.inj same).1.symm differs
  | cons c cs ih =>
      cases ds with
      | nil =>
          rcases exists_char c with ⟨first, code, written, differs⟩
          rw [List.flatMap_cons, written] at same
          exact absurd (List.cons.inj same).1 differs
      | cons d others =>
          rw [List.flatMap_cons, List.flatMap_cons, List.append_assoc, List.append_assoc] at same
          rcases char_append_inj same with ⟨rfl, tails⟩
          rcases ih tails with ⟨rfl, behind⟩
          exact ⟨rfl, behind⟩

theorem quote_append_inj
    {one other : String} {rest more : List Char}
    (same : quote one ++ rest = quote other ++ more) :
    one = other ∧ rest = more := by
  simp only [quote, List.cons_append, List.append_assoc, List.nil_append, List.cons.injEq,
    true_and] at same
  rcases flatMap_char_append_inj same with ⟨letters, behind⟩
  exact ⟨String.toList_inj.mp letters, behind⟩

end Quoted

/-!
## Constants and numbers
-/

def isStop (c : Char) : Bool :=
  c == ',' || c == ']' || c == '\x7d'

def Stops (cs : List Char) : Prop :=
  ∀ c, cs.head? = some c → isStop c = true

/-- What the first character of the text of a value tells of it. All numbers look alike. -/
inductive Shape
  | null
  | bool (value : Bool)
  | number
  | text
  | list
  | object

def shape : Json → Shape
  | .null => .null
  | .bool value => .bool value
  | .int _ | .float _ => .number
  | .str _ => .text
  | .arr _ => .list
  | .obj _ => .object

def Shape.isToken : Shape → Bool
  | .null | .bool _ | .number => true
  | _ => false

def opensNumber (c : Char) : Bool :=
  c.isDigit || c == '-' || c == 'N' || c == 'I'

def shapeOf? (c : Char) : Option Shape :=
  if opensNumber c then some .number
  else
    match c with
    | 'n' => some .null
    | 't' => some (.bool true)
    | 'f' => some (.bool false)
    | '"' => some .text
    | '[' => some .list
    | '\x7b' => some .object
    | _ => none

theorem not_isStop_of_isNumeric
    {c : Char} (numeric : Binary64.IsNumeric c) :
    isStop c = false := by
  unfold isStop
  simp only [Bool.or_eq_false_iff, beq_eq_false_iff_ne]
  refine ⟨⟨?_, ?_⟩, ?_⟩
  all_goals
    rintro rfl
    revert numeric
    unfold Binary64.IsNumeric
    decide

theorem not_isStop_of_clear
    {cs : List Char} (clear : cs.any isStop = false) :
    ∀ c ∈ cs, isStop c = false := by
  intro c member
  rw [← Bool.not_eq_true]
  exact List.any_eq_false.mp clear c member

theorem exists_text_float (number : Binary64) :
    (∃ c more, (number.text numberNames).toList = c :: more ∧ opensNumber c = true) ∧
      (∀ c ∈ (number.text numberNames).toList, isStop c = false) ∧
      ∃ c ∈ (number.text numberNames).toList, c ≠ '-' ∧ c.isDigit = false := by
  cases number with
  | nan =>
      exact ⟨⟨'N', ['a', 'N'], rfl, by decide⟩, not_isStop_of_clear rfl, 'N', by decide, by decide⟩
  | infinite negative =>
      cases negative with
      | false =>
          exact ⟨⟨'I', "nfinity".toList, rfl, by decide⟩, not_isStop_of_clear rfl, 'I', by decide,
            by decide⟩
      | true =>
          exact ⟨⟨'-', "Infinity".toList, rfl, by decide⟩, not_isStop_of_clear rfl, 'I', by decide,
            by decide⟩
  | finite negative units =>
      rcases Binary64.exists_written numberNames negative units with ⟨body, written, layout⟩
      rcases layout.first with ⟨first, more, begun, digit⟩
      rw [written]
      refine ⟨?_, ?_, ?_⟩
      · cases negative with
        | false =>
            exact ⟨first, more, begun, by simp [opensNumber, digit]⟩
        | true =>
            exact ⟨'-', body, rfl, by decide⟩
      · intro c member
        rcases List.mem_append.mp member with sign | inside
        · split at sign
          · rw [List.mem_singleton.mp sign]
            decide
          · cases sign
        · exact not_isStop_of_isNumeric (layout.numeric c inside)
      · rcases layout.marked with point | mark
        · exact ⟨'.', List.mem_append_right _ point, by decide⟩
        · exact ⟨'e', List.mem_append_right _ mark, by decide⟩

/-!
## Layout
-/

def fieldText (field : String × Json) : List Char :=
  Quoted.quote field.1 ++ ':' :: compactChars field.2

theorem compactItems_eq (items : List Json) :
    compactItems items = List.intercalate [','] (items.map compactChars) := by
  induction items with
  | nil =>
      rfl
  | cons item rest ih =>
      cases rest with
      | nil =>
          simp [compactItems]
      | cons next others =>
          rw [compactItems, ih, List.map_cons, List.map_cons, List.map_cons,
            List.intercalate_cons_cons, List.append_assoc, List.singleton_append]

theorem compactFields_eq (fields : Fields) :
    compactFields fields = List.intercalate [','] (fields.map fieldText) := by
  induction fields with
  | nil =>
      rfl
  | cons field rest ih =>
      cases rest with
      | nil =>
          simp [compactFields, fieldText]
      | cons next others =>
          rw [compactFields, ih]
          simp only [List.map_cons, List.intercalate_cons_cons, fieldText, List.append_assoc,
            List.cons_append, List.nil_append]

theorem compactChars_arr (items : List Json) :
    compactChars (.arr items) =
      '[' :: (List.intercalate [','] (items.map compactChars) ++ [']']) := by
  rw [compactChars, compactItems_eq]
  rfl

theorem compactChars_obj (fields : Fields) :
    compactChars (.obj fields) =
      '\x7b' :: (List.intercalate [','] (fields.map fieldText) ++ ['\x7d']) := by
  rw [compactChars, compactFields_eq]
  rfl

/-!
## How values begin
-/

theorem shapeOf?_of_opensNumber
    {c : Char} (opens : opensNumber c = true) :
    shapeOf? c = some .number :=
  if_pos opens

theorem exists_opening (value : Json) :
    ∃ c more, compactChars value = c :: more ∧ shapeOf? c = some (shape value) := by
  cases value with
  | null =>
      exact ⟨'n', "ull".toList, rfl, rfl⟩
  | bool value =>
      cases value with
      | true =>
          exact ⟨'t', "rue".toList, rfl, rfl⟩
      | false =>
          exact ⟨'f', "alse".toList, rfl, rfl⟩
  | int value =>
      show ∃ c more, (Numeral.decimal value).toList = c :: more ∧ shapeOf? c = some .number
      rw [Numeral.toList_decimal]
      split
      · exact ⟨'-', _, rfl, rfl⟩
      · rcases exists_toDigits value.natAbs with ⟨first, more, written, digit⟩
        exact ⟨first, more, written, shapeOf?_of_opensNumber (by simp [opensNumber, digit])⟩
  | float value =>
      rcases (exists_text_float value).1 with ⟨c, more, written, first⟩
      exact ⟨c, more, written, shapeOf?_of_opensNumber first⟩
  | str text =>
      exact ⟨'"', _, rfl, rfl⟩
  | arr items =>
      exact ⟨'[', _, compactChars_arr items, rfl⟩
  | obj fields =>
      exact ⟨'\x7b', _, compactChars_obj fields, rfl⟩

theorem not_isStop_of_shapeOf?
    {c : Char} {begun : Shape} (opens : shapeOf? c = some begun) :
    isStop c = false := by
  rw [← Bool.not_eq_true]
  intro stop
  unfold isStop at stop
  simp only [Bool.or_eq_true, beq_iff_eq] at stop
  rcases stop with (rfl | rfl) | rfl
  all_goals
    cases opens

theorem shape_eq_of_append
    {value other : Json} {rest more : List Char}
    (same : compactChars value ++ rest = compactChars other ++ more) :
    shape value = shape other := by
  rcases exists_opening value with ⟨c, _, written, opens⟩
  rcases exists_opening other with ⟨d, _, written', opens'⟩
  rw [written, written'] at same
  rw [(List.cons.inj same).1, opens'] at opens
  exact (Option.some.inj opens).symm

theorem not_isStop_of_mem_token
    {value : Json} (token : (shape value).isToken = true) {c : Char}
    (member : c ∈ compactChars value) :
    isStop c = false := by
  cases value with
  | null =>
      exact @not_isStop_of_clear "null".toList rfl c member
  | bool value =>
      cases value with
      | true =>
          exact @not_isStop_of_clear "true".toList rfl c member
      | false =>
          exact @not_isStop_of_clear "false".toList rfl c member
  | int value =>
      rcases Numeral.mem_decimal member with rfl | digit
      · decide
      · exact not_isStop_of_isNumeric (Or.inl digit)
  | float value =>
      exact (exists_text_float value).2.1 c member
  | str _ | arr _ | obj _ =>
      cases token

/-!
## Parts of values
-/

/-- Two values of one kind have equal texts, and so have their members one by one. -/
inductive Parts : Json → Json → Prop
  | null : Parts .null .null
  | bool (value : Bool) : Parts (.bool value) (.bool value)
  | int (value : Int) : Parts (.int value) (.int value)
  | float {one other : Binary64} (same : one.text numberNames = other.text numberNames) :
      Parts (.float one) (.float other)
  | str (value : String) : Parts (.str value) (.str value)
  | arr {items others : List Json}
      (same : List.Forall₂ (fun one other => compactChars one = compactChars other) items others) :
      Parts (.arr items) (.arr others)
  | obj {fields others : Fields}
      (same : List.Forall₂
        (fun (one other : String × Json) =>
          one.1 = other.1 ∧ compactChars one.2 = compactChars other.2) fields others) :
      Parts (.obj fields) (.obj others)

theorem map_eq_of_forall₂
    {α β : Type} {f : α → β} {values others : List α}
    (same : List.Forall₂ (fun one other => f one = f other) values others) :
    values.map f = others.map f := by
  rw [← List.forall₂_eq_eq_eq, List.forall₂_map_left_iff, List.forall₂_map_right_iff]
  exact same

theorem Parts.compactChars_eq
    {value other : Json} (parts : Parts value other) :
    compactChars value = compactChars other := by
  cases parts with
  | null | bool _ | int _ | str _ =>
      rfl
  | float same =>
      exact congrArg String.toList same
  | arr same =>
      rw [compactChars_arr, compactChars_arr, map_eq_of_forall₂ same]
  | obj same =>
      have texts : List.Forall₂ (fun one other =>
          fieldText one = fieldText other) _ _ :=
        same.imp fun one other alike => by rw [fieldText, fieldText, alike.1, alike.2]
      rw [compactChars_obj, compactChars_obj, map_eq_of_forall₂ texts]

theorem text_ne_decimal (number : Binary64) (value : Int) :
    (number.text numberNames).toList ≠ (Numeral.decimal value).toList := by
  intro same
  rcases (exists_text_float number).2.2 with ⟨c, member, sign, digit⟩
  rw [same] at member
  rcases Numeral.mem_decimal member with minus | also
  · exact sign minus
  · rw [also] at digit
    cases digit

theorem parts_of_tokens
    {value other : Json} (token : (shape value).isToken = true)
    (same : compactChars value = compactChars other) :
    Parts value other := by
  have opens : shape value = shape other :=
    @shape_eq_of_append value other [] [] (congrArg (· ++ []) same)
  cases value with
  | str _ | arr _ | obj _ =>
      cases token
  | null =>
      cases other with
      | null =>
          exact .null
      | bool _ | int _ | float _ | str _ | arr _ | obj _ =>
          cases opens
  | bool value =>
      cases other with
      | bool other =>
          cases opens
          exact .bool value
      | null | int _ | float _ | str _ | arr _ | obj _ =>
          cases opens
  | int value =>
      cases other with
      | int other =>
          exact Numeral.decimal_inj same ▸ .int value
      | float other =>
          exact absurd same.symm (text_ne_decimal other value)
      | null | bool _ | str _ | arr _ | obj _ =>
          cases opens
  | float value =>
      cases other with
      | float other =>
          exact .float (String.toList_inj.mp same)
      | int other =>
          exact absurd same (text_ne_decimal value other)
      | null | bool _ | str _ | arr _ | obj _ =>
          cases opens

/-!
## Values with something behind them
-/

/-- What a family of texts says is read off them wherever a delimiter follows. -/
def Tells {α : Type} (text : α → List Char) (R : α → α → Prop) (value : α) : Prop :=
  ∀ {other : α} {rest more : List Char}, Stops rest → Stops more →
    text value ++ rest = text other ++ more → R value other ∧ rest = more

theorem splits_of_token
    {value : Json} (token : (shape value).isToken = true) {rest : List Char} (stops : Stops rest) :
    Splits (fun c => !isStop c) (compactChars value ++ rest) (compactChars value) rest where
  whole := rfl
  inside := by
    intro c member
    rw [not_isStop_of_mem_token token member]
    rfl
  stop := by
    intro c first
    rw [stops c first]
    rfl

theorem tells_of_token
    {value : Json} (token : (shape value).isToken = true) :
    Tells compactChars Parts value := by
  intro other rest more stops also same
  have tokenOther : (shape other).isToken = true := shape_eq_of_append same ▸ token
  have one := splits_of_token token stops
  have two := splits_of_token tokenOther also
  rw [← same] at two
  exact ⟨parts_of_tokens token (one.takeWhile_eq.symm.trans two.takeWhile_eq),
    one.dropWhile_eq.symm.trans two.dropWhile_eq⟩

theorem stops_cons
    {c : Char} (stop : isStop c = true) (rest : List Char) :
    Stops (c :: rest) := by
  intro d first
  cases first
  exact stop

section

variable {α : Type} {text : α → List Char} {R : α → α → Prop} {close : Char}
  {rest more : List Char}

def following (text : α → List Char) (close : Char) (rest : List Char) : List α → List Char
  | [] => close :: rest
  | value :: values => ',' :: (text value ++ following text close rest values)

theorem intercalate_append (value : α) (values : List α) :
    List.intercalate [','] ((value :: values).map text) ++ close :: rest =
      text value ++ following text close rest values := by
  induction values generalizing value with
  | nil =>
      simp [following]
  | cons next values ih =>
      rw [following, ← ih next]
      simp [List.intercalate_cons_cons]

theorem stops_following
    (stop : isStop close = true) (values : List α) :
    Stops (following text close rest values) := by
  cases values with
  | nil =>
      exact stops_cons stop rest
  | cons value values =>
      exact stops_cons rfl _

theorem forall₂_of_following
    {values others : List α} (tells : ∀ value ∈ values, Tells text R value)
    (stop : isStop close = true) (apart : close ≠ ',')
    (same : following text close rest values = following text close more others) :
    List.Forall₂ R values others ∧ rest = more := by
  induction values generalizing others with
  | nil =>
      cases others with
      | nil =>
          exact ⟨.nil, (List.cons.inj same).2⟩
      | cons =>
          exact absurd (List.cons.inj same).1 apart
  | cons value values ih =>
      cases others with
      | nil =>
          exact absurd (List.cons.inj same).1.symm apart
      | cons other others =>
          rcases tells value List.mem_cons_self (stops_following stop values)
            (stops_following stop others) (List.cons.inj same).2 with ⟨here, tails⟩
          rcases ih (fun value member => tells value (List.mem_cons_of_mem _ member)) tails with
            ⟨later, behind⟩
          exact ⟨.cons here later, behind⟩

theorem forall₂_of_intercalate
    {values others : List α} (tells : ∀ value ∈ values, Tells text R value)
    (begins : ∀ value, ∃ c more, text value = c :: more ∧ isStop c = false)
    (stop : isStop close = true) (apart : close ≠ ',')
    (same : List.intercalate [','] (values.map text) ++ close :: rest =
      List.intercalate [','] (others.map text) ++ close :: more) :
    List.Forall₂ R values others ∧ rest = more := by
  -- An empty list goes on with the bracket, which no value begins with.
  have differs (value : α) (tail behind : List Char) : close :: behind ≠ text value ++ tail := by
    intro equal
    rcases begins value with ⟨c, _, written, solid⟩
    rw [written] at equal
    rw [← (List.cons.inj equal).1, stop] at solid
    cases solid
  cases values with
  | nil =>
      cases others with
      | nil =>
          exact ⟨.nil, (List.cons.inj same).2⟩
      | cons other others =>
          rw [intercalate_append] at same
          exact absurd same (differs other _ rest)
  | cons value values =>
      cases others with
      | nil =>
          rw [intercalate_append] at same
          exact absurd same.symm (differs value _ more)
      | cons other others =>
          rw [intercalate_append, intercalate_append] at same
          exact forall₂_of_following tells stop apart (congrArg (',' :: ·) same)

end

theorem exists_first (value : Json) :
    ∃ c more, compactChars value = c :: more ∧ isStop c = false := by
  rcases exists_opening value with ⟨c, more, written, opens⟩
  exact ⟨c, more, written, not_isStop_of_shapeOf? opens⟩

theorem tells_field
    {field : String × Json} (tells : Tells compactChars Parts field.2) :
    Tells fieldText (fun one other => one.1 = other.1 ∧ Parts one.2 other.2)
      field := by
  intro other rest more stops also same
  simp only [fieldText, List.append_assoc, List.cons_append] at same
  rcases Quoted.quote_append_inj same with ⟨key, tails⟩
  rcases tells stops also (List.cons.inj tails).2 with ⟨parts, behind⟩
  exact ⟨⟨key, parts⟩, behind⟩

theorem tells_parts (value : Json) :
    Tells compactChars Parts value := by
  induction value using membersInduction with
  | null | bool _ | int _ | float _ =>
      exact tells_of_token rfl
  | str text =>
      intro other rest more _ _ same
      have opens := shape_eq_of_append same
      cases other with
      | str other =>
          rcases Quoted.quote_append_inj same with ⟨rfl, behind⟩
          exact ⟨.str text, behind⟩
      | null | bool _ | int _ | float _ | arr _ | obj _ =>
          cases opens
  | arr items ih =>
      intro other rest more _ _ same
      have opens := shape_eq_of_append same
      cases other with
      | arr others =>
          rw [compactChars_arr, compactChars_arr] at same
          simp only [List.cons_append, List.append_assoc, List.cons.injEq, true_and,
            List.nil_append] at same
          rcases forall₂_of_intercalate ih exists_first rfl (by decide) same with ⟨parts, behind⟩
          exact ⟨.arr (parts.imp fun _ _ => Parts.compactChars_eq), behind⟩
      | null | bool _ | int _ | float _ | str _ | obj _ =>
          cases opens
  | obj fields ih =>
      intro other rest more _ _ same
      have opens := shape_eq_of_append same
      cases other with
      | obj others =>
          rw [compactChars_obj, compactChars_obj] at same
          simp only [List.cons_append, List.append_assoc, List.cons.injEq, true_and,
            List.nil_append] at same
          have begins (field : String × Json) :
              ∃ c more, fieldText field = c :: more ∧ isStop c = false :=
            ⟨'"', _, rfl, by decide⟩
          rcases forall₂_of_intercalate (fun field member => tells_field (ih field member)) begins
            rfl (by decide) same with ⟨parts, behind⟩
          exact ⟨.obj (parts.imp fun _ _ alike => ⟨alike.1, alike.2.compactChars_eq⟩), behind⟩
      | null | bool _ | int _ | float _ | str _ | arr _ =>
          cases opens

/-- Values with equal compact texts have equal parts. -/
theorem parts_of_compactChars
    {value other : Json} (same : compactChars value = compactChars other) :
    Parts value other := by
  have ends : Stops [] := nofun
  exact (tells_parts value ends ends (congrArg (· ++ []) same)).1

end Json
end WorkflowWalk
