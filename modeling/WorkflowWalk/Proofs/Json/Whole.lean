import WorkflowWalk.Proofs.Json.KeyOrder
import WorkflowWalk.Proofs.Text.Point

/-!
# Values without halves

A value has no half of a surrogate pair in it if none of its texts has, its keys counted among them.
The compact text of the value shows whether it has, and sorting the keys changes nothing about it.
-/

namespace WorkflowWalk

/-!
## Numbers
-/

namespace Text

theorem toNat_lt_of_isDigit
    {c : Char} (digit : c.isDigit = true) :
    c.toNat < 0x80 := by
  simp only [Char.isDigit, Bool.and_eq_true, decide_eq_true_eq, ge_iff_le] at digit
  have below : c.toNat ≤ 57 := UInt32.le_iff_toNat_le.mp digit.2
  omega

theorem ascii_decimal (n : Int) :
    Ascii (Numeral.decimal n) := by
  intro c member
  rcases Numeral.mem_decimal member with rfl | digit
  · decide
  · exact toNat_lt_of_isDigit digit

theorem toNat_lt_of_isNumeric
    {c : Char} (numeric : Binary64.IsNumeric c) :
    c.toNat < 0x80 := by
  rcases numeric with digit | mark
  · exact toNat_lt_of_isDigit digit
  · have each : ['.', 'e', '+', '-'].all (fun c => decide (c.toNat < 0x80)) = true := by
      decide
    exact of_decide_eq_true (List.all_eq_true.mp each c mark)

theorem ascii_sign (negative : Bool) :
    Ascii (if negative then "-" else "") := by
  cases negative <;> decide

theorem ascii_text
    {names : Binary64.Names} (nan : Ascii names.nan) (infinity : Ascii names.infinity)
    (number : Binary64) :
    Ascii (number.text names) := by
  cases number with
  | nan =>
      exact nan
  | infinite negative =>
      exact Ascii.append (ascii_sign negative) infinity
  | finite negative units =>
      rcases Binary64.exists_written names negative units with ⟨body, written, layout⟩
      intro c member
      rw [written, List.mem_append] at member
      rcases member with before | inside
      · exact ascii_sign negative c (by cases negative <;> exact before)
      · exact toNat_lt_of_isNumeric (layout.numeric c inside)

end Text

namespace Json

/-!
## Whole values
-/

mutual

/-- Whether no text in a value has half of a surrogate pair in it. -/
def whole : Json → Bool
  | .str text => decide (Text.Whole text)
  | .arr items => wholeItems items
  | .obj fields => wholeFields fields
  | _ => true

def wholeItems : List Json → Bool
  | [] => true
  | item :: rest => item.whole && wholeItems rest

def wholeFields : List (String × Json) → Bool
  | [] => true
  | (key, value) :: rest => decide (Text.Whole key) && value.whole && wholeFields rest

end

theorem whole_str
    {text : String} :
    (Json.str text).whole = true ↔ Text.Whole text :=
  decide_eq_true_iff

theorem whole_arr
    {items : List Json} :
    (Json.arr items).whole = true ↔ ∀ item ∈ items, item.whole = true := by
  rw [whole]
  induction items with
  | nil =>
      simp [wholeItems]
  | cons item rest ih =>
      simp [wholeItems, ih]

theorem whole_obj
    {fields : Fields} :
    (Json.obj fields).whole = true ↔
      ∀ field ∈ fields, Text.Whole field.1 ∧ field.2.whole = true := by
  rw [whole]
  induction fields with
  | nil =>
      simp [wholeFields]
  | cons field rest ih =>
      simp [wholeFields, ih]

theorem whole_sortKeys
    {value : Json} :
    value.sortKeys.whole = true ↔ value.whole = true := by
  induction value using membersInduction with
  | null | bool _ | int _ | float _ | str _ =>
      rfl
  | arr items ih =>
      rw [sortKeys_arr, whole_arr, whole_arr, List.forall_mem_map]
      exact forall₂_congr ih
  | obj fields ih =>
      rw [sortKeys_obj, whole_obj, whole_obj, List.forall_mem_map]
      simp only [List.mem_mergeSort]
      exact forall₂_congr fun field member => and_congr_right fun _ => ih field member

/-!
## Compact texts
-/

namespace Quoted

theorem allChars_escape
    {c : Char} (special : isPlain c = false) :
    Text.AllChars (escape c) := by
  have each : escaped.all (fun c => decide (Text.AllChars (escape c))) = true := by
    decide
  exact of_decide_eq_true (List.all_eq_true.mp each c (mem_escaped special))

theorem allChars_char
    {c : Char} (half : c ≠ Text.halfMark) (mark : c ≠ Text.charMark) :
    Text.AllChars (char c) := by
  cases plain : isPlain c with
  | true =>
      rw [char_of_plain plain]
      exact (Text.allChars_cons_of_plain half mark).mpr (by decide)
  | false =>
      rw [char_of_special plain]
      exact allChars_escape plain

theorem allChars_flatMap_char
    {cs : List Char} :
    Text.AllChars (cs.flatMap char) ↔ Text.AllChars cs := by
  induction cs using Text.points.induct with
  | case1 =>
      rfl
  | case2 c =>
      rw [List.flatMap_singleton]
      by_cases half : c = Text.halfMark
      · rw [half, char_of_plain (by decide)]
      by_cases mark : c = Text.charMark
      · rw [mark, char_of_plain (by decide)]
      · have alone : Text.AllChars [c] := (Text.allChars_cons_of_plain half mark).mpr (by decide)
        exact iff_of_true (allChars_char half mark) alone
  | case3 next rest _ =>
      rw [List.flatMap_cons, char_of_plain (by decide)]
      exact iff_of_false (Text.not_allChars_halfMark_cons _) (Text.not_allChars_halfMark_cons _)
  | case4 rest _ ih | case5 rest _ _ ih =>
      rw [List.flatMap_cons, List.flatMap_cons, char_of_plain (by decide),
        char_of_plain (by decide), List.singleton_append, List.singleton_append,
        Text.allChars_charMark_cons, Text.allChars_charMark_cons, ih]
  | case6 next rest half char _ _ =>
      have bare {sign : Char} {others : List Char} (one : sign ≠ Text.halfMarkSign)
          (other : sign ≠ Text.charMarkSign) :
          ¬Text.AllChars (Text.charMark :: sign :: others) := by
        rw [Text.allChars_charMark_cons]
        exact fun marked => marked.1.elim one other
      rw [List.flatMap_cons, List.flatMap_cons, char_of_plain (by decide), List.singleton_append]
      refine iff_of_false ?_ (bare half char)
      cases plain : isPlain next with
      | true =>
          rw [char_of_plain plain]
          exact bare half char
      | false =>
          rcases exists_escape next with ⟨code, written⟩
          rw [char_of_special plain, written]
          exact bare (by decide) (by decide)
  | case7 c next rest half char ih =>
      rw [List.flatMap_cons, Text.allChars_append_iff (allChars_char half char), ih,
        Text.allChars_cons_of_plain half char]

theorem allChars_quote
    {text : String} :
    Text.AllChars (quote text) ↔ Text.Whole text := by
  have empty : Text.AllChars [] := by decide
  rw [quote, List.cons_append, Text.allChars_cons_of_ascii (by decide),
    Text.allChars_append_cons_iff (by decide), and_iff_left empty, allChars_flatMap_char]
  rfl

end Quoted

theorem allChars_intercalate
    {texts : List (List Char)} :
    Text.AllChars (List.intercalate [','] texts) ↔ ∀ text ∈ texts, Text.AllChars text := by
  induction texts with
  | nil =>
      exact iff_of_true (by decide) (List.forall_mem_nil _)
  | cons text rest ih =>
      cases rest with
      | nil =>
          simp
      | cons next others =>
          rw [List.intercalate_cons_cons, List.append_assoc, List.singleton_append,
            Text.allChars_append_cons_iff (by decide), ih]
          exact List.forall_mem_cons.symm

/-- The compact text of a value shows whether the value has a half in it. -/
theorem allChars_compactChars
    {value : Json} :
    Text.AllChars (compactChars value) ↔ value.whole = true := by
  have empty : Text.AllChars [] := by decide
  induction value using membersInduction with
  | null =>
      decide
  | bool value =>
      cases value <;> decide
  | int value =>
      exact iff_of_true (Text.ascii_decimal value).whole rfl
  | float value =>
      exact iff_of_true (Text.ascii_text (by decide) (by decide) value).whole rfl
  | str text =>
      exact Quoted.allChars_quote.trans whole_str.symm
  | arr items ih =>
      rw [compactChars_arr, whole_arr, Text.allChars_cons_of_ascii (by decide),
        Text.allChars_append_cons_iff (by decide), and_iff_left empty, allChars_intercalate,
        List.forall_mem_map]
      exact forall₂_congr ih
  | obj fields ih =>
      rw [compactChars_obj, whole_obj, Text.allChars_cons_of_ascii (by decide),
        Text.allChars_append_cons_iff (by decide), and_iff_left empty, allChars_intercalate,
        List.forall_mem_map]
      refine forall₂_congr fun field member => ?_
      rw [fieldText, Text.allChars_append_cons_iff (by decide)]
      exact and_congr Quoted.allChars_quote (ih field member)

theorem whole_compact
    {value : Json} :
    Text.Whole value.compact ↔ value.whole = true := by
  rw [Text.Whole, compact, String.toList_ofList, allChars_compactChars]

end Json
end WorkflowWalk
