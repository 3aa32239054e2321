import WorkflowWalk.Proofs.Text.LetterCase
import WorkflowWalk.Text.Order
import WorkflowWalk.Text.Point

/-!
# Texts and the strings that keep them

What a string keeps is read off it again, so no two texts are kept as one string, and strings are in
the order of the code points that they keep. A text can be written in bytes exactly if it holds no
half of a surrogate pair, which is seen from the marks in its string.
-/

namespace WorkflowWalk
namespace Text

/-!
## Reading off
-/

theorem toNat_sign (which : Half) :
    which.sign.toNat = 0xE800 + which :=
  toNat_ofNat_of_valid (Or.inr (by omega))

theorem ofSign_sign (which : Half) :
    Half.ofSign which.sign = which := by
  apply Fin.ext
  rw [Half.ofSign, toNat_sign, Fin.val_ofNat]
  omega

theorem points_cons_of_plain
    {c : Char} (notHalf : c ≠ halfMark) (notChar : c ≠ charMark) (cs : List Char) :
    points (c :: cs) = .char c :: points cs := by
  cases cs with
  | nil =>
      show [if c = halfMark ∨ c = charMark then Point.half 0 else .char c] = _
      rw [if_neg (not_or_intro notHalf notChar), points]
  | cons next rest =>
      rw [points, if_neg notHalf, if_neg notChar]

theorem kept_of_plain
    {c : Char} (notHalf : c ≠ halfMark) (notChar : c ≠ charMark) :
    (Point.char c).kept = [c] := by
  rw [Point.kept, if_neg notHalf, if_neg notChar]

theorem points_kept_append (point : Point) (cs : List Char) :
    points (point.kept ++ cs) = point :: points cs := by
  cases point with
  | half which =>
      show points (halfMark :: which.sign :: cs) = _
      rw [points, if_pos rfl, ofSign_sign]
  | char c =>
      by_cases half : c = halfMark
      · subst half
        rfl
      by_cases char : c = charMark
      · subst char
        rfl
      · rw [kept_of_plain half char]
        exact points_cons_of_plain half char cs

/-- The code points of a text are read off the string that keeps it. -/
theorem points_flatMap_kept (ps : List Point) :
    points (ps.flatMap Point.kept) = ps := by
  induction ps with
  | nil =>
      rfl
  | cons point rest ih =>
      rw [List.flatMap_cons, points_kept_append, ih]

/-!
## Order
-/

def Point.code : Point → Nat
  | .char c => c.toNat
  | .half which => which.code

theorem char_lt_iff
    {c d : Char} :
    c < d ↔ c.toNat < d.toNat :=
  Char.lt_def.trans UInt32.lt_iff_toNat_lt

theorem toNat_lt_or_gt (c : Char) :
    c.toNat < 0xD800 ∨ 0xDFFF < c.toNat := by
  have valid : c.toNat.isValidChar := c.valid
  unfold Nat.isValidChar at valid
  omega

theorem code_injective
    {one other : Point} (same : one.code = other.code) :
    one = other := by
  have apart (c : Char) (which : Half) : c.toNat ≠ which.code := by
    have outside := toNat_lt_or_gt c
    unfold Half.code
    omega
  cases one with
  | char c =>
      cases other with
      | char d =>
          rw [Char.toNat_inj.mp same]
      | half which =>
          exact absurd same (apart c which)
  | half which =>
      cases other with
      | char d =>
          exact absurd same.symm (apart d which)
      | half another =>
          have equal : which = another := Fin.ext (Nat.add_left_cancel same)
          rw [equal]

theorem kept_cases (point : Point) :
    (∃ sign, point.kept = [halfMark, sign] ∧ 0xD800 ≤ point.code ∧ point.code ≤ 0xDFFF ∧
        sign.toNat = point.code + 0x1000) ∨
      (point.kept = [charMark, halfMarkSign] ∧ point.code = 0xE000) ∨
      (point.kept = [charMark, charMarkSign] ∧ point.code = 0xE001) ∨
      ∃ c, point.kept = [c] ∧ point.code = c.toNat ∧ (c.toNat < 0xD800 ∨ 0xE001 < c.toNat) := by
  cases point with
  | half which =>
      refine Or.inl ⟨which.sign, rfl, ?_⟩
      rw [toNat_sign]
      simp only [Point.code, Half.code]
      omega
  | char c =>
      by_cases half : c = halfMark
      · subst half
        exact Or.inr (Or.inl ⟨rfl, rfl⟩)
      by_cases char : c = charMark
      · subst char
        exact Or.inr (Or.inr (Or.inl ⟨rfl, rfl⟩))
      · have kept : (Point.char c).kept = [c] := kept_of_plain half char
        have notHalf : c.toNat ≠ 0xE000 := fun same => half (Char.toNat_inj.mp same)
        have notChar : c.toNat ≠ 0xE001 := fun same => char (Char.toNat_inj.mp same)
        have outside := toNat_lt_or_gt c
        exact Or.inr (Or.inr (Or.inr ⟨c, kept, rfl, by omega⟩))

/-- A code point that comes before another one is kept as characters that come before those of the
other one, whatever stands behind them. -/
theorem kept_append_lt
    {one other : Point} (below : one.code < other.code) (before after : List Char) :
    one.kept ++ before < other.kept ++ after := by
  have half : halfMark.toNat = 0xE000 := rfl
  have char : charMark.toNat = 0xE001 := rfl
  have halfSign : halfMarkSign.toNat = 0xE002 := rfl
  have charSign : charMarkSign.toNat = 0xE003 := rfl
  rcases kept_cases one with ⟨_, kept, _⟩ | ⟨kept, _⟩ | ⟨kept, _⟩ | ⟨_, kept, _⟩ <;>
  rcases kept_cases other with ⟨_, keptToo, _⟩ | ⟨keptToo, _⟩ | ⟨keptToo, _⟩ | ⟨_, keptToo, _⟩ <;>
  · simp only [kept, keptToo, List.cons_append, List.cons_lt_cons_iff, char_lt_iff, true_and]
    omega

theorem append_lt_append_iff
    (cs : List Char) {before after : List Char} :
    cs ++ before < cs ++ after ↔ before < after := by
  induction cs with
  | nil =>
      rfl
  | cons c rest ih =>
      rw [List.cons_append, List.cons_append, List.cons_lt_cons_iff, ih]
      simp

/-- The strings that keep two texts are in the order of the code points of the texts. -/
theorem flatMap_kept_lt_iff
    {ps qs : List Point} :
    ps.flatMap Point.kept < qs.flatMap Point.kept ↔ ps.map Point.code < qs.map Point.code := by
  induction ps generalizing qs with
  | nil =>
      cases qs with
      | nil =>
          simp
      | cons q rest =>
          rcases kept_cases q with ⟨_, kept, _⟩ | ⟨kept, _⟩ | ⟨kept, _⟩ | ⟨_, kept, _⟩ <;>
            simp [kept]
  | cons p rest ih =>
      cases qs with
      | nil =>
          simp
      | cons q others =>
          rw [List.flatMap_cons, List.flatMap_cons, List.map_cons, List.map_cons,
            List.cons_lt_cons_iff]
          rcases Nat.lt_trichotomy p.code q.code with below | same | above
          · exact iff_of_true (kept_append_lt below _ _) (Or.inl below)
          · rw [code_injective same, append_lt_append_iff, ih]
            simp
          · have later := kept_append_lt above (others.flatMap Point.kept) (rest.flatMap Point.kept)
            refine iff_of_false (List.lt_asymm later) ?_
            omega

theorem le_iff_codes
    {ps qs : List Point} :
    le (String.ofList (ps.flatMap Point.kept)) (String.ofList (qs.flatMap Point.kept)) = true ↔
      ¬qs.map Point.code < ps.map Point.code := by
  rw [le, Bool.not_eq_true', decide_eq_false_iff_not, String.lt_iff, String.toList_ofList,
    String.toList_ofList, flatMap_kept_lt_iff]

/-!
## Texts without halves
-/

/-- No code point that is kept is half of a surrogate pair. -/
def AllChars (cs : List Char) : Prop :=
  ∀ point ∈ points cs, point.isHalf = false

instance (cs : List Char) : Decidable (AllChars cs) :=
  List.decidableBAll (fun point : Point => point.isHalf = false) (points cs)

/-- No code point of a text is half of a surrogate pair. -/
def Whole (text : String) : Prop :=
  AllChars text.toList

instance (text : String) : Decidable (Whole text) :=
  inferInstanceAs (Decidable (AllChars text.toList))

theorem not_allChars_halfMark_cons (cs : List Char) :
    ¬AllChars (halfMark :: cs) := by
  intro all
  cases cs with
  | nil =>
      exact absurd (all (.half 0) List.mem_cons_self) (by decide)
  | cons next rest =>
      have half := all (.half (Half.ofSign next)) List.mem_cons_self
      cases half

theorem allChars_charMark_cons
    {next : Char} {rest : List Char} :
    AllChars (charMark :: next :: rest) ↔
      (next = halfMarkSign ∨ next = charMarkSign) ∧ AllChars rest := by
  have apart : charMark ≠ halfMark := by decide
  unfold AllChars
  rw [points, if_neg apart, if_pos rfl]
  split
  · simp [*]
  · split
    · simp [*]
    · simp [*]

theorem allChars_kept_append
    {c : Char} {cs : List Char} :
    AllChars ((Point.char c).kept ++ cs) ↔ AllChars cs := by
  unfold AllChars
  rw [points_kept_append, List.forall_mem_cons]
  exact and_iff_right rfl

theorem allChars_cons_of_plain
    {c : Char} (notHalf : c ≠ halfMark) (notChar : c ≠ charMark) {cs : List Char} :
    AllChars (c :: cs) ↔ AllChars cs := by
  have kept := @allChars_kept_append c cs
  rwa [kept_of_plain notHalf notChar] at kept

theorem not_mark_of_ascii
    {c : Char} (ascii : c.toNat < 0x80) :
    c ≠ halfMark ∧ c ≠ charMark ∧ c ≠ halfMarkSign ∧ c ≠ charMarkSign := by
  refine ⟨?_, ?_, ?_, ?_⟩
  all_goals
    rintro rfl
    exact absurd ascii (by decide)

theorem allChars_cons_of_ascii
    {c : Char} (ascii : c.toNat < 0x80) {cs : List Char} :
    AllChars (c :: cs) ↔ AllChars cs :=
  allChars_cons_of_plain (not_mark_of_ascii ascii).1 (not_mark_of_ascii ascii).2.1

def keptChars (chars : List Char) : List Char :=
  chars.flatMap fun c => (Point.char c).kept

theorem points_keptChars (chars : List Char) :
    points (keptChars chars) = chars.map .char := by
  rw [← points_flatMap_kept (chars.map .char), List.flatMap_map]
  rfl

theorem allChars_iff
    {cs : List Char} :
    AllChars cs ↔ ∃ chars, cs = keptChars chars := by
  constructor
  · intro all
    induction cs using points.induct with
    | case1 =>
        exact ⟨[], rfl⟩
    | case2 c =>
        by_cases half : c = halfMark
        · rw [half] at all
          exact absurd all (not_allChars_halfMark_cons [])
        by_cases char : c = charMark
        · rw [char] at all
          exact absurd all (by decide)
        · exact ⟨[c], (congrArg (· ++ []) (kept_of_plain half char)).symm⟩
    | case3 next rest _ =>
        exact absurd all (not_allChars_halfMark_cons _)
    | case4 rest _ ih =>
        rcases ih (allChars_charMark_cons.mp all).2 with ⟨chars, rfl⟩
        exact ⟨halfMark :: chars, rfl⟩
    | case5 rest _ _ ih =>
        rcases ih (allChars_charMark_cons.mp all).2 with ⟨chars, rfl⟩
        exact ⟨charMark :: chars, rfl⟩
    | case6 next rest half char _ _ =>
        rcases (allChars_charMark_cons.mp all).1 with same | same
        · exact absurd same half
        · exact absurd same char
    | case7 c next rest half char ih =>
        rcases ih ((allChars_cons_of_plain half char).mp all) with ⟨chars, same⟩
        refine ⟨c :: chars, ?_⟩
        rw [keptChars, List.flatMap_cons, kept_of_plain half char, same]
        rfl
  · rintro ⟨chars, rfl⟩
    unfold AllChars
    rw [points_keptChars, List.forall_mem_map]
    intro c _
    rfl

theorem allChars_append_iff
    {cs others : List Char} (all : AllChars cs) :
    AllChars (cs ++ others) ↔ AllChars others := by
  rcases allChars_iff.mp all with ⟨chars, rfl⟩
  clear all
  induction chars with
  | nil =>
      rfl
  | cons c rest ih =>
      rw [keptChars, List.flatMap_cons, List.append_assoc, allChars_kept_append]
      exact ih

theorem allChars_append_cons_iff
    {cs others : List Char} {first : Char} (ascii : first.toNat < 0x80) :
    AllChars (cs ++ first :: others) ↔ AllChars cs ∧ AllChars others := by
  rcases not_mark_of_ascii ascii with ⟨_, _, halfSign, charSign⟩
  rw [← @allChars_cons_of_ascii first ascii others]
  constructor
  · intro all
    have front : AllChars cs := by
      induction cs using points.induct with
      | case1 =>
          decide
      | case2 c =>
          by_cases half : c = halfMark
          · rw [half] at all
            exact absurd all (not_allChars_halfMark_cons _)
          by_cases char : c = charMark
          · rw [char] at all
            rcases (allChars_charMark_cons.mp all).1 with same | same
            · exact absurd same halfSign
            · exact absurd same charSign
          · exact (allChars_cons_of_plain half char).mpr (by decide)
      | case3 next rest _ =>
          exact absurd all (not_allChars_halfMark_cons _)
      | case4 rest _ ih =>
          exact allChars_charMark_cons.mpr ⟨Or.inl rfl, ih (allChars_charMark_cons.mp all).2⟩
      | case5 rest _ _ ih =>
          exact allChars_charMark_cons.mpr ⟨Or.inr rfl, ih (allChars_charMark_cons.mp all).2⟩
      | case6 next rest half char _ _ =>
          rcases (allChars_charMark_cons.mp all).1 with same | same
          · exact absurd same half
          · exact absurd same char
      | case7 c next rest half char ih =>
          exact (allChars_cons_of_plain half char).mpr
            (ih ((allChars_cons_of_plain half char).mp all))
    exact ⟨front, (allChars_append_iff front).mp all⟩
  · rintro ⟨front, behind⟩
    exact (allChars_append_iff front).mpr behind

theorem Whole.append
    {one other : String} (first : Whole one) (second : Whole other) :
    Whole (one ++ other) := by
  unfold Whole
  rw [String.toList_append]
  exact (allChars_append_iff first).mpr second

def Ascii (text : String) : Prop :=
  ∀ c ∈ text.toList, c.toNat < 0x80

instance (text : String) : Decidable (Ascii text) :=
  List.decidableBAll (fun c : Char => c.toNat < 0x80) text.toList

theorem Ascii.append
    {one other : String} (first : Ascii one) (second : Ascii other) :
    Ascii (one ++ other) := by
  intro c member
  rw [String.toList_append, List.mem_append] at member
  exact member.elim (first c) (second c)

theorem allChars_of_ascii
    {cs : List Char} (ascii : ∀ c ∈ cs, c.toNat < 0x80) :
    AllChars cs := by
  induction cs with
  | nil =>
      decide
  | cons c rest ih =>
      rw [List.forall_mem_cons] at ascii
      exact (allChars_cons_of_ascii ascii.1).mpr (ih ascii.2)

theorem Ascii.whole
    {text : String} (ascii : Ascii text) :
    Whole text :=
  allChars_of_ascii ascii

theorem characters_inj
    {one other : String} (first : Whole one) (second : Whole other) :
    characters one = characters other ↔ one = other := by
  constructor
  · intro same
    rcases allChars_iff.mp first with ⟨chars, kept⟩
    rcases allChars_iff.mp second with ⟨others, keptToo⟩
    rw [characters, characters, String.ofList_inj, kept, keptToo, points_keptChars,
      points_keptChars, List.map_map, List.map_map] at same
    have equal : chars = others := by
      simpa [Function.comp_def, Point.toChar] using same
    rw [← String.toList_inj, kept, keptToo, equal]
  · intro same
    rw [same]

theorem plain?_of_whole
    {text : String} (whole : Whole text) :
    plain? text = .ok (characters text) := by
  have none : unpaired? (points text.toList) = none := by
    refine if_neg ?_
    rw [List.any_eq_true]
    rintro ⟨point, member, half⟩
    rw [whole point member] at half
    cases half
  rw [plain?, none]

theorem plain?_of_not_whole
    {text : String} (broken : ¬Whole text) :
    ∃ unpaired, plain? text = .error unpaired := by
  have some : (points text.toList).any Point.isHalf = true := by
    simpa [Whole, AllChars] using broken
  rw [plain?, unpaired?, if_pos some]
  exact ⟨_, rfl⟩

end Text
end WorkflowWalk
