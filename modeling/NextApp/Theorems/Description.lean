import NextApp.Model.Description

/-! # What a description is shown as

The pass over the newlines does its work in any text. The rest depends on the `<p>` that nested tags leave behind: what is
shown then is what stands between it and the next `</p`. -/

namespace NextApp
open TextSearch
variable {text a b c d : Text}

def paragraph : Text := codeUnits "<p>"

def paragraphEnd : Text := codeUnits "</p"

/-- A text without empty lines that does not end in a new one. -/
structure Normal (text : Text) : Prop where
  spaced : ¬ [newline, newline] <:+: text
  last : text.getLast? ≠ some newline

/-- The first `<p>` that is left once the tags are replaced comes before every `</p`, and the next `</p` does not stand right
    after a new line. -/
def Paired (text : Text) : Prop :=
  ∀ a b, cut paragraph (replaceTags text) = some (a, b) →
    cut paragraphEnd a = none ∧ ∃ c d, cut paragraphEnd b = some (c, d) ∧ c.getLast? ≠ some newline

theorem paragraph_eq : paragraph = [60, 112, 62] := rfl

theorem paragraphEnd_eq : paragraphEnd = [60, 47, 112] := rfl

theorem newline_not_mem : newline ∉ paragraph ∧ newline ∉ paragraphEnd := by
  simp [paragraph_eq, paragraphEnd_eq, newline]

theorem pattern_ne_nil : paragraph ≠ [] ∧ paragraphEnd ≠ [] := by
  simp [paragraph_eq, paragraphEnd_eq]

theorem normal_collapse (text : Text) : Normal (collapse newline text) :=
  ⟨collapse_spaced newline text, getLast?_collapse newline text⟩

theorem normal_squash_iff : Normal (squash newline text) ↔ text.getLast? ≠ some newline := by
  rw [← getLast?_squash newline text]
  exact ⟨Normal.last, fun h => ⟨squash_spaced newline text, h⟩⟩

theorem cut_paragraphEnd_paragraph (b : Text) :
    cut paragraphEnd (paragraph ++ b) = (cut paragraphEnd b).map fun z => (paragraph ++ z.1, z.2) := by
  have hfirst : ¬ paragraphEnd <+: 60 :: 112 :: 62 :: b := by simp [paragraphEnd_eq]
  have hsecond : ¬ paragraphEnd <+: 112 :: 62 :: b := by simp [paragraphEnd_eq]
  have hthird : ¬ paragraphEnd <+: 62 :: b := by simp [paragraphEnd_eq]
  rw [paragraph_eq, List.cons_append, List.cons_append, List.cons_append, List.nil_append, cut_cons hfirst, cut_cons hsecond,
    cut_cons hthird, Option.map_map, Option.map_map]
  rfl

/-- Nor across the beginning of one: a `</p` stands before a `<p>`, or after it. -/
theorem cut_paragraphEnd (a b : Text) :
    cut paragraphEnd (a ++ (paragraph ++ b)) =
      match cut paragraphEnd a with
      | some (c, d) => some (c, d ++ (paragraph ++ b))
      | none => (cut paragraphEnd b).map fun z => (a ++ (paragraph ++ z.1), z.2) := by
  have hhead : (60 : UInt16) ∉ paragraphEnd.tail := by simp [paragraphEnd_eq]
  have hacross := cut_append_cons hhead a (112 :: 62 :: b)
  have hparagraph : (60 : UInt16) :: 112 :: 62 :: b = paragraph ++ b := rfl
  rw [hparagraph] at hacross
  rw [hacross, cut_paragraphEnd_paragraph, Option.map_map]
  cases cut paragraphEnd a with
  | none => rfl
  | some parts => rfl

theorem formatDescription_some (tr : String → Text) (text : Text) :
    formatDescription tr (some text) =
      if contains paragraph (collapse newline (replaceTags text)) then
        substring (collapse newline (replaceTags text)) (indexOf paragraph (collapse newline (replaceTags text)) + 3)
          (indexOf paragraphEnd (collapse newline (replaceTags text)))
      else some (collapse newline (replaceTags text)) := rfl

theorem formatDescription_of_none (tr : String → Text) (h : cut paragraph (replaceTags text) = none) :
    formatDescription tr (some text) = some (collapse newline (replaceTags text)) := by
  have hcut := cut_collapse newline_not_mem.1 (replaceTags text)
  rw [h] at hcut
  rw [formatDescription_some, contains, hcut]
  rfl

/-- What is shown of a text in which a `<p>` is left. -/
theorem formatDescription_of_cut (tr : String → Text) (h : cut paragraph (replaceTags text) = some (a, b)) :
    formatDescription tr (some text) =
      if cut paragraphEnd a = none then (cut paragraphEnd b).map fun z => squash newline z.1 else none := by
  have hstart := cut_collapse newline_not_mem.1 (replaceTags text)
  have hend := cut_collapse newline_not_mem.2 (replaceTags text)
  have hlength : paragraph.length = 3 := rfl
  rw [h] at hstart
  rw [formatDescription_some, if_pos (contains_of_cut hstart), indexOf_of_cut hstart]
  rw [← append_of_cut h, cut_paragraphEnd] at hend
  rw [← append_of_cut h]
  cases hbefore : cut paragraphEnd a with
  | some parts =>
    obtain ⟨c, d⟩ := parts
    rw [hbefore] at hend
    have hle : (squash newline c).length ≤ (squash newline a).length := by
      rw [← append_of_cut hbefore, squash_append_pattern newline_not_mem.2 pattern_ne_nil.2, List.length_append]
      exact Nat.le_add_right _ _
    rw [indexOf_of_cut hend]
    exact substring_of_lt (by simp only; omega) _
  | none =>
    rw [hbefore] at hend
    cases hafter : cut paragraphEnd b with
    | none =>
      rw [hafter] at hend
      rw [indexOf_of_none hend]
      refine substring_of_lt ?_ _
      omega
    | some parts =>
      obtain ⟨c, d⟩ := parts
      rw [hafter] at hend
      have htext := append_of_cut hend
      have hsub := substring_append (squash newline a ++ paragraph) (squash newline c) (paragraphEnd ++ collapse newline d)
      have hplace : (squash newline (a ++ (paragraph ++ c))).length =
          (squash newline a).length + 3 + (squash newline c).length := by
        rw [squash_append_pattern newline_not_mem.1 pattern_ne_nil.1, List.length_append, List.length_append, hlength]
        omega
      rw [squash_append_pattern newline_not_mem.1 pattern_ne_nil.1] at htext
      rw [List.length_append, hlength, List.append_assoc] at hsub
      rw [indexOf_of_cut hend, hplace, ← htext, if_pos rfl]
      simp only [List.append_assoc, Int.natCast_add] at hsub ⊢
      exact hsub

/-- The description of a text is shown, without empty lines and without a last new one. -/
def ShowsNormal (tr : String → Text) (text : Text) : Prop :=
  ∃ shown, formatDescription tr (some text) = some shown ∧ Normal shown

theorem showsNormal_iff (tr : String → Text) (text : Text) : ShowsNormal tr text ↔ Paired text := by
  rw [ShowsNormal, Paired]
  cases hcut : cut paragraph (replaceTags text) with
  | none =>
    refine iff_of_true ⟨_, formatDescription_of_none tr hcut, normal_collapse _⟩ ?_
    intro a b hnone
    cases hnone
  | some parts =>
    obtain ⟨a, b⟩ := parts
    rw [formatDescription_of_cut tr hcut]
    constructor
    · rintro ⟨shown, hshown, hnormal⟩ _ _ ⟨⟩
      obtain ⟨hbefore, hshown⟩ := Option.ite_none_right_eq_some.mp hshown
      obtain ⟨⟨c, d⟩, hafter, rfl⟩ := Option.map_eq_some_iff.mp hshown
      exact ⟨hbefore, c, d, hafter, normal_squash_iff.mp hnormal⟩
    · intro h
      obtain ⟨hbefore, c, d, hafter, hlast⟩ := h a b rfl
      rw [if_pos hbefore, hafter]
      exact ⟨_, rfl, normal_squash_iff.mpr hlast⟩

/-! ### Texts without nested tags -/

/-- No tag begins right after a `<` or a `<p`. -/
def Flat (text : Text) : Prop := ¬ [60, 60] <:+: text ∧ ¬ [60, 112, 60] <:+: text

theorem unbroken_of_flat (h : Flat text) {r : Text} (hr : r = [60, 60] ∨ r = [60, 112, 60] ∨ r = paragraph) :
    Unbroken 60 r text := by
  intro k hk hlt
  rcases hr with rfl | rfl | rfl
  · obtain rfl : k = 1 := by simp at hlt; omega
    exact h.1
  · obtain rfl | rfl : k = 1 ∨ k = 2 := by simp at hlt; omega
    · exact h.1
    · exact h.2
  · obtain rfl | rfl : k = 1 ∨ k = 2 := by simp [paragraph_eq] at hlt; omega
    · exact h.1
    · exact h.2

theorem flat_replaceAll {p q : Text} (h : Flat text) (hp : p.head? = some 60) (hq : ∀ d ∈ q, d = newline) :
    Flat (replaceAll text p q) := by
  have hnew {r : Text} (hr : newline ∉ r) : ∀ d ∈ q, d ∉ r := fun d hd => hq d hd ▸ hr
  exact ⟨fun hin => h.1 (infix_of_replaceFrom hp (hnew (by simp [newline])) (unbroken_of_flat h (.inl rfl)) hin),
    fun hin => h.2 (infix_of_replaceFrom hp (hnew (by simp [newline])) (unbroken_of_flat h (.inr (.inl rfl))) hin)⟩

/-- The `<p>` are all taken out, and the passes before and after make none. -/
theorem not_infix_replaceTags (h : Flat text) : ¬ paragraph <:+: replaceTags text := by
  have hempty : ∀ d ∈ ([] : Text), d = newline := fun d hd => absurd hd List.not_mem_nil
  have hline : ∀ d ∈ [newline], d = newline := fun d hd => List.mem_singleton.mp hd
  have hdiv : Flat (if contains (codeUnits "<div class=\"ql-editor read-mode\">") text then
      replaceAll (replaceAll text (codeUnits "<div class=\"ql-editor read-mode\">") []) (codeUnits "</div>") []
      else text) := by
    split
    · exact flat_replaceAll (flat_replaceAll h rfl hempty) rfl hempty
    · exact h
  have hbreak := flat_replaceAll (p := codeUnits "<br>") (flat_replaceAll (p := codeUnits "<br>") hdiv rfl hline) rfl hline
  have hparagraph := not_infix_replaceFrom (p := paragraph) (q := []) (n := 0) rfl (by simp)
    (unbroken_of_flat hbreak (.inr (.inr rfl)))
  have hflat := flat_replaceAll (p := paragraph) hbreak rfl hempty
  intro hin
  refine hparagraph (infix_of_replaceFrom (p := codeUnits "</p>") rfl ?_ (unbroken_of_flat hflat (.inr (.inr rfl))) hin)
  exact fun d hd => hline d hd ▸ newline_not_mem.1

/-- A text without nested tags is paired, whatever else it holds. -/
theorem paired_of_flat (h : Flat text) : Paired text := by
  intro a b hcut
  rw [cut_eq_none (not_infix_replaceTags h)] at hcut
  cases hcut

/-- The description of a text is shown, without empty lines and without a last new one, exactly when the `<p>` that are left
    in it once its tags are replaced are paired; so is that of every text in which no tag begins within another. -/
theorem formatDescription_normal_iff (tr : String → Text) (text : Text) :
    (ShowsNormal tr text ↔ Paired text) ∧ (Flat text → ShowsNormal tr text) :=
  ⟨showsNormal_iff tr text, fun h => (showsNormal_iff tr text).mpr (paired_of_flat h)⟩

/-- Nested tags leave a `<p>` without an end, and one whose end comes after a new line. -/
theorem formatDescription_not_normal :
    ¬ (∀ tr text, ShowsNormal tr text) ∧
    formatDescription (fun _ => []) (some (codeUnits "<<p>p>")) = none ∧
    formatDescription (fun _ => []) (some (codeUnits "<<p>p>a\n</p b")) = some (codeUnits "a\n") := by
  have hthrows : formatDescription (fun _ => []) (some (codeUnits "<<p>p>")) = none := by decide
  refine ⟨fun h => ?_, hthrows, by decide⟩
  obtain ⟨shown, hshown, -⟩ := h (fun _ => []) (codeUnits "<<p>p>")
  rw [hthrows] at hshown
  cases hshown

end NextApp
