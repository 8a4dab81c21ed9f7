import CodeAudit.Proofs.Report.Words

/-!
The detailed list with and without styles. A terminal shows the text of a list with styles without the sequences
that stand in it, and this text is the list without styles: each piece of a line is itself again once the sequences
around it are gone, and no piece has a sequence of its own.
-/
namespace CodeAudit

namespace Terminal

mutual

/-- A text without its control sequences. -/
def visible : List Char → List Char
  | '\x1b' :: '[' :: rest => visibleBehind rest
  | c :: rest => c :: visible rest
  | [] => []

/-- What is seen behind the sequence that has begun: its numbers end at the first character from `@` to `~`. -/
def visibleBehind : List Char → List Char
  | c :: rest => if '@' ≤ c ∧ c ≤ '~' then visible rest else visibleBehind rest
  | [] => []

end

variable {t : List Char}

theorem visible_cons {c : Char} (other : c ≠ escape) (rest : List Char) : visible (c :: rest) = c :: visible rest := by
  rw [visible]
  exact fun _ same _ => other same

/-- What no sequence stands in is seen as it is, whatever follows it. -/
theorem visible_append (bare : escape ∉ t) (rest : List Char) : visible (t ++ rest) = t ++ visible rest := by
  induction t with
  | nil => rfl
  | cons c t ih =>
    have head : c ≠ escape := (List.ne_of_not_mem_cons bare).symm
    rw [List.cons_append, visible_cons head, ih (List.not_mem_of_not_mem_cons bare), List.cons_append]

theorem visible_reset (rest : List Char) : visible (reset ++ rest) = visible rest := by
  simp [reset, escape, visible, visibleBehind]

end Terminal

namespace Style

open Terminal

variable {t : List Char}

theorem visible_opening (s : Style) (rest : List Char) : visible (s.opening ++ rest) = visible rest := by
  cases s <;> simp [opening, code, escape, visible, visibleBehind]

theorem reopen_of_bare (s : Style) (bare : escape ∉ t) : s.reopen t = t := by
  induction t with
  | nil => rfl
  | cons c t ih =>
    have head : c ≠ escape := (List.ne_of_not_mem_cons bare).symm
    rw [reopen, ih (List.not_mem_of_not_mem_cons bare)]
    exact fun _ same _ => head same

/-- A text in a style is seen as it is. -/
theorem visible_paint (s : Style) (bare : escape ∉ t) (rest : List Char) :
    visible (s.paint true t ++ rest) = t ++ visible rest := by
  rw [paint, if_pos rfl, s.reopen_of_bare bare, List.append_assoc, List.append_assoc, visible_opening,
    visible_append bare, visible_reset]

end Style

open Terminal (escape visible visible_append)

/-- No sequence begins in what has no control characters. -/
theorem Json.Printable.escape_notMem {t : List Char} (printable : Json.Printable t) : Terminal.escape ∉ t :=
  fun member => absurd (printable Terminal.escape member) (by decide)

namespace DetailLine

/-- The texts that a line is put together from. -/
def texts : DetailLine → List String
  | heading label value => [label, value]
  | entry key value => [key, value]

/-- No sequence stands in the texts of a line. -/
def IsBare (line : DetailLine) : Prop :=
  ∀ s ∈ line.texts, escape ∉ s.toList
deriving Decidable

section Equations

variable (colors : Bool) (label key value : String)

theorem plain_heading : (heading label value).plain =
    if value.toList.isEmpty then label.toList ++ [':'] else label.toList ++ ": ".toList ++ value.toList :=
  rfl

theorem plain_entry : (entry key value).plain = "  - ".toList ++ key.toList ++ ": ".toList ++ value.toList :=
  rfl

theorem highlighted_heading : (heading label value).highlighted colors =
    if value.toList.isEmpty then Style.bold.paint colors (label.toList ++ [':'])
    else Style.bold.paint colors (label.toList ++ [':']) ++ ' ' :: Style.cyan.paint colors value.toList :=
  rfl

theorem highlighted_entry : (entry key value).highlighted colors =
    "  - ".toList ++ Style.dimmed.paint colors key.toList ++ ": ".toList ++ value.toList :=
  rfl

end Equations

theorem highlighted_false (line : DetailLine) : line.highlighted false = line.plain := by
  cases line with
  | heading label value =>
    by_cases empty : value.toList.isEmpty <;> simp [highlighted_heading, plain_heading, Style.paint, empty]
  | entry key value => simp [highlighted_entry, plain_entry, Style.paint]

/-- A line with styles is seen as the line without them, whatever follows it. -/
theorem visible_highlighted {line : DetailLine} (bare : line.IsBare) (rest : List Char) :
    visible (line.highlighted true ++ rest) = line.plain ++ visible rest := by
  cases line with
  | heading label value =>
    have label_bare : escape ∉ label.toList ++ [':'] := by
      simpa [escape] using bare label (by simp [texts])
    have value_bare : escape ∉ value.toList := bare value (by simp [texts])
    by_cases empty : value.toList.isEmpty
    · rw [highlighted_heading, plain_heading, if_pos empty, if_pos empty, Style.visible_paint _ label_bare]
    · rw [highlighted_heading, plain_heading, if_neg empty, if_neg empty, List.append_assoc,
        Style.visible_paint _ label_bare, List.cons_append, Terminal.visible_cons (by decide),
        Style.visible_paint _ value_bare]
      simp
  | entry key value =>
    have key_bare : escape ∉ key.toList := bare key (by simp [texts])
    have value_bare : escape ∉ ": ".toList ++ value.toList := by
      simpa [escape] using bare value (by simp [texts])
    rw [highlighted_entry, plain_entry, List.append_assoc, List.append_assoc, List.append_assoc,
      visible_append (by decide), Style.visible_paint _ key_bare, ← List.append_assoc ": ".toList,
      visible_append value_bare]
    simp

theorem visible_unlines {lines : List DetailLine} (bare : ∀ line ∈ lines, line.IsBare) :
    visible (Text.unlines (lines.map (highlighted true))) = Text.unlines (lines.map plain) := by
  induction lines with
  | nil => rfl
  | cons line lines ih =>
    obtain ⟨head, tail⟩ := List.forall_mem_cons.mp bare
    rw [Text.unlines, Text.unlines, List.map_cons, List.map_cons, List.flatMap_cons, List.flatMap_cons,
      List.append_assoc, visible_highlighted head, List.singleton_append, Terminal.visible_cons (by decide),
      ← Text.unlines, ih tail]
    simp [Text.unlines]

end DetailLine

/-- No sequence stands in the texts of a platform. -/
def Platform.IsBare (p : Platform) : Prop :=
  ∀ s ∈ [p.version, p.implementation, p.system, p.architecture, p.encoding], escape ∉ s.toList
deriving Decidable

namespace Bundle

theorem isBare_details {name : String} {b : Bundle} (bare : escape ∉ name.toList) (platform : b.platform.IsBare) :
    ∀ line ∈ b.details name, line.IsBare := by
  have number (n : Nat) : '\x1b' ∉ Nat.toDigits 10 n := (Json.printable_digits n).escape_notMem
  have patterns : '\x1b' ∉ b.report.patternSet.toList := b.report.printable_patternSet.escape_notMem
  have headings : ∀ line ∈ [DetailLine.heading "Function" name, .heading "Complexity" (toString b.complexity),
      .heading "Anti-pattern analysis" ""], line.IsBare := by
    simpa [DetailLine.IsBare, DetailLine.texts, number, escape] using bare
  have findings : ∀ e ∈ b.report.entries, (DetailLine.entry e.1 e.2).IsBare := by
    simp [Report.entries, DetailLine.IsBare, DetailLine.texts, patterns, number, escape]
  have heading : (DetailLine.heading "System compatibility" "").IsBare := by decide
  have facts : ∀ e ∈ b.platform.entries, (DetailLine.entry e.1 e.2).IsBare := by
    simpa [Platform.entries, DetailLine.IsBare, DetailLine.texts, number, escape, Platform.IsBare] using platform
  refine List.forall_mem_append.mpr ⟨List.forall_mem_append.mpr ⟨headings, ?_⟩, List.forall_mem_cons.mpr ⟨heading, ?_⟩⟩
  · exact List.forall_mem_map.mpr findings
  · exact List.forall_mem_map.mpr facts

/-- Both renderings carry the same text, as a whole and line by line: where styles are not shown the list with styles
is the one without them, and where they are shown it is seen as the one without them. -/
theorem renderings_carry_same_text {name : String} {b : Bundle} (bare : escape ∉ name.toList)
    (platform : b.platform.IsBare) :
    b.renderHighlighted false name = b.renderPlain name ∧
      visible (b.renderHighlighted true name) = b.renderPlain name ∧
      ∀ line ∈ b.details name, line.highlighted false = line.plain ∧ visible (line.highlighted true) = line.plain := by
  have lines := isBare_details bare platform
  refine ⟨?_, DetailLine.visible_unlines lines, fun line member => ⟨line.highlighted_false, ?_⟩⟩
  · rw [renderHighlighted, renderPlain, funext DetailLine.highlighted_false]
  · simpa [visible] using DetailLine.visible_highlighted (lines line member) []

/-- A name of two lines, and a report with two patterns. -/
theorem renderings_carry_same_text_of_two_lines :
    let b : Bundle := ⟨12, ⟨.ofList [.globalVariable, .deepNesting], 4, 6⟩, .current⟩
    let name := "first\n  - second: [0m"
    escape ∉ name.toList ∧ b.platform.IsBare ∧ b.renderHighlighted true name ≠ b.renderPlain name ∧
      visible (b.renderHighlighted true name) = b.renderPlain name := by
  intro b name
  have bare : escape ∉ name.toList := by decide
  have platform : b.platform.IsBare := by decide
  exact ⟨bare, platform, by decide, (renderings_carry_same_text bare platform).2.1⟩

end Bundle
end CodeAudit
